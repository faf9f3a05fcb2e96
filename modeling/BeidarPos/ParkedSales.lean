import BeidarPos.DatabaseExport
import BeidarPos.Interleaving

/-! Parked carts that several terminals retrieve and delete at the same time. A retrieval
reads the cart and then deletes it, in two statements, and does not look at how many rows
the deletion found. -/
namespace BeidarPos

open Relational Interleaving

abbrev ParkedSales := Serial ParkedSale.id

/-- What a new parked cart is made of. -/
structure ParkInput where
  itemsJSON : String
  customerName : String
  customerID : String
  note : String
  total : Int
  itemsCount : ℚ

/-- A call where it stands: what it still has to do, or what it returned. -/
inductive ParkedCall where
  | parkSale (input : ParkInput)
  | parked (sale : ParkedSale)
  | retrieveParkedSale (id : Nat)
  | deleting (sale : ParkedSale)
  | retrieved (result : Except Failure ParkedSale)
  | deleteParkedSale (id : Nat)
  | deleted

def ParkInput.toParkedSale (input : ParkInput) (now : Int) (id : Nat) : ParkedSale :=
  ⟨id, input.itemsJSON, input.customerName, input.customerID, input.note, input.total, input.itemsCount, now⟩

namespace ParkedSales

variable {t : ParkedSales}

/-- `DELETE ... WHERE id = ?`, which succeeds whether or not the row is there. -/
def delete (t : ParkedSales) (id : Nat) : ParkedSales := t.filter (fun row => row.id ≠ id)

/-- 1 while the cart is parked, 0 when it is not. -/
def holds (t : ParkedSales) (id : Nat) : Nat := if (t.find? id).isSome then 1 else 0

theorem delete_find {id other : Nat} :
    (t.delete id).find? other = (t.find? other).filter (fun row => row.id ≠ id) := Table.find?_filter

theorem holds_delete_le (id other : Nat) : (t.delete id).holds other ≤ t.holds other := by
  unfold holds
  rw [delete_find]
  cases t.find? other with
  | none => exact le_refl _
  | some row =>
    rw [Option.filter_some]
    split <;> simp

theorem holds_delete_self (id : Nat) : (t.delete id).holds id = 0 := by
  unfold holds
  rw [delete_find]
  cases before : t.find? id with
  | none => rfl
  | some row => simp [Table.find?_key before]

end ParkedSales

/-- The next statement of a call. -/
def ParkedCall.step (now : Int) : ParkedCall → ParkedSales → ParkedCall × ParkedSales
  | .parkSale input, t =>
    (.parked (input.toParkedSale now (t.seq + 1)), t.append (input.toParkedSale now) (fun _ => rfl))
  | .retrieveParkedSale id, t =>
    match t.find? id with
    | none => (.retrieved (.error .recordNotFound), t)
    | some sale => (.deleting sale, t)
  | .deleting sale, t => (.retrieved (.ok sale), t.delete sale.id)
  | .deleteParkedSale id, t => (.deleted, t.delete id)
  | call, t => (call, t)

/-- A world of these calls: the parked carts and the calls under way. -/
abbrev ParkedWorld := World ParkedSales ParkedCall

/-- 1 for a retrieval that returned the cart without error, 0 for any other call. -/
def ParkedCall.won (id : Nat) : ParkedCall → Nat
  | .retrieved (.ok sale) => if sale.id = id then 1 else 0
  | _ => 0

/-- How many retrievals returned the cart without error. -/
def retrievals (id : Nat) (w : ParkedWorld) : Nat := total (ParkedCall.won id) w.calls

/-- The deletion of a retrieval finds the row its own first statement read. -/
def DeletesItsRow (_ : Turn Int) (call : ParkedCall) (w : ParkedWorld) : Prop :=
  ∀ sale, call = .deleting sale → (w.state.find? sale.id).isSome

instance (turn : Turn Int) (call : ParkedCall) (w : ParkedWorld) : Decidable (DeletesItsRow turn call w) :=
  match call with
  | .deleting sale => decidable_of_iff (w.state.find? sale.id).isSome
      ⟨fun there _ same => ParkedCall.deleting.inj same ▸ there, fun all => all sale rfl⟩
  | .parkSale _ | .parked _ | .retrieveParkedSale _ | .retrieved _ | .deleteParkedSale _ | .deleted =>
    isTrue (fun _ same => by cases same)

/-- A call before its first statement. -/
def ParkedCall.begins : ParkedCall → Bool
  | .parkSale _ | .retrieveParkedSale _ | .deleteParkedSale _ => true
  | _ => false

def ParkedWorld.Starting (w : ParkedWorld) : Prop := ∀ call ∈ w.calls, call.begins = true

instance (w : ParkedWorld) : Decidable w.Starting := inferInstanceAs (Decidable (∀ call ∈ w.calls, call.begins = true))

/-- The cart is parked or was handed out, never both, and once only; a cart that is not
numbered yet was not handed out. -/
structure ParkedWorld.Sound (id : Nat) (w : ParkedWorld) : Prop where
  once : retrievals id w + w.state.holds id ≤ 1
  numbered : w.state.seq < id → retrievals id w = 0

theorem starting_sound {w : ParkedWorld} (starting : w.Starting) (id : Nat) : w.Sound id := by
  have none : retrievals id w = 0 := by
    refine List.sum_eq_zero fun n member => ?_
    obtain ⟨call, under, rfl⟩ := List.mem_map.mp member
    have begins := starting call under
    cases call with
    | parkSale input => rfl
    | retrieveParkedSale wanted => rfl
    | deleteParkedSale wanted => rfl
    | _ => cases begins
  refine ⟨?_, fun _ => none⟩
  rw [none, ParkedSales.holds]
  split <;> omega

/-- What one statement can do to the count of a cart's retrievals and to its row. -/
theorem ParkedCall.step_counts (id : Nat) (now : Int) (call : ParkedCall) (t : ParkedSales) :
    ((call.step now t).1.won id + (call.step now t).2.holds id ≤ call.won id + t.holds id ∧
      (call.step now t).2.seq = t.seq ∧ (call.step now t).1.won id = call.won id) ∨
    ((call.step now t).1.won id = call.won id ∧ (call.step now t).2.seq = t.seq + 1 ∧
      (call.step now t).2.holds id ≤ if id = t.seq + 1 then 1 else t.holds id) ∨
    (∃ sale, call = .deleting sale ∧ sale.id = id ∧ (call.step now t).1.won id = call.won id + 1 ∧
      (call.step now t).2.holds id = 0 ∧ (call.step now t).2.seq = t.seq) := by
  cases call with
  | parkSale input =>
    refine .inr (.inl ⟨rfl, rfl, ?_⟩)
    have found := @Serial.find?_append _ ParkedSale.id t (input.toParkedSale now) (fun _ => rfl) id
    simp only [step, ParkedSales.holds, found]
    split <;> simp_all
  | retrieveParkedSale wanted =>
    refine .inl ?_
    simp only [step]
    split <;> exact ⟨le_refl _, rfl, rfl⟩
  | deleting sale =>
    rcases eq_or_ne sale.id id with same | different
    · refine .inr (.inr ⟨sale, rfl, same, ?_, ?_, rfl⟩)
      · simp [step, won, same]
      · rw [← same]
        exact ParkedSales.holds_delete_self sale.id
    · have fewer := ParkedSales.holds_delete_le (t := t) sale.id id
      refine .inl ⟨?_, rfl, ?_⟩
      · simpa [step, won, different] using fewer
      · simp [step, won, different]
  | deleteParkedSale wanted =>
    have fewer := ParkedSales.holds_delete_le (t := t) wanted id
    exact .inl ⟨by simpa [step, won] using fewer, rfl, rfl⟩
  | parked sale => exact .inl ⟨le_refl _, rfl, rfl⟩
  | retrieved result => exact .inl ⟨le_refl _, rfl, rfl⟩
  | deleted => exact .inl ⟨le_refl _, rfl, rfl⟩

theorem step_sound {id : Nat} {w : ParkedWorld} {turn : Turn Int} {call : ParkedCall} (sound : w.Sound id)
    (here : w.calls[turn.call]? = some call) (finds : DeletesItsRow turn call w) :
    ParkedWorld.Sound id ⟨(call.step turn.env w.state).2, w.calls.set turn.call (call.step turn.env w.state).1⟩ := by
  obtain ⟨rest, counted⟩ := others here
  obtain ⟨before, after⟩ := counted (ParkedCall.won id)
  have after := after (call.step turn.env w.state).1
  obtain ⟨once, numbered⟩ := sound
  rcases call.step_counts id turn.env w.state with ⟨fewer, seq, won⟩ | ⟨won, seq, parked⟩ | ⟨sale, rfl, same, won, gone, seq⟩
  · refine ⟨?_, fun beyond => ?_⟩
    · simp only [retrievals] at *
      omega
    · have := numbered (seq ▸ beyond)
      simp only [retrievals] at *
      omega
  · refine ⟨?_, fun beyond => ?_⟩
    · simp only [retrievals] at *
      split at parked
      · next fresh =>
        have := numbered (by omega)
        omega
      · omega
    · have := numbered (by rw [seq] at beyond; omega)
      simp only [retrievals] at *
      omega
  · -- the row was there, so nobody had been given the cart before
    have there := finds sale rfl
    rw [same] at there
    have held : w.state.holds id = 1 := if_pos there
    refine ⟨?_, fun beyond => ?_⟩
    · simp only [retrievals] at *
      omega
    · rw [seq] at beyond
      rw [Serial.find?_beyond beyond] at there
      cases there

/-- A cart is handed out at most once in every schedule in which each retrieval's
deletion still finds the row. -/
theorem parked_sale_retrieved_once (id : Nat) (w : ParkedWorld) (starting : w.Starting) (schedule : List (Turn Int))
    (finds : Meets ParkedCall.step DeletesItsRow schedule w) :
    retrievals id (run ParkedCall.step schedule w) ≤ 1 := by
  have sound : ParkedWorld.Sound id (run ParkedCall.step schedule w) :=
    run_keeps _ (fun _ _ _ before here allowed => step_sound before here allowed) (starting_sound starting id) finds
  have := sound.once
  omega

/-- One parked cart and two terminals that retrieve it. -/
def twoTerminals : ParkedWorld :=
  ⟨Serial.append .empty (fun n => ⟨n, "[]", "", "", "", 1500, 1, 1⟩) (fun _ => rfl),
    [.retrieveParkedSale 1, .retrieveParkedSale 1]⟩

theorem retrieved_in_turn : retrievals 1 (run ParkedCall.step [⟨0, 0⟩, ⟨0, 0⟩, ⟨1, 0⟩] twoTerminals) ≤ 1 :=
  parked_sale_retrieved_once 1 twoTerminals (by decide) [⟨0, 0⟩, ⟨0, 0⟩, ⟨1, 0⟩] (by decide +kernel)

/-- Both terminals read the cart before either deletes it, and both are given it. -/
theorem parked_sale_retrieved_twice :
    twoTerminals.Starting ∧
      retrievals 1 (run ParkedCall.step [⟨0, 0⟩, ⟨1, 0⟩, ⟨0, 0⟩, ⟨1, 0⟩] twoTerminals) = 2 := by
  decide +kernel

end BeidarPos
