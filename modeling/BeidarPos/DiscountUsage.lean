import BeidarPos.Discounts
import BeidarPos.Interleaving

/-! Uses of one discount, counted while others edit it. A use is one conditional update of
the counter; an edit saves the whole row a client holds, and switching a discount on or
off reads the row first and saves it back later. -/
namespace BeidarPos

open Machine Relational Interleaving

/-- A new discount has no uses, whatever the client sent. -/
def newDiscount (env : Env) (d : Discount) : Discount :=
  { d with id := if d.id = "" then env.freshID else d.id, createdAt := env.unix, usageCount := 0 }

def createDiscount (env : Env) (d : Discount) (discounts : Table Discount.id) :
    Except Failure (Discount × Table Discount.id) :=
  match discounts.insert? (newDiscount env d) with
  | none => .error (.wrapped (.plain "failed to create discount") (.constraint "discounts"))
  | some next => .ok (newDiscount env d, next)

/-- A save rewrites the row with the key, or inserts it; without a key it only inserts. -/
def saveDiscount (discounts : Table Discount.id) (d : Discount) : Option (Table Discount.id) :=
  if d.id = "" then discounts.insert? d else some (discounts.set d)

/-- A use is left in the limit. -/
def Discount.usable (d : Discount) : Prop := d.usageLimit = 0 ∨ d.usageCount < d.usageLimit

instance (d : Discount) : Decidable d.usable := inferInstanceAs (Decidable (_ ∨ _))

def Discount.used (d : Discount) : Discount := { d with usageCount := d.usageCount + 1 }

theorem Discount.used_id (d : Discount) : d.used.id = d.id := rfl

def Discount.toggled (d : Discount) : Discount := { d with active := !d.active }

theorem Discount.toggled_id (d : Discount) : d.toggled.id = d.id := rfl

/-- Nothing where the statement affects no row. -/
def incrementUsageCount (discounts : Table Discount.id) (id : String) : Option (Table Discount.id) :=
  match discounts.find? id with
  | none => none
  | some d => if d.usable then some (discounts.modify id Discount.used Discount.used_id) else none

/-- A call on the discount where it stands; a use that went through is `applied`. -/
inductive DiscountTask (id : String) where
  | applyDiscount
  | toggleDiscountStatus
  | toggling (d : Discount) (same : d.id = id)
  | updateDiscount (d : Discount) (same : d.id = id)
  | applied
  | answered (result : Except Failure Unit)

namespace DiscountTask

variable {id : String}

def saved (discounts : Table Discount.id) (message : String) (d : Discount) : DiscountTask id × Table Discount.id :=
  match saveDiscount discounts d with
  | some next => (.answered (.ok ()), next)
  | none => (.answered (.error (.wrapped (.plain message) (.constraint "discounts"))), discounts)

def step (_ : Unit) (task : DiscountTask id) (discounts : Table Discount.id) : DiscountTask id × Table Discount.id :=
  match task with
  | .applyDiscount =>
    match incrementUsageCount discounts id with
    | some next => (.applied, next)
    | none =>
      (.answered (.error (.wrapped (.plain "failed to apply discount") (.plain (.plain "discount usage limit reached")))),
        discounts)
  | .toggleDiscountStatus =>
    match found : discounts.find? id with
    | none => (.answered (.error (.wrapped (.plain "failed to get discount for toggle") .recordNotFound)), discounts)
    | some d => (.toggling d.toggled (d.toggled_id.trans (Table.find?_key found)), discounts)
  | .toggling d _ => saved discounts "failed to update discount status" d
  | .updateDiscount d _ => saved discounts "failed to update discount" d
  | .applied => (.applied, discounts)
  | .answered result => (.answered result, discounts)

/-- What the next step of a call saves; a row without a key is refused. -/
def saves : DiscountTask id → Option Discount
  | .toggling d _ | .updateDiscount d _ => if d.id = "" then none else some d
  | .applyDiscount | .toggleDiscountStatus | .applied | .answered _ => none

def isApplied : DiscountTask id → Nat
  | .applied => 1
  | .applyDiscount | .toggleDiscountStatus | .toggling _ _ | .updateDiscount _ _ | .answered _ => 0

end DiscountTask

abbrev DiscountWorld (id : String) := World (Table Discount.id) (DiscountTask id)

/-- The row counts the uses that went through, and no more than its limit allows. -/
def UsageCounted (id : String) (w : DiscountWorld id) : Prop :=
  ∃ d, w.state.find? id = some d ∧ d.usageCount = total DiscountTask.isApplied w.calls ∧
    (0 < d.usageLimit → d.usageCount ≤ d.usageLimit)

variable {id : String}

/-- What is saved has the count of the stored row, and a limit that allows it. -/
def SavesCurrent (_ : Turn Unit) (task : DiscountTask id) (w : DiscountWorld id) : Prop :=
  ∀ d ∈ task.saves, ∀ stored ∈ w.state.find? id,
    d.usageCount = stored.usageCount ∧ (0 < d.usageLimit → stored.usageCount ≤ d.usageLimit)

instance (turn : Turn Unit) (task : DiscountTask id) (w : DiscountWorld id) : Decidable (SavesCurrent turn task w) :=
  inferInstanceAs (Decidable (∀ d ∈ task.saves, ∀ stored ∈ w.state.find? id,
    d.usageCount = stored.usageCount ∧ (0 < d.usageLimit → stored.usageCount ≤ d.usageLimit)))

variable {w : DiscountWorld id} {task next : DiscountTask id} {i : Nat} {stored : Discount}

/-- A step that neither uses the discount nor touches its row. -/
theorem unchanged_counted (counted : UsageCounted id w) (here : w.calls[i]? = some task)
    (uses : next.isApplied = task.isApplied) : UsageCounted id ⟨w.state, w.calls.set i next⟩ := by
  obtain ⟨stored, found, count, limit⟩ := counted
  obtain ⟨rest, sums⟩ := others here
  obtain ⟨before, after⟩ := sums DiscountTask.isApplied
  exact ⟨stored, found, by rw [after, uses, ← before]; exact count, limit⟩

theorem saveDiscount_stored {discounts : Table Discount.id} {d : Discount} (found : discounts.find? d.id = some stored) :
    saveDiscount discounts d = if d.id = "" then none else some (discounts.set d) := by
  unfold saveDiscount
  split
  · exact Table.insert?_none.mpr ⟨stored, found⟩
  · rfl

theorem saves_nothing {turn : Turn Unit} (none : task.saves = none) : SavesCurrent turn task w := by
  intro d member
  rw [none] at member
  contradiction

/-- A save keeps the count exactly when it is a current one. -/
theorem saved_counted (message : String) (d : Discount) (same : d.id = id) (turn : Turn Unit)
    (counted : UsageCounted id w) (here : w.calls[i]? = some task) (idle : task.isApplied = 0)
    (saves : task.saves = if d.id = "" then none else some d) :
    UsageCounted id ⟨(DiscountTask.saved w.state message d : DiscountTask id × _).2,
        w.calls.set i (DiscountTask.saved w.state message d).1⟩ ↔ SavesCurrent turn task w := by
  subst same
  obtain ⟨stored, found, count, limit⟩ := counted
  by_cases keyless : d.id = ""
  · have none : task.saves = none := saves.trans (if_pos keyless)
    have refused : (DiscountTask.saved w.state message d : DiscountTask d.id × _) =
        (.answered (.error (.wrapped (.plain message) (.constraint "discounts"))), w.state) := by
      rw [DiscountTask.saved, saveDiscount_stored found, if_pos keyless]
    rw [refused]
    exact iff_of_true (unchanged_counted ⟨stored, found, count, limit⟩ here idle.symm) (saves_nothing none)
  · have some' : task.saves = some d := saves.trans (if_neg keyless)
    have written : (DiscountTask.saved w.state message d : DiscountTask d.id × _) =
        (.answered (.ok ()), w.state.set d) := by
      rw [DiscountTask.saved, saveDiscount_stored found, if_neg keyless]
    obtain ⟨rest, sums⟩ := others here
    obtain ⟨before, after⟩ := sums DiscountTask.isApplied
    rw [idle, zero_add] at before
    have total' : total DiscountTask.isApplied (w.calls.set i (.answered (.ok ()))) =
        total DiscountTask.isApplied w.calls := by
      rw [after, before]
      exact zero_add _
    have row : (w.state.set d).find? d.id = some d := by rw [Table.find?_set, if_pos rfl]
    rw [written, SavesCurrent, some']
    simp only [UsageCounted, row, found, total', Option.mem_def, Option.some.injEq, forall_eq', exists_eq_left', count]
    exact and_congr_right fun current => by rw [current]

theorem increment_counted (counted : UsageCounted id w) (here : w.calls[i]? = some .applyDiscount) :
    UsageCounted id ⟨(DiscountTask.step () (.applyDiscount : DiscountTask id) w.state).2,
      w.calls.set i (DiscountTask.step () (.applyDiscount : DiscountTask id) w.state).1⟩ := by
  obtain ⟨stored, found, count, limit⟩ := counted
  by_cases usable : stored.usable
  · have used : incrementUsageCount w.state id = some (w.state.modify id Discount.used Discount.used_id) := by
      simp only [incrementUsageCount, found, if_pos usable]
    obtain ⟨rest, sums⟩ := others here
    obtain ⟨before, after⟩ := sums DiscountTask.isApplied
    have idle : (.applyDiscount : DiscountTask id).isApplied = 0 := rfl
    have one : (.applied : DiscountTask id).isApplied = 1 := rfl
    simp only [DiscountTask.step, used]
    refine ⟨stored.used, by rw [Table.find?_modify_same, found, Option.map_some], ?_, fun set => ?_⟩
    · rw [after, one]
      simp only [Discount.used, count, before, idle]
      omega
    · rcases usable with unset | below
      · exact absurd unset set.ne'
      · exact below
  · have refused : incrementUsageCount w.state id = none := by
      simp only [incrementUsageCount, found, if_neg usable]
    simp only [DiscountTask.step, refused]
    exact unchanged_counted ⟨stored, found, count, limit⟩ here rfl

/-- One step of a call, a case for each. -/
theorem step_counted (turn : Turn Unit) (counted : UsageCounted id w) (here : w.calls[turn.call]? = some task) :
    UsageCounted id ⟨(task.step turn.env w.state).2, w.calls.set turn.call (task.step turn.env w.state).1⟩ ↔
      SavesCurrent turn task w := by
  cases task with
  | applyDiscount => exact iff_of_true (increment_counted counted here) (saves_nothing rfl)
  | toggleDiscountStatus =>
    refine iff_of_true ?_ (saves_nothing rfl)
    simp only [DiscountTask.step]
    split <;> exact unchanged_counted counted here rfl
  | toggling d same => exact saved_counted _ d same turn counted here rfl rfl
  | updateDiscount d same => exact saved_counted _ d same turn counted here rfl rfl
  | applied => exact iff_of_true (unchanged_counted counted here rfl) (saves_nothing rfl)
  | answered result => exact iff_of_true (unchanged_counted counted here rfl) (saves_nothing rfl)

/-- From a discount whose uses are counted, in every interleaving they stay counted after
every step exactly when every save writes back the count that is stored by then. -/
theorem discount_usage_counted (id : String) (world : DiscountWorld id) (start : UsageCounted id world)
    (schedule : List (Turn Unit)) :
    (∀ front back, schedule = front ++ back → UsageCounted id (run DiscountTask.step front world)) ↔
      Meets DiscountTask.step SavesCurrent schedule world :=
  invariant_iff_meets (UsageCounted id) (fun _ turn _ counted here => step_counted turn counted here) start

/-- A discount just created, before any call on it has begun. -/
theorem created_counted {env : Env} {d created : Discount} {discounts next : Table Discount.id}
    (made : createDiscount env d discounts = .ok (created, next)) (calls : List (DiscountTask created.id))
    (fresh : ∀ task ∈ calls, task.isApplied = 0) : UsageCounted created.id ⟨next, calls⟩ := by
  unfold createDiscount at made
  split at made
  · contradiction
  · next inserted =>
    obtain ⟨rfl, rfl⟩ := Prod.mk.inj (Except.ok.inj made)
    have none : total DiscountTask.isApplied calls = 0 := by
      refine List.sum_eq_zero fun n member => ?_
      obtain ⟨task, inside, rfl⟩ := List.mem_map.mp member
      exact fresh task inside
    refine ⟨newDiscount env d, by rw [Table.find?_insert inserted, if_pos rfl], ?_, fun set => set.le⟩
    rw [none]
    rfl

section Welcome

/-- One use of the discount may be made. -/
def single : Discount := { welcome with usageLimit := 1 }

def singleWorld : DiscountWorld "welcome" := ⟨Table.empty.set single, [.toggleDiscountStatus, .applyDiscount, .applyDiscount]⟩

def discountTurns (turns : List Nat) : List (Turn Unit) := turns.map fun call => ⟨call, ()⟩

theorem single_counted : UsageCounted "welcome" singleWorld := ⟨single, by decide +kernel, by decide, fun _ => by decide⟩

end Welcome

theorem discount_usage_single : UsageCounted "welcome" (run DiscountTask.step (discountTurns [0, 0, 1, 2]) singleWorld) :=
  (discount_usage_counted "welcome" singleWorld single_counted (discountTurns [0, 0, 1, 2])).mpr (by decide +kernel)
    (discountTurns [0, 0, 1, 2]) [] (List.append_nil _).symm

/-- A use between the two halves of a switch is forgotten, and the single use is made twice. -/
theorem discount_usage_lost : ¬ ∀ (id : String) (world : DiscountWorld id), UsageCounted id world →
    ∀ schedule, UsageCounted id (run DiscountTask.step schedule world) := by
  intro counted
  obtain ⟨d, found, count, -⟩ := counted "welcome" singleWorld single_counted (discountTurns [0, 1, 0, 2])
  have stored : (run DiscountTask.step (discountTurns [0, 1, 0, 2]) singleWorld).state.find? "welcome" =
      some { single with usageCount := 1, active := false } := by decide +kernel
  have twice : total DiscountTask.isApplied (run DiscountTask.step (discountTurns [0, 1, 0, 2]) singleWorld).calls = 2 := by
    decide +kernel
  obtain rfl := Option.some.inj (stored.symm.trans found)
  rw [twice] at count
  exact absurd count (by decide)

end BeidarPos
