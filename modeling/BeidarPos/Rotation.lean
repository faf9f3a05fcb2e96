import Mathlib.Data.Nat.Count
import Mathlib.Data.Nat.Periodic
import Mathlib.Algebra.BigOperators.Group.List.Basic

/-! Turns handed out by a counter, modulo the total of the weights: in as many turns as that,
wherever they begin, each entry has as many as it weighs. -/
namespace Rotation

variable {α : Type}

def total (entries : List (α × Nat)) : Nat := (entries.map Prod.snd).sum

/-- The entry into whose share the number falls. -/
def pick : List (α × Nat) → Nat → Option α
  | [], _ => none
  | (a, weight) :: rest, v => if v < weight then some a else pick rest (v - weight)

theorem pick_below (entries : List (α × Nat)) (v : Nat) (below : v < total entries) :
    ∃ a, pick entries v = some a := by
  induction entries generalizing v with
  | nil => exact absurd below (Nat.not_lt_zero v)
  | cons entry rest ih =>
    obtain ⟨a, weight⟩ := entry
    rw [pick]
    split
    · exact ⟨a, rfl⟩
    · rw [total, List.map_cons, List.sum_cons, ← total] at below
      exact ih (v - weight) (by omega)

/-- The numbers that fall into the shares of the entries that satisfy a condition. -/
theorem count_shares (p : α → Prop) [DecidablePred p] (entries : List (α × Nat)) :
    Nat.count (fun v => ∃ a ∈ pick entries v, p a) (total entries) =
      ((entries.filter fun entry => p entry.1).map Prod.snd).sum := by
  induction entries with
  | nil => rfl
  | cons entry rest ih =>
    obtain ⟨a, weight⟩ := entry
    have own : Nat.count (fun v => ∃ b ∈ pick ((a, weight) :: rest) v, p b) weight = if p a then weight else 0 := by
      have share : ∀ v < weight, (∃ b ∈ pick ((a, weight) :: rest) v, p b) ↔ p a := by
        intro v below
        simp [pick, below]
      split
      · next holds => exact Nat.count_iff_forall.mpr fun v below => (share v below).mpr holds
      · next fails => exact Nat.count_iff_forall_not.mpr fun v below => mt (share v below).mp fails
    have later : Nat.count (fun v => ∃ b ∈ pick ((a, weight) :: rest) (weight + v), p b) (total rest) =
        Nat.count (fun v => ∃ b ∈ pick rest v, p b) (total rest) := by
      congr 1
      funext v
      simp [pick]
    rw [total, List.map_cons, List.sum_cons, Nat.count_add, own, ← total, later, ih]
    by_cases holds : p a
    · rw [if_pos holds, List.filter_cons_of_pos (by simpa using holds), List.map_cons, List.sum_cons]
    · rw [if_neg holds, List.filter_cons_of_neg (by simpa using holds), Nat.zero_add]

/-- So do the turns, from any count on. -/
theorem turns_shares (p : α → Prop) [DecidablePred p] (entries : List (α × Nat)) (n : Nat) :
    ((Finset.Ico n (n + total entries)).filter fun c => ∃ a ∈ pick entries (c % total entries), p a).card =
      ((entries.filter fun entry => p entry.1).map Prod.snd).sum := by
  have periodic : Function.Periodic (fun c => ∃ a ∈ pick entries (c % total entries), p a) (total entries) := by
    intro c
    simp only [Nat.add_mod_right]
  rw [Nat.filter_Ico_card_eq_of_periodic n _ _ periodic, ← count_shares p entries, Nat.count_eq_card_filter_range,
    Nat.count_eq_card_filter_range]
  refine congrArg Finset.card (Finset.filter_congr fun c within => ?_)
  rw [Nat.mod_eq_of_lt (Finset.mem_range.mp within)]

/-- Entries of equal weight take turns. -/
theorem pick_even (entries : List α) (v : Nat) : pick (entries.map fun a => (a, 1)) v = entries[v]? := by
  induction entries generalizing v with
  | nil => rfl
  | cons a rest ih =>
    cases v with
    | zero => rfl
    | succ v =>
      rw [List.map_cons, pick, if_neg (by omega), Nat.add_sub_cancel, ih, List.getElem?_cons_succ]

theorem total_even (entries : List α) : total (entries.map fun a => (a, 1)) = entries.length := by
  rw [total, List.map_map, List.map_congr_left fun _ _ => Function.comp_apply, List.map_const', List.sum_replicate, smul_eq_mul,
    Nat.mul_one]

end Rotation
