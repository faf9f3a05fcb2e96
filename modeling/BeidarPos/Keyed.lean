import Mathlib.Tactic
import Mathlib.Algebra.BigOperators.Group.List.Basic

/-! Lists of entries with distinct keys, as the image of a map whose visiting order is
open: reading a key does not depend on the order, and a sum over all entries of one
key is the value read there. -/
namespace Keyed

variable {κ ν : Type} [DecidableEq κ]

/-- The value stored under a key, when there is one. -/
def valueOf (entries : List (κ × ν)) (k : κ) : Option ν := (entries.find? (fun e => e.1 = k)).map Prod.snd

@[simp] theorem valueOf_nil {k : κ} : valueOf ([] : List (κ × ν)) k = none := rfl

@[simp] theorem valueOf_cons {e : κ × ν} {entries : List (κ × ν)} {k : κ} :
    valueOf (e :: entries) k = if e.1 = k then some e.2 else valueOf entries k := by
  by_cases h : e.1 = k <;> simp [valueOf, h]

theorem valueOf_mem {entries : List (κ × ν)} {k : κ} {v : ν} (h : valueOf entries k = some v) :
    (k, v) ∈ entries := by
  obtain ⟨e, found, rfl⟩ := Option.map_eq_some_iff.mp h
  have key : e.1 = k := by simpa using List.find?_some found
  rw [← key]
  exact List.mem_of_find?_eq_some found

theorem valueOf_of_mem {entries : List (κ × ν)} {k : κ} {v : ν} (distinct : (entries.map Prod.fst).Nodup)
    (member : (k, v) ∈ entries) : valueOf entries k = some v := by
  induction entries with
  | nil => simp at member
  | cons e entries ih =>
    obtain ⟨fresh, rest⟩ := List.nodup_cons.mp distinct
    rcases List.mem_cons.mp member with rfl | later
    · simp
    · have other : e.1 ≠ k := by
        rintro rfl
        exact fresh (List.mem_map.mpr ⟨_, later, rfl⟩)
      rw [valueOf_cons, if_neg other]
      exact ih rest later

theorem valueOf_none {entries : List (κ × ν)} {k : κ} :
    valueOf entries k = none ↔ ∀ e ∈ entries, e.1 ≠ k := by
  simp [valueOf, List.find?_eq_none]

theorem valueOf_perm {entries visited : List (κ × ν)} {k : κ} (order : visited.Perm entries)
    (distinct : (entries.map Prod.fst).Nodup) : valueOf visited k = valueOf entries k := by
  cases h : valueOf entries k with
  | none =>
    rw [valueOf_none] at h ⊢
    exact fun e member => h e (order.mem_iff.mp member)
  | some v =>
    have distinct' : (visited.map Prod.fst).Nodup := (order.map Prod.fst).nodup_iff.mpr distinct
    exact valueOf_of_mem distinct' (order.mem_iff.mpr (valueOf_mem h))

theorem valueOf_map {entries : List (κ × ν)} {k : κ} (f : κ → ν → ν) :
    valueOf (entries.map fun e => (e.1, f e.1 e.2)) k = (valueOf entries k).map (f k) := by
  induction entries with
  | nil => rfl
  | cons e entries ih =>
    by_cases h : e.1 = k
    · simp [h]
    · simpa [h] using ih

/-- The key of an entry is not among the entries after it. -/
theorem valueOf_later {e : κ × ν} {entries : List (κ × ν)} (distinct : ((e :: entries).map Prod.fst).Nodup) :
    valueOf entries e.1 = none ∧ (entries.map Prod.fst).Nodup := by
  obtain ⟨fresh, rest⟩ := List.nodup_cons.mp distinct
  refine ⟨valueOf_none.mpr ?_, rest⟩
  intro other member same
  exact fresh (List.mem_map.mpr ⟨other, member, same⟩)

theorem valueOf_filter {entries : List (κ × ν)} {k : κ} (keep : ν → Prop) [DecidablePred keep]
    (distinct : (entries.map Prod.fst).Nodup) :
    valueOf (entries.filter fun e => keep e.2) k = (valueOf entries k).filter (fun v => keep v) := by
  induction entries with
  | nil => rfl
  | cons e entries ih =>
    obtain ⟨absent, rest⟩ := valueOf_later distinct
    by_cases h : e.1 = k
    · rw [h] at absent
      by_cases kept : keep e.2
      · simp [h, kept, Option.filter]
      · simp [h, kept, ih rest, absent, Option.filter]
    · by_cases kept : keep e.2
      · simpa [h, kept] using ih rest
      · simpa [h, kept] using ih rest

/-- The entries of one key contribute what is stored under it. -/
theorem sum_at {entries : List (κ × ν)} {k : κ} (g : ν → Int) (distinct : (entries.map Prod.fst).Nodup) :
    (entries.map fun e => if e.1 = k then g e.2 else 0).sum = ((valueOf entries k).map g).getD 0 := by
  induction entries with
  | nil => rfl
  | cons e entries ih =>
    obtain ⟨absent, rest⟩ := valueOf_later distinct
    by_cases h : e.1 = k
    · rw [h] at absent
      simp [h, ih rest, absent]
    · simp [h, ih rest]

/-- Of the entries with one key the last counts. -/
def keepLast (entries : List (κ × ν)) : List (κ × ν) :=
  entries.foldr (fun e later => if later.any (fun e' => e'.1 = e.1) then later else e :: later) []

theorem keepLast_nodup (entries : List (κ × ν)) : ((keepLast entries).map Prod.fst).Nodup := by
  induction entries with
  | nil => exact List.nodup_nil
  | cons e entries ih =>
    simp only [keepLast, List.foldr_cons] at ih ⊢
    split
    · exact ih
    · rename_i fresh
      refine List.nodup_cons.mpr ⟨?_, ih⟩
      rintro taken
      obtain ⟨e', member, same⟩ := List.mem_map.mp taken
      exact fresh (List.any_eq_true.mpr ⟨e', member, by simpa using same⟩)

theorem keepLast_distinct {entries : List (κ × ν)} (distinct : (entries.map Prod.fst).Nodup) :
    keepLast entries = entries := by
  induction entries with
  | nil => rfl
  | cons e entries ih =>
    obtain ⟨fresh, rest⟩ := List.nodup_cons.mp distinct
    have absent : ¬ entries.any (fun e' => e'.1 = e.1) = true := by
      rw [List.any_eq_true]
      rintro ⟨e', member, same⟩
      exact fresh (List.mem_map.mpr ⟨e', member, by simpa using same⟩)
    have later := ih rest
    simp only [keepLast, List.foldr_cons] at later ⊢
    rw [later, if_neg absent]

/-- Rows sorted into groups, one for each key, are the rows again. -/
theorem groups_perm {ρ : Type} {keyOf : ρ → κ} {rows : List ρ} {keys : List κ} (distinct : keys.Nodup)
    (covered : ∀ r ∈ rows, keyOf r ∈ keys) :
    (keys.flatMap fun k => rows.filter fun r => keyOf r = k).Perm rows := by
  have grouped : ∀ keys : List κ, keys.Nodup →
      (keys.flatMap fun k => rows.filter fun r => keyOf r = k).Perm (rows.filter fun r => keyOf r ∈ keys) := by
    intro keys distinct
    induction keys with
    | nil => simp
    | cons k keys ih =>
      obtain ⟨fresh, rest⟩ := List.nodup_cons.mp distinct
      have split := List.filter_append_perm (fun r => decide (keyOf r = k)) (rows.filter fun r => keyOf r ∈ k :: keys)
      rw [List.filter_filter, List.filter_filter] at split
      have own : (rows.filter fun r => decide (keyOf r = k) && decide (keyOf r ∈ k :: keys)) =
          rows.filter fun r => keyOf r = k := by
        apply List.filter_congr
        intro r _
        by_cases same : keyOf r = k <;> simp [same]
      have others : (rows.filter fun r => !decide (keyOf r = k) && decide (keyOf r ∈ k :: keys)) =
          rows.filter fun r => keyOf r ∈ keys := by
        apply List.filter_congr
        intro r _
        by_cases same : keyOf r = k <;> simp [same, fresh]
      rw [own, others] at split
      exact ((ih rest).append_left _).trans split
  have whole := grouped keys distinct
  rwa [List.filter_eq_self.mpr (fun r member => by simpa using covered r member)] at whole

/-- The groups' sums add up to the sum of all rows. -/
theorem groups_sum {ρ β : Type} [AddCommMonoid β] {keyOf : ρ → κ} {rows : List ρ} {keys : List κ} (f : ρ → β)
    (distinct : keys.Nodup) (covered : ∀ r ∈ rows, keyOf r ∈ keys) :
    (keys.map fun k => ((rows.filter fun r => keyOf r = k).map f).sum).sum = (rows.map f).sum := by
  rw [← ((groups_perm distinct covered).map f).sum_eq]
  clear distinct covered
  induction keys with
  | nil => rfl
  | cons k keys ih => rw [List.map_cons, List.sum_cons, ih, List.flatMap_cons, List.map_append, List.sum_append]

end Keyed
