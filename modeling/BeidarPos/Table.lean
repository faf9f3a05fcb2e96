import Mathlib.Algebra.BigOperators.Group.Finset.Basic
import Mathlib.Data.List.Nodup
import Mathlib.Tactic

/-! Database tables: rows with a key of which no two rows share a value, and
tables whose numeric key is assigned by a counter. Uniqueness of the key is part
of the type, so every update below has to keep it. -/
namespace Relational

variable {κ ρ : Type}

structure Table (key : ρ → κ) where
  rows : List ρ
  distinct : (rows.map key).Nodup

namespace Table

variable {key : ρ → κ}

@[ext] theorem ext {a b : Table key} (h : a.rows = b.rows) : a = b := by
  cases a; cases b; cases h; rfl

def empty : Table key := ⟨[], List.nodup_nil⟩

theorem unique_row {t : Table key} (ha : a ∈ t.rows) (hb : b ∈ t.rows) (same : key a = key b) : a = b :=
  List.inj_on_of_nodup_map t.distinct ha hb same

/-- Keeps the rows that pass. -/
def filter (t : Table key) (p : ρ → Prop) [DecidablePred p] : Table key where
  rows := t.rows.filter (fun r => p r)
  distinct := t.distinct.sublist (List.filter_sublist.map key)

theorem filter_mem {t : Table key} {p : ρ → Prop} [DecidablePred p] {r : ρ} :
    r ∈ (t.filter p).rows ↔ r ∈ t.rows ∧ p r := by
  simp [filter]

variable [DecidableEq κ]

instance [DecidableEq ρ] : DecidableEq (Table key) := fun a b =>
  decidable_of_iff (a.rows = b.rows) ⟨ext, fun h => h ▸ rfl⟩

def find? (t : Table key) (k : κ) : Option ρ := t.rows.find? (fun r => key r = k)

theorem find?_key {t : Table key} (h : t.find? k = some r) : key r = k := by
  simpa using List.find?_some h

theorem find?_mem {t : Table key} (h : t.find? k = some r) : r ∈ t.rows :=
  List.mem_of_find?_eq_some h

theorem find?_of_mem {t : Table key} (member : r ∈ t.rows) : t.find? (key r) = some r := by
  cases h : t.find? (key r) with
  | none =>
    have absent := List.find?_eq_none.mp h r member
    simp at absent
  | some found => rw [unique_row (find?_mem h) member (find?_key h)]

theorem find?_none {t : Table key} : t.find? k = none ↔ ∀ r ∈ t.rows, key r ≠ k := by
  simp [find?, List.find?_eq_none]

/-- Rewrites the row with key `k`, if there is one; `keeps` is why the key survives. -/
def modify (t : Table key) (k : κ) (f : ρ → ρ) (keeps : ∀ r, key (f r) = key r) : Table key where
  rows := t.rows.map fun r => if key r = k then f r else r
  distinct := by
    have same : key ∘ (fun r => if key r = k then f r else r) = key := by
      funext r
      by_cases h : key r = k <;> simp [h, keeps]
    rw [List.map_map, same]
    exact t.distinct

theorem find?_modify (t : Table key) (k : κ) (f : ρ → ρ) (keeps : ∀ r, key (f r) = key r) (other : κ) :
    (t.modify k f keeps).find? other = if other = k then (t.find? other).map f else t.find? other := by
  simp only [find?, modify]
  induction t.rows with
  | nil => simp
  | cons r rows ih =>
    by_cases hr : key r = k <;> by_cases ho : key r = other
    · subst hr; subst ho; simp [keeps]
    · subst hr
      have h : other ≠ key r := fun e => ho e.symm
      simpa [keeps, ho, h] using ih
    · subst ho
      simp [hr]
    · simpa [hr, ho] using ih

theorem find?_modify_same {t : Table key} {f : ρ → ρ} {keeps : ∀ r, key (f r) = key r} {k : κ} :
    (t.modify k f keeps).find? k = (t.find? k).map f := by
  simp [find?_modify]

theorem find?_modify_other {t : Table key} {f : ρ → ρ} {keeps : ∀ r, key (f r) = key r} {k other : κ}
    (h : other ≠ k) : (t.modify k f keeps).find? other = t.find? other := by
  simp [find?_modify, h]

theorem modify_id {t : Table key} {f : ρ → ρ} {keeps : ∀ r, key (f r) = key r} {k : κ}
    (fixed : ∀ r, t.find? k = some r → f r = r) : t.modify k f keeps = t := by
  apply ext
  simp only [modify]
  conv_rhs => rw [← List.map_id t.rows]
  apply List.map_congr_left
  intro r member
  by_cases h : key r = k
  · simp [h, fixed r (h ▸ find?_of_mem member)]
  · simp [h]

/-- Rewriting every row without touching the keys rewrites what is found. -/
theorem find?_mapped {t t' : Table key} {f : ρ → ρ} (keeps : ∀ r, key (f r) = key r) (rows : t'.rows = t.rows.map f)
    (k : κ) : t'.find? k = (t.find? k).map f := by
  simp [find?, rows, List.find?_map, keeps]

/-- Rewrites every row; `keeps` is why the keys survive. -/
def mapRows (t : Table key) (f : ρ → ρ) (keeps : ∀ r, key (f r) = key r) : Table key where
  rows := t.rows.map f
  distinct := by
    have same : key ∘ f = key := funext keeps
    rw [List.map_map, same]
    exact t.distinct

/-- Replaces the row with the key of `r`, if there is one. -/
def put (t : Table key) (r : ρ) : Table key where
  rows := t.rows.map fun old => if key old = key r then r else old
  distinct := by
    have same : key ∘ (fun old => if key old = key r then r else old) = key := by
      funext old
      by_cases h : key old = key r <;> simp [h]
    rw [List.map_map, same]
    exact t.distinct

theorem put_rows {t : Table key} {r : ρ} :
    (t.put r).rows = t.rows.map fun old => if key old = key r then r else old := rfl

theorem find?_put {t : Table key} {r : ρ} {k : κ} :
    (t.put r).find? k = if k = key r then (t.find? k).map (fun _ => r) else t.find? k := by
  simp only [find?, put]
  induction t.rows with
  | nil => simp
  | cons old rows ih =>
    by_cases hr : key old = key r <;> by_cases ho : key old = k
    · rw [hr] at ho; subst ho; simp [hr]
    · have h : k ≠ key r := fun e => ho (hr.trans e.symm)
      have h' : key r ≠ k := fun e => h e.symm
      simpa [hr, h, h'] using ih
    · subst ho
      simp [hr]
    · simpa [hr, ho] using ih

/-- Adds a row, or refuses because its key is taken. -/
def insert? (t : Table key) (r : ρ) : Option (Table key) :=
  if fresh : ∀ old ∈ t.rows, key old ≠ key r then
    some ⟨t.rows ++ [r], by
      rw [List.map_append, List.nodup_append]
      refine ⟨t.distinct, by simp, ?_⟩
      intro a ha b hb
      simp only [List.map_cons, List.map_nil, List.mem_singleton] at hb
      obtain ⟨old, member, rfl⟩ := List.mem_map.mp ha
      rw [hb]
      exact fresh old member⟩
  else none

theorem insert?_rows {t t' : Table key} {r : ρ} (h : t.insert? r = some t') :
    t'.rows = t.rows ++ [r] ∧ t.find? (key r) = none := by
  unfold insert? at h
  split at h
  · rename_i fresh
    cases h
    exact ⟨rfl, find?_none.mpr fresh⟩
  · cases h

theorem insert?_none {t : Table key} {r : ρ} : t.insert? r = none ↔ ∃ old, t.find? (key r) = some old := by
  unfold insert?
  split
  · rename_i fresh
    simp [find?_none.mpr fresh]
  · rename_i taken
    simp only [not_forall, ne_eq, not_not] at taken
    obtain ⟨old, member, same⟩ := taken
    simpa using ⟨old, same ▸ find?_of_mem member⟩

theorem find?_insert {t t' : Table key} {r : ρ} (h : t.insert? r = some t') (k : κ) :
    t'.find? k = if k = key r then some r else t.find? k := by
  obtain ⟨rows, fresh⟩ := insert?_rows h
  by_cases hk : k = key r
  · subst hk
    have member : r ∈ t'.rows := by simp [rows]
    rw [if_pos rfl]
    exact find?_of_mem member
  · have hk' : key r ≠ k := fun e => hk e.symm
    simp [find?, rows, List.find?_append, hk, hk']

theorem modify_mem {t : Table key} {f : ρ → ρ} {keeps : ∀ r, key (f r) = key r} {k : κ} {r : ρ}
    (member : r ∈ (t.modify k f keeps).rows) :
    (∃ old ∈ t.rows, r = f old ∧ key old = k) ∨ r ∈ t.rows ∧ key r ≠ k := by
  obtain ⟨old, before, rfl⟩ := List.mem_map.mp member
  by_cases same : key old = k
  · exact .inl ⟨old, before, if_pos same, same⟩
  · exact .inr (by rw [if_neg same]; exact ⟨before, same⟩)

/-- A map's assignment: the row takes the place of the one with its key, or is added. -/
def set (t : Table key) (r : ρ) : Table key :=
  match t.insert? r with
  | some t' => t'
  | none => t.put r

theorem set_mem {t : Table key} {r other : ρ} (member : other ∈ (t.set r).rows) :
    other = r ∨ other ∈ t.rows ∧ key other ≠ key r := by
  unfold set at member
  cases inserted : t.insert? r with
  | some t' =>
    obtain ⟨rows, fresh⟩ := insert?_rows inserted
    simp only [inserted, rows, List.mem_append, List.mem_singleton] at member
    rcases member with old | new
    · exact .inr ⟨old, find?_none.mp fresh other old⟩
    · exact .inl new
  | none =>
    simp only [inserted, put, List.mem_map] at member
    obtain ⟨old, before, rfl⟩ := member
    by_cases same : key old = key r
    · exact .inl (if_pos same)
    · exact .inr (by rw [if_neg same]; exact ⟨before, same⟩)

theorem set_length {t : Table key} {r : ρ} :
    (t.set r).rows.length = if (t.find? (key r)).isSome then t.rows.length else t.rows.length + 1 := by
  unfold set
  cases inserted : t.insert? r with
  | some t' =>
    obtain ⟨rows, fresh⟩ := insert?_rows inserted
    simp [rows, fresh]
  | none =>
    obtain ⟨old, taken⟩ := insert?_none.mp inserted
    simp [put, taken]

theorem find?_set {t : Table key} {r : ρ} {k : κ} :
    (t.set r).find? k = if k = key r then some r else t.find? k := by
  unfold set
  cases inserted : t.insert? r with
  | some t' => exact find?_insert inserted k
  | none =>
    obtain ⟨old, taken⟩ := insert?_none.mp inserted
    rw [find?_put]
    split
    · next same => rw [same, taken, Option.map_some]
    · rfl

theorem set_stored {t : Table key} {r old : ρ} (stored : t.find? (key r) = some old) : t.set r = t.put r := by
  unfold set
  rw [insert?_none.mpr ⟨old, stored⟩]

/-- One row at most has the key. -/
theorem count_key (t : Table key) (k : κ) :
    t.rows.countP (fun r => key r = k) = if (t.find? k).isSome then 1 else 0 := by
  have counted : t.rows.countP (fun r => key r = k) = (t.rows.map key).count k := by
    simp [List.count, List.countP_map, Function.comp_def, BEq.beq]
  rw [counted]
  cases found : t.find? k with
  | none =>
    have absent : k ∉ t.rows.map key := by simpa using find?_none.mp found
    rw [List.count_eq_zero.mpr absent]
    rfl
  | some row =>
    exact List.count_eq_one_of_mem t.distinct (List.mem_map.mpr ⟨row, find?_mem found, find?_key found⟩)

/-- A filter leaves the row with a key, or leaves none. -/
theorem find?_filter {t : Table key} {p : ρ → Prop} [DecidablePred p] {k : κ} :
    (t.filter p).find? k = (t.find? k).filter (fun r => decide (p r)) := by
  cases before : t.find? k with
  | none =>
    exact find?_none.mpr fun row member => find?_none.mp before row (filter_mem.mp member).1
  | some row =>
    have named := find?_key before
    rcases Decidable.em (p row) with kept | dropped
    · rw [Option.filter_some, if_pos (decide_eq_true kept), ← named]
      exact find?_of_mem (filter_mem.mpr ⟨find?_mem before, kept⟩)
    · rw [Option.filter_some, if_neg (by simpa using dropped)]
      refine find?_none.mpr fun other member same => ?_
      obtain ⟨stored, kept⟩ := filter_mem.mp member
      exact dropped (unique_row stored (find?_mem before) (same.trans named.symm) ▸ kept)

section Sums

variable {M : Type} [AddCommGroup M]

/-- What a table's row of a key counts for; a key without a row counts for nothing. -/
def amountAt (t : Table key) (f : ρ → M) (k : κ) : M := ((t.find? k).map f).getD 0

theorem sum_rows (t : Table key) (f : ρ → M) {keys : Finset κ} (covers : ∀ r ∈ t.rows, key r ∈ keys) :
    (t.rows.map f).sum = ∑ k ∈ keys, t.amountAt f k := by
  have read : t.rows.map f = (t.rows.map key).map (t.amountAt f) := by
    rw [List.map_map]
    exact List.map_congr_left fun r member => by simp [amountAt, find?_of_mem member]
  rw [read, ← List.sum_toFinset _ t.distinct]
  refine Finset.sum_subset ?_ ?_
  · intro k named
    obtain ⟨r, member, rfl⟩ := List.mem_map.mp (List.mem_toFinset.mp named)
    exact covers r member
  · intro k _ unnamed
    have absent : t.find? k = none := find?_none.mpr fun r member same =>
      unnamed (List.mem_toFinset.mpr (List.mem_map.mpr ⟨r, member, same⟩))
    simp [amountAt, absent]

/-- Two tables that differ at one key differ in a sum over their rows by the rows of that key. -/
theorem sum_replaced {t t' : Table key} {k : κ} (others : ∀ other, other ≠ k → t'.find? other = t.find? other)
    (f : ρ → M) : (t'.rows.map f).sum = (t.rows.map f).sum - t.amountAt f k + t'.amountAt f k := by
  set keys := insert k ((t.rows ++ t'.rows).map key).toFinset with named
  have first : (t.rows.map f).sum = ∑ k ∈ keys, t.amountAt f k := sum_rows t f fun r member => by
    simp only [named, Finset.mem_insert, List.mem_toFinset, List.mem_map, List.mem_append]
    exact .inr ⟨r, .inl member, rfl⟩
  have second : (t'.rows.map f).sum = ∑ k ∈ keys, t'.amountAt f k := sum_rows t' f fun r member => by
    simp only [named, Finset.mem_insert, List.mem_toFinset, List.mem_map, List.mem_append]
    exact .inr ⟨r, .inr member, rfl⟩
  have here : k ∈ keys := Finset.mem_insert_self _ _
  have rest : ∑ other ∈ keys.erase k, t'.amountAt f other = ∑ other ∈ keys.erase k, t.amountAt f other :=
    Finset.sum_congr rfl fun other member => by rw [amountAt, others other (Finset.ne_of_mem_erase member), amountAt]
  rw [first, second, ← Finset.add_sum_erase _ _ here, ← Finset.add_sum_erase _ _ here, rest]
  abel

end Sums

end Table

/-- Two predicates that differ at one row of a list at most count the same but for that row. -/
theorem countP_replaced {p q : ρ → Bool} {rows : List ρ} {r : ρ} (distinct : rows.Nodup) (member : r ∈ rows)
    (others : ∀ other ∈ rows, other ≠ r → q other = p other) :
    rows.countP q + (if p r = true then 1 else 0) = rows.countP p + if q r = true then 1 else 0 := by
  obtain ⟨front, back, rfl⟩ := List.append_of_mem member
  have apart := (List.nodup_middle.mp distinct).notMem
  have same : ∀ other ∈ front ++ back, q other = p other := fun other inside =>
    others other (List.perm_middle.mem_iff.mpr (List.mem_cons_of_mem _ inside)) fun own => apart (own ▸ inside)
  have fronts : front.countP q = front.countP p :=
    List.countP_congr fun other inside => by rw [same other (List.mem_append_left _ inside)]
  have backs : back.countP q = back.countP p :=
    List.countP_congr fun other inside => by rw [same other (List.mem_append_right _ inside)]
  rw [List.countP_append, List.countP_append, List.countP_cons, List.countP_cons, fronts, backs]
  omega

/-- A table whose key is a number drawn from a counter that never goes back.
Number 0 stands for a row that has no number yet. -/
structure Serial (key : ρ → Nat) extends Table key where
  seq : Nat
  bounded : ∀ r ∈ rows, key r ≤ seq

namespace Serial

variable {key : ρ → Nat}

@[ext] theorem ext {a b : Serial key} (rows : a.rows = b.rows) (seq : a.seq = b.seq) : a = b := by
  cases a with | mk ta _ _ =>
  cases b with | mk tb _ _ =>
  cases Table.ext (a := ta) (b := tb) rows
  cases seq
  rfl

instance [DecidableEq ρ] : DecidableEq (Serial key) := fun a b =>
  decidable_of_iff (a.rows = b.rows ∧ a.seq = b.seq)
    ⟨fun h => ext h.1 h.2, fun h => h ▸ ⟨rfl, rfl⟩⟩

def empty : Serial key := ⟨Table.empty, 0, by simp [Table.empty]⟩

def modify (t : Serial key) (k : Nat) (f : ρ → ρ) (keeps : ∀ r, key (f r) = key r) : Serial key where
  toTable := t.toTable.modify k f keeps
  seq := t.seq
  bounded := by
    intro r member
    obtain ⟨old, before, rfl⟩ := List.mem_map.mp member
    have := t.bounded old before
    split <;> simp_all

def put (t : Serial key) (r : ρ) : Serial key where
  toTable := t.toTable.put r
  seq := t.seq
  bounded := by
    intro r' member
    obtain ⟨old, before, rfl⟩ := List.mem_map.mp member
    have := t.bounded old before
    split <;> simp_all

def mapRows (t : Serial key) (f : ρ → ρ) (keeps : ∀ r, key (f r) = key r) : Serial key where
  toTable := t.toTable.mapRows f keeps
  seq := t.seq
  bounded := by
    intro r member
    obtain ⟨old, before, rfl⟩ := List.mem_map.mp member
    rw [keeps]
    exact t.bounded old before

/-- Adds the row `mk n` at the next number `n`. -/
def append (t : Serial key) (mk : Nat → ρ) (numbered : ∀ n, key (mk n) = n) : Serial key where
  rows := t.rows ++ [mk (t.seq + 1)]
  distinct := by
    rw [List.map_append, List.nodup_append]
    refine ⟨t.distinct, by simp, ?_⟩
    intro a ha b hb
    simp only [List.map_cons, List.map_nil, List.mem_singleton] at hb
    obtain ⟨old, member, rfl⟩ := List.mem_map.mp ha
    have := t.bounded old member
    rw [hb, numbered]
    omega
  seq := t.seq + 1
  bounded := by
    intro r member
    rcases List.mem_append.mp member with old | new
    · have := t.bounded r old; omega
    · rw [List.mem_singleton.mp new, numbered]

/-- Adds a row under the number it brings, or refuses because the number is taken. -/
def insert? (t : Serial key) (r : ρ) : Option (Serial key) :=
  match h : t.toTable.insert? r with
  | none => none
  | some t' => some {
      toTable := t'
      seq := max t.seq (key r)
      bounded := by
        intro r' member
        rw [(Table.insert?_rows h).1] at member
        rcases List.mem_append.mp member with old | new
        · have := t.bounded r' old; omega
        · rw [List.mem_singleton.mp new]; omega }

def filter (t : Serial key) (p : ρ → Prop) [DecidablePred p] : Serial key where
  toTable := t.toTable.filter p
  seq := t.seq
  bounded := fun r member => t.bounded r (List.mem_filter.mp member).1

/-- A has-many save of one child, which `adopt` ties to its parent: a child without a
number is added at the next one, a child under a free number is added there, and
otherwise only the tie of the row that has the number changes. -/
def save (t : Serial key) (number : ρ → Nat → ρ) (numbered : ∀ r n, key (number r n) = n) (adopt : ρ → ρ)
    (keeps : ∀ r, key (adopt r) = key r) (child : ρ) : Serial key :=
  if key child = 0 then t.append (number (adopt child)) (numbered _)
  else
    match t.insert? (adopt child) with
    | some t' => t'
    | none => t.modify (key child) adopt keeps

@[simp] theorem modify_rows {t : Serial key} {f : ρ → ρ} {keeps : ∀ r, key (f r) = key r} {k : Nat} :
    (t.modify k f keeps).toTable = t.toTable.modify k f keeps := rfl

@[simp] theorem put_rows {t : Serial key} {r : ρ} : (t.put r).toTable = t.toTable.put r := rfl

@[simp] theorem append_rows {t : Serial key} {mk : Nat → ρ} {numbered : ∀ n, key (mk n) = n} :
    (t.append mk numbered).rows = t.rows ++ [mk (t.seq + 1)] := rfl

theorem insert?_some {t t' : Serial key} {r : ρ} (h : t.insert? r = some t') :
    t.toTable.insert? r = some t'.toTable ∧ t'.seq = max t.seq (key r) := by
  unfold insert? at h
  split at h
  · cases h
  · rename_i inserted found
    cases h
    exact ⟨found, rfl⟩

theorem insert?_none {t : Serial key} {r : ρ} : t.insert? r = none ↔ t.toTable.insert? r = none := by
  unfold insert?
  split
  · rename_i refused
    simp [refused]
  · rename_i inserted
    simp [inserted]

theorem insert?_rows {t t' : Serial key} {r : ρ} (h : t.insert? r = some t') :
    t'.rows = t.rows ++ [r] :=
  (Table.insert?_rows (insert?_some h).1).1

/-- A number beyond the counter is free. -/
theorem find?_beyond {t : Serial key} (beyond : t.seq < k) : t.find? k = none := by
  apply Table.find?_none.mpr
  intro r member
  have := t.bounded r member
  omega

theorem find?_append {t : Serial key} {mk : Nat → ρ} {numbered : ∀ n, key (mk n) = n} (k : Nat) :
    (t.append mk numbered).find? k = if k = t.seq + 1 then some (mk (t.seq + 1)) else t.find? k := by
  by_cases h : k = t.seq + 1
  · have member : mk (t.seq + 1) ∈ (t.append mk numbered).rows := by simp
    have found := Table.find?_of_mem member
    rw [numbered] at found
    simpa [h] using found
  · have h' : ¬ t.seq + 1 = k := fun e => h e.symm
    simp [Table.find?, List.find?_append, h, h', numbered]

section Save

variable {t : Serial key} {number : ρ → Nat → ρ} {numbered : ∀ r n, key (number r n) = n} {adopt : ρ → ρ}
  {keeps : ∀ r, key (adopt r) = key r}

/-- Saving a child whose number is free adds one row and moves none. -/
theorem save_fresh {child : ρ} (fresh : t.find? (key child) = none) :
    ∃ row, (t.save number numbered adopt keeps child).rows = t.rows ++ [row] ∧
      (row = adopt child ∧ key child ≠ 0 ∨ row = number (adopt child) (t.seq + 1)) := by
  unfold save
  split
  · exact ⟨_, append_rows, .inr rfl⟩
  · rename_i numbered
    cases inserted : t.insert? (adopt child) with
    | none =>
      obtain ⟨old, taken⟩ := Table.insert?_none.mp (insert?_none.mp inserted)
      rw [keeps, fresh] at taken
      cases taken
    | some t' => exact ⟨_, insert?_rows inserted, .inl ⟨rfl, numbered⟩⟩

/-- Saving a stored child again does nothing, when its row is tied already. -/
theorem save_stored {child row : ρ} (numbered' : key child ≠ 0) (stored : t.find? (key child) = some row)
    (tied : adopt row = row) : t.save number numbered adopt keeps child = t := by
  have taken : t.insert? (adopt child) = none :=
    insert?_none.mpr (Table.insert?_none.mpr ⟨row, by rw [keeps]; exact stored⟩)
  rw [save, if_neg numbered', taken]
  refine ext ?_ rfl
  have same : t.toTable.modify (key child) adopt keeps = t.toTable := by
    refine Table.modify_id ?_
    intro r found
    rw [stored] at found
    cases found
    exact tied
  exact congrArg Table.rows same

end Save

end Serial

/-- A table with a second column no two rows share a value of. -/
structure Indexed {ι : Type} (key : ρ → κ) (index : ρ → ι) extends Table key where
  unique : (rows.map index).Nodup

namespace Indexed

variable {ι : Type} {key : ρ → κ} {index : ρ → ι}

@[ext] theorem ext {a b : Indexed key index} (h : a.rows = b.rows) : a = b := by
  cases a with | mk ta _ =>
  cases b with | mk tb _ =>
  cases Table.ext (a := ta) (b := tb) h
  rfl

def empty : Indexed key index := ⟨Table.empty, List.nodup_nil⟩

variable [DecidableEq κ] [DecidableEq ι]

instance [DecidableEq ρ] : DecidableEq (Indexed key index) := fun a b =>
  decidable_of_iff (a.rows = b.rows) ⟨ext, fun h => h ▸ rfl⟩

/-- Adds a row, or refuses because its key or its index is taken. -/
def create? (t : Indexed key index) (row : ρ) : Option (Indexed key index) :=
  if free : ∀ old ∈ t.rows, index old ≠ index row then
    match inserted : t.toTable.insert? row with
    | none => none
    | some next => some ⟨next, by
        rw [(Table.insert?_rows inserted).1, List.map_append, List.nodup_append]
        refine ⟨t.unique, by simp, ?_⟩
        intro a ha b hb
        simp only [List.map_cons, List.map_nil, List.mem_singleton] at hb
        obtain ⟨old, member, rfl⟩ := List.mem_map.mp ha
        rw [hb]
        exact free old member⟩
  else none

/-- Rewrites the row with the key; no other row has the new index. -/
def rewrite (t : Indexed key index) (row : ρ) (free : ∀ old ∈ t.rows, key old ≠ key row → index old ≠ index row) :
    Indexed key index where
  toTable := t.toTable.put row
  unique := by
    refine List.Nodup.map_on ?_ (List.Nodup.of_map _ (t.toTable.put row).distinct)
    intro a ha b hb same
    have kept : ∀ x ∈ (t.toTable.put row).rows, x = row ∨ (x ∈ t.rows ∧ key x ≠ key row) := by
      intro x member
      obtain ⟨old, before, rfl⟩ := List.mem_map.mp member
      by_cases own : key old = key row
      · simp [own]
      · simp [own, before]
    rcases kept a ha with rfl | ⟨oldA, otherA⟩ <;> rcases kept b hb with rfl | ⟨oldB, otherB⟩
    · rfl
    · exact absurd same.symm (free b oldB otherB)
    · exact absurd same (free a oldA otherA)
    · exact List.inj_on_of_nodup_map t.unique oldA oldB same

/-- A save rewrites the row with the key, or inserts the row when there is none. -/
def save? (t : Indexed key index) (row : ρ) : Option (Indexed key index) :=
  if t.find? (key row) = none then t.create? row
  else if free : ∀ old ∈ t.rows, key old ≠ key row → index old ≠ index row then some (t.rewrite row free)
  else none

def filter (t : Indexed key index) (p : ρ → Prop) [DecidablePred p] : Indexed key index where
  toTable := t.toTable.filter p
  unique := t.unique.sublist (List.filter_sublist.map index)

theorem create?_rows {t next : Indexed key index} {row : ρ} (h : t.create? row = some next) :
    next.rows = t.rows ++ [row] := by
  unfold create? at h
  split at h
  · split at h
    · cases h
    · rename_i inserted
      cases h
      exact (Table.insert?_rows inserted).1
  · cases h

theorem find?_create {t next : Indexed key index} {row : ρ} (created : t.create? row = some next) (k : κ) :
    next.find? k = if k = key row then some row else t.find? k := by
  unfold create? at created
  split at created
  · split at created
    · cases created
    · rename_i inserted
      cases created
      exact Table.find?_insert inserted k
  · cases created

/-- A stored row saved again under its own index is rewritten. -/
theorem save?_stored {t : Indexed key index} {row old : ρ} (stored : t.find? (key row) = some old)
    (same : index row = index old) : ∃ next, t.save? row = some next ∧ next.toTable = t.toTable.put row := by
  have free : ∀ other ∈ t.rows, key other ≠ key row → index other ≠ index row := by
    intro other member different taken
    have one := List.inj_on_of_nodup_map t.unique member (Table.find?_mem stored) (taken.trans same)
    rw [one] at different
    exact different (Table.find?_key stored)
  refine ⟨t.rewrite row free, ?_, rfl⟩
  rw [save?, if_neg (by simp [stored]), dif_pos free]

end Indexed

/-- Creates the rows one after the other, or none of them. -/
def createAll {T : Type} (create : T → ρ → Option T) : List ρ → T → Option T
  | [], t => some t
  | r :: rows, t => (create t r).bind (createAll create rows)

/-- Rows each of which is free when its turn comes are all added, in order. -/
theorem createAll_rows {T : Type} {create : T → ρ → Option T} {rowsOf : T → List ρ} {free : List ρ → ρ → Prop}
    (added : ∀ t r, free (rowsOf t) r → ∃ t', create t r = some t' ∧ rowsOf t' = rowsOf t ++ [r]) {rows : List ρ} {t : T}
    (each : ∀ front r back, rows = front ++ r :: back → free (rowsOf t ++ front) r) :
    ∃ t', createAll create rows t = some t' ∧ rowsOf t' = rowsOf t ++ rows := by
  induction rows generalizing t with
  | nil => exact ⟨t, rfl, by simp⟩
  | cons r rows ih =>
    have first : free (rowsOf t) r := by simpa using each [] r rows rfl
    obtain ⟨next, created, rows'⟩ := added t r first
    have later : ∀ front q back, rows = front ++ q :: back → free (rowsOf next ++ front) q := by
      intro front q back parts
      have free := each (r :: front) q back (by rw [parts]; rfl)
      rw [rows', List.append_assoc]
      exact free
    obtain ⟨final, all, rows''⟩ := ih later
    exact ⟨final, by rw [createAll, created]; exact all, by rw [rows'', rows', List.append_assoc]; rfl⟩

/-- With distinct keys every row differs from those before it. -/
theorem nodup_before {κ : Type} {key : ρ → κ} {rows front back : List ρ} {r : ρ} (distinct : (rows.map key).Nodup)
    (parts : rows = front ++ r :: back) : ∀ old ∈ front, key old ≠ key r := by
  intro old member same
  rw [parts, List.map_append, List.nodup_append] at distinct
  exact distinct.2.2 _ (List.mem_map.mpr ⟨old, member, rfl⟩) _ (List.mem_map.mpr ⟨r, by simp, rfl⟩) same

/-- A serial table in which every row has a number. -/
structure Numbered (key : ρ → Nat) extends Serial key where
  positive : ∀ r ∈ rows, key r ≠ 0

namespace Numbered

variable {key : ρ → Nat}

def empty : Numbered key := ⟨Serial.empty, by simp [Serial.empty, Table.empty]⟩

/-- Adds a row under its number, or under the next one when it has none. -/
def create? (number : Nat → ρ → ρ) (numbered : ∀ n r, key (number n r) = n) (t : Numbered key) (r : ρ) :
    Option (Numbered key) :=
  if fresh : key r = 0 then
    some ⟨t.toSerial.append (fun n => number n r) (fun n => numbered n r), by
      intro old member
      rcases List.mem_append.mp member with before | new
      · exact t.positive old before
      · rw [List.mem_singleton.mp new, numbered]
        omega⟩
  else
    match inserted : t.toSerial.insert? r with
    | none => none
    | some next => some ⟨next, by
        intro old member
        rw [Serial.insert?_rows inserted] at member
        rcases List.mem_append.mp member with before | new
        · exact t.positive old before
        · rw [List.mem_singleton.mp new]
          exact fresh⟩

theorem create?_free {number : Nat → ρ → ρ} {numbered : ∀ n r, key (number n r) = n} (t : Numbered key) (r : ρ)
    (free : key r ≠ 0 ∧ ∀ old ∈ t.rows, key old ≠ key r) :
    ∃ t', create? number numbered t r = some t' ∧ t'.rows = t.rows ++ [r] := by
  unfold create?
  rw [dif_neg free.1]
  split
  · rename_i refused
    obtain ⟨old, taken⟩ := Table.insert?_none.mp (Serial.insert?_none.mp refused)
    exact absurd (Table.find?_key taken) (free.2 old (Table.find?_mem taken))
  · rename_i next inserted
    exact ⟨_, rfl, Serial.insert?_rows inserted⟩

end Numbered

theorem Table.insert?_free {κ : Type} {key : ρ → κ} [DecidableEq κ] (t : Table key) (r : ρ)
    (free : ∀ old ∈ t.rows, key old ≠ key r) : ∃ t', t.insert? r = some t' ∧ t'.rows = t.rows ++ [r] := by
  cases inserted : t.insert? r with
  | none =>
    obtain ⟨old, taken⟩ := Table.insert?_none.mp inserted
    exact absurd (Table.find?_key taken) (free old (Table.find?_mem taken))
  | some t' => exact ⟨t', rfl, (Table.insert?_rows inserted).1⟩

theorem Indexed.create?_free {κ ι : Type} {key : ρ → κ} {index : ρ → ι} [DecidableEq κ] [DecidableEq ι]
    (t : Indexed key index) (r : ρ)
    (free : ∀ old ∈ t.rows, key old ≠ key r ∧ index old ≠ index r) :
    ∃ t', t.create? r = some t' ∧ t'.rows = t.rows ++ [r] := by
  obtain ⟨next, inserted, _⟩ := Table.insert?_free t.toTable r (fun old member => (free old member).1)
  unfold Indexed.create?
  rw [dif_pos (fun old member => (free old member).2)]
  split
  · rename_i refused
    rw [refused] at inserted
    cases inserted
  · rename_i other found
    exact ⟨_, rfl, (Table.insert?_rows found).1⟩

/-- A table takes a row exactly when no other has its key or its index. -/
theorem Indexed.create?_free_iff {κ ι : Type} {key : ρ → κ} {index : ρ → ι} [DecidableEq κ] [DecidableEq ι]
    {t : Indexed key index} {r : ρ} :
    (∃ next, t.create? r = some next) ↔ ∀ old ∈ t.rows, key old ≠ key r ∧ index old ≠ index r := by
  constructor
  · rintro ⟨next, created⟩ old member
    have rows : next.rows = t.rows ++ r :: [] := Indexed.create?_rows created
    exact ⟨nodup_before next.distinct rows old member, nodup_before next.unique rows old member⟩
  · intro free
    obtain ⟨next, created, -⟩ := Indexed.create?_free t r free
    exact ⟨next, created⟩

end Relational
