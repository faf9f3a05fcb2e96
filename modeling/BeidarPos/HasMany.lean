import BeidarPos.Table

/-! Children saved together with their parent. A child brings its number, or draws the
next one; under a number that is taken only the tie of the row that has it changes. -/
namespace Relational

variable {κ ρ : Type}

/-- How the rows of a table are tied to their parents. -/
structure HasMany (key : ρ → Nat) (κ : Type) where
  parent : ρ → κ
  adopt : κ → ρ → ρ
  number : ρ → Nat → ρ
  numbered : ∀ r n, key (number r n) = n
  keeps : ∀ p r, key (adopt p r) = key r
  adopted : ∀ p r, parent (adopt p r) = p
  stays : ∀ r n, parent (number r n) = parent r

/-- Every number is free when its turn comes; 0 draws the next one of the counter. -/
def FreeNumbers : List Nat → Nat → List Nat → Prop
  | _, _, [] => True
  | taken, seq, 0 :: rest => FreeNumbers (taken ++ [seq + 1]) (seq + 1) rest
  | taken, seq, n :: rest => n ∉ taken ∧ FreeNumbers (taken ++ [n]) (max seq n) rest

def decideFreeNumbers : (taken : List Nat) → (seq : Nat) → (numbers : List Nat) →
    Decidable (FreeNumbers taken seq numbers)
  | _, _, [] => isTrue trivial
  | taken, seq, 0 :: rest => decideFreeNumbers (taken ++ [seq + 1]) (seq + 1) rest
  | taken, seq, (n + 1) :: rest =>
    @instDecidableAnd _ _ _ (decideFreeNumbers (taken ++ [n + 1]) (max seq (n + 1)) rest)

instance (taken : List Nat) (seq : Nat) (numbers : List Nat) : Decidable (FreeNumbers taken seq numbers) :=
  decideFreeNumbers taken seq numbers

theorem freeNumbers_drawn {taken rest : List Nat} {seq n : Nat} (unnumbered : n = 0) :
    FreeNumbers taken seq (n :: rest) ↔ FreeNumbers (taken ++ [seq + 1]) (seq + 1) rest := by
  subst unnumbered
  rfl

theorem freeNumbers_brought {taken rest : List Nat} {seq n : Nat} (numbered : n ≠ 0) :
    FreeNumbers taken seq (n :: rest) ↔ n ∉ taken ∧ FreeNumbers (taken ++ [n]) (max seq n) rest := by
  obtain ⟨n, rfl⟩ := Nat.exists_eq_succ_of_ne_zero numbered
  rfl

/-- Numbers the counter draws are free. -/
theorem freeNumbers_zero {numbers : List Nat} (unnumbered : ∀ n ∈ numbers, n = 0) (taken : List Nat) (seq : Nat) :
    FreeNumbers taken seq numbers := by
  induction numbers generalizing taken seq with
  | nil => trivial
  | cons n rest ih =>
    rw [freeNumbers_drawn (unnumbered n (by simp))]
    exact ih (fun other member => unnumbered other (by simp [member])) _ _

theorem freeNumbers_fresh {taken numbers : List Nat} {seq : Nat} (free : FreeNumbers taken seq numbers) :
    ∀ n ∈ numbers, n ≠ 0 → n ∉ taken := by
  induction numbers generalizing taken seq with
  | nil => simp
  | cons first rest ih =>
    intro n member numbered
    by_cases unnumbered : first = 0
    · rw [freeNumbers_drawn unnumbered] at free
      rcases List.mem_cons.mp member with rfl | later
      · exact absurd unnumbered numbered
      · exact fun inside => ih free n later numbered (List.mem_append_left _ inside)
    · rw [freeNumbers_brought unnumbered] at free
      rcases List.mem_cons.mp member with rfl | later
      · exact free.1
      · exact fun inside => ih free.2 n later numbered (List.mem_append_left _ inside)

/-- The children that get a row of their own. -/
def placed (key : ρ → Nat) : List Nat → Nat → List ρ → List ρ
  | _, _, [] => []
  | taken, seq, child :: rest =>
    if key child = 0 then child :: placed key (taken ++ [seq + 1]) (seq + 1) rest
    else if key child ∈ taken then placed key taken seq rest
    else child :: placed key (taken ++ [key child]) (max seq (key child)) rest

theorem placed_free {key : ρ → Nat} {taken : List Nat} {seq : Nat} {children : List ρ}
    (free : FreeNumbers taken seq (children.map key)) : placed key taken seq children = children := by
  induction children generalizing taken seq with
  | nil => rfl
  | cons child rest ih =>
    rw [List.map_cons] at free
    by_cases unnumbered : key child = 0
    · rw [freeNumbers_drawn unnumbered] at free
      rw [placed, if_pos unnumbered, ih free]
    · rw [freeNumbers_brought unnumbered] at free
      rw [placed, if_neg unnumbered, if_neg free.1, ih free.2]

/-- A change that keeps the numbers keeps which children get a row. -/
theorem placed_map {key : ρ → Nat} {f : ρ → ρ} (same : ∀ r, key (f r) = key r) (taken : List Nat) (seq : Nat)
    (children : List ρ) : placed key taken seq (children.map f) = (placed key taken seq children).map f := by
  induction children generalizing taken seq with
  | nil => rfl
  | cons child rest ih =>
    simp only [List.map_cons, placed, same, ih]
    split
    · rfl
    · split <;> rfl

/-- A row whose number one of the children brings passes to their parent. -/
def Claimed (key : ρ → Nat) (children : List ρ) (r : ρ) : Prop := key r ≠ 0 ∧ key r ∈ children.map key

instance (key : ρ → Nat) (children : List ρ) (r : ρ) : Decidable (Claimed key children r) :=
  inferInstanceAs (Decidable (_ ∧ _))

theorem claimed_map {key : ρ → Nat} {f : ρ → ρ} (same : ∀ r, key (f r) = key r) (children : List ρ) (r : ρ) :
    Claimed key (children.map f) r ↔ Claimed key children r := by
  have keys : key ∘ f = key := funext same
  rw [Claimed, Claimed, List.map_map, keys]

namespace HasMany

variable {key : ρ → Nat} (m : HasMany key κ) (p : κ)

def save (t : Serial key) (child : ρ) : Serial key :=
  t.save m.number m.numbered (m.adopt p) (m.keeps p) child

def saveAll (t : Serial key) (children : List ρ) : Serial key := children.foldl (m.save p) t

/-- The row that is added for a child: under its own number, or under one that was drawn. -/
def StoredAs (child row : ρ) : Prop :=
  key child ≠ 0 ∧ row = m.adopt p child ∨ key child = 0 ∧ ∃ n, row = m.number (m.adopt p child) n

variable {m p}

theorem StoredAs.parent {child row : ρ} (stored : m.StoredAs p child row) : m.parent row = p := by
  rcases stored with ⟨_, rfl⟩ | ⟨_, n, rfl⟩
  · exact m.adopted p child
  · rw [m.stays, m.adopted]

theorem stored_parents {children added : List ρ} (stored : List.Forall₂ (m.StoredAs p) children added) :
    ∀ r ∈ added, m.parent r = p := by
  induction stored with
  | nil => simp
  | cons first _ ih =>
    intro r member
    rcases List.mem_cons.mp member with rfl | later
    · exact first.parent
    · exact ih r later

section Save

variable {t : Serial key} {child : ρ}

theorem save_drawn (unnumbered : key child = 0) :
    m.save p t child = t.append (m.number (m.adopt p child)) (m.numbered _) := by
  rw [save, Serial.save, if_pos unnumbered]

theorem save_inserted (numbered : key child ≠ 0) (free : key child ∉ t.rows.map key) :
    (m.save p t child).rows = t.rows ++ [m.adopt p child] ∧ (m.save p t child).seq = max t.seq (key child) := by
  cases inserted : t.insert? (m.adopt p child) with
  | none =>
    obtain ⟨old, taken⟩ := Table.insert?_none.mp (Serial.insert?_none.mp inserted)
    have member := List.mem_map_of_mem (f := key) (Table.find?_mem taken)
    rw [Table.find?_key taken, m.keeps] at member
    exact absurd member free
  | some t' =>
    have saved : m.save p t child = t' := by
      rw [save, Serial.save, if_neg numbered, inserted]
    rw [saved, ← m.keeps p child]
    exact ⟨Serial.insert?_rows inserted, (Serial.insert?_some inserted).2⟩

/-- Under a number that is taken the row that has it passes to the parent. -/
theorem save_claims (numbered : key child ≠ 0) (taken : key child ∈ t.rows.map key) :
    (m.save p t child).rows = t.rows.map (fun r => if key r = key child then m.adopt p r else r) ∧
      (m.save p t child).seq = t.seq := by
  obtain ⟨old, member, same⟩ := List.mem_map.mp taken
  have refused : t.insert? (m.adopt p child) = none := by
    refine Serial.insert?_none.mpr (Table.insert?_none.mpr ⟨old, ?_⟩)
    rw [m.keeps, ← same]
    exact Table.find?_of_mem member
  rw [save, Serial.save, if_neg numbered, refused]
  exact ⟨rfl, rfl⟩

/-- No row is added then. -/
theorem save_taken (numbered : key child ≠ 0) (taken : key child ∈ t.rows.map key) :
    (m.save p t child).rows.length = t.rows.length := by
  rw [(save_claims numbered taken).1, List.length_map]

end Save

theorem saveAll_length_le {t : Serial key} {children : List ρ} :
    (m.saveAll p t children).rows.length ≤ t.rows.length + children.length := by
  induction children generalizing t with
  | nil => exact le_refl _
  | cons child rest ih =>
    have more : (m.save p t child).rows.length ≤ t.rows.length + 1 := by
      by_cases unnumbered : key child = 0
      · rw [save_drawn unnumbered]
        simp
      · by_cases taken : key child ∈ t.rows.map key
        · exact (save_taken unnumbered taken).le.trans (Nat.le_succ _)
        · rw [(save_inserted unnumbered taken).1]
          simp
    have all := ih (t := m.save p t child)
    simp only [List.length_cons]
    exact all.trans (by omega)

/-- One row for each child, when and only when the numbers are free. -/
theorem saveAll_length {t : Serial key} {children : List ρ} :
    (m.saveAll p t children).rows.length = t.rows.length + children.length ↔
      FreeNumbers (t.rows.map key) t.seq (children.map key) := by
  induction children generalizing t with
  | nil => simp [saveAll, FreeNumbers]
  | cons child rest ih =>
    have step := ih (t := m.save p t child)
    change (m.saveAll p (m.save p t child) rest).rows.length = _ ↔ FreeNumbers _ _ (key child :: rest.map key)
    by_cases unnumbered : key child = 0
    · rw [freeNumbers_drawn unnumbered]
      simp only [save_drawn unnumbered, Serial.append_rows, List.length_append, List.length_singleton,
        List.map_append, List.map_cons, List.map_nil, m.numbered] at step ⊢
      rw [List.length_cons, ← Nat.add_assoc, Nat.add_right_comm]
      exact step
    · rw [freeNumbers_brought unnumbered]
      by_cases taken : key child ∈ t.rows.map key
      · have same := save_taken (m := m) (p := p) unnumbered taken
        have few : (m.saveAll p (m.save p t child) rest).rows.length ≤ (m.save p t child).rows.length + rest.length :=
          saveAll_length_le
        simp only [List.length_cons, taken, not_true_eq_false, false_and, iff_false]
        omega
      · obtain ⟨rows, seq⟩ := save_inserted (m := m) (p := p) unnumbered taken
        rw [rows, seq] at step
        simp only [List.length_append, List.length_singleton, List.map_append, List.map_cons, List.map_nil,
          m.keeps] at step
        rw [List.length_cons, ← Nat.add_assoc, Nat.add_right_comm, step]
        simp only [taken, not_false_eq_true, true_and]

/-- Under free numbers the rows of the children follow the rows there were. -/
theorem saveAll_rows {t : Serial key} {children : List ρ}
    (free : FreeNumbers (t.rows.map key) t.seq (children.map key)) :
    ∃ added, (m.saveAll p t children).rows = t.rows ++ added ∧ List.Forall₂ (m.StoredAs p) children added := by
  induction children generalizing t with
  | nil => exact ⟨[], by simp [saveAll], .nil⟩
  | cons child rest ih =>
    have one : ∃ row, (m.save p t child).rows = t.rows ++ [row] ∧ m.StoredAs p child row ∧
        FreeNumbers ((m.save p t child).rows.map key) (m.save p t child).seq (rest.map key) := by
      rw [List.map_cons] at free
      by_cases unnumbered : key child = 0
      · rw [freeNumbers_drawn unnumbered] at free
        rw [save_drawn unnumbered]
        refine ⟨_, Serial.append_rows, .inr ⟨unnumbered, _, rfl⟩, ?_⟩
        change FreeNumbers _ (t.seq + 1) _
        simpa [m.numbered] using free
      · rw [freeNumbers_brought unnumbered] at free
        obtain ⟨rows, seq⟩ := save_inserted (m := m) (p := p) unnumbered free.1
        refine ⟨_, rows, .inl ⟨unnumbered, rfl⟩, ?_⟩
        rw [rows, seq]
        simpa [m.keeps] using free.2
    obtain ⟨row, rows, stored, free'⟩ := one
    obtain ⟨added, all, each⟩ := ih free'
    refine ⟨row :: added, ?_, .cons stored each⟩
    change (m.saveAll p (m.save p t child) rest).rows = _
    rw [all, rows, List.append_assoc, List.singleton_append]

/-- Every row is one of the children's now, or was there before. -/
theorem saveAll_parents {t : Serial key} {children : List ρ} {r : ρ} (member : r ∈ (m.saveAll p t children).rows) :
    m.parent r = p ∨ r ∈ t.rows := by
  induction children generalizing t with
  | nil => exact .inr member
  | cons child rest ih =>
    rcases ih (t := m.save p t child) member with own | before
    · exact .inl own
    · by_cases unnumbered : key child = 0
      · rw [save_drawn unnumbered, Serial.append_rows, List.mem_append, List.mem_singleton] at before
        rcases before with old | rfl
        · exact .inr old
        · exact .inl (by rw [m.stays, m.adopted])
      · rw [save, Serial.save, if_neg unnumbered] at before
        split at before
        · rename_i inserted
          rw [Serial.insert?_rows inserted, List.mem_append, List.mem_singleton] at before
          rcases before with old | rfl
          · exact .inr old
          · exact .inl (m.adopted p child)
        · rcases @Table.modify_mem _ _ _ _ t.toTable (m.adopt p) (m.keeps p) _ _ before with ⟨old, _, rfl, _⟩ | ⟨old, _⟩
          · exact .inl (m.adopted p old)
          · exact .inr old

def claim (m : HasMany key κ) (p : κ) (children : List ρ) (r : ρ) : ρ :=
  if Claimed key children r then m.adopt p r else r

section Claims

variable {t : Serial key} {child : ρ} {rest children : List ρ}

theorem claim_settled (settled : ∀ r, m.parent r = p → m.adopt p r = r) {r : ρ} (own : m.parent r = p) :
    m.claim p children r = r := by
  rw [claim, settled r own, ite_self]

/-- A child whose number no row has claims none of them. -/
theorem claim_rest (other : ∀ r ∈ t.rows, key r ≠ 0 → key r ≠ key child) :
    t.rows.map (m.claim p (child :: rest)) = t.rows.map (m.claim p rest) := by
  refine List.map_congr_left fun r member => ?_
  have same : Claimed key (child :: rest) r ↔ Claimed key rest r := by
    refine and_congr_right fun numbered => ?_
    rw [List.map_cons, List.mem_cons, or_iff_right (other r member numbered)]
  simp only [claim, same]

/-- Every row is where it was, with its parent changed if a child claims it; the rows of
the children that found their number free follow. -/
theorem saveAll_claims (t : Serial key) (children : List ρ) (settled : ∀ r, m.parent r = p → m.adopt p r = r) :
    ∃ added, (m.saveAll p t children).rows = t.rows.map (m.claim p children) ++ added ∧
      List.Forall₂ (m.StoredAs p) (placed key (t.rows.map key) t.seq children) added := by
  induction children generalizing t with
  | nil =>
    have kept : t.rows.map (m.claim p []) = t.rows := by
      refine List.map_id'' (fun r => ?_) _
      simp [claim, Claimed]
    exact ⟨[], by rw [kept, List.append_nil]; rfl, .nil⟩
  | cons child rest ih =>
    have appended : ∀ row, m.StoredAs p child row → (m.save p t child).rows = t.rows ++ [row] →
        (∀ r ∈ t.rows, key r ≠ 0 → key r ≠ key child) →
        ∃ added, (m.saveAll p t (child :: rest)).rows = t.rows.map (m.claim p (child :: rest)) ++ row :: added ∧
          List.Forall₂ (m.StoredAs p) (placed key ((m.save p t child).rows.map key) (m.save p t child).seq rest)
            added := by
      intro row stored rows other
      obtain ⟨added, all, each⟩ := ih (m.save p t child)
      refine ⟨added, ?_, each⟩
      change (m.saveAll p (m.save p t child) rest).rows = _
      rw [all, rows, List.map_append, List.map_singleton, claim_settled settled stored.parent, claim_rest other,
        List.append_assoc, List.singleton_append]
    by_cases unnumbered : key child = 0
    · have drawn := save_drawn (m := m) (p := p) (t := t) unnumbered
      have stored : m.StoredAs p child (m.number (m.adopt p child) (t.seq + 1)) := .inr ⟨unnumbered, _, rfl⟩
      obtain ⟨added, all, each⟩ := appended _ stored (by rw [drawn]; exact Serial.append_rows)
        fun r _ numbered same => numbered (same.trans unnumbered)
      refine ⟨_, all, ?_⟩
      rw [placed, if_pos unnumbered]
      refine .cons stored ?_
      rw [drawn, Serial.append_rows, List.map_append, List.map_singleton, m.numbered] at each
      exact each
    · by_cases taken : key child ∈ t.rows.map key
      · obtain ⟨added, all, each⟩ := ih (m.save p t child)
        obtain ⟨rows, seq⟩ := save_claims (m := m) (p := p) unnumbered taken
        refine ⟨added, ?_, ?_⟩
        · change (m.saveAll p (m.save p t child) rest).rows = _
          rw [all, rows, List.map_map]
          congr 1
          refine List.map_congr_left fun r _ => ?_
          by_cases same : key r = key child
          · have claimed : Claimed key (child :: rest) r := ⟨same ▸ unnumbered, by simp [same]⟩
            rw [Function.comp_apply, if_pos same, claim_settled settled (m.adopted p r), claim, if_pos claimed]
          · rw [Function.comp_apply, if_neg same]
            simp [claim, Claimed, same]
        · rw [placed, if_neg unnumbered, if_pos taken]
          have keys : (m.save p t child).rows.map key = t.rows.map key := by
            rw [rows, List.map_map]
            refine List.map_congr_left fun r _ => ?_
            rw [Function.comp_apply]
            split
            · exact m.keeps p r
            · rfl
          rwa [keys, seq] at each
      · obtain ⟨rows, seq⟩ := save_inserted (m := m) (p := p) unnumbered taken
        have stored : m.StoredAs p child (m.adopt p child) := .inl ⟨unnumbered, rfl⟩
        obtain ⟨added, all, each⟩ := appended _ stored rows
          fun r member _ same => taken (same ▸ List.mem_map_of_mem member)
        refine ⟨_, all, ?_⟩
        rw [placed, if_neg unnumbered, if_neg taken]
        refine .cons stored ?_
        rw [rows, seq, List.map_append, List.map_singleton, m.keeps] at each
        exact each

/-- The first child claims a row or gets one. -/
theorem claimed_or_placed {rows : List ρ} {seq : Nat} :
    rows.filter (fun r => Claimed key (child :: rest) r) ++ placed key (rows.map key) seq (child :: rest) ≠ [] := by
  intro empty
  obtain ⟨claimed, rowless⟩ := List.append_eq_nil_iff.mp empty
  by_cases unnumbered : key child = 0
  · rw [placed, if_pos unnumbered] at rowless
    cases rowless
  · by_cases taken : key child ∈ rows.map key
    · obtain ⟨r, member, same⟩ := List.mem_map.mp taken
      have claims : Claimed key (child :: rest) r := ⟨same ▸ unnumbered, by simp [same]⟩
      refine List.filter_eq_nil_iff.mp claimed r member ?_
      exact decide_eq_true claims
    · rw [placed, if_neg unnumbered, if_neg taken] at rowless
      cases rowless

variable [DecidableEq κ]

/-- The rows a childless parent has then: the claimed ones, and the ones added. -/
theorem saveAll_own (children : List ρ) (settled : ∀ r, m.parent r = p → m.adopt p r = r)
    (childless : ∀ r ∈ t.rows, m.parent r ≠ p) :
    ∃ added, (m.saveAll p t children).rows.filter (fun r => m.parent r = p) =
        (t.rows.filter (fun r => Claimed key children r)).map (m.adopt p) ++ added ∧
      List.Forall₂ (m.StoredAs p) (placed key (t.rows.map key) t.seq children) added := by
  obtain ⟨added, rows, stored⟩ := saveAll_claims t children settled
  refine ⟨added, ?_, stored⟩
  have own := stored_parents stored
  have claimed : ∀ r ∈ t.rows, (m.parent (m.claim p children r) = p ↔ Claimed key children r) := by
    intro r member
    by_cases brought : Claimed key children r
    · rw [claim, if_pos brought]
      exact iff_of_true (m.adopted p r) brought
    · rw [claim, if_neg brought]
      exact iff_of_false (childless r member) brought
  have whole : added.filter (fun r => m.parent r = p) = added :=
    List.filter_eq_self.mpr fun r member => by simpa using own r member
  rw [rows, List.filter_append, whole, List.filter_map]
  congr 1
  have kept : t.rows.filter ((fun r => decide (m.parent r = p)) ∘ m.claim p children) =
      t.rows.filter (fun r => Claimed key children r) :=
    List.filter_congr fun r member => by simp [claimed r member]
  rw [kept]
  refine List.map_congr_left fun r member => ?_
  rw [claim, if_pos (by simpa using (List.mem_filter.mp member).2)]

end Claims

section Parents

variable [DecidableEq κ]

/-- The rows of the other parents are the ones there were, and the parent has one row
for each child. -/
structure Saved (m : HasMany key κ) (p : κ) (before after : List ρ) (children : List ρ) : Prop where
  others : after.filter (fun r => m.parent r ≠ p) = before.filter (fun r => m.parent r ≠ p)
  own : List.Forall₂ (m.StoredAs p) children (after.filter (fun r => m.parent r = p))

theorem saveAll_saved {t : Serial key} {children : List ρ} (childless : ∀ r ∈ t.rows, m.parent r ≠ p) :
    m.Saved p t.rows (m.saveAll p t children).rows children ↔
      FreeNumbers (t.rows.map key) t.seq (children.map key) := by
  have foreign : t.rows.filter (fun r => m.parent r ≠ p) = t.rows :=
    List.filter_eq_self.mpr fun r member => by simpa using childless r member
  constructor
  · intro saved
    rw [← saveAll_length (m := m) (p := p)]
    have counted := List.length_eq_length_filter_add (l := (m.saveAll p t children).rows)
      (fun r => decide (m.parent r = p))
    have rest : (m.saveAll p t children).rows.filter (fun r => !decide (m.parent r = p)) =
        (m.saveAll p t children).rows.filter (fun r => m.parent r ≠ p) := by
      simp only [decide_not]
    rw [rest, saved.others, foreign, ← saved.own.length_eq] at counted
    omega
  · intro free
    obtain ⟨added, rows, stored⟩ := saveAll_rows (m := m) (p := p) free
    have own := stored_parents stored
    constructor
    · rw [rows, List.filter_append, foreign, List.filter_eq_nil_iff.mpr fun r member => by simpa using own r member,
        List.append_nil]
    · rw [rows, List.filter_append, List.filter_eq_nil_iff.mpr fun r member => by simpa using childless r member,
        List.nil_append, List.filter_eq_self.mpr fun r member => by simpa using own r member]
      exact stored

end Parents

end HasMany

end Relational
