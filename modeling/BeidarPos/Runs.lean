import Mathlib.Data.List.Induction

/-! Runs over a list of inputs, one step for each. What each step keeps under exactly one
condition holds all along a run, when and only when every step meets the condition. -/
namespace Runs

variable {σ ι : Type} {step : σ → ι → σ} {inputs : List ι} {start : σ}

theorem foldl_snoc (front : List ι) (input : ι) :
    (front ++ [input]).foldl step start = step (front.foldl step start) input := by
  rw [List.foldl_append, List.foldl_cons, List.foldl_nil]

/-- `invariant` may be needed to say when a step keeps the property. -/
theorem always_iff {invariant property : σ → Prop} {good : ι → σ → Prop} (begun : invariant start)
    (first : property start)
    (onward : ∀ front input back, inputs = front ++ input :: back → invariant (front.foldl step start) →
      property (front.foldl step start) → invariant (step (front.foldl step start) input) ∧
        (property (step (front.foldl step start) input) ↔ good input (front.foldl step start))) :
    (∀ front back, inputs = front ++ back → property (front.foldl step start)) ↔
      ∀ front input back, inputs = front ++ input :: back → good input (front.foldl step start) := by
  constructor
  · intro always front input back parts
    have sound : ∀ front back, inputs = front ++ back → invariant (front.foldl step start) := by
      intro front
      induction front using List.reverseRecOn with
      | nil => exact fun _ _ => begun
      | append_singleton front input ih =>
        intro back parts
        have split : inputs = front ++ input :: back := by simp [parts]
        rw [foldl_snoc]
        exact (onward front input back split (ih _ split) (always _ _ split)).1
    have held := always (front ++ [input]) back (by simp [parts])
    rw [foldl_snoc] at held
    exact (onward front input back parts (sound _ _ parts) (always _ _ parts)).2.mp held
  · intro every
    have both : ∀ front back, inputs = front ++ back →
        invariant (front.foldl step start) ∧ property (front.foldl step start) := by
      intro front
      induction front using List.reverseRecOn with
      | nil => exact fun _ _ => ⟨begun, first⟩
      | append_singleton front input ih =>
        intro back parts
        have split : inputs = front ++ input :: back := by simp [parts]
        obtain ⟨sound, held⟩ := ih _ split
        rw [foldl_snoc]
        obtain ⟨next, kept⟩ := onward front input back split sound held
        exact ⟨next, kept.mpr (every front input back split)⟩
    exact fun front back parts => (both front back parts).2

/-- A property that no other invariant is needed for. -/
theorem kept_iff {property : σ → Prop} {good : ι → σ → Prop} (first : property start)
    (onward : ∀ front input back, inputs = front ++ input :: back → property (front.foldl step start) →
      (property (step (front.foldl step start) input) ↔ good input (front.foldl step start))) :
    (∀ front back, inputs = front ++ back → property (front.foldl step start)) ↔
      ∀ front input back, inputs = front ++ input :: back → good input (front.foldl step start) :=
  @always_iff _ _ step inputs start (fun _ => True) property good trivial first fun front input back parts _ held =>
    ⟨trivial, onward front input back parts held⟩

/-- What a run has logged is what one of its steps added. -/
theorem logged_iff {logged : σ → Prop} {adds : ι → σ → Prop} (first : ¬logged start)
    (onward : ∀ state input, logged (step state input) ↔ logged state ∨ adds input state) :
    logged (inputs.foldl step start) ↔
      ∃ front input back, inputs = front ++ input :: back ∧ adds input (front.foldl step start) := by
  induction inputs using List.reverseRecOn with
  | nil =>
    refine iff_of_false first ?_
    rintro ⟨front, input, back, parts, -⟩
    exact absurd parts.symm (by simp)
  | append_singleton front last ih =>
    rw [foldl_snoc, onward, ih]
    constructor
    · rintro (⟨before, input, back, rfl, added⟩ | added)
      · exact ⟨before, input, back ++ [last], by simp, added⟩
      · exact ⟨front, last, [], rfl, added⟩
    · rintro ⟨before, input, back, parts, added⟩
      cases back using List.reverseRecOn with
      | nil =>
        obtain ⟨rfl, rfl⟩ := List.append_inj' parts rfl |>.imp id fun same => (List.cons.inj same).1
        exact .inr added
      | append_singleton back final =>
        rw [← List.cons_append, ← List.append_assoc] at parts
        exact .inl ⟨before, input, back, (List.append_inj' parts rfl).1, added⟩

end Runs
