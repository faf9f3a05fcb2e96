import Mathlib.Data.List.Basic
import Mathlib.Algebra.Order.BigOperators.Group.List
import Mathlib.Tactic.Ring

/-! Calls that run at the same time over one state. A call is where it stands in its own
code, and one turn takes one call one step further; what else the step depends on (a clock,
a random draw) comes with the turn. -/
namespace Interleaving

structure World (σ π : Type) where
  state : σ
  calls : List π

structure Turn (ε : Type) where
  call : Nat
  env : ε

variable {σ π ε : Type} (step : ε → π → σ → π × σ)

/-- One turn: a turn of a call that is not there changes nothing. -/
def advance (w : World σ π) (turn : Turn ε) : World σ π :=
  match w.calls[turn.call]? with
  | none => w
  | some call => ⟨(step turn.env call w.state).2, w.calls.set turn.call (step turn.env call w.state).1⟩

def run (schedule : List (Turn ε)) (w : World σ π) : World σ π := schedule.foldl (advance step) w

/-- Every turn of the schedule that moves a call does so under the condition. -/
def Meets (cond : Turn ε → π → World σ π → Prop) : List (Turn ε) → World σ π → Prop
  | [], _ => True
  | turn :: rest, w =>
    (∀ call, w.calls[turn.call]? = some call → cond turn call w) ∧ Meets cond rest (advance step w turn)

instance Meets.decidable {cond : Turn ε → π → World σ π → Prop} [∀ turn call w, Decidable (cond turn call w)] :
    ∀ (schedule : List (Turn ε)) (w : World σ π), Decidable (Meets step cond schedule w)
  | [], _ => isTrue trivial
  | turn :: rest, w =>
    @instDecidableAnd _ _ (inferInstanceAs (Decidable (∀ call ∈ w.calls[turn.call]?, cond turn call w)))
      (Meets.decidable rest (advance step w turn))

variable {step}

theorem run_append (front back : List (Turn ε)) (w : World σ π) :
    run step (front ++ back) w = run step back (run step front w) := List.foldl_append

/-- After a call's turn at the end of a schedule, the call stands where its step took it. -/
theorem run_turn {schedule : List (Turn ε)} {turn : Turn ε} {w : World σ π} {call : π}
    (here : (run step schedule w).calls[turn.call]? = some call) :
    (run step (schedule ++ [turn]) w).state = (step turn.env call (run step schedule w).state).2 ∧
      (run step (schedule ++ [turn]) w).calls[turn.call]? = some (step turn.env call (run step schedule w).state).1 := by
  have moved : run step (schedule ++ [turn]) w = advance step (run step schedule w) turn := by
    rw [run_append]
    rfl
  obtain ⟨inside, -⟩ := List.getElem?_eq_some_iff.mp here
  rw [moved, advance, here]
  exact ⟨rfl, List.getElem?_set_self inside⟩

theorem Meets.front {cond : Turn ε → π → World σ π → Prop} {front back : List (Turn ε)} {w : World σ π}
    (meets : Meets step cond (front ++ back) w) : Meets step cond front w := by
  induction front generalizing w with
  | nil => exact trivial
  | cons turn rest ih => exact ⟨meets.1, ih meets.2⟩

theorem Meets.back {cond : Turn ε → π → World σ π → Prop} {front back : List (Turn ε)} {w : World σ π}
    (meets : Meets step cond (front ++ back) w) : Meets step cond back (run step front w) := by
  induction front generalizing w with
  | nil => exact meets
  | cons turn rest ih => exact ih meets.2

/-- What every turn of the schedule brings from outside joins the condition. -/
theorem Meets.with {cond : Turn ε → π → World σ π → Prop} {brings : Turn ε → Prop} {schedule : List (Turn ε)}
    {w : World σ π} (meets : Meets step cond schedule w) (all : ∀ turn ∈ schedule, brings turn) :
    Meets step (fun turn call w => brings turn ∧ cond turn call w) schedule w := by
  induction schedule generalizing w with
  | nil => exact trivial
  | cons turn rest ih =>
    have later : ∀ turn ∈ rest, brings turn := fun turn member => all turn (List.mem_cons_of_mem _ member)
    exact ⟨fun call here => ⟨all turn List.mem_cons_self, meets.1 call here⟩, ih meets.2 later⟩

/-- The call a turn moves, between the calls before it and the calls after it. -/
theorem split_at {calls : List π} {i : Nat} {call : π} (here : calls[i]? = some call) :
    ∃ front back, calls = front ++ call :: back ∧ front.length = i ∧
      ∀ next, calls.set i next = front ++ next :: back := by
  obtain ⟨inside, rfl⟩ := List.getElem?_eq_some_iff.mp here
  refine ⟨calls.take i, calls.drop (i + 1), ?_, ?_, fun next => ?_⟩
  · rw [List.cons_getElem_drop_succ, List.take_append_drop]
  · rw [List.length_take]
    omega
  · rw [List.set_eq_take_append_cons_drop, if_pos inside]

/-- A property of the worlds that every allowed turn keeps holds after the whole schedule. -/
theorem run_keeps {cond : Turn ε → π → World σ π → Prop} (inv : World σ π → Prop)
    (keeps : ∀ w turn call, inv w → w.calls[turn.call]? = some call → cond turn call w →
      inv ⟨(step turn.env call w.state).2, w.calls.set turn.call (step turn.env call w.state).1⟩)
    {schedule : List (Turn ε)} {w : World σ π} (start : inv w) (meets : Meets step cond schedule w) :
    inv (run step schedule w) := by
  induction schedule generalizing w with
  | nil => exact start
  | cons turn rest ih =>
    refine ih (w := advance step w turn) ?_ meets.2
    unfold advance
    split
    · exact start
    · next call here => exact keeps w turn call start here (meets.1 call here)

/-- An invariant that each turn keeps under exactly one condition holds after every part of
a schedule, when and only when every turn meets the condition. -/
theorem invariant_iff_meets {cond : Turn ε → π → World σ π → Prop} (inv : World σ π → Prop)
    (moves : ∀ (w : World σ π) turn call, inv w → w.calls[turn.call]? = some call →
      (inv ⟨(step turn.env call w.state).2, w.calls.set turn.call (step turn.env call w.state).1⟩ ↔ cond turn call w))
    {schedule : List (Turn ε)} {w : World σ π} (start : inv w) :
    (∀ front back, schedule = front ++ back → inv (run step front w)) ↔ Meets step cond schedule w := by
  induction schedule generalizing w with
  | nil =>
    refine iff_of_true ?_ trivial
    intro front back split
    rw [(List.append_eq_nil_iff.mp split.symm).1]
    exact start
  | cons turn rest ih =>
    have first : inv (advance step w turn) ↔ ∀ call, w.calls[turn.call]? = some call → cond turn call w := by
      unfold advance
      cases here : w.calls[turn.call]? with
      | none => exact iff_of_true start fun _ absurd => nomatch absurd
      | some call =>
        rw [moves w turn call start here]
        exact ⟨fun allowed _ found => Option.some.inj found ▸ allowed, fun all => all call rfl⟩
    constructor
    · intro all
      have moved : inv (advance step w turn) := all [turn] rest rfl
      refine ⟨first.mp moved, (ih moved).mp fun front back split => ?_⟩
      exact all (turn :: front) back (by rw [split, List.cons_append])
    · rintro ⟨allowed, later⟩ front back split
      cases front with
      | nil => exact start
      | cons head front =>
        obtain ⟨rfl, tail⟩ := List.cons.inj split
        exact (ih (first.mpr allowed)).mpr later front back tail

def total (count : π → Nat) (calls : List π) : Nat := (calls.map count).sum

theorem total_le {count most : π → Nat} {calls : List π} (fewer : ∀ call, count call ≤ most call) :
    total count calls ≤ total most calls := List.sum_le_sum fun call _ => fewer call

/-- What is summed over the calls, split into the call that moves and the others. -/
theorem others {calls : List π} {i : Nat} {call : π} (here : calls[i]? = some call) :
    ∃ rest, ∀ count : π → Nat, total count calls = count call + total count rest ∧
      ∀ next, total count (calls.set i next) = count next + total count rest := by
  obtain ⟨front, back, rfl, -, replaced⟩ := split_at here
  refine ⟨front ++ back, fun count => ⟨?_, fun next => ?_⟩⟩
  · simp only [total, List.map_append, List.map_cons, List.sum_append, List.sum_cons]
    ring
  · rw [replaced]
    simp only [total, List.map_append, List.map_cons, List.sum_append, List.sum_cons]
    ring

end Interleaving
