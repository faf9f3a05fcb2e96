import Mathlib.Tactic

/-! Buffers written through windows, and counted loops that stop when a step does. A window is
part of a buffer; reading or writing past its end fails, as does a window past the end of
the buffer. -/
namespace Buffers

variable {α σ : Type}

/-- A cell that the buffer has. -/
def store (cells : List α) (i : Nat) (value : α) : Option (List α) :=
  if i < cells.length then some (cells.set i value) else none

structure Window where
  start : Nat
  stop : Nat

def window (cells : List α) (start stop : Nat) : Option Window :=
  if start ≤ stop ∧ stop ≤ cells.length then some ⟨start, stop⟩ else none

namespace Window

def read (w : Window) (cells : List α) (i : Nat) : Option α :=
  if w.start + i < w.stop then cells[w.start + i]? else none

def write (w : Window) (cells : List α) (i : Nat) (value : α) : Option (List α) :=
  if w.start + i < w.stop then store cells (w.start + i) value else none

/-- Reads a cell and writes it back changed. -/
def update (w : Window) (cells : List α) (i : Nat) (change : α → α) : Option (List α) := do
  let value ← w.read cells i
  w.write cells i (change value)

def updateIf (w : Window) (needed : Prop) [Decidable needed] (cells : List α) (i : Nat) (change : α → α) :
    Option (List α) :=
  if needed then w.update cells i change else some cells

end Window

theorem store_some {cells : List α} {i : Nat} (inside : i < cells.length) (value : α) :
    store cells i value = some (cells.set i value) :=
  if_pos inside

theorem window_some {cells : List α} {start stop : Nat} (order : start ≤ stop) (inside : stop ≤ cells.length) :
    window cells start stop = some ⟨start, stop⟩ :=
  if_pos ⟨order, inside⟩

section Access

variable {w : Window} {cells : List α} {i : Nat}

theorem read_some (within : w.start + i < w.stop) (inside : w.stop ≤ cells.length) :
    ∃ value, w.read cells i = some value := by
  rw [Window.read, if_pos within]
  exact ⟨_, List.getElem?_eq_getElem (by omega)⟩

theorem write_some (within : w.start + i < w.stop) (inside : w.stop ≤ cells.length) (value : α) :
    ∃ after, w.write cells i value = some after ∧ after.length = cells.length := by
  refine ⟨cells.set (w.start + i) value, ?_, List.length_set⟩
  rw [Window.write, if_pos within, store_some (by omega)]

theorem update_some (within : w.start + i < w.stop) (inside : w.stop ≤ cells.length) (change : α → α) :
    ∃ after, w.update cells i change = some after ∧ after.length = cells.length := by
  obtain ⟨value, read⟩ := read_some within inside
  obtain ⟨after, wrote, length⟩ := write_some within inside (change value)
  refine ⟨after, ?_, length⟩
  rw [Window.update, read]
  exact wrote

theorem updateIf_some {needed : Prop} [Decidable needed]
    (inside : needed → w.start + i < w.stop ∧ w.stop ≤ cells.length) (change : α → α) :
    ∃ after, w.updateIf needed cells i change = some after ∧ after.length = cells.length := by
  by_cases need : needed
  · rw [Window.updateIf, if_pos need]
    exact update_some (inside need).1 (inside need).2 change
  · exact ⟨cells, if_neg need, rfl⟩

end Access

section Loops

variable (step : σ → Nat → Option σ) {start : σ}

theorem foldlM_range_succ (n : Nat) :
    (List.range (n + 1)).foldlM step start = (List.range n).foldlM step start >>= fun s => step s n := by
  rw [List.range_succ, List.foldlM_append]
  cases (List.range n).foldlM step start with
  | none => rfl
  | some s => simp [List.foldlM]

/-- What holds before the first round and is carried from round to round holds at the end,
and no round fails. -/
theorem foldlM_range (held : Nat → σ → Prop) (n : Nat) (begun : held 0 start)
    (onward : ∀ i, i < n → ∀ s, held i s → ∃ after, step s i = some after ∧ held (i + 1) after) :
    ∃ after, (List.range n).foldlM step start = some after ∧ held n after := by
  induction n with
  | zero => exact ⟨start, rfl, begun⟩
  | succ n ih =>
    obtain ⟨middle, run, sound⟩ := ih fun i small => onward i (by omega)
    obtain ⟨after, last, final⟩ := onward n (by omega) middle sound
    refine ⟨after, ?_, final⟩
    rw [foldlM_range_succ, run]
    exact last

end Loops

end Buffers
