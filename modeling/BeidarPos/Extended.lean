import Mathlib.Data.Rat.Defs
import Mathlib.Algebra.Order.Ring.Rat
import Mathlib.Tactic.Linarith

/-! Numbers with infinities and NaN: the comparisons and the sums of the floating types, in which
a number that is not finite stays so. -/

/-- Finite numbers are exact. -/
inductive Extended where
  | finite (q : ℚ)
  | infinity (negative : Bool)
  | nan
  deriving DecidableEq

namespace Extended

def add : Extended → Extended → Extended
  | finite a, finite b => finite (a + b)
  | nan, _ | _, nan => nan
  | finite _, infinity s | infinity s, finite _ => infinity s
  | infinity s, infinity s' => if s = s' then infinity s else nan

def neg : Extended → Extended
  | finite q => finite (-q)
  | infinity s => infinity (!s)
  | nan => nan

def sub (a b : Extended) : Extended := a.add b.neg

/-- `x <= 0`; a comparison with NaN fails. -/
def nonpositive : Extended → Bool
  | finite q => q ≤ 0
  | infinity s => s
  | nan => false

/-- `x > 0`. -/
def positive : Extended → Bool
  | finite q => 0 < q
  | infinity s => !s
  | nan => false

def IsFinite (x : Extended) : Prop := ∃ q, x = finite q

/-- A finite number that is not negative. -/
def Counts (x : Extended) : Prop := ∃ q, x = finite q ∧ 0 ≤ q

theorem Counts.isFinite {x : Extended} (counts : x.Counts) : x.IsFinite :=
  let ⟨q, same, _⟩ := counts
  ⟨q, same⟩

@[simp] theorem finite_isFinite (q : ℚ) : (finite q).IsFinite := ⟨q, rfl⟩

@[simp] theorem add_finite (a b : ℚ) : (finite a).add (finite b) = finite (a + b) := rfl

@[simp] theorem sub_finite (a b : ℚ) : (finite a).sub (finite b) = finite (a - b) := by
  rw [sub, neg, add_finite, sub_eq_add_neg]

/-- A difference added back. -/
theorem add_difference {a b : Extended} (before : a.IsFinite) (after : b.IsFinite) : a.add (b.sub a) = b := by
  obtain ⟨p, rfl⟩ := before
  obtain ⟨q, rfl⟩ := after
  rw [sub_finite, add_finite, add_sub_cancel]

theorem eq_of_sub_zero {a b : Extended} (before : a.IsFinite) (after : b.IsFinite) (none : b.sub a = finite 0) : b = a := by
  obtain ⟨p, rfl⟩ := before
  obtain ⟨q, rfl⟩ := after
  rw [sub_finite] at none
  rw [sub_eq_zero.mp (finite.inj none)]

theorem finite_zero_add {a : Extended} (here : a.IsFinite) : (finite 0).add a = a := by
  obtain ⟨q, rfl⟩ := here
  rw [add_finite, zero_add]

/-- Nothing that is added makes a number finite again. -/
theorem isFinite_of_add {a b : Extended} (sum : (a.add b).IsFinite) : a.IsFinite := by
  obtain ⟨q, same⟩ := sum
  cases a with
  | finite p => exact finite_isFinite p
  | nan => cases b <;> cases same
  | infinity s =>
    cases b with
    | finite p => cases same
    | nan => cases same
    | infinity s' =>
      rw [add] at same
      split at same <;> cases same

theorem isFinite_of_sum {a : Extended} {rest : List Extended} (sum : (rest.foldl add a).IsFinite) : a.IsFinite := by
  induction rest generalizing a with
  | nil => exact sum
  | cons b rest ih => exact isFinite_of_add (ih sum)

theorem Counts.zero_of_not_positive {a : Extended} (counts : a.Counts) (none : a.positive = false) : a = finite 0 := by
  obtain ⟨q, rfl, low⟩ := counts
  have high : ¬0 < q := of_decide_eq_false none
  rw [le_antisymm (not_lt.mp high) low]

end Extended
