import Mathlib.Tactic

/-! Machine integers as a parameter. A `Word` stores the result of every
arithmetic step; `exact` keeps it, `int64` wraps it in two's complement. Programs
written over an arbitrary word are read at either without being written twice. -/
namespace Machine

/-- What an integer type does with a result: kept when it fits, and in range always.
What fits is an interval around zero. -/
structure Word where
  fits : Int → Prop
  wrap : Int → Int
  wrap_of_fits : ∀ x, fits x → wrap x = x
  fits_wrap : ∀ x, fits (wrap x)
  fits_zero : fits 0
  fits_between : ∀ a b x, fits a → fits b → a ≤ x → x ≤ b → fits x

namespace Word

/-- Unbounded integers: the arithmetic of a program in which nothing overflows. -/
def exact : Word where
  fits := fun _ => True
  wrap := id
  wrap_of_fits := fun _ _ => rfl
  fits_wrap := fun _ => trivial
  fits_zero := trivial
  fits_between := fun _ _ _ _ _ _ _ => trivial

/-- Two's complement on 64 bits. -/
def int64 : Word where
  fits := fun x => -2^63 ≤ x ∧ x < 2^63
  wrap := fun x => Int.bmod x (2^64)
  wrap_of_fits := by
    intro x h
    apply Int.bmod_eq_of_le <;> omega
  fits_wrap := by
    intro x
    have low := Int.le_bmod (x := x) (m := 2^64) (by decide)
    have high := Int.bmod_lt (x := x) (m := 2^64) (by decide)
    omega
  fits_zero := by decide
  fits_between := by
    intro a b x ha hb low high
    omega

variable (w : Word)

def add (a b : Int) : Int := w.wrap (a + b)
def sub (a b : Int) : Int := w.wrap (a - b)
def mul (a b : Int) : Int := w.wrap (a * b)
def neg (a : Int) : Int := w.wrap (-a)

/-- Integer division and remainder truncate toward zero. -/
def quot (a b : Int) : Int := w.wrap (a.tdiv b)
def rem (a b : Int) : Int := w.wrap (a.tmod b)

/-- A difference of fitting numbers, smaller before larger, needs no wrapping. -/
theorem sub_of_le {a b : Int} (fits : w.fits a) (low : 0 ≤ b) (high : b ≤ a) : w.sub a b = a - b :=
  w.wrap_of_fits _ (w.fits_between 0 a _ w.fits_zero fits (by omega) (by omega))

/-- What lies between nothing and a fitting number fits. -/
theorem fits_of_le {a x : Int} (fits : w.fits a) (low : 0 ≤ x) (high : x ≤ a) : w.fits x :=
  w.fits_between 0 a x w.fits_zero fits low high

/-- A quotient is no larger than what is divided. -/
theorem quot_of_nonneg {a b : Int} (fits : w.fits a) (ha : 0 ≤ a) (hb : 0 ≤ b) : w.quot a b = a.tdiv b :=
  w.wrap_of_fits _ (w.fits_of_le fits (Int.tdiv_nonneg ha hb) (Int.tdiv_le_self b ha))

theorem share_of_fits {a b c : Int} (fits : w.fits (a * b)) (nonneg : 0 ≤ a * b) (hc : 0 ≤ c) :
    w.quot (w.mul a b) c = (a * b).tdiv c := by
  have product : w.mul a b = a * b := w.wrap_of_fits _ fits
  rw [product]
  exact w.quot_of_nonneg fits nonneg hc

@[simp] theorem exact_wrap (x : Int) : exact.wrap x = x := rfl
@[simp] theorem exact_add (a b : Int) : exact.add a b = a + b := rfl
@[simp] theorem exact_sub (a b : Int) : exact.sub a b = a - b := rfl
@[simp] theorem exact_mul (a b : Int) : exact.mul a b = a * b := rfl
@[simp] theorem exact_neg (a : Int) : exact.neg a = -a := rfl
@[simp] theorem exact_quot (a b : Int) : exact.quot a b = a.tdiv b := rfl
@[simp] theorem exact_rem (a b : Int) : exact.rem a b = a.tmod b := rfl

theorem exact_foldl {β : Type} (f : β → Int) (items : List β) (start : Int) :
    items.foldl (fun sum b => exact.add sum (f b)) start = start + (items.map f).sum := by
  induction items generalizing start with
  | nil => simp
  | cons b items ih =>
    rw [List.foldl_cons, ih, exact_add, List.map_cons, List.sum_cons]
    omega

/-- A sum of numbers that are not negative never wraps on the way when it fits in the end. -/
theorem foldl_of_fits {β : Type} (f : β → Int) (items : List β) {start : Int} (nonneg : ∀ b ∈ items, 0 ≤ f b)
    (low : 0 ≤ start) (fits : w.fits (start + (items.map f).sum)) :
    items.foldl (fun sum b => w.add sum (f b)) start = start + (items.map f).sum := by
  induction items generalizing start with
  | nil => simp
  | cons b items ih =>
    have first := nonneg b (by simp)
    have rest : 0 ≤ (items.map f).sum := List.sum_nonneg fun x member => by
      obtain ⟨c, inside, rfl⟩ := List.mem_map.mp member
      exact nonneg c (by simp [inside])
    rw [List.map_cons, List.sum_cons, ← add_assoc] at fits
    have added : w.add start (f b) = start + f b :=
      w.wrap_of_fits _ (w.fits_of_le fits (by omega) (by omega))
    rw [List.foldl_cons, added, ih (fun c member => nonneg c (by simp [member])) (by omega) fits, List.map_cons,
      List.sum_cons, add_assoc]

theorem int64_add_wrap (a b : Int) : int64.add (int64.wrap a) b = int64.wrap (a + b) := Int.bmod_add_bmod

theorem int64_wrap_add (a b : Int) : int64.wrap (a + int64.wrap b) = int64.wrap (a + b) := Int.add_bmod_bmod

/-- Wrapping on the way changes nothing of a sum that is wrapped at the end. -/
theorem int64_foldl {β : Type} (f : β → Int) (items : List β) {start : Int} (fits : int64.fits start) :
    items.foldl (fun sum b => int64.add sum (f b)) start = int64.wrap (start + (items.map f).sum) := by
  induction items generalizing start with
  | nil => simpa using (int64.wrap_of_fits start fits).symm
  | cons b items ih =>
    have wrapped : int64.wrap (int64.add start (f b) + (items.map f).sum) =
        int64.wrap (start + f b + (items.map f).sum) := int64_add_wrap _ _
    have fits : int64.fits (int64.add start (f b)) := int64.fits_wrap _
    rw [List.foldl_cons, ih fits, wrapped, List.map_cons, List.sum_cons, add_assoc]

/-- So does wrapping each of its numbers. -/
theorem int64_sum_wrapped {β : Type} (f : β → Int) (items : List β) :
    int64.wrap (items.map (fun item => int64.wrap (f item))).sum = int64.wrap (items.map f).sum := by
  induction items with
  | nil => rfl
  | cons item items ih =>
    simp only [List.map_cons, List.sum_cons]
    rw [← int64_wrap_add, ih, int64_wrap_add, add_comm, int64_wrap_add, add_comm]

/-- A sum that is not negative never grows by wrapping. -/
theorem int64_wrap_le {x : Int} (h : 0 ≤ x) : int64.wrap x ≤ x := by
  by_cases small : x < 2^63
  · exact (int64.wrap_of_fits x ⟨by omega, small⟩).le
  · have := (int64.fits_wrap x).2
    omega

end Word
end Machine
