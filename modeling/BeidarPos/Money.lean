import BeidarPos.Word
import BeidarPos.Rounding

/-! Amounts are integers in hundredths of a dinar. The operations are those of the source's
`Amount`, over the machine word that stores them; factors and percentages are
exact rationals. -/
namespace BeidarPos

open Machine Rounding

namespace Amount

variable (w : Word)

/-- The cents are rounded, halves away from zero, before they are stored. -/
def mulFloat (a : Int) (factor : ℚ) : Int := w.wrap (roundHalfAway (a * factor))

def percentage (a : Int) (p : ℚ) : Int := w.wrap (roundHalfAway (a * (p / 100)))

def roundDiv (a b : Int) : Int :=
  if b = 0 then 0
  else
    let q := w.quot a b
    let r := w.rem a b
    let absR := if r < 0 then w.neg r else r
    let absB := if b < 0 then w.neg b else b
    if w.quot (w.add absB 1) 2 ≤ absR then
      if a < 0 ↔ b < 0 then w.add q 1 else w.sub q 1
    else q

def div (a : Int) (divisor : Int) : Int :=
  if divisor = 0 then 0 else roundDiv w a divisor

def abs (a : Int) : Int := if a < 0 then w.neg a else a

end Amount

/-- A conversion of a quantity to an integer number of thousandths. -/
def scaled (w : Word) (q : ℚ) : Int := w.wrap (truncate (q * 1000 + 1/2))

theorem scaled_mono {p q : ℚ} (le : p ≤ q) : scaled .exact p ≤ scaled .exact q :=
  truncate_monotone (by linarith)

theorem scaled_nonneg {q : ℚ} (h : 0 ≤ q) : 0 ≤ scaled .exact q := truncate_nonneg (by linarith)

theorem neg_scaled_le {p q : ℚ} (le : -p ≤ q) : -scaled .exact p ≤ scaled .exact q := by
  unfold scaled
  rw [Word.exact_wrap, Word.exact_wrap, ← truncate_neg]
  exact truncate_monotone (by linarith)

@[simp] theorem mulFloat_zero (w : Word) (factor : ℚ) : Amount.mulFloat w 0 factor = 0 := by
  simp [Amount.mulFloat, w.wrap_of_fits 0 w.fits_zero]

theorem percentage_nonneg (ha : 0 ≤ a) (hp : 0 ≤ p) : 0 ≤ Amount.percentage .exact a p :=
  roundHalfAway_nonneg (mul_nonneg (Int.cast_nonneg ha) (div_nonneg hp (by norm_num)))

/-- Rounded division of a nonnegative amount by a positive divisor. -/
theorem div_nonneg_exact (ha : 0 ≤ a) (hd : 0 < d) : 0 ≤ Amount.div .exact a d := by
  have q : 0 ≤ a.tdiv d := Int.tdiv_nonneg ha (by omega)
  have r : ¬ a.tmod d < 0 := by have := Int.tmod_nonneg d ha; omega
  have dn : ¬ d < 0 := by omega
  have dz : ¬ d = 0 := by omega
  have an : ¬ a < 0 := by omega
  simp only [Amount.div, Amount.roundDiv, Word.exact_quot, Word.exact_rem, Word.exact_add,
    Word.exact_neg, r, dn, dz, an, if_false, if_true]
  split <;> omega

end BeidarPos
