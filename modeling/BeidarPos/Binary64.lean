import BeidarPos.Rounding
import Mathlib.Data.Int.Log

/-! Rounding to a binary format of 53 digits, the smallest of them worth `2 ^ -1074`: the nearest
number of the format, halves to the even one. A number is the rational it stands for; infinities
and NaN are not among them. -/
namespace Binary64

open Rounding

/-- What the last digit of the number counts for, as a power of two. -/
def exponent (q : ℚ) : Int := max (Int.log 2 |q| - 52) (-1074)

def spacing (q : ℚ) : ℚ := 2 ^ exponent q

def round (q : ℚ) : ℚ := roundHalfEven (q / spacing q) * spacing q

/-- What is rounded to this or more is an infinity. -/
def limit : ℚ := 2 ^ 1024

theorem pow_le_limit {k : Nat} (small : k ≤ 1024) : 2 ^ k ≤ limit := pow_le_pow_right₀ (by norm_num) small

theorem spacing_pos (q : ℚ) : 0 < spacing q := zpow_pos (by norm_num) _

@[simp] theorem round_zero : round 0 = 0 := by
  have zero : roundHalfEven 0 = 0 := by exact_mod_cast roundHalfEven_intCast 0
  rw [round, zero_div, zero]
  simp

/-- Rounding moves a number by half a digit at most. -/
theorem round_error (q : ℚ) : |round q - q| ≤ spacing q / 2 := by
  have positive := spacing_pos q
  have back : q = q / spacing q * spacing q := (div_mul_cancel₀ q positive.ne').symm
  have near := roundHalfEven_error (q / spacing q)
  calc |round q - q| = |((roundHalfEven (q / spacing q) : ℚ) - q / spacing q) * spacing q| := by
        rw [sub_mul, ← back, round]
    _ = |(roundHalfEven (q / spacing q) : ℚ) - q / spacing q| * spacing q := by
        rw [abs_mul, abs_of_pos positive]
    _ ≤ 1 / 2 * spacing q := mul_le_mul_of_nonneg_right near positive.le
    _ = spacing q / 2 := by ring

theorem exponent_le {q : ℚ} {k : Int} (nonzero : q ≠ 0) (small : |q| < 2 ^ k) (normal : -1021 ≤ k) :
    exponent q ≤ k - 53 := by
  have below : Int.log 2 |q| < k := by
    refine (Int.lt_zpow_iff_log_lt (by norm_num) (abs_pos.mpr nonzero)).mp ?_
    exact_mod_cast small
  unfold exponent
  omega

/-- A number below a power of two is rounded by no more than half the digit there. -/
theorem round_error_lt {q : ℚ} {k : Int} (small : |q| < 2 ^ k) (normal : -1021 ≤ k) : |round q - q| ≤ 2 ^ (k - 54) := by
  rcases eq_or_ne q 0 with rfl | nonzero
  · rw [round_zero, sub_self, abs_zero]
    exact zpow_nonneg (by norm_num) _
  · calc |round q - q| ≤ spacing q / 2 := round_error q
      _ ≤ 2 ^ (k - 53) / 2 := by
          have finer := exponent_le nonzero small normal
          have order : spacing q ≤ 2 ^ (k - 53) := zpow_le_zpow_right₀ (by norm_num) finer
          linarith
      _ = 2 ^ (k - 54) := by
          rw [show k - 53 = k - 54 + 1 by ring, zpow_add_one₀ (by norm_num)]
          ring

/-- A multiple of its last digit is a number of the format. -/
theorem round_multiple {q : ℚ} (n e : Int) (same : q = n * 2 ^ e) (fine : exponent q ≤ e) : round q = q := by
  obtain ⟨d, gap⟩ := Int.le.dest fine
  have whole : q / spacing q = ((n * 2 ^ d : Int) : ℚ) := by
    rw [div_eq_iff (spacing_pos q).ne', spacing]
    push_cast
    rw [mul_assoc, ← zpow_natCast (2 : ℚ) d, ← zpow_add₀ (by norm_num), add_comm (d : Int), gap]
    exact same
  rw [round, whole, roundHalfEven_intCast, ← whole, div_mul_cancel₀ q (spacing_pos q).ne']

/-- The integers up to `2 ^ 53` are numbers of the format. -/
theorem round_intCast {n : Int} (small : |n| ≤ 2 ^ 53) : round n = n := by
  rcases eq_or_ne n 0 with rfl | nonzero
  · rw [Int.cast_zero, round_zero]
  · have size : |(n : ℚ)| ≤ 2 ^ 53 := by exact_mod_cast small
    have nonzero' : (n : ℚ) ≠ 0 := Int.cast_ne_zero.mpr nonzero
    rcases size.lt_or_eq with below | top
    · exact round_multiple n 0 (by simp) ((exponent_le (k := 53) nonzero' (by exact_mod_cast below) (by norm_num)).trans (by norm_num))
    · have fine : exponent (n : ℚ) ≤ 1 :=
        (exponent_le (k := 54) nonzero' (by rw [top]; norm_num) (by norm_num)).trans (by norm_num)
      rcases abs_eq (by norm_num) |>.mp top with same | same
      · exact round_multiple (2 ^ 52) 1 (by rw [same]; norm_num) fine
      · exact round_multiple (-2 ^ 52) 1 (by rw [same]; norm_num) fine

/-- A number that is not tiny is rounded by no more than a part in `2 ^ 53` of it. -/
theorem round_error_relative {q : ℚ} (normal : 2 ^ (-1022 : Int) ≤ |q|) : |round q - q| ≤ |q| * 2 ^ (-53 : Int) := by
  have positive : 0 < |q| := lt_of_lt_of_le (zpow_pos (by norm_num) _) normal
  have large : -1022 ≤ Int.log 2 |q| := (Int.zpow_le_iff_le_log (by norm_num) positive).mp (by exact_mod_cast normal)
  have digit : exponent q = Int.log 2 |q| - 52 := max_eq_left (by omega)
  have leading : (2 : ℚ) ^ Int.log 2 |q| ≤ |q| := by exact_mod_cast Int.zpow_log_le_self (by norm_num : 1 < 2) positive
  calc |round q - q| ≤ spacing q / 2 := round_error q
    _ = 2 ^ Int.log 2 |q| * 2 ^ (-53 : Int) := by
        rw [spacing, digit, ← zpow_add₀ (by norm_num), show Int.log 2 |q| - 52 = Int.log 2 |q| + -53 + 1 by ring,
          zpow_add_one₀ (by norm_num)]
        ring
    _ ≤ |q| * 2 ^ (-53 : Int) := mul_le_mul_of_nonneg_right leading (zpow_nonneg (by norm_num) _)

/-- A number that is off the other by no more than that part of it. -/
def Within (u p q : ℚ) : Prop := |p - q| ≤ u * |q|

namespace Within

variable {u v p q r : ℚ}

theorem of_round (normal : q = 0 ∨ 2 ^ (-1022 : Int) ≤ |q|) : Within (2 ^ (-53 : Int)) (round q) q := by
  rcases normal with rfl | normal
  · rw [Within, round_zero, sub_zero, abs_zero, mul_zero]
  · rw [Within, mul_comm]
    exact round_error_relative normal

theorem mono (near : Within u p q) (more : u ≤ v) : Within v p q :=
  le_trans near (mul_le_mul_of_nonneg_right more (abs_nonneg q))

/-- Errors add up, and the second one is of the number that has the first. -/
theorem trans (near : Within u p q) (next : Within v r p) (nonneg : 0 ≤ v) : Within (u + v + u * v) r q := by
  have size : |p| ≤ (1 + u) * |q| := by
    have sum := abs_add_le (p - q) q
    rw [sub_add_cancel] at sum
    unfold Within at near
    linarith
  calc |r - q| ≤ |r - p| + |p - q| := abs_sub_le r p q
    _ ≤ v * ((1 + u) * |q|) + u * |q| := add_le_add (le_trans next (mul_le_mul_of_nonneg_left size nonneg)) near
    _ = (u + v + u * v) * |q| := by ring

theorem mul_left (near : Within u p q) (c : ℚ) : Within u (c * p) (c * q) := by
  calc |c * p - c * q| = |c| * |p - q| := by rw [← mul_sub, abs_mul]
    _ ≤ |c| * (u * |q|) := mul_le_mul_of_nonneg_left near (abs_nonneg c)
    _ = u * |c * q| := by rw [abs_mul]; ring

/-- A number near another is not much smaller. -/
theorem normal {n : Int} (near : Within u p q) (half : u ≤ 1/2) (normal : q = 0 ∨ 2 ^ (n + 1) ≤ |q|) : p = 0 ∨ 2 ^ n ≤ |p| := by
  rcases normal with rfl | normal
  · have zero : |p - 0| ≤ u * |(0 : ℚ)| := near
    rw [sub_zero, abs_zero, mul_zero] at zero
    exact .inl (abs_eq_zero.mp (le_antisymm zero (abs_nonneg p)))
  · right
    have sum := abs_add_le (q - p) p
    rw [sub_add_cancel, abs_sub_comm] at sum
    have part : u * |q| ≤ 1/2 * |q| := mul_le_mul_of_nonneg_right half (abs_nonneg q)
    rw [zpow_add_one₀ (by norm_num)] at normal
    unfold Within at near
    linarith

end Within

end Binary64
