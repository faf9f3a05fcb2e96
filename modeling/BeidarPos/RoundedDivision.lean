import BeidarPos.Money

/-! Division of amounts. The quotient is cut and then moved away from zero when what is left
is half the divisor or more; the half is taken of the divisor and one, which the two largest
divisors have no room for. -/
namespace BeidarPos

open Machine Rounding

/-- The test for a half can be made, or would be met. -/
def HalfTested (a b : Int) : Prop := b.natAbs < 2^63 - 1 ∨ b.natAbs ≤ 2 * (a.natAbs % b.natAbs)

section Division

variable {a b : Int}

theorem nearest_size (n : Nat) {m : Nat} (positive : 0 < m) :
    (2 * n + m) / (2 * m) = n / m + if m ≤ 2 * (n % m) then 1 else 0 := by
  have parts := Nat.div_add_mod n m
  have rest := Nat.mod_lt n positive
  have sum : 2 * n + m = 2 * (n % m) + m + n / m * (2 * m) := by
    calc 2 * n + m = 2 * (m * (n / m) + n % m) + m := by rw [parts]
      _ = 2 * (n % m) + m + n / m * (2 * m) := by ring
  rw [sum, Nat.add_mul_div_right _ _ (by omega), Nat.add_comm]
  congr 1
  split
  · exact Nat.div_eq_of_lt_le (by omega) (by omega)
  · exact Nat.div_eq_of_lt (by omega)

/-- Only the least amount over minus one has no quotient. -/
theorem int64_tdiv (left : Word.int64.fits a) (nonzero : b ≠ 0) (room : a ≠ -2^63 ∨ b ≠ -1) :
    Word.int64.quot a b = a.tdiv b := by
  refine Word.int64.wrap_of_fits _ ?_
  obtain ⟨low, high⟩ := left
  have size := Int.natAbs_tdiv a b
  change _ = a.natAbs / b.natAbs at size
  by_cases one : b.natAbs = 1
  · rcases (show b = 1 ∨ b = -1 by omega) with rfl | rfl
    · rw [Int.tdiv_one]
      exact ⟨low, high⟩
    · rw [Int.tdiv_neg, Int.tdiv_one]
      constructor <;> omega
  · have half : a.natAbs / b.natAbs ≤ a.natAbs / 2 := Nat.div_le_div_left (by omega) (by decide)
    constructor <;> omega

theorem int64_tmod (right : Word.int64.fits b) (nonzero : b ≠ 0) : Word.int64.rem a b = a.tmod b := by
  refine Word.int64.wrap_of_fits _ ?_
  obtain ⟨low, high⟩ := right
  have size := Int.natAbs_tmod a b
  have small := Nat.mod_lt a.natAbs (show 0 < b.natAbs by omega)
  constructor <;> omega

theorem tdiv_signed (a b : Int) :
    a.tdiv b = if a < 0 ↔ b < 0 then ((a.natAbs / b.natAbs : Nat) : Int) else -(a.natAbs / b.natAbs : Nat) := by
  rw [Int.ofNat_tdiv]
  by_cases left : a < 0 <;> by_cases right : b < 0
  · rw [if_pos (by tauto), Int.ofNat_natAbs_of_nonpos left.le, Int.ofNat_natAbs_of_nonpos right.le, Int.neg_tdiv,
      Int.tdiv_neg, neg_neg]
  · rw [if_neg (by tauto), Int.ofNat_natAbs_of_nonpos left.le, Int.natAbs_of_nonneg (by omega), Int.neg_tdiv, neg_neg]
  · rw [if_neg (by tauto), Int.natAbs_of_nonneg (by omega), Int.ofNat_natAbs_of_nonpos right.le, Int.tdiv_neg, neg_neg]
  · rw [if_pos (by tauto), Int.natAbs_of_nonneg (by omega), Int.natAbs_of_nonneg (by omega)]

/-- The threshold for what is left: half the divisor, or less than nothing where the divisor
and one do not fit. -/
theorem threshold_met (right : Word.int64.fits b) (rest : Nat) :
    Word.int64.quot (Word.int64.add (if b < 0 then Word.int64.neg b else b) 1) 2 ≤ rest ↔
      2^63 - 1 ≤ b.natAbs ∨ b.natAbs ≤ 2 * rest := by
  obtain ⟨low, high⟩ := right
  rcases lt_trichotomy b.natAbs (2^63 - 1) with room | last | least
  · have size : (if b < 0 then Word.int64.neg b else b) = b.natAbs := by
      split
      · rw [Word.neg, Word.int64.wrap_of_fits _ ⟨by omega, by omega⟩]
        omega
      · omega
    have next : Word.int64.add b.natAbs 1 = b.natAbs + 1 := Word.int64.wrap_of_fits _ ⟨by omega, by omega⟩
    rw [size, next, Word.int64.quot_of_nonneg ⟨by omega, by omega⟩ (by omega) (by decide),
      Int.tdiv_eq_ediv_of_nonneg (by omega)]
    omega
  · have size : (if b < 0 then Word.int64.neg b else b) = 2^63 - 1 := by
      split
      · rw [Word.neg, Word.int64.wrap_of_fits _ ⟨by omega, by omega⟩]
        omega
      · omega
    have half : Word.int64.quot (Word.int64.add (2^63 - 1) 1) 2 = -2^62 := by decide
    rw [size, half]
    omega
  · obtain rfl : b = -2^63 := by omega
    have half : Word.int64.quot (Word.int64.add (if (-2^63 : Int) < 0 then Word.int64.neg (-2^63) else -2^63) 1) 2 =
        -2^62 + 1 := by decide
    rw [half]
    omega

/-- The size of a quotient as the code rounds it. -/
def roundedSize (a b : Int) : Nat :=
  a.natAbs / b.natAbs + if 2^63 - 1 ≤ b.natAbs ∨ b.natAbs ≤ 2 * (a.natAbs % b.natAbs) then 1 else 0

theorem roundDiv_int64 (left : Word.int64.fits a) (right : Word.int64.fits b) (nonzero : b ≠ 0)
    (room : a ≠ -2^63 ∨ b ≠ -1) : Amount.roundDiv .int64 a b =
      Word.int64.wrap (if a < 0 ↔ b < 0 then (roundedSize a b : Int) else -roundedSize a b) := by
  have rest : (if a.tmod b < 0 then Word.int64.neg (a.tmod b) else a.tmod b) = (a.natAbs % b.natAbs : Nat) := by
    have size := Int.natAbs_tmod a b
    have small := Nat.mod_lt a.natAbs (show 0 < b.natAbs by omega)
    obtain ⟨low, high⟩ := right
    split
    · rw [Word.neg, Word.int64.wrap_of_fits _ ⟨by omega, by omega⟩]
      omega
    · omega
  have quotient := tdiv_signed a b
  have fits : Word.int64.fits (a.tdiv b) := by
    rw [← int64_tdiv left nonzero room]
    exact Word.int64.fits_wrap _
  simp only [Amount.roundDiv, if_neg nonzero, int64_tdiv left nonzero room, int64_tmod right nonzero, rest,
    threshold_met right]
  unfold roundedSize
  split
  · split
    · next same =>
      rw [if_pos same] at quotient
      rw [Word.add, quotient, Nat.cast_add, Nat.cast_one]
    · next differ =>
      rw [if_neg differ] at quotient
      rw [Word.sub, quotient, Nat.cast_add, Nat.cast_one, neg_add']
  · rw [Nat.add_zero, ← quotient, Word.int64.wrap_of_fits _ fits]

theorem roundedSize_tested (nonzero : b ≠ 0) (tested : HalfTested a b) :
    roundedSize a b = (2 * a.natAbs + b.natAbs) / (2 * b.natAbs) := by
  rw [nearest_size _ (by omega), roundedSize]
  congr 1
  refine if_congr ?_ rfl rfl
  rcases tested with small | half
  · omega
  · exact iff_of_true (.inr half) half

theorem roundedSize_untested (untested : ¬ HalfTested a b) :
    roundedSize a b = (2 * a.natAbs + b.natAbs) / (2 * b.natAbs) + 1 ∧ 2^63 - 1 ≤ b.natAbs := by
  obtain ⟨large, rest⟩ := not_or.mp untested
  rw [nearest_size _ (by omega), roundedSize, if_pos (.inl (by omega)), if_neg rest]
  exact ⟨rfl, by omega⟩

/-- What the code rounds to is the nearest quotient when the half can be tested, and is one
too far when it cannot. -/
theorem roundDiv_nearest_iff (left : Word.int64.fits a) (right : Word.int64.fits b) (nonzero : b ≠ 0)
    (room : Word.int64.fits (roundHalfAway ((a : ℚ) / b))) :
    Amount.roundDiv .int64 a b = roundHalfAway ((a : ℚ) / b) ↔ HalfTested a b := by
  have quotient : a ≠ -2^63 ∨ b ≠ -1 := by
    by_contra both
    obtain ⟨rfl, rfl⟩ : a = -2^63 ∧ b = -1 := by omega
    rw [roundHalfAway_div _ (by decide)] at room
    exact absurd room.2 (by decide)
  rw [roundHalfAway_div a nonzero] at room ⊢
  rw [roundDiv_int64 left right nonzero quotient]
  by_cases tested : HalfTested a b
  · rw [roundedSize_tested nonzero tested, Word.int64.wrap_of_fits _ room]
    exact iff_of_true rfl tested
  · obtain ⟨more, large⟩ := roundedSize_untested tested
    refine iff_of_false ?_ tested
    obtain ⟨low, high⟩ := left
    have few : a.natAbs / b.natAbs ≤ 1 := by
      rw [← Nat.lt_succ_iff]
      exact Nat.div_lt_of_lt_mul (by omega)
    have size : roundedSize a b ≤ 2 := by
      unfold roundedSize
      split <;> omega
    rw [Word.int64.wrap_of_fits _ (by split <;> constructor <;> omega)]
    split <;> omega

end Division

section Amounts

variable {a c d : Int}

theorem roundedSize_mono (positive : 0 < d) (le : a.natAbs ≤ c.natAbs) : roundedSize a d ≤ roundedSize c d := by
  by_cases large : 2^63 - 1 ≤ d.natAbs
  · unfold roundedSize
    rw [if_pos (.inl large), if_pos (.inl large)]
    exact Nat.add_le_add_right (Nat.div_le_div_right le) 1
  · rw [roundedSize_tested positive.ne' (.inl (by omega)), roundedSize_tested positive.ne' (.inl (by omega))]
    exact Nat.div_le_div_right (by omega)

/-- By a positive divisor an amount is divided to one of its own sign. -/
theorem div_int64 (left : Word.int64.fits a) (right : Word.int64.fits d) (positive : 0 < d) :
    Amount.div .int64 a d = if a < 0 then -(roundedSize a d : Int) else roundedSize a d := by
  have signs : (a < 0 ↔ d < 0) ↔ ¬ a < 0 := by omega
  have fits : Word.int64.fits (if a < 0 then -(roundedSize a d : Int) else roundedSize a d) := by
    obtain ⟨low, high⟩ := left
    by_cases one : d.natAbs = 1
    · have size : roundedSize a d = a.natAbs := by
        unfold roundedSize
        rw [one, Nat.mod_one, Nat.div_one, if_neg (by omega)]
        rfl
      rw [size]
      split <;> constructor <;> omega
    · have half : a.natAbs / d.natAbs ≤ a.natAbs / 2 := Nat.div_le_div_left (by omega) (by decide)
      have size : roundedSize a d ≤ a.natAbs / d.natAbs + 1 := by
        unfold roundedSize
        split <;> omega
      split <;> constructor <;> omega
  rw [Amount.div, if_neg positive.ne', roundDiv_int64 left right positive.ne' (.inr (by omega))]
  by_cases below : a < 0
  · rw [if_neg (by rw [signs]; exact not_not_intro below)]
    rw [if_pos below] at fits ⊢
    exact Word.int64.wrap_of_fits _ fits
  · rw [if_pos (signs.mpr below)]
    rw [if_neg below] at fits ⊢
    exact Word.int64.wrap_of_fits _ fits

/-- Nothing is divided to nothing, but by the largest divisor. -/
theorem div_odd_iff (left : Word.int64.fits a) (opposite : Word.int64.fits (-a)) (right : Word.int64.fits d)
    (positive : 0 < d) :
    Amount.div .int64 (-a) d = -Amount.div .int64 a d ↔ a ≠ 0 ∨ d ≠ 2^63 - 1 := by
  have size : roundedSize (-a) d = roundedSize a d := by
    unfold roundedSize
    rw [Int.natAbs_neg]
  rw [div_int64 left right positive, div_int64 opposite right positive, size]
  rcases lt_trichotomy a 0 with below | rfl | above
  · rw [if_neg (by omega), if_pos below, neg_neg]
    exact iff_of_true rfl (.inl below.ne)
  · have nothing : roundedSize 0 d = if d = 2^63 - 1 then 1 else 0 := by
      obtain ⟨-, high⟩ := right
      unfold roundedSize
      rw [Int.natAbs_zero, Nat.zero_div, Nat.zero_mod, Nat.zero_add]
      exact if_congr (by omega) rfl rfl
    rw [neg_zero, if_neg (lt_irrefl 0), nothing]
    split <;> omega
  · rw [if_pos (by omega), if_neg (by omega)]
    exact iff_of_true rfl (.inl above.ne')

theorem div_mono (left : Word.int64.fits a) (other : Word.int64.fits c) (right : Word.int64.fits d) (positive : 0 < d)
    (le : a ≤ c) : Amount.div .int64 a d ≤ Amount.div .int64 c d := by
  rw [div_int64 left right positive, div_int64 other right positive]
  by_cases low : a < 0 <;> by_cases high : c < 0
  · have := @roundedSize_mono c a d positive (by omega)
    rw [if_pos low, if_pos high]
    omega
  · rw [if_pos low, if_neg high]
    omega
  · omega
  · have := @roundedSize_mono a c d positive (by omega)
    rw [if_neg low, if_neg high]
    omega

end Amounts

/-- Where the nearest quotient fits, the code finds it exactly when the half can be tested.
By a positive divisor the division is monotone, and odd unless nothing is divided by the
largest divisor. -/
theorem division_nearest (a b : Int) (left : Word.int64.fits a) (right : Word.int64.fits b) (nonzero : b ≠ 0)
    (room : Word.int64.fits (roundHalfAway ((a : ℚ) / b))) :
    (Amount.roundDiv .int64 a b = roundHalfAway ((a : ℚ) / b) ↔ HalfTested a b) ∧
      (0 < b → (Word.int64.fits (-a) → (Amount.div .int64 (-a) b = -Amount.div .int64 a b ↔ a ≠ 0 ∨ b ≠ 2^63 - 1)) ∧
        ∀ c, Word.int64.fits c → a ≤ c → Amount.div .int64 a b ≤ Amount.div .int64 c b) :=
  ⟨roundDiv_nearest_iff left right nonzero room, fun positive =>
    ⟨fun opposite => div_odd_iff left opposite right positive, fun _ other le => div_mono left other right positive le⟩⟩

/-- Five over minus two is minus two and a half, rounded to minus three. -/
theorem division_nearest_half : Amount.roundDiv .int64 5 (-2) = -3 := by
  have nearest : roundHalfAway (((5 : Int) : ℚ) / ((-2 : Int) : ℚ)) = -3 := by
    rw [roundHalfAway_div _ (by decide)]
    decide
  have room : Word.int64.fits (roundHalfAway (((5 : Int) : ℚ) / ((-2 : Int) : ℚ))) := by
    rw [nearest]
    exact ⟨by decide, by decide⟩
  rw [← nearest]
  exact (division_nearest 5 (-2) ⟨by decide, by decide⟩ ⟨by decide, by decide⟩ (by decide) room).1.mpr
    (.inl (by decide))

/-- Nothing over the largest divisor is one. -/
theorem division_nearest_largest :
    Word.int64.fits (2^63 - 1) ∧ roundHalfAway (((0 : Int) : ℚ) / ((2^63 - 1 : Int) : ℚ)) = 0 ∧
      Amount.roundDiv .int64 0 (2^63 - 1) = 1 ∧ Amount.div .int64 (-0) (2^63 - 1) ≠ -Amount.div .int64 0 (2^63 - 1) := by
  refine ⟨⟨by decide, by decide⟩, ?_, by decide, by decide⟩
  rw [Int.cast_zero, zero_div, roundHalfAway_zero]

end BeidarPos
