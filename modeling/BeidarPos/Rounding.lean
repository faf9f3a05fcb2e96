import Mathlib.Data.Rat.Floor
import Mathlib.Tactic

/-! Rounding of exact quantities to integers, and shares of an amount cut by a
truncating division. -/
namespace Rounding

/-- The nearest integer, halves away from zero. -/
def roundHalfAway (q : ℚ) : Int := if 0 ≤ q then ⌊q + 1/2⌋ else -⌊-q + 1/2⌋

/-- The integer part, toward zero. -/
def truncate (q : ℚ) : Int := if 0 ≤ q then ⌊q⌋ else ⌈q⌉

/-- The nearest integer, halves to the even one. -/
def roundHalfEven (q : ℚ) : Int :=
  if q - ⌊q⌋ < 1/2 ∨ (q - ⌊q⌋ = 1/2 ∧ ⌊q⌋ % 2 = 0) then ⌊q⌋ else ⌊q⌋ + 1

@[simp] theorem roundHalfAway_zero : roundHalfAway 0 = 0 := by
  norm_num [roundHalfAway]

theorem roundHalfAway_nonneg (h : 0 ≤ q) : 0 ≤ roundHalfAway q := by
  rw [roundHalfAway, if_pos h]
  exact Int.floor_nonneg.mpr (by linarith)

theorem roundHalfAway_intCast (n : Int) : roundHalfAway (n : ℚ) = n := by
  have half : ⌊(1 : ℚ) / 2⌋ = 0 := by norm_num
  unfold roundHalfAway
  split
  · rw [Int.floor_intCast_add, half, add_zero]
  · rw [← Int.cast_neg, Int.floor_intCast_add, half]
    omega

/-- `x` is rounded to `n`, halves up: it lies in the unit interval around `n`. -/
def Rounds (x : ℚ) (n : Int) : Prop := n - 1/2 ≤ x ∧ x < n + 1/2

theorem floor_half_iff : ⌊x + 1/2⌋ = n ↔ Rounds x n := by
  rw [Int.floor_eq_iff, Rounds]
  constructor
  · rintro ⟨low, high⟩
    exact ⟨by linarith, by linarith⟩
  · rintro ⟨low, high⟩
    exact ⟨by linarith, by linarith⟩

theorem roundHalfAway_iff (h : 0 ≤ q) : roundHalfAway q = n ↔ Rounds q n := by
  rw [roundHalfAway, if_pos h, floor_half_iff]

theorem roundHalfAway_neg (q : ℚ) : roundHalfAway (-q) = -roundHalfAway q := by
  unfold roundHalfAway
  rcases lt_trichotomy q 0 with below | rfl | above
  · rw [if_pos (by linarith), if_neg (by linarith), neg_neg]
  · norm_num
  · rw [if_neg (by linarith), if_pos above.le, neg_neg]

/-- A fraction of natural numbers, rounded. -/
theorem roundHalfAway_fraction (a : Nat) {b : Nat} (positive : 0 < b) :
    roundHalfAway ((a : ℚ) / b) = ((2 * a + b) / (2 * b) : Nat) := by
  have denominator : (0 : ℚ) < b := by exact_mod_cast positive
  have low : (2 * a + b) / (2 * b) * (2 * b) ≤ 2 * a + b := Nat.div_mul_le_self _ _
  have high : 2 * a + b < ((2 * a + b) / (2 * b) + 1) * (2 * b) := by
    have := Nat.lt_mul_div_succ (2 * a + b) (show 0 < 2 * b by omega)
    rwa [mul_comm (2 * b)] at this
  rw [roundHalfAway_iff (by positivity), Rounds, Int.cast_natCast]
  constructor
  · have low' : (((2 * a + b) / (2 * b) : Nat) : ℚ) * (2 * b) ≤ 2 * a + b := by exact_mod_cast low
    rw [le_div_iff₀ denominator]
    linarith
  · have high' : 2 * (a : ℚ) + b < (((2 * a + b) / (2 * b) : Nat) + 1) * (2 * b) := by exact_mod_cast high
    rw [div_lt_iff₀ denominator]
    linarith

/-- A fraction has the sign of its parts, and the size of the rounded fraction of theirs. -/
theorem roundHalfAway_div (a : Int) {b : Int} (nonzero : b ≠ 0) :
    roundHalfAway ((a : ℚ) / b) =
      if a < 0 ↔ b < 0 then (((2 * a.natAbs + b.natAbs) / (2 * b.natAbs) : Nat) : Int)
      else -((2 * a.natAbs + b.natAbs) / (2 * b.natAbs) : Nat) := by
  have positive : 0 < b.natAbs := by omega
  have size := roundHalfAway_fraction a.natAbs positive
  have above {x : Int} (h : ¬ x < 0) : ((x.natAbs : Nat) : ℚ) = x := by
    rw [Nat.cast_natAbs, abs_of_nonneg (by omega)]
  have below {x : Int} (h : x < 0) : ((x.natAbs : Nat) : ℚ) = -x := by
    rw [Nat.cast_natAbs, abs_of_neg h, Int.cast_neg]
  by_cases left : a < 0 <;> by_cases right : b < 0
  · rw [below left, below right, neg_div_neg_eq] at size
    rw [if_pos (by tauto), size]
  · rw [below left, above right, neg_div, roundHalfAway_neg] at size
    rw [if_neg (by tauto), ← size, neg_neg]
  · rw [above left, below right, div_neg, roundHalfAway_neg] at size
    rw [if_neg (by tauto), ← size, neg_neg]
  · rw [above left, above right] at size
    rw [if_pos (by tauto), size]

theorem roundHalfAway_nonpos (h : q ≤ 0) : roundHalfAway q ≤ 0 := by
  rcases h.lt_or_eq with below | zero
  · rw [roundHalfAway, if_neg (by linarith)]
    have := Int.floor_nonneg.mpr (by linarith : (0 : ℚ) ≤ -q + 1/2)
    omega
  · rw [zero, roundHalfAway_zero]

theorem roundHalfAway_le_iff (h : 0 ≤ n) : roundHalfAway q ≤ n ↔ q < n + 1/2 := by
  rcases le_or_gt 0 q with low | below
  · rw [roundHalfAway, if_pos low, Int.floor_le_iff]
    constructor <;> intro less <;> linarith
  · have nonneg : (0 : ℚ) ≤ n := Int.cast_nonneg h
    exact iff_of_true ((roundHalfAway_nonpos below.le).trans h) (by linarith)

theorem roundHalfAway_monotone : Monotone roundHalfAway := by
  intro p q le
  rcases le_or_gt 0 q with low | below
  · rw [roundHalfAway_le_iff (roundHalfAway_nonneg low), roundHalfAway, if_pos low]
    have := Int.lt_floor_add_one (q + 1/2)
    linarith
  · rw [roundHalfAway, if_neg (by linarith), roundHalfAway, if_neg (by linarith)]
    exact neg_le_neg (Int.floor_le_floor (by linarith))

theorem rounds_intCast (m n : Int) : Rounds (m : ℚ) n ↔ m = n := by
  rw [← floor_half_iff]
  have half : ⌊(1 : ℚ) / 2⌋ = 0 := by norm_num
  rw [Int.floor_intCast_add, half, add_zero]

/-- Adding an integer before rounding or after it is the same. -/
theorem rounds_add (m : Int) : Rounds (m + x) n ↔ Rounds x (n - m) := by
  unfold Rounds
  push_cast
  constructor
  · rintro ⟨low, high⟩
    exact ⟨by linarith, by linarith⟩
  · rintro ⟨low, high⟩
    exact ⟨by linarith, by linarith⟩

theorem roundHalfEven_intCast (n : Int) : roundHalfEven (n : ℚ) = n := by
  rw [roundHalfEven, if_pos (.inl (by norm_num)), Int.floor_intCast]

theorem roundHalfAway_error (q : ℚ) : |(roundHalfAway q : ℚ) - q| ≤ 1/2 := by
  unfold roundHalfAway
  split
  · have low := Int.floor_le (q + 1/2)
    have high := Int.lt_floor_add_one (q + 1/2)
    rw [abs_le]
    constructor <;> linarith
  · have low := Int.floor_le (-q + 1/2)
    have high := Int.lt_floor_add_one (-q + 1/2)
    push_cast
    rw [abs_le]
    constructor <;> linarith

/-- What is closer to an integer than the halves next to it rounds to it. -/
theorem roundHalfAway_near {q : ℚ} {n : Int} (near : |q - n| < 1/2) : roundHalfAway q = n := by
  obtain ⟨low, high⟩ := abs_lt.mp near
  unfold roundHalfAway
  split
  · exact Int.floor_eq_iff.mpr ⟨by linarith, by linarith⟩
  · have other : ⌊-q + 1/2⌋ = -n := Int.floor_eq_iff.mpr ⟨by push_cast; linarith, by push_cast; linarith⟩
    rw [other, neg_neg]

/-- A number that is closer to another than the halves are is rounded like it. -/
theorem roundHalfAway_stable {p q : ℚ} (closer : ∀ m : Int, |p - q| < |q - (m + 1/2)|) :
    roundHalfAway p = roundHalfAway q := by
  obtain ⟨low, high⟩ := abs_le.mp (roundHalfAway_error q)
  have up := closer (roundHalfAway q)
  have down := closer (roundHalfAway q - 1)
  rw [abs_of_nonpos (by linarith : q - (roundHalfAway q + 1/2) ≤ 0)] at up
  rw [abs_of_nonneg (by push_cast; linarith : 0 ≤ q - ((roundHalfAway q - 1 : Int) + 1/2))] at down
  push_cast at down
  obtain ⟨below, _⟩ := abs_lt.mp down
  obtain ⟨_, above⟩ := abs_lt.mp up
  exact roundHalfAway_near (abs_lt.mpr ⟨by linarith, by linarith⟩)

theorem roundHalfEven_error (q : ℚ) : |(roundHalfEven q : ℚ) - q| ≤ 1/2 := by
  have low := Int.floor_le q
  have high := Int.lt_floor_add_one q
  unfold roundHalfEven
  split
  · rename_i below
    have half : q - ⌊q⌋ ≤ 1/2 := below.elim le_of_lt fun tie => tie.1.le
    rw [abs_le]
    constructor <;> linarith
  · rename_i above
    have half : 1/2 ≤ q - ⌊q⌋ := not_lt.mp fun less => above (.inl less)
    push_cast
    rw [abs_le]
    constructor <;> linarith

theorem roundHalfEven_near {q : ℚ} {n : Int} (near : |q - n| < 1/2) : roundHalfEven q = n := by
  obtain ⟨low, high⟩ := abs_lt.mp near
  have error := abs_le.mp (roundHalfEven_error q)
  have below : (roundHalfEven q : ℚ) < n + 1 := by linarith [error.2]
  have above : (n : ℚ) - 1 < roundHalfEven q := by linarith [error.1]
  have below' : roundHalfEven q < n + 1 := by exact_mod_cast below
  have above' : n - 1 < roundHalfEven q := by exact_mod_cast above
  omega

theorem roundHalfEven_nonneg (h : 0 ≤ q) : 0 ≤ roundHalfEven q := by
  have := Int.floor_nonneg.mpr h
  unfold roundHalfEven
  split <;> omega

theorem roundHalfEven_nonpos (h : q ≤ 0) : roundHalfEven q ≤ 0 := by
  have floor : (⌊q⌋ : ℚ) ≤ q := Int.floor_le q
  have low : ⌊q⌋ ≤ 0 := by exact_mod_cast floor.trans h
  unfold roundHalfEven
  split
  · exact low
  · rename_i up
    -- a floor of zero would leave nothing to round up
    rcases low.lt_or_eq with below | zero
    · omega
    · rw [zero, Int.cast_zero, sub_zero] at up
      exact absurd (.inl (by linarith)) up

theorem truncate_nonneg (h : 0 ≤ q) : 0 ≤ truncate q := by
  rw [truncate, if_pos h]
  exact Int.floor_nonneg.mpr h

theorem truncate_monotone : Monotone truncate := by
  intro p q le
  unfold truncate
  split
  · rename_i low
    rw [if_pos (low.trans le)]
    exact Int.floor_le_floor le
  · rename_i negative
    split
    · rename_i low
      exact (Int.ceil_le.mpr (by push_cast; linarith)).trans (Int.floor_nonneg.mpr low)
    · exact Int.ceil_le_ceil le

theorem truncate_neg (q : ℚ) : truncate (-q) = -truncate q := by
  unfold truncate
  rcases lt_trichotomy q 0 with below | rfl | above
  · rw [if_pos (by linarith), if_neg (by linarith), Int.floor_neg]
  · simp
  · rw [if_neg (by linarith), if_pos above.le, Int.ceil_neg]

theorem truncate_error (q : ℚ) : |(truncate q : ℚ) - q| < 1 := by
  unfold truncate
  split
  · have low := Int.floor_le q
    have high := Int.lt_floor_add_one q
    rw [abs_lt]
    constructor <;> linarith
  · have low := Int.le_ceil q
    have high := Int.ceil_lt_add_one q
    rw [abs_lt]
    constructor <;> linarith

/-- Cutting each of some numbers or their sum differs by at most their count. -/
theorem sum_truncate_error (qs : List ℚ) : |(qs.map truncate).sum - truncate qs.sum| ≤ qs.length := by
  have parts : |((qs.map truncate).sum : ℚ) - qs.sum| ≤ qs.length := by
    induction qs with
    | nil => simp
    | cons q qs ih =>
      have head := abs_lt.mp (truncate_error q)
      have tail := abs_le.mp ih
      simp only [List.map_cons, List.sum_cons, List.length_cons, Int.cast_add, Nat.cast_add, Nat.cast_one]
      rw [abs_le]
      constructor <;> linarith
  have whole := abs_lt.mp (truncate_error qs.sum)
  generalize (qs.map truncate).sum = cut at parts ⊢
  have bounds := abs_le.mp parts
  have low : (truncate qs.sum : ℚ) - (qs.length + 1) < cut := by linarith
  have high : (cut : ℚ) < truncate qs.sum + (qs.length + 1) := by linarith
  have low' : truncate qs.sum - (qs.length + 1 : Int) < cut := by exact_mod_cast low
  have high' : cut < truncate qs.sum + (qs.length + 1 : Int) := by exact_mod_cast high
  rw [abs_le]
  constructor <;> omega

/-- The part of `amount` that `part` out of `whole` stands for, cut to an integer. -/
def share (amount part whole : Int) : Int := (amount * part).tdiv whole

theorem share_nonneg (ha : 0 ≤ amount) (hp : 0 ≤ part) (hw : 0 ≤ whole) : 0 ≤ share amount part whole :=
  Int.tdiv_nonneg (Int.mul_nonneg ha hp) hw

theorem share_eq_div (ha : 0 ≤ amount) (hp : 0 ≤ part) : share amount part whole = amount * part / whole :=
  Int.tdiv_eq_ediv_of_nonneg (Int.mul_nonneg ha hp)

theorem share_mono (ha : 0 ≤ amount) (hp : 0 ≤ part) (hw : 0 ≤ whole) (le : part ≤ more) :
    share amount part whole ≤ share amount more whole := by
  rcases hw.lt_or_eq with positive | rfl
  · rw [share_eq_div ha hp, share_eq_div ha (hp.trans le)]
    exact Int.ediv_le_ediv positive (Int.mul_le_mul_of_nonneg_left le ha)
  · simp [share]

theorem share_mul_le (ha : 0 ≤ amount) (hp : 0 ≤ part) (hw : 0 < whole) :
    share amount part whole * whole ≤ amount * part := by
  rw [share_eq_div ha hp]
  exact Int.ediv_mul_le _ (by omega)

/-- A share never exceeds what it is a share of. -/
theorem share_le_amount (ha : 0 ≤ amount) (hp : 0 ≤ part) (hw : 0 < whole) (le : part ≤ whole) :
    share amount part whole ≤ amount := by
  have h := share_mul_le ha hp hw
  have := Int.mul_le_mul_of_nonneg_left le ha
  exact le_of_mul_le_mul_right (h.trans this) hw

theorem share_le_part (ha : 0 ≤ amount) (hp : 0 ≤ part) (hw : 0 < whole) (le : amount ≤ whole) :
    share amount part whole ≤ part := by
  have h := share_mul_le ha hp hw
  have := Int.mul_le_mul_of_nonneg_right le hp
  rw [mul_comm whole part] at this
  exact le_of_mul_le_mul_right (h.trans this) hw

@[simp] theorem share_zero : share amount 0 whole = 0 := by simp [share]

theorem share_whole (hw : whole ≠ 0) : share whole part whole = part := by
  rw [share, mul_comm]
  exact Int.mul_tdiv_cancel _ hw

/-- The shares of the parts of a whole never add up to more than the amount. -/
theorem sum_shares_le (ha : 0 ≤ amount) (hw : 0 < whole) (parts : List Int) (hp : ∀ p ∈ parts, 0 ≤ p)
    (sum : parts.sum ≤ whole) : (parts.map (share amount · whole)).sum ≤ amount := by
  have scaled : (parts.map (share amount · whole)).sum * whole ≤ amount * parts.sum := by
    clear sum
    induction parts with
    | nil => simp
    | cons p ps ih =>
      have head := share_mul_le ha (hp p (by simp)) hw
      have tail := ih (fun q hq => hp q (by simp [hq]))
      simp only [List.map_cons, List.sum_cons, Int.add_mul, Int.mul_add]
      omega
  have := Int.mul_le_mul_of_nonneg_left sum ha
  exact le_of_mul_le_mul_right (scaled.trans this) hw

end Rounding
