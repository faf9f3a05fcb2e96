import BeidarPos.Backup
import BeidarPos.RoundedDivision

/-! Discounts and what one is worth on a sale. A value is a float that the code turns
into integers: within 64 bits the result is fixed, beyond them each platform has its own. -/
namespace BeidarPos

open Machine Relational Rounding

inductive DiscountType where
  | percentage | fixed | quantity | buyXgetY
  | other (name : String) (unlisted : name ∉ ["percentage", "fixed", "quantity", "buyXgetY"])
  deriving DecidableEq

structure Discount where
  id : String
  name : String
  type : DiscountType
  value : ℚ
  minPurchase : Int
  maxDiscount : Int
  startDate : String
  endDate : String
  code : String
  productIDs : List String
  categoryIDs : List String
  usageLimit : Int
  usageCount : Int
  active : Bool
  createdAt : Int
  deriving DecidableEq

/-- How a platform turns a float into a 64-bit integer. -/
structure Conversion extends Machine.Word where
  sized : ∀ x, fits x ↔ Word.int64.fits x

section Platforms

/-- What is out of range becomes one value: the least integer on an x86-64 processor. -/
def integerOr (value x : Int) : Int := if -2^63 ≤ x ∧ x < 2^63 then x else value

theorem integerOr_same {value : Int} (x : Int) (fits : Word.int64.fits x) : integerOr value x = x := if_pos fits

theorem integerOr_fits {value : Int} (fits : Word.int64.fits value) (x : Int) : Word.int64.fits (integerOr value x) := by
  unfold integerOr
  split
  · assumption
  · exact fits

theorem int64_sized (x : Int) : Word.int64.fits x ↔ Word.int64.fits x := Iff.rfl

def platform (value : Int) (fits : Word.int64.fits value) : Conversion where
  fits := Word.int64.fits
  wrap := integerOr value
  wrap_of_fits := integerOr_same
  fits_wrap := integerOr_fits fits
  fits_zero := Word.int64.fits_zero
  fits_between := Word.int64.fits_between
  sized := int64_sized

theorem least_fits : Word.int64.fits (-2^63) := ⟨le_rfl, by decide⟩

theorem greatest_fits : Word.int64.fits (2^63 - 1) := ⟨by decide, by decide⟩

end Platforms

namespace Discount

variable (d : Discount)

/-- The cap first, then no less than nothing. -/
def capped (amount : Int) : Int :=
  let amount := if 0 < d.maxDiscount ∧ d.maxDiscount < amount then d.maxDiscount else amount
  if amount < 0 then 0 else amount

/-- What the type of the discount makes of the sale, before the cap. -/
def raw (c : Conversion) (subtotal itemsCount : Int) : Except Failure Int :=
  match d.type with
  | .percentage => .ok (Amount.percentage c.toWord subtotal d.value)
  | .fixed => .ok (c.wrap (newAmount d.value))
  | .quantity =>
    .ok (if c.wrap (truncate d.value) ≤ itemsCount then Amount.percentage c.toWord subtotal 10 else 0)
  | .buyXgetY =>
    .ok (if c.wrap (truncate d.value) ≤ itemsCount then Amount.div .int64 subtotal itemsCount else 0)
  | .other _ _ => .error (.app ⟨.product, "INVALID_DISCOUNT_TYPE", .plain "نوع الخصم غير صالح", .plain "", "type", false⟩)

end Discount

def calculateDiscountAmount (c : Conversion) (discounts : Table Discount.id) (discountID : String)
    (subtotal itemsCount : Int) : Except Failure Int :=
  match discounts.find? discountID with
  | none => .error (.wrapped (.plain "failed to get discount for calculation") .recordNotFound)
  | some d =>
    if 0 < d.minPurchase ∧ subtotal < d.minPurchase then .ok 0
    else (d.raw c subtotal itemsCount).map d.capped

section Capped

variable {d : Discount} {a b : Int}

theorem capped_eq : d.capped a = max 0 (if 0 < d.maxDiscount then min d.maxDiscount a else a) := by
  simp only [Discount.capped]
  split <;> split <;> split <;> omega

theorem capped_nonneg : 0 ≤ d.capped a := by
  rw [capped_eq]
  exact le_max_left _ _

theorem capped_le_max (set : 0 < d.maxDiscount) : d.capped a ≤ d.maxDiscount := by
  rw [capped_eq, if_pos set]
  omega

theorem capped_mono (le : a ≤ b) : d.capped a ≤ d.capped b := by
  rw [capped_eq, capped_eq]
  split <;> omega

theorem capped_nonpos (le : a ≤ 0) : d.capped a = 0 := by
  rw [capped_eq]
  split <;> omega

theorem capped_le_iff {n : Int} (nonneg : 0 ≤ n) :
    d.capped a ≤ n ↔ 0 < d.maxDiscount ∧ d.maxDiscount ≤ n ∨ a ≤ n := by
  rw [capped_eq]
  split <;> omega

end Capped

section Division

variable {s n : Int}

theorem div_int64_nonpos (nonneg : 0 ≤ s) (fits : Word.int64.fits s) (nonpos : n ≤ 0) :
    Amount.div .int64 s n ≤ 0 := by
  rcases nonpos.lt_or_eq with negative | zero
  · have small : s.tdiv n ≤ 0 := Int.tdiv_nonpos_of_nonneg_of_nonpos nonneg negative.le
    have size : (s.tdiv n).natAbs ≤ s.natAbs := Int.natAbs_tdiv_le_natAbs s n
    have high := fits.2
    have quotient : Word.int64.quot s n = s.tdiv n := Word.int64.wrap_of_fits _ ⟨by omega, by omega⟩
    have down : Word.int64.sub (s.tdiv n) 1 = s.tdiv n - 1 := Word.int64.wrap_of_fits _ ⟨by omega, by omega⟩
    have signs : ¬ (s < 0 ↔ n < 0) := by omega
    simp only [Amount.div, Amount.roundDiv, if_neg negative.ne, quotient, if_neg signs, down]
    split <;> omega
  · rw [Amount.div, if_pos zero]

/-- A quotient passes what is divided only where nothing is divided by the largest divisor. -/
theorem div_int64_le_iff (nonneg : 0 ≤ s) (fits : Word.int64.fits s) (size : Word.int64.fits n) :
    Amount.div .int64 s n ≤ s ↔ s ≠ 0 ∨ n ≠ 2^63 - 1 := by
  rcases le_or_gt n 0 with nonpos | positive
  · exact iff_of_true ((div_int64_nonpos nonneg fits nonpos).trans nonneg) (.inr (by omega))
  · have rest := Nat.mod_lt s.natAbs (show 0 < n.natAbs by omega)
    rw [div_int64 fits size positive, if_neg (by omega)]
    unfold roundedSize
    by_cases one : n.natAbs = 1
    · rw [one, Nat.div_one, Nat.mod_one, if_neg (by omega)]
      omega
    · have half : s.natAbs / n.natAbs ≤ s.natAbs / 2 := Nat.div_le_div_left (by omega) (by decide)
      by_cases none : s = 0
      · subst none
        obtain ⟨-, high⟩ := size
        rw [Int.natAbs_zero, Nat.zero_div, Nat.zero_mod]
        split <;> omega
      · refine iff_of_true ?_ (.inl none)
        split <;> omega

theorem div_int64_mono {d : Discount} {t : Int} (nonneg : 0 ≤ s) (le : s ≤ t) (fits : Word.int64.fits t)
    (size : Word.int64.fits n) : d.capped (Amount.div .int64 s n) ≤ d.capped (Amount.div .int64 t n) := by
  have fits' := Word.int64.fits_of_le fits nonneg le
  rcases le_or_gt n 0 with nonpos | positive
  · rw [capped_nonpos (div_int64_nonpos nonneg fits' nonpos)]
    exact capped_nonneg
  · exact capped_mono (div_mono fits' fits size positive le)

end Division

namespace Discount

variable (d : Discount)

/-- The conversion that makes the amount keeps within the word. -/
def InRange (subtotal : Int) : Prop :=
  match d.type with
  | .percentage => Word.int64.fits (roundHalfAway (subtotal * (d.value / 100)))
  | .fixed => Word.int64.fits (newAmount d.value)
  | .quantity | .buyXgetY | .other _ _ => True

/-- What a type makes of the sale is no more than the sale: a percentage up to one hundred,
or above it by less than half a cent; a fixed value up to the sale; an item of the sale. -/
def Affordable (subtotal itemsCount : Int) : Prop :=
  match d.type with
  | .percentage => subtotal * (d.value - 100) < 50
  | .fixed => newAmount d.value ≤ subtotal
  | .buyXgetY => subtotal ≠ 0 ∨ itemsCount ≠ 2^63 - 1
  | .quantity | .other _ _ => True

end Discount

section Raw

variable {c : Conversion} {d : Discount} {subtotal itemsCount : Int}

theorem convert_fits {x : Int} (fits : Word.int64.fits x) : c.wrap x = x := c.wrap_of_fits x ((c.sized x).mpr fits)

/-- A part of a sale by a percentage between none and all of it is in range. -/
theorem percentage_part {p : ℚ} (nonneg : 0 ≤ subtotal) (fits : Word.int64.fits subtotal) (low : 0 ≤ p) (high : p ≤ 100) :
    Word.int64.fits (roundHalfAway (subtotal * (p / 100))) := by
  have sale : (0 : ℚ) ≤ subtotal := Int.cast_nonneg nonneg
  refine Word.int64.fits_of_le fits (roundHalfAway_nonneg (by positivity)) ?_
  rw [roundHalfAway_le_iff nonneg]
  have : (subtotal : ℚ) * (p / 100) ≤ subtotal * 1 := mul_le_mul_of_nonneg_left (by linarith) sale
  linarith

theorem percentage_le_iff {p : ℚ} (nonneg : 0 ≤ subtotal) :
    roundHalfAway (subtotal * (p / 100)) ≤ subtotal ↔ subtotal * (p - 100) < 50 := by
  rw [roundHalfAway_le_iff nonneg]
  constructor <;> intro less <;> linarith

theorem raw_le_iff {a : Int} (nonneg : 0 ≤ subtotal) (fits : Word.int64.fits subtotal)
    (size : Word.int64.fits itemsCount) (inRange : d.InRange subtotal) (given : d.raw c subtotal itemsCount = .ok a) :
    a ≤ subtotal ↔ d.Affordable subtotal itemsCount := by
  rcases kind : d.type with _ | _ | _ | _ | ⟨name, unlisted⟩ <;>
    simp only [Discount.raw, Discount.InRange, Discount.Affordable, kind, Except.ok.injEq, reduceCtorEq] at given inRange ⊢
  · rw [← given, Amount.percentage, convert_fits inRange]
    exact percentage_le_iff nonneg
  · rw [← given, convert_fits inRange]
  · refine iff_of_true ?_ trivial
    rw [← given]
    split
    · rw [Amount.percentage, convert_fits (percentage_part nonneg fits (by norm_num) (by norm_num)),
        percentage_le_iff nonneg]
      have sale : (0 : ℚ) ≤ subtotal := Int.cast_nonneg nonneg
      linarith
    · exact nonneg
  · rw [← given]
    split
    · exact div_int64_le_iff nonneg fits size
    · next short =>
      refine iff_of_true nonneg (.inr fun last => short ?_)
      have converted := (c.sized _).mp (c.fits_wrap (truncate d.value))
      rw [last]
      exact Int.le_sub_one_of_lt converted.2

/-- On a smaller sale a discount is worth no more. -/
theorem raw_mono {a b smaller : Int} (nonneg : 0 ≤ smaller) (le : smaller ≤ subtotal) (fits : Word.int64.fits subtotal)
    (size : Word.int64.fits itemsCount) (inRange : d.InRange subtotal) (given : d.raw c subtotal itemsCount = .ok a)
    (less : d.raw c smaller itemsCount = .ok b) : d.capped b ≤ d.capped a := by
  have share (p : ℚ) (low : 0 ≤ p) : roundHalfAway (smaller * (p / 100)) ≤ roundHalfAway (subtotal * (p / 100)) := by
    apply roundHalfAway_monotone
    have sales : (smaller : ℚ) ≤ subtotal := Int.cast_le.mpr le
    exact mul_le_mul_of_nonneg_right sales (by positivity)
  rcases kind : d.type with _ | _ | _ | _ | ⟨name, unlisted⟩ <;>
    simp only [Discount.raw, Discount.InRange, kind, Except.ok.injEq, reduceCtorEq] at given less inRange
  · rw [← given, ← less, Amount.percentage, Amount.percentage, convert_fits inRange]
    have sale : (0 : ℚ) ≤ smaller := Int.cast_nonneg nonneg
    have sales : (smaller : ℚ) ≤ subtotal := Int.cast_le.mpr le
    rcases le_or_gt 0 d.value with low | negative
    · have part := share d.value low
      rw [convert_fits (Word.int64.fits_of_le inRange (roundHalfAway_nonneg (by positivity)) part)]
      exact capped_mono part
    · have below : (smaller : ℚ) * (d.value / 100) ≤ 0 := mul_nonpos_of_nonneg_of_nonpos sale (by linarith)
      have lower : (subtotal : ℚ) * (d.value / 100) ≤ smaller * (d.value / 100) :=
        mul_le_mul_of_nonpos_right sales (by linarith)
      rw [convert_fits (Word.int64.fits_between _ 0 _ inRange Word.int64.fits_zero (roundHalfAway_monotone lower)
        (roundHalfAway_nonpos below)), capped_nonpos (roundHalfAway_nonpos below)]
      exact capped_nonneg
  · rw [← given, ← less]
  · rw [← given, ← less]
    split
    · have low : (0 : ℚ) ≤ 10 := by norm_num
      have high : (10 : ℚ) ≤ 100 := by norm_num
      rw [Amount.percentage, Amount.percentage, convert_fits (percentage_part (nonneg.trans le) fits low high),
        convert_fits (percentage_part nonneg (Word.int64.fits_of_le fits nonneg le) low high)]
      exact capped_mono (share 10 low)
    · exact le_rfl
  · rw [← given, ← less]
    split
    · exact div_int64_mono nonneg le fits size
    · exact le_rfl

end Raw

/-- What a call answers with is no more than the sale and than the cap, and, where the
conversion is in range, no less than what the same discount is worth on any smaller sale. -/
def SoundAmount (c : Conversion) (discounts : Table Discount.id) (d : Discount) (subtotal itemsCount : Int) : Prop :=
  ∀ amount, calculateDiscountAmount c discounts d.id subtotal itemsCount = .ok amount →
    0 ≤ amount ∧ amount ≤ subtotal ∧ (0 < d.maxDiscount → amount ≤ d.maxDiscount) ∧
    (d.InRange subtotal → ∀ smaller less, 0 ≤ smaller → smaller ≤ subtotal →
      calculateDiscountAmount c discounts d.id smaller itemsCount = .ok less → less ≤ amount)

/-- Below the minimum, capped within the sale, or affordable by its type; nothing is more
than the greatest sale. -/
def Discount.Bounded (d : Discount) (subtotal itemsCount : Int) : Prop :=
  0 < d.minPurchase ∧ subtotal < d.minPurchase ∨ 0 < d.maxDiscount ∧ d.maxDiscount ≤ subtotal ∨
    d.InRange subtotal ∧ d.Affordable subtotal itemsCount ∨ subtotal = 2^63 - 1

theorem raw_below {c : Conversion} {d : Discount} {subtotal itemsCount a : Int} (positive : 0 < subtotal)
    (fits : Word.int64.fits subtotal) (size : Word.int64.fits itemsCount)
    (given : d.raw c subtotal itemsCount = .ok a) : a < 2^63 := by
  have converted (x : Int) : c.wrap x < 2^63 := ((c.sized _).mp (c.fits_wrap x)).2
  rcases kind : d.type with _ | _ | _ | _ | ⟨name, unlisted⟩ <;>
    simp only [Discount.raw, kind, Except.ok.injEq, reduceCtorEq] at given
  · rw [← given]
    exact converted _
  · rw [← given]
    exact converted _
  · rw [← given]
    split
    · exact converted _
    · decide
  · rw [← given]
    split
    · have within := (div_int64_le_iff positive.le fits size).mpr (.inl positive.ne')
      exact within.trans_lt fits.2
    · decide

/-- A type that gives no amount has no conversion to make either. -/
theorem raw_error {c : Conversion} {d : Discount} {subtotal itemsCount : Int} {e : Failure}
    (failed : d.raw c subtotal itemsCount = .error e) : d.InRange subtotal ∧ d.Affordable subtotal itemsCount := by
  rcases kind : d.type with _ | _ | _ | _ | ⟨name, unlisted⟩ <;>
    simp only [Discount.raw, Discount.InRange, Discount.Affordable, kind, reduceCtorEq, and_self] at failed ⊢

/-- Out of range a platform may answer with the greatest integer. -/
theorem raw_greatest {d : Discount} {subtotal itemsCount : Int} (outOfRange : ¬ d.InRange subtotal) :
    d.raw (platform _ greatest_fits) subtotal itemsCount = .ok (2^63 - 1) := by
  rcases kind : d.type with _ | _ | _ | _ | ⟨name, unlisted⟩ <;>
    simp only [Discount.raw, Discount.InRange, kind, not_true_eq_false] at outOfRange ⊢
  · exact congrArg Except.ok (if_neg outOfRange)
  · exact congrArg Except.ok (if_neg outOfRange)

section Sound

variable {discounts : Table Discount.id} {d : Discount} {subtotal itemsCount : Int}

theorem calculated (stored : d ∈ discounts.rows) (c : Conversion) (sale itemsCount : Int) :
    calculateDiscountAmount c discounts d.id sale itemsCount =
      if 0 < d.minPurchase ∧ sale < d.minPurchase then .ok 0 else (d.raw c sale itemsCount).map d.capped := by
  rw [calculateDiscountAmount, Table.find?_of_mem stored]

/-- Below its minimum a discount is worth nothing, and so it is on every smaller sale. -/
theorem sound_below (stored : d ∈ discounts.rows) (nonneg : 0 ≤ subtotal)
    (below : 0 < d.minPurchase ∧ subtotal < d.minPurchase) (c : Conversion) :
    SoundAmount c discounts d subtotal itemsCount := by
  intro amount given
  rw [calculated stored, if_pos below] at given
  obtain rfl := Except.ok.inj given
  refine ⟨le_rfl, nonneg, fun set => set.le, fun _ smaller less low le given' => ?_⟩
  rw [calculated stored, if_pos ⟨below.1, le.trans_lt below.2⟩] at given'
  exact (Except.ok.inj given').ge

/-- The two ends of what a platform may answer out of range decide. -/
theorem bounded_of_sound (stored : d ∈ discounts.rows) (nonneg : 0 ≤ subtotal) (fits : Word.int64.fits subtotal)
    (size : Word.int64.fits itemsCount) (reached : ¬ (0 < d.minPurchase ∧ subtotal < d.minPurchase))
    (sound : ∀ c, SoundAmount c discounts d subtotal itemsCount) : d.Bounded subtotal itemsCount := by
  have here (c : Conversion) : calculateDiscountAmount c discounts d.id subtotal itemsCount =
      (d.raw c subtotal itemsCount).map d.capped := by rw [calculated stored, if_neg reached]
  by_cases inRange : d.InRange subtotal
  · cases made : d.raw (platform _ least_fits) subtotal itemsCount with
    | error e => exact .inr (.inr (.inl (raw_error made)))
    | ok a =>
      have within := (sound (platform _ least_fits) _ (by rw [here, made]; rfl)).2.1
      rw [capped_le_iff nonneg, raw_le_iff nonneg fits size inRange made] at within
      rcases within with cap | affordable
      · exact .inr (.inl cap)
      · exact .inr (.inr (.inl ⟨inRange, affordable⟩))
  · have made : d.raw (platform _ greatest_fits) subtotal itemsCount = _ := raw_greatest inRange
    have within := (sound (platform _ greatest_fits) _ (by rw [here, made]; rfl)).2.1
    rw [capped_le_iff nonneg] at within
    rcases within with cap | greatest
    · exact .inr (.inl cap)
    · have := fits.2
      exact .inr (.inr (.inr (by omega)))

theorem sound_of_bounded (stored : d ∈ discounts.rows) (nonneg : 0 ≤ subtotal) (fits : Word.int64.fits subtotal)
    (size : Word.int64.fits itemsCount) (reached : ¬ (0 < d.minPurchase ∧ subtotal < d.minPurchase))
    (bounded : d.Bounded subtotal itemsCount) (c : Conversion) : SoundAmount c discounts d subtotal itemsCount := by
  intro amount given
  rw [calculated stored, if_neg reached] at given
  cases made : d.raw c subtotal itemsCount with
  | error e => simp [made, Except.map] at given
  | ok a =>
    rw [made] at given
    obtain rfl := Except.ok.inj given
    refine ⟨capped_nonneg, ?_, capped_le_max, fun inRange smaller less low le given' => ?_⟩
    · rw [capped_le_iff nonneg]
      rcases bounded with under | cap | ⟨inRange, affordable⟩ | greatest
      · exact absurd under reached
      · exact .inl cap
      · exact .inr ((raw_le_iff nonneg fits size inRange made).mpr affordable)
      · have := raw_below (by omega) fits size made
        exact .inr (by omega)
    · rw [calculated stored] at given'
      split at given'
      · obtain rfl := Except.ok.inj given'
        exact capped_nonneg
      · cases lower : d.raw c smaller itemsCount with
        | error e => simp [lower, Except.map] at given'
        | ok b =>
          rw [lower] at given'
          obtain rfl := Except.ok.inj given'
          exact raw_mono low le fits size inRange made lower

end Sound

/-- A fixed discount of fifty, without a minimum or a cap. -/
def welcome : Discount where
  id := "welcome"
  name := "خصم ترحيبي"
  type := .fixed
  value := 50
  minPurchase := 0
  maxDiscount := 0
  startDate := ""
  endDate := ""
  code := "HELLO"
  productIDs := []
  categoryIDs := []
  usageLimit := 0
  usageCount := 0
  active := true
  createdAt := 0

def welcomeTable : Table Discount.id := Table.empty.set welcome

end BeidarPos
