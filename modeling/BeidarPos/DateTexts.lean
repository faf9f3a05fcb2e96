import BeidarPos.Calendar
import BeidarPos.Decimal
import Mathlib.Data.String.Basic

/-! Dates as texts: the year in four digits or more, the month and the day in two. Texts of years
with four digits are ordered as their dates are. -/
namespace Calendar

open Decimal

/-- A number with zeros in front. -/
def padded (width n : Nat) : List Char := List.replicate (width - (digits n).length) '0' ++ digits n

def yearText (year : Int) : List Char := (if year < 0 then ['-'] else []) ++ padded 4 year.natAbs

/-- `2006-01`. -/
def monthText (month : Int) : List Char := yearText (month / 12) ++ '-' :: padded 2 (month % 12 + 1).toNat

/-- `2006-01-02`. -/
def Date.text (date : Date) : List Char := monthText date.month ++ '-' :: padded 2 date.day.toNat

def Date.format (date : Date) : String := String.ofList date.text

def Date.FourDigits (date : Date) : Prop := 0 ≤ date.year ∧ date.year < 10000

section Padding

variable {width n m : Nat}

theorem digits_length {k : Nat} (small : n < 10 ^ (k + 1)) : (digits n).length ≤ k + 1 := by
  unfold digits
  split
  · simp
  · simpa using (Nat.digits_length_le_iff (by decide) n).mpr small

theorem padded_length {k : Nat} (small : n < 10 ^ (k + 1)) : (padded (k + 1) n).length = k + 1 := by
  have length := digits_length small
  simp only [padded, List.length_append, List.length_replicate]
  omega

theorem padded_digit : ∀ c ∈ padded width n, isDigit c = true := by
  intro c member
  rcases List.mem_append.mp member with zero | digit
  · rw [List.eq_of_mem_replicate zero]
    decide
  · exact digits_digit n c digit

theorem valueOf_zeros (k : Nat) (text : List Char) : valueOf (List.replicate k '0' ++ text) = valueOf text := by
  induction k with
  | zero => rfl
  | succ k ih =>
    rw [← ih]
    rfl

theorem valueOf_padded : valueOf (padded width n) = n := by
  rw [padded, valueOf_zeros, valueOf_digits]

theorem padded_injective (same : padded width n = padded width m) : n = m := by
  rw [← @valueOf_padded width n, same, valueOf_padded]

end Padding

section Months

/-- Two digits are enough for months and days. -/
theorem padded_month (month : Int) : (padded 2 (month % 12 + 1).toNat).length = 2 :=
  padded_length (by omega)

theorem padded_day (date : Date) : (padded 2 date.day.toNat).length = 2 := by
  have size := date.real
  have bounds := monthLength_bounds date.month
  exact padded_length (by omega)

theorem yearText_sign (year : Int) : '-' ∈ yearText year ↔ year < 0 := by
  have digit : '-' ∉ padded 4 year.natAbs := fun member => absurd (padded_digit _ member) (by decide)
  unfold yearText
  split <;> simp_all

theorem yearText_injective {a b : Int} (same : yearText a = yearText b) : a = b := by
  have sign : a < 0 ↔ b < 0 := by rw [← yearText_sign, same, yearText_sign]
  have size : a.natAbs = b.natAbs := by
    unfold yearText at same
    by_cases negative : a < 0
    · rw [if_pos negative, if_pos (sign.mp negative)] at same
      exact padded_injective (List.append_cancel_left same)
    · rw [if_neg negative, if_neg (sign.not.mp negative)] at same
      exact padded_injective (List.append_cancel_left same)
  omega

theorem monthText_injective {a b : Int} (same : monthText a = monthText b) : a = b := by
  obtain ⟨years, months⟩ := List.append_inj' same (by simp [padded_month])
  have year := yearText_injective years
  have month := padded_injective (List.cons.inj months).2
  omega

theorem Date.text_injective {a b : Date} (same : a.text = b.text) : a = b := by
  obtain ⟨months, days⟩ := List.append_inj' same (by simp [padded_day])
  have month := monthText_injective months
  have day := padded_injective (List.cons.inj days).2
  have left := a.real
  have right := b.real
  exact Date.ext month (by omega)

theorem Date.format_injective {a b : Date} (same : a.format = b.format) : a = b :=
  Date.text_injective (by simpa [Date.format] using congrArg String.toList same)

end Months

section Order

/-- Texts with a part of one length in front are ordered by that part first. -/
theorem append_lt {a b s t : List Char} (same : a.length = b.length) : a ++ s < b ++ t ↔ a < b ∨ a = b ∧ s < t := by
  induction a generalizing b with
  | nil =>
    rw [List.eq_nil_of_length_eq_zero same.symm]
    simp
  | cons c a ih =>
    cases b with
    | nil => exact absurd same (by simp)
    | cons d b =>
      rw [List.cons_append, List.cons_append, List.cons_lt_cons_iff, List.cons_lt_cons_iff, ih (by simpa using same),
        List.cons.injEq]
      tauto

theorem valueOf_cons (c : Char) (text : List Char) :
    valueOf (c :: text) = (c.toNat - 48) * 10 ^ text.length + valueOf text := by
  induction text using List.reverseRecOn with
  | nil => simp [valueOf]
  | append_singleton text d ih =>
    have front : valueOf (c :: (text ++ [d])) = 10 * valueOf (c :: text) + (d.toNat - 48) := by simp [valueOf]
    have back : valueOf (text ++ [d]) = 10 * valueOf text + (d.toNat - 48) := by simp [valueOf]
    rw [front, back, ih, List.length_append, List.length_singleton, pow_succ]
    ring

theorem digit_range {c : Char} (digit : isDigit c = true) : 48 ≤ c.toNat ∧ c.toNat ≤ 57 := by
  simp only [isDigit, Bool.and_eq_true, decide_eq_true_eq] at digit
  exact ⟨digit.1, digit.2⟩

theorem valueOf_lt {text : List Char} (digits : ∀ c ∈ text, isDigit c = true) : valueOf text < 10 ^ text.length := by
  induction text with
  | nil => simp [valueOf]
  | cons c text ih =>
    have rest := ih fun d member => digits d (List.mem_cons_of_mem _ member)
    have range := digit_range (digits c List.mem_cons_self)
    have first := Nat.mul_le_mul_right (10 ^ text.length) (show c.toNat - 48 ≤ 9 by omega)
    rw [valueOf_cons, List.length_cons, pow_succ]
    omega

/-- Numerals of one length are ordered as their numbers. -/
theorem numeral_lt {a b : List Char} (same : a.length = b.length) (left : ∀ c ∈ a, isDigit c = true)
    (right : ∀ c ∈ b, isDigit c = true) : a < b ↔ valueOf a < valueOf b := by
  induction a generalizing b with
  | nil =>
    rw [List.eq_nil_of_length_eq_zero same.symm]
    simp
  | cons c a ih =>
    cases b with
    | nil => exact absurd same (by simp)
    | cons d b =>
      have length : a.length = b.length := by simpa using same
      have restLeft := fun x member => left x (List.mem_cons_of_mem c member)
      have restRight := fun x member => right x (List.mem_cons_of_mem d member)
      have smallLeft := valueOf_lt restLeft
      have smallRight := valueOf_lt restRight
      have rangeLeft := digit_range (left c List.mem_cons_self)
      have rangeRight := digit_range (right d List.mem_cons_self)
      have less : c < d ↔ c.toNat < d.toNat := Iff.rfl
      rw [List.cons_lt_cons_iff, ih length restLeft restRight, valueOf_cons, valueOf_cons, length, less]
      rw [length] at smallLeft
      constructor
      · rintro (smaller | ⟨rfl, rest⟩)
        · have step := Nat.mul_le_mul_right (10 ^ b.length) (show c.toNat - 48 + 1 ≤ d.toNat - 48 by omega)
          rw [Nat.succ_mul] at step
          omega
        · omega
      · intro smaller
        by_cases equal : c = d
        · subst equal
          exact .inr ⟨rfl, by omega⟩
        · refine .inl (by_contra fun above => ?_)
          have differ : c.toNat ≠ d.toNat := fun codes => equal (Char.toNat_inj.mp codes)
          have step := Nat.mul_le_mul_right (10 ^ b.length) (show d.toNat - 48 + 1 ≤ c.toNat - 48 by omega)
          rw [Nat.succ_mul] at step
          omega

theorem padded_lt {k n m : Nat} (left : n < 10 ^ (k + 1)) (right : m < 10 ^ (k + 1)) :
    padded (k + 1) n < padded (k + 1) m ↔ n < m := by
  rw [numeral_lt ((padded_length left).trans (padded_length right).symm) padded_digit padded_digit, valueOf_padded,
    valueOf_padded]

theorem dash_lt {a b : List Char} : '-' :: a < '-' :: b ↔ a < b := by
  simp

theorem yearText_padded {year : Int} (nonneg : 0 ≤ year) : yearText year = padded 4 year.natAbs := by
  rw [yearText, if_neg (by omega), List.nil_append]

theorem monthText_length {month : Int} (nonneg : 0 ≤ month / 12) (small : month / 12 < 10000) :
    (monthText month).length = 7 := by
  have year : (padded 4 (month / 12).natAbs).length = 4 := padded_length (by omega)
  simp [monthText, yearText_padded nonneg, year, padded_month]

theorem monthText_lt {a b : Int} (left : 0 ≤ a / 12 ∧ a / 12 < 10000) (right : 0 ≤ b / 12 ∧ b / 12 < 10000) :
    monthText a < monthText b ↔ a < b := by
  have years : (padded 4 (a / 12).natAbs).length = (padded 4 (b / 12).natAbs).length :=
    (padded_length (by omega)).trans (padded_length (by omega)).symm
  rw [monthText, monthText, yearText_padded left.1, yearText_padded right.1, append_lt years, dash_lt,
    padded_lt (by omega) (by omega), padded_lt (by omega) (by omega)]
  have same : padded 4 (a / 12).natAbs = padded 4 (b / 12).natAbs ↔ (a / 12).natAbs = (b / 12).natAbs :=
    ⟨padded_injective, fun equal => by rw [equal]⟩
  rw [same]
  omega

/-- Texts of dates are ordered as the dates. -/
theorem Date.text_lt {a b : Date} (left : a.FourDigits) (right : b.FourDigits) :
    a.text < b.text ↔ a.number < b.number := by
  have size := a.real
  have other := b.real
  have bounds := monthLength_bounds a.month
  have limits := monthLength_bounds b.month
  have same : monthText a.month = monthText b.month ↔ a.month = b.month :=
    ⟨monthText_injective, fun equal => by rw [equal]⟩
  rw [Date.text, Date.text, append_lt ((monthText_length left.1 left.2).trans (monthText_length right.1 right.2).symm),
    dash_lt, monthText_lt left right, padded_lt (by omega) (by omega), same, Date.number_lt_iff]
  omega

theorem Date.format_le {a b : Date} (left : a.FourDigits) (right : b.FourDigits) :
    a.format ≤ b.format ↔ a.number ≤ b.number := by
  rw [← not_lt, ← not_lt, ← Date.text_lt right left, String.lt_iff_toList_lt]
  simp [Date.format]

end Order

end Calendar
