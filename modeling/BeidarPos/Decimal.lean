import BeidarPos.Rounding
import Mathlib.Data.Nat.Digits.Lemmas
import Mathlib.Data.List.TakeWhile

/-! Decimal notation of exact numbers: printing with two decimals, and reading a
numeral with sign, point and exponent. What was printed is read as the number rounded
to hundredths. -/
namespace Decimal

open Rounding

def digitChar (d : Nat) : Char := Char.ofNat (48 + d)

def isDigit (c : Char) : Bool := '0' ≤ c && c ≤ '9'

/-- The digits of a natural number, one at least. -/
def digits (n : Nat) : List Char := if n = 0 then ['0'] else (Nat.digits 10 n).reverse.map digitChar

def hundredths (q : ℚ) : Int := roundHalfEven (q * 100)

/-- `%.2f`. -/
def fixed2 (q : ℚ) : List Char :=
  let n := (hundredths q).natAbs
  (if q < 0 then ['-'] else []) ++ (digits (n / 100) ++ ['.', digitChar (n % 100 / 10), digitChar (n % 10)])

def valueOf (numeral : List Char) : Nat := numeral.foldl (fun v c => 10 * v + (c.toNat - 48)) 0

/-- Whether the sign is a minus, and what follows it. -/
def signOf : List Char → Bool × List Char
  | '-' :: rest => (true, rest)
  | '+' :: rest => (false, rest)
  | text => (false, text)

def signed (negative : Bool) (n : Int) : Int := if negative then -n else n

def fractionOf : List Char → List Char × List Char
  | '.' :: rest => (rest.takeWhile isDigit, rest.dropWhile isDigit)
  | text => ([], text)

def exponentOf : List Char → Option Int
  | [] => some 0
  | c :: rest =>
    let (negative, numeral) := signOf rest
    if (c = 'e' ∨ c = 'E') ∧ numeral ≠ [] ∧ numeral.all isDigit then some (signed negative (valueOf numeral)) else none

/-- A decimal numeral, or nothing where the text is none. -/
def parse (text : List Char) : Option ℚ :=
  let (negative, unsigned) := signOf text
  let whole := unsigned.takeWhile isDigit
  let (fraction, rest) := fractionOf (unsigned.dropWhile isDigit)
  if whole = [] ∧ fraction = [] then none
  else (exponentOf rest).map fun (exponent : Int) =>
    signed negative (valueOf (whole ++ fraction)) * (10 : ℚ) ^ (exponent - fraction.length)

theorem digitChar_digit : d < 10 → isDigit (digitChar d) = true ∧ (digitChar d).toNat - 48 = d := by
  intro small
  interval_cases d <;> decide

theorem digits_digit (n : Nat) : ∀ c ∈ digits n, isDigit c = true := by
  intro c member
  unfold digits at member
  split at member
  · rw [List.mem_singleton.mp member]
    decide
  · obtain ⟨d, inside, rfl⟩ := List.mem_map.mp member
    exact (digitChar_digit (Nat.digits_lt_base (by decide) (List.mem_reverse.mp inside))).1

theorem digits_nonempty (n : Nat) : digits n ≠ [] := by
  unfold digits
  split
  · simp
  · rename_i positive
    simpa [Nat.digits_eq_nil_iff_eq_zero] using positive

theorem valueOf_snoc (numeral : List Char) (d : Nat) (small : d < 10) :
    valueOf (numeral ++ [digitChar d]) = 10 * valueOf numeral + d := by
  simp [valueOf, (digitChar_digit small).2]

theorem valueOf_reversed (ds : List Nat) (small : ∀ d ∈ ds, d < 10) :
    valueOf (ds.reverse.map digitChar) = Nat.ofDigits 10 ds := by
  induction ds with
  | nil => rfl
  | cons d ds ih =>
    rw [List.reverse_cons, List.map_append, List.map_cons, List.map_nil, valueOf_snoc _ _ (small d (by simp)),
      ih (fun e member => small e (by simp [member])), Nat.ofDigits_cons]
    omega

theorem valueOf_digits (n : Nat) : valueOf (digits n) = n := by
  unfold digits
  split
  · rename_i zero
    subst zero
    decide
  · rw [valueOf_reversed _ (fun d member => Nat.digits_lt_base (by decide) member), Nat.ofDigits_digits]

/-- The two decimals extend the digits of the whole part. -/
theorem valueOf_decimals (n : Nat) :
    valueOf (digits (n / 100) ++ [digitChar (n % 100 / 10), digitChar (n % 10)]) = n := by
  have split : digits (n / 100) ++ [digitChar (n % 100 / 10), digitChar (n % 10)] =
      (digits (n / 100) ++ [digitChar (n % 100 / 10)]) ++ [digitChar (n % 10)] := by simp
  rw [split, valueOf_snoc _ _ (by omega), valueOf_snoc _ _ (by omega), valueOf_digits]
  omega

theorem takeWhile_digits (n : Nat) {c : Char} (other : isDigit c = false) (rest : List Char) :
    (digits n ++ c :: rest).takeWhile isDigit = digits n ∧ (digits n ++ c :: rest).dropWhile isDigit = c :: rest := by
  constructor
  · rw [List.takeWhile_append_of_pos (digits_digit n), List.takeWhile_cons_of_neg (by simp [other]), List.append_nil]
  · rw [List.dropWhile_append_of_pos (digits_digit n), List.dropWhile_cons_of_neg (by simp [other])]

theorem signOf_digits (n : Nat) (rest : List Char) : signOf (digits n ++ rest) = (false, digits n ++ rest) := by
  have first := digits_digit n
  have some := digits_nonempty n
  cases shown : digits n with
  | nil => exact absurd shown some
  | cons c text =>
    have digit : isDigit c = true := first c (by simp [shown])
    rw [List.cons_append]
    unfold signOf
    split
    · rename_i same
      cases same
      exact absurd digit (by decide)
    · rename_i same
      cases same
      exact absurd digit (by decide)
    · rfl

theorem signOf_fixed (q : ℚ) (n : Nat) (rest : List Char) :
    signOf ((if q < 0 then ['-'] else []) ++ (digits n ++ rest)) = (decide (q < 0), digits n ++ rest) := by
  by_cases negative : q < 0
  · simp [negative, signOf]
  · simp [negative, signOf_digits]

theorem hundredths_sign (q : ℚ) : signed (decide (q < 0)) (hundredths q).natAbs = hundredths q := by
  by_cases negative : q < 0
  · have := roundHalfEven_nonpos (q := q * 100) (by linarith)
    simp only [signed, negative, decide_true, if_true, hundredths]
    omega
  · have := roundHalfEven_nonneg (q := q * 100) (by linarith)
    simp only [signed, negative, decide_false, Bool.false_eq_true, if_false, hundredths]
    omega

theorem parse_fixed2 (q : ℚ) : parse (fixed2 q) = some ((hundredths q : ℚ) / 100) := by
  let n := (hundredths q).natAbs
  have small : n % 100 / 10 < 10 ∧ n % 10 < 10 := by omega
  have decimals : ∀ c ∈ [digitChar (n % 100 / 10), digitChar (n % 10)], isDigit c = true := by
    intro c member
    simp only [List.mem_cons, List.not_mem_nil, or_false] at member
    rcases member with rfl | rfl
    · exact (digitChar_digit small.1).1
    · exact (digitChar_digit small.2).1
  have whole := takeWhile_digits (n / 100) (c := '.') (by decide) [digitChar (n % 100 / 10), digitChar (n % 10)]
  have fraction : fractionOf ['.', digitChar (n % 100 / 10), digitChar (n % 10)] =
      ([digitChar (n % 100 / 10), digitChar (n % 10)], []) := by
    simp only [fractionOf]
    rw [List.takeWhile_eq_self_iff.mpr decimals, List.dropWhile_eq_nil_iff.mpr decimals]
  have shape : signOf (fixed2 q) =
      (decide (q < 0), digits (n / 100) ++ ['.', digitChar (n % 100 / 10), digitChar (n % 10)]) := signOf_fixed q _ _
  have signs : signed (decide (q < 0)) (n : Int) = hundredths q := hundredths_sign q
  simp only [parse, shape, whole.1, whole.2, fraction, exponentOf, Option.map_some, valueOf_decimals, signs,
    digits_nonempty, false_and, if_false]
  norm_num [zpow_neg, div_eq_mul_inv]

/-- A printed number has nothing in it but a sign, digits and the point. -/
theorem fixed2_chars (q : ℚ) : ∀ c ∈ fixed2 q, isDigit c = true ∨ c = '.' ∨ c = '-' := by
  intro c member
  have tens := (digitChar_digit (d := (hundredths q).natAbs % 100 / 10) (by omega)).1
  have ones := (digitChar_digit (d := (hundredths q).natAbs % 10) (by omega)).1
  simp only [fixed2, List.mem_append, List.mem_cons, List.not_mem_nil, or_false] at member
  rcases member with sign | whole | rfl | rfl | rfl
  · split at sign
    · exact .inr (.inr (List.mem_singleton.mp sign))
    · cases sign
  · exact .inl (digits_digit _ c whole)
  · exact .inr (.inl rfl)
  · exact .inl tens
  · exact .inl ones

theorem fixed2_nonempty (q : ℚ) : fixed2 q ≠ [] := by simp [fixed2]

/-- Two decimals are exact for hundredths and for nothing else. -/
theorem hundredths_exact (q : ℚ) : (hundredths q : ℚ) / 100 = q ↔ ∃ n : Int, q * 100 = n := by
  constructor
  · intro same
    refine ⟨hundredths q, ?_⟩
    rw [← div_mul_cancel₀ (hundredths q : ℚ) (show (100 : ℚ) ≠ 0 by norm_num), same]
  · rintro ⟨n, whole⟩
    rw [hundredths, whole, roundHalfEven_intCast, ← whole]
    field_simp

example : fixed2 (25/2) = ['1', '2', '.', '5', '0'] := by decide +kernel

end Decimal
