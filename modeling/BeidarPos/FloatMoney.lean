import BeidarPos.Binary64
import BeidarPos.CsvRoundTrip
import BeidarPos.FloatImport

/-! Amounts and the doubles they pass through. An amount leaves the program as a decimal text of the
double nearest to it and comes back through another one; quantities and percentages multiply it as
doubles. Where the numbers are not too large this is exact, and the results are those of exact
rationals. -/
namespace BeidarPos

open Machine Rounding

namespace Amount

/-- `Float`. -/
def float64 (a : Int) : ℚ := Binary64.round (Binary64.round a / 100)

def mulFloat64 (a : Int) (factor : ℚ) : Int := roundHalfAway (Binary64.round (Binary64.round a * factor))

def percentage64 (a : Int) (p : ℚ) : Int :=
  roundHalfAway (Binary64.round (Binary64.round a * Binary64.round (p / 100)))

/-- `String`: the sign, the units and the two digits of the hundredths. -/
def string (a : Int) : String :=
  if a = -2^63 then "-92233720368547758.08"
  else
    let cents := (if a < 0 then -a else a).toNat
    String.ofList ((if a < 0 then ['-'] else []) ++
      (Decimal.digits (cents / 100) ++ ['.', Decimal.digitChar (cents % 100 / 10), Decimal.digitChar (cents % 10)]))

def marshalJSON (a : Int) : String := String.ofList (Decimal.fixed2 (float64 a))

end Amount

namespace FloatCalls

variable (calls : FloatCalls)

/-- `NewAmount`: a product too large for a double is an infinity. -/
def newAmount (v : ℚ) : Int :=
  if Binary64.limit ≤ |Binary64.round (v * 100)| then calls.beyond (.infinity (v < 0))
  else
    let n := roundHalfAway (Binary64.round (v * 100))
    if -2^63 ≤ n ∧ n < 2^63 then n else calls.beyond (.finite n)

/-- A number that does not parse, or is no finite one, is an error. -/
def readAmount (text : String) : Option Int :=
  match calls.parseFloat text with
  | ⟨.finite v, false⟩ => some (calls.newAmount v)
  | _ => none

/-- The text between quotes, where it stands between them. -/
def unquoted (data : List Char) : List Char :=
  if data.head? = some '"' ∧ data.getLast? = some '"' then data.tail.dropLast else data

def unmarshalJSON (data : String) : Option Int :=
  if data = "" then some 0 else calls.readAmount (String.ofList (unquoted data.toList))

def parseAmount (s : String) : Option Int := if s = "" then some 0 else calls.readAmount (trimSpace s)

/-- A decimal text is read as the double nearest to it. -/
structure Nearest : Prop where
  reads : ∀ text q, Decimal.parse text.toList = some q → |Binary64.round q| < Binary64.limit →
    calls.parseFloat text = ⟨.finite (Binary64.round q), false⟩

end FloatCalls

section Exact

variable {a : Int}

/-- The double of an amount below `2 ^ 45` units, in hundredths. -/
theorem double_error (small : |a| < 100 * 2^45) : |Binary64.round ((a : ℚ) / 100) * 100 - a| ≤ 100 * 2 ^ (-9 : Int) := by
  have below : |(a : ℚ) / 100| < 2 ^ (45 : Int) := by
    have size : |(a : ℚ)| < 100 * 2 ^ 45 := by exact_mod_cast small
    rw [abs_div, abs_of_pos (by norm_num : (0 : ℚ) < 100), div_lt_iff₀ (by norm_num)]
    calc |(a : ℚ)| < 100 * 2 ^ 45 := size
      _ = 2 ^ (45 : Int) * 100 := by norm_num
  have near := Binary64.round_error_lt below (by norm_num)
  calc |Binary64.round ((a : ℚ) / 100) * 100 - a| = |Binary64.round ((a : ℚ) / 100) - a / 100| * 100 := by
        rw [← abs_of_pos (by norm_num : (0 : ℚ) < 100), ← abs_mul, abs_of_pos (by norm_num : (0 : ℚ) < 100)]
        congr 1
        ring
    _ ≤ 2 ^ (45 - 54 : Int) * 100 := mul_le_mul_of_nonneg_right near (by norm_num)
    _ = 100 * 2 ^ (-9 : Int) := by norm_num

/-- What is printed of the double are the hundredths of the amount. -/
theorem hundredths_double (small : |a| < 100 * 2^45) : Decimal.hundredths (Binary64.round ((a : ℚ) / 100)) = a := by
  refine roundHalfEven_near (lt_of_le_of_lt (double_error small) ?_)
  norm_num

/-- The double read back is the amount. -/
theorem newAmount_double (small : |a| < 100 * 2^45) :
    |Binary64.round (Binary64.round ((a : ℚ) / 100) * 100) - a| < 1/2 := by
  have first := double_error small
  have size : |(a : ℚ)| < 100 * 2 ^ 45 := by exact_mod_cast small
  have below : |Binary64.round ((a : ℚ) / 100) * 100| < 2 ^ (52 : Int) := by
    have sum := abs_add_le (Binary64.round ((a : ℚ) / 100) * 100 - a) a
    rw [sub_add_cancel] at sum
    have tiny : (100 : ℚ) * 2 ^ (-9 : Int) < 1 := by norm_num
    have room : (100 : ℚ) * 2 ^ 45 + 1 < 2 ^ (52 : Int) := by norm_num
    linarith
  have second := Binary64.round_error_lt below (by norm_num)
  have sum := abs_add_le (Binary64.round (Binary64.round ((a : ℚ) / 100) * 100) - Binary64.round ((a : ℚ) / 100) * 100)
    (Binary64.round ((a : ℚ) / 100) * 100 - a)
  rw [sub_add_sub_cancel] at sum
  have halves : (2 : ℚ) ^ (52 - 54 : Int) + 100 * 2 ^ (-9 : Int) < 1/2 := by norm_num
  linarith

/-- The largest amount up to which every one survives the doubles. -/
def largestExact : Int := 100 * 2^45 + 1

/-- The amounts that size and their opposites, and those one less. -/
def edgeAmounts : List Int := [100 * 2^45, -(100 * 2^45), 100 * 2^45 + 1, -(100 * 2^45 + 1)]

theorem edges_printed : ∀ a ∈ edgeAmounts, Decimal.hundredths (Binary64.round ((a : ℚ) / 100)) = a := by
  decide +kernel

theorem edges_read : ∀ a ∈ edgeAmounts, |Binary64.round (Binary64.round ((a : ℚ) / 100) * 100) - a| < 1/2 := by
  decide +kernel

theorem exact_cases (exact : |a| ≤ largestExact) :
    |a| < 100 * 2^45 ∨ a ∈ edgeAmounts := by
  have split : |a| < 100 * 2^45 ∨ |a| = 100 * 2^45 ∨ |a| = 100 * 2^45 + 1 := by
    unfold largestExact at exact
    omega
  rcases split with below | edge | last
  · exact .inl below
  · rcases (abs_eq (by norm_num)).mp edge with same | same <;> exact .inr (by rw [same]; decide)
  · rcases (abs_eq (by norm_num)).mp last with same | same <;> exact .inr (by rw [same]; decide)

theorem hundredths_exact (exact : |a| ≤ largestExact) : Decimal.hundredths (Binary64.round ((a : ℚ) / 100)) = a := by
  rcases exact_cases exact with small | edge
  · exact hundredths_double small
  · exact edges_printed a edge

theorem newAmount_exact (exact : |a| ≤ largestExact) :
    |Binary64.round (Binary64.round ((a : ℚ) / 100) * 100) - a| < 1/2 := by
  rcases exact_cases exact with small | edge
  · exact newAmount_double small
  · exact edges_read a edge

theorem float64_exact (exact : |a| ≤ largestExact) : Amount.float64 a = Binary64.round ((a : ℚ) / 100) := by
  have whole : |a| ≤ 2^53 := exact.trans (by norm_num [largestExact])
  rw [Amount.float64, Binary64.round_intCast whole]

end Exact

section Texts

variable {a : Int} {calls : FloatCalls}

theorem hundredths_cents (a : Int) : Decimal.hundredths ((a : ℚ) / 100) = a := by
  rw [Decimal.hundredths, div_mul_cancel₀ _ (by norm_num), roundHalfEven_intCast]

/-- An amount prints as the hundredths it is. -/
theorem string_fixed (a : Int) : Amount.string a = String.ofList (Decimal.fixed2 ((a : ℚ) / 100)) := by
  unfold Amount.string
  split
  · rename_i least
    subst least
    decide +kernel
  · have sign : ((a : ℚ) / 100 < 0) ↔ a < 0 := by
      rw [div_neg_iff]
      constructor
      · rintro (⟨_, impossible⟩ | ⟨negative, _⟩)
        · norm_num at impossible
        · exact_mod_cast negative
      · exact fun negative => .inr ⟨by exact_mod_cast negative, by norm_num⟩
    have size : (if a < 0 then -a else a).toNat = a.natAbs := by
      split <;> omega
    simp only [Decimal.fixed2, hundredths_cents, sign, size]

theorem parse_cents (a : Int) : Decimal.parse (Decimal.fixed2 ((a : ℚ) / 100)) = some ((a : ℚ) / 100) := by
  rw [Decimal.parse_fixed2, hundredths_cents]

/-- A text is read as the amount next to the double it parses to. -/
theorem readAmount_near (nearest : calls.Nearest) {text : List Char} {q : ℚ} (parsed : Decimal.parse text = some q)
    (value : |Binary64.round q| < 2^54) (whole : |a| ≤ 2^53)
    (rounded : roundHalfAway (Binary64.round (Binary64.round q * 100)) = a) :
    calls.readAmount (String.ofList text) = some a := by
  have room : (2 : ℚ)^54 ≤ Binary64.limit := Binary64.pow_le_limit (by norm_num)
  have product : |Binary64.round (Binary64.round q * 100)| < Binary64.limit := by
    have size : |(a : ℚ)| ≤ 2^53 := by exact_mod_cast whole
    have error := roundHalfAway_error (Binary64.round (Binary64.round q * 100))
    rw [rounded, abs_sub_comm] at error
    have sum := abs_add_le (Binary64.round (Binary64.round q * 100) - a) a
    rw [sub_add_cancel] at sum
    norm_num at room size error
    linarith
  have int64 : -2^63 ≤ a ∧ a < 2^63 := by
    have bounds := abs_le.mp whole
    omega
  have amount : calls.newAmount (Binary64.round q) = a := by
    unfold FloatCalls.newAmount
    rw [if_neg (not_le.mpr product)]
    simp only [rounded, if_pos int64]
  unfold FloatCalls.readAmount
  rw [nearest.reads (String.ofList text) q (by rw [String.toList_ofList, parsed]) (value.trans_le room)]
  exact congrArg some amount

/-- A text that parses as the amount is read as the amount. -/
theorem readAmount_exact (nearest : calls.Nearest) (exact : |a| ≤ largestExact) {text : List Char}
    (parsed : Decimal.parse text = some ((a : ℚ) / 100)) : calls.readAmount (String.ofList text) = some a := by
  have whole : |a| ≤ 2^53 := exact.trans (by norm_num [largestExact])
  have size : |(a : ℚ)| ≤ 2^53 := by exact_mod_cast whole
  refine readAmount_near nearest parsed ?_ whole (roundHalfAway_near (newAmount_exact exact))
  have units : |(a : ℚ) / 100| < 2 ^ (53 : Int) := by
    rw [abs_div, abs_of_pos (by norm_num : (0 : ℚ) < 100), div_lt_iff₀ (by norm_num)]
    norm_num at size ⊢
    linarith
  have error := Binary64.round_error_lt units (by norm_num)
  have sum := abs_add_le (Binary64.round ((a : ℚ) / 100) - a / 100) (a / 100)
  rw [sub_add_cancel] at sum
  norm_num at units error ⊢
  linarith

theorem fixed2_unquoted (q : ℚ) : FloatCalls.unquoted (Decimal.fixed2 q) = Decimal.fixed2 q := by
  refine if_neg ?_
  rintro ⟨first, _⟩
  have member := List.mem_of_mem_head? (by rw [first]; rfl : '"' ∈ (Decimal.fixed2 q).head?)
  rcases Decimal.fixed2_chars q _ member with digit | point | minus
  · exact absurd digit (by decide)
  · exact absurd point (by decide)
  · exact absurd minus (by decide)

theorem unquoted_quoted (text : List Char) : FloatCalls.unquoted ('"' :: text ++ ['"']) = text := by
  unfold FloatCalls.unquoted
  rw [if_pos ⟨rfl, by rw [List.cons_append, List.getLast?_cons, List.getLast?_concat]; rfl⟩]
  exact List.dropLast_concat

theorem marshalJSON_exact (exact : |a| ≤ largestExact) :
    Decimal.parse (Decimal.fixed2 (Amount.float64 a)) = some ((a : ℚ) / 100) := by
  rw [Decimal.parse_fixed2, float64_exact exact, hundredths_exact exact]

theorem unmarshalJSON_text {text : List Char} (nonempty : text ≠ []) :
    calls.unmarshalJSON (String.ofList text) = calls.readAmount (String.ofList (FloatCalls.unquoted text)) := by
  unfold FloatCalls.unmarshalJSON
  rw [if_neg (by simpa using nonempty), String.toList_ofList]

/-- An amount that comes back whole: from its JSON number, from the same text in quotes, and from what it
prints as. -/
structure FloatCalls.Survives (calls : FloatCalls) (a : Int) : Prop where
  number : calls.unmarshalJSON (Amount.marshalJSON a) = some a
  quoted : calls.unmarshalJSON ("\"" ++ Amount.marshalJSON a ++ "\"") = some a
  printed : calls.parseAmount (Amount.string a) = some a

theorem survives_exact (nearest : calls.Nearest) (exact : |a| ≤ largestExact) : calls.Survives a where
  number := by
    rw [Amount.marshalJSON, unmarshalJSON_text (Decimal.fixed2_nonempty _), fixed2_unquoted]
    exact readAmount_exact nearest exact (marshalJSON_exact exact)
  quoted := by
    have text : "\"" ++ Amount.marshalJSON a ++ "\"" =
        String.ofList ('"' :: Decimal.fixed2 (Amount.float64 a) ++ ['"']) := by
      rw [Amount.marshalJSON, String.ofList_append, String.ofList_cons]
      rfl
    rw [text, unmarshalJSON_text (by simp), unquoted_quoted]
    exact readAmount_exact nearest exact (marshalJSON_exact exact)
  printed := by
    unfold FloatCalls.parseAmount
    rw [string_fixed, if_neg (by simpa using Decimal.fixed2_nonempty _),
      trimSpace_plain (fun c member => (numeral_plain _ c member).1)]
    exact readAmount_exact nearest exact (parse_cents a)

/-- The first amount that comes back as another one. -/
theorem survives_beyond (nearest : calls.Nearest) : ¬calls.Survives (largestExact + 1) := by
  intro survives
  have parsed : Decimal.parse (Decimal.fixed2 (Amount.float64 (largestExact + 1))) =
      some (((largestExact + 1 : Int) : ℚ) / 100) := by
    rw [Decimal.parse_fixed2]
    decide +kernel
  have read := readAmount_near (a := largestExact + 2) nearest parsed (by decide +kernel) (by decide) (by decide +kernel)
  have same := survives.number
  rw [Amount.marshalJSON, unmarshalJSON_text (Decimal.fixed2_nonempty _), fixed2_unquoted, read] at same
  exact absurd same (by decide)

/-- The amounts that come back from their texts are those up to the largest one, and no larger range. -/
theorem amounts_survive_iff (nearest : calls.Nearest) (n : Int) :
    (∀ a, |a| ≤ n → calls.Survives a) ↔ n ≤ largestExact := by
  constructor
  · intro all
    by_contra beyond
    refine survives_beyond nearest (all (largestExact + 1) ?_)
    rw [abs_of_nonneg (by decide)]
    omega
  · exact fun below a small => survives_exact nearest (small.trans below)

/-- A parser that reads what is a decimal, and finds a number beyond the doubles out of range. -/
def nearestCalls : FloatCalls where
  parseFloat text :=
    match Decimal.parse text.toList with
    | some q =>
        if |Binary64.round q| < Binary64.limit then ⟨.finite (Binary64.round q), false⟩ else ⟨.infinity (q < 0), true⟩
    | none => ⟨.finite 0, true⟩
  beyond _ := -2^63
  column x := x

theorem amounts_survive_iff_nearest :
    (∀ a, |a| ≤ largestExact → nearestCalls.Survives a) ↔ largestExact ≤ largestExact :=
  amounts_survive_iff ⟨fun text q parsed small => by simp only [nearestCalls, parsed, if_pos small]⟩ largestExact

end Texts

section Products

variable {a k : Int} {d : Nat} {f : ℚ}

/-- The unit of the errors. -/
def ulp : ℚ := 2 ^ (-53 : Int)

/-- A fraction that is not halfway between two integers is a part away from there. -/
theorem half_distance {n : Int} (positive : 0 < d) (untied : 2 * n % (2 * d) ≠ d) (m : Int) :
    1 / (2 * d) ≤ |(n : ℚ) / d - (m + 1/2)| := by
  have nonzero : (d : ℚ) ≠ 0 := Nat.cast_ne_zero.mpr positive.ne'
  have apart : 2 * n - (2 * m + 1) * d ≠ 0 := by
    intro same
    have tie : 2 * n = d + 2 * d * m := by linarith
    rw [tie, Int.add_mul_emod_self_left, Int.emod_eq_of_lt (by omega) (by omega)] at untied
    exact untied rfl
  have gap : (1 : ℚ) ≤ |((2 * n - (2 * m + 1) * d : Int) : ℚ)| := by exact_mod_cast Int.one_le_abs apart
  have parts : (n : ℚ) / d - (m + 1/2) = ((2 * n - (2 * m + 1) * d : Int) : ℚ) / (2 * d) := by
    push_cast
    field_simp
  have size : (0 : ℚ) < 2 * d := by exact_mod_cast Nat.mul_pos two_pos positive
  rw [parts, abs_div, abs_of_pos size]
  exact div_le_div_of_nonneg_right gap size.le

theorem fraction_normal (n : Int) (positive : 0 < d) (parts : d ≤ 2^53) :
    (n : ℚ) / d = 0 ∨ 2 ^ (-53 : Int) ≤ |(n : ℚ) / d| := by
  have size : (0 : ℚ) < d := Nat.cast_pos.mpr positive
  rcases eq_or_ne n 0 with rfl | nonzero
  · exact .inl (by simp)
  · right
    have one : (1 : ℚ) ≤ |(n : ℚ)| := by exact_mod_cast Int.one_le_abs nonzero
    have denominator : (d : ℚ) ≤ 2^53 := by exact_mod_cast parts
    rw [abs_div, abs_of_pos size, le_div_iff₀ size]
    calc (2 : ℚ) ^ (-53 : Int) * d ≤ 2 ^ (-53 : Int) * 2 ^ 53 := mul_le_mul_of_nonneg_left denominator (by norm_num)
      _ = 1 := by norm_num
      _ ≤ |(n : ℚ)| := one

/-- A double near a fraction is rounded like it, unless the fraction is halfway between two integers. -/
theorem rounds_like {n : Int} {p : ℚ} (near : Binary64.Within (5 * ulp) p (n / d)) (positive : 0 < d) (small : |n| ≤ 2^49)
    (untied : 2 * n % (2 * d) ≠ d) : roundHalfAway p = roundHalfAway (n / d) := by
  have size : (0 : ℚ) < d := Nat.cast_pos.mpr positive
  have bound : |(n : ℚ)| ≤ 2^49 := by exact_mod_cast small
  refine roundHalfAway_stable fun m => ?_
  calc |p - n / d| ≤ 5 * ulp * |(n : ℚ) / d| := near
    _ = 5 * ulp * |(n : ℚ)| / d := by rw [abs_div, abs_of_pos size, mul_div_assoc]
    _ ≤ 5 * ulp * 2^49 / d :=
        div_le_div_of_nonneg_right (mul_le_mul_of_nonneg_left bound (by norm_num [ulp])) size.le
    _ < 1 / (2 * d) := by
        rw [div_lt_div_iff₀ size (by linarith)]
        norm_num [ulp]
        linarith
    _ ≤ |(n : ℚ) / d - (m + 1/2)| := half_distance positive untied m

/-- So is the double of the product of an amount and a double near the factor. -/
theorem product_exact (near : Binary64.Within (3 * ulp) f (k / d)) (positive : 0 < d) (parts : d ≤ 2^53)
    (small : |a * k| ≤ 2^49) (untied : 2 * (a * k) % (2 * d) ≠ d) :
    roundHalfAway (Binary64.round (a * f)) = roundHalfAway (a * (k / d)) := by
  have fraction : (a : ℚ) * (k / d) = (a * k : Int) / d := by
    push_cast
    exact (mul_div_assoc _ _ _).symm
  have scaled := near.mul_left (a : ℚ)
  rw [fraction] at scaled ⊢
  have normal := scaled.normal (n := -54) (by norm_num [ulp]) (fraction_normal _ positive parts)
  have rounded := scaled.trans (Binary64.Within.of_round
    (normal.imp_right (le_trans (zpow_le_zpow_right₀ (by norm_num) (by norm_num))))) (by norm_num)
  exact rounds_like (rounded.mono (by norm_num [ulp])) positive small untied

theorem fraction_within (k : Int) (positive : 0 < d) (parts : d ≤ 2^53) :
    Binary64.Within ulp (Binary64.round (k / d)) (k / d) :=
  Binary64.Within.of_round
    ((fraction_normal k positive parts).imp_right (le_trans (zpow_le_zpow_right₀ (by norm_num) (by norm_num))))

end Products

end BeidarPos
