import Mathlib.Order.Monotone.Basic
import Mathlib.Tactic

/-! The civil calendar. Months are counted through, twelve to a year, from January of the year 0,
and a date is a month and a day which that month has. A day that a month does not have is
carried over to its neighbours. -/
namespace Calendar

def Leap (year : Int) : Prop := year % 4 = 0 ∧ (year % 100 ≠ 0 ∨ year % 400 = 0)

instance (year : Int) : Decidable (Leap year) := inferInstanceAs (Decidable (_ ∧ _))

def monthLength (month : Int) : Int :=
  if month % 12 = 1 then if Leap (month / 12) then 29 else 28
  else if month % 12 = 3 ∨ month % 12 = 5 ∨ month % 12 = 8 ∨ month % 12 = 10 then 30
  else 31

/-- Days from the first of January of the year 0. -/
def yearStart (year : Int) : Int := 365 * year + (year + 3) / 4 - (year + 99) / 100 + (year + 399) / 400

def monthStart (month : Int) : Int :=
  yearStart (month / 12) + ((List.range (month % 12).toNat).map fun k : Nat => monthLength (12 * (month / 12) + k)).sum

theorem monthLength_bounds (month : Int) : 28 ≤ monthLength month ∧ monthLength month ≤ 31 := by
  unfold monthLength
  split_ifs <;> omega

theorem yearStart_succ (year : Int) : yearStart (year + 1) = yearStart year + if Leap year then 366 else 365 := by
  unfold yearStart Leap
  split_ifs <;> omega

theorem monthLength_in (year : Int) {k : Int} (low : 0 ≤ k) (high : k < 12) :
    monthLength (12 * year + k) = if k = 1 then if Leap year then 29 else 28
      else if k = 3 ∨ k = 5 ∨ k = 8 ∨ k = 10 then 30 else 31 := by
  have place : (12 * year + k) % 12 = k := by omega
  have quotient : (12 * year + k) / 12 = year := by omega
  rw [monthLength, place, quotient]

/-- The twelve months fill the year. -/
theorem year_filled (year : Int) :
    ((List.range 12).map fun k : Nat => monthLength (12 * year + k)).sum = if Leap year then 366 else 365 := by
  have each : ((List.range 12).map fun k : Nat => monthLength (12 * year + k)) =
      [31, if Leap year then 29 else 28, 31, 30, 31, 30, 31, 31, 30, 31, 30, 31] := by
    have first := monthLength_in year (show (0 : Int) ≤ 0 by decide) (by decide)
    rw [add_zero] at first
    simp [List.range_succ, monthLength_in, first]
  rw [each]
  split <;> decide

theorem monthStart_succ (month : Int) : monthStart (month + 1) = monthStart month + monthLength month := by
  by_cases last : month % 12 = 11
  · have whole : month = 12 * (month / 12) + (11 : Nat) := by omega
    have next : (month + 1) / 12 = month / 12 + 1 := by omega
    have first : (month + 1) % 12 = 0 := by omega
    have filled := year_filled (month / 12)
    rw [List.range_succ, List.map_append, List.sum_append, List.map_singleton, List.sum_singleton, ← whole] at filled
    rw [monthStart, monthStart, next, first, last, yearStart_succ]
    change _ + _ + 0 = _ + ((List.range 11).map _).sum + _
    omega
  · have same : (month + 1) / 12 = month / 12 := by omega
    have next : ((month + 1) % 12).toNat = (month % 12).toNat + 1 := by omega
    have here : 12 * (month / 12) + ((month % 12).toNat : Int) = month := by omega
    rw [monthStart, monthStart, same, next, List.range_succ, List.map_append, List.sum_append, List.map_singleton,
      List.sum_singleton, here]
    omega

theorem monthStart_strictMono : StrictMono monthStart := by
  refine strictMono_int_of_lt_succ fun month => ?_
  have bounds := monthLength_bounds month
  rw [monthStart_succ]
  omega

/-- A day that the calendar has. -/
@[ext] structure Date where
  month : Int
  day : Int
  real : 1 ≤ day ∧ day ≤ monthLength month
  deriving DecidableEq

namespace Date

def year (date : Date) : Int := date.month / 12

/-- Days from the first of January of the year 0. -/
def number (date : Date) : Int := monthStart date.month + date.day - 1

theorem number_lt_of_month {a b : Date} (earlier : a.month < b.month) : a.number < b.number := by
  have next := monthStart_strictMono.monotone (show a.month + 1 ≤ b.month from earlier)
  have size := a.real
  have first := b.real
  rw [monthStart_succ] at next
  unfold number
  omega

theorem number_lt_iff {a b : Date} :
    a.number < b.number ↔ a.month < b.month ∨ a.month = b.month ∧ a.day < b.day := by
  rcases lt_trichotomy a.month b.month with earlier | same | later
  · have less := number_lt_of_month earlier
    omega
  · unfold number
    rw [same]
    omega
  · have less := number_lt_of_month later
    omega

theorem number_injective {a b : Date} (same : a.number = b.number) : a = b := by
  have below := not_congr (@number_lt_iff a b)
  have above := not_congr (@number_lt_iff b a)
  apply Date.ext <;> omega

end Date

/-- Carries a day that the month does not have to the month before or after. -/
def carry : Nat → Int → Int → Int × Int
  | 0, month, day => (month, day)
  | rounds + 1, month, day =>
    if day < 1 then carry rounds (month - 1) (day + monthLength (month - 1))
    else if monthLength month < day then carry rounds (month + 1) (day - monthLength month)
    else (month, day)

theorem carry_real (rounds : Nat) (month day : Int)
    (enough : day.natAbs < rounds ∨ 1 ≤ day ∧ day ≤ monthLength month) :
    (1 ≤ (carry rounds month day).2 ∧ (carry rounds month day).2 ≤ monthLength (carry rounds month day).1) ∧
      monthStart (carry rounds month day).1 + (carry rounds month day).2 = monthStart month + day := by
  induction rounds generalizing month day with
  | zero => exact ⟨by simpa [carry] using enough, rfl⟩
  | succ rounds ih =>
    have here := monthLength_bounds month
    have before := monthLength_bounds (month - 1)
    have next := monthStart_succ month
    have last := monthStart_succ (month - 1)
    rw [sub_add_cancel] at last
    by_cases low : day < 1
    · obtain ⟨real, same⟩ := ih (month - 1) (day + monthLength (month - 1)) (by omega)
      rw [carry, if_pos low]
      exact ⟨real, by omega⟩
    · by_cases high : monthLength month < day
      · obtain ⟨real, same⟩ := ih (month + 1) (day - monthLength month) (by omega)
        rw [carry, if_neg low, if_pos high]
        exact ⟨real, by omega⟩
      · rw [carry, if_neg low, if_neg high]
        exact ⟨by constructor <;> dsimp only <;> omega, rfl⟩

/-- The date of a month and a day, whether or not that month has it. -/
def normalize (month day : Int) : Date where
  month := (carry (day.natAbs + 1) month day).1
  day := (carry (day.natAbs + 1) month day).2
  real := (carry_real _ month day (.inl (Nat.lt_succ_self _))).1

theorem normalize_number (month day : Int) : (normalize month day).number = monthStart month + day - 1 := by
  have same := (carry_real _ month day (.inl (Nat.lt_succ_self _))).2
  exact congrArg (· - 1) same

theorem normalize_unique {month day : Int} {date : Date} (same : date.number = monthStart month + day - 1) :
    normalize month day = date :=
  Date.number_injective ((normalize_number month day).trans same.symm)

/-- A day past the end of a month is in the next. -/
theorem normalize_month {month day : Int} (positive : 1 ≤ day) (small : day ≤ 31) :
    (normalize month day).month = if day ≤ monthLength month then month else month + 1 := by
  have here := monthLength_bounds month
  have after := monthLength_bounds (month + 1)
  split
  · rename_i fits
    rw [@normalize_unique month day ⟨month, day, positive, fits⟩ rfl]
  · rename_i beyond
    have next := monthStart_succ month
    rw [@normalize_unique month day ⟨month + 1, day - monthLength month, by omega, by omega⟩
      (by unfold Date.number; dsimp only; omega)]

/-- Months and days added to a date, what the month does not have carried over. -/
def Date.addDate (date : Date) (months days : Int) : Date := normalize (date.month + months) (date.day + days)

section Addition

variable (date : Date) (months : Int)

theorem Date.addDate_number (days : Int) :
    (date.addDate months days).number = monthStart (date.month + months) + date.day + days - 1 := by
  rw [Date.addDate, normalize_number]
  omega

theorem Date.day_le : date.day ≤ 31 := date.real.2.trans (monthLength_bounds date.month).2

theorem Date.addMonths_month : (date.addDate months 0).month =
    if date.day ≤ monthLength (date.month + months) then date.month + months else date.month + months + 1 := by
  rw [Date.addDate, add_zero, normalize_month date.real.1 date.day_le]

theorem Date.addMonths_lt {m n : Int} (less : m < n) : (date.addDate m 0).number < (date.addDate n 0).number := by
  have starts := monthStart_strictMono (show date.month + m < date.month + n by omega)
  rw [Date.addDate_number, Date.addDate_number]
  omega

end Addition

end Calendar
