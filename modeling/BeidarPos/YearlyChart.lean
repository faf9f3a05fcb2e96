import BeidarPos.Accounting
import BeidarPos.Statistics

/-! The chart of a year. Its twelve points are today with whole months taken off, so a month
without today's day is passed over and the month after it is shown twice. -/
namespace BeidarPos

open Calendar Machine Relational

section Readings

/-- The months and days of the due dates are those of the calendar. -/
theorem daysIn_monthLength {year month : Nat} (low : 1 ≤ month) (high : month ≤ 12) :
    (daysIn month year : Int) = monthLength (12 * year + (month - 1)) := by
  have leap : isLeap year = true ↔ Leap year := by
    simp only [isLeap, Leap, Bool.and_eq_true, Bool.or_eq_true, decide_eq_true_iff, ne_eq]
    omega
  rw [monthLength_in year (by omega) (by omega), daysIn]
  simp only [leap]
  split_ifs <;> first | rfl | omega

theorem dayNumber_monthStart {year month : Nat} (low : 1 ≤ month) (high : month ≤ 12) (day : Nat) :
    dayNumber year month day = monthStart (12 * year + (month - 1)) + (day - 1) := by
  have place : (12 * (year : Int) + (month - 1)) % 12 = (month - 1 : Nat) := by omega
  have whole : (12 * (year : Int) + (month - 1)) / 12 = year := by omega
  have lengths : (((List.range (month - 1)).map fun m => daysIn (m + 1) year).sum : Int) =
      ((List.range (month - 1)).map fun k : Nat => monthLength (12 * year + k)).sum := by
    rw [Nat.cast_list_sum, List.map_map]
    refine congrArg List.sum (List.map_congr_left fun k inside => ?_)
    have small := List.mem_range.mp inside
    rw [Function.comp, daysIn_monthLength (by omega) (by omega)]
    congr 1
    omega
  rw [dayNumber, lengths, monthStart, place, whole, Int.toNat_natCast, yearStart]

theorem digitsValue_padded (width n : Nat) : digitsValue (padded width n) = some n := by
  rw [digitsValue, if_pos (by simpa using padded_digit), valueOf_padded]

/-- The text of a date is read as that date. -/
theorem parseDate_format {date : Date} (four : date.FourDigits) : parseDate date.format = some date.number := by
  have year : yearText (date.month / 12) = padded 4 (date.month / 12).natAbs := yearText_padded four.1
  have nonneg : 0 ≤ date.month / 12 := four.1
  have small : date.month / 12 < 10000 := four.2
  have size := date.real
  have bounds := monthLength_bounds date.month
  have years : (padded 4 (date.month / 12).natAbs).length = 4 := padded_length (by omega)
  have months := padded_month date.month
  have days := padded_day date
  have readYear := digitsValue_padded 4 (date.month / 12).natAbs
  have readMonth := digitsValue_padded 2 (date.month % 12 + 1).toNat
  have readDay := digitsValue_padded 2 date.day.toNat
  have text : date.text = padded 4 (date.month / 12).natAbs ++ '-' :: padded 2 (date.month % 12 + 1).toNat ++
      '-' :: padded 2 date.day.toNat := by rw [Date.text, monthText, year]
  generalize padded 4 (date.month / 12).natAbs = y at years readYear text
  generalize padded 2 (date.month % 12 + 1).toNat = m at months readMonth text
  generalize padded 2 date.day.toNat = d at days readDay text
  obtain ⟨y₁, y₂, y₃, y₄, rfl⟩ := List.length_eq_four.mp years
  obtain ⟨m₁, m₂, rfl⟩ := List.length_eq_two.mp months
  obtain ⟨d₁, d₂, rfl⟩ := List.length_eq_two.mp days
  simp only [parseDate, Date.format, String.toList_ofList, text, List.cons_append, List.nil_append, readYear, readMonth,
    readDay, Option.bind_eq_bind, Option.bind_some]
  have place : 12 * ((date.month / 12).natAbs : Int) + (((date.month % 12 + 1).toNat : Int) - 1) = date.month := by omega
  have days : (daysIn (date.month % 12 + 1).toNat (date.month / 12).natAbs : Int) = monthLength date.month := by
    rw [daysIn_monthLength (by omega) (by omega), place]
  rw [if_pos ⟨by omega, by omega, by omega, by omega⟩, dayNumber_monthStart (by omega) (by omega), place, Date.number]
  congr 1
  omega

theorem strftime_month {date : Date} (four : date.FourDigits) :
    strftime .year date.format = String.ofList (monthText date.month) := by
  have front : date.text.take 7 = monthText date.month := by
    rw [Date.text, List.take_append_of_le_length (by rw [monthText_length four.1 four.2]), List.take_of_length_le]
    rw [monthText_length four.1 four.2]
  simp only [strftime, parseDate_format four]
  rw [Date.format, String.toList_ofList, front]

end Readings

section Sums

/-- The totals by key are those of the rows with the key. -/
theorem valueMap_rows {rows : List SaleRow} {key : SaleRow → String} {keys : List String} {results : List ChartDataResult}
    (answered : keys.mapM (fun k =>
      (sqlSum ((rows.filter fun sale => key sale = k).map SaleRow.total)).map (ChartDataResult.mk k)) =
      some results) (k : String) :
    valueMap results k = if k ∈ keys then ((rows.filter fun sale => key sale = k).map SaleRow.total).sum else 0 := by
  induction keys using List.reverseRecOn generalizing results with
  | nil =>
    cases answered
    rfl
  | append_singleton keys last ih =>
    rw [List.mapM_append] at answered
    obtain ⟨front, before, rest⟩ := Option.bind_eq_some_iff.mp answered
    obtain ⟨total, sum, rfl⟩ : ∃ total, sqlSum ((rows.filter fun sale => key sale = last).map SaleRow.total) = some total ∧
        results = front ++ [⟨last, total⟩] := by
      obtain ⟨value, sum, same⟩ : ∃ value,
          sqlSum ((rows.filter fun sale => key sale = last).map SaleRow.total) = some value ∧
            some (front ++ [⟨last, value⟩]) = some results := by
        cases summed : sqlSum ((rows.filter fun sale => key sale = last).map SaleRow.total) with
        | none => simp [summed] at rest
        | some value => exact ⟨value, rfl, by simpa [summed] using rest⟩
      exact ⟨value, sum, (Option.some.inj same).symm⟩
    rw [valueMap, List.foldl_append, List.foldl_cons, List.foldl_nil]
    change Function.update (valueMap front) last total k = _
    by_cases here : k = last
    · subst here
      rw [Function.update_self, if_pos (by simp), sqlSum_sum sum]
    · rw [Function.update_of_ne here, ih before]
      simp [here]

/-- A month is one of so many in a row, or none of them. -/
theorem month_among (month total first : Int) (n : Nat) :
    ((List.range n).map fun i : Nat => if month = first + i then total else 0).sum =
      if first ≤ month ∧ month < first + n then total else 0 := by
  induction n with
  | zero =>
    rw [if_neg (by omega)]
    rfl
  | succ n ih =>
    rw [List.range_succ, List.map_append, List.sum_append, ih, List.map_singleton, List.sum_singleton]
    split_ifs <;> omega

/-- The totals of months in a row add up to the total of all of them. -/
theorem months_sum {ρ : Type} (rows : List ρ) (month total : ρ → Int) (first : Int) (n : Nat) :
    ((List.range n).map fun i : Nat => ((rows.filter fun row => month row = first + i).map total).sum).sum =
      ((rows.filter fun row => first ≤ month row ∧ month row < first + n).map total).sum := by
  induction rows with
  | nil => simp
  | cons row rows ih =>
    have parts (p : ρ → Prop) [DecidablePred p] : (((row :: rows).filter p).map total).sum =
        (if p row then total row else 0) + ((rows.filter p).map total).sum := by
      rw [List.filter_cons]
      split <;> simp_all
    simp only [parts, List.sum_map_add, ih, month_among]

end Sums

/-- The sales the chart of a year is drawn from. -/
def yearSales (db : Store) (today : Date) : List SaleRow := db.chartSales (chartBegin .year today).format

/-- Twelve months end with the current one, every point has the sales of its own month, and the
points add up to the sales of all twelve. -/
structure EachMonthOnce (db : Store) (dateOf : SaleRow → Date) (today : Date) : Prop where
  months : ∀ i : Nat, i < 12 → (chartDate .year today i).month = today.month - 11 + i
  points : (getChartDataPoints db today .year).map ChartDataPoint.value = (List.range 12).map fun i : Nat =>
    (((yearSales db today).filter fun sale => (dateOf sale).month = today.month - 11 + i).map SaleRow.total).sum
  total : ((getChartDataPoints db today .year).map ChartDataPoint.value).sum =
    (((yearSales db today).filter fun sale => today.month - 11 ≤ (dateOf sale).month ∧ (dateOf sale).month ≤ today.month).map
      SaleRow.total).sum

section Chart

variable {db : Store} {dateOf : SaleRow → Date} {today : Date}

theorem chartDate_month (i : Nat) :
    (chartDate .year today i).month = today.month - 11 + i ↔ today.day ≤ monthLength (today.month - 11 + i) := by
  have place : today.month + (-11 + (i : Int)) = today.month - 11 + i := by omega
  rw [chartDate, Date.addMonths_month, place]
  split <;> simp_all

/-- A point's value is the total of the sales of the month it shows. -/
theorem chart_points (dated : ∀ sale ∈ db.sales.rows, sale.date = (dateOf sale).format ∧ (dateOf sale).FourDigits)
    (answered : (db.getChartData (chartBegin .year today).format .year).isSome) :
    (getChartDataPoints db today .year).map ChartDataPoint.value = (List.range 12).map fun i : Nat =>
      (((yearSales db today).filter fun sale =>
        (dateOf sale).month = (chartDate .year today i).month).map SaleRow.total).sum := by
  obtain ⟨results, answer⟩ := Option.isSome_iff_exists.mp answered
  have keyed : ∀ sale ∈ yearSales db today, strftime .year sale.date = String.ofList (monthText (dateOf sale).month) := by
    intro sale counted
    obtain ⟨text, four⟩ := dated sale (List.mem_filter.mp counted).1
    rw [text, strftime_month four]
  have value (month : Int) : valueMap results (String.ofList (monthText month)) =
      (((yearSales db today).filter fun sale => (dateOf sale).month = month).map SaleRow.total).sum := by
    have same : (yearSales db today).filter (fun sale => strftime .year sale.date = String.ofList (monthText month)) =
        (yearSales db today).filter fun sale => (dateOf sale).month = month := by
      refine List.filter_congr fun sale counted => ?_
      rw [keyed sale counted, decide_eq_decide]
      exact ⟨fun texts => monthText_injective (String.ofList_injective texts), fun months => by rw [months]⟩
    rw [← same, valueMap_rows answer]
    split
    · rfl
    · rename_i unseen
      have none : (yearSales db today).filter
          (fun sale => strftime .year sale.date = String.ofList (monthText month)) = [] := by
        refine List.filter_eq_nil_iff.mpr fun sale counted shown => unseen ?_
        rw [List.mem_mergeSort, List.mem_dedup]
        exact List.mem_map.mpr ⟨sale, counted, of_decide_eq_true shown⟩
      rw [none]
      rfl
  simp only [getChartDataPoints, answer, List.map_map]
  refine List.map_congr_left fun i _ => ?_
  exact value _

theorem eachMonthOnce_iff (dated : ∀ sale ∈ db.sales.rows, sale.date = (dateOf sale).format ∧ (dateOf sale).FourDigits)
    (answered : (db.getChartData (chartBegin .year today).format .year).isSome) :
    EachMonthOnce db dateOf today ↔ ∀ i : Nat, i < 12 → today.day ≤ monthLength (today.month - 11 + i) := by
  refine ⟨fun once i small => (chartDate_month i).mp (once.months i small), fun every => ?_⟩
  have months : ∀ i : Nat, i < 12 → (chartDate .year today i).month = today.month - 11 + i :=
    fun i small => (chartDate_month i).mpr (every i small)
  have points : (getChartDataPoints db today .year).map ChartDataPoint.value = (List.range 12).map fun i : Nat =>
      (((yearSales db today).filter fun sale => (dateOf sale).month = today.month - 11 + i).map SaleRow.total).sum := by
    rw [chart_points dated answered]
    refine List.map_congr_left fun i inside => ?_
    rw [months i (List.mem_range.mp inside)]
  refine ⟨months, points, ?_⟩
  rw [points, months_sum]
  refine congrArg List.sum (congrArg (List.map _) (List.filter_congr fun sale _ => ?_))
  rw [decide_eq_decide]
  push_cast
  omega

/-- The query counts from a day of the year before on. -/
theorem yearSales_mem (dated : ∀ sale ∈ db.sales.rows, sale.date = (dateOf sale).format ∧ (dateOf sale).FourDigits)
    (ago : (chartBegin .year today).FourDigits) {sale : SaleRow} (stored : sale ∈ db.sales.rows) :
    sale ∈ yearSales db today ↔ today.number ≤ (dateOf sale).number + 364 ∧ sale.status ∈ revenueStatuses := by
  obtain ⟨text, four⟩ := dated sale stored
  have first : (chartBegin .year today).number = today.number - 364 := by
    rw [chartBegin, Date.addDate_number, add_zero, Date.number, TimeRange.days]
    omega
  rw [yearSales, Store.chartSales, List.mem_filter, decide_eq_true_iff, text, Date.format_le ago four, first]
  constructor
  · rintro ⟨_, since, counts⟩
    exact ⟨by omega, counts⟩
  · rintro ⟨since, counts⟩
    exact ⟨stored, by omega, counts⟩

end Chart

/-- The chart has each of the twelve months once when all of them have today's day, and only then. -/
theorem chart_months {db : Store} {dateOf : SaleRow → Date} (today : Date)
    (dated : ∀ sale ∈ db.sales.rows, sale.date = (dateOf sale).format ∧ (dateOf sale).FourDigits)
    (answered : (db.getChartData (chartBegin .year today).format .year).isSome) :
    (EachMonthOnce db dateOf today ↔ ∀ i : Nat, i < 12 → today.day ≤ monthLength (today.month - 11 + i)) ∧
    ((chartBegin .year today).FourDigits → ∀ sale ∈ db.sales.rows,
      (sale ∈ yearSales db today ↔ today.number ≤ (dateOf sale).number + 364 ∧ sale.status ∈ revenueStatuses)) :=
  ⟨eachMonthOnce_iff dated answered, fun ago _ stored => yearSales_mem dated ago stored⟩

section Winter

/-- A tea sold on the tenth of a February. -/
def februaryShop : Store :=
  (processSaleAs .exact { till with date := "2026-02-10" } sara (teaSale "s1" "" .cash none none 1)).commit shop

def tenthOfFebruary : Date := ⟨12 * 2026 + 1, 10, by decide⟩

theorem februaryShop_dated :
    ∀ sale ∈ februaryShop.sales.rows, sale.date = tenthOfFebruary.format ∧ tenthOfFebruary.FourDigits := by
  have stored : februaryShop.sales.rows.all (fun sale => sale.date = "2026-02-10") = true := by decide +kernel
  intro sale member
  have date : sale.date = "2026-02-10" := of_decide_eq_true (List.all_eq_true.mp stored sale member)
  exact ⟨date.trans (by decide +kernel), by decide, by decide⟩

def endOfMarch : Date := ⟨12 * 2026 + 2, 31, by decide⟩
def endOfFebruary : Date := ⟨12 * 2026 + 1, 28, by decide⟩

/-- On the last of March there is no point for February, and March has two. -/
theorem chart_months_march : ¬EachMonthOnce februaryShop (fun _ => tenthOfFebruary) endOfMarch ∧
    (yearSales februaryShop endOfMarch).map SaleRow.total = [1000] ∧
    (getChartDataPoints februaryShop endOfMarch .year).map ChartDataPoint.value = List.replicate 12 0 := by
  refine ⟨fun once => ?_, by decide +kernel, by decide +kernel⟩
  have february := (chartDate_month 10).mp (once.months 10 (by decide))
  exact absurd february (by decide)

/-- A month before, every month is there. -/
theorem chart_months_february : EachMonthOnce februaryShop (fun _ => tenthOfFebruary) endOfFebruary := by
  refine ((chart_months endOfFebruary februaryShop_dated (by decide +kernel)).1).mpr fun i _ => ?_
  exact (by decide : endOfFebruary.day ≤ 28).trans (monthLength_bounds _).1

end Winter

end BeidarPos
