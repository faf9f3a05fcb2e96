import BeidarPos.DatabaseExport
import BeidarPos.Keyed
import BeidarPos.YearlyChart

/-! The comparison of two months and the totals of the dashboard. A month is the days from its
first to its last, as texts; the cost of goods is cut to a whole number for each month, and
once for all of them on the dashboard. -/
namespace BeidarPos

open Calendar Machine Relational Rounding

structure MonthStats where
  revenue : Int
  orders : Int
  expenses : Int
  cogs : Int
deriving DecidableEq

structure MonthData where
  label : String
  revenue : Int
  orders : Int
  expenses : Int
  avgOrder : Int
  netProfit : Int
deriving DecidableEq

/-- The changes are percentages. -/
structure MonthlyComparison where
  currentMonth : MonthData
  previousMonth : MonthData
  revenueChange : ℚ
  ordersChange : ℚ
  profitChange : ℚ

/-- What the dashboard shows of money and orders. -/
structure DashboardTotals where
  totalRevenue : Int
  totalOrders : Int
  totalExpenses : Int
  grossProfit : Int
  netProfit : Int
deriving DecidableEq

abbrev Expenses := Table Expense.id

/-- The amounts of lines at cost, less what came back, added up and cut. -/
def cogsOf (lines : List SaleItem) : Int :=
  truncate ((lines.map fun line => (line.cost : ℚ) * (line.quantity - line.returnedQty)).sum)

namespace Store

variable (db : Store)

def revenueSales : List SaleRow := db.sales.rows.filter fun sale => sale.status ∈ revenueStatuses

/-- Whether a text is a date of the period. -/
def dateWithin (startDate endDate date : String) : Prop := startDate ≤ date ∧ date ≤ endDate

instance (startDate endDate date : String) : Decidable (dateWithin startDate endDate date) :=
  inferInstanceAs (Decidable (_ ∧ _))

/-- The lines that count, of sales of a kind. -/
def linesOf (p : SaleRow → Prop) [DecidablePred p] : List SaleItem :=
  db.revenueLines.filter fun line => ∃ sale ∈ db.sales.find? line.saleID, p sale

def getMonthStats (expenses : Expenses) (startDate endDate : String) : Option MonthStats := do
  let sales := db.revenueSales.filter fun sale => dateWithin startDate endDate sale.date
  let revenue ← sqlSum (sales.map SaleRow.total)
  let spent ← sqlSum ((expenses.rows.filter fun e => dateWithin startDate endDate e.date).map Expense.amount)
  some ⟨revenue, sales.length, spent, cogsOf (db.linesOf fun sale => dateWithin startDate endDate sale.date)⟩

/-- The parts of `GetBasicStats` and `GetProfitAndExpenses` that count money and orders. -/
def getTotals (expenses : Expenses) : Option MonthStats := do
  let revenue ← sqlSum (db.revenueSales.map SaleRow.total)
  let spent ← sqlSum (expenses.rows.map Expense.amount)
  some ⟨revenue, db.revenueSales.length, spent, db.totalCOGS⟩

end Store

section Service

variable (w : Word)

def buildMonthData (stats : MonthStats) (label : String) : MonthData where
  label := label
  revenue := stats.revenue
  orders := stats.orders
  expenses := stats.expenses
  avgOrder := if 0 < stats.orders then Amount.div w stats.revenue stats.orders else 0
  netProfit := w.sub (w.sub stats.revenue stats.cogs) stats.expenses

def arabicMonths : List String := arabicMonthAbbr

def monthLabel (month : Int) : String := arabicMonths.getD (month % 12).toNat "" ++ " " ++ toString (month / 12)

/-- The change from one number to another, in hundredths of a size. -/
def changeOf (current previous size : ℚ) : ℚ := (current - previous) / size * 100

def amountFloat (a : Int) : ℚ := a / 100

def getMonthlyComparison (db : Store) (expenses : Expenses) (today : Date) : Option MonthlyComparison := do
  let currentMonthStart := normalize today.month 1
  let currentMonthEnd := (currentMonthStart.addDate 1 0).addDate 0 (-1)
  let prevMonthStart := currentMonthStart.addDate (-1) 0
  let prevMonthEnd := currentMonthStart.addDate 0 (-1)
  let statsCurr ← db.getMonthStats expenses currentMonthStart.format currentMonthEnd.format
  let curr := buildMonthData w statsCurr (monthLabel today.month)
  let statsPrev ← db.getMonthStats expenses prevMonthStart.format prevMonthEnd.format
  let prev := buildMonthData w statsPrev (monthLabel prevMonthStart.month)
  some {
    currentMonth := curr
    previousMonth := prev
    revenueChange := if 0 < prev.revenue then
      changeOf (amountFloat curr.revenue) (amountFloat prev.revenue) (amountFloat prev.revenue) else 0
    ordersChange := if 0 < prev.orders then changeOf curr.orders prev.orders prev.orders else 0
    profitChange := if prev.netProfit ≠ 0 then
      changeOf (amountFloat curr.netProfit) (amountFloat prev.netProfit) |amountFloat prev.netProfit| else 0 }

def dashboardTotals (db : Store) (expenses : Expenses) : Option DashboardTotals := do
  let totals ← db.getTotals expenses
  let grossProfit := w.sub totals.revenue totals.cogs
  some ⟨totals.revenue, totals.orders, totals.expenses, grossProfit, w.sub grossProfit totals.expenses⟩

end Service

section Months

def firstOf (month : Int) : Date := ⟨month, 1, le_refl 1, by have := monthLength_bounds month; omega⟩

def lastOf (month : Int) : Date := ⟨month, monthLength month, by have := monthLength_bounds month; omega, le_refl _⟩

theorem firstOf_number (month : Int) : (firstOf month).number = monthStart month := by
  simp only [Date.number, firstOf]
  omega

theorem lastOf_number (month : Int) : (lastOf month).number = monthStart (month + 1) - 1 := by
  rw [Date.number, lastOf, monthStart_succ]

theorem normalize_first (month : Int) : normalize month 1 = firstOf month := normalize_unique rfl

/-- A second before the first of a month is on the last of the month before. -/
theorem firstOf_before (month : Int) : (firstOf month).addDate 0 (-1) = lastOf (month - 1) := by
  refine Date.number_injective ?_
  rw [Date.addDate_number, lastOf_number, sub_add_cancel]
  simp only [firstOf, add_zero]
  omega

theorem firstOf_addDate (month months : Int) : (firstOf month).addDate months 0 = firstOf (month + months) := by
  refine Date.number_injective ?_
  rw [Date.addDate_number, firstOf_number]
  simp only [firstOf]
  omega

/-- A date is between the first and the last of a month exactly if it is of that month. -/
theorem dateWithin_month {month : Int} {date : Date} (here : 0 ≤ month ∧ month < 120000) (four : date.FourDigits) :
    Store.dateWithin (firstOf month).format (lastOf month).format date.format ↔ date.month = month := by
  have first : (firstOf month).FourDigits := by
    simp only [Date.FourDigits, Date.year, firstOf]
    omega
  have last : (lastOf month).FourDigits := by
    simp only [Date.FourDigits, Date.year, lastOf]
    omega
  rw [Store.dateWithin, Date.format_le first four, Date.format_le four last, firstOf_number, lastOf_number]
  have size := date.real
  have step := monthStart_succ date.month
  constructor
  · rintro ⟨after, before⟩
    rw [Date.number] at after before
    have low : month < date.month + 1 := monthStart_strictMono.lt_iff_lt.mp (by omega)
    have high : date.month < month + 1 := monthStart_strictMono.lt_iff_lt.mp (by omega)
    omega
  · rintro rfl
    rw [Date.number]
    omega

end Months

/-- What stands in the books for some months. -/
def periodStats (db : Store) (expenses : Expenses) (saleMonth : SaleRow → Int) (expenseMonth : Expense → Int) (p : Int → Prop)
    [DecidablePred p] : MonthStats where
  revenue := ((db.revenueSales.filter fun sale => p (saleMonth sale)).map SaleRow.total).sum
  orders := (db.revenueSales.filter fun sale => p (saleMonth sale)).length
  expenses := ((expenses.rows.filter fun e => p (expenseMonth e)).map Expense.amount).sum
  cogs := cogsOf (db.linesOf fun sale => p (saleMonth sale))

section Comparison

variable {db : Store} {expenses : Expenses} {dateOf : SaleRow → Date} {spentOn : Expense → Date}

/-- Sales and expenses whose dates are texts of dates. -/
structure Dated (db : Store) (expenses : Expenses) (dateOf : SaleRow → Date) (spentOn : Expense → Date) : Prop where
  sales : ∀ sale ∈ db.sales.rows, sale.date = (dateOf sale).format ∧ (dateOf sale).FourDigits
  expenses : ∀ e ∈ expenses.rows, e.date = (spentOn e).format ∧ (spentOn e).FourDigits

/-- A month's query counts what is of that month. -/
theorem getMonthStats_month (dated : Dated db expenses dateOf spentOn) {month : Int} (here : 0 ≤ month ∧ month < 120000)
    {stats : MonthStats}
    (answered : db.getMonthStats expenses (firstOf month).format (lastOf month).format = some stats) :
    stats = periodStats db expenses (fun sale => (dateOf sale).month) (fun e => (spentOn e).month) fun m => m = month := by
  have sale_within : ∀ sale ∈ db.sales.rows, (Store.dateWithin (firstOf month).format (lastOf month).format sale.date ↔
      (dateOf sale).month = month) := by
    intro sale stored
    obtain ⟨text, four⟩ := dated.sales sale stored
    rw [text, dateWithin_month here four]
  have sales : (db.revenueSales.filter fun sale => Store.dateWithin (firstOf month).format (lastOf month).format sale.date) =
      db.revenueSales.filter fun sale => (dateOf sale).month = month :=
    List.filter_congr fun sale counted => decide_eq_decide.mpr (sale_within sale (List.mem_of_mem_filter counted))
  have spent : (expenses.rows.filter fun e => Store.dateWithin (firstOf month).format (lastOf month).format e.date) =
      expenses.rows.filter fun e => (spentOn e).month = month := by
    refine List.filter_congr fun e stored => decide_eq_decide.mpr ?_
    obtain ⟨text, four⟩ := dated.expenses e stored
    rw [text, dateWithin_month here four]
  have lines : (db.linesOf fun sale => Store.dateWithin (firstOf month).format (lastOf month).format sale.date) =
      db.linesOf fun sale => (dateOf sale).month = month := by
    refine List.filter_congr fun line _ => decide_eq_decide.mpr (exists_congr fun sale => and_congr_right fun found => ?_)
    exact sale_within sale (Table.find?_mem found)
  simp only [Store.getMonthStats, sales, spent, lines, Option.bind_eq_bind, Option.bind_eq_some_iff] at answered
  obtain ⟨revenue, revenued, spending, expended, made⟩ := answered
  cases made
  rw [periodStats, sqlSum_sum revenued, sqlSum_sum expended]

/-- The comparison is of the books of the month of today and of the month before. -/
theorem comparison_months (w : Word) (dated : Dated db expenses dateOf spentOn) (today : Date)
    (here : 1 ≤ today.month ∧ today.month < 120000) {comparison : MonthlyComparison}
    (answered : getMonthlyComparison w db expenses today = some comparison) :
    let books := fun month => buildMonthData w (periodStats db expenses (fun sale => (dateOf sale).month)
      (fun e => (spentOn e).month) fun m => m = month) (monthLabel month)
    comparison.currentMonth = books today.month ∧ comparison.previousMonth = books (today.month - 1) := by
  intro books
  have current : (firstOf today.month).addDate 1 0 = firstOf (today.month + 1) := firstOf_addDate _ _
  have previous : (firstOf today.month).addDate (-1) 0 = firstOf (today.month - 1) := firstOf_addDate _ _
  simp only [getMonthlyComparison, normalize_first, current, previous, firstOf_before, Option.bind_eq_bind,
    Option.bind_eq_some_iff, Option.some.injEq] at answered
  obtain ⟨statsCurr, first, statsPrev, second, rfl⟩ := answered
  rw [add_sub_cancel_right] at first
  rw [getMonthStats_month dated (by omega) first, getMonthStats_month dated (by omega) second]
  exact ⟨rfl, rfl⟩

end Comparison

section Totals

variable {db : Store} {expenses : Expenses} {saleMonth : SaleRow → Int} {expenseMonth : Expense → Int} {first : Int} {n : Nat}

/-- Sales that count and expenses of so many months in a row. -/
structure Through (db : Store) (expenses : Expenses) (saleMonth : SaleRow → Int) (expenseMonth : Expense → Int)
    (first : Int) (n : Nat) : Prop where
  sales : ∀ sale ∈ db.revenueSales, first ≤ saleMonth sale ∧ saleMonth sale < first + n
  expenses : ∀ e ∈ expenses.rows, first ≤ expenseMonth e ∧ expenseMonth e < first + n

/-- The months in a row. -/
def monthsFrom (first : Int) (n : Nat) : List Int := (List.range n).map fun i : Nat => first + i

theorem monthsFrom_nodup : (monthsFrom first n).Nodup := by
  refine (List.nodup_range).map fun i j same => ?_
  have same : first + (i : Int) = first + j := same
  omega

theorem mem_monthsFrom {month : Int} : month ∈ monthsFrom first n ↔ first ≤ month ∧ month < first + n := by
  simp only [monthsFrom, List.mem_map, List.mem_range]
  constructor
  · rintro ⟨i, small, rfl⟩
    omega
  · rintro ⟨low, high⟩
    exact ⟨(month - first).toNat, by omega, by omega⟩

/-- The amount of a line at cost. -/
def lineCost (line : SaleItem) : ℚ := line.cost * (line.quantity - line.returnedQty)

/-- The lines of the months cost what all lines cost. -/
theorem costs_add_up (through : Through db expenses saleMonth expenseMonth first n) :
    ((monthsFrom first n).map fun month => ((db.linesOf fun sale => saleMonth sale = month).map lineCost).sum).sum =
      (db.revenueLines.map lineCost).sum := by
  have covered : ∀ line ∈ db.revenueLines, (db.sales.find? line.saleID).map saleMonth ∈ (monthsFrom first n).map some := by
    intro line counted
    obtain ⟨sale, found, counts⟩ := of_decide_eq_true (List.mem_filter.mp counted).2
    have sold : sale ∈ db.revenueSales := List.mem_filter.mpr ⟨Table.find?_mem found, decide_eq_true counts⟩
    rw [Option.mem_def.mp found]
    exact List.mem_map_of_mem (mem_monthsFrom.mpr (through.sales sale sold))
  have distinct : ((monthsFrom first n).map some).Nodup := monthsFrom_nodup.map (Option.some_injective Int)
  rw [← Keyed.groups_sum lineCost distinct covered, List.map_map]
  refine congrArg List.sum (List.map_congr_left fun month _ => congrArg List.sum (congrArg (List.map lineCost) ?_))
  refine List.filter_congr fun line _ => decide_eq_decide.mpr ?_
  cases db.sales.find? line.saleID with
  | none => simp
  | some sale => simp

/-- The months' stats add up to the totals, except for what is cut off their costs. -/
theorem periodStats_add_up (through : Through db expenses saleMonth expenseMonth first n) {totals : MonthStats}
    (asked : db.getTotals expenses = some totals) :
    let stats := (monthsFrom first n).map fun month => periodStats db expenses saleMonth expenseMonth fun m => m = month
    (stats.map MonthStats.revenue).sum = totals.revenue ∧ (stats.map MonthStats.orders).sum = totals.orders ∧
      (stats.map MonthStats.expenses).sum = totals.expenses ∧ |(stats.map MonthStats.cogs).sum - totals.cogs| ≤ n := by
  intro stats
  simp only [Store.getTotals, Option.bind_eq_bind, Option.bind_eq_some_iff] at asked
  obtain ⟨revenue, revenued, spending, expended, made⟩ := asked
  cases made
  have sold : ∀ sale ∈ db.revenueSales, saleMonth sale ∈ monthsFrom first n := fun sale counted =>
    mem_monthsFrom.mpr (through.sales sale counted)
  have spent : ∀ e ∈ expenses.rows, expenseMonth e ∈ monthsFrom first n := fun e stored =>
    mem_monthsFrom.mpr (through.expenses e stored)
  have costs : (stats.map MonthStats.cogs).sum = (((monthsFrom first n).map fun month =>
      ((db.linesOf fun sale => saleMonth sale = month).map lineCost).sum).map truncate).sum := by
    simp only [stats, List.map_map]
    rfl
  refine ⟨?_, ?_, ?_, ?_⟩
  · rw [sqlSum_sum revenued, ← Keyed.groups_sum SaleRow.total monthsFrom_nodup sold]
    simp only [stats, List.map_map]
    rfl
  · have counted := Keyed.groups_sum (fun _ => (1 : Int)) monthsFrom_nodup sold
    simp only [List.map_const', List.sum_replicate, mul_one, nsmul_eq_mul] at counted
    rw [← counted]
    simp only [stats, List.map_map]
    rfl
  · rw [sqlSum_sum expended, ← Keyed.groups_sum Expense.amount monthsFrom_nodup spent]
    simp only [stats, List.map_map]
    rfl
  · have error := sum_truncate_error ((monthsFrom first n).map fun month =>
      ((db.linesOf fun sale => saleMonth sale = month).map lineCost).sum)
    have count : (((monthsFrom first n).map fun month =>
        ((db.linesOf fun sale => saleMonth sale = month).map lineCost).sum).length : Int) = n := by simp [monthsFrom]
    rw [costs_add_up through, ← costs, count] at error
    exact error

/-- The page of a month, as the comparison shows it. -/
def monthPage (w : Word) (db : Store) (expenses : Expenses) (month : Int) : Option MonthData :=
  (db.getMonthStats expenses (firstOf month).format (lastOf month).format).map (buildMonthData w · (monthLabel month))

/-- The differences that profits are taken from stay in the integers. -/
def Unwrapped (w : Word) (stats : MonthStats) : Prop :=
  w.fits (stats.revenue - stats.cogs) ∧ w.fits (stats.revenue - stats.cogs - stats.expenses)

theorem Unwrapped.netProfit {w : Word} {stats : MonthStats} (whole : Unwrapped w stats) :
    w.sub (w.sub stats.revenue stats.cogs) stats.expenses = stats.revenue - stats.cogs - stats.expenses := by
  have gross : w.sub stats.revenue stats.cogs = stats.revenue - stats.cogs := w.wrap_of_fits _ whole.1
  rw [gross]
  exact w.wrap_of_fits _ whole.2

theorem mapM_answers {α β : Type} {f : α → Option β} {keys : List α} {answers : List β}
    (answered : keys.mapM f = some answers) : answers.map some = keys.map f := by
  induction keys generalizing answers with
  | nil =>
    cases answered
    rfl
  | cons key keys ih =>
    rw [List.mapM_cons] at answered
    obtain ⟨answer, first, rest⟩ := Option.bind_eq_some_iff.mp answered
    obtain ⟨answers', later, same⟩ := Option.bind_eq_some_iff.mp rest
    cases same
    rw [List.map_cons, List.map_cons, ih later, first]

/-- Where every page answers, every month's query does, with what is of that month. -/
theorem months_read {w : Word} {dateOf : SaleRow → Date} {spentOn : Expense → Date} (dated : Dated db expenses dateOf spentOn)
    (here : 0 ≤ first ∧ first + n ≤ 120000) {pages : List MonthData}
    (answered : (monthsFrom first n).mapM (monthPage w db expenses) = some pages) {month : Int}
    (among : month ∈ monthsFrom first n) :
    db.getMonthStats expenses (firstOf month).format (lastOf month).format = some (periodStats db expenses
      (fun sale => (dateOf sale).month) (fun e => (spentOn e).month) fun m => m = month) := by
  obtain ⟨page, _, made⟩ : ∃ page ∈ pages, some page = monthPage w db expenses month :=
    List.mem_map.mp (mapM_answers answered ▸ List.mem_map_of_mem among)
  obtain ⟨stats, read, rfl⟩ := Option.map_eq_some_iff.mp made.symm
  have inside := mem_monthsFrom.mp among
  rw [read, getMonthStats_month dated (by omega) read]

/-- The pages are made of the months' stats. -/
theorem pages_stats {w : Word} {dateOf : SaleRow → Date} {spentOn : Expense → Date} (dated : Dated db expenses dateOf spentOn)
    (here : 0 ≤ first ∧ first + n ≤ 120000) {pages : List MonthData}
    (answered : (monthsFrom first n).mapM (monthPage w db expenses) = some pages) :
    pages = (monthsFrom first n).map fun month => buildMonthData w (periodStats db expenses (fun sale => (dateOf sale).month)
      (fun e => (spentOn e).month) fun m => m = month) (monthLabel month) := by
  refine List.map_injective_iff.mpr (Option.some_injective MonthData) ((mapM_answers answered).trans ?_)
  rw [List.map_map]
  refine List.map_congr_left fun month among => ?_
  rw [monthPage, months_read dated here answered among]
  rfl

/-- The pages of months in a row that hold all there is add up to the dashboard, where costs are
cut once and not by the month. -/
theorem months_add_up (w : Word) {dateOf : SaleRow → Date} {spentOn : Expense → Date} (dated : Dated db expenses dateOf spentOn)
    (first : Int) (n : Nat) (here : 0 ≤ first ∧ first + n ≤ 120000)
    (through : Through db expenses (fun sale => (dateOf sale).month) (fun e => (spentOn e).month) first n)
    {pages : List MonthData} (answered : (monthsFrom first n).mapM (monthPage w db expenses) = some pages)
    {dashboard : DashboardTotals} (shown : dashboardTotals w db expenses = some dashboard)
    (whole : ∀ totals, db.getTotals expenses = some totals → Unwrapped w totals)
    (wholeMonths : ∀ month ∈ monthsFrom first n, ∀ stats,
      db.getMonthStats expenses (firstOf month).format (lastOf month).format = some stats → Unwrapped w stats) :
    (pages.map MonthData.revenue).sum = dashboard.totalRevenue ∧ (pages.map MonthData.orders).sum = dashboard.totalOrders ∧
      (pages.map MonthData.expenses).sum = dashboard.totalExpenses ∧
      |(pages.map MonthData.netProfit).sum - dashboard.netProfit| ≤ n := by
  obtain ⟨totals, asked, same⟩ := Option.bind_eq_some_iff.mp shown
  cases same
  have summed := periodStats_add_up through asked
  generalize of : (fun month => periodStats db expenses (fun sale => (dateOf sale).month) (fun e => (spentOn e).month)
    fun m => m = month) = stats at summed
  obtain ⟨revenue, orders, spending, costs⟩ := summed
  have made : pages = (monthsFrom first n).map fun month => buildMonthData w (stats month) (monthLabel month) :=
    (pages_stats dated here answered).trans (by rw [← of])
  have profits : pages.map MonthData.netProfit = (monthsFrom first n).map fun month =>
      (stats month).revenue - (stats month).cogs - (stats month).expenses := by
    rw [made, List.map_map]
    refine List.map_congr_left fun month among => ?_
    have read : db.getMonthStats expenses (firstOf month).format (lastOf month).format = some (stats month) :=
      (months_read dated here answered among).trans (by rw [← of])
    exact (wholeMonths month among (stats month) read).netProfit
  have split : (pages.map MonthData.netProfit).sum = (((monthsFrom first n).map stats).map MonthStats.revenue).sum -
      (((monthsFrom first n).map stats).map MonthStats.cogs).sum -
      (((monthsFrom first n).map stats).map MonthStats.expenses).sum := by
    simp only [profits, List.map_map]
    induction monthsFrom first n with
    | nil => rfl
    | cons month months ih =>
      simp only [List.map_cons, List.sum_cons, ih, Function.comp]
      omega
  have shownProfit : w.sub (w.sub totals.revenue totals.cogs) totals.expenses =
      totals.revenue - totals.cogs - totals.expenses := (whole totals asked).netProfit
  refine ⟨?_, ?_, ?_, ?_⟩
  · rw [made, ← revenue, List.map_map, List.map_map]
    rfl
  · rw [made, ← orders, List.map_map, List.map_map]
    rfl
  · rw [made, ← spending, List.map_map, List.map_map]
    rfl
  · change |(pages.map MonthData.netProfit).sum - w.sub (w.sub totals.revenue totals.cogs) totals.expenses| ≤ n
    rw [split, revenue, spending, shownProfit]
    rw [abs_le] at costs ⊢
    constructor <;> omega

end Totals

section Spring

/-- A pinch of tea sold in a February and one in the March after it, each at a cost of six tenths. -/
def springShop : Store :=
  let february := (processSaleAs .exact { till with date := "2026-02-10" } sara (teaSale "s1" "" .cash none none (1/1000))).commit
    shop
  (processSaleAs .exact { till with date := "2026-03-05" } sara (teaSale "s2" "" .cash none none (1/1000))).commit february

def rent : Expenses := ⟨[⟨"e1", "Rent", 5, "2026-03-01", "rent", ""⟩], by decide⟩

def fifthOfMarch : Date := ⟨12 * 2026 + 2, 5, by decide⟩

def springDate (sale : SaleRow) : Date := if sale.date = "2026-02-10" then tenthOfFebruary else fifthOfMarch

theorem springShop_dated : Dated springShop rent springDate fun _ => firstOf (12 * 2026 + 2) := by
  have stored : springShop.sales.rows.all (fun sale => sale.date = (springDate sale).format) = true := by decide +kernel
  refine ⟨fun sale member => ⟨of_decide_eq_true (List.all_eq_true.mp stored sale member), ?_⟩, fun e member => ?_⟩
  · unfold springDate
    split <;> exact ⟨by decide, by decide⟩
  · have date : rent.rows.all (fun e => e.date = (firstOf (12 * 2026 + 2)).format) = true := by decide +kernel
    exact ⟨of_decide_eq_true (List.all_eq_true.mp date e member), by decide, by decide⟩

/-- In March there is the rent to pay. -/
theorem comparison_months_spring : ∃ comparison, getMonthlyComparison .exact springShop rent fifthOfMarch = some comparison ∧
    comparison.currentMonth = ⟨monthLabel fifthOfMarch.month, 1, 1, 5, 1, -4⟩ ∧
    comparison.previousMonth = ⟨monthLabel tenthOfFebruary.month, 1, 1, 0, 1, 1⟩ := by
  obtain ⟨comparison, answered⟩ := Option.isSome_iff_exists.mp
    (by decide +kernel : (getMonthlyComparison .exact springShop rent fifthOfMarch).isSome)
  have both := comparison_months .exact springShop_dated fifthOfMarch (by decide) answered
  exact ⟨comparison, answered, both.1.trans (by decide +kernel), both.2.trans (by decide +kernel)⟩

def springPages : List MonthData :=
  [⟨monthLabel tenthOfFebruary.month, 1, 1, 0, 1, 1⟩, ⟨monthLabel fifthOfMarch.month, 1, 1, 5, 1, -4⟩]

/-- Cut by the month, the costs are nothing; cut once, they are one. -/
theorem months_add_up_spring :
    ((springPages.map MonthData.revenue).sum = 2 ∧ (springPages.map MonthData.orders).sum = 2 ∧
      (springPages.map MonthData.expenses).sum = 5 ∧ |(springPages.map MonthData.netProfit).sum - (-4)| ≤ ((2 : Nat) : Int)) ∧
    (springPages.map MonthData.netProfit).sum = -3 := by
  have answered : (monthsFrom tenthOfFebruary.month 2).mapM (monthPage .exact springShop rent) = some springPages := by
    decide +kernel
  have shown : dashboardTotals .exact springShop rent = some ⟨2, 2, 5, 1, -4⟩ := by decide +kernel
  have through : Through springShop rent (fun sale => (springDate sale).month) (fun _ => (firstOf (12 * 2026 + 2)).month)
      tenthOfFebruary.month 2 := by
    refine ⟨fun sale _ => ?_, fun _ _ => by decide⟩
    unfold springDate
    split <;> decide
  exact ⟨months_add_up .exact springShop_dated tenthOfFebruary.month 2 (by decide) through answered shown
    (fun _ _ => ⟨trivial, trivial⟩) fun _ _ _ _ => ⟨trivial, trivial⟩, by decide⟩

end Spring

end BeidarPos
