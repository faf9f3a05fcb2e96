import BeidarPos.Store
import BeidarPos.InstallmentReaders
import BeidarPos.DateTexts

/-! The dashboard's queries and charts. Sales count when their status is one of revenue; the
product totals are read into whole numbers, and a row that is none is passed over. -/
namespace BeidarPos

open Calendar Machine Relational

/-- The sale statuses that count toward revenue: a pending invoice is not yet realized. -/
def revenueStatuses : List SaleStatus := [.completed, .paid, .partialReturn]

/-- The sum of a column of whole numbers; the query fails when it leaves 64 bits. -/
def sqlSum (values : List Int) : Option Int :=
  values.foldlM (fun sum value => if -2^63 ≤ sum + value ∧ sum + value < 2^63 then some (sum + value) else none) 0

/-- A real number scanned into an `int`: its text must be a plain whole number, which from a
million on it is not. -/
def scanInt (q : ℚ) : Option Int := if q.den = 1 ∧ q.num.natAbs < 1000000 then some q.num else none

structure TopProduct where
  label : String
  value : Int

structure ChartDataResult where
  dateKey : String
  total : Int

structure ChartDataPoint where
  label : String
  value : Int

inductive TimeRange where
  | year | month | week

/-- Whatever is not asked for by its name is the week. -/
def TimeRange.of (text : String) : TimeRange :=
  if text = "year" then .year else if text = "month" then .month else .week

def arabicMonthAbbr : List String :=
  ["يناير", "فبراير", "مارس", "أبريل", "مايو", "يونيو", "يوليو", "أغسطس", "سبتمبر", "أكتوبر", "نوفمبر", "ديسمبر"]

/-- From Sunday on. -/
def arabicDays : List String := ["الأحد", "الاثنين", "الثلاثاء", "الأربعاء", "الخميس", "الجمعة", "السبت"]

/-- `strftime` of a stored date, by the month or by the day. -/
def strftime (range : TimeRange) (date : String) : String :=
  match parseDate date, range with
  | none, _ => ""
  | some _, .year => String.ofList (date.toList.take 7)
  | some _, _ => date

namespace Store

variable (db : Store)

/-- The lines of sales that count. -/
def revenueLines : List SaleItem :=
  db.saleItems.rows.filter fun line => ∃ sale ∈ db.sales.find? line.saleID, sale.status ∈ revenueStatuses

def quantityOf (name : String) : ℚ := ((db.revenueLines.filter fun line => line.name = name).map SaleItem.quantity).sum

/-- The names with the most sold first; a negative limit is none. -/
def getTopSellingProducts (limit : Int) : List TopProduct :=
  let groups := ((db.revenueLines.map SaleItem.name).dedup.map fun name => (name, db.quantityOf name)).mergeSort
    fun a b => decide (b.2 ≤ a.2)
  (if limit < 0 then groups else groups.take limit.toNat).filterMap fun group => (scanInt group.2).map (⟨group.1, ·⟩)

/-- The net quantity of a name, over the lines and in the way the cost of goods is taken. -/
def netQuantityOf (name : String) : ℚ :=
  ((db.revenueLines.filter fun line => line.name = name).map fun line => line.quantity - line.returnedQty).sum

def netQuantity : ℚ := (db.revenueLines.map fun line => line.quantity - line.returnedQty).sum

/-- `CAST(COALESCE(SUM(cost * (quantity - returned_qty)), 0) AS INTEGER)`. -/
def totalCOGS : Int :=
  Rounding.truncate ((db.revenueLines.map fun line => (line.cost : ℚ) * (line.quantity - line.returnedQty)).sum)

def chartSales (startDate : String) : List SaleRow :=
  db.sales.rows.filter fun sale => startDate ≤ sale.date ∧ sale.status ∈ revenueStatuses

def getChartData (startDate : String) (range : TimeRange) : Option (List ChartDataResult) :=
  let rows := db.chartSales startDate
  ((rows.map fun sale => strftime range sale.date).dedup.mergeSort fun a b => decide (a ≤ b)).mapM fun key =>
    (sqlSum ((rows.filter fun sale => strftime range sale.date = key).map SaleRow.total)).map (⟨key, ·⟩)

end Store

/-- The totals by their keys, 0 for a key without sales. -/
def valueMap (results : List ChartDataResult) : String → Int :=
  results.foldl (fun values result => Function.update values result.dateKey result.total) fun _ => 0

def TimeRange.days : TimeRange → Int
  | .year => 365
  | .month => 30
  | .week => 7

def chartBegin (range : TimeRange) (today : Date) : Date := today.addDate 0 (-range.days + 1)

/-- The day behind a point. -/
def chartDate (range : TimeRange) (today : Date) (i : Nat) : Date :=
  match range with
  | .year => today.addDate (-11 + i) 0
  | .month => today.addDate 0 (-29 + i)
  | .week => today.addDate 0 (-6 + i)

def chartPoint (values : String → Int) (range : TimeRange) (date : Date) : ChartDataPoint :=
  match range with
  | .year => ⟨arabicMonthAbbr.getD (date.month % 12).toNat "", values (String.ofList (monthText date.month))⟩
  | .month => ⟨String.ofList (padded 2 date.day.toNat), values date.format⟩
  | .week => ⟨arabicDays.getD ((date.number + 6) % 7).toNat "", values date.format⟩

/-- No points when the query fails. -/
def getChartDataPoints (db : Store) (today : Date) (range : TimeRange) : List ChartDataPoint :=
  match db.getChartData (chartBegin range today).format range with
  | none => []
  | some results =>
    let points := match range with
      | .year => 12
      | .month => 30
      | .week => 7
    (List.range points).map fun i => chartPoint (valueMap results) range (chartDate range today i)

theorem sqlSum_sum {values : List Int} {sum : Int} (h : sqlSum values = some sum) : sum = values.sum := by
  unfold sqlSum at h
  have start (start : Int) : values.foldlM (fun sum value =>
      if -2^63 ≤ sum + value ∧ sum + value < 2^63 then some (sum + value) else none) start = some sum →
        sum = start + values.sum := by
    clear h
    induction values generalizing start with
    | nil =>
      intro h
      cases h
      simp
    | cons value values ih =>
      intro h
      rw [List.foldlM_cons] at h
      split at h
      · rw [ih _ h, List.sum_cons]
        omega
      · cases h
  rw [start 0 h, zero_add]

end BeidarPos
