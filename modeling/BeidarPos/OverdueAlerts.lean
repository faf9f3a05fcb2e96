import BeidarPos.InstallmentReaders

/-! The overdue alerts as the service counts them: one loop over the sales and their plans, with
two totals, two maps of customers and a map of day buckets. Its day begins at midnight of the
zone due dates are read in, which the shop's clock need not share. -/
namespace BeidarPos

open Machine Relational

/-- A map whose missing keys read as 0. -/
structure Counters where
  keys : List String
  value : String → Int

def Counters.empty : Counters := ⟨[], fun _ => 0⟩

def Counters.set (map : Counters) (key : String) (value : Int) : Counters :=
  ⟨map.keys.filter (fun k => k ≠ key) ++ [key], Function.update map.value key value⟩

structure AlertTally where
  totalOverdue : Int
  totalAmount : Int
  byDay : Counters
  alerts : List InstallmentAlert
  customerOverdueDebt : Counters
  customerOverdueCount : Counters

def AlertTally.empty : AlertTally :=
  ⟨0, 0, ((Counters.empty.set "1-7" 0).set "8-30" 0).set "30+" 0, [], .empty, .empty⟩

def dayBucket (daysOverdue : Int) : String :=
  if daysOverdue ≤ 7 then "1-7" else if daysOverdue ≤ 30 then "8-30" else "30+"

def AlertTally.count (w : Word) (tally : AlertTally) (alert : InstallmentAlert) : AlertTally where
  totalOverdue := tally.totalOverdue + 1
  totalAmount := w.add tally.totalAmount alert.amount
  byDay := tally.byDay.set (dayBucket alert.daysOverdue) (tally.byDay.value (dayBucket alert.daysOverdue) + 1)
  alerts := tally.alerts ++ [alert]
  customerOverdueDebt := tally.customerOverdueDebt.set alert.customerID
    (w.add (tally.customerOverdueDebt.value alert.customerID) alert.amount)
  customerOverdueCount := tally.customerOverdueCount.set alert.customerID
    (tally.customerOverdueCount.value alert.customerID + 1)

/-- The loop over the sales and over the entries of each. -/
def alertTally (w : Word) (env : Env) (db : Store) : AlertTally :=
  db.getInstallmentSales.foldl (fun tally sale =>
    match sale.installmentPlan with
    | none => tally
    | some plan => plan.entries.foldl (fun tally inst =>
      match overdueAlert w env db sale plan inst with
      | none => tally
      | some alert => tally.count w alert) tally) .empty

/-- All customers with overdue entries, the deepest in debt first. -/
def AlertTally.customers (visit : List String → List String) (db : Store) (tally : AlertTally) : List OverdueCustomer :=
  ((visit tally.customerOverdueDebt.keys).map fun id =>
    ⟨id, ((db.alertCustomer id).map Customer.name).getD "", tally.customerOverdueDebt.value id,
      tally.customerOverdueCount.value id⟩).mergeSort fun a b => decide (b.totalDebt ≤ a.totalDebt)

def AlertTally.summary (visit : List String → List String) (db : Store) (tally : AlertTally) : InstallmentAlertSummary where
  totalOverdue := tally.totalOverdue
  totalAmount := tally.totalAmount
  byDay := ["1-7", "8-30", "30+"].map fun bucket => (bucket, tally.byDay.value bucket)
  topCustomers := (tally.customers visit db).take 5
  alerts := tally.alerts

section Tally

variable {w : Word} {env : Env} {db : Store}

theorem dedup_snoc {α : Type} [DecidableEq α] (items : List α) (a : α) :
    (items ++ [a]).dedup = items.dedup.filter (fun b => b ≠ a) ++ [a] := by
  induction items with
  | nil => simp
  | cons b items ih =>
    by_cases here : b ∈ items
    · rw [List.cons_append, List.dedup_cons_of_mem (by simp [here]), List.dedup_cons_of_mem here, ih]
    · by_cases same : b = a
      · subst same
        rw [List.cons_append, List.dedup_cons_of_mem (by simp), List.dedup_cons_of_notMem here, ih]
        simp
      · rw [List.cons_append, List.dedup_cons_of_notMem (by simp [here, same]), List.dedup_cons_of_notMem here, ih]
        simp [same]

/-- What the loop has counted when it has raised these alerts. -/
structure Counted (w : Word) (alerts : List InstallmentAlert) (tally : AlertTally) : Prop where
  listed : tally.alerts = alerts
  totalOverdue : tally.totalOverdue = alerts.length
  totalAmount : tally.totalAmount = alerts.foldl (fun sum alert => w.add sum alert.amount) 0
  byDay : ∀ bucket, tally.byDay.value bucket = (alerts.filter fun alert => dayBucket alert.daysOverdue = bucket).length
  customers : tally.customerOverdueDebt.keys = (alerts.map InstallmentAlert.customerID).dedup
  debt : ∀ id, tally.customerOverdueDebt.value id =
    (alerts.filter fun alert => alert.customerID = id).foldl (fun sum alert => w.add sum alert.amount) 0
  count : ∀ id, tally.customerOverdueCount.value id = (alerts.filter fun alert => alert.customerID = id).length

theorem counted_empty : Counted w [] .empty where
  listed := rfl
  totalOverdue := rfl
  totalAmount := rfl
  byDay := by
    intro bucket
    simp [AlertTally.empty, Counters.set, Counters.empty]
  customers := rfl
  debt := fun _ => rfl
  count := fun _ => rfl

theorem Counted.next {alerts : List InstallmentAlert} {tally : AlertTally} (counted : Counted w alerts tally)
    (alert : InstallmentAlert) : Counted w (alerts ++ [alert]) (tally.count w alert) where
  listed := by rw [AlertTally.count, counted.listed]
  totalOverdue := by simp [AlertTally.count, counted.totalOverdue]
  totalAmount := by simp [AlertTally.count, counted.totalAmount]
  byDay := by
    intro bucket
    simp only [AlertTally.count, Counters.set, Function.update_apply, counted.byDay]
    by_cases same : bucket = dayBucket alert.daysOverdue
    · subst same
      simp
    · simp [same, Ne.symm same]
  customers := by
    rw [List.map_append, List.map_singleton, dedup_snoc, ← counted.customers]
    rfl
  debt := by
    intro id
    simp only [AlertTally.count, Counters.set, Function.update_apply, counted.debt]
    by_cases same : id = alert.customerID
    · subst same
      simp
    · simp [same, Ne.symm same]
  count := by
    intro id
    simp only [AlertTally.count, Counters.set, Function.update_apply, counted.count]
    by_cases same : id = alert.customerID
    · subst same
      simp
    · simp [same, Ne.symm same]

theorem counted_entries {sale : SaleRow} {plan : InstallmentPlan} (entries : List Installment)
    {alerts : List InstallmentAlert} {tally : AlertTally} (counted : Counted w alerts tally) :
    Counted w (alerts ++ entries.filterMap (overdueAlert w env db sale plan)) (entries.foldl (fun tally inst =>
      match overdueAlert w env db sale plan inst with
      | none => tally
      | some alert => tally.count w alert) tally) := by
  induction entries generalizing alerts tally with
  | nil => simpa using counted
  | cons inst entries ih =>
    rw [List.foldl_cons]
    cases raised : overdueAlert w env db sale plan inst with
    | none =>
      rw [List.filterMap_cons_none raised]
      exact ih counted
    | some alert =>
      rw [List.filterMap_cons_some raised, List.append_cons]
      exact ih (counted.next alert)

theorem counted_sales (sales : List SaleRow) {alerts : List InstallmentAlert} {tally : AlertTally}
    (counted : Counted w alerts tally) :
    Counted w (alerts ++ sales.flatMap (saleAlerts w env db)) (sales.foldl (fun tally sale =>
      match sale.installmentPlan with
      | none => tally
      | some plan => plan.entries.foldl (fun tally inst =>
        match overdueAlert w env db sale plan inst with
        | none => tally
        | some alert => tally.count w alert) tally) tally) := by
  induction sales generalizing alerts tally with
  | nil => simpa using counted
  | cons sale sales ih =>
    rw [List.foldl_cons, List.flatMap_cons, ← List.append_assoc]
    cases planned : sale.installmentPlan with
    | none =>
      simp only [saleAlerts, planned, List.append_nil]
      exact ih counted
    | some plan =>
      simp only [saleAlerts, planned]
      exact ih (counted_entries plan.entries counted)

theorem alertTally_counted :
    Counted w (db.getInstallmentSales.flatMap (saleAlerts w env db)) (alertTally w env db) :=
  counted_sales db.getInstallmentSales counted_empty

end Tally

section Days

variable {w : Word} {env : Env} {db : Store} {sale : SaleRow} {plan : InstallmentPlan} {inst : Installment}

/-- The alert of an entry that is so many days late. -/
def alertOf (w : Word) (db : Store) (sale : SaleRow) (plan : InstallmentPlan) (inst : Installment) (days : Int) :
    InstallmentAlert where
  saleID := sale.id
  customerID := sale.customerID
  customerName :=
    if sale.customerName = "" then ((db.alertCustomer sale.customerID).map Customer.name).getD "" else sale.customerName
  customerPhone := ((db.alertCustomer sale.customerID).map Customer.phone).getD ""
  instNumber := inst.number
  dueDate := inst.dueDate
  amount := inst.amount
  daysOverdue := days
  totalDue := plan.unpaid.foldl (fun sum inst => w.add sum inst.amount) 0

/-- An alert is raised for an unpaid entry that was due before the day of the service, and counts
no more days than a duration holds. -/
theorem overdueAlert_iff {alert : InstallmentAlert} : overdueAlert w env db sale plan inst = some alert ↔
    inst.status ≠ .paid ∧ ∃ due, parseDate inst.dueDate = some due ∧ due < today env ∧
      alert = alertOf w db sale plan inst (daysBetween due (today env)) := by
  unfold overdueAlert
  by_cases paid : inst.status = .paid
  · simp [paid]
  · rw [if_neg paid]
    cases parsed : parseDate inst.dueDate with
    | none => simp
    | some due =>
      by_cases before : due < today env
      · have late : ¬daysBetween due (today env) ≤ 0 := by
          unfold daysBetween
          omega
        simp only [before, late, if_true, if_false, Option.some.injEq, exists_eq_left', true_and]
        exact ⟨fun same => ⟨paid, same.symm⟩, fun ⟨_, same⟩ => same.symm⟩
      · simp [before]

/-- The day of the call in a zone so many seconds ahead of the one due dates are read in. -/
def localDay (env : Env) (offset : Int) : Int := (env.unix + offset) / 86400 + dayNumber 1970 1 1

/-- The alert there should be on a day: of an unpaid entry that was due before it, with the days
that have passed. -/
def exactAlert (w : Word) (day : Int) (db : Store) (sale : SaleRow) (plan : InstallmentPlan) (inst : Installment) :
    Option InstallmentAlert :=
  if inst.status = .paid then none
  else (parseDate inst.dueDate).bind fun due =>
    if due < day then some (alertOf w db sale plan inst (day - due)) else none

theorem exactAlert_iff {day : Int} {alert : InstallmentAlert} : exactAlert w day db sale plan inst = some alert ↔
    inst.status ≠ .paid ∧ ∃ due, parseDate inst.dueDate = some due ∧ due < day ∧
      alert = alertOf w db sale plan inst (day - due) := by
  unfold exactAlert
  by_cases paid : inst.status = .paid
  · simp [paid]
  · simp [paid, Option.bind_eq_some_iff, @eq_comm _ alert]

def exactAlerts (w : Word) (day : Int) (db : Store) : List InstallmentAlert :=
  db.getInstallmentSales.flatMap fun sale =>
    match sale.installmentPlan with
    | none => []
    | some plan => plan.entries.filterMap (exactAlert w day db sale plan)

/-- The service's day and the shop's say the same of a due date. -/
def SameLateness (service shop due : Int) : Prop :=
  service ≤ due ∧ shop ≤ due ∨
    due < shop ∧ (shop = service ∧ shop - due ≤ 106751 ∨ shop < service ∧ shop - due = 106751)

theorem sameLateness_iff {service shop due : Int} : SameLateness service shop due ↔
    (due < service ↔ due < shop) ∧ (due < service → daysBetween due service = shop - due) := by
  unfold SameLateness daysBetween
  omega

/-- Every unpaid entry with a date of the calendar is as late for the service as for the shop. -/
def AlertsOnTime (env : Env) (day : Int) (db : Store) : Prop :=
  ∀ sale ∈ db.getInstallmentSales, ∀ plan ∈ sale.installmentPlan, ∀ inst ∈ plan.unpaid,
    ∀ due ∈ parseDate inst.dueDate, SameLateness (today env) day due

theorem mem_alerts {alert : InstallmentAlert} : alert ∈ db.getInstallmentSales.flatMap (saleAlerts w env db) ↔
    ∃ sale ∈ db.getInstallmentSales, ∃ plan ∈ sale.installmentPlan, ∃ inst ∈ plan.entries,
      overdueAlert w env db sale plan inst = some alert := by
  rw [List.mem_flatMap]
  refine exists_congr fun sale => and_congr_right fun _ => ?_
  cases planned : sale.installmentPlan with
  | none => simp [saleAlerts, planned]
  | some plan => simp [saleAlerts, planned]

theorem mem_exactAlerts {day : Int} {alert : InstallmentAlert} : alert ∈ exactAlerts w day db ↔
    ∃ sale ∈ db.getInstallmentSales, ∃ plan ∈ sale.installmentPlan, ∃ inst ∈ plan.entries,
      exactAlert w day db sale plan inst = some alert := by
  rw [exactAlerts, List.mem_flatMap]
  refine exists_congr fun sale => and_congr_right fun _ => ?_
  cases planned : sale.installmentPlan with
  | none => simp
  | some plan => simp

/-- An alert shows its due date, so two entries with one due date are late by the same days. -/
theorem alerts_exact_iff (day : Int) :
    db.getInstallmentSales.flatMap (saleAlerts w env db) = exactAlerts w day db ↔ AlertsOnTime env day db := by
  constructor
  · intro same sale listed plan planned inst waiting due parsed
    obtain ⟨entry, unpaid⟩ := mem_unpaid.mp waiting
    have served : due < today env → due < day ∧ daysBetween due (today env) = day - due := by
      intro late
      have raised := mem_alerts.mpr ⟨sale, listed, plan, planned, inst, entry,
        (@overdueAlert_iff w env db sale plan inst _).mpr ⟨unpaid, due, parsed, late, rfl⟩⟩
      rw [same] at raised
      obtain ⟨other, _, schedule, _, twin, _, exact⟩ := mem_exactAlerts.mp raised
      obtain ⟨_, date, read, before, alert⟩ := exactAlert_iff.mp exact
      have text : inst.dueDate = twin.dueDate := congrArg InstallmentAlert.dueDate alert
      obtain rfl : due = date := Option.some.inj (parsed.symm.trans (text ▸ read))
      exact ⟨before, congrArg InstallmentAlert.daysOverdue alert⟩
    have due_shop : due < day → due < today env := by
      intro late
      have raised := mem_exactAlerts.mpr ⟨sale, listed, plan, planned, inst, entry,
        (@exactAlert_iff w db sale plan inst day _).mpr ⟨unpaid, due, parsed, late, rfl⟩⟩
      rw [← same] at raised
      obtain ⟨other, _, schedule, _, twin, _, served⟩ := mem_alerts.mp raised
      obtain ⟨_, date, read, before, alert⟩ := overdueAlert_iff.mp served
      have text : inst.dueDate = twin.dueDate := congrArg InstallmentAlert.dueDate alert
      obtain rfl : due = date := Option.some.inj (parsed.symm.trans (text ▸ read))
      exact before
    exact sameLateness_iff.mpr ⟨⟨fun late => (served late).1, due_shop⟩, fun late => (served late).2⟩
  · intro every
    refine congrArg List.flatten (List.map_congr_left fun sale listed => ?_)
    cases planned : sale.installmentPlan with
    | none => simp [saleAlerts, planned]
    | some plan =>
      simp only [saleAlerts, planned]
      refine List.filterMap_congr fun inst entry => Option.ext fun alert => ?_
      rw [overdueAlert_iff, exactAlert_iff]
      refine and_congr_right fun unpaid => exists_congr fun due => and_congr_right fun parsed => ?_
      obtain ⟨late, days⟩ := sameLateness_iff.mp
        (every sale listed plan planned inst (mem_unpaid.mpr ⟨entry, unpaid⟩) due parsed)
      rw [← late]
      exact and_congr_right fun before => by rw [days before]

end Days

/-- The totals belong to the alerts; the sum of amounts is the program's own, and the exact sum
when that fits. -/
structure TotalsAgree (visit : List String → List String) (db : Store) (tally : AlertTally) : Prop where
  number : tally.totalOverdue = tally.alerts.length
  buckets : (((tally.summary visit db).byDay).map Prod.snd).sum = tally.totalOverdue
  amount : tally.totalAmount = tally.alerts.foldl (fun sum alert => Word.int64.add sum alert.amount) 0
  debts : (tally.customers visit db).foldl (fun sum customer => Word.int64.add sum customer.totalDebt) 0 =
    tally.totalAmount
  exact : (∀ alert ∈ tally.alerts, 0 ≤ alert.amount) → Word.int64.fits (tally.alerts.map InstallmentAlert.amount).sum →
    tally.totalAmount = (tally.alerts.map InstallmentAlert.amount).sum ∧
      ((tally.customers visit db).map OverdueCustomer.totalDebt).sum = tally.totalAmount

section Totals

variable {visit : List String → List String} {db : Store} {alerts : List InstallmentAlert} {tally : AlertTally}

theorem buckets_all : ∀ alerts : List InstallmentAlert,
    ((["1-7", "8-30", "30+"].map fun bucket =>
      ((alerts.filter fun alert => dayBucket alert.daysOverdue = bucket).length : Int)).sum) = alerts.length := by
  intro alerts
  induction alerts with
  | nil => rfl
  | cons alert alerts ih =>
    simp only [List.map_cons, List.map_nil, List.sum_cons, List.sum_nil, List.filter_cons] at ih ⊢
    unfold dayBucket at ih ⊢
    split_ifs <;> simp_all <;> omega

/-- The customers are those of the alerts, each once. -/
theorem customers_debts (order : ∀ keys, (visit keys).Perm keys) (counted : Counted .int64 alerts tally) :
    ((tally.customers visit db).map OverdueCustomer.totalDebt).Perm ((alerts.map InstallmentAlert.customerID).dedup.map
      fun id => (alerts.filter fun alert => alert.customerID = id).foldl
        (fun sum alert => Word.int64.add sum alert.amount) 0) := by
  have listed : ((tally.customers visit db).map OverdueCustomer.totalDebt).Perm
      ((visit tally.customerOverdueDebt.keys).map tally.customerOverdueDebt.value) := by
    have sorted := (List.mergeSort_perm ((visit tally.customerOverdueDebt.keys).map fun id =>
      (⟨id, ((db.alertCustomer id).map Customer.name).getD "", tally.customerOverdueDebt.value id,
        tally.customerOverdueCount.value id⟩ : OverdueCustomer)) fun a b => decide (b.totalDebt ≤ a.totalDebt)).map
          OverdueCustomer.totalDebt
    rwa [List.map_map] at sorted
  have visited := listed.trans ((order tally.customerOverdueDebt.keys).map tally.customerOverdueDebt.value)
  rwa [counted.customers, List.map_congr_left fun id _ => counted.debt id] at visited

theorem totals_agree (order : ∀ keys, (visit keys).Perm keys) (counted : Counted .int64 alerts tally) :
    TotalsAgree visit db tally := by
  have wrapped (alerts : List InstallmentAlert) : alerts.foldl (fun sum alert => Word.int64.add sum alert.amount) 0 =
      Word.int64.wrap (alerts.map InstallmentAlert.amount).sum := by
    rw [Word.int64_foldl InstallmentAlert.amount alerts Word.int64.fits_zero, zero_add]
  have perm := (@customers_debts visit db alerts tally order counted).sum_eq
  have groups : (((alerts.map InstallmentAlert.customerID).dedup.map fun id =>
      ((alerts.filter fun alert => alert.customerID = id).map InstallmentAlert.amount).sum).sum) =
        (alerts.map InstallmentAlert.amount).sum :=
    Keyed.groups_sum InstallmentAlert.amount (List.nodup_dedup _)
      fun alert member => List.mem_dedup.mpr (List.mem_map_of_mem member)
  refine ⟨?_, ?_, ?_, ?_, ?_⟩
  · rw [counted.totalOverdue, counted.listed]
  · have all := buckets_all alerts
    simp only [AlertTally.summary, List.map_map, counted.totalOverdue]
    rw [← all]
    exact congrArg List.sum (List.map_congr_left fun bucket _ => counted.byDay bucket)
  · rw [counted.totalAmount, counted.listed]
  · rw [Word.int64_foldl OverdueCustomer.totalDebt _ Word.int64.fits_zero, zero_add, perm, counted.totalAmount, wrapped,
      ← groups]
    simp only [wrapped]
    exact Word.int64_sum_wrapped _ _
  · rw [counted.listed]
    intro nonneg fits
    have total : tally.totalAmount = (alerts.map InstallmentAlert.amount).sum := by
      rw [counted.totalAmount, wrapped, Word.int64.wrap_of_fits _ fits]
    refine ⟨total, ?_⟩
    rw [perm, total, ← groups]
    refine congrArg List.sum (List.map_congr_left fun id _ => ?_)
    have part : ((alerts.filter fun alert => alert.customerID = id).map InstallmentAlert.amount).sum ≤
        (alerts.map InstallmentAlert.amount).sum :=
      (List.filter_sublist.map InstallmentAlert.amount).sum_le_sum (List.forall_mem_map.mpr nonneg)
    have low : 0 ≤ ((alerts.filter fun alert => alert.customerID = id).map InstallmentAlert.amount).sum :=
      List.sum_nonneg (List.forall_mem_map.mpr fun alert member => nonneg alert (List.mem_filter.mp member).1)
    rw [wrapped, Word.int64.wrap_of_fits _ (Word.int64.fits_of_le fits low part)]

end Totals

section Summary

variable {w : Word} {env : Env} {db : Store}

theorem alert_days {alert : InstallmentAlert} (member : alert ∈ db.getInstallmentSales.flatMap (saleAlerts w env db)) :
    0 < alert.daysOverdue ∧ alert.daysOverdue ≤ 106751 := by
  obtain ⟨sale, _, plan, _, inst, _, raised⟩ := mem_alerts.mp member
  obtain ⟨_, due, _, before, rfl⟩ := overdueAlert_iff.mp raised
  simp only [alertOf, daysBetween]
  omega

/-- The loop gives the summary that its alerts determine. -/
theorem alertTally_summary (visit : List String → List String) :
    (alertTally w env db).summary visit db = getInstallmentAlertSummary w env visit db := by
  have counted := @alertTally_counted w env db
  have within (bucket : String) (low high : Int) (range : ∀ n : Int, 0 < n → n ≤ 106751 →
      (dayBucket n = bucket ↔ low < n ∧ n ≤ high)) : (alertTally w env db).byDay.value bucket =
        (((db.getInstallmentSales.flatMap (saleAlerts w env db)).filter fun alert =>
          low < alert.daysOverdue ∧ alert.daysOverdue ≤ high).length : Int) := by
    rw [counted.byDay]
    refine congrArg (fun some : List InstallmentAlert => (some.length : Int)) (List.filter_congr fun alert member => ?_)
    rw [decide_eq_decide]
    exact range _ (alert_days member).1 (alert_days member).2
  have week := within "1-7" 0 7 (by unfold dayBucket; intro n _ _; split_ifs <;> simp <;> omega)
  have month := within "8-30" 7 30 (by unfold dayBucket; intro n _ _; split_ifs <;> simp <;> omega)
  have longer := within "30+" 30 106751 (by unfold dayBucket; intro n _ _; split_ifs <;> simp <;> omega)
  have customers : (alertTally w env db).customers visit db = (((visit ((db.getInstallmentSales.flatMap
      (saleAlerts w env db)).map InstallmentAlert.customerID).dedup).map (overdueCustomer w db
        (db.getInstallmentSales.flatMap (saleAlerts w env db)))).mergeSort
          fun a b => decide (b.totalDebt ≤ a.totalDebt)) := by
    rw [AlertTally.customers, counted.customers]
    refine congrArg (fun some => List.mergeSort some _) (List.map_congr_left fun id _ => ?_)
    rw [counted.debt, counted.count]
    rfl
  simp only [AlertTally.summary, getInstallmentAlertSummary, counted.totalOverdue, counted.totalAmount, counted.listed,
    customers, List.map_cons, List.map_nil, week, month, longer]

end Summary

/-- The alerts are those of the shop's day exactly when no unpaid entry is late for one clock and
not for the other, or by other days; the totals belong to the alerts always. -/
theorem overdue_alerts (env : Env) (offset : Int) (visit : List String → List String) (db : Store)
    (order : ∀ keys, (visit keys).Perm keys) :
    ((getInstallmentAlertSummary .int64 env visit db).alerts = exactAlerts .int64 (localDay env offset) db ↔
      AlertsOnTime env (localDay env offset) db) ∧
    (alertTally .int64 env db).summary visit db = getInstallmentAlertSummary .int64 env visit db ∧
    TotalsAgree visit db (alertTally .int64 env db) :=
  ⟨alerts_exact_iff _, alertTally_summary visit, totals_agree order alertTally_counted⟩

section Midnight

/-- One entry, due on the first of January. -/
def newYearRow : SaleRow := (teaSale "s1" "ali" .installment none
  (some ⟨2000, 1000, 1, "2025-12-01", some [⟨1, "2026-01-01", 1000, .pending, 0⟩]⟩) 2).toSaleRow

def newYearShop : Store := { shop with sales := ⟨[newYearRow], by simp⟩ }

/-- Half past ten in the evening of that day where due dates are read, and noon of the next. -/
def lateEvening : Env := { till with unix := 1767306600 }
def nextNoon : Env := { till with unix := 1767355200 }

/-- Three hours ahead it is the second of January, and no alert is raised for the first. -/
theorem overdue_alerts_evening :
    (getInstallmentAlertSummary .int64 lateEvening id newYearShop).alerts.length = 0 ∧
      (exactAlerts .int64 (localDay lateEvening 10800) newYearShop).map InstallmentAlert.daysOverdue = [1] ∧
      (getInstallmentAlertSummary .int64 lateEvening id newYearShop).alerts ≠
        exactAlerts .int64 (localDay lateEvening 10800) newYearShop := by
  have silent : (getInstallmentAlertSummary .int64 lateEvening id newYearShop).alerts.length = 0 := by decide +kernel
  have late : (exactAlerts .int64 (localDay lateEvening 10800) newYearShop).map InstallmentAlert.daysOverdue = [1] := by
    decide +kernel
  refine ⟨silent, late, fun same => ?_⟩
  rw [← same, List.length_eq_zero_iff.mp silent] at late
  cases late

/-- At noon both clocks have one day. -/
theorem overdue_alerts_noon : (getInstallmentAlertSummary .int64 nextNoon id newYearShop).alerts =
    exactAlerts .int64 (localDay nextNoon 10800) newYearShop := by
  refine (overdue_alerts nextNoon 10800 id newYearShop fun keys => List.Perm.refl keys).1.mpr ?_
  have listed : newYearShop.getInstallmentSales = [newYearRow] := by decide +kernel
  have read : parseDate "2026-01-01" = some 739982 := by decide +kernel
  intro sale member plan planned inst waiting due parsed
  rw [listed, List.mem_singleton] at member
  subst member
  cases planned
  have entry : inst = ⟨1, "2026-01-01", 1000, .pending, 0⟩ := by
    simpa [InstallmentPlan.unpaid, InstallmentPlan.entries] using waiting
  subst entry
  obtain rfl : due = 739982 := Option.some.inj (parsed.symm.trans read)
  exact .inr ⟨by decide, .inl ⟨by decide, by decide⟩⟩

end Midnight

end BeidarPos
