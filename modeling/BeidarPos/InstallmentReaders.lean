import BeidarPos.Crm
import BeidarPos.Decimal
import BeidarPos.Runs

/-! The readers of installment plans: the alert summary, the summary of one sale, the
count that keeps a customer from deletion, and the collection itself. Each decides by
itself what is outstanding. -/
namespace BeidarPos

open Machine Relational Journal Tx

section Dates

def isLeap (year : Nat) : Bool := year % 4 = 0 && (year % 100 ≠ 0 || year % 400 = 0)

def daysIn (month year : Nat) : Nat :=
  if month = 2 then (if isLeap year then 29 else 28)
  else if month = 4 ∨ month = 6 ∨ month = 9 ∨ month = 11 then 30 else 31

/-- Days since the first of January of the year 0. -/
def dayNumber (year month day : Nat) : Int :=
  365 * (year : Int) + (year + 3) / 4 - (year + 99) / 100 + (year + 399) / 400 +
    ((List.range (month - 1)).map fun m => daysIn (m + 1) year).sum + (day - 1)

def digitsValue (digits : List Char) : Option Nat :=
  if digits.all Decimal.isDigit then some (Decimal.valueOf digits) else none

/-- `time.Parse("2006-01-02", text)`, as the number of the day. -/
def parseDate (text : String) : Option Int :=
  match text.toList with
  | [y₁, y₂, y₃, y₄, '-', m₁, m₂, '-', d₁, d₂] => do
    let year ← digitsValue [y₁, y₂, y₃, y₄]
    let month ← digitsValue [m₁, m₂]
    let day ← digitsValue [d₁, d₂]
    if 1 ≤ month ∧ month ≤ 12 ∧ 1 ≤ day ∧ day ≤ daysIn month year then some (dayNumber year month day) else none
  | _ => none

/-- The day of the call, in the zone due dates are read in. -/
def today (env : Env) : Int := env.unix / 86400 + dayNumber 1970 1 1

/-- A duration stops at 2^63 - 1 nanoseconds. -/
def daysBetween (due now : Int) : Int := min (now - due) 106751

end Dates

/-- The entries a plan still waits for. -/
def InstallmentPlan.unpaid (plan : InstallmentPlan) : List Installment :=
  plan.entries.filter fun inst => inst.status ≠ .paid

structure InstallmentAlert where
  saleID : String
  customerID : String
  customerName : String
  customerPhone : String
  instNumber : Int
  dueDate : String
  amount : Int
  daysOverdue : Int
  totalDue : Int

structure OverdueCustomer where
  customerID : String
  customerName : String
  totalDebt : Int
  overdueCount : Int

structure InstallmentAlertSummary where
  totalOverdue : Int
  totalAmount : Int
  byDay : List (String × Int)
  topCustomers : List OverdueCustomer
  alerts : List InstallmentAlert

namespace Store

variable (db : Store)

def getInstallmentSales : List SaleRow :=
  (db.sales.rows.filter fun sale => sale.paymentMethod = .installment).mergeSort
    fun a b => decide (b.timestamp ≤ a.timestamp)

/-- The rows behind `GetActiveInstallmentsCount`. -/
def activeInstallments (customerID : String) : List SaleRow :=
  db.sales.rows.filter fun sale =>
    sale.customerID = customerID ∧ sale.paymentMethod = .installment ∧ sale.status ≠ .paid

def getActiveInstallmentsCount (customerID : String) : Nat := (db.activeInstallments customerID).length

/-- A customer as the summary looks one up: the empty identifier is not asked for. -/
def alertCustomer (id : String) : Option Customer := if id = "" then none else db.customers.find? id

end Store

/-- The alert of one entry of a plan. -/
def overdueAlert (w : Word) (env : Env) (db : Store) (sale : SaleRow) (plan : InstallmentPlan) (inst : Installment) :
    Option InstallmentAlert :=
  if inst.status = .paid then none
  else
    match parseDate inst.dueDate with
    | none => none
    | some due =>
      if due < today env then
        if daysBetween due (today env) ≤ 0 then none
        else
          let customer := db.alertCustomer sale.customerID
          some {
            saleID := sale.id
            customerID := sale.customerID
            customerName :=
              if sale.customerName = "" then (customer.map Customer.name).getD "" else sale.customerName
            customerPhone := (customer.map Customer.phone).getD ""
            instNumber := inst.number
            dueDate := inst.dueDate
            amount := inst.amount
            daysOverdue := daysBetween due (today env)
            totalDue := plan.unpaid.foldl (fun sum inst => w.add sum inst.amount) 0 }
      else none

def saleAlerts (w : Word) (env : Env) (db : Store) (sale : SaleRow) : List InstallmentAlert :=
  match sale.installmentPlan with
  | none => []
  | some plan => plan.entries.filterMap (overdueAlert w env db sale plan)

def overdueCustomer (w : Word) (db : Store) (alerts : List InstallmentAlert) (customerID : String) : OverdueCustomer :=
  let own := alerts.filter fun alert => alert.customerID = customerID
  ⟨customerID, ((db.alertCustomer customerID).map Customer.name).getD "",
    own.foldl (fun sum alert => w.add sum alert.amount) 0, own.length⟩

/-- `visit` is the order in which the map of customers is read back. -/
def getInstallmentAlertSummary (w : Word) (env : Env) (visit : List String → List String) (db : Store) :
    InstallmentAlertSummary :=
  let alerts := db.getInstallmentSales.flatMap (saleAlerts w env db)
  let within := fun (low high : Int) =>
    ((alerts.filter fun alert => low < alert.daysOverdue ∧ alert.daysOverdue ≤ high).length : Int)
  { totalOverdue := alerts.length
    totalAmount := alerts.foldl (fun sum alert => w.add sum alert.amount) 0
    byDay := [("1-7", within 0 7), ("8-30", within 7 30), ("30+", within 30 106751)]
    topCustomers := (((visit (alerts.map InstallmentAlert.customerID).dedup).map (overdueCustomer w db alerts)).mergeSort
      fun a b => decide (b.totalDebt ≤ a.totalDebt)).take 5
    alerts := alerts }

/-- How many entries there are, how many are paid, and the amount that remains. -/
def getInstallmentSummary (w : Word) (saleID : String) (db : Store) : Except Failure (Nat × Nat × Int) :=
  match db.getSale saleID with
  | none => .error (AppError.keyed .payment "PAYMENT_SALE_NOT_FOUND" "PAYMENT_SALE_NOT_FOUND" [.text saleID] "sale_id")
  | some sale =>
    match sale.installmentPlan with
    | none => .ok (0, 0, 0)
    | some plan => .ok (plan.entries.length, (plan.entries.filter fun inst => inst.status = .paid).length,
        plan.unpaid.foldl (fun sum inst => w.add sum inst.amount) 0)

def deleteCustomer (id : String) (force : Bool) (db : Store) : Except Failure Store :=
  match db.customers.find? id with
  | none => .error (customerError "CUSTOMER_NOT_FOUND" "id" [])
  | some customer =>
    if 0 < db.getActiveInstallmentsCount id then
      .error (customerError "CUSTOMER_HAS_ACTIVE_INSTALLMENTS" "" [.number (db.getActiveInstallmentsCount id)])
    else if customer.debt ≠ 0 ∧ force = false then
      .error (.app ⟨.customer, "CUSTOMER_HAS_DEBT", .message "CUSTOMER_HAS_DEBT" [.amount customer.debt],
        .message "CUSTOMER_HAS_DEBT_FORCE_HINT" [], "", true⟩)
    else .ok { db with customers := db.customers.filter fun c => c.id ≠ id }

theorem deleteCustomer_blocked {db : Store} {sale : SaleRow} (force : Bool)
    (active : sale ∈ db.activeInstallments sale.customerID) : ∃ e, deleteCustomer sale.customerID force db = .error e := by
  have counted : 0 < db.getActiveInstallmentsCount sale.customerID := List.length_pos_of_mem active
  unfold deleteCustomer
  split
  · exact ⟨_, rfl⟩
  · rw [if_pos counted]
    exact ⟨_, rfl⟩

/-- The entry's date is one of the calendar and lies before today. -/
def PastDue (env : Env) (inst : Installment) : Prop := ∃ due, parseDate inst.dueDate = some due ∧ due < today env

theorem overdueAlert_some {w : Word} {env : Env} {db : Store} {sale : SaleRow} {plan : InstallmentPlan}
    {inst : Installment} (past : PastDue env inst) :
    (∃ alert, overdueAlert w env db sale plan inst = some alert) ↔ inst.status ≠ .paid := by
  obtain ⟨due, parsed, before⟩ := past
  have positive : ¬ daysBetween due (today env) ≤ 0 := by
    unfold daysBetween
    omega
  unfold overdueAlert
  by_cases paid : inst.status = .paid
  · simp [paid]
  · simp [paid, parsed, before, positive]

theorem mem_unpaid {plan : InstallmentPlan} {inst : Installment} :
    inst ∈ plan.unpaid ↔ inst ∈ plan.entries ∧ inst.status ≠ .paid := by
  simp [InstallmentPlan.unpaid]

theorem alert_reported {w : Word} {env : Env} {visit : List String → List String} {db : Store} {sale : SaleRow}
    {plan : InstallmentPlan} {inst : Installment} {alert : InstallmentAlert} (stored : sale ∈ db.sales.rows)
    (kind : sale.paymentMethod = .installment) (planned : sale.installmentPlan = some plan)
    (entry : inst ∈ plan.entries) (raised : overdueAlert w env db sale plan inst = some alert) :
    alert ∈ (getInstallmentAlertSummary w env visit db).alerts := by
  have listed : sale ∈ db.getInstallmentSales := by
    unfold Store.getInstallmentSales
    rw [(List.mergeSort_perm _ _).mem_iff]
    simp [stored, kind]
  have own : alert ∈ saleAlerts w env db sale := by
    simp only [saleAlerts, planned]
    exact List.mem_filterMap.mpr ⟨inst, entry, raised⟩
  exact List.mem_flatMap.mpr ⟨sale, listed, own⟩

/-- Some payment of the entry would be accepted. -/
def Collectable (db : Store) (saleID : String) (index : Nat) : Prop :=
  ∃ env amount method, (payInstallment .exact env saleID index amount method).accepts db

/-- A call by someone who only wants to know. -/
def anyone : Env := ⟨"", 0, 0, "", fun _ => .stored⟩

theorem accepts_when_write {p : Prop} [Decidable p] {v : Write} {db next : Store} (applied : v.apply db = .ok next) :
    (when p (write v) : DbTx Unit).accepts db := by
  by_cases holds : p
  · exact ⟨(), [v], next, does_when.mpr (.inl ⟨holds, does_write.mpr ⟨rfl, applied⟩⟩)⟩
  · exact ⟨(), [], db, does_when.mpr (.inr ⟨holds, rfl, rfl⟩)⟩

theorem installmentRow_recorded (env : Env) (sale : SaleRow) (amount : Int) (method : PaymentMethod) (index : Nat)
    (db : Store) : ∃ next, (Write.createPayment (installmentRow env sale amount method index)).apply db = .ok next := by
  simp [Write.apply, Store.createPayment, installmentRow]

theorem payInstallment_accepts {db : Store} {row : SaleRow} {plan : InstallmentPlan} {inst : Installment} {index : Nat}
    (stored : db.sales.find? row.id = some row) (active : row.status ≠ .returned ∧ row.status ≠ .partialReturn)
    (planned : row.installmentPlan = some plan) (entry : plan.entries[index]? = some inst)
    (unpaid : inst.status ≠ .paid) (positive : 0 < inst.amount) :
    (payInstallment .exact anyone row.id index inst.amount .card).accepts db := by
  have loaded : db.getSale row.id = some { row with items := db.itemsOf row.id } := by simp [Store.getSale, stored]
  have scheduled : installmentAt plan (index : Int) = some inst := by simpa [installmentAt] using entry
  unfold payInstallment
  rw [accepts_ensure_bind, accepts_ask_bind, accepts_ask_bind, accepts_require_bind]
  refine ⟨positive, _, loaded, ?_⟩
  rw [accepts_ensure_bind, accepts_require_bind]
  refine ⟨active, plan, planned, ?_⟩
  rw [accepts_require_bind]
  refine ⟨inst, scheduled, ?_⟩
  rw [accepts_ensure_bind, accepts_ensure_bind, accepts_write_bind]
  refine ⟨unpaid, .inl rfl, _, rfl, ?_⟩
  rw [accepts_write_bind]
  obtain ⟨next, recorded⟩ := installmentRow_recorded anyone row inst.amount .card (index : Int).toNat
    (db.updateSaleInstallmentPlan row.id (paidPlan anyone (index : Int).toNat plan)
      (if allPaid (paidPlan anyone (index : Int).toNat plan) then .paid else row.status))
  refine ⟨next, recorded, ?_⟩
  obtain ⟨u, ws, middle, does⟩ := @accepts_when_write (row.customerID ≠ "") _
    (.decrementInstallmentDebt row.customerID inst.amount) next _ rfl
  refine accepts_bind.mpr ⟨u, ws, middle, does, (), [], middle, ?_⟩
  exact does_when.mpr (.inr ⟨by decide, rfl, rfl⟩)

theorem InstallmentFacts.scheduled {db : Store} {saleID : String} {index amount : Int} {sale : Sale} {plan : InstallmentPlan}
    {inst : Installment} (facts : InstallmentFacts .exact db saleID index amount sale plan inst) :
    plan.entries[index.toNat]? = some inst := by
  have entry := facts.entry
  unfold installmentAt at entry
  split at entry
  · cases entry
  · exact entry

theorem InstallmentFacts.positive {db : Store} {saleID : String} {index amount : Int} {sale : Sale} {plan : InstallmentPlan}
    {inst : Installment} (facts : InstallmentFacts .exact db saleID index amount sale plan inst) (asked : 0 < amount) :
    0 < inst.amount := by
  rcases facts.matching with same | dinars | cents
  · omega
  · simp only [Word.exact_mul] at dinars
    omega
  · simp only [Word.exact_mul] at cents
    omega

theorem collectable_iff {db : Store} {row : SaleRow} {index : Nat} (stored : db.sales.find? row.id = some row) :
    Collectable db row.id index ↔ row.status ≠ .returned ∧ row.status ≠ .partialReturn ∧
      ∃ plan ∈ row.installmentPlan, ∃ inst, plan.entries[index]? = some inst ∧ inst.status ≠ .paid ∧ 0 < inst.amount := by
  constructor
  · rintro ⟨env, amount, method, accepted⟩
    obtain ⟨sale, plan, inst, facts, _⟩ := payInstallment_does (does_accepted accepted)
    unfold payInstallment at accepted
    have positive := (accepts_ensure_bind.mp accepted).1
    obtain ⟨found, _, _⟩ := getSale_row facts.loaded
    obtain rfl : row = sale.toSaleRow := Option.some.inj (stored.symm.trans found)
    exact ⟨facts.active.1, facts.active.2, plan, facts.planned, inst, facts.scheduled, facts.unpaid, facts.positive positive⟩
  · rintro ⟨whole, part, plan, planned, inst, entry, unpaid, positive⟩
    exact ⟨anyone, inst.amount, .card, payInstallment_accepts stored ⟨whole, part⟩ planned entry unpaid positive⟩

/-- What the four readers say of one installment sale. -/
structure ReadersAgree (db : Store) (sale : SaleRow) : Prop where
  overdue : ∀ plan ∈ sale.installmentPlan, ∀ (index : Nat) inst, plan.entries[index]? = some inst →
    ∀ env visit, PastDue env inst → ((∃ alert ∈ (getInstallmentAlertSummary .exact env visit db).alerts,
      overdueAlert .exact env db sale plan inst = some alert) ↔ Collectable db sale.id index)
  remaining : ∀ plan ∈ sale.installmentPlan, ∀ (index : Nat) inst, plan.entries[index]? = some inst →
    (inst ∈ plan.unpaid ↔ Collectable db sale.id index)
  blocks : sale ∈ db.activeInstallments sale.customerID ↔ ∃ index, Collectable db sale.id index

/-- Unpaid entries are worth something and their sale is not returned; a sale counts as
paid exactly when no entry is left. -/
structure OneStory (sale : SaleRow) : Prop where
  live : ∀ plan ∈ sale.installmentPlan, ∀ inst ∈ plan.unpaid,
    sale.status ≠ .returned ∧ sale.status ≠ .partialReturn ∧ 0 < inst.amount
  paid : sale.status ≠ .paid ↔ ∃ plan ∈ sale.installmentPlan, ∃ inst, inst ∈ plan.unpaid

theorem activeInstallments_iff {db : Store} {sale : SaleRow} (stored : sale ∈ db.sales.rows)
    (kind : sale.paymentMethod = .installment) :
    sale ∈ db.activeInstallments sale.customerID ↔ sale.status ≠ .paid := by
  simp [Store.activeInstallments, stored, kind]

theorem readers_agree_iff {db : Store} {sale : SaleRow} (stored : sale ∈ db.sales.rows)
    (kind : sale.paymentMethod = .installment) : ReadersAgree db sale ↔ OneStory sale := by
  have found := Table.find?_of_mem stored
  constructor
  · intro agree
    have live : ∀ plan ∈ sale.installmentPlan, ∀ inst ∈ plan.unpaid,
        sale.status ≠ .returned ∧ sale.status ≠ .partialReturn ∧ 0 < inst.amount := by
      intro plan planned inst waiting
      obtain ⟨index, entry⟩ := List.getElem?_of_mem (mem_unpaid.mp waiting).1
      have due := (agree.remaining plan planned index inst entry).mp waiting
      obtain ⟨whole, part, plan', planned', inst', entry', _, positive⟩ := (collectable_iff found).mp due
      obtain rfl : plan = plan' := Option.some.inj (planned.symm.trans planned')
      obtain rfl : inst = inst' := Option.some.inj (entry.symm.trans entry')
      exact ⟨whole, part, positive⟩
    refine ⟨live, (activeInstallments_iff stored kind).symm.trans (agree.blocks.trans ⟨?_, ?_⟩)⟩
    · rintro ⟨index, due⟩
      obtain ⟨_, _, plan, planned, inst, entry, unpaid, _⟩ := (collectable_iff found).mp due
      exact ⟨plan, planned, inst, mem_unpaid.mpr ⟨List.mem_of_getElem? entry, unpaid⟩⟩
    · rintro ⟨plan, planned, inst, waiting⟩
      obtain ⟨index, entry⟩ := List.getElem?_of_mem (mem_unpaid.mp waiting).1
      exact ⟨index, (agree.remaining plan planned index inst entry).mp waiting⟩
  · intro story
    have remaining : ∀ plan ∈ sale.installmentPlan, ∀ (index : Nat) inst, plan.entries[index]? = some inst →
        (inst ∈ plan.unpaid ↔ Collectable db sale.id index) := by
      intro plan planned index inst entry
      rw [collectable_iff found]
      constructor
      · intro waiting
        obtain ⟨whole, part, positive⟩ := story.live plan planned inst waiting
        exact ⟨whole, part, plan, planned, inst, entry, (mem_unpaid.mp waiting).2, positive⟩
      · rintro ⟨_, _, plan', planned', inst', entry', unpaid, _⟩
        obtain rfl : plan = plan' := Option.some.inj (planned.symm.trans planned')
        obtain rfl : inst = inst' := Option.some.inj (entry.symm.trans entry')
        exact mem_unpaid.mpr ⟨List.mem_of_getElem? entry, unpaid⟩
    refine ⟨?_, remaining, ?_⟩
    · intro plan planned index inst entry env visit past
      rw [← remaining plan planned index inst entry, mem_unpaid]
      have member := List.mem_of_getElem? entry
      constructor
      · rintro ⟨alert, _, raised⟩
        exact ⟨member, (overdueAlert_some past).mp ⟨alert, raised⟩⟩
      · rintro ⟨_, unpaid⟩
        obtain ⟨alert, raised⟩ := (overdueAlert_some past).mpr unpaid
        exact ⟨alert, alert_reported stored kind planned member raised, raised⟩
    · rw [activeInstallments_iff stored kind, story.paid]
      constructor
      · rintro ⟨plan, planned, inst, waiting⟩
        obtain ⟨index, entry⟩ := List.getElem?_of_mem (mem_unpaid.mp waiting).1
        exact ⟨index, (remaining plan planned index inst entry).mp waiting⟩
      · rintro ⟨index, due⟩
        obtain ⟨_, _, plan, planned, inst, entry, unpaid, _⟩ := (collectable_iff found).mp due
        exact ⟨plan, planned, inst, mem_unpaid.mpr ⟨List.mem_of_getElem? entry, unpaid⟩⟩

/-- All readers agree on every installment sale of the store. -/
def AllAgree (db : Store) : Prop :=
  ∀ sale ∈ db.sales.rows, sale.paymentMethod = .installment → ReadersAgree db sale

theorem allAgree_iff {db : Store} : AllAgree db ↔
    ∀ id sale, db.sales.find? id = some sale → sale.paymentMethod = .installment → OneStory sale := by
  constructor
  · intro agree id sale found kind
    have stored := Table.find?_mem found
    exact (readers_agree_iff stored kind).mp (agree sale stored kind)
  · intro story sale stored kind
    exact (readers_agree_iff stored kind).mpr (story sale.id sale (Table.find?_of_mem stored) kind)

/-- A call, or any change by a service that does not write sales. -/
inductive ShopStep where
  | call (env : Env) (c : Call)
  | elsewhere (change : Store → Store) (keeps : ∀ db, (change db).sales = db.sales)

def ShopStep.next : ShopStep → Store → Store
  | .call env c, db => (c.body .exact env).commit db
  | .elsewhere change _, db => change db

def ShopStep.run (steps : List ShopStep) (db : Store) : Store := steps.foldl (fun db step => step.next db) db

/-- An installment sale comes with something left to pay, and is never returned. -/
def Call.KeepsPlans (db : Store) : Call → Prop
  | .processSale _ request => request.paymentMethod = .installment →
    (∃ plan ∈ request.installmentPlan, ∃ inst, inst ∈ plan.unpaid) ∧
      ∀ plan ∈ request.installmentPlan, ∀ inst ∈ plan.unpaid, 0 < inst.amount
  | .returnSale id => ∀ sale ∈ db.sales.find? id, sale.paymentMethod ≠ .installment
  | .returnSalePartial id _ _ => ∀ sale ∈ db.sales.find? id, sale.paymentMethod ≠ .installment
  | _ => True

def ShopStep.KeepsPlans (db : Store) : ShopStep → Prop
  | .call env c => (c.body .exact env).accepts db → c.KeepsPlans db
  | .elsewhere _ _ => True

theorem markPaid_unpaid {env : Env} {index : Nat} {plan : InstallmentPlan} {inst : Installment}
    (waiting : inst ∈ (paidPlan env index plan).unpaid) : inst ∈ plan.unpaid := by
  obtain ⟨member, unpaid⟩ := mem_unpaid.mp waiting
  refine mem_unpaid.mpr ⟨?_, unpaid⟩
  cases scheduled : plan.schedule with
  | none => simp [InstallmentPlan.entries, paidPlan, scheduled] at member
  | some schedule =>
    simp only [InstallmentPlan.entries, paidPlan, scheduled, Option.map_some, Option.getD_some, markPaid] at member ⊢
    obtain ⟨i, bound, rfl⟩ := List.mem_iff_getElem.mp member
    rw [List.getElem_modify] at unpaid ⊢
    split at unpaid
    · exact absurd rfl unpaid
    · rename_i other
      rw [if_neg other]
      exact List.getElem_mem _

theorem paidPlan_story {env : Env} {index : Nat} {sale : SaleRow} {plan : InstallmentPlan} {inst : Installment}
    (story : OneStory sale) (planned : sale.installmentPlan = some plan) (waiting : inst ∈ plan.unpaid) :
    OneStory { sale with
      installmentPlan := some (paidPlan env index plan)
      status := if allPaid (paidPlan env index plan) then .paid else sale.status } := by
  have standing := story.live plan planned
  have owing : sale.status ≠ .paid := story.paid.mpr ⟨plan, planned, inst, waiting⟩
  by_cases done : allPaid (paidPlan env index plan)
  · have nothing : ∀ other, other ∉ (paidPlan env index plan).unpaid := by
      intro other left
      obtain ⟨member, unpaid⟩ := mem_unpaid.mp left
      exact unpaid (done other member)
    refine ⟨?_, ?_⟩
    · rintro _ ⟨⟩ other left
      exact absurd left (nothing other)
    · simp only [if_pos done, ne_eq, not_true_eq_false, false_iff]
      rintro ⟨_, ⟨⟩, other, left⟩
      exact nothing other left
  · refine ⟨?_, ?_⟩
    · rintro _ ⟨⟩ other left
      rw [if_neg done]
      exact standing other (markPaid_unpaid left)
    · simp only [if_neg done]
      obtain ⟨other, member, unpaid⟩ : ∃ other ∈ (paidPlan env index plan).entries, other.status ≠ .paid := by
        simpa [allPaid] using done
      exact ⟨fun _ => ⟨_, rfl, other, mem_unpaid.mpr ⟨member, unpaid⟩⟩, fun _ => owing⟩

/-- No story holds of a returned sale: it is not paid, and nothing of it can be collected. -/
theorem OneStory.kept {sale : SaleRow} (story : OneStory sale) :
    sale.status ≠ .returned ∧ sale.status ≠ .partialReturn := by
  by_cases paid : sale.status = .paid
  · simp [paid]
  · obtain ⟨plan, planned, inst, waiting⟩ := story.paid.mp paid
    obtain ⟨whole, part, _⟩ := story.live plan planned inst waiting
    exact ⟨whole, part⟩

theorem priced_story {env : Env} {db : Store} {request : Sale} (kind : request.paymentMethod = .installment) :
    OneStory (pricedSale .exact env db request).toSaleRow ↔
      (∃ plan ∈ request.installmentPlan, ∃ inst, inst ∈ plan.unpaid) ∧
        ∀ plan ∈ request.installmentPlan, ∀ inst ∈ plan.unpaid, 0 < inst.amount := by
  have pending : (pricedSale .exact env db request).status = .pending := if_pos (.inr kind)
  have same : (pricedSale .exact env db request).installmentPlan = request.installmentPlan := rfl
  constructor
  · intro story
    refine ⟨?_, ?_⟩
    · rw [← same]
      exact story.paid.mp (by simp [pending])
    · intro plan planned inst waiting
      exact (story.live plan (same ▸ planned) inst waiting).2.2
  · rintro ⟨some, positive⟩
    refine ⟨?_, ?_⟩
    · intro plan planned inst waiting
      exact ⟨by simp [pending], by simp [pending], positive plan (same ▸ planned) inst waiting⟩
    · exact ⟨fun _ => by rw [same]; exact some, fun _ => by simp [pending]⟩

/-- The stories of the installment sales of a store. -/
def StoriesHold (db : Store) : Prop :=
  ∀ id sale, db.sales.find? id = some sale → sale.paymentMethod = .installment → OneStory sale

theorem stories_of_same {db final : Store} (same : ∀ id, final.sales.find? id = db.sales.find? id) :
    StoriesHold final ↔ StoriesHold db := by
  simp only [StoriesHold, same]

/-- A return gives its sale a status no story has. -/
theorem returned_stories {db final : Store} {row next : SaleRow} (stories : StoriesHold db)
    (stored : db.sales.find? row.id = some row)
    (written : ∀ id, final.sales.find? id = if id = row.id then (db.sales.find? id).map fun _ => next else db.sales.find? id)
    (status : next.status = .returned ∨ next.status = .partialReturn)
    (method : next.paymentMethod = row.paymentMethod) :
    StoriesHold final ↔ ∀ sale ∈ db.sales.find? row.id, sale.paymentMethod ≠ .installment := by
  constructor
  · rintro later sale found kind
    obtain rfl : row = sale := Option.some.inj (stored.symm.trans found)
    have here : final.sales.find? row.id = some next := by rw [written, if_pos rfl, stored, Option.map_some]
    obtain ⟨whole, part⟩ := (later row.id next here (method.trans kind)).kept
    rcases status with same | same
    · exact whole same
    · exact part same
  · intro other id sale found kind
    rw [written] at found
    split at found
    · rename_i same
      subst same
      rw [stored, Option.map_some, Option.some.injEq] at found
      subst found
      exact absurd (method.symm.trans kind) (other row stored)
    · exact stories id sale found kind

/-- An accepted call leaves one story of every installment sale exactly when it keeps
the plans. -/
theorem call_stories {env : Env} {c : Call} {db final : Store} (stories : StoriesHold db)
    (h : Does (c.body .exact env) db () ws final) : StoriesHold final ↔ c.KeepsPlans db := by
  have moved := sale_replayed h
  cases c with
  | processSale actor request =>
    obtain ⟨facts, rfl⟩ := processSaleAs_does h
    simp only [saleJournal_row] at moved
    constructor
    · intro later kind
      refine (@priced_story env db request kind).mp (later (pricedSale .exact env db request).id _ ?_ kind)
      rw [moved, if_pos rfl]
    · intro keeps id sale found kind
      rw [moved] at found
      split at found
      · cases found
        exact (@priced_story env db request kind).mpr (keeps kind)
      · exact stories id sale found kind
  | returnSale sold =>
    obtain ⟨sale, loaded, _, _, rfl⟩ := returnSale_does h
    obtain ⟨stored, _, rfl⟩ := getSale_row loaded
    simp only [returnJournal_row] at moved
    exact returned_stories stories stored moved (.inl rfl) rfl
  | returnSalePartial sold productID qty =>
    obtain ⟨item, sale, facts, rfl⟩ := returnSalePartial_does h
    obtain ⟨stored, _, rfl⟩ := getSale_row facts.loaded
    simp only [partialJournal_row] at moved
    refine returned_stories stories stored moved ?_ rfl
    simp only [shrinkSale]
    split
    · exact .inl rfl
    · exact .inr rfl
  | createPayment request =>
    obtain ⟨_, rfl⟩ := createPayment_does h
    simp only [paymentJournal_row] at moved
    simpa [Call.KeepsPlans, stories_of_same moved] using stories
  | createPaymentForced request =>
    obtain ⟨_, rfl⟩ := createPayment_does h
    simp only [paymentJournal_row] at moved
    simpa [Call.KeepsPlans, stories_of_same moved] using stories
  | payInstallment sold index amount method =>
    obtain ⟨sale, plan, inst, facts, rfl⟩ := payInstallment_does h
    simp only [Call.KeepsPlans, iff_true]
    intro id row found kind
    rw [moved] at found
    rcases installmentJournal_found facts found with kept | ⟨rfl, rfl⟩
    · exact stories id row kept kind
    · have stored := (getSale_row facts.loaded).1
      have entry := List.mem_of_getElem? facts.scheduled
      exact paidPlan_story (stories _ _ stored kind) facts.planned (mem_unpaid.mpr ⟨entry, facts.unpaid⟩)
  | addCashMovement =>
    obtain ⟨_, _, rfl⟩ := addCashMovement_does h
    exact ⟨fun _ => trivial, fun _ => (stories_of_same moved).mpr stories⟩

theorem step_stories {step : ShopStep} {db : Store} (stories : StoriesHold db) :
    StoriesHold (step.next db) ↔ step.KeepsPlans db := by
  cases step with
  | call env c =>
    by_cases accepted : (c.body .exact env).accepts db
    · simp only [ShopStep.KeepsPlans, accepted, forall_const]
      exact call_stories stories (does_accepted accepted)
    · simp only [ShopStep.KeepsPlans, accepted, false_imp_iff, iff_true, ShopStep.next]
      rw [(commit_rejected accepted).1]
      exact stories
  | elsewhere change keeps =>
    simp only [ShopStep.KeepsPlans, iff_true, ShopStep.next]
    exact (stories_of_same fun id => by rw [keeps]).mpr stories

/-- The readers agree all along a run exactly when each step keeps the plans. -/
theorem installment_readers (steps : List ShopStep) (start : Store) (new : start.sales.rows = []) :
    (∀ front back, steps = front ++ back → AllAgree (ShopStep.run front start)) ↔
      ∀ front step back, steps = front ++ step :: back → step.KeepsPlans (ShopStep.run front start) := by
  have begun : StoriesHold start := by
    intro id sale found
    have member := Table.find?_mem found
    rw [new] at member
    cases member
  refine @Runs.kept_iff _ _ (fun db (step : ShopStep) => step.next db) steps start AllAgree
    (fun step db => step.KeepsPlans db) (allAgree_iff.mpr begun) ?_
  intro front step back parts agree
  exact allAgree_iff.trans (step_stories (allAgree_iff.mp agree))

section Tea

def twoMonths : InstallmentPlan :=
  ⟨2000, 0, 2, "2026-01-01", some [⟨1, "2026-02-01", 1000, .pending, 0⟩, ⟨2, "2026-03-01", 1000, .pending, 0⟩]⟩

def teaOnInstallments : ShopStep :=
  .call till (.processSale sara (teaSale "s1" "ali" .installment none (some twoMonths) 2))

/-- The tenth of March 2026. -/
def march : Env := { till with unix := 1773100800 }

end Tea

/-- The teas come back, and nobody has to pay for them; three readers do not know. -/
theorem installment_readers_returned :
    let db := ShopStep.run [teaOnInstallments, .call till (.returnSale "s1")] shop
    ¬ AllAgree db ∧ (getInstallmentAlertSummary .exact march id db).totalOverdue = 2 ∧
      getInstallmentSummary .exact "s1" db = .ok (2, 0, 2000) ∧ db.getActiveInstallmentsCount "ali" = 1 ∧
      ∀ index, ¬ Collectable db "s1" index := by
  intro db
  have overdue : (getInstallmentAlertSummary .exact march id db).totalOverdue = 2 := by decide +kernel
  have remains : getInstallmentSummary .exact "s1" db = .ok (2, 0, 2000) := by decide +kernel
  have counts : db.getActiveInstallmentsCount "ali" = 1 := by decide +kernel
  obtain ⟨row, stored, returned⟩ : ∃ row, db.sales.find? "s1" = some row ∧ row.status = .returned ∧
      row.paymentMethod = .installment := by
    have found : (db.sales.find? "s1").isSome := by decide +kernel
    have status : ∀ row ∈ db.sales.find? "s1", row.status = .returned ∧ row.paymentMethod = .installment := by
      decide +kernel
    obtain ⟨row, stored⟩ := Option.isSome_iff_exists.mp found
    exact ⟨row, stored, status row stored⟩
  have named : row.id = "s1" := Table.find?_key stored
  refine ⟨?_, overdue, remains, counts, ?_⟩
  · intro agree
    exact (allAgree_iff.mp agree "s1" row stored returned.2).kept.1 returned.1
  · intro index due
    rw [← named] at stored due
    exact ((collectable_iff stored).mp due).1 returned.1

theorem installment_readers_tea :
    AllAgree (ShopStep.run [teaOnInstallments, .call till (.payInstallment "s1" 0 1000 .card)] shop) := by
  refine (installment_readers _ shop rfl).mpr ?_ _ [] (List.append_nil _).symm
  intro front step back parts
  have member : step ∈ [teaOnInstallments, .call till (.payInstallment "s1" 0 1000 .card)] := by rw [parts]; simp
  simp only [List.mem_cons, List.not_mem_nil, or_false] at member
  rcases member with rfl | rfl
  · intro _ _
    refine ⟨⟨twoMonths, rfl, ⟨1, "2026-02-01", 1000, .pending, 0⟩, by decide⟩, ?_⟩
    rintro _ ⟨⟩
    decide
  · exact fun _ => trivial

end BeidarPos
