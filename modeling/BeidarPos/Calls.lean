import BeidarPos.Accounting
import BeidarPos.PartialJournal
import BeidarPos.PaymentJournal
import BeidarPos.Shifts

/-! The service calls as one type, the stores that runs of them reach, and what every
stored sale satisfies in such a store. Products, customers, shifts and preferences
may be changed by services outside the model between two calls, in any way. -/
namespace BeidarPos

open Machine Relational Journal Tx

inductive Call where
  | processSale (actor : Actor) (request : Sale)
  | returnSale (id : String)
  | returnSalePartial (saleID productID : String) (qtyToReturn : ℚ)
  | createPayment (request : Payment)
  | createPaymentForced (request : Payment)
  | payInstallment (saleID : String) (installmentIndex amount : Int) (method : PaymentMethod)
  | addCashMovement (shiftID : String) (moveType : MoveType) (reason staffID staffName : String) (amount : Int)

def Call.body (w : Word) (env : Env) : Call → DbTx Unit
  | .processSale actor request => processSaleAs w env actor request
  | .returnSale id => BeidarPos.returnSale w env id
  | .returnSalePartial saleID productID qty => BeidarPos.returnSalePartial w env saleID productID qty
  | .createPayment request => BeidarPos.createPayment w env request false
  | .createPaymentForced request => BeidarPos.createPaymentForced w env request
  | .payInstallment saleID index amount method => BeidarPos.payInstallment w env saleID index amount method
  | .addCashMovement shiftID moveType reason staffID staffName amount =>
    BeidarPos.addCashMovement env shiftID moveType reason staffID staffName amount

/-- The stores reached from one without sales. `elsewhere` is any change by services
that do not write sales. -/
inductive Reachable : Store → Prop
  | start (db : Store) : db.sales.rows = [] → db.saleItems.rows = [] → Reachable db
  | call {db final : Store} {ws : List Write} (env : Env) (c : Call) :
    Reachable db → Does (c.body .exact env) db () ws final → Reachable final
  | elsewhere {db final : Store} :
    Reachable db → final.sales = db.sales → final.saleItems = db.saleItems → Reachable final

/-- What holds of a sale row from the moment it is stored. -/
structure ValidSale (sale : SaleRow) : Prop where
  nonneg : 0 ≤ sale.total
  anonymous : sale.customerID = "" → PaidInFull sale
  plan : sale.paymentMethod = .installment → ∀ plan, sale.installmentPlan = some plan →
    0 ≤ plan.downPayment ∧ ∀ inst ∈ plan.entries, 0 ≤ inst.amount
  split : sale.paymentMethod = .split → ∀ split, sale.splitDetails = some split →
    (∀ leg ∈ split.legs, 0 ≤ leg.2) ∧ sale.total ≤ split.total

def SalesValid (db : Store) : Prop := ∀ id row, db.sales.find? id = some row → ValidSale row

theorem priced_valid (facts : SaleFacts .exact env db request) :
    ValidSale (pricedSale .exact env db request).toSaleRow where
  nonneg := facts.payable.nonneg
  anonymous := by
    intro anonymous
    have paid := facts.admitted.anonymous anonymous
    exact ⟨paid.credit, paid.installment, paid.split⟩
  plan := fun kind plan planned => ⟨(facts.plan kind plan planned).downPayment, (facts.plan kind plan planned).amounts⟩
  split := fun kind split details =>
    ⟨fun leg member => ((facts.split kind split details).legs leg member).1,
      (split_complete (facts.split kind split details)).ge⟩

/-- A sale keeps its validity when its total shrinks, but not below zero. -/
theorem ValidSale.shrunk {sale next : SaleRow} (valid : ValidSale sale) (nonneg : 0 ≤ next.total)
    (le : next.total ≤ sale.total) (customer : next.customerID = sale.customerID)
    (method : next.paymentMethod = sale.paymentMethod) (details : next.splitDetails = sale.splitDetails)
    (plan : next.installmentPlan = sale.installmentPlan) : ValidSale next where
  nonneg := nonneg
  anonymous := by
    intro anonymous
    have paid := valid.anonymous (customer ▸ anonymous)
    exact ⟨method ▸ paid.credit, method ▸ paid.installment, method ▸ details ▸ paid.split⟩
  plan := by
    rw [method, plan]
    exact valid.plan
  split := by
    rw [method, details]
    intro kind split found
    obtain ⟨legs, covered⟩ := valid.split kind split found
    exact ⟨legs, le.trans covered⟩

theorem shrinkSale_total (sale : Sale) (item : SaleItem) (qtyToReturn : ℚ) (refundAmount : Int) (done : Bool)
    (high : refundAmount ≤ sale.total) :
    (shrinkSale .exact sale item qtyToReturn refundAmount done).total = sale.total - refundAmount := by
  simp only [shrinkSale, Word.exact_sub]
  exact if_neg (by omega)

theorem partialRefund_le (w : Word) (sale : Sale) (item : SaleItem) (qtyToReturn : ℚ) :
    partialRefund w sale item qtyToReturn ≤ sale.total := by
  unfold partialRefund refundAmountOf
  simp only
  split <;> omega

theorem markPaid_amounts {schedule : List Installment} {index : Nat} {inst : Installment}
    (member : inst ∈ markPaid env index schedule) : ∃ old ∈ schedule, inst.amount = old.amount := by
  unfold markPaid at member
  obtain ⟨i, bound, rfl⟩ := List.mem_iff_getElem.mp member
  rw [List.length_modify] at bound
  refine ⟨schedule[i], List.getElem_mem bound, ?_⟩
  rw [List.getElem_modify]
  split <;> rfl

theorem paidPlan_valid {plan : InstallmentPlan} {index : Nat}
    (valid : 0 ≤ plan.downPayment ∧ ∀ inst ∈ plan.entries, 0 ≤ inst.amount) :
    0 ≤ (paidPlan env index plan).downPayment ∧ ∀ inst ∈ (paidPlan env index plan).entries, 0 ≤ inst.amount := by
  refine ⟨valid.1, ?_⟩
  intro inst member
  cases scheduled : plan.schedule with
  | none => simp [InstallmentPlan.entries, paidPlan, scheduled] at member
  | some schedule =>
    simp only [InstallmentPlan.entries, paidPlan, scheduled, Option.map_some, Option.getD_some] at member
    obtain ⟨old, before, same⟩ := markPaid_amounts member
    rw [same]
    exact valid.2 old (by simpa [InstallmentPlan.entries, scheduled] using before)

theorem paymentJournal_row (env : Env) (prefs : Option AppPreferences) (request : Payment) (id : String)
    (o : Option SaleRow) : (saleCell id).steps (paymentJournal env prefs request) o = o := by
  have confined : Confined [.ledger, .customers, .shifts] (paymentJournal env prefs request) := by
    refine confined_cons.mpr ⟨by simp [Write.area], Confined.append ?_ ?_⟩
    · unfold debtPaymentWrites
      split <;> simp [Confined, Write.area]
    · unfold cashInWrites
      split <;> simp [Confined, Write.area]
  exact (sale_within id).frame confined (by decide) o

theorem installmentJournal_row (env : Env) (prefs : Option AppPreferences) (index : Nat) (method : PaymentMethod)
    (sale : Sale) (plan : InstallmentPlan) (inst : Installment) (id : String) (o : Option SaleRow) :
    (saleCell id).steps (installmentJournal env prefs index method sale plan inst) o =
      saleStep id (.updateSaleInstallmentPlan sale.id (paidPlan env index plan)
        (if allPaid (paidPlan env index plan) then .paid else sale.status)) o := by
  have confined : Confined [.ledger, .customers, .shifts]
      (.createPayment (installmentRow env sale.toSaleRow inst.amount method index) ::
        (installmentDebtPaid sale.toSaleRow inst.amount ++ cashInWrites prefs method inst.amount)) := by
    refine confined_cons.mpr ⟨by simp [Write.area], Confined.append ?_ ?_⟩
    · unfold installmentDebtPaid
      split <;> simp [Confined, Write.area]
    · unfold cashInWrites
      split <;> simp [Confined, Write.area]
  exact (sale_within id).frame confined (by decide) _

/-- A row after an installment was paid is the row from before, or the sale's with the
installment marked. -/
theorem installmentJournal_found {db : Store} {saleID : String} {index amount : Int} {place : Nat} {w : Word}
    {env : Env} {prefs : Option AppPreferences} {method : PaymentMethod} {sale : Sale} {plan : InstallmentPlan}
    {inst : Installment} {id : String} {row : SaleRow} (facts : InstallmentFacts w db saleID index amount sale plan inst)
    (found : (saleCell id).steps (installmentJournal env prefs place method sale plan inst) (db.sales.find? id) =
      some row) :
    db.sales.find? id = some row ∨ id = saleID ∧ row = { sale.toSaleRow with
      installmentPlan := some (paidPlan env place plan)
      status := if allPaid (paidPlan env place plan) then .paid else sale.status } := by
  obtain ⟨stored, _, rfl⟩ := getSale_row facts.loaded
  rw [installmentJournal_row] at found
  simp only [saleStep] at found
  split at found
  · rename_i same
    subst same
    rw [stored] at found
    exact .inr ⟨rfl, (Option.some.inj found).symm⟩
  · exact .inl found

/-- The call stores, returns or is paid for this very sale. -/
def Call.IsOn (env : Env) (id : String) : Call → Prop
  | .processSale _ request => id = (stampSale env request).id
  | .returnSale saleID | .returnSalePartial saleID _ _ | .payInstallment saleID _ _ _ => id = saleID
  | .createPayment _ | .createPaymentForced _ | .addCashMovement .. => False

/-- What an accepted call does to the row of one sale: nothing, or what a call on that very sale
is for. -/
theorem call_row {w : Word} {db final : Store} {c : Call} (h : Does (c.body w env) db () ws final) (id : String) :
    (¬ c.IsOn env id ∧ final.sales.find? id = db.sales.find? id) ∨
    (∃ actor request, c = .processSale actor request ∧ SaleFacts w env db request ∧ id = (stampSale env request).id ∧
      final.sales.find? id = some (pricedSale w env db request).toSaleRow) ∨
    (∃ sale, c = .returnSale id ∧ db.getSale id = some sale ∧
      final.sales.find? id = some { sale.toSaleRow with status := .returned }) ∨
    (∃ productID qty item sale, c = .returnSalePartial id productID qty ∧ PartialFacts w db id productID qty item sale ∧
      final.sales.find? id = some (shrinkSale w sale (returnedLine item qty) qty (partialRefund w sale item qty)
        (allReturned (db.saleItems.put (returnedLine item qty)) id)).toSaleRow) ∨
    ∃ index amount method sale plan inst, c = .payInstallment id index amount method ∧
      InstallmentFacts w db id index amount sale plan inst ∧
      final.sales.find? id = some { sale.toSaleRow with
        installmentPlan := some (paidPlan env index.toNat plan)
        status := if allPaid (paidPlan env index.toNat plan) then .paid else sale.status } := by
  have moved := sale_replayed h id
  cases c with
  | processSale actor request =>
    obtain ⟨facts, rfl⟩ := processSaleAs_does h
    rw [saleJournal_row] at moved
    by_cases own : id = (pricedSale w env db request).id
    · rw [if_pos own] at moved
      exact .inr (.inl ⟨actor, request, rfl, facts, own, moved⟩)
    · rw [if_neg own] at moved
      exact .inl ⟨own, moved⟩
  | returnSale sold =>
    obtain ⟨sale, loaded, _, _, rfl⟩ := returnSale_does h
    obtain ⟨stored, _, rfl⟩ := getSale_row loaded
    rw [returnJournal_row] at moved
    by_cases own : id = sale.id
    · subst own
      rw [if_pos rfl, stored, Option.map_some] at moved
      exact .inr (.inr (.inl ⟨sale, rfl, loaded, moved⟩))
    · rw [if_neg own] at moved
      exact .inl ⟨own, moved⟩
  | returnSalePartial sold productID qty =>
    obtain ⟨item, sale, facts, rfl⟩ := returnSalePartial_does h
    obtain ⟨stored, _, rfl⟩ := getSale_row facts.loaded
    rw [partialJournal_row] at moved
    by_cases own : id = sale.id
    · subst own
      rw [if_pos rfl, stored, Option.map_some] at moved
      exact .inr (.inr (.inr (.inl ⟨productID, qty, item, sale, rfl, facts, moved⟩)))
    · rw [if_neg own] at moved
      exact .inl ⟨own, moved⟩
  | createPayment request =>
    obtain ⟨_, rfl⟩ := createPayment_does h
    rw [paymentJournal_row] at moved
    exact .inl ⟨not_false, moved⟩
  | createPaymentForced request =>
    obtain ⟨_, rfl⟩ := createPayment_does h
    rw [paymentJournal_row] at moved
    exact .inl ⟨not_false, moved⟩
  | payInstallment sold index amount method =>
    obtain ⟨sale, plan, inst, facts, rfl⟩ := payInstallment_does h
    obtain ⟨stored, _, rfl⟩ := getSale_row facts.loaded
    rw [installmentJournal_row, saleStep] at moved
    by_cases own : id = sale.id
    · subst own
      rw [if_pos rfl, stored, Option.map_some] at moved
      exact .inr (.inr (.inr (.inr ⟨index, amount, method, sale, plan, inst, rfl, facts, moved⟩)))
    · rw [if_neg own] at moved
      exact .inl ⟨own, moved⟩
  | addCashMovement =>
    obtain ⟨_, _, rfl⟩ := addCashMovement_does h
    exact .inl ⟨not_false, moved⟩

/-- Every accepted call leaves every stored sale valid. -/
theorem call_keeps_valid {db final : Store} {c : Call} (valid : SalesValid db)
    (h : Does (c.body .exact env) db () ws final) : SalesValid final := by
  intro id row found
  rcases call_row h id with ⟨_, kept⟩ | ⟨_, _, _, facts, _, now⟩ | ⟨sale, _, loaded, now⟩ |
    ⟨productID, qty, item, sale, _, facts, now⟩ | ⟨index, _, _, sale, plan, _, _, facts, now⟩
  · exact valid id row (kept ▸ found)
  · cases now.symm.trans found
    exact priced_valid facts
  · obtain ⟨stored, _, rfl⟩ := getSale_row loaded
    cases now.symm.trans found
    exact (valid _ _ stored).shrunk (valid _ _ stored).nonneg le_rfl rfl rfl rfl rfl
  · obtain ⟨stored, _, rfl⟩ := getSale_row facts.loaded
    cases now.symm.trans found
    have total := shrinkSale_total sale (returnedLine item qty) qty (partialRefund .exact sale item qty)
      (allReturned (db.saleItems.put (returnedLine item qty)) sale.id) (partialRefund_le ..)
    have := facts.refund
    have := partialRefund_le .exact sale item qty
    refine (valid _ _ stored).shrunk ?_ ?_ rfl rfl rfl rfl
    · rw [total]; omega
    · rw [total]; omega
  · cases now.symm.trans found
    have before := valid _ _ (getSale_row facts.loaded).1
    refine ⟨before.nonneg, fun anonymous => ?_, ?_, before.split⟩
    · have paid := before.anonymous anonymous
      exact ⟨paid.credit, paid.installment, paid.split⟩
    · intro kind plan' same
      cases same
      exact paidPlan_valid (before.plan kind plan facts.planned)

theorem Reachable.valid {db : Store} (h : Reachable db) : SalesValid db := by
  induction h with
  | start db sales items =>
    intro id row found
    have member := Table.find?_mem found
    rw [sales] at member
    cases member
  | call env c _ does ih => exact call_keeps_valid ih does
  | elsewhere _ sales _ ih =>
    intro id row found
    rw [sales] at found
    exact ih id row found

/-- One step of a run: a call and what it takes from its surroundings. -/
def serve (step : Env × Call) : DbTx Unit := step.2.body .exact step.1

theorem Reachable.after {db : Store} (h : Reachable db) (calls : List (Env × Call)) :
    Reachable (after serve calls db) :=
  by
  refine after_preserved serve ?_ calls db h
  intro step db u ws final reached does
  exact .call step.1 step.2 reached does

/-- A call, or a change elsewhere that leaves what `kept` compares. -/
inductive CounterStep (kept : Store → Store → Prop) where
  | call (env : Env) (c : Call)
  | elsewhere (change : Store → Store) (keeps : ∀ db, kept db (change db))

namespace CounterStep

variable {kept : Store → Store → Prop}

def next : CounterStep kept → Store → Store
  | .call env c, db => (c.body .exact env).commit db
  | .elsewhere change _, db => change db

def written : CounterStep kept → Store → List Write
  | .call env c, db => (c.body .exact env).journal db
  | .elsewhere _ _, _ => []

def run (steps : List (CounterStep kept)) (db : Store) : Store := steps.foldl (fun db step => step.next db) db

/-- The writes of a run, rejected calls without any. -/
def journal : List (CounterStep kept) → Store → List Write
  | [], _ => []
  | step :: later, db => step.written db ++ journal later (step.next db)

end CounterStep

/-- A return call on one sale. -/
inductive ReturnCall where
  | full
  | part (productID : String) (qtyToReturn : ℚ)

def ReturnCall.body (w : Word) (env : Env) (saleID : String) : ReturnCall → DbTx Unit
  | .full => returnSale w env saleID
  | .part productID qtyToReturn => returnSalePartial w env saleID productID qtyToReturn

/-- The value a return takes off the sale: the refund of a part, the whole total otherwise. -/
def returnValue (w : Word) (db : Store) (saleID : String) : ReturnCall → Int
  | .full =>
    match db.getSale saleID with
    | some sale => sale.total
    | none => 0
  | .part productID qtyToReturn =>
    match db.getSaleItem saleID productID, db.getSale saleID with
    | some item, some sale => partialRefund w sale item qtyToReturn
    | _, _ => 0

end BeidarPos
