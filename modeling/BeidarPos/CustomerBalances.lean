import BeidarPos.Crm

/-! Balances of customers over whole runs. Decrements stop at zero and charges are
sums of nonnegative amounts, so a negative balance, like a balance without a sale, can
only come in with a new customer. -/
namespace BeidarPos

open Machine Relational Journal Tx

structure Customer.Nonneg (c : Customer) : Prop where
  debt : 0 ≤ c.debt
  installmentDebt : 0 ≤ c.installmentDebt
  totalPurchases : 0 ≤ c.totalPurchases
  points : 0 ≤ c.points

/-- A customer no sale was made to. -/
structure Customer.NoBalance (c : Customer) : Prop where
  debt : c.debt = 0
  installmentDebt : c.installmentDebt = 0
  totalPurchases : c.totalPurchases = 0
  points : c.points = 0

theorem Customer.NoBalance.nonneg {c : Customer} (h : c.NoBalance) : c.Nonneg :=
  ⟨h.debt.ge, h.installmentDebt.ge, h.totalPurchases.ge, h.points.ge⟩

def BalancesNonneg (db : Store) : Prop := ∀ id, ∀ c ∈ db.customers.find? id, c.Nonneg

theorem clampSub_nonneg (a b : Int) : 0 ≤ clampSub a b := by
  unfold clampSub
  split <;> omega

/-- A charge adds purchases and points; every other write takes off or is clamped. -/
def Write.Fair : Write → Prop
  | .incrementPurchasesAndDebt _ total points _ _ _ => 0 ≤ total ∧ 0 ≤ points
  | _ => True

theorem onCustomer_nonneg {v : Write} {c : Customer} (fair : v.Fair) (nonneg : c.Nonneg) :
    (v.onCustomer c).Nonneg := by
  obtain ⟨debt, installmentDebt, totalPurchases, points⟩ := nonneg
  cases v with
  | incrementPurchasesAndDebt id total awarded credit inst visit =>
    obtain ⟨charged, earned⟩ := fair
    refine ⟨?_, ?_, ?_, ?_⟩ <;> simp only [Write.onCustomer, Customer.incrementPurchasesAndDebt]
    · split <;> omega
    · split <;> omega
    · omega
    · omega
  | decrementPurchases => exact ⟨debt, installmentDebt, clampSub_nonneg _ _, points⟩
  | adjustPoints id delta =>
    refine ⟨debt, installmentDebt, totalPurchases, ?_⟩
    simp only [Write.onCustomer, Customer.adjustPoints]
    split
    · omega
    · exact clampSub_nonneg _ _
  | decrementDebt => exact ⟨clampSub_nonneg _ _, installmentDebt, totalPurchases, points⟩
  | decrementInstallmentDebt => exact ⟨debt, clampSub_nonneg _ _, totalPurchases, points⟩
  | _ => exact ⟨debt, installmentDebt, totalPurchases, points⟩

theorem write_keeps_balances {v : Write} {db final : Store} (fair : v.Fair) (nonneg : BalancesNonneg db)
    (h : v.apply db = .ok final) : BalancesNonneg final := by
  intro id c found
  rw [apply_customer h id] at found
  split at found
  · obtain ⟨old, stored, rfl⟩ := Option.map_eq_some_iff.mp found
    exact onCustomer_nonneg fair (nonneg id old stored)
  · exact nonneg id c found

def CrmWrite.Fair : CrmWrite → Prop
  | .shop v => v.Fair
  | .createCustomer c => c.Nonneg
  | _ => True

theorem createCustomer_ok {db final : Store} {c : Customer} (h : db.createCustomer c = .ok final) :
    ∃ customers, db.customers.insert? c = some customers ∧ final = { db with customers := customers } := by
  unfold Store.createCustomer at h
  cases inserted : db.customers.insert? c with
  | none => simp [inserted] at h
  | some customers =>
    simp only [inserted, Except.ok.injEq] at h
    exact ⟨customers, rfl, h.symm⟩

theorem apply_keeps_balances {v : CrmWrite} {db final : Store} (fair : v.Fair) (nonneg : BalancesNonneg db)
    (h : v.apply db = .ok final) : BalancesNonneg final := by
  cases v with
  | shop write => exact write_keeps_balances fair nonneg h
  | createCustomer fresh =>
    obtain ⟨customers, inserted, rfl⟩ := createCustomer_ok h
    intro id c found
    simp only [Table.find?_insert inserted id] at found
    split at found
    · cases found
      exact fair
    · exact nonneg id c found
  | updateCustomer edited name phone notes =>
    cases h
    intro id c found
    have merged := (find?_updateCustomer db edited id (Customer.mergeContact name phone notes) (fun _ => rfl)).symm.trans
      found
    split at merged
    · obtain ⟨old, stored, rfl⟩ := Option.map_eq_some_iff.mp merged
      obtain ⟨debt, installmentDebt, totalPurchases, points⟩ := nonneg id old stored
      exact ⟨debt, installmentDebt, totalPurchases, points⟩
    · exact nonneg id c merged
  | deletePayment => cases h; exact nonneg

theorem replay_keeps_balances {ws : List CrmWrite} {db final : Store} (fair : ∀ v ∈ ws, v.Fair)
    (nonneg : BalancesNonneg db) (h : replay CrmWrite.apply ws db = .ok final) : BalancesNonneg final :=
  replay_keeps h nonneg fun v member _ _ => apply_keeps_balances (fair v member)

section Journals

/-- A journal whose charges are nonnegative. -/
def FairJournal (ws : List Write) : Prop := ∀ v ∈ ws, v.Fair

theorem fair_nil : FairJournal [] := by simp [FairJournal]

theorem fair_cons {v : Write} {ws : List Write} : FairJournal (v :: ws) ↔ v.Fair ∧ FairJournal ws := by
  simp [FairJournal]

theorem FairJournal.append {front back : List Write} (first : FairJournal front) (second : FairJournal back) :
    FairJournal (front ++ back) := by
  intro v member
  rcases List.mem_append.mp member with inside | inside
  · exact first v inside
  · exact second v inside

theorem fair_elsewhere {areas : List Area} {ws : List Write} (confined : Confined areas ws)
    (outside : Area.customers ∉ areas) : FairJournal ws := by
  intro v member
  cases v with
  | incrementPurchasesAndDebt => exact absurd (confined _ member) outside
  | _ => trivial

theorem fair_charge (facts : SaleFacts .exact env db request) :
    FairJournal (chargeWrites .exact env (pricedSale .exact env db request).toSaleRow) := by
  unfold chargeWrites
  split
  · exact fair_nil
  · rename_i named
    have total := facts.payable.nonneg
    refine fair_cons.mpr ⟨⟨total, ?_⟩, fair_nil⟩
    have earned : (pricedSale .exact env db request).pointsAwarded =
        Amount.div .exact (pricedSale .exact env db request).total 1000 := if_pos named
    rw [earned]
    exact div_nonneg_exact total (by decide)

theorem fair_sale (facts : SaleFacts .exact env db request) : FairJournal (saleJournal .exact env db request) := by
  obtain ⟨front, back, parts, first, last⟩ := saleJournal_parts .exact env db request
  rw [parts]
  refine (fair_elsewhere first (by decide)).append ((fair_charge facts).append
    ((fair_elsewhere (confined_payments _ _ _) (by decide)).append ?_))
  exact fair_cons.mpr ⟨trivial, fair_elsewhere last (by decide)⟩

theorem fair_debtRefund (w : Word) (env : Env) (sale : SaleRow) (debt amount : Int) (note : Text) :
    FairJournal (debtRefundWrites w env sale debt amount note) :=
  fair_cons.mpr ⟨trivial, fair_elsewhere (confined_rowFor _ _) (by decide)⟩

theorem fair_balances (w : Word) (env : Env) (sale : SaleRow) (debt : Option Int) :
    FairJournal (balanceWrites w env sale debt) := by
  unfold balanceWrites
  split
  · exact fair_nil
  · refine FairJournal.append (by simp [FairJournal, Write.Fair]) ?_
    split
    · exact fair_debtRefund _ _ _ _ _ _
    · refine (fair_elsewhere (confined_rowFor _ _) (by decide)).append ?_
      unfold installmentDebtWrites
      split <;> simp [FairJournal, Write.Fair]
    · unfold splitCreditWrites
      split
      · exact fair_nil
      · split
        · exact fair_debtRefund _ _ _ _ _ _
        · exact fair_nil
    · exact fair_nil

theorem fair_return (w : Word) (env : Env) (products : Table Product.id) (debt : Option Int) (sale : Sale) :
    FairJournal (returnJournal w env products debt sale) :=
  (((fair_elsewhere (confined_restock _ _ _ _) (by decide)).append (fair_balances _ _ _ _)).append
    (fair_elsewhere (confined_ledger _ _ _) (by decide))).append
    (fair_elsewhere (confined_closing _ _ _ _) (by decide))

theorem fair_partialBalances (w : Word) (env : Env) (sale : SaleRow) (item : SaleItem) (qtyToReturn : ℚ)
    (refundAmount : Int) (debt : Option Int) :
    FairJournal (partialBalanceWrites w env sale item qtyToReturn refundAmount debt) := by
  unfold partialBalanceWrites
  split
  · exact fair_nil
  · refine FairJournal.append (by simp [FairJournal, Write.Fair]) ?_
    split
    · exact fair_debtRefund _ _ _ _ _ _
    · simp [FairJournal, Write.Fair]
    · unfold creditShareWrites
      split <;> simp [FairJournal, Write.Fair]
    · exact fair_nil

theorem fair_partial (w : Word) (env : Env) (db : Store) (saleID productID : String) (qtyToReturn : ℚ)
    (item : SaleItem) (sale : Sale) : FairJournal (partialJournal w env db saleID productID qtyToReturn item sale) := by
  refine fair_cons.mpr ⟨trivial, (((fair_elsewhere (confined_partialStock _ _ _ _ _ _) (by decide)).append
    (fair_partialBalances _ _ _ _ _ _ _)).append
    (fair_elsewhere (confined_partialLedger _ _ _ _ _) (by decide))).append ?_⟩
  simp [FairJournal, Write.Fair]

theorem fair_cashIn (prefs : Option AppPreferences) (method : PaymentMethod) (amount : Int) :
    FairJournal (cashInWrites prefs method amount) := by
  unfold cashInWrites
  split <;> simp [FairJournal, Write.Fair]

theorem fair_payment (env : Env) (prefs : Option AppPreferences) (request : Payment) :
    FairJournal (paymentJournal env prefs request) := by
  refine fair_cons.mpr ⟨trivial, FairJournal.append ?_ (fair_cashIn _ _ _)⟩
  unfold debtPaymentWrites
  split <;> simp [FairJournal, Write.Fair]

theorem fair_installment (env : Env) (prefs : Option AppPreferences) (index : Nat) (method : PaymentMethod)
    (sale : Sale) (plan : InstallmentPlan) (inst : Installment) :
    FairJournal (installmentJournal env prefs index method sale plan inst) := by
  refine fair_cons.mpr ⟨trivial, fair_cons.mpr ⟨trivial, FairJournal.append ?_ (fair_cashIn _ _ _)⟩⟩
  unfold installmentDebtPaid
  split <;> simp [FairJournal, Write.Fair]

theorem counter_fair {c : Call} {db final : Store} (h : Does (c.body .exact env) db () ws final) : FairJournal ws := by
  cases c with
  | processSale actor request =>
    obtain ⟨facts, rfl⟩ := processSaleAs_does h
    exact fair_sale facts
  | returnSale id =>
    obtain ⟨sale, _, _, _, rfl⟩ := returnSale_does h
    exact fair_return _ _ _ _ _
  | returnSalePartial saleID productID qty =>
    obtain ⟨item, sale, _, rfl⟩ := returnSalePartial_does h
    exact fair_partial _ _ _ _ _ _ _ _
  | createPayment request =>
    obtain ⟨_, rfl⟩ := createPayment_does h
    exact fair_payment _ _ _
  | createPaymentForced request =>
    obtain ⟨_, rfl⟩ := createPayment_does h
    exact fair_payment _ _ _
  | payInstallment saleID index amount method =>
    obtain ⟨sale, plan, inst, _, rfl⟩ := payInstallment_does h
    exact fair_installment _ _ _ _ _ _ _
  | addCashMovement =>
    obtain ⟨_, _, rfl⟩ := addCashMovement_does h
    simp [FairJournal, Write.Fair]

end Journals

theorem checkCustomerPhone_does {c : Customer} {db final : Store} (h : Does (checkCustomerPhone c) db u ws final) :
    ws = [] ∧ final = db := by
  rcases does_when.mp h with ⟨_, checked⟩ | ⟨_, rfl, rfl⟩
  · rw [does_ensure_bind, does_ask_bind] at checked
    obtain ⟨_, checked⟩ := checked
    exact (does_ensure.mp checked).2
  · exact ⟨rfl, rfl⟩

/-- An accepted save creates a customer without debt or edits a stored one. -/
theorem saveCustomer_does {c : Customer} {db final : Store} (h : Does (saveCustomer env c) db u ws final) :
    (c.id = "" ∧ c.debt = 0 ∧ ws = [.createCustomer { c with id := env.freshID }]) ∨
    (c.id ≠ "" ∧ ws = [.updateCustomer c.id c.name c.phone c.notes]) := by
  unfold saveCustomer at h
  rw [does_ensure_bind, does_bind] at h
  obtain ⟨_, _, _, _, _, phone, h, rfl⟩ := h
  obtain ⟨rfl, rfl⟩ := checkCustomerPhone_does phone
  split at h
  · rename_i new
    rw [does_ensure_bind, does_mapError, does_write] at h
    exact .inl ⟨new, h.1, h.2.1⟩
  · rename_i stored
    rw [does_ask_bind, does_require_bind] at h
    obtain ⟨_, _, h⟩ := h
    exact .inr ⟨stored, (does_write.mp h).1⟩

theorem deletePayment_does {db final : Store} {id : Nat} (h : Does (deletePayment w id) db u ws final) :
    ∀ v ∈ ws, v.Fair := by
  intro v member
  rcases deletePayment_writes h v member with ⟨_, _, rfl⟩ | ⟨_, rfl⟩ | rfl <;> trivial

def balanceServe (step : Env × BalanceCall) : CrmTx Unit := step.2.body .exact step.1

/-- The step creates a customer from the request. -/
def Creates (step : Env × BalanceCall) (c : Customer) (db : Store) : Prop :=
  step.2 = .saveCustomer c ∧ c.id = "" ∧ (balanceServe step).accepts db

/-- Of the four balances the debt is checked; these three are the client's. -/
structure Customer.BringsNothing (c : Customer) : Prop where
  installmentDebt : c.installmentDebt = 0
  totalPurchases : c.totalPurchases = 0
  points : c.points = 0

theorem created_stored {step : Env × BalanceCall} {c : Customer} {db : Store} (creates : Creates step c db) :
    c.debt = 0 ∧
      ((balanceServe step).commit db).customers.find? step.1.freshID = some { c with id := step.1.freshID } := by
  obtain ⟨env, call⟩ := step
  obtain ⟨rfl, new, u, ws, final, does⟩ := creates
  rcases saveCustomer_does does with ⟨_, debt, rfl⟩ | ⟨stored, _⟩
  · refine ⟨debt, ?_⟩
    obtain ⟨next, made, same⟩ := replay_cons.mp does.replays
    cases same
    obtain ⟨customers, inserted, rfl⟩ := createCustomer_ok made
    rw [commit_accepted does]
    simp [Table.find?_insert inserted]
  · exact absurd new stored

theorem step_keeps_balances {step : Env × BalanceCall} {db final : Store} {ws : List CrmWrite}
    (nonneg : BalancesNonneg db) (honest : ∀ c, Creates step c db → c.BringsNothing)
    (h : Does (balanceServe step) db u ws final) : BalancesNonneg final := by
  obtain ⟨env, call⟩ := step
  refine replay_keeps_balances ?_ nonneg h.replays
  cases call with
  | saveCustomer c =>
    rcases saveCustomer_does h with ⟨new, debt, rfl⟩ | ⟨_, rfl⟩
    · obtain ⟨inst, total, points⟩ := honest c ⟨rfl, new, u, _, final, h⟩
      intro v member
      rw [List.mem_singleton.mp member]
      exact ⟨debt.ge, inst.ge, total.ge, points.ge⟩
    · simp [CrmWrite.Fair]
  | deletePayment id => exact deletePayment_does h
  | counter call =>
    obtain ⟨inner, s, does, rfl, _⟩ := counterPart.does_lift.mp h
    intro v member
    obtain ⟨shop, inside, rfl⟩ := List.mem_map.mp member
    exact counter_fair does shop inside

/-- All along the run no balance is negative, and new customers start without any. -/
structure FairRun (calls : List (Env × BalanceCall)) (start : Store) : Prop where
  nonneg : ∀ front back, calls = front ++ back → BalancesNonneg (after balanceServe front start)
  fresh : ∀ front step back c, calls = front ++ step :: back → Creates step c (after balanceServe front start) →
    ∃ row, (after balanceServe (front ++ [step]) start).customers.find? step.1.freshID = some row ∧ row.NoBalance

/-- A run is fair exactly when no accepted creation brings a balance of its own. -/
theorem customer_balances (calls : List (Env × BalanceCall)) (start : Store) (nonneg : BalancesNonneg start) :
    FairRun calls start ↔ ∀ front step back c, calls = front ++ step :: back →
      Creates step c (after balanceServe front start) → c.BringsNothing := by
  constructor
  · intro fair front step back c parts creates
    obtain ⟨row, found, none⟩ := fair.fresh front step back c parts creates
    rw [after_append, after_cons, after_nil, (created_stored creates).2] at found
    cases found
    exact ⟨none.installmentDebt, none.totalPurchases, none.points⟩
  · intro honest
    refine ⟨?_, ?_⟩
    · intro front back parts
      refine after_invariant balanceServe
        (fun step db u ws final kept (good : ∀ c, Creates step c db → c.BringsNothing) does =>
          step_keeps_balances kept good does) front start nonneg ?_
      intro early step late split c creates
      exact honest early step (late ++ back) c (by rw [parts, split]; simp) creates
    · intro front step back c parts creates
      obtain ⟨debt, stored⟩ := created_stored creates
      obtain ⟨inst, total, points⟩ := honest front step back c parts creates
      refine ⟨{ c with id := step.1.freshID }, ?_, ⟨debt, inst, total, points⟩⟩
      rw [after_append, after_cons, after_nil]
      exact stored

section Ali

/-- A new customer as a client may send him: no debt, purchases, and points below zero. -/
def ahead : Customer := ⟨"", "Ali", "", 0, 0, 1000, "", -5, ""⟩

/-- Ali is created and takes two teas on credit. -/
def onCredit : List (Env × BalanceCall) := [
  (till, .saveCustomer ⟨"", "Ali", "", 0, 0, 0, "", 0, ""⟩),
  (till, .counter (.processSale sara (teaSale "s1" "fresh" .credit none none 2)))]

end Ali

/-- A client makes a customer with five points too few and purchases nobody made. -/
theorem customer_balances_sent :
    (∃ row, (after balanceServe [(till, .saveCustomer ahead)] Store.empty).customers.find? till.freshID = some row ∧
      row.points < 0 ∧ 0 < row.totalPurchases) ∧
    ¬ BalancesNonneg (after balanceServe [(till, .saveCustomer ahead)] Store.empty) := by
  have stored : (after balanceServe [(till, .saveCustomer ahead)] Store.empty).customers.find? till.freshID =
      some { ahead with id := till.freshID } := by decide +kernel
  refine ⟨⟨_, stored, by decide, by decide⟩, ?_⟩
  intro nonneg
  exact absurd (nonneg _ _ stored).points (by decide)

theorem customer_balances_tea :
    FairRun onCredit shop ∧ debtOf (after balanceServe onCredit shop) "fresh" = some 2000 := by
  have nonneg : BalancesNonneg shop := by
    intro id c found
    have member := Table.find?_mem found
    simp only [shop, List.mem_singleton] at member
    subst member
    constructor <;> decide
  refine ⟨(customer_balances onCredit shop nonneg).mpr ?_, by decide +kernel⟩
  intro front step back c parts creates
  have member : step ∈ onCredit := by rw [parts]; simp
  obtain ⟨same, _⟩ := creates
  simp only [onCredit, List.mem_cons, List.not_mem_nil, or_false] at member
  rcases member with rfl | rfl
  · cases same
    exact ⟨rfl, rfl, rfl⟩
  · cases same

end BeidarPos
