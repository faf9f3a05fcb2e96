import BeidarPos.Cells
import BeidarPos.ReturnSale

/-! The journal of an accepted full return, as a function of the loaded sale, the
products and the customer's debt. -/
namespace BeidarPos

open Machine Relational Journal Tx

theorem rowFor_does {row : Payment} {db final : Store}
    (h : Does (when (0 < amount) (write (.createPayment row)) : DbTx Unit) db u ws final) :
    ws = rowFor amount row := by
  rcases does_when.mp h with ⟨positive, written⟩ | ⟨skipped, rfl, _⟩
  · simpa [rowFor, positive] using (does_write.mp written).1
  · simp [rowFor, skipped]

def restockWrites (env : Env) (saleID : String) (products : Table Product.id) (item : SaleItem) : List Write :=
  match products.find? item.productID with
  | none => []
  | some product =>
    if 0 < outstanding item then
      [.updateStock item.productID (outstanding item),
        .createStockMovement (returnMovement env saleID product item)]
    else []

theorem confined_restock (env : Env) (saleID : String) (products : Table Product.id) (items : List SaleItem) :
    Confined [.stock] (items.flatMap (restockWrites env saleID products)) := by
  refine Confined.flatMap ?_
  intro item
  unfold restockWrites
  split
  · exact confined_nil
  · split
    · simp [Confined, Write.area]
    · exact confined_nil

theorem restockLine_does {db final : Store}
    (h : Does (restockLine env saleID products item) db u ws final) :
    ws = restockWrites env saleID products item := by
  unfold restockLine at h
  unfold restockWrites
  cases found : products.find? item.productID with
  | none =>
    simp only [found] at h
    exact (does_pure.mp h).2.1
  | some product =>
    simp only [found] at h
    rcases does_when.mp h with ⟨positive, written⟩ | ⟨skipped, rfl, _⟩
    · simp only [does_bind, does_write] at written
      obtain ⟨_, front, _, back, ⟨rfl, _⟩, ⟨rfl, _⟩, rfl⟩ := written
      simp [positive]
    · simp [skipped]

theorem restock_does {db final : Store}
    (h : Does (each (restockLine env saleID products) items) db u ws final) :
    ws = items.flatMap (restockWrites env saleID products) :=
  each_journal (fun _ _ _ _ _ body => restockLine_does body) h

def creditNote : Text := .plain "استرداد نقدي لمدفوعات آجل"

/-- Debt taken off, and what it did not cover paid back in cash. -/
def debtRefundWrites (w : Word) (env : Env) (sale : SaleRow) (debt amount : Int) (note : Text) : List Write :=
  .decrementDebt sale.customerID amount ::
    rowFor (overpaid w debt amount) (refundRow env sale (w.neg (overpaid w debt amount)) .cash note)

theorem refundCredit_does {db final : Store} (h : Does (refundCredit w env sale) db r ws final) :
    ∃ debt, debtOf db sale.customerID = some debt ∧ r = max (overpaid w debt sale.total) 0 ∧
      ws = debtRefundWrites w env sale debt sale.total creditNote := by
  simp only [refundCredit, does_bind, does_ask, does_require, does_write, does_pure] at h
  obtain ⟨_, _, _, _, ⟨rfl, rfl, rfl⟩, ⟨customer, _, _, _, ⟨found, rfl, rfl⟩,
    ⟨_, _, middle, _, ⟨rfl, _⟩, ⟨_, _, _, _, row, ⟨rfl, rfl, rfl⟩, rfl⟩, rfl⟩, rfl⟩, rfl⟩ := h
  refine ⟨customer.debt, by simp [debtOf, found], ?_, ?_⟩
  · split <;> omega
  · rcases does_when.mp row with ⟨positive, written⟩ | ⟨skipped, rfl, _⟩
    · simp only [does_mapError, does_write] at written
      simp [debtRefundWrites, rowFor, positive, written.1, creditNote]
    · simp [debtRefundWrites, rowFor, skipped]

def installmentNote : Text := .plain "استرداد فاتورة أقساط"

def installmentDebtWrites (sale : SaleRow) (amount : Int) : List Write :=
  if 0 < amount then [.decrementInstallmentDebt sale.customerID amount] else []

def installmentRefundWrites (w : Word) (env : Env) (sale : SaleRow) : List Write :=
  rowFor (installmentRefundable w sale)
    (refundRow env sale (w.neg (installmentRefundable w sale)) .cash installmentNote) ++
  installmentDebtWrites sale (installmentOutstanding w sale)

theorem refundInstallment_does {db final : Store} (h : Does (refundInstallment w env sale) db r ws final) :
    r = 0 ∧ ws = installmentRefundWrites w env sale := by
  simp only [refundInstallment, does_bind, does_pure] at h
  obtain ⟨_, front, _, _, row, ⟨_, middle, _, _, debt, ⟨rfl, rfl, rfl⟩, rfl⟩, rfl⟩ := h
  have paid : front = rowFor (installmentRefundable w sale)
      (refundRow env sale (w.neg (installmentRefundable w sale)) .cash installmentNote) := by
    rcases does_when.mp row with ⟨positive, written⟩ | ⟨skipped, rfl, _⟩
    · simp only [does_mapError, does_write] at written
      simp [rowFor, positive, written.1, installmentNote]
    · simp [rowFor, skipped]
  have cleared : middle = installmentDebtWrites sale (installmentOutstanding w sale) := by
    rcases does_when.mp debt with ⟨positive, written⟩ | ⟨skipped, rfl, _⟩
    · simpa [installmentDebtWrites, positive] using (does_write.mp written).1
    · simp [installmentDebtWrites, skipped]
  simp [installmentRefundWrites, paid, cleared]

def splitCreditWrites (w : Word) (env : Env) (sale : SaleRow) (debt : Option Int) : List Write :=
  match debt with
  | none => []
  | some debt =>
    if 0 < creditRemaining w env sale then
      debtRefundWrites w env sale debt (creditRemaining w env sale) creditNote
    else []

theorem refundSplitCredit_does {db final : Store} (h : Does (refundSplitCredit w env sale) db r ws final) :
    r = 0 ∧ ws = splitCreditWrites w env sale (debtOf db sale.customerID) := by
  simp only [refundSplitCredit, does_bind, does_pure] at h
  obtain ⟨_, front, _, _, credit, ⟨rfl, rfl, rfl⟩, rfl⟩ := h
  refine ⟨rfl, ?_⟩
  rw [List.append_nil]
  rcases does_when.mp credit with ⟨positive, done⟩ | ⟨skipped, rfl, _⟩
  · simp only [does_bind, does_ask] at done
    obtain ⟨_, _, db, _, ⟨rfl, rfl, rfl⟩, done, rfl⟩ := done
    cases found : db.customers.find? sale.customerID with
    | none =>
      simp only [found, does_pure] at done
      simp [splitCreditWrites, debtOf, found, done.2.1]
    | some customer =>
      simp only [found, does_bind, does_write] at done
      obtain ⟨_, _, _, _, ⟨rfl, _⟩, row, rfl⟩ := done
      rw [rowFor_does row]
      simp [splitCreditWrites, debtOf, found, positive, debtRefundWrites, creditNote]
  · cases debtOf db sale.customerID <;> simp [splitCreditWrites, skipped]

/-- The writes on the customer's balances; `debt` is what the customer owed before. -/
def balanceWrites (w : Word) (env : Env) (sale : SaleRow) (debt : Option Int) : List Write :=
  if sale.customerID = "" then []
  else
    [.decrementPurchases sale.customerID sale.total,
      .adjustPoints sale.customerID (w.neg (Amount.div w sale.total 1000))] ++
    match sale.paymentMethod, debt with
    | .credit, some debt => debtRefundWrites w env sale debt sale.total creditNote
    | .installment, _ => installmentRefundWrites w env sale
    | .split, _ => splitCreditWrites w env sale debt
    | _, _ => []

/-- The cash that the debt of a credit sale no longer covers: `creditOverpayCashRefund`. -/
def creditOverpay (w : Word) (sale : SaleRow) (debt : Option Int) : Int :=
  match sale.paymentMethod, debt with
  | .credit, some debt => if sale.customerID = "" then 0 else max (overpaid w debt sale.total) 0
  | _, _ => 0

/-- A credit sale of a customer is only returned while the customer's row exists. -/
def debtorFound (sale : SaleRow) (debt : Option Int) : Prop :=
  sale.customerID ≠ "" → sale.paymentMethod = .credit → debt.isSome

/-- Taking back the purchases and the points leaves the debt. -/
theorem revert_does {id : String} {purchases points r : Int} {rest : DbTx Int} {db final : Store}
    (h : Does (do write (.decrementPurchases id purchases); write (.adjustPoints id points); rest) db r ws final) :
    ∃ middle back, Does rest middle r back final ∧ debtOf middle id = debtOf db id ∧
      ws = [.decrementPurchases id purchases, .adjustPoints id points] ++ back := by
  rw [does_bind] at h
  obtain ⟨_, front, first, _, less, h, rfl⟩ := h
  rw [does_bind] at h
  obtain ⟨_, more, middle, back, taken, onward, rfl⟩ := h
  refine ⟨middle, back, onward, ?_, ?_⟩
  · rw [debt_replayed taken, debt_replayed less, (does_write.mp taken).1, (does_write.mp less).1]
    simp [debtCell, balanceCell, Write.customer, debtChange, Function.comp_def]
  · rw [(does_write.mp taken).1, (does_write.mp less).1]
    rfl

theorem refundCustomer_does {db final : Store} (h : Does (refundCustomer w env sale) db r ws final) :
    debtorFound sale (debtOf db sale.customerID) ∧
    r = creditOverpay w sale (debtOf db sale.customerID) ∧
    ws = balanceWrites w env sale (debtOf db sale.customerID) := by
  unfold refundCustomer at h
  by_cases anonymous : sale.customerID = ""
  · simp only [anonymous, if_true] at h
    obtain ⟨rfl, rfl, rfl⟩ := does_pure.mp h
    refine ⟨fun named => absurd anonymous named, ?_, ?_⟩
    · unfold creditOverpay
      split <;> simp [anonymous]
    · simp [balanceWrites, anonymous]
  · rw [if_neg anonymous] at h
    obtain ⟨middle, back, method, same, rfl⟩ := revert_does h
    rw [← same]
    cases kind : sale.paymentMethod with
    | credit =>
      simp only [kind] at method
      obtain ⟨debt, found, rfl, rfl⟩ := refundCredit_does method
      refine ⟨fun _ _ => by simp [found], ?_, ?_⟩
      · simp [creditOverpay, kind, found, anonymous]
      · simp [balanceWrites, kind, found, anonymous]
    | installment =>
      simp only [kind] at method
      obtain ⟨rfl, rfl⟩ := refundInstallment_does method
      refine ⟨fun _ credit => by simp [kind] at credit, ?_, ?_⟩
      · simp [creditOverpay, kind]
      · simp [balanceWrites, kind, anonymous]
    | split =>
      simp only [kind] at method
      obtain ⟨rfl, rfl⟩ := refundSplitCredit_does method
      refine ⟨fun _ credit => by simp [kind] at credit, ?_, ?_⟩
      · simp [creditOverpay, kind]
      · simp [balanceWrites, kind, anonymous]
    | cash | card | other =>
      simp only [kind] at method
      obtain ⟨rfl, rfl, -⟩ := does_pure.mp method
      refine ⟨fun _ credit => by simp [kind] at credit, ?_, ?_⟩
      · simp [creditOverpay, kind]
      · simp [balanceWrites, kind, anonymous]

def splitLegWrites (w : Word) (env : Env) (sale : SaleRow) (remaining : List (PaymentMethod × Int))
    (leg : PaymentMethod × Int) : List Write :=
  if 0 < leg.2 ∧ leg.1 ≠ .credit ∧ 0 < (legOf remaining leg.1).getD 0 then
    [.createPayment (refundRow env sale (w.neg ((legOf remaining leg.1).getD 0)) leg.1
      (.plain "استرجاع مقسم / Split Refund"))]
  else []

def ledgerWrites (w : Word) (env : Env) (sale : SaleRow) : List Write :=
  match sale.paymentMethod, sale.splitDetails with
  | .cash, _ | .card, _ =>
    [.createPayment (refundRow env sale (w.neg sale.total) sale.paymentMethod (.plain "استرجاع / Refund"))]
  | .split, some split =>
    ((env.order 2).visit split.legs).flatMap
      (splitLegWrites w env sale (saleRemainingLegs w (env.order 1) sale))
  | _, _ => []

theorem splitRefundLeg_does {db final : Store}
    (h : Does (splitRefundLeg w env sale remaining leg) db u ws final) :
    ws = splitLegWrites w env sale remaining leg := by
  rcases does_when.mp h with ⟨paid, written⟩ | ⟨skipped, rfl, _⟩
  · simp only [does_mapError, does_write] at written
    rw [written.1, splitLegWrites, if_pos paid]
  · rw [splitLegWrites, if_neg skipped]

theorem refundLedger_does {db final : Store} (h : Does (refundLedger w env sale) db u ws final) :
    ws = ledgerWrites w env sale := by
  unfold refundLedger at h
  split at h
  · simp only [does_mapError, does_write] at h
    simp_all [ledgerWrites]
  · simp only [does_mapError, does_write] at h
    simp_all [ledgerWrites]
  · rename_i split kind legs
    have writes := each_journal (fun _ _ _ _ _ body => splitRefundLeg_does body) h
    simpa only [ledgerWrites, kind, legs] using writes
  · rename_i card cash notSplit
    obtain ⟨-, rfl, -⟩ := does_pure.mp h
    unfold ledgerWrites
    split <;> simp_all

/-- The last writes of a full return: the shift, the sale and the log. -/
def closingWrites (w : Word) (env : Env) (sale : Sale) (overpay : Int) : List Write :=
  (if 0 < (shiftRefund w env sale.toSaleRow overpay).1 then
    [.updateShiftRefunds (shiftRefund w env sale.toSaleRow overpay).1
      (shiftRefund w env sale.toSaleRow overpay).2 true]
  else []) ++
  [.updateSale { sale with status := .returned }, .log (returnLog sale.toSaleRow)]

def returnJournal (w : Word) (env : Env) (products : Table Product.id) (debt : Option Int) (sale : Sale) :
    List Write :=
  sale.items.flatMap (restockWrites env sale.id products) ++
  balanceWrites w env sale.toSaleRow debt ++
  ledgerWrites w env sale.toSaleRow ++
  closingWrites w env sale (creditOverpay w sale.toSaleRow debt)

theorem returnSale_does {db final : Store} {id : String} (h : Does (returnSale w env id) db u ws final) :
    ∃ sale, db.getSale id = some sale ∧ sale.status ≠ .returned ∧
      debtorFound sale.toSaleRow (debtOf db sale.customerID) ∧
      ws = returnJournal w env db.products (debtOf db sale.customerID) sale := by
  unfold returnSale at h
  rw [does_ask_bind, does_require_bind] at h
  obtain ⟨sale, found, h⟩ := h
  rw [does_ensure_bind, does_ask_bind, does_bind] at h
  obtain ⟨status, _, stockWs, restocked, _, restock, h, rfl⟩ := h
  rw [does_bind] at h
  obtain ⟨overpay, customerWs, _, _, customer, h, rfl⟩ := h
  rw [does_bind] at h
  obtain ⟨_, ledgerWs, _, _, paid, h, rfl⟩ := h
  rw [does_bind] at h
  obtain ⟨_, shiftWs, _, _, shift, h, rfl⟩ := h
  rw [does_write_bind] at h
  obtain ⟨_, _, _, h, rfl⟩ := h
  obtain ⟨rfl, _⟩ := does_write.mp h
  have stock := restock_does restock
  have same : debtOf restocked sale.customerID = debtOf db sale.customerID := by
    rw [debt_replayed restock, stock]
    exact balance_within.frame (confined_restock _ _ _ _) (by decide) _
  obtain ⟨debtor, rfl, balances⟩ := refundCustomer_does customer
  rw [same] at debtor balances shift
  refine ⟨sale, found, status, debtor, ?_⟩
  have rows := refundLedger_does paid
  have moved : shiftWs = if 0 < (shiftRefund w env sale.toSaleRow
      (creditOverpay w sale.toSaleRow (debtOf db sale.customerID))).1 then
      [.updateShiftRefunds (shiftRefund w env sale.toSaleRow
          (creditOverpay w sale.toSaleRow (debtOf db sale.customerID))).1
        (shiftRefund w env sale.toSaleRow
          (creditOverpay w sale.toSaleRow (debtOf db sale.customerID))).2 true] else [] := by
    rcases does_when.mp shift with ⟨positive, written⟩ | ⟨skipped, rfl, _⟩
    · rw [if_pos positive, (does_write.mp written).1]
    · rw [if_neg skipped]
  simp [returnJournal, closingWrites, stock, balances, rows, moved]

theorem confined_debtRefund (w : Word) (env : Env) (sale : SaleRow) (debt amount : Int) (note : Text) :
    Confined [.customers, .ledger] (debtRefundWrites w env sale debt amount note) :=
  confined_cons.mpr ⟨by simp [Write.area], (confined_rowFor _ _).mono (by simp)⟩

theorem confined_installmentDebt (sale : SaleRow) (amount : Int) :
    Confined [.customers] (installmentDebtWrites sale amount) := by
  unfold installmentDebtWrites
  split
  · simp [Confined, Write.area]
  · exact confined_nil

theorem confined_balances (w : Word) (env : Env) (sale : SaleRow) (debt : Option Int) :
    Confined [.customers, .ledger] (balanceWrites w env sale debt) := by
  unfold balanceWrites
  split
  · exact confined_nil
  · refine Confined.append (by simp [Confined, Write.area]) ?_
    split
    · exact confined_debtRefund _ _ _ _ _ _
    · exact ((confined_rowFor _ _).mono (by simp)).append ((confined_installmentDebt _ _).mono (by simp))
    · unfold splitCreditWrites
      split
      · exact confined_nil
      · split
        · exact confined_debtRefund _ _ _ _ _ _
        · exact confined_nil
    · exact confined_nil

theorem confined_ledger (w : Word) (env : Env) (sale : SaleRow) : Confined [.ledger] (ledgerWrites w env sale) := by
  unfold ledgerWrites
  split
  · simp [Confined, Write.area]
  · simp [Confined, Write.area]
  · refine Confined.flatMap fun leg => ?_
    unfold splitLegWrites
    split
    · simp [Confined, Write.area]
    · exact confined_nil
  · exact confined_nil

theorem confined_closing (w : Word) (env : Env) (sale : Sale) (overpay : Int) :
    Confined [.shifts, .sales, .log] (closingWrites w env sale overpay) := by
  unfold closingWrites
  refine Confined.append ?_ (by simp [Confined, Write.area])
  split
  · simp [Confined, Write.area]
  · exact confined_nil

/-- A full return only marks the row of its sale as returned. -/
theorem returnJournal_row (w : Word) (env : Env) (products : Table Product.id) (debt : Option Int) (sale : Sale)
    (id : String) (o : Option SaleRow) :
    (saleCell id).steps (returnJournal w env products debt sale) o =
      if id = sale.id then o.map (fun _ => { sale.toSaleRow with status := .returned }) else o := by
  have shift : ∀ o, (saleCell id).steps (closingWrites w env sale (creditOverpay w sale.toSaleRow debt)) o =
      saleStep id (.updateSale { sale with status := .returned }) o := by
    intro o
    unfold closingWrites
    split <;> rfl
  rw [returnJournal, Cell.steps_append, Cell.steps_append, Cell.steps_append,
    (sale_within id).frame (confined_restock _ _ _ _) (by decide),
    (sale_within id).frame (confined_balances _ _ _ _) (by decide),
    (sale_within id).frame (confined_ledger _ _ _) (by decide), shift]
  rfl

end BeidarPos
