import BeidarPos.ReturnJournal
import BeidarPos.ReturnSalePartial

/-! The journal of an accepted partial return. -/
namespace BeidarPos

open Machine Relational Journal Tx

def partialStockWrites (env : Env) (saleID productID : String) (product : Option Product) (item : SaleItem)
    (qtyToReturn : ℚ) : List Write :=
  match product with
  | none => []
  | some product =>
    [.updateStock productID qtyToReturn,
      .createStockMovement (partialMovement env saleID
        (if product.name ≠ "" then product.name else item.name) item qtyToReturn)]

theorem confined_partialStock (env : Env) (saleID productID : String) (product : Option Product) (item : SaleItem)
    (qtyToReturn : ℚ) :
    Confined [.stock] (partialStockWrites env saleID productID product item qtyToReturn) := by
  cases product with
  | none => exact confined_nil
  | some product => simp [partialStockWrites, Confined, Write.area]

theorem restockPartial_does {db final : Store}
    (h : Does (restockPartial env saleID productID item qtyToReturn) db u ws final) :
    ws = partialStockWrites env saleID productID (db.products.find? productID) item qtyToReturn := by
  simp only [restockPartial, does_bind, does_ask] at h
  obtain ⟨_, _, db, _, ⟨rfl, rfl, rfl⟩, body, rfl⟩ := h
  cases found : db.products.find? productID with
  | none =>
    simp only [found, does_pure] at body
    simp [partialStockWrites, body.2.1]
  | some product =>
    simp only [found, does_bind, does_write] at body
    obtain ⟨_, _, _, _, ⟨rfl, _⟩, ⟨rfl, _⟩, rfl⟩ := body
    simp [partialStockWrites]

def partialCreditNote (item : SaleItem) (qtyToReturn : ℚ) : Text :=
  .format "استرداد نقدي لمدفوعات آجل (مرتجع جزئي: %.2f x %s)" [.quantity qtyToReturn, .text item.name]

/-- The part of the refund that comes off the debt through the credit leg. -/
def creditShare (w : Word) (sale : SaleRow) (refundAmount : Int) : Int :=
  match sale.splitDetails with
  | none => 0
  | some split =>
    if 0 < sale.total ∧ 0 < split.get .credit then legShare w refundAmount (split.get .credit) sale.total else 0

def creditShareWrites (w : Word) (sale : SaleRow) (refundAmount : Int) : List Write :=
  if 0 < creditShare w sale refundAmount then
    [.decrementDebt sale.customerID (creditShare w sale refundAmount)]
  else []

/-- The writes of a partial return on the customer's balances. -/
def partialBalanceWrites (w : Word) (env : Env) (sale : SaleRow) (item : SaleItem) (qtyToReturn : ℚ)
    (refundAmount : Int) (debt : Option Int) : List Write :=
  if sale.customerID = "" then []
  else
    [.decrementPurchases sale.customerID refundAmount,
      .adjustPoints sale.customerID (w.neg (Amount.div w refundAmount 1000))] ++
    match sale.paymentMethod, debt with
    | .credit, some debt => debtRefundWrites w env sale debt refundAmount (partialCreditNote item qtyToReturn)
    | .installment, _ => [.decrementInstallmentDebt sale.customerID refundAmount]
    | .split, _ => creditShareWrites w sale refundAmount
    | _, _ => []

def partialOverpay (w : Word) (sale : SaleRow) (refundAmount : Int) (debt : Option Int) : Int :=
  match sale.paymentMethod, debt with
  | .credit, some debt => if sale.customerID = "" then 0 else overpaid w debt refundAmount
  | _, _ => 0

theorem partialCredit_does {db final : Store}
    (h : Does (partialCredit w env sale item qtyToReturn refundAmount) db r ws final) :
    ∃ debt, debtOf db sale.customerID = some debt ∧ r = overpaid w debt refundAmount ∧
      ws = debtRefundWrites w env sale debt refundAmount (partialCreditNote item qtyToReturn) := by
  simp only [partialCredit, does_bind, does_ask, does_require, does_write, does_pure] at h
  obtain ⟨_, _, _, _, ⟨rfl, rfl, rfl⟩, ⟨customer, _, _, _, ⟨found, rfl, rfl⟩,
    ⟨_, _, middle, _, ⟨rfl, _⟩, ⟨_, _, _, _, row, ⟨rfl, rfl, rfl⟩, rfl⟩, rfl⟩, rfl⟩, rfl⟩ := h
  refine ⟨customer.debt, by simp [debtOf, found], rfl, ?_⟩
  rcases does_when.mp row with ⟨positive, written⟩ | ⟨skipped, rfl, _⟩
  · simp only [does_mapError, does_write] at written
    simp [debtRefundWrites, rowFor, positive, written.1, partialCreditNote]
  · simp [debtRefundWrites, rowFor, skipped]

theorem partialSplitCredit_does {db final : Store} (h : Does (partialSplitCredit w sale refundAmount) db u ws final) :
    ws = creditShareWrites w sale refundAmount := by
  unfold partialSplitCredit at h
  cases details : sale.splitDetails with
  | none =>
    simp only [details] at h
    simp [creditShareWrites, creditShare, details, (does_pure.mp h).2.1]
  | some split =>
    simp only [details] at h
    rcases does_when.mp h with ⟨⟨total, leg, share⟩, written⟩ | ⟨skipped, rfl, _⟩
    · simp [creditShareWrites, creditShare, details, total, leg, share, (does_write.mp written).1]
    · rw [creditShareWrites, if_neg]
      simp only [creditShare, details]
      split
      · rename_i legs
        exact fun share => skipped ⟨legs.1, legs.2, share⟩
      · omega

theorem partialCustomer_does {db final : Store}
    (h : Does (partialCustomer w env sale item qtyToReturn refundAmount) db r ws final) :
    debtorFound sale (debtOf db sale.customerID) ∧
    r = partialOverpay w sale refundAmount (debtOf db sale.customerID) ∧
    ws = partialBalanceWrites w env sale item qtyToReturn refundAmount (debtOf db sale.customerID) := by
  unfold partialCustomer at h
  by_cases anonymous : sale.customerID = ""
  · simp only [anonymous, if_true] at h
    obtain ⟨rfl, rfl, rfl⟩ := does_pure.mp h
    refine ⟨fun named => absurd anonymous named, ?_, ?_⟩
    · unfold partialOverpay
      split <;> simp [anonymous]
    · simp [partialBalanceWrites, anonymous]
  · rw [if_neg anonymous] at h
    obtain ⟨middle, back, method, same, rfl⟩ := revert_does h
    rw [← same]
    cases kind : sale.paymentMethod with
    | credit =>
      simp only [kind] at method
      obtain ⟨debt, found, rfl, rfl⟩ := partialCredit_does method
      refine ⟨fun _ _ => by simp [found], ?_, ?_⟩
      · simp [partialOverpay, kind, found, anonymous]
      · simp [partialBalanceWrites, kind, found, anonymous]
    | installment =>
      simp only [kind, does_bind, does_write, does_pure] at method
      obtain ⟨_, _, _, _, ⟨rfl, _⟩, ⟨rfl, rfl, rfl⟩, rfl⟩ := method
      refine ⟨fun _ credit => by simp [kind] at credit, ?_, ?_⟩
      · simp [partialOverpay, kind]
      · simp [partialBalanceWrites, kind, anonymous]
    | split =>
      simp only [kind, does_bind, does_pure] at method
      obtain ⟨_, _, _, _, share, ⟨rfl, rfl, rfl⟩, rfl⟩ := method
      refine ⟨fun _ credit => by simp [kind] at credit, ?_, ?_⟩
      · simp [partialOverpay, kind]
      · simp [partialBalanceWrites, kind, anonymous, partialSplitCredit_does share]
    | cash | card | other =>
      simp only [kind] at method
      obtain ⟨rfl, rfl, -⟩ := does_pure.mp method
      refine ⟨fun _ credit => by simp [kind] at credit, ?_, ?_⟩
      · simp [partialOverpay, kind]
      · simp [partialBalanceWrites, kind, anonymous]

def partialLegWrites (w : Word) (env : Env) (sale : SaleRow) (note : Text) (refundAmount : Int)
    (leg : PaymentMethod × Int) : List Write :=
  if 0 < leg.2 ∧ leg.1 ≠ .credit ∧ 0 < legShare w refundAmount leg.2 sale.total then
    [.createPayment (refundRow env sale (w.neg (legShare w refundAmount leg.2 sale.total)) leg.1 note)]
  else []

def partialLedgerWrites (w : Word) (env : Env) (sale : SaleRow) (note : Text) (refundAmount : Int) : List Write :=
  match payingLegs sale with
  | some split => ((env.order 0).visit split.legs).flatMap (partialLegWrites w env sale note refundAmount)
  | none =>
    if sale.paymentMethod ≠ .credit then
      [.createPayment (refundRow env sale (w.neg refundAmount) sale.paymentMethod note)]
    else []

theorem partialRefundLeg_does {db final : Store}
    (h : Does (partialRefundLeg w env sale note refundAmount leg) db u ws final) :
    ws = partialLegWrites w env sale note refundAmount leg := by
  rcases does_when.mp h with ⟨paid, written⟩ | ⟨skipped, rfl, _⟩
  · rw [(does_write.mp written).1, partialLegWrites, if_pos paid]
  · rw [partialLegWrites, if_neg skipped]

theorem partialLedger_does {db final : Store}
    (h : Does (partialLedger w env sale note refundAmount) db u ws final) :
    ws = partialLedgerWrites w env sale note refundAmount := by
  unfold partialLedger at h
  unfold partialLedgerWrites
  cases legs : payingLegs sale with
  | some split =>
    simp only [legs] at h
    exact each_journal (fun _ _ _ _ _ body => partialRefundLeg_does body) h
  | none =>
    simp only [legs] at h
    rcases does_when.mp h with ⟨paid, written⟩ | ⟨skipped, rfl, _⟩
    · rw [(does_write.mp written).1, if_pos paid]
    · rw [if_neg skipped]

/-- What the accepted call found: the line, the sale and the checks it passed. -/
structure PartialFacts (w : Word) (db : Store) (saleID productID : String) (qtyToReturn : ℚ)
    (item : SaleItem) (sale : Sale) : Prop where
  line : db.getSaleItem saleID productID = some item
  loaded : db.getSale saleID = some sale
  positive : 0 < qtyToReturn
  available : qtyToReturn ≤ outstanding item
  refund : 0 < partialRefund w sale item qtyToReturn
  debtor : debtorFound sale.toSaleRow (debtOf db sale.customerID)

/-- The line as a partial return writes it. -/
def returnedLine (item : SaleItem) (qtyToReturn : ℚ) : SaleItem :=
  { item with returnedQty := item.returnedQty + qtyToReturn }

def allReturned (t : Serial SaleItem.id) (saleID : String) : Bool :=
  (t.rows.filter (fun line => line.saleID = saleID)).all fun line => decide (line.quantity ≤ line.returnedQty)

def partialJournal (w : Word) (env : Env) (db : Store) (saleID productID : String) (qtyToReturn : ℚ)
    (item : SaleItem) (sale : Sale) : List Write :=
  let refundAmount := partialRefund w sale item qtyToReturn
  let debt := debtOf db sale.customerID
  let returned := returnedLine item qtyToReturn
  .updateSaleItem returned ::
  (partialStockWrites env saleID productID (db.products.find? productID) returned qtyToReturn ++
  partialBalanceWrites w env sale.toSaleRow returned qtyToReturn refundAmount debt ++
  partialLedgerWrites w env sale.toSaleRow (partialNote item qtyToReturn) refundAmount ++
  [.updateShiftRefunds refundAmount
      (partialCash w sale.toSaleRow refundAmount (partialOverpay w sale.toSaleRow refundAmount debt)) false,
    .updateSale (shrinkSale w sale returned qtyToReturn refundAmount
      (allReturned (db.saleItems.put returned) saleID)),
    .log (partialLog sale.toSaleRow item qtyToReturn)])

theorem returnSalePartial_does {db final : Store} {saleID productID : String} {qtyToReturn : ℚ}
    (h : Does (returnSalePartial w env saleID productID qtyToReturn) db u ws final) :
    ∃ item sale, PartialFacts w db saleID productID qtyToReturn item sale ∧
      ws = partialJournal w env db saleID productID qtyToReturn item sale := by
  unfold returnSalePartial at h
  rw [does_ask_bind, does_require_bind] at h
  obtain ⟨item, line, h⟩ := h
  rw [does_ask_bind, does_require_bind] at h
  obtain ⟨sale, loaded, h⟩ := h
  rw [does_ensure_bind, does_ensure_bind, does_write_bind] at h
  obtain ⟨positive, available, marked, _, mark, h, rfl⟩ := h
  rw [does_bind] at h
  obtain ⟨_, stockWs, restocked, _, restock, h, rfl⟩ := h
  rw [does_ensure_bind, does_ensure_bind, does_ensure_bind, does_ask_bind, does_bind] at h
  obtain ⟨_, _, refund, overpay, customerWs, _, _, customer, h, rfl⟩ := h
  rw [does_bind] at h
  obtain ⟨_, ledgerWs, _, _, paid, h, rfl⟩ := h
  rw [does_bind] at h
  obtain ⟨_, shiftWs, _, _, shift, h, rfl⟩ := h
  rw [does_write_bind] at h
  obtain ⟨_, _, _, h, rfl⟩ := h
  obtain ⟨rfl, _⟩ := does_write.mp h
  have marks : marked = db.updateSaleItem (returnedLine item qtyToReturn) := by
    cases mark
    rfl
  have stock := restockPartial_does restock
  have debt : debtOf restocked sale.customerID = debtOf db sale.customerID := by
    rw [debt_replayed restock, stock, marks]
    exact balance_within.frame (confined_partialStock _ _ _ _ _ _) (by decide) _
  have lines : restocked.saleItems = db.saleItems.put (returnedLine item qtyToReturn) := by
    have replayed := linesCell.replay_read restock.replays
    rw [stock, lines_within.frame (confined_partialStock _ _ _ _ _ _) (by decide), marks] at replayed
    exact replayed
  obtain ⟨debtor, rfl, balances⟩ := partialCustomer_does customer
  rw [debt] at debtor balances shift
  have rows := partialLedger_does paid
  rcases does_when.mp shift with ⟨_, written⟩ | ⟨skipped, _⟩
  · refine ⟨item, sale, ⟨line, loaded, positive, available, refund, debtor⟩, ?_⟩
    have moved := (does_write.mp written).1
    have every : (restocked.itemsOf saleID).all (fun line => decide (line.quantity ≤ line.returnedQty)) =
        allReturned (db.saleItems.put (returnedLine item qtyToReturn)) saleID := by
      rw [Store.itemsOf, lines]
      rfl
    have product : marked.products = db.products := by rw [marks]; rfl
    rw [product] at stock
    rw [every, stock, balances, rows, moved]
    simp [partialJournal, returnedLine]
  · exact absurd refund skipped

theorem confined_partialBalances (w : Word) (env : Env) (sale : SaleRow) (item : SaleItem) (qtyToReturn : ℚ)
    (refundAmount : Int) (debt : Option Int) :
    Confined [.customers, .ledger] (partialBalanceWrites w env sale item qtyToReturn refundAmount debt) := by
  unfold partialBalanceWrites
  split
  · exact confined_nil
  · refine Confined.append (by simp [Confined, Write.area]) ?_
    split
    · exact confined_debtRefund _ _ _ _ _ _
    · simp [Confined, Write.area]
    · unfold creditShareWrites
      split
      · simp [Confined, Write.area]
      · exact confined_nil
    · exact confined_nil

theorem confined_partialLedger (w : Word) (env : Env) (sale : SaleRow) (note : Text) (refundAmount : Int) :
    Confined [.ledger] (partialLedgerWrites w env sale note refundAmount) := by
  unfold partialLedgerWrites
  split
  · refine Confined.flatMap fun leg => ?_
    unfold partialLegWrites
    split
    · simp [Confined, Write.area]
    · exact confined_nil
  · split
    · simp [Confined, Write.area]
    · exact confined_nil

theorem confined_line (item : SaleItem) : Confined [.sales] [.updateSaleItem item] := by
  simp [Confined, Write.area]

theorem partialJournal_parts (w : Word) (env : Env) (db : Store) (saleID productID : String) (qtyToReturn : ℚ)
    (item : SaleItem) (sale : Sale) :
    ∃ back, partialJournal w env db saleID productID qtyToReturn item sale =
        [.updateSaleItem (returnedLine item qtyToReturn)] ++
          (partialStockWrites env saleID productID (db.products.find? productID) (returnedLine item qtyToReturn)
              qtyToReturn ++
            partialBalanceWrites w env sale.toSaleRow (returnedLine item qtyToReturn) qtyToReturn
              (partialRefund w sale item qtyToReturn) (debtOf db sale.customerID) ++
            partialLedgerWrites w env sale.toSaleRow (partialNote item qtyToReturn)
              (partialRefund w sale item qtyToReturn) ++ back) ∧
      Confined [.shifts, .sales, .log] back :=
  ⟨_, rfl, by simp [Confined, Write.area]⟩

/-- A partial return rewrites the row of its sale with what is left of it. -/
theorem partialJournal_row (w : Word) (env : Env) (db : Store) (saleID productID : String) (qtyToReturn : ℚ)
    (item : SaleItem) (sale : Sale) (id : String) (o : Option SaleRow) :
    (saleCell id).steps (partialJournal w env db saleID productID qtyToReturn item sale) o =
      if id = sale.id then o.map (fun _ => (shrinkSale w sale (returnedLine item qtyToReturn) qtyToReturn
        (partialRefund w sale item qtyToReturn)
        (allReturned (db.saleItems.put (returnedLine item qtyToReturn)) saleID)).toSaleRow) else o := by
  simp only [partialJournal]
  rw [Cell.steps_cons, Cell.steps_append, Cell.steps_append, Cell.steps_append,
    (sale_within id).frame (confined_partialStock _ _ _ _ _ _) (by decide),
    (sale_within id).frame (confined_partialBalances _ _ _ _ _ _ _) (by decide),
    (sale_within id).frame (confined_partialLedger _ _ _ _ _) (by decide)]
  rfl

end BeidarPos
