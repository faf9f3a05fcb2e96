import BeidarPos.Store
import BeidarPos.SplitLegs

/-! Returning a whole sale. What is put back, taken off the balances, paid out and
taken off the shift is computed by separate switches on the payment method. -/
namespace BeidarPos

open Machine Relational Journal Tx

def ErrSalesNotFound (id : String) : Failure :=
  AppError.keyed .sales "SALE_NOT_FOUND" "SALE_NOT_FOUND" [.text id] "id"

def ErrAlreadyReturned : Failure := AppError.keyed .sales "ALREADY_RETURNED" "ALREADY_RETURNED" [] "status"

def refundFailed (cause : Failure) : Failure := .wrapped (.plain "فشل تسجيل عملية الاسترجاع") cause

def refundRow (env : Env) (sale : SaleRow) (amount : Int) (method : PaymentMethod) (note : Text) : Payment :=
  ⟨0, sale.id, sale.customerID, amount, method, note, env.millis, sale.staffID, 0⟩

/-- What a line still has to give back. -/
def outstanding (item : SaleItem) : ℚ := item.quantity - item.returnedQty

def returnMovement (env : Env) (saleID : String) (product : Product) (item : SaleItem) : StockMovement :=
  ⟨item.productID, product.name, "return", outstanding item, "مرتجع فاتورة #" ++ saleID, env.millis⟩

/-- One turn of the restock loop: a line whose product was deleted, or with nothing
outstanding, is skipped. -/
def restockLine (env : Env) (saleID : String) (products : Table Product.id) (item : SaleItem) : DbTx Unit :=
  match products.find? item.productID with
  | none => pure ()
  | some product =>
    when (0 < outstanding item) do
      write (.updateStock item.productID (outstanding item))
      write (.createStockMovement (returnMovement env saleID product item))

/-- Sum of the scheduled installments already marked paid. -/
def paidSum (w : Word) (plan : InstallmentPlan) : Int :=
  plan.entries.foldl (fun sum inst => if inst.status = .paid then w.add sum inst.amount else sum) 0

/-- The cash owed back for what the debt no longer covers. -/
def overpaid (w : Word) (debt amount : Int) : Int := if debt < amount then w.sub amount debt else 0

/-- `case "credit"`: the answer is the shared variable `creditOverpayCashRefund`. -/
def refundCredit (w : Word) (env : Env) (sale : SaleRow) : DbTx Int := do
  let customers ← ask Store.customers
  let customer ← require (customers.find? sale.customerID) .recordNotFound
  let refundAmount := overpaid w customer.debt sale.total
  write (.decrementDebt sale.customerID sale.total)
  when (0 < refundAmount) (mapError refundFailed (write (.createPayment
    (refundRow env sale (w.neg refundAmount) .cash (.plain "استرداد نقدي لمدفوعات آجل")))))
  pure (if 0 < refundAmount then refundAmount else 0)

/-- Down payment and paid installments, the cash an installment sale took in. -/
def installmentRefundable (w : Word) (sale : SaleRow) : Int :=
  match sale.installmentPlan with
  | none => 0
  | some plan => w.add plan.downPayment (paidSum w plan)

def installmentOutstanding (w : Word) (sale : SaleRow) : Int :=
  match sale.installmentPlan with
  | none => sale.total
  | some plan => w.sub (w.sub sale.total plan.downPayment) (paidSum w plan)

def refundInstallment (w : Word) (env : Env) (sale : SaleRow) : DbTx Int := do
  let refundable := installmentRefundable w sale
  when (0 < refundable) (mapError refundFailed (write (.createPayment
    (refundRow env sale (w.neg refundable) .cash (.plain "استرداد فاتورة أقساط")))))
  when (0 < installmentOutstanding w sale)
    (write (.decrementInstallmentDebt sale.customerID (installmentOutstanding w sale)))
  pure 0

def creditRemaining (w : Word) (env : Env) (sale : SaleRow) : Int :=
  (legOf (saleRemainingLegs w (env.order 0) sale) .credit).getD 0

/-- `case "split"`: the payment row is written, but `creditOverpayCashRefund` is not
set here, and a missing customer is skipped silently. -/
def refundSplitCredit (w : Word) (env : Env) (sale : SaleRow) : DbTx Int := do
  when (0 < creditRemaining w env sale) do
    let customers ← ask Store.customers
    match customers.find? sale.customerID with
    | none => pure ()
    | some customer =>
      let refundAmount := overpaid w customer.debt (creditRemaining w env sale)
      write (.decrementDebt sale.customerID (creditRemaining w env sale))
      when (0 < refundAmount) (write (.createPayment
        (refundRow env sale (w.neg refundAmount) .cash (.plain "استرداد نقدي لمدفوعات آجل"))))
  pure 0

/-- The customer's balances; answers `creditOverpayCashRefund`. -/
def refundCustomer (w : Word) (env : Env) (sale : SaleRow) : DbTx Int :=
  if sale.customerID = "" then pure 0
  else do
    write (.decrementPurchases sale.customerID sale.total)
    write (.adjustPoints sale.customerID (w.neg (Amount.div w sale.total 1000)))
    match sale.paymentMethod with
    | .credit => refundCredit w env sale
    | .installment => refundInstallment w env sale
    | .split => refundSplitCredit w env sale
    | _ => pure 0

/-- The rows of the legs that are paid back in money, in the order visited. -/
def splitRefundLeg (w : Word) (env : Env) (sale : SaleRow) (remaining : List (PaymentMethod × Int))
    (leg : PaymentMethod × Int) : DbTx Unit :=
  let amount := (legOf remaining leg.1).getD 0
  when (0 < leg.2 ∧ leg.1 ≠ .credit ∧ 0 < amount) (mapError refundFailed (write (.createPayment
    (refundRow env sale (w.neg amount) leg.1 (.plain "استرجاع مقسم / Split Refund")))))

def refundLedger (w : Word) (env : Env) (sale : SaleRow) : DbTx Unit :=
  match sale.paymentMethod, sale.splitDetails with
  | .cash, _ | .card, _ => mapError refundFailed (write (.createPayment
      (refundRow env sale (w.neg sale.total) sale.paymentMethod (.plain "استرجاع / Refund"))))
  | .split, some split =>
    each (splitRefundLeg w env sale (saleRemainingLegs w (env.order 1) sale)) ((env.order 2).visit split.legs)
  | _, _ => pure ()

/-- `totalRefund` and `cashRefund`, from the same sale and the shared variable. -/
def shiftRefund (w : Word) (env : Env) (sale : SaleRow) (creditOverpayCashRefund : Int) : Int × Int :=
  match sale.paymentMethod with
  | .cash => (sale.total, sale.total)
  | .card => (sale.total, 0)
  | .credit => if 0 < creditOverpayCashRefund then (creditOverpayCashRefund, creditOverpayCashRefund) else (0, 0)
  | .installment => (installmentRefundable w sale, installmentRefundable w sale)
  | .split =>
    let remaining := saleRemainingLegs w (env.order 3) sale
    let cash := (legOf remaining .cash).getD 0
    let card := (legOf remaining .card).getD 0
    let overpay := if 0 < creditOverpayCashRefund then creditOverpayCashRefund else 0
    (w.add (w.add cash card) overpay, w.add cash overpay)
  | .other _ _ => (0, 0)

def returnLog (sale : SaleRow) : AuditLog :=
  ⟨sale.staffID, "RETURN_SALE", "Sale", sale.id, .plain "تم استرجاع الفاتورة بالكامل"⟩

def returnSale (w : Word) (env : Env) (id : String) : DbTx Unit := do
  let found ← ask (fun db => db.getSale id)
  let sale ← require found (ErrSalesNotFound id)
  ensure (sale.status ≠ .returned) ErrAlreadyReturned
  let products ← ask Store.products
  each (restockLine env sale.id products) sale.items
  let creditOverpayCashRefund ← refundCustomer w env sale.toSaleRow
  refundLedger w env sale.toSaleRow
  let refund := shiftRefund w env sale.toSaleRow creditOverpayCashRefund
  when (0 < refund.1) (write (.updateShiftRefunds refund.1 refund.2 true))
  write (.updateSale { sale with status := .returned })
  write (.log (returnLog sale.toSaleRow))

end BeidarPos
