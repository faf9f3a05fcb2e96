import BeidarPos.ReturnSale

/-! Returning part of one line. The line is read before the sale, the share is cut
from the current invoice total, and the sale is saved back with the lines it was
loaded with. -/
namespace BeidarPos

open Machine Relational Journal Tx

/-- The lines of the loaded sale as the share loop sees them: the quantity returned
before this call, also for the line being returned. -/
def returnedBefore (item : SaleItem) (qtyToReturn : ℚ) (line : SaleItem) : ℚ :=
  if line.productID = item.productID then item.returnedQty - qtyToReturn else line.returnedQty

/-- Remaining thousandths of a line, between none and all of them. -/
def remScaledQty (w : Word) (line : SaleItem) (returned : ℚ) : Int :=
  let scaledQty := scaled w line.quantity
  let rem := scaled w (line.quantity - returned)
  let rem := if rem < 0 then 0 else rem
  if scaledQty < rem then scaledQty else rem

def remainingCents (w : Word) (line : SaleItem) (returned : ℚ) : Int :=
  w.quot (w.mul line.total (remScaledQty w line returned)) (scaled w line.quantity)

/-- Remaining invoice value of all lines before the return. -/
def remAllCents (w : Word) (item : SaleItem) (qtyToReturn : ℚ) (lines : List SaleItem) : Int :=
  lines.foldl (fun sum line =>
    if scaled w line.quantity ≤ 0 then sum
    else w.add sum (remainingCents w line (returnedBefore item qtyToReturn line))) 0

def itemShareCents (w : Word) (item : SaleItem) (qtyToReturn : ℚ) : Int :=
  w.quot (w.mul item.total (scaled w qtyToReturn)) (scaled w item.quantity)

/-- The returned quantity's share of the current invoice total, never above it. -/
def refundAmountOf (w : Word) (total share remAll : Int) : Int :=
  let refundAmount := w.quot (w.mul total share) remAll
  if total < refundAmount then total else refundAmount

/-- A leg's share of the refund: the leg as it was paid, over the current total. -/
def legShare (w : Word) (refundAmount amount total : Int) : Int := w.quot (w.mul refundAmount amount) total

def partialMovement (env : Env) (saleID productName : String) (item : SaleItem) (qtyToReturn : ℚ) :
    StockMovement :=
  ⟨item.productID, productName, "return_partial", qtyToReturn, "Partial Return: Sale #" ++ saleID, env.millis⟩

/-- Restocks unless the product was deleted after the sale. -/
def restockPartial (env : Env) (saleID productID : String) (item : SaleItem) (qtyToReturn : ℚ) : DbTx Unit := do
  let products ← ask Store.products
  match products.find? productID with
  | none => pure ()
  | some product => do
    write (.updateStock productID qtyToReturn)
    let productName := if product.name ≠ "" then product.name else item.name
    write (.createStockMovement (partialMovement env saleID productName item qtyToReturn))

def partialNote (item : SaleItem) (qtyToReturn : ℚ) : Text :=
  .format "Partial Return: %.2f x %s" [.quantity qtyToReturn, .text item.name]

/-- `case "credit"`: answers `creditOverpayCashRefund`. -/
def partialCredit (w : Word) (env : Env) (sale : SaleRow) (item : SaleItem) (qtyToReturn : ℚ)
    (refundAmount : Int) : DbTx Int := do
  let customers ← ask Store.customers
  let customer ← require (customers.find? sale.customerID) .recordNotFound
  let overpay := overpaid w customer.debt refundAmount
  write (.decrementDebt sale.customerID refundAmount)
  when (0 < overpay) (mapError refundFailed (write (.createPayment (refundRow env sale (w.neg overpay) .cash
    (.format "استرداد نقدي لمدفوعات آجل (مرتجع جزئي: %.2f x %s)" [.quantity qtyToReturn, .text item.name])))))
  pure overpay

/-- `case "split"`: the credit leg's share comes off the debt and is not paid out. -/
def partialSplitCredit (w : Word) (sale : SaleRow) (refundAmount : Int) : DbTx Unit :=
  match sale.splitDetails with
  | none => pure ()
  | some split =>
    let creditShare := legShare w refundAmount (split.get .credit) sale.total
    when (0 < sale.total ∧ 0 < split.get .credit ∧ 0 < creditShare)
      (write (.decrementDebt sale.customerID creditShare))

def partialCustomer (w : Word) (env : Env) (sale : SaleRow) (item : SaleItem) (qtyToReturn : ℚ)
    (refundAmount : Int) : DbTx Int :=
  if sale.customerID = "" then pure 0
  else do
    write (.decrementPurchases sale.customerID refundAmount)
    write (.adjustPoints sale.customerID (w.neg (Amount.div w refundAmount 1000)))
    match sale.paymentMethod with
    | .credit => partialCredit w env sale item qtyToReturn refundAmount
    | .installment => do
      write (.decrementInstallmentDebt sale.customerID refundAmount)
      pure 0
    | .split => do
      partialSplitCredit w sale refundAmount
      pure 0
    | _ => pure 0

def partialRefundLeg (w : Word) (env : Env) (sale : SaleRow) (note : Text) (refundAmount : Int)
    (leg : PaymentMethod × Int) : DbTx Unit :=
  let methodShare := legShare w refundAmount leg.2 sale.total
  when (0 < leg.2 ∧ leg.1 ≠ .credit ∧ 0 < methodShare)
    (write (.createPayment (refundRow env sale (w.neg methodShare) leg.1 note)))

/-- The legs a partial return pays out on: those of a split sale with value left. -/
def payingLegs (sale : SaleRow) : Option SplitDetails :=
  if sale.paymentMethod = .split ∧ 0 < sale.total then sale.splitDetails else none

def partialLedger (w : Word) (env : Env) (sale : SaleRow) (note : Text) (refundAmount : Int) : DbTx Unit :=
  match payingLegs sale with
  | some split => each (partialRefundLeg w env sale note refundAmount) ((env.order 0).visit split.legs)
  | none => when (sale.paymentMethod ≠ .credit)
      (write (.createPayment (refundRow env sale (w.neg refundAmount) sale.paymentMethod note)))

def partialCash (w : Word) (sale : SaleRow) (refundAmount creditOverpayCashRefund : Int) : Int :=
  if sale.paymentMethod = .cash then refundAmount
  else
    match payingLegs sale with
    | some split =>
      if 0 < split.get .cash then legShare w refundAmount (split.get .cash) sale.total else 0
    | none => if 0 < creditOverpayCashRefund then creditOverpayCashRefund else 0

/-- The sale as it is saved: its status, and what is left of its amounts. -/
def shrinkSale (w : Word) (sale : Sale) (item : SaleItem) (qtyToReturn : ℚ) (refundAmount : Int)
    (allReturned : Bool) : Sale :=
  let itemGrossTotal := Amount.mulFloat w item.price qtyToReturn
  let subtotal := if itemGrossTotal ≤ sale.subtotal then w.sub sale.subtotal itemGrossTotal else 0
  let refundVat :=
    if 0 < sale.total ∧ 0 < sale.vat then w.quot (w.mul sale.vat refundAmount) sale.total else 0
  let total := w.sub sale.total refundAmount
  let vat := w.sub sale.vat refundVat
  { sale with
    status := if allReturned then .returned else .partialReturn
    subtotal := if subtotal < 0 then 0 else subtotal
    total := if total < 0 then 0 else total
    vat := if vat < 0 then 0 else vat }

def partialLog (sale : SaleRow) (item : SaleItem) (qtyToReturn : ℚ) : AuditLog :=
  ⟨sale.staffID, "RETURN_PARTIAL", "Sale", sale.id,
    .format "تم استرجاع كمية %.2f من المنتج %s" [.quantity qtyToReturn, .text item.name]⟩

/-- The refund a return of `qtyToReturn` of the line is worth on the loaded sale. -/
def partialRefund (w : Word) (sale : Sale) (item : SaleItem) (qtyToReturn : ℚ) : Int :=
  refundAmountOf w sale.total (itemShareCents w item qtyToReturn)
    (remAllCents w { item with returnedQty := item.returnedQty + qtyToReturn } qtyToReturn sale.items)

def returnSalePartial (w : Word) (env : Env) (saleID productID : String) (qtyToReturn : ℚ) : DbTx Unit := do
  let foundItem ← ask (fun db => db.getSaleItem saleID productID)
  let item ← require foundItem
    (AppError.keyed .sales "SALES_PRODUCT_NOT_FOUND" "SALES_PRODUCT_NOT_FOUND" [.text productID] "product_id")
  let found ← ask (fun db => db.getSale saleID)
  let sale ← require found (ErrSalesNotFound saleID)
  ensure (0 < qtyToReturn) (AppError.keyed .sales "SALES_INVALID_QUANTITY" "SALES_INVALID_QUANTITY" [] "quantity")
  ensure (qtyToReturn ≤ outstanding item)
    (AppError.texts .sales "RETURN_QUANTITY_EXCEEDS_REMAINING"
      (.format "لا يمكن إرجاع %.2f. المتبقي فقط %.2f" [.quantity qtyToReturn, .quantity (outstanding item)])
      "يرجى التحقق من الكمية المتبقية القابلة للإرجاع" "quantity")
  -- the line is written here; the lines inside `sale` were loaded before and stay as they were
  let returned := { item with returnedQty := item.returnedQty + qtyToReturn }
  write (.updateSaleItem returned)
  restockPartial env saleID productID returned qtyToReturn
  ensure (scaled w item.quantity ≠ 0)
    (AppError.texts .sales "INVALID_QUANTITY" (.plain "الكمية غير صالحة") "لا يمكن أن تكون الكمية صفراً" "quantity")
  ensure (remAllCents w returned qtyToReturn sale.items ≠ 0)
    (AppError.texts .sales "INVALID_REFUND" (.plain "قيمة الاسترداد غير صالحة")
      "لا توجد قيمة متبقية للفاتورة" "refund")
  let refundAmount := partialRefund w sale item qtyToReturn
  ensure (0 < refundAmount)
    (AppError.texts .sales "INVALID_REFUND" (.plain "قيمة الاسترداد غير صالحة")
      "لا يمكن استرداد أكثر مما دفعه العميل لهذا المنتج" "refund")
  let allItems ← ask (fun db => db.itemsOf saleID)
  let overpay ← partialCustomer w env sale.toSaleRow returned qtyToReturn refundAmount
  partialLedger w env sale.toSaleRow (partialNote item qtyToReturn) refundAmount
  when (0 < refundAmount)
    (write (.updateShiftRefunds refundAmount (partialCash w sale.toSaleRow refundAmount overpay) false))
  let allReturned := allItems.all fun line => decide (line.quantity ≤ line.returnedQty)
  write (.updateSale (shrinkSale w sale returned qtyToReturn refundAmount allReturned))
  write (.log (partialLog sale.toSaleRow item qtyToReturn))

end BeidarPos
