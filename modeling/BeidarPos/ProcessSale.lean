import BeidarPos.Store

/-! Selling: one request becomes stock movements, a sale with its lines, customer
balances, ledger rows and shift totals, or nothing. The validations are in the
order of the source; the ones after the first write rely on the rollback. -/
namespace BeidarPos

open Machine Relational Journal Tx

def ErrEmptyCart : Failure := AppError.keyed .sales "EMPTY_CART" "EMPTY_CART" [] "items"

def ErrSalesInvalidQuantity : Failure :=
  AppError.keyed .sales "SALES_INVALID_QUANTITY" "SALES_INVALID_QUANTITY" [] "quantity"

def ErrSalesProductNotFound (productID : String) : Failure :=
  AppError.keyed .sales "SALES_PRODUCT_NOT_FOUND" "SALES_PRODUCT_NOT_FOUND" [.text productID] "product_id"

def ErrSalesInsufficientStock (productName : String) (available requested : ℚ) : Failure :=
  AppError.keyed .sales "SALES_INSUFFICIENT_STOCK" "SALES_INSUFFICIENT_STOCK"
    [.text productName, .quantity available, .quantity requested] "stock"

def ErrPriceMismatch (productName : String) (oldPrice newPrice : Int) : Failure :=
  AppError.keyed .sales "PRICE_MISMATCH" "PRICE_MISMATCH"
    [.text productName, .amount oldPrice, .amount newPrice] "price"

def invalidPayment (message : Text) (hint field : String) : Failure :=
  AppError.texts .sales "INVALID_PAYMENT" message hint field

def requirePermissionFor (actor : Actor) (perm : String) : DbTx Unit := do
  ensure (actor.authenticated = true) .notAuthenticated
  ensure (actor.hasPermission perm = true) .insufficientPermission

/-- Date, time, status and a missing identifier are the server's. -/
def stampSale (env : Env) (sale : Sale) : Sale :=
  { sale with
    date := env.date
    timestamp := env.millis
    status := if sale.paymentMethod = .credit ∨ sale.paymentMethod = .installment then .pending else .completed
    id := if sale.id = "" then env.freshID else sale.id }

def checkDiscountPermission (actor : Actor) (sale : Sale) : DbTx Unit :=
  when (0 < sale.discount ∨ ∃ item ∈ sale.items, 0 < item.discount) (requirePermissionFor actor PermDiscounts)

/-- A sale that leaves a debt names its customer. -/
def checkCustomer (sale : Sale) : DbTx Unit :=
  when (sale.customerID = "") do
    ensure (sale.paymentMethod ≠ .credit)
      (AppError.keyed .sales "INVALID_PAYMENT" "CREDIT_WITHOUT_CUSTOMER" [] "customer")
    ensure (sale.paymentMethod ≠ .installment)
      (AppError.keyed .sales "INVALID_PAYMENT" "INSTALLMENT_WITHOUT_CUSTOMER" [] "customer")
    ensure (¬ (sale.paymentMethod = .split ∧ ∃ split ∈ sale.splitDetails, 0 < split.get .credit))
      (AppError.keyed .sales "INVALID_PAYMENT" "SPLIT_CREDIT_WITHOUT_CUSTOMER" [] "customer")

def checkItem (w : Word) (item : SaleItem) : DbTx Unit := do
  ensure (0 < item.quantity) ErrSalesInvalidQuantity
  ensure (0 ≤ item.discount) (invalidPayment (.plain "قيمة خصم المنتج لا يمكن أن تكون سالبة")
    "يجب أن تكون قيمة خصم المنتج صفراً أو أكبر" "discount")
  ensure (item.discount ≤ Amount.mulFloat w item.price item.quantity)
    (invalidPayment (.plain "قيمة خصم المنتج تتجاوز الإجمالي")
      "لا يمكن أن تتجاوز قيمة خصم المنتج السعر الإجمالي للمنتج" "discount")

/-- The lines sold so far and the sums the loop accumulates. -/
structure Cart where
  items : List SaleItem
  subtotal : Int
  total : Int

def priceMatches (w : Word) (product : Product) (item : SaleItem) : Prop :=
  Amount.abs w (w.sub product.price item.price) ≤ 1 ∨
  (0 < product.wholesalePrice ∧ Amount.abs w (w.sub product.wholesalePrice item.price) ≤ 1)

instance (w : Word) (product : Product) (item : SaleItem) : Decidable (priceMatches w product item) :=
  inferInstanceAs (Decidable (_ ∨ _))

def lineTotal (w : Word) (item : SaleItem) : Int :=
  w.sub (Amount.mulFloat w item.price item.quantity) item.discount

/-- The line as it is stored: name, cost and total come from the product. -/
def soldItem (w : Word) (product : Product) (item : SaleItem) : SaleItem :=
  { item with name := product.name, total := lineTotal w item, cost := product.cost }

def saleMovement (env : Env) (saleID : String) (product : Product) (item : SaleItem) : StockMovement :=
  ⟨product.id, product.name, "sale", -item.quantity, "Sale #" ++ saleID, env.millis⟩

/-- One turn of the item loop. `products` was read before the loop, so its stock is
stale from the second line of one product on; the update guards by itself. -/
def sellItem (w : Word) (env : Env) (saleID : String) (products : Table Product.id) (cart : Cart)
    (item : SaleItem) : DbTx Cart := do
  let product ← require (products.find? item.productID) (ErrSalesProductNotFound item.productID)
  ensure (item.quantity ≤ product.stock) (ErrSalesInsufficientStock product.name product.stock item.quantity)
  ensure (priceMatches w product item) (ErrPriceMismatch product.name item.price product.price)
  mapError (fun e => if e = .insufficientStock then
      ErrSalesInsufficientStock product.name product.stock item.quantity else e)
    (write (.updateStock item.productID (-item.quantity)))
  write (.createStockMovement (saleMovement env saleID product item))
  pure {
    items := cart.items ++ [soldItem w product item]
    subtotal := w.add cart.subtotal (Amount.mulFloat w item.price item.quantity)
    total := w.add cart.total (lineTotal w item) }

/-- The computed columns of the sale. Without a customer `PointsAwarded` is left as sent. -/
def priceSale (w : Word) (vatRate : ℚ) (sale : Sale) (cart : Cart) : Sale :=
  let taxableTotal := w.sub cart.total sale.discount
  let vat := if 0 < vatRate then Amount.percentage w taxableTotal vatRate else 0
  let total := w.add taxableTotal vat
  { sale with
    items := cart.items
    subtotal := cart.subtotal
    vat := vat
    total := total
    pointsAwarded := if sale.customerID ≠ "" then Amount.div w total 1000 else sale.pointsAwarded }

def checkPlan (w : Word) (sale : Sale) : DbTx Unit :=
  when (sale.paymentMethod = .installment) <|
    match sale.installmentPlan with
    | none => pure ()
    | some plan => do
      ensure (0 ≤ plan.downPayment) (invalidPayment (.plain "الدفعة الأولى لا يمكن أن تكون سالبة")
        "يجب أن تكون الدفعة الأولى صفراً أو أكبر" "installment")
      ensure (plan.downPayment ≤ sale.total)
        (invalidPayment (.plain "قيمة الدفعة الأولى لا يمكن أن تتجاوز إجمالي الفاتورة")
          "يجب أن تكون الدفعة الأولى أقل من أو تساوي إجمالي الفاتورة" "installment")
      match plan.schedule with
      | none => pure ()
      | some schedule =>
        let scheduleSum := schedule.foldl (fun sum inst => w.add sum inst.amount) 0
        let expectedSum := w.sub sale.total plan.downPayment
        ensure (∀ inst ∈ schedule, 0 ≤ inst.amount)
          (invalidPayment (.plain "قيمة القسط لا يمكن أن تكون سالبة") "يرجى التحقق من مبالغ الأقساط" "installment")
        ensure (scheduleSum = expectedSum)
          (invalidPayment (.format "مجموع الأقساط المجدولة (%s) لا يساوي المبلغ المتبقي (%s)"
              [.amount scheduleSum, .amount expectedSum])
            "يرجى إعادة جدولة الأقساط لتتطابق مع الإجمالي المتبقي" "installment")

def debtIncrease (sale : SaleRow) : Int :=
  match sale.paymentMethod, sale.splitDetails with
  | .credit, _ => sale.total
  | .split, some split => split.get .credit
  | _, _ => 0

def installmentDebtIncrease (w : Word) (sale : SaleRow) : Int :=
  match sale.paymentMethod, sale.installmentPlan with
  | .installment, some plan => w.sub sale.total plan.downPayment
  | .installment, none => sale.total
  | _, _ => 0

def chargeCustomer (w : Word) (env : Env) (sale : SaleRow) : DbTx Unit :=
  when (sale.customerID ≠ "") do
    let customers ← ask Store.customers
    let customer ← require (customers.find? sale.customerID)
      (AppError.texts .sales "CUSTOMER_NOT_FOUND" (.plain "العميل غير موجود")
        "لا يمكن إتمام الفاتورة على عميل غير موجود" "customerId")
    write (.incrementPurchasesAndDebt customer.id sale.total sale.pointsAwarded (debtIncrease sale)
      (installmentDebtIncrease w sale) env.date)

def paymentRow (env : Env) (sale : SaleRow) (amount : Int) (method : PaymentMethod) (note : String) : Payment :=
  ⟨0, sale.id, sale.customerID, amount, method, .plain note, env.millis, sale.staffID, 0⟩

def savePayment (p : Payment) : DbTx Unit :=
  mapError (.wrapped (.message "SAVE_PAYMENT_FAILED" [.text ""])) (write (.createPayment p))

def checkLeg (sale : SaleRow) (leg : PaymentMethod × Int) : DbTx Unit := do
  ensure (0 ≤ leg.2) (invalidPayment (.plain "قيمة الدفعة المقسمة لا يمكن أن تكون سالبة")
    "يجب أن تكون قيمة كل دفعة مقسمة صفراً أو أكبر" "split")
  ensure (leg.2 ≤ sale.total) (invalidPayment (.plain "قيمة الدفعة المقسمة تتجاوز إجمالي الفاتورة")
    "لا يمكن أن تتجاوز قيمة الدفعة المقسمة إجمالي الفاتورة" "split")

/-- The legs are checked only here, after the sale and the balances were written. -/
def recordSplit (w : Word) (env : Env) (sale : SaleRow) (split : SplitDetails) : DbTx Unit := do
  each (checkLeg sale) ((env.order 0).visit split.legs)
  let splitSum := ((env.order 1).visit split.legs).foldl (fun sum leg => w.add sum leg.2) 0
  ensure (splitSum = sale.total)
    (invalidPayment (.format "مجموع الدفعات المقسمة (%s) لا يساوي إجمالي الفاتورة (%s)"
      [.amount splitSum, .amount sale.total]) "يرجى مراجعة الدفعات المقسمة" "split")
  each (fun leg => when (0 < leg.2) (savePayment (paymentRow env sale leg.2 leg.1 "Split Payment")))
    ((env.order 2).visit split.legs)

/-- The down payment of an installment sale, when there is one to record. -/
def downPayment (sale : SaleRow) : Int :=
  match sale.paymentMethod, sale.installmentPlan with
  | .installment, some plan => if 0 < plan.downPayment then plan.downPayment else 0
  | _, _ => 0

/-- The part of the total that is not the down payment. -/
def paymentAmount (w : Word) (sale : SaleRow) : Int :=
  if 0 < downPayment sale then w.sub sale.total (downPayment sale) else sale.total

/-- The financed part under the method's own name, the down payment as cash. -/
def recordSingle (w : Word) (env : Env) (sale : SaleRow) : DbTx Unit := do
  when (0 < paymentAmount w sale) (savePayment (paymentRow env sale (paymentAmount w sale) sale.paymentMethod ""))
  when (0 < downPayment sale) (savePayment (paymentRow env sale (downPayment sale) .cash "الدفعة الأولى"))

def recordPayments (w : Word) (env : Env) (sale : SaleRow) : DbTx Unit :=
  match sale.paymentMethod, sale.splitDetails with
  | .split, some split => recordSplit w env sale split
  | _, _ => recordSingle w env sale

def saleCash (sale : SaleRow) : Int :=
  match sale.paymentMethod, sale.splitDetails, sale.installmentPlan with
  | .cash, _, _ => sale.total
  | .split, some split, _ => split.get .cash
  | .installment, _, some plan => plan.downPayment
  | _, _, _ => 0

def discountLog (sale : SaleRow) : AuditLog :=
  ⟨sale.staffID, "SALE_DISCOUNT", "Sale", sale.id,
    .format "تم تطبيق خصم بقيمة %s على الفاتورة" [.amount sale.discount]⟩

def checkInvoiceDiscount (sale : Sale) (cart : Cart) : DbTx Unit := do
  ensure (0 ≤ sale.discount) (invalidPayment (.plain "قيمة الخصم لا يمكن أن تكون سالبة")
    "يجب أن تكون قيمة الخصم صفراً أو أكبر" "discount")
  ensure (sale.discount ≤ cart.total) (.plain (.message "DISCOUNT_EXCEEDS_TOTAL" []))

/-- From the priced sale on: the row, the balances, the ledger and the shift. -/
def commitSale (w : Word) (env : Env) (requireShift : Bool) (sale : Sale) : DbTx Unit := do
  mapError (.wrapped (.message "SAVE_SALE_FAILED" [.text ""])) (write (.createSale sale))
  chargeCustomer w env sale.toSaleRow
  recordPayments w env sale.toSaleRow
  mapError (.wrapped (.message "SALE_PROCESS_FAILED" [.text ""]))
    (write (.updateShiftSales sale.total (saleCash sale.toSaleRow) true requireShift))
  when (0 < sale.discount) (write (.log (discountLog sale.toSaleRow)))

/-- The checks made before the transaction starts. -/
def admitSale (w : Word) (actor : Actor) (sale : Sale) : DbTx Unit := do
  ensure (sale.items ≠ []) ErrEmptyCart
  checkDiscountPermission actor sale
  checkCustomer sale
  each (checkItem w) sale.items

def processSaleAs (w : Word) (env : Env) (actor : Actor) (request : Sale) : DbTx Unit := do
  let sale := stampSale env request
  admitSale w actor sale
  let prefs ← ask Store.preferences
  let requireShift := (prefs.map AppPreferences.requireShift).getD false
  let vatRate := (prefs.map AppPreferences.taxRate).getD 0
  let products ← ask Store.products
  let cart ← foldEach (sellItem w env sale.id products) sale.items ⟨[], 0, 0⟩
  checkInvoiceDiscount sale cart
  let priced := priceSale w vatRate sale cart
  checkPlan w priced
  commitSale w env requireShift priced

end BeidarPos
