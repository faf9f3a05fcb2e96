import BeidarPos.Store

/-! Payments against a customer's debt and the collection of installments. -/
namespace BeidarPos

open Machine Relational Journal Tx

def ErrInvalidPaymentAmount : Failure :=
  AppError.keyed .payment "INVALID_PAYMENT_AMOUNT" "INVALID_PAYMENT_AMOUNT" [] "amount"

/-- Only a cash payment looks at the preference. -/
def shiftRequired (method : PaymentMethod) (prefs : Option AppPreferences) : Bool :=
  if method = .cash then (prefs.map AppPreferences.requireShift).getD false else false

def checkDebtPayment (w : Word) (payment : Payment) (allowOverpay : Bool) : DbTx Unit :=
  when (payment.customerID ≠ "") do
    let customers ← ask Store.customers
    let customer ← require (customers.find? payment.customerID)
      (AppError.keyed .payment "PAYMENT_CUSTOMER_NOT_FOUND" "PAYMENT_CUSTOMER_NOT_FOUND"
        [.text payment.customerID] "customer_id")
    ensure (allowOverpay = true ∨ customer.debt < 0 ∨ payment.amount ≤ customer.debt)
      (.app ⟨.payment, "PAYMENT_EXCEEDS_DEBT",
        .message "PAYMENT_EXCEEDS_DEBT" [.amount payment.amount, .amount customer.debt],
        .message "PAYMENT_EXCEEDS_DEBT_HINT" [.amount (w.sub payment.amount customer.debt)], "", true⟩)

def checkPaidSale (payment : Payment) : DbTx Unit :=
  when (payment.saleID ≠ "") do
    let found ← ask (fun db => db.getSale payment.saleID)
    let sale ← require found
      (AppError.keyed .payment "PAYMENT_SALE_NOT_FOUND" "PAYMENT_SALE_NOT_FOUND" [.text payment.saleID] "sale_id")
    ensure (sale.status ≠ .returned ∧ sale.status ≠ .partialReturn)
      (AppError.texts .sales "SALE_RETURNED" (.plain "لا يمكن تسجيل دفعة على فاتورة مرتجعة")
        "أعد الفاتورة أولاً أو أنشئ دفعة عامة بدون ربط بفاتورة" "saleId")
    ensure (sale.paymentMethod ≠ .installment)
      (AppError.texts .payment "USE_PAY_INSTALLMENT"
        (.plain "هذه الفاتورة مبيعة بالأقساط. استخدم تحصيل الأقساط بدلاً من دفعة يدوية")
        "تحصيل الأقساط يسجل الدفعة ويحدّث خطة الأقساط تلقائياً" "saleId")

def createPayment (w : Word) (env : Env) (request : Payment) (allowOverpay : Bool) : DbTx Unit := do
  ensure (0 < request.amount) ErrInvalidPaymentAmount
  let payment := { request with timestamp := env.millis }
  let prefs ← ask Store.preferences
  checkDebtPayment w payment allowOverpay
  checkPaidSale payment
  write (.createPayment payment)
  when (payment.customerID ≠ "") (write (.decrementDebt payment.customerID payment.amount))
  when (payment.method = .cash)
    (write (.updateShiftSales 0 payment.amount false (shiftRequired payment.method prefs)))

def createPaymentForced (w : Word) (env : Env) (request : Payment) : DbTx Unit :=
  createPayment w env request true

/-- A front end may send the amount in dinars or in cents: a factor of 100 either way
is tolerated, and the scheduled amount is what is collected. -/
def amountMatches (w : Word) (amount required : Int) : Prop :=
  amount = required ∨ w.mul amount 100 = required ∨ amount = w.mul required 100

instance (w : Word) (amount required : Int) : Decidable (amountMatches w amount required) :=
  inferInstanceAs (Decidable (_ ∨ _))

/-- The installments in which a schedule differs once number `index` is paid. -/
def markPaid (env : Env) (index : Nat) (schedule : List Installment) : List Installment :=
  schedule.modify index fun inst => { inst with status := .paid, paidAt := env.unix }

def paidPlan (env : Env) (index : Nat) (plan : InstallmentPlan) : InstallmentPlan :=
  { plan with schedule := plan.schedule.map (markPaid env index) }

def allPaid (plan : InstallmentPlan) : Prop := ∀ inst ∈ plan.entries, inst.status = .paid

instance (plan : InstallmentPlan) : Decidable (allPaid plan) :=
  inferInstanceAs (Decidable (∀ _ ∈ _, _))

def installmentRow (env : Env) (sale : SaleRow) (amount : Int) (method : PaymentMethod) (index : Nat) : Payment :=
  ⟨0, sale.id, sale.customerID, amount, method, .message "INSTALLMENT_NOTE" [.number (index + 1)],
    env.millis, "", index⟩

/-- An index below zero is out of range like one beyond the schedule. -/
def installmentAt (plan : InstallmentPlan) (installmentIndex : Int) : Option Installment :=
  if installmentIndex < 0 then none else plan.entries[installmentIndex.toNat]?

def payInstallment (w : Word) (env : Env) (saleID : String) (installmentIndex : Int) (amount : Int)
    (method : PaymentMethod) : DbTx Unit := do
  ensure (0 < amount) ErrInvalidPaymentAmount
  let prefs ← ask Store.preferences
  let found ← ask (fun db => db.getSale saleID)
  let sale ← require found
    (AppError.keyed .payment "PAYMENT_SALE_NOT_FOUND" "PAYMENT_SALE_NOT_FOUND" [.text saleID] "sale_id")
  ensure (sale.status ≠ .returned ∧ sale.status ≠ .partialReturn)
    (AppError.texts .sales "SALE_RETURNED" (.plain "لا يمكن تحصيل أقساط من فاتورة مرتجعة")
      "أعد الفاتورة إلى الحالة النشطة أو أنشئ فاتورة جديدة" "saleId")
  let plan ← require sale.installmentPlan
    (AppError.keyed .payment "NO_INSTALLMENT_PLAN" "NO_INSTALLMENT_PLAN" [] "installment_plan")
  let inst ← require (installmentAt plan installmentIndex)
    (AppError.keyed .payment "INVALID_INSTALLMENT_INDEX" "INVALID_INSTALLMENT_INDEX"
      [.number (installmentIndex + 1), .number plan.entries.length] "installment_index")
  ensure (inst.status ≠ .paid)
    (AppError.keyed .payment "INSTALLMENT_ALREADY_PAID" "INSTALLMENT_ALREADY_PAID"
      [.number installmentIndex] "status")
  ensure (amountMatches w amount inst.amount)
    (AppError.keyed .payment "EXACT_AMOUNT_REQUIRED" "EXACT_AMOUNT_REQUIRED" [.amount inst.amount] "amount")
  let index := installmentIndex.toNat
  let paid := paidPlan env index plan
  let status := if allPaid paid then .paid else sale.status
  write (.updateSaleInstallmentPlan sale.id paid status)
  write (.createPayment (installmentRow env sale.toSaleRow inst.amount method index))
  when (sale.customerID ≠ "") (write (.decrementInstallmentDebt sale.customerID inst.amount))
  when (method = .cash) (write (.updateShiftSales 0 inst.amount false (shiftRequired method prefs)))

end BeidarPos
