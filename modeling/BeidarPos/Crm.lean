import BeidarPos.Calls
import Mathlib.Data.String.Basic

/-! Customers as clients save them, and the deletion of a payment. A new customer is
stored as it was sent; an edit merges name, phone and notes into the stored row. -/
namespace BeidarPos

open Machine Relational Journal Tx

/-- The writes of the shop and the three calls only customer care makes. -/
inductive CrmWrite where
  | shop (write : Write)
  | createCustomer (customer : Customer)
  | updateCustomer (id name phone notes : String)
  | deletePayment (id : Nat)
  deriving DecidableEq

def Customer.mergeContact (name phone notes : String) (c : Customer) : Customer :=
  { c with name := name, phone := phone, notes := notes }

namespace Store

variable (db : Store)

/-- The customer with the phone whose identifier comes first. -/
def getByPhone (phone : String) : Option Customer :=
  (db.customers.rows.filter (fun c => c.phone = phone)).argmin Customer.id

def createCustomer (customer : Customer) : Except Failure Store :=
  match db.customers.insert? customer with
  | some customers => .ok { db with customers := customers }
  | none => .error (.constraint "customers")

def deletePayment (id : Nat) : Store := { db with payments := db.payments.filter (fun p => p.id ≠ id) }

end Store

def CrmWrite.apply : CrmWrite → Store → Except Failure Store
  | .shop write, db => write.apply db
  | .createCustomer customer, db => db.createCustomer customer
  | .updateCustomer id name phone notes, db =>
    .ok (db.updateCustomer id (Customer.mergeContact name phone notes) (fun _ => rfl))
  | .deletePayment id, db => .ok (db.deletePayment id)

abbrev CrmTx := Tx CrmWrite.apply

/-- The calls of the shop, on the same store. -/
def counterPart : Part Write.apply CrmWrite.apply where
  get := id
  set := fun db _ => db
  inj := .shop
  set_get := fun _ => rfl
  get_set := fun _ _ => rfl
  set_set := fun _ _ _ => rfl
  acts := by
    intro v db
    simp only [CrmWrite.apply, id]
    cases v.apply db <;> rfl

def customerError (code field : String) (args : List Arg) : Failure := AppError.keyed .customer code code args field

/-- `^[0-9]{10,15}$`. -/
def isCustomerPhone (phone : String) : Bool :=
  phone.toList.all Char.isDigit && decide (10 ≤ phone.toList.length ∧ phone.toList.length ≤ 15)

def checkCustomerPhone (c : Customer) : CrmTx Unit :=
  when (c.phone ≠ "") do
    ensure (isCustomerPhone c.phone = true) (customerError "INVALID_CUSTOMER_PHONE" "phone" [.text c.phone])
    let existing ← ask (fun db => db.getByPhone c.phone)
    ensure (∀ other ∈ existing, other.id = c.id) (customerError "DUPLICATE_CUSTOMER_PHONE" "phone" [.text c.phone])

/-- Of the balances a new customer brings, only the debt is looked at. -/
def saveCustomer (env : Env) (c : Customer) : CrmTx Unit := do
  ensure (2 ≤ c.name.utf8ByteSize) (customerError "INVALID_CUSTOMER_NAME" "name" [])
  checkCustomerPhone c
  if c.id = "" then do
    ensure (c.debt = 0) (customerError "INITIAL_DEBT" "debt" [])
    mapError (.wrapped (.message "CREATE_CUSTOMER_FAILED" [])) (write (.createCustomer { c with id := env.freshID }))
  else do
    let found ← ask (fun db => db.customers.find? c.id)
    let _ ← require found (customerError "CUSTOMER_NOT_FOUND" "id" [])
    write (.updateCustomer c.id c.name c.phone c.notes)

def deletePayment (w : Word) (id : Nat) : CrmTx Unit := do
  let found ← ask (fun db => db.payments.find? id)
  let payment ← require found
    (AppError.keyed .payment "PAYMENT_NOT_FOUND" "PAYMENT_NOT_FOUND" [.number id] "id")
  ensure (payment.saleID = "") (AppError.texts .payment "CANNOT_DELETE_SALE_PAYMENT"
    (.plain "لا يمكن حذف دفعة مرتبطة بفاتورة مبيعات")
    "الرجاء إرجاع الفاتورة بالكامل بدلاً من حذف الدفعة الخاصة بها" "id")
  -- the payment took debt off when it was made; a refund row did not
  when (payment.customerID ≠ "" ∧ 0 < payment.amount) do
    write (.shop (.decrementDebt payment.customerID (w.neg payment.amount)))
    when (payment.method = .cash) (write (.shop (.updateShiftSales 0 (w.neg payment.amount) false false)))
  write (.deletePayment id)

/-- A deletion takes the amount back from the debt and the open shift, and removes the row. -/
theorem deletePayment_writes {w : Word} {id : Nat} {u : Unit} {db final : Store} {ws : List CrmWrite}
    (h : Does (deletePayment w id) db u ws final) : ∀ v ∈ ws,
      (∃ customerID amount, v = .shop (.decrementDebt customerID amount)) ∨
      (∃ amount, v = .shop (.updateShiftSales 0 amount false false)) ∨ v = .deletePayment id := by
  unfold deletePayment at h
  rw [does_ask_bind, does_require_bind] at h
  obtain ⟨payment, _, h⟩ := h
  rw [does_ensure_bind] at h
  obtain ⟨_, h⟩ := h
  obtain ⟨_, front, _, _, reversed, deleted, rfl⟩ := does_bind.mp h
  obtain ⟨rfl, _⟩ := does_write.mp deleted
  rcases does_when.mp reversed with ⟨_, written⟩ | ⟨_, rfl, _⟩
  · obtain ⟨_, _, _, shift, rfl⟩ := does_write_bind.mp written
    rcases does_when.mp shift with ⟨_, cash⟩ | ⟨_, rfl, _⟩
    · obtain ⟨rfl, _⟩ := does_write.mp cash
      simp
    · simp
  · simp

/-- Everything that moves a customer's balances. -/
inductive BalanceCall where
  | saveCustomer (request : Customer)
  | deletePayment (id : Nat)
  | counter (call : Call)

def BalanceCall.body (w : Word) (env : Env) : BalanceCall → CrmTx Unit
  | .saveCustomer request => BeidarPos.saveCustomer env request
  | .deletePayment id => BeidarPos.deletePayment w id
  | .counter call => counterPart.lift (call.body w env)

end BeidarPos
