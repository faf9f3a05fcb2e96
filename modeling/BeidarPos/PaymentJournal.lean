import BeidarPos.Cells
import BeidarPos.Payments

/-! The journals of an accepted payment and of an accepted installment. -/
namespace BeidarPos

open Machine Relational Journal Tx

def debtPaymentWrites (request : Payment) : List Write :=
  if request.customerID ≠ "" then [.decrementDebt request.customerID request.amount] else []

/-- Cash that comes in with a payment of the given method. -/
def cashInWrites (prefs : Option AppPreferences) (method : PaymentMethod) (amount : Int) : List Write :=
  if method = .cash then [.updateShiftSales 0 amount false (shiftRequired method prefs)] else []

def paymentJournal (env : Env) (prefs : Option AppPreferences) (request : Payment) : List Write :=
  .createPayment { request with timestamp := env.millis } ::
    (debtPaymentWrites request ++ cashInWrites prefs request.method request.amount)

theorem checkDebtPayment_does {db final : Store} (h : Does (checkDebtPayment w request allow) db u ws final) :
    ws = [] ∧ final = db := by
  rcases does_when.mp h with ⟨_, checked⟩ | ⟨_, rfl, rfl⟩
  · simp only [does_bind, does_ask, does_require, does_ensure] at checked
    obtain ⟨_, _, _, _, ⟨rfl, rfl, rfl⟩, ⟨_, _, _, _, ⟨_, rfl, rfl⟩, ⟨_, rfl, rfl⟩, rfl⟩, rfl⟩ := checked
    exact ⟨rfl, rfl⟩
  · exact ⟨rfl, rfl⟩

theorem checkPaidSale_does {db final : Store} (h : Does (checkPaidSale request) db u ws final) :
    ws = [] ∧ final = db := by
  rcases does_when.mp h with ⟨_, checked⟩ | ⟨_, rfl, rfl⟩
  · simp only [does_bind, does_ask, does_require, does_ensure] at checked
    obtain ⟨_, _, _, _, ⟨rfl, rfl, rfl⟩, ⟨_, _, _, _, ⟨_, rfl, rfl⟩, ⟨_, _, _, _, ⟨_, rfl, rfl⟩, ⟨_, rfl, rfl⟩, rfl⟩,
      rfl⟩, rfl⟩ := checked
    exact ⟨rfl, rfl⟩
  · exact ⟨rfl, rfl⟩

theorem write_when {p : Prop} [Decidable p] {v : Write} {db final : Store}
    (h : Does (when p (write v) : DbTx Unit) db u ws final) : ws = if p then [v] else [] := by
  rcases does_when.mp h with ⟨holds, written⟩ | ⟨skipped, rfl, _⟩
  · rw [(does_write.mp written).1, if_pos holds]
  · rw [if_neg skipped]

theorem createPayment_does {db final : Store} (h : Does (createPayment w env request allow) db u ws final) :
    0 < request.amount ∧ ws = paymentJournal env db.preferences request := by
  unfold createPayment at h
  rw [does_ensure_bind, does_ask_bind, does_bind] at h
  obtain ⟨positive, _, _, _, _, debt, h, rfl⟩ := h
  rw [does_bind] at h
  obtain ⟨_, _, _, _, paid, h, rfl⟩ := h
  rw [does_write_bind] at h
  obtain ⟨_, _, _, h, rfl⟩ := h
  obtain ⟨_, _, _, _, customer, shift, rfl⟩ := does_bind.mp h
  obtain ⟨rfl, rfl⟩ := checkDebtPayment_does debt
  obtain ⟨rfl, rfl⟩ := checkPaidSale_does paid
  refine ⟨positive, ?_⟩
  rw [write_when customer, write_when shift]
  rfl

/-- What an accepted installment found: the sale, its plan and the installment. -/
structure InstallmentFacts (w : Word) (db : Store) (saleID : String) (installmentIndex amount : Int) (sale : Sale)
    (plan : InstallmentPlan) (inst : Installment) : Prop where
  loaded : db.getSale saleID = some sale
  active : sale.status ≠ .returned ∧ sale.status ≠ .partialReturn
  planned : sale.installmentPlan = some plan
  entry : installmentAt plan installmentIndex = some inst
  unpaid : inst.status ≠ .paid
  matching : amountMatches w amount inst.amount

def installmentDebtPaid (sale : SaleRow) (amount : Int) : List Write :=
  if sale.customerID ≠ "" then [.decrementInstallmentDebt sale.customerID amount] else []

def installmentJournal (env : Env) (prefs : Option AppPreferences) (index : Nat) (method : PaymentMethod)
    (sale : Sale) (plan : InstallmentPlan) (inst : Installment) : List Write :=
  let paid := paidPlan env index plan
  .updateSaleInstallmentPlan sale.id paid (if allPaid paid then .paid else sale.status) ::
  .createPayment (installmentRow env sale.toSaleRow inst.amount method index) ::
    (installmentDebtPaid sale.toSaleRow inst.amount ++ cashInWrites prefs method inst.amount)

theorem payInstallment_does {db final : Store} {saleID : String} {installmentIndex amount : Int}
    {method : PaymentMethod} (h : Does (payInstallment w env saleID installmentIndex amount method) db u ws final) :
    ∃ sale plan inst, InstallmentFacts w db saleID installmentIndex amount sale plan inst ∧
      ws = installmentJournal env db.preferences installmentIndex.toNat method sale plan inst := by
  unfold payInstallment at h
  rw [does_ensure_bind, does_ask_bind, does_ask_bind, does_require_bind] at h
  obtain ⟨_, sale, loaded, h⟩ := h
  rw [does_ensure_bind, does_require_bind] at h
  obtain ⟨active, plan, planned, h⟩ := h
  rw [does_require_bind] at h
  obtain ⟨inst, entry, h⟩ := h
  rw [does_ensure_bind, does_ensure_bind, does_write_bind] at h
  obtain ⟨unpaid, matching, _, _, _, h, rfl⟩ := h
  rw [does_write_bind] at h
  obtain ⟨_, _, _, h, rfl⟩ := h
  obtain ⟨_, _, _, _, customer, shift, rfl⟩ := does_bind.mp h
  refine ⟨sale, plan, inst, ⟨loaded, active, planned, entry, unpaid, matching⟩, ?_⟩
  rw [write_when customer, write_when shift]
  rfl

end BeidarPos
