import BeidarPos.ReturnsPossible
import BeidarPos.ShiftLifecycle

/-! A standalone payment that is deleted again. Its creation takes the amount off the debt,
no further than to zero, and puts cash into the open shift; the deletion takes both back for
a named customer only. -/
namespace BeidarPos

open Machine Relational Journal Tx

section Creation

variable {env : Env} {db next created : Store} {request : Payment} {allow : Bool} {ws : List Write}

/-- The number a payment is stored under. -/
def createdID (db : Store) (request : Payment) : Nat := if request.id = 0 then db.payments.seq + 1 else request.id

theorem createPayment_row (h : db.createPayment request = .ok next) :
    next.payments.rows = db.payments.rows ++ [{ request with id := createdID db request }] ∧
      ∀ old ∈ db.payments.rows, old.id ≠ createdID db request := by
  unfold Store.createPayment at h
  unfold createdID
  by_cases new : request.id = 0
  · simp only [new, if_true, Except.ok.injEq] at h ⊢
    subst h
    refine ⟨rfl, fun old member same => ?_⟩
    have bounded := db.payments.bounded old member
    omega
  · simp only [new, if_false] at h ⊢
    cases inserted : db.payments.insert? request with
    | none => simp [inserted] at h
    | some payments =>
      simp only [inserted, Except.ok.injEq] at h
      subst h
      obtain ⟨added, _⟩ := Serial.insert?_some inserted
      obtain ⟨rows, fresh⟩ := Table.insert?_rows added
      exact ⟨rows, Table.find?_none.mp fresh⟩

/-- The payments and the cash movements stay when other tables are written. -/
theorem rows_kept {areas : List Area} (h : replay Write.apply ws db = .ok next) (confined : Confined areas ws)
    (outside : Area.ledger ∉ areas ∧ Area.cash ∉ areas) :
    next.payments = db.payments ∧ next.cashMovements = db.cashMovements := by
  refine @replay_keeps _ _ _ _ (fun later => later.payments = db.payments ∧ later.cashMovements = db.cashMovements)
    _ _ _ h ⟨rfl, rfl⟩ ?_
  intro v member before after kept applied
  have inside := confined v member
  have tables := apply_tables applied
  cases v with
  | createPayment => exact absurd inside outside.1
  | createCashMovement => exact absurd inside outside.2
  | createSale | updateSale | updateSaleItem | updateSaleInstallmentPlan => obtain ⟨_, _, rfl⟩ := tables; exact kept
  | _ => obtain ⟨_, rfl⟩ := tables; exact kept

theorem created_rows (h : Does (createPayment .exact env request allow) db () ws created) :
    created.payments.rows = db.payments.rows ++ [{ request with id := createdID db request, timestamp := env.millis }] ∧
      (∀ old ∈ db.payments.rows, old.id ≠ createdID db request) ∧ created.cashMovements = db.cashMovements := by
  have replayed := h.replays
  obtain ⟨_, rfl⟩ := createPayment_does h
  obtain ⟨next, stored, onward⟩ := replay_cons.mp replayed
  have elsewhere : Confined [.customers, .shifts]
      (debtPaymentWrites request ++ cashInWrites db.preferences request.method request.amount) := by
    unfold debtPaymentWrites cashInWrites
    split <;> split <;> simp [Confined, Write.area]
  obtain ⟨payments, moves⟩ := rows_kept onward elsewhere (by decide)
  obtain ⟨rows, fresh⟩ := createPayment_row stored
  obtain ⟨_, _, same⟩ := createPayment_ok stored
  rw [payments, moves]
  exact ⟨rows, fresh, by rw [same]⟩

theorem debt_lowered {rest : List Write} (confined : Confined [.shifts] rest) (id : String) (amount : Int) (o : Option Int) :
    (debtCell id).steps (.decrementDebt id amount :: rest) o = o.map (clampSub · amount) := by
  rw [Cell.steps_cons, (debt_within id).frame confined (by decide)]
  exact if_pos rfl

theorem confined_cashIn_shifts (prefs : Option AppPreferences) (method : PaymentMethod) (amount : Int) :
    Confined [.shifts] (cashInWrites prefs method amount) := by
  unfold cashInWrites
  split <;> simp [Confined, Write.area]

theorem created_debt (h : Does (createPayment .exact env request allow) db () ws created) :
    debtOf created request.customerID = if request.customerID = "" then debtOf db request.customerID
      else (debtOf db request.customerID).map (clampSub · request.amount) := by
  rw [debt_replayed h]
  obtain ⟨_, rfl⟩ := createPayment_does h
  have shifts := confined_cashIn_shifts db.preferences request.method request.amount
  have row : ∀ o, (debtCell request.customerID).step (.createPayment { request with timestamp := env.millis }) o = o :=
    fun o => debt_within _ _ o (by simp [Write.area])
  rw [paymentJournal, Cell.steps_cons, row, debtPaymentWrites]
  by_cases anonymous : request.customerID = ""
  · rw [if_neg (not_not_intro anonymous), if_pos anonymous, List.nil_append, (debt_within _).frame shifts (by decide)]
  · rw [if_pos anonymous, if_neg anonymous, List.singleton_append, debt_lowered shifts]

/-- The open shift after cash went into it; one without a name is not found. -/
def cashDrawn (amount : Int) (shift : Shift) : Shift := if shift.id = "" then shift else shift.addSale 0 amount false

theorem cashDrawn_back (amount : Int) (shift : Shift) : cashDrawn (-amount) (cashDrawn amount shift) = shift := by
  by_cases unnamed : shift.id = ""
  · simp [cashDrawn, unnamed]
  · simp [cashDrawn, unnamed, Shift.addSale]

theorem created_drawer (h : Does (createPayment .exact env request allow) db () ws created) :
    created.activeShift =
      if request.method = .cash then db.activeShift.map (cashDrawn request.amount) else db.activeShift := by
  have replayed := h.replays
  obtain ⟨_, rfl⟩ := createPayment_does h
  have kept : ∀ v ∈ paymentJournal env db.preferences request, ∀ shift, v ≠ .saveShift shift := by
    unfold paymentJournal debtPaymentWrites cashInWrites
    split <;> split <;> simp
  have front : Confined [.ledger, .customers]
      (.createPayment { request with timestamp := env.millis } :: debtPaymentWrites request) := by
    unfold debtPaymentWrites
    split <;> simp [Confined, Write.area]
  rw [drawer_replayed replayed kept, paymentJournal, ← List.cons_append, drawerSteps_append,
    drawerSteps_frame front (by decide), cashInWrites]
  split <;> rfl

end Creation

section Deletion

variable {db final : Store} {id : Nat} {ws : List CrmWrite} {payment : Payment}

/-- What a deletion takes back before the row is gone. -/
def reversalWrites (payment : Payment) : List Write :=
  if payment.customerID ≠ "" ∧ 0 < payment.amount then
    .decrementDebt payment.customerID (-payment.amount) ::
      if payment.method = .cash then [.updateShiftSales 0 (-payment.amount) false false] else []
  else []

theorem deletePayment_replays (h : Does (deletePayment .exact id) db u ws final) :
    ∃ payment middle, db.payments.find? id = some payment ∧ payment.saleID = "" ∧
      replay Write.apply (reversalWrites payment) db = .ok middle ∧ final = middle.deletePayment id := by
  unfold deletePayment at h
  rw [does_ask_bind, does_require_bind] at h
  obtain ⟨payment, found, h⟩ := h
  rw [does_ensure_bind] at h
  obtain ⟨standalone, h⟩ := h
  obtain ⟨_, _, middle, _, reversed, deleted, rfl⟩ := does_bind.mp h
  obtain ⟨_, removed⟩ := does_write.mp deleted
  refine ⟨payment, middle, found, standalone, ?_, ?_⟩
  · unfold reversalWrites
    rcases does_when.mp reversed with ⟨owed, written⟩ | ⟨skipped, rfl, rfl⟩
    · rw [if_pos owed]
      obtain ⟨next, _, lowered, shift, rfl⟩ := does_write_bind.mp written
      simp only [replay]
      have applied : Write.apply (.decrementDebt payment.customerID (-payment.amount)) db = .ok next := lowered
      rw [applied]
      rcases does_when.mp shift with ⟨cash, paid⟩ | ⟨other, _, rfl⟩
      · rw [if_pos cash]
        have taken : Write.apply (.updateShiftSales 0 (-payment.amount) false false) next = .ok middle :=
          (does_write.mp paid).2
        simp only [replay, taken]
      · rw [if_neg other]
        rfl
    · rw [if_neg skipped]
      rfl
  · cases removed
    rfl

theorem updateShiftSales_free (total cash : Int) (db : Store) : ∃ next, db.updateShiftSales total cash false false = .ok next := by
  unfold Store.updateShiftSales
  split
  · exact ⟨db, rfl⟩
  · exact ⟨_, rfl⟩

/-- Only an unknown payment, or one of a sale, is not deleted. -/
theorem deletePayment_accepts (found : db.payments.find? id = some payment) (standalone : payment.saleID = "") :
    (deletePayment .exact id).accepts db := by
  unfold deletePayment
  rw [accepts_ask_bind, accepts_require_bind]
  refine ⟨payment, found, ?_⟩
  rw [accepts_ensure_bind]
  refine ⟨standalone, ?_⟩
  have drawn : Unfailing (write (.shop (.updateShiftSales 0 (Word.exact.neg payment.amount) false false)) : CrmTx Unit) :=
    unfailing_write fun db => updateShiftSales_free _ _ db
  have lowered : Unfailing (write (.shop (.decrementDebt payment.customerID (Word.exact.neg payment.amount))) : CrmTx Unit) :=
    unfailing_write fun db => ⟨_, rfl⟩
  exact ((lowered.bind fun _ => drawn.when).when.bind fun _ => unfailing_write fun db => ⟨_, rfl⟩) db

theorem confined_reversal (payment : Payment) : Confined [.customers, .shifts] (reversalWrites payment) := by
  unfold reversalWrites
  split
  · split <;> simp [Confined, Write.area]
  · exact confined_nil

theorem reversed_debt {middle : Store} (h : replay Write.apply (reversalWrites payment) db = .ok middle)
    (positive : 0 < payment.amount) :
    debtOf middle payment.customerID = if payment.customerID = "" then debtOf db payment.customerID
      else (debtOf db payment.customerID).map (clampSub · (-payment.amount)) := by
  refine ((debtCell payment.customerID).replay_read h).trans ?_
  rw [reversalWrites]
  by_cases anonymous : payment.customerID = ""
  · rw [if_neg fun both => both.1 anonymous, if_pos anonymous]
    rfl
  · rw [if_pos ⟨anonymous, positive⟩, if_neg anonymous, debt_lowered (by split <;> simp [Confined, Write.area])]
    rfl

theorem reversed_drawer {middle : Store} (h : replay Write.apply (reversalWrites payment) db = .ok middle)
    (positive : 0 < payment.amount) :
    middle.activeShift = if payment.customerID ≠ "" ∧ payment.method = .cash then
      db.activeShift.map (cashDrawn (-payment.amount)) else db.activeShift := by
  have kept : ∀ v ∈ reversalWrites payment, ∀ shift, v ≠ .saveShift shift := by
    rintro v member shift rfl
    unfold reversalWrites at member
    split at member
    · split at member <;> simp at member
    · cases member
  rw [drawer_replayed h kept, reversalWrites]
  by_cases named : payment.customerID ≠ ""
  · by_cases cash : payment.method = .cash
    · rw [if_pos ⟨named, positive⟩, if_pos cash, if_pos ⟨named, cash⟩]
      rfl
    · rw [if_pos ⟨named, positive⟩, if_neg cash, if_neg fun both => cash both.2]
      rfl
  · rw [if_neg fun both => named both.1, if_neg fun both => named both.1]
    rfl

end Deletion

/-- What a payment moved is as it was before. -/
structure PaymentUndone (customerID : String) (db final : Store) : Prop where
  debt : debtOf final customerID = debtOf db customerID
  drawer : final.activeShift.map (fun shift => (shift.cashSales, shift.expectedBalance)) =
    db.activeShift.map fun shift => (shift.cashSales, shift.expectedBalance)
  reported : (getActiveShift .exact final).map Shift.expectedBalance = (getActiveShift .exact db).map Shift.expectedBalance
  payments : final.payments.rows = db.payments.rows

/-- The customer owed the amount, and cash that no customer paid found no shift. -/
structure Revocable (db : Store) (request : Payment) : Prop where
  debt : request.customerID ≠ "" → ∀ owed ∈ debtOf db request.customerID, request.amount ≤ owed
  cash : request.customerID = "" → request.method = .cash → db.openShiftID = none

theorem clampSub_restored {owed amount : Int} (positive : 0 < amount) :
    clampSub (clampSub owed amount) (-amount) = owed ↔ amount ≤ owed := by
  unfold clampSub
  split <;> split <;> omega

section Undoing

variable {env : Env} {request : Payment} {allow : Bool} {db created final : Store} {ws : List Write}

/-- The balances after a payment was made and deleted. -/
structure Deleted (db : Store) (request : Payment) (final : Store) : Prop where
  debt : debtOf final request.customerID = if request.customerID = "" then debtOf db request.customerID
    else (debtOf db request.customerID).map fun owed => clampSub (clampSub owed request.amount) (-request.amount)
  drawer : final.activeShift = if request.customerID = "" ∧ request.method = .cash then
    db.activeShift.map (cashDrawn request.amount) else db.activeShift
  payments : final.payments.rows = db.payments.rows
  moves : final.cashMovements = db.cashMovements

theorem created_deleted (h : Does (createPayment .exact env request allow) db () ws created) (standalone : request.saleID = "") :
    (deletePayment .exact (createdID db request)).accepts created ∧
      Deleted db request ((deletePayment .exact (createdID db request)).commit created) := by
  obtain ⟨positive, _⟩ := createPayment_does h
  obtain ⟨rows, fresh, moves⟩ := created_rows h
  have stored : created.payments.find? (createdID db request) =
      some { request with id := createdID db request, timestamp := env.millis } :=
    Table.find?_of_mem (r := { request with id := createdID db request, timestamp := env.millis }) (by rw [rows]; simp)
  have accepted := deletePayment_accepts stored standalone
  refine ⟨accepted, ?_⟩
  obtain ⟨payment, middle, found, _, reversed, removed⟩ := deletePayment_replays (does_accepted accepted)
  obtain rfl := Option.some.inj (stored.symm.trans found)
  obtain ⟨kept, moved⟩ := rows_kept reversed (confined_reversal _) (by decide)
  have drawer := reversed_drawer reversed positive
  have debt := reversed_debt reversed positive
  simp only at drawer debt
  rw [created_debt h] at debt
  rw [created_drawer h] at drawer
  rw [removed]
  refine ⟨debt.trans ?_, drawer.trans ?_, ?_, moved.trans moves⟩
  · by_cases anonymous : request.customerID = ""
    · rw [if_pos anonymous, if_pos anonymous, if_pos anonymous]
    · rw [if_neg anonymous, if_neg anonymous, if_neg anonymous, Option.map_map]
      rfl
  · by_cases cash : request.method = .cash
    · by_cases anonymous : request.customerID = ""
      · rw [if_neg fun both => both.1 anonymous, if_pos cash, if_pos ⟨anonymous, cash⟩]
      · rw [if_pos ⟨anonymous, cash⟩, if_pos cash, if_neg fun both => anonymous both.1, Option.map_map]
        exact (congrArg (Option.map · db.activeShift) (funext (cashDrawn_back request.amount))).trans Option.map_id'
    · rw [if_neg fun both => cash both.2, if_neg cash, if_neg fun both => cash both.2]
  · change middle.payments.rows.filter (fun p => p.id ≠ createdID db request) = _
    rw [kept, rows, List.filter_append, List.filter_eq_self.mpr fun old member => decide_eq_true (fresh old member)]
    simp

theorem getActiveShift_kept (shift : final.activeShift = db.activeShift) (moves : final.cashMovements = db.cashMovements) :
    getActiveShift .exact final = getActiveShift .exact db := by
  have counted : ∀ shift, expectedBalance .exact final shift = expectedBalance .exact db shift := by
    intro shift
    have movements : final.movementsOf shift.id = db.movementsOf shift.id := by rw [Store.movementsOf, moves]; rfl
    simp only [expectedBalance, getCashInAndOut_kept movements]
  rw [getActiveShift, shift]
  exact congrArg (Option.map · db.activeShift) (funext fun shift => by rw [counted])

/-- Cash raises the counters of a shift unless the shift has no name. -/
theorem drawn_same {amount : Int} (positive : 0 < amount) :
    (db.activeShift.map (cashDrawn amount)).map (fun shift => (shift.cashSales, shift.expectedBalance)) =
      (db.activeShift.map fun shift => (shift.cashSales, shift.expectedBalance)) ↔ db.openShiftID = none := by
  unfold Store.openShiftID
  cases db.activeShift with
  | none => simp
  | some shift =>
    by_cases unnamed : shift.id = ""
    · simp [cashDrawn, unnamed]
    · simp only [Option.map_some, Option.some.injEq, Prod.mk.injEq, cashDrawn, unnamed, if_false, Shift.addSale,
        reduceCtorEq, iff_false]
      omega

theorem drawn_unmoved {amount : Int} (closed : db.openShiftID = none) : db.activeShift.map (cashDrawn amount) = db.activeShift := by
  unfold Store.openShiftID at closed
  cases active : db.activeShift with
  | none => rfl
  | some shift =>
    have unnamed : shift.id = "" := by
      by_contra named
      simp [active, named] at closed
    simp [cashDrawn, unnamed]

end Undoing

/-- Deleting a standalone payment right after it was made undoes it when and only when its
amount was owed, or nobody owed it and it moved no shift. -/
theorem payment_deleted {env : Env} {request : Payment} {allow : Bool} {db created : Store} {ws : List Write}
    (h : Does (createPayment .exact env request allow) db () ws created) (standalone : request.saleID = "") :
    (deletePayment .exact (createdID db request)).accepts created ∧
      (PaymentUndone request.customerID db ((deletePayment .exact (createdID db request)).commit created) ↔
        Revocable db request) := by
  obtain ⟨positive, _⟩ := createPayment_does h
  obtain ⟨accepted, debt, drawer, payments, moves⟩ := created_deleted h standalone
  refine ⟨accepted, fun undone => ⟨fun named owed there => ?_, fun anonymous cash => ?_⟩, fun revocable => ?_⟩
  · have back := undone.debt
    rw [debt, if_neg named, Option.mem_def.mp there] at back
    exact (clampSub_restored positive).mp (Option.some.inj back)
  · have counters := undone.drawer
    rw [drawer, if_pos ⟨anonymous, cash⟩] at counters
    exact (drawn_same positive).mp counters
  · have same : ((deletePayment .exact (createdID db request)).commit created).activeShift = db.activeShift := by
      rw [drawer]
      split
      · rename_i both
        exact drawn_unmoved (revocable.cash both.1 both.2)
      · rfl
    refine ⟨?_, by rw [same], by rw [getActiveShift_kept same moves], payments⟩
    rw [debt]
    split
    · rfl
    · rename_i named
      cases there : debtOf db request.customerID with
      | none => rfl
      | some owed => exact congrArg some ((clampSub_restored positive).mpr (revocable.debt named owed there))

section Shop

/-- A payment of 500 that belongs to no sale. -/
def standalonePayment (customerID : String) (method : PaymentMethod) : Payment :=
  ⟨0, "", customerID, 500, method, .plain "", 0, "sara", 0⟩

end Shop

theorem payment_deleted_ali :
    PaymentUndone "ali" owedTeas ((deletePayment .exact (createdID owedTeas (standalonePayment "ali" .cash))).commit
      ((createPayment .exact till (standalonePayment "ali" .cash) false).commit owedTeas)) := by
  have accepted : (createPayment .exact till (standalonePayment "ali" .cash) false).accepts owedTeas := by decide +kernel
  have debt : ∀ owed ∈ debtOf owedTeas "ali", 500 ≤ owed := by decide +kernel
  exact (payment_deleted (does_accepted accepted) rfl).2.mpr ⟨fun _ => debt, fun anonymous => absurd anonymous (by decide)⟩

/-- The cash of a payment without a customer stays in the shift, and a customer who paid more
than he owed owes the whole amount afterwards. -/
theorem payment_deleted_cash :
    (createPayment .exact till (standalonePayment "" .cash) false).accepts shop ∧
    (((deletePayment .exact 1).commit ((createPayment .exact till (standalonePayment "" .cash) false).commit shop)).activeShift.map
      Shift.cashSales) = some 500 ∧
    shop.activeShift.map Shift.cashSales = some 0 ∧
    (createPaymentForced .exact till (standalonePayment "ali" .card)).accepts shop ∧
    debtOf ((deletePayment .exact 1).commit ((createPaymentForced .exact till (standalonePayment "ali" .card)).commit shop)) "ali" =
      some 500 ∧
    debtOf shop "ali" = some 0 := by
  refine ⟨?_, ?_, ?_, ?_, ?_, ?_⟩ <;> decide +kernel

end BeidarPos
