import BeidarPos.Crm
import Mathlib.Logic.Relation

/-! The life of a shift over whole runs. Only opening and closing write a whole shift row,
and every counter update goes to the shift that is open in the same transaction, so a
closed row stays as its closing left it. -/
namespace BeidarPos

open Machine Relational Journal Tx

def OneOpen (db : Store) : Prop :=
  ∀ a ∈ db.shifts.rows, ∀ b ∈ db.shifts.rows, a.status = .open → b.status = .open → a = b

def Store.movementsOf (db : Store) (shiftID : String) : List CashMovement :=
  db.cashMovements.rows.filter fun m => m.shiftID = shiftID

/-- The two balances of a closed shift, from its own columns and its cash movements. -/
structure Settled (w : Word) (db : Store) (shift : Shift) : Prop where
  expected : shift.expectedBalance = expectedBalance w db shift
  variance : shift.variance = w.sub shift.closingBalance shift.expectedBalance

theorem getCashInAndOut_kept {db later : Store} {id : String} (same : later.movementsOf id = db.movementsOf id) :
    later.getCashInAndOut id = db.getCashInAndOut id := by
  have split : ∀ (db : Store) (type : MoveType),
      (db.cashMovements.rows.filter fun m => m.shiftID = id ∧ m.type = type) =
        (db.movementsOf id).filter fun m => m.type = type := by
    intro db type
    simp only [Store.movementsOf, List.filter_filter, Bool.decide_and]
    exact List.filter_congr fun m _ => Bool.and_comm _ _
  simp only [Store.getCashInAndOut, split, same]

theorem Settled.kept {w : Word} {db later : Store} {shift : Shift} (settled : Settled w db shift)
    (same : later.movementsOf shift.id = db.movementsOf shift.id) : Settled w later shift where
  expected := by
    rw [settled.expected]
    simp only [expectedBalance, getCashInAndOut_kept same]
  variance := settled.variance

/-- Every closed shift of the first store is in the second as it was, with its cash movements. -/
def ClosedKept (db later : Store) : Prop :=
  ∀ id shift, db.shifts.find? id = some shift → shift.status = .closed →
    later.shifts.find? id = some shift ∧ later.movementsOf id = db.movementsOf id

theorem ClosedKept.refl (db : Store) : ClosedKept db db := fun _ _ found _ => ⟨found, rfl⟩

theorem ClosedKept.trans {db middle later : Store} (first : ClosedKept db middle) (second : ClosedKept middle later) :
    ClosedKept db later := by
  intro id shift found closed
  obtain ⟨kept, moves⟩ := first id shift found closed
  obtain ⟨last, more⟩ := second id shift kept closed
  exact ⟨last, more.trans moves⟩

structure ShiftBooks (w : Word) (db : Store) : Prop where
  oneOpen : OneOpen db
  settled : ∀ id shift, db.shifts.find? id = some shift → shift.status = .closed → Settled w db shift

section Counters

/-- The cash movements stay, and so does every shift but for counters of open ones. -/
structure Stirs (db final : Store) : Prop where
  moves : final.cashMovements = db.cashMovements
  shifts : ∀ id, final.shifts.find? id = db.shifts.find? id ∨ ∃ old new, db.shifts.find? id = some old ∧
    final.shifts.find? id = some new ∧ old.status = .open ∧ new.status = .open

theorem Stirs.of_same {db final : Store} (shifts : final.shifts = db.shifts)
    (moves : final.cashMovements = db.cashMovements) : Stirs db final :=
  ⟨moves, fun _ => .inl (by rw [shifts])⟩

theorem Stirs.trans {db middle final : Store} (first : Stirs db middle) (second : Stirs middle final) :
    Stirs db final where
  moves := second.moves.trans first.moves
  shifts := by
    intro id
    rcases first.shifts id with same | ⟨old, new, found, kept, before, after⟩
    · rw [← same]
      exact second.shifts id
    · rcases second.shifts id with same | ⟨old', new', found', kept', _, after'⟩
      · exact .inr ⟨old, new, found, same.trans kept, before, after⟩
      · exact .inr ⟨old, new', found, kept', before, after'⟩

theorem Stirs.closed {db final : Store} (stirs : Stirs db final) {id : String} {shift : Shift}
    (closed : shift.status = .closed) : final.shifts.find? id = some shift ↔ db.shifts.find? id = some shift := by
  rcases stirs.shifts id with same | ⟨old, new, found, kept, before, after⟩
  · rw [same]
  · constructor
    · intro here
      rw [kept, Option.some.injEq] at here
      subst here
      rw [closed] at after
      cases after
    · intro here
      rw [found, Option.some.injEq] at here
      subst here
      rw [closed] at before
      cases before

theorem Stirs.closedKept {db final : Store} (stirs : Stirs db final) : ClosedKept db final := by
  intro id shift found closed
  refine ⟨(stirs.closed closed).mpr found, ?_⟩
  simp only [Store.movementsOf, stirs.moves]

theorem Stirs.oneOpen {db final : Store} (stirs : Stirs db final) (one : OneOpen db) : OneOpen final := by
  have before : ∀ s ∈ final.shifts.rows, s.status = .open →
      ∃ old ∈ db.shifts.rows, old.status = .open ∧ old.id = s.id := by
    intro s member opened
    have found := Table.find?_of_mem member
    rcases stirs.shifts s.id with same | ⟨old, _, stored, _, earlier, _⟩
    · exact ⟨s, Table.find?_mem (same.symm.trans found), opened, rfl⟩
    · exact ⟨old, Table.find?_mem stored, earlier, Table.find?_key stored⟩
  intro a first b second open₁ open₂
  obtain ⟨old₁, member₁, opened₁, id₁⟩ := before a first open₁
  obtain ⟨old₂, member₂, opened₂, id₂⟩ := before b second open₂
  refine Table.unique_row first second ?_
  rw [← id₁, ← id₂, one old₁ member₁ old₂ member₂ opened₁ opened₂]

theorem Stirs.books {w : Word} {db final : Store} (stirs : Stirs db final) (books : ShiftBooks w db) :
    ShiftBooks w final where
  oneOpen := stirs.oneOpen books.oneOpen
  settled := by
    intro id shift found closed
    have stored := (stirs.closed closed).mp found
    refine (books.settled id shift stored closed).kept ?_
    simp only [Store.movementsOf, stirs.moves]

/-- Every write but a whole shift row and a cash movement. -/
def Write.Calm : Write → Prop
  | .saveShift _ | .createCashMovement _ => False
  | _ => True

theorem modify_open_stirs {db : Store} {id : String} {f : Shift → Shift} {keeps : ∀ s, (f s).id = s.id}
    (opened : db.openShiftID = some id) (status : ∀ s, (f s).status = s.status) :
    Stirs db { db with shifts := db.shifts.modify id f keeps } := by
  obtain ⟨shift, active, rfl, _⟩ := openShiftID_some opened
  have stored : db.shifts.find? shift.id = some shift := Table.find?_of_mem (List.mem_of_find?_eq_some active)
  have live : shift.status = .open := by simpa using List.find?_some active
  refine ⟨rfl, fun other => ?_⟩
  by_cases same : other = shift.id
  · subst same
    refine .inr ⟨shift, f shift, stored, ?_, live, (status shift).trans live⟩
    simp only [Table.find?_modify_same, stored, Option.map_some]
  · exact .inl (@Table.find?_modify_other _ _ _ _ _ _ keeps _ _ same)

/-- The counters a sale or a refund moves are those of the open shift. -/
theorem write_stirs {v : Write} {db final : Store} (calm : v.Calm) (h : v.apply db = .ok final) : Stirs db final := by
  cases v with
  | saveShift => exact absurd calm id
  | createCashMovement => exact absurd calm id
  | updateShiftSales total cash isNew need =>
    rw [updateShiftSales_ok h]
    unfold salesOnShift
    split
    · exact .of_same rfl rfl
    · rename_i opened
      exact modify_open_stirs opened fun _ => rfl
  | updateShiftRefunds total cash full =>
    cases h
    rw [updateShiftRefunds_eq]
    unfold refundsOnShift
    split
    · exact .of_same rfl rfl
    · rename_i opened
      exact modify_open_stirs opened fun _ => rfl
  | _ => first
    | (obtain ⟨_, rfl⟩ := apply_tables h; exact .of_same rfl rfl)
    | (obtain ⟨_, _, rfl⟩ := apply_tables h; exact .of_same rfl rfl)

def CrmWrite.Calm : CrmWrite → Prop
  | .shop v => v.Calm
  | _ => True

theorem apply_stirs {v : CrmWrite} {db final : Store} (calm : v.Calm) (h : v.apply db = .ok final) :
    Stirs db final := by
  cases v with
  | shop v => exact write_stirs calm h
  | createCustomer c =>
    simp only [CrmWrite.apply, Store.createCustomer] at h
    split at h
    · cases h
      exact .of_same rfl rfl
    · cases h
  | updateCustomer => cases h; exact .of_same rfl rfl
  | deletePayment => cases h; exact .of_same rfl rfl

theorem replay_stirs {ws : List CrmWrite} {db final : Store} (calm : ∀ v ∈ ws, v.Calm)
    (h : replay CrmWrite.apply ws db = .ok final) : Stirs db final :=
  replay_keeps h (.of_same rfl rfl) fun v member _ _ before applied => before.trans (apply_stirs (calm v member) applied)

end Counters

section Journals

/-- A journal that writes neither a whole shift row nor a cash movement. -/
def CalmJournal (ws : List Write) : Prop := ∀ v ∈ ws, v.Calm

theorem CalmJournal.append {front back : List Write} (first : CalmJournal front) (second : CalmJournal back) :
    CalmJournal (front ++ back) := by
  intro v member
  rcases List.mem_append.mp member with inside | inside
  · exact first v inside
  · exact second v inside

theorem calm_elsewhere {areas : List Area} {ws : List Write} (confined : Confined areas ws)
    (shifts : Area.shifts ∉ areas) (cash : Area.cash ∉ areas) : CalmJournal ws := by
  intro v member
  cases v with
  | saveShift => exact absurd (confined _ member) shifts
  | createCashMovement => exact absurd (confined _ member) cash
  | _ => trivial

theorem calm_sale (w : Word) (env : Env) (db : Store) (request : Sale) :
    CalmJournal (saleJournal w env db request) := by
  obtain ⟨front, back, parts, first, last⟩ := saleJournal_parts w env db request
  rw [parts]
  refine (calm_elsewhere first (by decide) (by decide)).append
    ((calm_elsewhere (confined_charge _ _ _) (by decide) (by decide)).append
      ((calm_elsewhere (confined_payments _ _ _) (by decide) (by decide)).append ?_))
  intro v member
  rcases List.mem_cons.mp member with rfl | inside
  · trivial
  · exact calm_elsewhere last (by decide) (by decide) v inside

theorem calm_closing (w : Word) (env : Env) (sale : Sale) (overpay : Int) :
    CalmJournal (closingWrites w env sale overpay) := by
  unfold closingWrites
  split <;> simp [CalmJournal, Write.Calm]

theorem calm_return (w : Word) (env : Env) (products : Table Product.id) (debt : Option Int) (sale : Sale) :
    CalmJournal (returnJournal w env products debt sale) :=
  (((calm_elsewhere (confined_restock _ _ _ _) (by decide) (by decide)).append
    (calm_elsewhere (confined_balances _ _ _ _) (by decide) (by decide))).append
    (calm_elsewhere (confined_ledger _ _ _) (by decide) (by decide))).append (calm_closing _ _ _ _)

theorem calm_partial (w : Word) (env : Env) (db : Store) (saleID productID : String) (qtyToReturn : ℚ)
    (item : SaleItem) (sale : Sale) : CalmJournal (partialJournal w env db saleID productID qtyToReturn item sale) := by
  have line : CalmJournal [.updateSaleItem (returnedLine item qtyToReturn)] := by simp [CalmJournal, Write.Calm]
  refine line.append ((((calm_elsewhere (confined_partialStock _ _ _ _ _ _) (by decide) (by decide)).append
    (calm_elsewhere (confined_partialBalances _ _ _ _ _ _ _) (by decide) (by decide))).append
    (calm_elsewhere (confined_partialLedger _ _ _ _ _) (by decide) (by decide))).append ?_)
  simp [CalmJournal, Write.Calm]

theorem calm_cashIn (prefs : Option AppPreferences) (method : PaymentMethod) (amount : Int) :
    CalmJournal (cashInWrites prefs method amount) := by
  unfold cashInWrites
  split <;> simp [CalmJournal, Write.Calm]

theorem calm_payment (env : Env) (prefs : Option AppPreferences) (request : Payment) :
    CalmJournal (paymentJournal env prefs request) := by
  have row : CalmJournal (.createPayment { request with timestamp := env.millis } :: debtPaymentWrites request) := by
    unfold debtPaymentWrites
    split <;> simp [CalmJournal, Write.Calm]
  exact row.append (calm_cashIn _ _ _)

theorem calm_installment (env : Env) (prefs : Option AppPreferences) (index : Nat) (method : PaymentMethod)
    (sale : Sale) (plan : InstallmentPlan) (inst : Installment) :
    CalmJournal (installmentJournal env prefs index method sale plan inst) := by
  have rows : CalmJournal (.updateSaleInstallmentPlan sale.id (paidPlan env index plan)
      (if allPaid (paidPlan env index plan) then .paid else sale.status) ::
      .createPayment (installmentRow env sale.toSaleRow inst.amount method index) ::
      installmentDebtPaid sale.toSaleRow inst.amount) := by
    unfold installmentDebtPaid
    split <;> simp [CalmJournal, Write.Calm]
  exact rows.append (calm_cashIn _ _ _)

/-- Of the counter's calls only a cash movement is not calm. -/
theorem counter_calm {w : Word} {c : Call} {db final : Store} (h : Does (c.body w env) db () ws final)
    (other : ∀ shiftID moveType reason staffID staffName amount,
      c ≠ .addCashMovement shiftID moveType reason staffID staffName amount) : CalmJournal ws := by
  cases c with
  | processSale actor request =>
    obtain ⟨_, rfl⟩ := processSaleAs_does h
    exact calm_sale _ _ _ _
  | returnSale id =>
    obtain ⟨sale, _, _, _, rfl⟩ := returnSale_does h
    exact calm_return _ _ _ _ _
  | returnSalePartial saleID productID qty =>
    obtain ⟨item, sale, _, rfl⟩ := returnSalePartial_does h
    exact calm_partial _ _ _ _ _ _ _ _
  | createPayment request =>
    obtain ⟨_, rfl⟩ := createPayment_does h
    exact calm_payment _ _ _
  | createPaymentForced request =>
    obtain ⟨_, rfl⟩ := createPayment_does h
    exact calm_payment _ _ _
  | payInstallment saleID index amount method =>
    obtain ⟨sale, plan, inst, _, rfl⟩ := payInstallment_does h
    exact calm_installment _ _ _ _ _ _ _
  | addCashMovement => exact absurd rfl (other _ _ _ _ _ _)

theorem deletePayment_calm {w : Word} {db final : Store} {id : Nat} (h : Does (deletePayment w id) db u ws final) :
    ∀ v ∈ ws, v.Calm := by
  intro v member
  rcases deletePayment_writes h v member with ⟨_, _, rfl⟩ | ⟨_, rfl⟩ | rfl <;> simp [CrmWrite.Calm, Write.Calm]

end Journals

section Calls

theorem openShift_does {env : Env} {staffID staffName : String} {openingBalance : Int} {db final : Store}
    (h : Does (openShift env staffID staffName openingBalance) db u ws final) :
    db.activeShift = none ∧ ∃ shift, shift.id = env.freshID ∧ shift.status = .open ∧ final = db.saveShift shift ∧
      shift.openingBalance = openingBalance ∧ shift.cashSales = 0 := by
  unfold openShift at h
  rw [does_ask_bind, does_ensure_bind, does_write] at h
  obtain ⟨none, _, saved⟩ := h
  cases saved
  exact ⟨none, _, rfl, rfl, rfl, rfl, rfl⟩

theorem closeShift_does {w : Word} {env : Env} {session : Option (String × Role)} {shiftID note : String}
    {closingBalance : Int} {db final : Store}
    (h : Does (closeShift w env session shiftID closingBalance note) db u ws final) :
    ∃ shift closed, final = db.saveShift closed ∧ db.shifts.find? shiftID = some shift ∧ shift.status = .open ∧
      closed.id = shiftID ∧ closed.status = .closed ∧ Settled w db closed ∧ closed.openingBalance = shift.openingBalance ∧
        closed.cashSales = shift.cashSales ∧ closed.closingBalance = closingBalance := by
  unfold closeShift at h
  rw [does_ask_bind, does_require_bind] at h
  obtain ⟨shift, found, h⟩ := h
  rw [does_ensure_bind, does_ensure_bind, does_ask_bind, does_write] at h
  obtain ⟨opened, _, _, saved⟩ := h
  cases saved
  have key : shift.id = shiftID := Table.find?_key found
  exact ⟨shift, _, rfl, found, opened, key, rfl, ⟨rfl, rfl⟩, rfl, rfl, rfl⟩

theorem cashMovement_does {env : Env} {shiftID reason staffID staffName : String} {moveType : MoveType} {amount : Int}
    {db final : Store} (h : Does (addCashMovement env shiftID moveType reason staffID staffName amount) db u ws final) :
    ∃ shift move, db.shifts.find? shiftID = some shift ∧ shift.status = .open ∧ move.shiftID = shiftID ∧
      db.createCashMovement move = .ok final := by
  unfold addCashMovement at h
  rw [does_ensure_bind, does_ensure_bind, does_ask_bind, does_require_bind] at h
  obtain ⟨_, _, shift, found, h⟩ := h
  rw [does_ensure_bind, does_write] at h
  obtain ⟨opened, _, created⟩ := h
  exact ⟨shift, _, found, opened, rfl, created⟩

theorem find?_saveShift (db : Store) (shift : Shift) (id : String) :
    (db.saveShift shift).shifts.find? id = if id = shift.id then some shift else db.shifts.find? id := by
  unfold Store.saveShift
  cases inserted : db.shifts.insert? shift with
  | some shifts => exact Table.find?_insert inserted id
  | none =>
    obtain ⟨old, stored⟩ := Table.insert?_none.mp inserted
    refine Table.find?_put.trans ?_
    split
    · rename_i same
      rw [same, stored, Option.map_some]
    · rfl

theorem movementsOf_saveShift (db : Store) (shift : Shift) (id : String) :
    (db.saveShift shift).movementsOf id = db.movementsOf id := by
  obtain ⟨shifts, saved⟩ := saveShift_tables db shift
  simp only [Store.movementsOf, saved]

theorem activeShift_none {db : Store} (none : db.activeShift = none) {id : String} {shift : Shift}
    (found : db.shifts.find? id = some shift) : shift.status ≠ .open := by
  have absent := List.find?_eq_none.mp none shift (Table.find?_mem found)
  simpa using absent

theorem opened_keeps {w : Word} {db : Store} {shift : Shift} (books : ShiftBooks w db) (none : db.activeShift = none)
    (fresh : db.shifts.find? shift.id = .none) (opened : shift.status = .open) :
    ShiftBooks w (db.saveShift shift) ∧ ClosedKept db (db.saveShift shift) := by
  have stored := find?_saveShift db shift
  have moves := movementsOf_saveShift db shift
  refine ⟨⟨?_, ?_⟩, ?_⟩
  · have only : ∀ s ∈ (db.saveShift shift).shifts.rows, s.status = .open → s = shift := by
      intro s member live
      have found := (stored s.id).symm.trans (Table.find?_of_mem member)
      split at found
      · exact (Option.some.inj found).symm
      · exact absurd live (activeShift_none none found)
    intro a first b second open₁ open₂
    rw [only a first open₁, only b second open₂]
  · intro id s found closed
    rw [stored] at found
    split at found
    · cases found
      rw [opened] at closed
      cases closed
    · exact (books.settled id s found closed).kept (moves _)
  · intro id s found closed
    have other : id ≠ shift.id := by
      rintro rfl
      rw [fresh] at found
      cases found
    exact ⟨(stored id).trans ((if_neg other).trans found), moves id⟩

theorem closed_keeps {w : Word} {db : Store} {shift closed : Shift} (books : ShiftBooks w db)
    (found : db.shifts.find? closed.id = some shift) (opened : shift.status = .open) (done : closed.status = .closed)
    (settled : Settled w db closed) : ShiftBooks w (db.saveShift closed) ∧ ClosedKept db (db.saveShift closed) := by
  have stored := find?_saveShift db closed
  have moves := movementsOf_saveShift db closed
  refine ⟨⟨?_, ?_⟩, ?_⟩
  · have old : ∀ s ∈ (db.saveShift closed).shifts.rows, s.status = .open → s ∈ db.shifts.rows := by
      intro s member live
      have here := (stored s.id).symm.trans (Table.find?_of_mem member)
      split at here
      · cases here
        rw [done] at live
        cases live
      · exact Table.find?_mem here
    intro a first b second open₁ open₂
    exact books.oneOpen a (old a first open₁) b (old b second open₂) open₁ open₂
  · intro id s here shut
    rw [stored] at here
    split at here
    · cases here
      exact settled.kept (moves _)
    · exact (books.settled id s here shut).kept (moves _)
  · intro id s here shut
    have other : id ≠ closed.id := by
      rintro rfl
      rw [found] at here
      cases here
      rw [opened] at shut
      cases shut
    exact ⟨(stored id).trans ((if_neg other).trans here), moves id⟩

/-- A cash movement joins an open shift, so those of a closed one stay. -/
theorem moved_keeps {w : Word} {db final : Store} {shift : Shift} {move : CashMovement} (books : ShiftBooks w db)
    (found : db.shifts.find? move.shiftID = some shift) (opened : shift.status = .open)
    (created : db.createCashMovement move = .ok final) : ShiftBooks w final ∧ ClosedKept db final := by
  obtain ⟨moves, inserted, rfl⟩ := createCashMovement_ok created
  have kept : ∀ id s, db.shifts.find? id = some s → s.status = .closed →
      ({ db with cashMovements := moves } : Store).movementsOf id = db.movementsOf id := by
    intro id s here shut
    have other : move.shiftID ≠ id := by
      rintro rfl
      rw [found] at here
      cases here
      rw [opened] at shut
      cases shut
    simp [Store.movementsOf, (Table.insert?_rows inserted).1, other]
  refine ⟨⟨books.oneOpen, fun id s here shut => ?_⟩, fun id s here shut => ⟨here, kept id s here shut⟩⟩
  have same : s.id = id := Table.find?_key here
  subst same
  exact (books.settled _ s here shut).kept (kept _ s here shut)

end Calls

/-- Everything that touches shifts and the drawer. -/
inductive ShiftCall where
  | openShift (staffID staffName : String) (openingBalance : Int)
  | closeShift (session : Option (String × Role)) (shiftID : String) (closingBalance : Int) (note : String)
  | deletePayment (id : Nat)
  | counter (call : Call)

def ShiftCall.body (w : Word) (env : Env) : ShiftCall → CrmTx Unit
  | .openShift staffID staffName openingBalance =>
    counterPart.lift (BeidarPos.openShift env staffID staffName openingBalance)
  | .closeShift session shiftID closingBalance note =>
    counterPart.lift (BeidarPos.closeShift w env session shiftID closingBalance note)
  | .deletePayment id => BeidarPos.deletePayment w id
  | .counter call => counterPart.lift (call.body w env)

/-- The identifier drawn for a new shift is not one of a stored shift. -/
def ShiftCall.Fresh (env : Env) (db : Store) : ShiftCall → Prop
  | .openShift _ _ _ => db.shifts.find? env.freshID = none
  | _ => True

/-- One call, accepted or not, or any change elsewhere. -/
inductive ShiftStep (w : Word) : Store → Store → Prop
  | call (env : Env) (c : ShiftCall) (db : Store) : c.Fresh env db → ShiftStep w db ((c.body w env).commit db)
  | elsewhere (db final : Store) :
    final.shifts = db.shifts → final.cashMovements = db.cashMovements → ShiftStep w db final

theorem accepted_keeps {w : Word} {env : Env} {c : ShiftCall} {db final : Store} (books : ShiftBooks w db)
    (fresh : c.Fresh env db) (h : Does (c.body w env) db () ws final) : ShiftBooks w final ∧ ClosedKept db final := by
  cases c with
  | openShift staffID staffName openingBalance =>
    obtain ⟨_, _, does, _, rfl⟩ := counterPart.does_lift.mp h
    obtain ⟨none, shift, drawn, opened, rfl, _⟩ := openShift_does does
    exact opened_keeps books none (by rw [drawn]; exact fresh) opened
  | closeShift session shiftID closingBalance note =>
    obtain ⟨_, _, does, _, rfl⟩ := counterPart.does_lift.mp h
    obtain ⟨shift, closed, rfl, found, opened, rfl, done, settled, _⟩ := closeShift_does does
    exact closed_keeps books found opened done settled
  | deletePayment id =>
    have stirs := replay_stirs (deletePayment_calm h) h.replays
    exact ⟨stirs.books books, stirs.closedKept⟩
  | counter call =>
    by_cases cash : ∃ shiftID moveType reason staffID staffName amount,
        call = .addCashMovement shiftID moveType reason staffID staffName amount
    · obtain ⟨shiftID, moveType, reason, staffID, staffName, amount, rfl⟩ := cash
      obtain ⟨_, _, does, _, rfl⟩ := counterPart.does_lift.mp h
      obtain ⟨shift, move, found, opened, rfl, created⟩ := cashMovement_does does
      exact moved_keeps books found opened created
    · obtain ⟨inner, _, does, rfl, _⟩ := counterPart.does_lift.mp h
      have calm := counter_calm does fun _ _ _ _ _ _ same => cash ⟨_, _, _, _, _, _, same⟩
      have stirs : Stirs db final := by
        refine replay_stirs ?_ h.replays
        intro v member
        obtain ⟨shop, inside, rfl⟩ := List.mem_map.mp member
        exact calm shop inside
      exact ⟨stirs.books books, stirs.closedKept⟩

theorem step_keeps {w : Word} {db final : Store} (books : ShiftBooks w db) (step : ShiftStep w db final) :
    ShiftBooks w final ∧ ClosedKept db final := by
  cases step with
  | call env c _ fresh =>
    by_cases accepted : (c.body w env).accepts db
    · exact accepted_keeps books fresh (does_accepted accepted)
    · rw [(commit_rejected accepted).1]
      exact ⟨books, .refl db⟩
  | elsewhere _ _ shifts moves =>
    have stirs := Stirs.of_same shifts moves
    exact ⟨stirs.books books, stirs.closedKept⟩

theorem run_keeps_shifts {w : Word} {db later : Store} (books : ShiftBooks w db)
    (run : Relation.ReflTransGen (ShiftStep w) db later) : ShiftBooks w later ∧ ClosedKept db later := by
  induction run with
  | refl => exact ⟨books, .refl db⟩
  | tail _ step ih =>
    obtain ⟨middle, kept⟩ := ih
    obtain ⟨last, more⟩ := step_keeps middle step
    exact ⟨last, kept.trans more⟩

/-- From a store without shifts on, at most one shift is open, and a closed one keeps its
row, its cash movements and the two balances they give, whatever follows. -/
theorem shift_lifecycle (w : Word) {start db : Store} (new : start.shifts.rows = [])
    (run : Relation.ReflTransGen (ShiftStep w) start db) :
    OneOpen db ∧ ∀ id shift, db.shifts.find? id = some shift → shift.status = .closed →
      ∀ later, Relation.ReflTransGen (ShiftStep w) db later →
        later.shifts.find? id = some shift ∧ later.movementsOf id = db.movementsOf id ∧ Settled w later shift := by
  have begun : ShiftBooks w start := by
    refine ⟨?_, ?_⟩
    · intro a member
      rw [new] at member
      cases member
    · intro id shift found
      have member := Table.find?_mem found
      rw [new] at member
      cases member
  obtain ⟨books, _⟩ := run_keeps_shifts begun run
  refine ⟨books.oneOpen, ?_⟩
  intro id shift found closed later onward
  obtain ⟨after, kept⟩ := run_keeps_shifts books onward
  obtain ⟨stored, moves⟩ := kept id shift found closed
  exact ⟨stored, moves, after.settled id shift stored closed⟩

section Day

/-- The shop before its first shift. -/
def unopened : Store := { shop with shifts := .empty }

def opened : Store := ((ShiftCall.openShift "sara" "Sara" 5000).body .exact till).commit unopened

/-- Two teas for cash. -/
def traded : Store :=
  ((ShiftCall.counter (.processSale sara (teaSale "s1" "" .cash none none 2))).body .exact till).commit opened

/-- A hundred is missing at the count. -/
def counted : Store := ((ShiftCall.closeShift (some ("sara", .cashier)) "fresh" 6900 "").body .exact till).commit traded

end Day

theorem shift_lifecycle_day : OneOpen counted ∧ ∃ shift, counted.shifts.find? "fresh" = some shift ∧
    shift.expectedBalance = 7000 ∧ shift.variance = -100 ∧ Settled .exact counted shift := by
  have opening : ShiftStep .exact unopened opened := .call till _ unopened (by rfl)
  have trading : ShiftStep .exact opened traded := .call till _ opened trivial
  have counting : ShiftStep .exact traded counted := .call till _ traded trivial
  have day : Relation.ReflTransGen (ShiftStep .exact) unopened counted :=
    ((Relation.ReflTransGen.single opening).tail trading).tail counting
  obtain ⟨one, kept⟩ := shift_lifecycle .exact rfl day
  have stored : counted.shifts.find? "fresh" =
      some ⟨"fresh", "sara", "Sara", 0, 0, 5000, 6900, 7000, -100, .closed, 2000, 2000, 1, ""⟩ := by decide +kernel
  obtain ⟨_, _, settled⟩ := kept _ _ stored rfl counted .refl
  exact ⟨one, _, stored, rfl, rfl, settled⟩

end BeidarPos
