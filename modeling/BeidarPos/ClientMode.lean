import BeidarPos.Handlers

/-! Runs of handler calls on a machine that is a client of another one. What is sent to the
server leaves the tables of this machine as they are; a method that never asks for the
client mode writes them as if there were no server. -/
namespace BeidarPos

open Machine Relational Journal Tx

/-- A call of any method. `elsewhere` is one that reads, or writes other tables only: the
staff, the settings, the licence, the LAN service. -/
inductive DesktopCall where
  | handler (call : HandlerCall)
  | elsewhere (next : LocalTables → LocalTables) (kept : ∀ t, (next t).business = t.business)

/-- A call with what it finds; between two calls the session, the clock and the server may
change in any way. -/
structure DesktopTurn where
  desk : Desk
  call : DesktopCall

namespace DesktopTurn

variable (s : Services)

def next (turn : DesktopTurn) (t : LocalTables) : LocalTables :=
  match turn.call with
  | .handler call => ((call.handled s).run turn.desk t).2
  | .elsewhere next _ => next t

def run (turns : List DesktopTurn) (t : LocalTables) : LocalTables :=
  turns.foldl (fun t turn => turn.next s t) t

/-- The call is of a method that never asks for the client mode, and its check passes. -/
def Unasked (turn : DesktopTurn) : Prop :=
  ∃ call, turn.call = .handler call ∧ call.forwards = false ∧ (call.handled s).check turn.desk.session = .ok ()

end DesktopTurn

section Frame

variable {s : Services}

theorem handled_forward (call : HandlerCall) : (call.handled s).forward.isSome = call.forwards := by
  cases call <;> rfl

/-- A client's call that is refused, or that is sent, leaves every table as it is. -/
theorem forwarded_keeps {h : Handled} {desk : Desk} (client : desk.lan.clientMode = true)
    (kept : h.forward.isSome = true ∨ h.check desk.session ≠ .ok ()) (t : LocalTables) : (h.run desk t).2 = t := by
  unfold Handled.run
  cases checked : h.check desk.session with
  | error e => rfl
  | ok _ =>
    rcases kept with forwards | refused
    · obtain ⟨call, sent⟩ := Option.isSome_iff_exists.mp forwards
      simp [sent, client]
    · exact absurd checked refused

/-- A method that does not ask does on a client what it does anywhere. -/
theorem unasked_works {h : Handled} {desk : Desk} (silent : h.forward = none)
    (allowed : h.check desk.session = .ok ()) (t : LocalTables) : h.run desk t = h.work desk t := by
  simp only [Handled.run, allowed, silent]

theorem turn_keeps {turn : DesktopTurn} (client : turn.desk.lan.clientMode = true) (asked : ¬ turn.Unasked s)
    (t : LocalTables) : (turn.next s t).business = t.business := by
  unfold DesktopTurn.next
  cases called : turn.call with
  | elsewhere next kept => exact kept t
  | handler call =>
    refine congrArg LocalTables.business (forwarded_keeps client ?_ t)
    by_cases forwards : call.forwards = true
    · exact .inl ((handled_forward call).trans forwards)
    · refine .inr fun allowed => asked ⟨call, called, ?_, allowed⟩
      simpa using forwards

end Frame

/-- While the machine is a client and no call is of a method that never asks, the business
tables stay as they are, whatever the services and the server do. -/
theorem client_mode_isolated (s : Services) (turns : List DesktopTurn) (t : LocalTables)
    (client : ∀ turn ∈ turns, turn.desk.lan.clientMode = true) (asked : ∀ turn ∈ turns, ¬ turn.Unasked s) :
    ∀ front back, turns = front ++ back → (DesktopTurn.run s front t).business = t.business := by
  intro front
  induction front using List.reverseRecOn with
  | nil => exact fun _ _ => rfl
  | append_singleton front turn ih =>
    intro back split
    have member : turn ∈ turns := by simp [split]
    have before := ih (turn :: back) (by simpa using split)
    have moved : DesktopTurn.run s (front ++ [turn]) t = turn.next s (DesktopTurn.run s front t) := by
      simp [DesktopTurn.run]
    rw [moved, turn_keeps (client turn member) (asked turn member), before]

section Application

/-- The work of a transaction on a part of the tables; one that fails changes nothing. -/
def Work.ofTx {ω σ : Type} {apply : ω → σ → Except Failure σ} (get : LocalTables → σ)
    (set : LocalTables → σ → LocalTables) (x : Desk → Tx apply Unit) : Work := fun desk t =>
  match (x desk).run (get t) with
  | .error e => (.error e, t)
  | .ok (_, _, final) => (.ok (), set t final)

def LocalTables.store (t : LocalTables) : Store := t.depot.store

def LocalTables.withDepot (t : LocalTables) (d : Depot) : LocalTables := { t with depot := d }

def LocalTables.withStore (t : LocalTables) (db : Store) : LocalTables := t.withDepot { t.depot with store := db }

def Work.onStore {ω : Type} {apply : ω → Store → Except Failure Store} (x : Desk → Tx apply Unit) : Work :=
  .ofTx LocalTables.store LocalTables.withStore x

def Work.onDepot {ω : Type} {apply : ω → Depot → Except Failure Depot} (x : Desk → Tx apply Unit) : Work :=
  .ofTx LocalTables.depot LocalTables.withDepot x

/-- A single statement on the store. -/
def Work.statement (f : Store → Except Failure Store) : Work := fun _ t =>
  match f t.store with
  | .error e => (.error e, t)
  | .ok db => (.ok (), t.withStore db)

variable (w : Word)

def saleServiceOf : SaleService where
  processSale request := .onStore fun desk => processSaleAs w desk.env desk.session.actor request
  returnSale id := .onStore fun desk => returnSale w desk.env id
  returnSalePartial saleID productID qty := .onStore fun desk => returnSalePartial w desk.env saleID productID qty
  deleteSale _ := fun _ t => (.error (AppError.texts .sales "SALE_DELETION_DISABLED"
    (.plain "لا يمكن حذف الفواتير - استخدم خيار الإرجاع بدلاً من ذلك")
    "الفواتير سجلات مالية لا يمكن حذفها. استخدم 'إرجاع الفاتورة' للاسترداد" "id"), t)
  parkSale input := fun desk t =>
    (.ok (), { t with parkedSales := t.parkedSales.append (input.toParkedSale desk.env.unix) (fun _ => rfl) })
  retrieveParkedSale id := fun _ t =>
    match t.parkedSales.find? id with
    | none => (.error .recordNotFound, t)
    | some sale => (.ok (), { t with parkedSales := t.parkedSales.delete sale.id })
  deleteParkedSale id := fun _ t => (.ok (), { t with parkedSales := t.parkedSales.delete id })

def paymentServiceOf : PaymentService where
  createPayment request := .onStore fun desk => createPayment w desk.env request false
  createPaymentForced request := .onStore fun desk => createPaymentForced w desk.env request
  deletePayment id := .onStore fun _ => deletePayment w id
  payInstallment saleID index amount method := .onStore fun desk => payInstallment w desk.env saleID index amount method

/-- The finance service without its expenses, categories and preferences. -/
def financeServiceOf (rest : FinanceService) : FinanceService := { rest with
  openShift := fun staffID staffName opening => .onStore fun desk => openShift desk.env staffID staffName opening
  closeShift := fun shiftID closing note => .onStore fun desk =>
    closeShift w desk.env (desk.session.map fun snap => (snap.staff.id, snap.staff.role)) shiftID closing note
  addCashMovement := fun shiftID moveType reason staffID staffName amount => .onStore fun desk =>
    addCashMovement desk.env shiftID moveType reason staffID staffName amount
  createPurchaseOrder := fun order => .onDepot fun desk => createPurchaseOrder w desk.env order
  updatePurchaseOrder := fun order => .onDepot fun _ => updatePurchaseOrder w order
  cancelPurchaseOrder := fun id => .onDepot fun _ => cancelPurchaseOrder w id
  receivePurchaseOrder := fun orderID items => .onDepot fun desk => receivePurchaseOrder desk.env orderID items
  payPurchaseOrder := fun orderID amount _ => .onDepot fun _ => payPurchaseOrder w orderID amount }

def crmServiceOf (rest : CRMService) : CRMService := { rest with
  saveCustomer := fun c => .onStore fun desk => saveCustomer desk.env c
  deleteCustomer := fun id force => .statement (Store.deleteCustomer id force) }

/-- The services as the application builds them; `rest` stands for those not modelled here. -/
def initServices (rest : Services) : Services := { rest with
  sale := saleServiceOf w
  payment := paymentServiceOf w
  finance := financeServiceOf w rest.finance
  crm := crmServiceOf rest.crm
  product := { rest.product with deleteProduct := fun id => .statement (Store.deleteProduct id) } }

end Application

section Office

/-- A second till: a client of the server in the office, which accepts every call. -/
def officeLink : LanLink := ⟨true, "https://10.0.0.1:8081", "token", fun _ => .ok ⟨200, ""⟩⟩

/-- Sara, who may sell and keep the books, at the second till. -/
def secondTill : Desk :=
  ⟨some ⟨⟨"sara", "Sara", "sara", "", false, .cashier, "", "", true, [PermSales, PermFinance], 0, 0, "", ""⟩,
    [PermSales, PermFinance]⟩, officeLink, till⟩

/-- Its own tables, where Ali still owes two teas. -/
def tillTables : LocalTables := ⟨⟨owedTeas, .empty, .empty, .empty⟩, .empty, [], .empty⟩

def sentTurns : List DesktopTurn :=
  [⟨secondTill, .handler (.processSale (teaSale "s2" "" .cash none none 1))⟩,
    ⟨{ secondTill with session := none }, .handler (.parkSale ⟨"[]", "", "", "", 1000, 1⟩)⟩]

/-- A cart is parked, Ali pays half of his debt, and the shift is closed. -/
def unaskedTurns : List DesktopTurn :=
  [⟨secondTill, .handler (.parkSale ⟨"[]", "", "", "", 1000, 1⟩)⟩,
    ⟨secondTill, .handler (.createPayment ⟨0, "", "ali", 1000, .cash, .plain "", 0, "sara", 0⟩)⟩,
    ⟨secondTill, .handler (.closeShift "morning" 6000 "")⟩]

end Office

/-- A sale is sent to the server, and nobody is logged in when a cart is to be parked. -/
theorem client_mode_isolated_sent :
    (DesktopTurn.run (initServices .int64 default) sentTurns tillTables).business = tillTables.business := by
  refine client_mode_isolated (initServices .int64 default) sentTurns tillTables ?_ ?_ sentTurns [] (by simp)
  · intro turn member
    simp only [sentTurns, List.mem_cons, List.not_mem_nil, or_false] at member
    rcases member with rfl | rfl <;> rfl
  · intro turn member
    simp only [sentTurns, List.mem_cons, List.not_mem_nil, or_false] at member
    rcases member with rfl | rfl
    · rintro ⟨call, same, unasked, -⟩
      cases same
      cases unasked
    · rintro ⟨call, same, -, allowed⟩
      cases same
      cases allowed

/-- The sale goes to the server, but the cart, the payment and the closing stay here. -/
theorem client_mode_isolated_unasked :
    (∀ turn ∈ unaskedTurns, turn.desk.lan.clientMode = true) ∧
      ((DesktopTurn.run (initServices .int64 default) unaskedTurns tillTables).business.parkedSales.rows.length,
        (DesktopTurn.run (initServices .int64 default) unaskedTurns tillTables).business.payments.rows.length,
        (DesktopTurn.run (initServices .int64 default) unaskedTurns tillTables).business.shifts.rows.map Shift.status) =
        (1, 2, [.closed]) ∧
      (tillTables.business.parkedSales.rows.length, tillTables.business.payments.rows.length,
        tillTables.business.shifts.rows.map Shift.status) = (0, 1, [.open]) := by
  refine ⟨?_, by decide +kernel, by decide +kernel⟩
  intro turn member
  simp only [unaskedTurns, List.mem_cons, List.not_mem_nil, or_false] at member
  rcases member with rfl | rfl | rfl <;> rfl

end BeidarPos
