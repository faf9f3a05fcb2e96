import BeidarPos.Store

/-! What each write does to the parts of the store the results are about: one
product's stock, one customer, one sale, the sale lines, the payment ledger, the
shifts and the cash movements. Every other write leaves the part alone, which is
all the frame reasoning there is. -/
namespace BeidarPos

open Relational Journal

def salesOnShift (saleTotal cashAmount : Int) (isNewSale : Bool) (db : Store) : Table Shift.id :=
  match db.openShiftID with
  | none => db.shifts
  | some id => db.shifts.modify id (Shift.addSale saleTotal cashAmount isNewSale) Shift.addSale_id

def refundsOnShift (totalRefund cashRefund : Int) (isFullReturn : Bool) (db : Store) : Table Shift.id :=
  match db.openShiftID with
  | none => db.shifts
  | some id => db.shifts.modify id (Shift.subRefund totalRefund cashRefund isFullReturn) Shift.subRefund_id

theorem updateShiftRefunds_eq (db : Store) :
    db.updateShiftRefunds total cash full = { db with shifts := refundsOnShift total cash full db } := by
  unfold Store.updateShiftRefunds refundsOnShift
  cases db.openShiftID <;> rfl

theorem updateShiftSales_ok {db final : Store} (h : db.updateShiftSales total cash isNew need = .ok final) :
    final = { db with shifts := salesOnShift total cash isNew db } := by
  unfold Store.updateShiftSales at h
  unfold salesOnShift
  cases opened : db.openShiftID with
  | none =>
    cases need with
    | true => simp [opened] at h
    | false =>
      simp only [opened, Bool.false_eq_true, if_false, Except.ok.injEq] at h
      exact h.symm
  | some id =>
    simp only [opened, Except.ok.injEq] at h
    exact h.symm

theorem updateStock_ok {db final : Store} {id : String} (h : db.updateStock id qty = .ok final) :
    (∃ product, db.products.find? id = some product ∧ 0 ≤ product.stock + qty) ∧
    final = { db with
      products := db.products.modify id (fun p => { p with stock := p.stock + qty }) (fun _ => rfl) } := by
  unfold Store.updateStock at h
  cases found : db.products.find? id with
  | none => simp [found] at h
  | some product =>
    by_cases enough : 0 ≤ product.stock + qty
    · simp only [found, enough, if_true, Except.ok.injEq] at h
      exact ⟨⟨product, rfl, enough⟩, h.symm⟩
    · simp [found, enough] at h

theorem createSale_ok {db final : Store} (h : db.createSale sale = .ok final) :
    ∃ sales, db.sales.insert? sale.toSaleRow = some sales ∧
      final = { db with sales := sales, saleItems := saveItems sale.id db.saleItems sale.items } := by
  unfold Store.createSale at h
  cases inserted : db.sales.insert? sale.toSaleRow with
  | none => simp [inserted] at h
  | some sales =>
    simp only [inserted, Except.ok.injEq] at h
    exact ⟨sales, rfl, h.symm⟩

/-- A ledger row without its number. -/
def Payment.unnumbered (p : Payment) : Payment := { p with id := 0 }

def ledger (db : Store) : List Payment := db.payments.rows.map Payment.unnumbered

theorem createPayment_ok {db final : Store} (h : db.createPayment p = .ok final) :
    ledger final = ledger db ++ [p.unnumbered] ∧
      ∃ payments, final = { db with payments := payments } := by
  unfold Store.createPayment at h
  by_cases fresh : p.id = 0
  · simp only [fresh, if_true, Except.ok.injEq] at h
    subst h
    refine ⟨?_, _, rfl⟩
    simp [ledger, Payment.unnumbered]
  · cases inserted : db.payments.insert? p with
    | none => simp [fresh, inserted] at h
    | some payments =>
      simp only [fresh, if_false, inserted, Except.ok.injEq] at h
      subst h
      refine ⟨?_, _, rfl⟩
      simp [ledger, Serial.insert?_rows inserted]

theorem createCashMovement_ok {db final : Store} (h : db.createCashMovement move = .ok final) :
    ∃ moves, db.cashMovements.insert? move = some moves ∧ final = { db with cashMovements := moves } := by
  unfold Store.createCashMovement at h
  cases inserted : db.cashMovements.insert? move with
  | none => simp [inserted] at h
  | some moves =>
    simp only [inserted, Except.ok.injEq] at h
    exact ⟨moves, rfl, h.symm⟩

/-- The stores differ at most in the tables the call of the write names. -/
def Write.touches (w : Write) (db final : Store) : Prop :=
  match w with
  | .updateStock _ _ => ∃ products, final = { db with products := products }
  | .createStockMovement _ => ∃ moves, final = { db with stockMovements := moves }
  | .createSale _ | .updateSale _ | .updateSaleItem _ | .updateSaleInstallmentPlan _ _ _ =>
    ∃ sales items, final = { db with sales := sales, saleItems := items }
  | .createPayment _ => ∃ payments, final = { db with payments := payments }
  | .incrementPurchasesAndDebt _ _ _ _ _ _ | .decrementPurchases _ _ | .adjustPoints _ _
  | .decrementDebt _ _ | .decrementInstallmentDebt _ _ =>
    ∃ customers, final = { db with customers := customers }
  | .updateShiftSales _ _ _ _ | .updateShiftRefunds _ _ _ | .saveShift _ =>
    ∃ shifts, final = { db with shifts := shifts }
  | .createCashMovement _ => ∃ moves, final = { db with cashMovements := moves }
  | .log _ => ∃ logs, final = { db with auditLogs := logs }

theorem saveShift_tables (db : Store) (shift : Shift) :
    ∃ shifts, db.saveShift shift = { db with shifts := shifts } := by
  unfold Store.saveShift
  cases db.shifts.insert? shift <;> exact ⟨_, rfl⟩

theorem apply_tables {w : Write} {db final : Store} (h : w.apply db = .ok final) : w.touches db final := by
  cases w with
  | updateStock => exact ⟨_, (updateStock_ok h).2⟩
  | createSale => obtain ⟨sales, _, rfl⟩ := createSale_ok h; exact ⟨_, _, rfl⟩
  | createPayment => exact (createPayment_ok h).2
  | updateShiftSales => exact ⟨_, updateShiftSales_ok h⟩
  | updateShiftRefunds => cases h; exact ⟨_, updateShiftRefunds_eq db⟩
  | saveShift shift => cases h; exact saveShift_tables db shift
  | createCashMovement => obtain ⟨moves, _, rfl⟩ := createCashMovement_ok h; exact ⟨_, rfl⟩
  | updateSale => cases h; exact ⟨_, _, rfl⟩
  | updateSaleItem => cases h; exact ⟨_, db.saleItems.put _, rfl⟩
  | updateSaleInstallmentPlan => cases h; exact ⟨_, db.saleItems, rfl⟩
  | _ => cases h; exact ⟨_, rfl⟩

/-- The part of the store a repository call writes to. -/
inductive Area where
  | stock | sales | ledger | customers | shifts | cash | log
  deriving DecidableEq

def Write.area : Write → Area
  | .updateStock _ _ | .createStockMovement _ => .stock
  | .createSale _ | .updateSale _ | .updateSaleItem _ | .updateSaleInstallmentPlan _ _ _ => .sales
  | .createPayment _ => .ledger
  | .incrementPurchasesAndDebt _ _ _ _ _ _ | .decrementPurchases _ _ | .adjustPoints _ _
  | .decrementDebt _ _ | .decrementInstallmentDebt _ _ => .customers
  | .updateShiftSales _ _ _ _ | .updateShiftRefunds _ _ _ | .saveShift _ => .shifts
  | .createCashMovement _ => .cash
  | .log _ => .log

/-- All writes go to one of the areas. -/
def Confined (areas : List Area) (ws : List Write) : Prop := ∀ v ∈ ws, v.area ∈ areas

@[simp] theorem confined_nil {areas : List Area} : Confined areas [] := fun _ member => absurd member (by simp)

theorem confined_cons {areas : List Area} {v : Write} {ws : List Write} :
    Confined areas (v :: ws) ↔ v.area ∈ areas ∧ Confined areas ws := by
  simp [Confined]

theorem Confined.append {areas : List Area} {front back : List Write} (first : Confined areas front)
    (second : Confined areas back) : Confined areas (front ++ back) := by
  intro v member
  rcases List.mem_append.mp member with inside | inside
  · exact first v inside
  · exact second v inside

theorem Confined.flatMap {areas : List Area} {items : List β} {f : β → List Write}
    (each : ∀ b, Confined areas (f b)) : Confined areas (items.flatMap f) := by
  intro v member
  obtain ⟨b, _, inside⟩ := List.mem_flatMap.mp member
  exact each b v inside

theorem Confined.mono {areas more : List Area} {ws : List Write} (h : Confined areas ws) (le : areas ⊆ more) :
    Confined more ws :=
  fun v member => le (h v member)

/-- A cell that only the writes of one area move. -/
def Cell.Within (cell : Cell Write.apply β) (area : Area) : Prop :=
  ∀ v b, v.area ≠ area → cell.step v b = b

theorem Cell.Within.frame {cell : Cell Write.apply β} {area : Area} (within : Cell.Within cell area)
    {areas : List Area} {ws : List Write} (confined : Confined areas ws) (outside : area ∉ areas) (b : β) :
    cell.steps ws b = b := by
  refine cell.steps_frame ?_ b
  intro v member b
  refine within v b ?_
  rintro rfl
  exact outside (confined v member)

def stockOf (id : String) (db : Store) : Option ℚ := (db.products.find? id).map Product.stock

def stockStep (id : String) : Write → Option ℚ → Option ℚ
  | .updateStock p qty, stock => if id = p then stock.map (· + qty) else stock
  | _, stock => stock

/-- The stock of one product. -/
def stockCell (id : String) : Cell Write.apply (Option ℚ) where
  read := stockOf id
  step := stockStep id
  law := by
    intro w db final h
    cases w with
    | updateStock p qty =>
      rw [(updateStock_ok h).2]
      by_cases same : id = p
      · simp [stockOf, stockStep, Table.find?_modify, same, Function.comp_def]
      · simp [stockOf, stockStep, Table.find?_modify, same]
    | _ => first
      | (obtain ⟨_, rfl⟩ := apply_tables h; rfl)
      | (obtain ⟨_, _, rfl⟩ := apply_tables h; rfl)

/-- The customer a write names. -/
def Write.customer : Write → Option String
  | .incrementPurchasesAndDebt id _ _ _ _ _ | .decrementPurchases id _ | .adjustPoints id _
  | .decrementDebt id _ | .decrementInstallmentDebt id _ => some id
  | _ => none

def Write.onCustomer : Write → Customer → Customer
  | .incrementPurchasesAndDebt _ total points debt inst visit =>
    Customer.incrementPurchasesAndDebt total points debt inst visit
  | .decrementPurchases _ amount => Customer.decrementPurchases amount
  | .adjustPoints _ delta => Customer.adjustPoints delta
  | .decrementDebt _ amount => Customer.decrementDebt amount
  | .decrementInstallmentDebt _ amount => Customer.decrementInstallmentDebt amount
  | _ => id

theorem find?_updateCustomer (db : Store) (c id : String) (f : Customer → Customer) (keeps : ∀ r, (f r).id = r.id) :
    (db.updateCustomer c f keeps).customers.find? id =
      if some c = some id then (db.customers.find? id).map f else db.customers.find? id := by
  have modified := Table.find?_modify db.customers c f keeps id
  by_cases same : id = c
  · simpa [Store.updateCustomer, same] using modified
  · have other : ¬ c = id := fun h => same h.symm
    simpa [Store.updateCustomer, same, other] using modified

theorem apply_customer {w : Write} {db final : Store} (h : w.apply db = .ok final) (id : String) :
    final.customers.find? id =
      if w.customer = some id then (db.customers.find? id).map w.onCustomer else db.customers.find? id := by
  cases w with
  | incrementPurchasesAndDebt => cases h; exact find?_updateCustomer ..
  | decrementPurchases => cases h; exact find?_updateCustomer ..
  | adjustPoints => cases h; exact find?_updateCustomer ..
  | decrementDebt => cases h; exact find?_updateCustomer ..
  | decrementInstallmentDebt => cases h; exact find?_updateCustomer ..
  | _ => first
    | (obtain ⟨_, rfl⟩ := apply_tables h; rfl)
    | (obtain ⟨_, _, rfl⟩ := apply_tables h; rfl)

/-- One customer's balances. -/
def customerCell (id : String) : Cell Write.apply (Option Customer) where
  read := fun db => db.customers.find? id
  step := fun w o => if w.customer = some id then o.map w.onCustomer else o
  law := fun _ _ _ h => apply_customer h id

/-- One balance of one customer; `moves` says that a write changes it by itself. -/
def balanceCell (id : String) (balance : Customer → Int) (change : Write → Int → Int)
    (moves : ∀ w c, balance (w.onCustomer c) = change w (balance c)) : Cell Write.apply (Option Int) where
  read := fun db => (db.customers.find? id).map balance
  step := fun w o => if w.customer = some id then o.map (change w) else o
  law := by
    intro w db final h
    simp only [apply_customer h id]
    split
    · rw [Option.map_map, Option.map_map]
      exact congrArg (Option.map · _) (funext (moves w))
    · rfl

theorem Write.customer_none {v : Write} (other : v.area ≠ .customers) : v.customer = none := by
  cases v <;> first | rfl | exact absurd rfl other

theorem customer_within (id : String) : Cell.Within (customerCell id) .customers := by
  intro v b other
  simp [customerCell, Write.customer_none other]

theorem balance_within {id : String} {balance : Customer → Int} {change : Write → Int → Int}
    {moves : ∀ w c, balance (w.onCustomer c) = change w (balance c)} :
    Cell.Within (balanceCell id balance change moves) .customers := by
  intro v b other
  simp [balanceCell, Write.customer_none other]

def debtChange : Write → Int → Int
  | .incrementPurchasesAndDebt _ _ _ debt _ _, d => if 0 < debt then d + debt else d
  | .decrementDebt _ amount, d => clampSub d amount
  | _, d => d

def installmentDebtChange : Write → Int → Int
  | .incrementPurchasesAndDebt _ _ _ _ inst _, d => if 0 < inst then d + inst else d
  | .decrementInstallmentDebt _ amount, d => clampSub d amount
  | _, d => d

def debtOf (db : Store) (customerID : String) : Option Int :=
  (db.customers.find? customerID).map Customer.debt

def installmentDebtOf (db : Store) (customerID : String) : Option Int :=
  (db.customers.find? customerID).map Customer.installmentDebt

def debtCell (id : String) : Cell Write.apply (Option Int) :=
  balanceCell id Customer.debt debtChange (by intro w c; cases w <;> rfl)

def installmentDebtCell (id : String) : Cell Write.apply (Option Int) :=
  balanceCell id Customer.installmentDebt installmentDebtChange (by intro w c; cases w <;> rfl)

theorem debt_within (id : String) : Cell.Within (debtCell id) .customers := balance_within

theorem installmentDebt_within (id : String) : Cell.Within (installmentDebtCell id) .customers := balance_within

/-- A write that leaves a balance alone, whoever it names. -/
theorem balance_fixed {id : String} {balance : Customer → Int} {change : Write → Int → Int}
    {moves : ∀ w c, balance (w.onCustomer c) = change w (balance c)} {v : Write} (fixed : ∀ b, change v b = b)
    (o : Option Int) : (balanceCell id balance change moves).step v o = o := by
  have same : change v = fun b => b := funext fixed
  simp [balanceCell, same]

theorem debt_replayed {x : DbTx α} {db final : Store} (h : Does x db a ws final) (id : String) :
    debtOf final id = (debtCell id).steps ws (debtOf db id) :=
  (debtCell id).replay_read h.replays

theorem installmentDebt_replayed {x : DbTx α} {db final : Store} (h : Does x db a ws final) (id : String) :
    installmentDebtOf final id = (installmentDebtCell id).steps ws (installmentDebtOf db id) :=
  (installmentDebtCell id).replay_read h.replays

def saleStep (id : String) : Write → Option SaleRow → Option SaleRow
  | .createSale sale, o => if id = sale.id then some sale.toSaleRow else o
  | .updateSale sale, o => if id = sale.id then o.map (fun _ => sale.toSaleRow) else o
  | .updateSaleInstallmentPlan saleID plan status, o =>
    if id = saleID then o.map (fun row => { row with installmentPlan := some plan, status := status }) else o
  | _, o => o

/-- The row of one sale. -/
def saleCell (id : String) : Cell Write.apply (Option SaleRow) where
  read := fun db => db.sales.find? id
  step := saleStep id
  law := by
    intro w db final h
    cases w with
    | createSale sale =>
      obtain ⟨sales, inserted, rfl⟩ := createSale_ok h
      exact Table.find?_insert inserted id
    | updateSale => cases h; exact Table.find?_put
    | updateSaleItem => cases h; rfl
    | updateSaleInstallmentPlan _ plan status =>
      cases h
      exact Table.find?_modify _ _ (fun row : SaleRow => { row with installmentPlan := some plan, status := status })
        (fun _ => rfl) id
    | _ => obtain ⟨_, rfl⟩ := apply_tables h; rfl

theorem sale_within (id : String) : Cell.Within (saleCell id) .sales := by
  intro v b other
  cases v <;> first | rfl | exact absurd rfl other

/-- No write takes a stored sale away. -/
theorem sale_remains {ws : List Write} {db final : Store} {id : String}
    (h : replay Write.apply ws db = .ok final) (stored : (db.sales.find? id).isSome) :
    (final.sales.find? id).isSome := by
  have kept : ∀ v o, o.isSome → (saleStep id v o).isSome := by
    intro v o present
    cases v with
    | createSale sale => simp only [saleStep]; split <;> simp [present]
    | updateSale sale => simp only [saleStep]; split <;> simp [present]
    | updateSaleInstallmentPlan => simp only [saleStep]; split <;> simp [present]
    | _ => exact present
  have replayed := (saleCell id).replay_read h
  change final.sales.find? id = (saleCell id).steps ws (db.sales.find? id) at replayed
  rw [replayed]
  clear replayed h
  generalize db.sales.find? id = o at stored
  induction ws generalizing o with
  | nil => exact stored
  | cons v ws ih => exact ih _ (kept v o stored)

def linesStep : Write → Serial SaleItem.id → Serial SaleItem.id
  | .createSale sale, t => saveItems sale.id t sale.items
  | .updateSale sale, t => saveItems sale.id t sale.items
  | .updateSaleItem item, t => t.put item
  | _, t => t

/-- The lines of all sales. -/
def linesCell : Cell Write.apply (Serial SaleItem.id) where
  read := Store.saleItems
  step := linesStep
  law := by
    intro w db final h
    cases w with
    | createSale sale => obtain ⟨sales, _, rfl⟩ := createSale_ok h; rfl
    | updateSale => cases h; rfl
    | updateSaleItem => cases h; rfl
    | updateSaleInstallmentPlan => cases h; rfl
    | _ => obtain ⟨_, rfl⟩ := apply_tables h; rfl

theorem lines_within : Cell.Within linesCell .sales := by
  intro v b other
  cases v <;> first | rfl | exact absurd rfl other

def ledgerStep : Write → List Payment → List Payment
  | .createPayment p, rows => rows ++ [p.unnumbered]
  | _, rows => rows

/-- The payment rows, in the order they were written. -/
def ledgerCell : Cell Write.apply (List Payment) where
  read := ledger
  step := ledgerStep
  law := by
    intro w db final h
    cases w with
    | createPayment => exact (createPayment_ok h).1
    | _ => first
      | (obtain ⟨_, rfl⟩ := apply_tables h; rfl)
      | (obtain ⟨_, _, rfl⟩ := apply_tables h; rfl)

/-- The payment rows a journal creates. -/
def createdRows (ws : List Write) : List Payment :=
  ws.filterMap fun w => match w with
    | .createPayment p => some p
    | _ => none

@[simp] theorem createdRows_nil : createdRows [] = [] := rfl

@[simp] theorem createdRows_append (front back : List Write) :
    createdRows (front ++ back) = createdRows front ++ createdRows back :=
  List.filterMap_append

theorem ledger_created (ws : List Write) (rows : List Payment) :
    ledgerCell.steps ws rows = rows ++ (createdRows ws).map Payment.unnumbered := by
  induction ws generalizing rows with
  | nil => simp
  | cons w ws ih =>
    rw [Cell.steps_cons, ih]
    cases w <;> simp [ledgerCell, ledgerStep, createdRows]

/-- The ledger grows by the rows the journal creates. -/
theorem ledger_grows {x : DbTx α} {db final : Store} (h : Does x db a ws final) :
    ledger final = ledger db ++ (createdRows ws).map Payment.unnumbered :=
  (ledgerCell.replay_read h.replays).trans (ledger_created ws _)

/-- The refund amounts a journal passes to the open shift, total and cash. -/
def shiftRefunds (ws : List Write) : List (Int × Int) :=
  ws.filterMap fun w => match w with
    | .updateShiftRefunds total cash _ => some (total, cash)
    | _ => none

@[simp] theorem shiftRefunds_nil : shiftRefunds [] = [] := rfl

@[simp] theorem shiftRefunds_append (front back : List Write) :
    shiftRefunds (front ++ back) = shiftRefunds front ++ shiftRefunds back :=
  List.filterMap_append

/-- What a ledger row counts for under one method. -/
def paidIn (m : PaymentMethod) (p : Payment) : Int := if p.method = m then p.amount else 0

/-- A sum over the payment rows a journal creates. -/
def rowSum (g : Payment → Int) (ws : List Write) : Int := ((createdRows ws).map g).sum

@[simp] theorem rowSum_nil (g : Payment → Int) : rowSum g [] = 0 := rfl

@[simp] theorem rowSum_append (g : Payment → Int) (front back : List Write) :
    rowSum g (front ++ back) = rowSum g front + rowSum g back := by
  simp [rowSum]

@[simp] theorem rowSum_payment (g : Payment → Int) (p : Payment) : rowSum g [.createPayment p] = g p := by
  simp [rowSum, createdRows]

theorem rowSum_flatMap (g : Payment → Int) (items : List β) (f : β → List Write) :
    rowSum g (items.flatMap f) = (items.map fun b => rowSum g (f b)).sum := by
  induction items with
  | nil => rfl
  | cons b items ih => simp [ih]

theorem createdRows_frame {areas : List Area} {ws : List Write} (confined : Confined areas ws)
    (outside : Area.ledger ∉ areas) : createdRows ws = [] := by
  refine List.filterMap_eq_nil_iff.mpr ?_
  intro v member
  cases v with
  | createPayment p => exact absurd (confined _ member) outside
  | _ => rfl

theorem rowSum_frame {areas : List Area} {ws : List Write} (confined : Confined areas ws)
    (outside : Area.ledger ∉ areas) (g : Payment → Int) : rowSum g ws = 0 := by
  simp [rowSum, createdRows_frame confined outside]

theorem shiftRefunds_frame {areas : List Area} {ws : List Write} (confined : Confined areas ws)
    (outside : Area.shifts ∉ areas) : shiftRefunds ws = [] := by
  refine List.filterMap_eq_nil_iff.mpr ?_
  intro v member
  cases v with
  | updateShiftRefunds => exact absurd (confined _ member) outside
  | _ => rfl

/-- A ledger row, written only for a positive amount. -/
def rowFor (amount : Int) (row : Payment) : List Write :=
  if 0 < amount then [.createPayment row] else []

@[simp] theorem rowSum_rowFor (g : Payment → Int) (amount : Int) (row : Payment) :
    rowSum g (rowFor amount row) = if 0 < amount then g row else 0 := by
  unfold rowFor
  split <;> simp

theorem confined_rowFor (amount : Int) (row : Payment) : Confined [.ledger] (rowFor amount row) := by
  unfold rowFor
  split
  · exact confined_cons.mpr ⟨by simp [Write.area], confined_nil⟩
  · exact confined_nil

/-- What a write does to the open shift; opening and closing are not among these. -/
def drawerStep : Write → Option Shift → Option Shift
  | .updateShiftSales total cash isNew _, o =>
    o.map fun shift => if shift.id = "" then shift else shift.addSale total cash isNew
  | .updateShiftRefunds total cash full, o =>
    o.map fun shift => if shift.id = "" then shift else shift.subRefund total cash full
  | _, o => o

theorem activeShift_modify (db : Store) (id : String) (f : Shift → Shift) (keeps : ∀ s, (f s).id = s.id)
    (status : ∀ s, (f s).status = s.status) :
    ({ db with shifts := db.shifts.modify id f keeps } : Store).activeShift =
      db.activeShift.map (fun shift => if shift.id = id then f shift else shift) := by
  have same : (fun shift : Shift => decide (shift.status = .open)) ∘
      (fun shift => if shift.id = id then f shift else shift) = fun shift => decide (shift.status = .open) := by
    funext shift
    by_cases h : shift.id = id <;> simp [h, status]
  simp only [Store.activeShift, Table.modify, List.find?_map, same]

theorem openShiftID_some {db : Store} {id : String} (h : db.openShiftID = some id) :
    ∃ shift, db.activeShift = some shift ∧ shift.id = id ∧ id ≠ "" := by
  unfold Store.openShiftID at h
  split at h
  · cases h
  · rename_i shift active
    split at h
    · cases h
    · rename_i named
      cases h
      exact ⟨shift, active, rfl, named⟩

theorem openShiftID_none {db : Store} (h : db.openShiftID = none) :
    ∀ shift, db.activeShift = some shift → shift.id = "" := by
  intro shift active
  by_contra named
  simp [Store.openShiftID, active, named] at h

theorem apply_drawer {w : Write} {db final : Store} (h : w.apply db = .ok final)
    (kept : ∀ shift, w ≠ .saveShift shift) : final.activeShift = drawerStep w db.activeShift := by
  have moved : ∀ f : Shift → Shift, ∀ keeps : (∀ s, (f s).id = s.id), (∀ s, (f s).status = s.status) →
      (match db.openShiftID with
        | none => db.activeShift
        | some id => ({ db with shifts := db.shifts.modify id f keeps } : Store).activeShift) =
      db.activeShift.map fun shift => if shift.id = "" then shift else f shift := by
    intro f keeps status
    cases opened : db.openShiftID with
    | none =>
      cases active : db.activeShift with
      | none => rfl
      | some shift => simp [openShiftID_none opened shift active]
    | some id =>
      obtain ⟨shift, active, rfl, named⟩ := openShiftID_some opened
      simp only [activeShift_modify db shift.id f keeps status, active, Option.map_some]
      simp [named]
  cases w with
  | updateShiftSales total cash isNew need =>
    rw [updateShiftSales_ok h]
    refine Eq.trans ?_ (moved (Shift.addSale total cash isNew) (fun _ => rfl) (fun _ => rfl))
    unfold salesOnShift
    cases db.openShiftID <;> rfl
  | updateShiftRefunds total cash full =>
    cases h
    rw [updateShiftRefunds_eq]
    refine Eq.trans ?_ (moved (Shift.subRefund total cash full) (fun _ => rfl) (fun _ => rfl))
    unfold refundsOnShift
    cases db.openShiftID <;> rfl
  | saveShift shift => exact absurd rfl (kept shift)
  | _ => first
    | (obtain ⟨_, rfl⟩ := apply_tables h; rfl)
    | (obtain ⟨_, _, rfl⟩ := apply_tables h; rfl)

/-- What a journal does to the open shift. -/
def drawerSteps (ws : List Write) (o : Option Shift) : Option Shift := ws.foldl (fun o v => drawerStep v o) o

/-- The open shift after a journal that neither opens nor closes one. -/
theorem drawer_replayed {ws : List Write} {db final : Store} (h : replay Write.apply ws db = .ok final)
    (kept : ∀ v ∈ ws, ∀ shift, v ≠ .saveShift shift) :
    final.activeShift = drawerSteps ws db.activeShift := by
  induction ws generalizing db with
  | nil => cases h; rfl
  | cons v ws ih =>
    obtain ⟨next, applied, onward⟩ := replay_cons.mp h
    rw [ih onward (fun u member => kept u (by simp [member])), apply_drawer applied (kept v (by simp))]
    rfl

@[simp] theorem drawerSteps_append (front back : List Write) (o : Option Shift) :
    drawerSteps (front ++ back) o = drawerSteps back (drawerSteps front o) := by
  simp [drawerSteps]

theorem drawerSteps_frame {areas : List Area} {ws : List Write} (confined : Confined areas ws)
    (outside : Area.shifts ∉ areas) (o : Option Shift) : drawerSteps ws o = o := by
  induction ws generalizing o with
  | nil => rfl
  | cons v ws ih =>
    obtain ⟨head, tail⟩ := confined_cons.mp confined
    have still : drawerStep v o = o := by
      cases v <;> first | rfl | exact absurd head outside
    rw [drawerSteps, List.foldl_cons, still]
    exact ih tail o

/-- Writes elsewhere leave the identifier that updates of the open shift go to. -/
theorem openShiftID_kept {areas : List Area} {ws : List Write} {db final : Store}
    (h : replay Write.apply ws db = .ok final) (confined : Confined areas ws) (outside : Area.shifts ∉ areas) :
    final.openShiftID = db.openShiftID := by
  have kept : ∀ v ∈ ws, ∀ shift, v ≠ .saveShift shift := by
    rintro v member shift rfl
    exact outside (confined _ member)
  rw [Store.openShiftID, Store.openShiftID, drawer_replayed h kept, drawerSteps_frame confined outside]

theorem unfailing_payment (row : Payment) (unnumbered : row.id = 0) : Unfailing (Tx.write (.createPayment row) : DbTx Unit) :=
  unfailing_write fun db => by simp [Write.apply, Store.createPayment, unnumbered]

/-- Updates of a customer are made whether or not there is one. -/
theorem unfailing_customer (v : Write) (update : v.area = .customers) : Unfailing (Tx.write v : DbTx Unit) := by
  refine unfailing_write fun db => ?_
  cases v <;> first | exact ⟨_, rfl⟩ | cases update

theorem sale_replayed {x : DbTx α} {db final : Store} (h : Does x db a ws final) (id : String) :
    final.sales.find? id = (saleCell id).steps ws (db.sales.find? id) :=
  (saleCell id).replay_read h.replays

theorem getSale_row {db : Store} {id : String} (h : db.getSale id = some sale) :
    db.sales.find? id = some sale.toSaleRow ∧ sale.items = db.itemsOf id ∧ sale.id = id := by
  obtain ⟨row, found, rfl⟩ := Option.map_eq_some_iff.mp h
  exact ⟨found, rfl, Table.find?_key found⟩

end BeidarPos
