import BeidarPos.Accounting

/-! What a sale takes from its client. Two requests that agree outside the fields the
server computes are sold alike: they pass or fail the same checks and leave the same
stock, balances, ledger and shift. Only the stored sale can tell them apart, in the
fields the request is persisted with. -/
namespace BeidarPos

open Machine Relational Journal Tx

section Requests

def SaleItem.clientPart (item : SaleItem) : SaleItem :=
  { item with name := "", total := 0, cost := 0, returnedQty := 0 }

def Installment.clientPart (inst : Installment) : Installment := { inst with status := .pending, paidAt := 0 }

def InstallmentPlan.clientPart (plan : InstallmentPlan) : InstallmentPlan :=
  { plan with schedule := plan.schedule.map (List.map Installment.clientPart) }

/-- The request without the fields the server must own. -/
def Sale.clientPart (sale : Sale) : Sale :=
  { sale with
    date := "", timestamp := 0, status := .pending, subtotal := 0, vat := 0, total := 0,
    pointsAwarded := 0, zohoSynced := false
    installmentPlan := sale.installmentPlan.map InstallmentPlan.clientPart
    items := sale.items.map SaleItem.clientPart }

theorem InstallmentPlan.clientPart_twice (plan : InstallmentPlan) :
    plan.clientPart.clientPart = plan.clientPart := by
  cases plan with | mk total down months start schedule =>
  cases schedule <;> simp [InstallmentPlan.clientPart, Installment.clientPart, Function.comp_def]

/-- What a stored row shows the rest of the call: its own flag, the state of its
installments and the points of a sale without a customer are not looked at. -/
def SaleRow.settled (row : SaleRow) : SaleRow :=
  { row with
    zohoSynced := false
    installmentPlan := row.installmentPlan.map InstallmentPlan.clientPart
    pointsAwarded := if row.customerID = "" then 0 else row.pointsAwarded }

end Requests

section Checks

theorem admitSale_client (w : Word) (actor : Actor) (sale : Sale) :
    admitSale w actor sale.clientPart = admitSale w actor sale := by
  have items : (sale.clientPart.items ≠ []) ↔ sale.items ≠ [] := by simp [Sale.clientPart]
  have discounted : (0 < sale.clientPart.discount ∨ ∃ item ∈ sale.clientPart.items, 0 < item.discount) ↔
      (0 < sale.discount ∨ ∃ item ∈ sale.items, 0 < item.discount) := by
    simp [Sale.clientPart, SaleItem.clientPart]
  have lines : each (checkItem w) sale.clientPart.items = each (checkItem w) sale.items :=
    each_map (checkItem w) SaleItem.clientPart sale.items
  unfold admitSale checkDiscountPermission
  rw [ensure_congr items, when_congr discounted, lines]
  rfl

theorem downPayment_settled (row : SaleRow) : downPayment row.settled = downPayment row := by
  unfold downPayment SaleRow.settled
  cases row.paymentMethod <;> cases row.installmentPlan <;> rfl

theorem saleCash_settled (row : SaleRow) : saleCash row.settled = saleCash row := by
  unfold saleCash SaleRow.settled
  cases row.paymentMethod <;> cases row.splitDetails <;> cases row.installmentPlan <;> rfl

theorem installmentDebtIncrease_settled (w : Word) (row : SaleRow) :
    installmentDebtIncrease w row.settled = installmentDebtIncrease w row := by
  unfold installmentDebtIncrease SaleRow.settled
  cases row.paymentMethod <;> cases row.installmentPlan <;> rfl

/-- The plan is checked by its amounts, against the total. -/
theorem checkPlan_settled (w : Word) (sale : Sale) :
    checkPlan w ⟨sale.toSaleRow.settled, []⟩ = checkPlan w sale := by
  unfold checkPlan SaleRow.settled
  cases planned : sale.installmentPlan with
  | none => rfl
  | some plan =>
    cases scheduled : plan.schedule with
    | none => simp [InstallmentPlan.clientPart, scheduled]
    | some schedule =>
      simp [InstallmentPlan.clientPart, scheduled, Installment.clientPart, List.foldl_map]

theorem chargeCustomer_settled (w : Word) (env : Env) (row : SaleRow) :
    chargeCustomer w env row.settled = chargeCustomer w env row := by
  unfold chargeCustomer
  rw [installmentDebtIncrease_settled]
  by_cases named : row.customerID = ""
  · simp [SaleRow.settled, named, when]
  · simp only [SaleRow.settled, named, if_false]
    rfl

theorem recordPayments_settled (w : Word) (env : Env) (row : SaleRow) :
    recordPayments w env row.settled = recordPayments w env row := by
  have financed : paymentAmount w row.settled = paymentAmount w row := by
    unfold paymentAmount
    rw [downPayment_settled]
    rfl
  have single : recordSingle w env row.settled = recordSingle w env row := by
    unfold recordSingle
    rw [financed, downPayment_settled]
    rfl
  unfold recordPayments
  rw [single]
  rfl

end Checks

section Cart

/-- The line but for the quantity taken back of it. -/
def SaleItem.unreturned (item : SaleItem) : SaleItem := { item with returnedQty := 0 }

def Cart.unreturned (cart : Cart) : Cart := { cart with items := cart.items.map SaleItem.unreturned }

theorem addToCart_client (w : Word) (products : Table Product.id) (cart : Cart) (item : SaleItem) :
    (addToCart w products cart item).unreturned = addToCart w products cart.unreturned item.clientPart := by
  have product : item.clientPart.productID = item.productID := rfl
  unfold addToCart
  rw [product]
  cases products.find? item.productID with
  | none => rfl
  | some product => simp [Cart.unreturned, SaleItem.unreturned, soldItem, SaleItem.clientPart, lineTotal]

/-- The cart takes nothing but the returned quantities from what the server owns. -/
theorem soldCart_client (w : Word) (products : Table Product.id) (items : List SaleItem) :
    (soldCart w products items).unreturned = soldCart w products (items.map SaleItem.clientPart) := by
  suffices h : ∀ cart : Cart, (items.foldl (addToCart w products) cart).unreturned =
      (items.map SaleItem.clientPart).foldl (addToCart w products) cart.unreturned from h ⟨[], 0, 0⟩
  induction items with
  | nil => intro cart; rfl
  | cons item items ih =>
    intro cart
    rw [List.foldl_cons, ih, addToCart_client]
    rfl

theorem sellItem_twin {db final : Store} {item twin : SaleItem} (same : item.clientPart = twin.clientPart)
    (sold : Does (sellItem w env saleID products cart item) db cart' ws final) (other : Cart) :
    ∃ next, Does (sellItem w env saleID products other twin) db next ws final := by
  have productID : item.productID = twin.productID := (congrArg SaleItem.productID same :)
  have quantity : item.quantity = twin.quantity := (congrArg SaleItem.quantity same :)
  have price : item.price = twin.price := (congrArg SaleItem.price same :)
  unfold sellItem at sold
  rw [does_require_bind] at sold
  obtain ⟨product, found, sold⟩ := sold
  rw [does_ensure_bind, does_ensure_bind] at sold
  obtain ⟨enough, matched, sold⟩ := sold
  obtain ⟨_, _, stocked, _, taken, rest, rfl⟩ := does_bind.mp sold
  obtain ⟨_, _, moved, _, movement, done, rfl⟩ := does_bind.mp rest
  obtain ⟨rfl, rfl, rfl⟩ := does_pure.mp done
  refine ⟨{
    items := other.items ++ [soldItem w product twin]
    subtotal := w.add other.subtotal (Amount.mulFloat w twin.price twin.quantity)
    total := w.add other.total (lineTotal w twin) }, ?_⟩
  unfold sellItem
  rw [does_require_bind]
  refine ⟨product, productID ▸ found, ?_⟩
  rw [does_ensure_bind, does_ensure_bind]
  refine ⟨quantity ▸ enough, ?_, does_bind.mpr ⟨(), _, stocked, _, ?_,
    does_bind.mpr ⟨(), _, final, _, ?_, does_pure.mpr ⟨rfl, rfl, rfl⟩, rfl⟩, rfl⟩⟩
  · simpa only [priceMatches, price] using matched
  · rw [does_mapError] at taken ⊢
    rw [← productID, ← quantity]
    exact taken
  · simpa only [saleMovement, quantity] using movement

theorem sellItems_twin {items twins : List SaleItem} {db final : Store}
    (same : items.map SaleItem.clientPart = twins.map SaleItem.clientPart)
    (sold : Does (foldEach (sellItem w env saleID products) items cart) db cart' ws final) (other : Cart) :
    ∃ next, Does (foldEach (sellItem w env saleID products) twins other) db next ws final := by
  induction items generalizing twins cart other db ws with
  | nil =>
    obtain rfl := List.map_eq_nil_iff.mp same.symm
    obtain ⟨-, rfl, rfl⟩ := does_foldEach_nil.mp sold
    exact ⟨other, does_foldEach_nil.mpr ⟨rfl, rfl, rfl⟩⟩
  | cons item items ih =>
    obtain ⟨twin, rest, rfl, first, others⟩ := List.map_eq_cons_iff.mp same.symm
    obtain ⟨_, front, middle, back, head, tail, rfl⟩ := does_foldEach_cons.mp sold
    obtain ⟨next, sold⟩ := sellItem_twin first.symm head other
    obtain ⟨last, all⟩ := ih others.symm tail next
    exact ⟨last, does_foldEach_cons.mpr ⟨next, front, middle, back, sold, all, rfl⟩⟩

end Cart

section Tables

/-- The store with the tables of sales and of their lines replaced. -/
def Store.withSales (sales : Table SaleRow.id) (items : Serial SaleItem.id) (db : Store) : Store :=
  { db with sales := sales, saleItems := items }

/-- A write elsewhere does not look at the sales. -/
theorem apply_withSales {v : Write} {db final : Store} (elsewhere : v.area ≠ .sales) (done : v.apply db = .ok final) :
    v.apply (db.withSales sales items) = .ok (final.withSales sales items) := by
  cases v with
  | updateStock id qty =>
    obtain ⟨⟨product, found, enough⟩, rfl⟩ := updateStock_ok done
    have found' : (db.withSales sales items).products.find? id = some product := found
    simp only [Write.apply, Store.updateStock, found', enough, if_true]
    rfl
  | createPayment p =>
    simp only [Write.apply, Store.createPayment] at done ⊢
    split at done
    · cases done
      rename_i numbered
      rw [if_pos numbered]
      rfl
    · rename_i numbered
      rw [if_neg numbered]
      cases inserted : db.payments.insert? p with
      | none => simp [inserted] at done
      | some payments =>
        simp only [inserted, Except.ok.injEq] at done
        subst done
        simp only [Store.withSales, inserted]
  | updateShiftSales total cash isNew need =>
    simp only [Write.apply, Store.updateShiftSales] at done ⊢
    have opened : (db.withSales sales items).openShiftID = db.openShiftID := rfl
    rw [opened]
    cases id : db.openShiftID with
    | none =>
      simp only [id] at done ⊢
      split at done
      · cases done
      · cases done
        rename_i free
        rw [if_neg free]
    | some id' =>
      simp only [id] at done ⊢
      cases done
      rfl
  | updateShiftRefunds total cash full =>
    cases done
    simp only [Write.apply, updateShiftRefunds_eq]
    rfl
  | saveShift shift =>
    cases done
    simp only [Write.apply, Store.saveShift]
    have shifts : (db.withSales sales items).shifts = db.shifts := rfl
    rw [shifts]
    cases db.shifts.insert? shift <;> rfl
  | createCashMovement move =>
    obtain ⟨moves, inserted, rfl⟩ := createCashMovement_ok done
    have inserted' : (db.withSales sales items).cashMovements.insert? move = some moves := inserted
    simp only [Write.apply, Store.createCashMovement, inserted']
    rfl
  | createSale | updateSale | updateSaleItem | updateSaleInstallmentPlan => exact absurd rfl elsewhere
  | _ => cases done; rfl

theorem replay_keeps_sales {ws : List Write} {db final : Store} (elsewhere : Confined areas ws)
    (outside : Area.sales ∉ areas) (done : replay Write.apply ws db = .ok final) :
    final.sales = db.sales ∧ final.saleItems = db.saleItems := by
  have kept : ∀ v : Write, v.area ≠ .sales → ∀ db final : Store, v.apply db = .ok final →
      final.sales = db.sales ∧ final.saleItems = db.saleItems := by
    intro v other db final applied
    have touched := apply_tables applied
    cases v with
    | createSale | updateSale | updateSaleItem | updateSaleInstallmentPlan => exact absurd rfl other
    | _ => obtain ⟨_, rfl⟩ := touched; exact ⟨rfl, rfl⟩
  refine @replay_keeps _ _ _ _ (fun later => later.sales = db.sales ∧ later.saleItems = db.saleItems) _ _ _ done
    ⟨rfl, rfl⟩ ?_
  rintro v member before next ⟨sales, items⟩ applied
  obtain ⟨sales', items'⟩ := kept v (fun inside => outside (inside ▸ elsewhere v member)) before next applied
  exact ⟨sales'.trans sales, items'.trans items⟩

end Tables

section Calls

variable {w : Word} {env : Env} {db final : Store} {first second : Sale}

/-- The statements of a sale after it is stored. -/
def settleSale (w : Word) (env : Env) (requireShift : Bool) (sale : SaleRow) : DbTx Unit := do
  chargeCustomer w env sale
  recordPayments w env sale
  mapError (.wrapped (.message "SALE_PROCESS_FAILED" [.text ""]))
    (write (.updateShiftSales sale.total (saleCash sale) true requireShift))
  when (0 < sale.discount) (write (.log (discountLog sale)))

theorem commitSale_eq (w : Word) (env : Env) (need : Bool) (sale : Sale) :
    commitSale w env need sale =
      mapError (.wrapped (.message "SAVE_SALE_FAILED" [.text ""])) (write (.createSale sale)) >>=
        fun _ => settleSale w env need sale.toSaleRow := rfl

theorem settleSale_settled (w : Word) (env : Env) (need : Bool) (row : SaleRow) :
    settleSale w env need row.settled = settleSale w env need row := by
  unfold settleSale
  rw [chargeCustomer_settled, recordPayments_settled, saleCash_settled]
  rfl

theorem settleSale_blind (need : Bool) (row : SaleRow) :
    Blind (Store.withSales sales items) (settleSale w env need row) := by
  have free : ∀ v : Write, v.area ≠ .sales → Blind (Store.withSales sales items) (write v) :=
    fun v other => blind_write fun _ _ => apply_withSales other
  have payment : ∀ p : Payment, Blind (Store.withSales sales items) (savePayment p) :=
    fun p => (free (.createPayment p) (by simp [Write.area])).mapError
  have charge : Blind (Store.withSales sales items) (chargeCustomer w env row) := by
    refine Blind.when (Blind.bind (blind_ask ?_) fun _ => Blind.bind blind_require fun _ => free _ ?_)
    · intro db
      rfl
    · simp [Write.area]
  have payments : Blind (Store.withSales sales items) (recordPayments w env row) := by
    unfold recordPayments
    split
    · have legs : ∀ leg, Blind (Store.withSales sales items) (checkLeg row leg) :=
        fun leg => blind_ensure.bind fun _ => blind_ensure
      exact (Blind.each legs _).bind fun _ => blind_ensure.bind fun _ => Blind.each (fun leg => (payment _).when) _
    · exact (payment _).when.bind fun _ => (payment _).when
  exact charge.bind fun _ => payments.bind fun _ =>
    (free _ (by simp [Write.area])).mapError.bind fun _ => (free _ (by simp [Write.area])).when

theorem pricedSale_settled (same : first.clientPart = second.clientPart) :
    (pricedSale w env db first).toSaleRow.settled = (pricedSale w env db second).toSaleRow.settled := by
  have client : ∀ sale : Sale,
      (pricedSale w env db sale).toSaleRow.settled = (pricedSale w env db sale.clientPart).toSaleRow.settled := by
    intro sale
    have priced : ∀ sale : Sale, pricedSale w env db sale =
        priceSale w ((db.preferences.map AppPreferences.taxRate).getD 0) (stampSale env sale)
          (soldCart w db.products sale.items) := fun _ => rfl
    have items : sale.clientPart.items = sale.items.map SaleItem.clientPart := rfl
    rw [priced, priced, items, ← soldCart_client]
    by_cases named : sale.customerID = ""
    · simp [priceSale, stampSale, SaleRow.settled, Sale.clientPart, Cart.unreturned, named, Function.comp_def,
        InstallmentPlan.clientPart_twice]
    · simp only [priceSale, stampSale, SaleRow.settled, Sale.clientPart, Cart.unreturned, named, if_false, ne_eq,
        not_false_eq_true, if_true, Option.map_map, Function.comp_def, InstallmentPlan.clientPart_twice]
      rfl
  rw [client first, same, ← client second]

/-- The commits of two sales that settle alike end alike, but for the tables the sales go to. -/
theorem commitSale_twin {need : Bool} {a b : Sale} {ready : Store} (saleID : a.id = b.id)
    (settled : a.toSaleRow.settled = b.toSaleRow.settled) (h : Does (commitSale w env need a) ready u ws final) :
    ∃ sales ws', ready.sales.insert? b.toSaleRow = some sales ∧
      Does (commitSale w env need b) ready () ws'
        (final.withSales sales (saveItems b.id ready.saleItems b.items)) := by
  rw [commitSale_eq] at h
  obtain ⟨_, _, stored, back, created, settle, rfl⟩ := does_bind.mp h
  rw [does_mapError, does_write] at created
  obtain ⟨rfl, applied⟩ := created
  obtain ⟨sales, inserted, rfl⟩ := createSale_ok applied
  rw [← settleSale_settled, settled, settleSale_settled] at settle
  have free : ready.sales.find? b.id = none := saleID ▸ (Table.insert?_rows inserted).2
  cases inserted' : ready.sales.insert? b.toSaleRow with
  | none =>
    obtain ⟨old, taken⟩ := Table.insert?_none.mp inserted'
    rw [free] at taken
    cases taken
  | some sales' =>
    have created' : (Write.createSale b).apply ready =
        .ok (ready.withSales sales' (saveItems b.id ready.saleItems b.items)) := by
      simp only [Write.apply, Store.createSale, inserted', Store.withSales]
    refine ⟨sales', .createSale b :: back, rfl, ?_⟩
    rw [commitSale_eq]
    refine does_bind.mpr ⟨(), [.createSale b], _, back, ?_, settleSale_blind _ _ _ _ _ _ settle, rfl⟩
    rw [does_mapError, does_write]
    exact ⟨rfl, created'⟩

/-- An accepted request and its twin: the twin is accepted too, and ends where the
request ends but for the tables its own sale goes to. -/
theorem processSaleAs_twin (same : first.clientPart = second.clientPart)
    (done : Does (processSaleAs w env actor first) db u ws final) :
    ∃ sales ws', db.sales.insert? (pricedSale w env db second).toSaleRow = some sales ∧
      Does (processSaleAs w env actor second) db () ws' (final.withSales sales
        (saveItems (pricedSale w env db second).id db.saleItems (pricedSale w env db second).items)) := by
  have stamp : ∀ sale : Sale, (stampSale env sale).clientPart =
      { sale.clientPart with id := if sale.clientPart.id = "" then env.freshID else sale.clientPart.id } :=
    fun _ => rfl
  have stamped : (stampSale env first).clientPart = (stampSale env second).clientPart := by
    rw [stamp, stamp, same]
  have saleID : (stampSale env first).id = (stampSale env second).id :=
    (congrArg (fun sale : Sale => sale.id) stamped :)
  have discount : (stampSale env first).discount = (stampSale env second).discount :=
    (congrArg (fun sale : Sale => sale.discount) stamped :)
  have items : first.items.map SaleItem.clientPart = second.items.map SaleItem.clientPart :=
    (congrArg Sale.items same :)
  unfold processSaleAs at done ⊢
  obtain ⟨_, _, start, _, admission, selling, rfl⟩ := does_bind.mp done
  rw [does_ask_bind, does_ask_bind] at selling
  obtain ⟨cart, stockWs, stocked, _, sell, pricing, rfl⟩ := does_bind.mp selling
  obtain ⟨_, _, priced, _, invoice, planning, rfl⟩ := does_bind.mp pricing
  obtain ⟨_, _, ready, _, planned, commit, rfl⟩ := does_bind.mp planning
  rw [← admitSale_client, stamped, admitSale_client] at admission
  obtain ⟨rfl, rfl, -⟩ := admitSale_does admission
  obtain ⟨twin, sold⟩ := sellItems_twin items sell ⟨[], 0, 0⟩
  rw [saleID] at sold
  obtain ⟨rfl, stock, -⟩ := foldEach_journal (g := addToCart w start.products)
    (fun _ _ _ _ _ _ _ body => sellItem_does body) sell
  obtain ⟨rfl, -, -⟩ := foldEach_journal (g := addToCart w start.products)
    (fun _ _ _ _ _ _ _ body => sellItem_does body) sold
  have settled := @pricedSale_settled w env start first second same
  have total : (soldCart w start.products first.items).total = (soldCart w start.products second.items).total := by
    have sums : (soldCart w start.products first.items).unreturned =
        (soldCart w start.products second.items).unreturned := by
      rw [soldCart_client, soldCart_client, items]
    exact (congrArg Cart.total sums :)
  have invoice' : checkInvoiceDiscount (stampSale env first) (soldCart w start.products first.items) =
      checkInvoiceDiscount (stampSale env second) (soldCart w start.products second.items) := by
    unfold checkInvoiceDiscount
    rw [discount, total]
  have plan' : checkPlan w (pricedSale w env start first) = checkPlan w (pricedSale w env start second) := by
    rw [← checkPlan_settled, settled, checkPlan_settled]
  change Does (checkInvoiceDiscount (stampSale env first) (soldCart w start.products first.items)) _ _ _ _ at invoice
  change Does (checkPlan w (pricedSale w env start first)) _ _ _ _ at planned
  change Does (commitSale w env (shiftNeeded start) (pricedSale w env start first)) _ _ _ _ at commit
  rw [invoice'] at invoice
  rw [plan'] at planned
  obtain ⟨rfl, rfl, -⟩ := checkInvoiceDiscount_does invoice
  obtain ⟨rfl, rfl, -⟩ := checkPlan_does planned
  -- The stock was written before, so the sales are still those the call started with.
  obtain ⟨sameSales, sameItems⟩ : ready.sales = start.sales ∧ ready.saleItems = start.saleItems := by
    have elsewhere : Confined [.stock] stockWs := stock ▸ confined_sold _ _ _ _
    exact replay_keeps_sales elsewhere (by decide) sell.replays
  obtain ⟨sales, commitWs, inserted, stored⟩ := commitSale_twin (a := pricedSale w env start first)
    (b := pricedSale w env start second) saleID settled commit
  rw [sameSales] at inserted
  rw [sameItems] at stored
  refine ⟨sales, stockWs ++ commitWs, inserted, ?_⟩
  refine does_bind.mpr ⟨_, [], start, _, admission, does_ask_bind.mpr (does_ask_bind.mpr ?_), rfl⟩
  refine does_bind.mpr ⟨_, stockWs, ready, _, sold, ?_, rfl⟩
  refine does_bind.mpr ⟨_, [], ready, _, invoice, ?_, rfl⟩
  exact does_bind.mpr ⟨_, [], ready, _, planned, stored, rfl⟩

end Calls

section Lines

/-- The returned quantities of the lines that become rows, when the numbers in `taken`
are in use and `seq` was the last one drawn. A line under a used number becomes none. -/
def insertedQty (taken : List Nat) (seq : Nat) : List SaleItem → List ℚ
  | [] => []
  | item :: items =>
    if item.id = 0 then item.returnedQty :: insertedQty (taken ++ [seq + 1]) (seq + 1) items
    else if item.id ∈ taken then insertedQty taken seq items
    else item.returnedQty :: insertedQty (taken ++ [item.id]) (max seq item.id) items

/-- What `insertedQty` reads of a line. -/
def SaleItem.numberAndReturned (item : SaleItem) : Nat × ℚ := (item.id, item.returnedQty)

theorem insertedQty_congr {items others : List SaleItem} (taken : List Nat) (seq : Nat)
    (same : items.map SaleItem.numberAndReturned = others.map SaleItem.numberAndReturned) :
    insertedQty taken seq items = insertedQty taken seq others := by
  induction items generalizing others taken seq with
  | nil =>
    obtain rfl := List.map_eq_nil_iff.mp same.symm
    rfl
  | cons item items ih =>
    obtain ⟨other, rest, rfl, first, later⟩ := List.map_eq_cons_iff.mp same.symm
    have id : other.id = item.id := (congrArg Prod.fst first :)
    have qty : other.returnedQty = item.returnedQty := (congrArg Prod.snd first :)
    simp only [insertedQty, id, qty, ih _ _ later.symm]

variable {saleID : String} {t : Serial SaleItem.id}

theorem saveItem_unnumbered {item : SaleItem} (unnumbered : item.id = 0) :
    (saveItem saleID t item).rows = t.rows ++ [{ item with id := t.seq + 1, saleID := saleID }] ∧
      (saveItem saleID t item).seq = t.seq + 1 := by
  rw [saveItem, if_pos unnumbered]
  exact ⟨rfl, rfl⟩

theorem taken_iff (k : Nat) : k ∈ t.rows.map SaleItem.id ↔ ∃ old, t.find? k = some old := by
  constructor
  · intro member
    obtain ⟨old, inside, rfl⟩ := List.mem_map.mp member
    exact ⟨old, Table.find?_of_mem inside⟩
  · rintro ⟨old, found⟩
    exact List.mem_map.mpr ⟨old, Table.find?_mem found, Table.find?_key found⟩

theorem saveItem_taken {item : SaleItem} (numbered : item.id ≠ 0) (taken : item.id ∈ t.rows.map SaleItem.id) :
    saveItem saleID t item = t.modify item.id (fun row => { row with saleID := saleID }) (fun _ => rfl) := by
  have refused : t.insert? { item with saleID := saleID } = none :=
    Serial.insert?_none.mpr (Table.insert?_none.mpr ((taken_iff _).mp taken))
  rw [saveItem, if_neg numbered, refused]

/-- Moving a row to another sale changes nothing else of it. -/
theorem adopted_map {k : Nat} (f : SaleItem → β) (keeps : ∀ row : SaleItem, f { row with saleID := saleID } = f row) :
    (t.modify k (fun row => { row with saleID := saleID }) (fun _ => rfl)).rows.map f = t.rows.map f := by
  refine (List.map_map ..).trans (List.map_congr_left fun row _ => ?_)
  simp only [Function.comp_apply]
  split
  · exact keeps row
  · rfl

theorem saveItem_free {item : SaleItem} (numbered : item.id ≠ 0) (free : item.id ∉ t.rows.map SaleItem.id) :
    (saveItem saleID t item).rows = t.rows ++ [{ item with saleID := saleID }] ∧
      (saveItem saleID t item).seq = max t.seq item.id := by
  rw [saveItem, if_neg numbered]
  cases inserted : t.insert? { item with saleID := saleID } with
  | none => exact absurd ((taken_iff _).mpr (Table.insert?_none.mp (Serial.insert?_none.mp inserted))) free
  | some t' => exact ⟨Serial.insert?_rows inserted, (Serial.insert?_some inserted).2⟩

/-- The returned quantities of the table after a save. -/
theorem saveItems_returned (items : List SaleItem) :
    (saveItems saleID t items).rows.map SaleItem.returnedQty =
      t.rows.map SaleItem.returnedQty ++ insertedQty (t.rows.map SaleItem.id) t.seq items := by
  unfold saveItems
  induction items generalizing t with
  | nil => simp [insertedQty]
  | cons item items ih =>
    rw [List.foldl_cons, ih, insertedQty]
    by_cases unnumbered : item.id = 0
    · obtain ⟨rows, seq⟩ := @saveItem_unnumbered saleID t item unnumbered
      rw [if_pos unnumbered, rows, seq]
      simp
    · rw [if_neg unnumbered]
      by_cases taken : item.id ∈ t.rows.map SaleItem.id
      · rw [if_pos taken, saveItem_taken unnumbered taken, adopted_map SaleItem.returnedQty fun _ => rfl,
          adopted_map SaleItem.id fun _ => rfl]
        rfl
      · obtain ⟨rows, seq⟩ := @saveItem_free saleID t item unnumbered taken
        rw [if_neg taken, rows, seq]
        simp

theorem unreturned_eq {item other : SaleItem} (same : item.unreturned = other.unreturned)
    (qty : item.returnedQty = other.returnedQty) : item = other := by
  cases item
  cases other
  simp only [SaleItem.unreturned, SaleItem.mk.injEq] at same
  simp_all

/-- Lines that differ in returned quantities alone are saved alike when those that become
rows agree on them. -/
theorem saveItems_alike {items others : List SaleItem}
    (same : items.map SaleItem.unreturned = others.map SaleItem.unreturned)
    (qty : insertedQty (t.rows.map SaleItem.id) t.seq items = insertedQty (t.rows.map SaleItem.id) t.seq others) :
    saveItems saleID t items = saveItems saleID t others := by
  unfold saveItems
  induction items generalizing others t with
  | nil =>
    obtain rfl := List.map_eq_nil_iff.mp same.symm
    rfl
  | cons item items ih =>
    obtain ⟨other, rest, rfl, first, later⟩ := List.map_eq_cons_iff.mp same.symm
    have id : other.id = item.id := (congrArg SaleItem.id first :)
    rw [List.foldl_cons, List.foldl_cons]
    rw [insertedQty, insertedQty, id] at qty
    by_cases unnumbered : item.id = 0
    · rw [if_pos unnumbered, if_pos unnumbered] at qty
      obtain ⟨head, tail⟩ := List.cons_eq_cons.mp qty
      obtain rfl := unreturned_eq first head.symm
      obtain ⟨rows, seq⟩ := @saveItem_unnumbered saleID t other unnumbered
      refine ih later.symm ?_
      rw [rows, seq]
      simpa using tail
    · rw [if_neg unnumbered, if_neg unnumbered] at qty
      by_cases taken : item.id ∈ t.rows.map SaleItem.id
      · rw [if_pos taken, if_pos taken] at qty
        have one : saveItem saleID t other = saveItem saleID t item := by
          rw [saveItem_taken unnumbered taken, saveItem_taken (id ▸ unnumbered) (id ▸ taken)]
          simp only [id]
        rw [one]
        refine ih later.symm ?_
        rw [saveItem_taken (id ▸ unnumbered) taken, adopted_map SaleItem.id fun _ => rfl]
        exact qty
      · rw [if_neg taken, if_neg taken] at qty
        obtain ⟨head, tail⟩ := List.cons_eq_cons.mp qty
        obtain rfl := unreturned_eq first head.symm
        obtain ⟨rows, seq⟩ := @saveItem_free saleID t other unnumbered taken
        refine ih later.symm ?_
        rw [rows, seq]
        simpa using tail

/-- The lines of the sale have the numbers and the returned quantities of the request. -/
theorem soldCart_numbers {w : Word} {products : Table Product.id} {items : List SaleItem}
    (available : ∀ item ∈ items, Available w products item) :
    (soldCart w products items).items.map SaleItem.numberAndReturned =
      items.map SaleItem.numberAndReturned := by
  rw [soldCart_lines available, List.map_map]
  refine List.map_congr_left fun item _ => ?_
  simp only [Function.comp_apply, soldLine]
  split <;> rfl

end Lines

/-- The requests agree on the server's fields that are stored as they were sent. -/
structure StoredAlike (db : Store) (first second : Sale) : Prop where
  synced : first.zohoSynced = second.zohoSynced
  plan : first.installmentPlan = second.installmentPlan
  points : first.customerID = "" → first.pointsAwarded = second.pointsAwarded
  returned : insertedQty (db.saleItems.rows.map SaleItem.id) db.saleItems.seq first.items =
    insertedQty (db.saleItems.rows.map SaleItem.id) db.saleItems.seq second.items

section Commits

variable {w : Word} {env : Env} {db final : Store} {first second : Sale}

theorem settled_eq_iff {a b : SaleRow} (same : a.settled = b.settled) :
    a = b ↔ a.zohoSynced = b.zohoSynced ∧ a.installmentPlan = b.installmentPlan ∧
      (a.customerID = "" → a.pointsAwarded = b.pointsAwarded) := by
  constructor
  · rintro rfl
    exact ⟨rfl, rfl, fun _ => rfl⟩
  · rintro ⟨synced, plan, points⟩
    have customer : a.customerID = b.customerID := (congrArg SaleRow.customerID same :)
    have awarded : a.pointsAwarded = b.pointsAwarded := by
      by_cases anonymous : a.customerID = ""
      · exact points anonymous
      · have shown := (congrArg SaleRow.pointsAwarded same :)
        simpa [SaleRow.settled, ← customer, anonymous] using shown
    cases a
    cases b
    simp only [SaleRow.settled, SaleRow.mk.injEq] at same
    simp_all

theorem insert?_injective {t : Table SaleRow.id} {a b : SaleRow} (ha : t.insert? a = some sales)
    (hb : t.insert? b = some others) : sales = others ↔ a = b := by
  constructor
  · rintro rfl
    have rows := (Table.insert?_rows ha).1.symm.trans (Table.insert?_rows hb).1
    exact List.cons_eq_cons.mp (List.append_cancel_left rows) |>.1
  · rintro rfl
    exact Option.some_inj.mp (ha.symm.trans hb)

/-- The stored rows agree when the requests do on the fields a row keeps. -/
theorem rows_alike (same : first.clientPart = second.clientPart) :
    (pricedSale w env db first).toSaleRow = (pricedSale w env db second).toSaleRow ↔
      first.zohoSynced = second.zohoSynced ∧ first.installmentPlan = second.installmentPlan ∧
        (first.customerID = "" → first.pointsAwarded = second.pointsAwarded) := by
  have customer : first.customerID = second.customerID :=
    (congrArg (fun sale : Sale => sale.customerID) same :)
  have awarded : ∀ sale : Sale, sale.customerID = "" →
      (pricedSale w env db sale).pointsAwarded = sale.pointsAwarded := by
    intro sale anonymous
    simp [pricedSale, priceSale, stampSale, anonymous]
  rw [settled_eq_iff (pricedSale_settled same)]
  refine and_congr Iff.rfl (and_congr Iff.rfl ⟨fun points anonymous => ?_, fun points anonymous => ?_⟩)
  · rw [← awarded first anonymous, ← awarded second (customer ▸ anonymous)]
    exact points anonymous
  · rw [awarded first anonymous, awarded second (customer ▸ anonymous)]
    exact points anonymous

/-- The stored lines agree when the requests do on the returned quantities of new rows. -/
theorem lines_alike (same : first.clientPart = second.clientPart)
    (available : ∀ item ∈ first.items, Available w db.products item)
    (available' : ∀ item ∈ second.items, Available w db.products item) (t : Serial SaleItem.id) (saleID : String) :
    saveItems saleID t (pricedSale w env db first).items = saveItems saleID t (pricedSale w env db second).items ↔
      insertedQty (t.rows.map SaleItem.id) t.seq first.items =
        insertedQty (t.rows.map SaleItem.id) t.seq second.items := by
  have items : first.items.map SaleItem.clientPart = second.items.map SaleItem.clientPart :=
    (congrArg Sale.items same :)
  have carts : (soldCart w db.products first.items).unreturned = (soldCart w db.products second.items).unreturned := by
    rw [soldCart_client, soldCart_client, items]
  have sold : (pricedSale w env db first).items.map SaleItem.unreturned =
      (pricedSale w env db second).items.map SaleItem.unreturned := (congrArg Cart.items carts :)
  have brought := insertedQty_congr (t.rows.map SaleItem.id) t.seq (soldCart_numbers available)
  have brought' := insertedQty_congr (t.rows.map SaleItem.id) t.seq (soldCart_numbers available')
  rw [← brought, ← brought']
  constructor
  · intro tables
    have returned := congrArg (fun t : Serial SaleItem.id => t.rows.map SaleItem.returnedQty) tables
    simp only [saveItems_returned] at returned
    exact List.append_cancel_left returned
  · exact saveItems_alike sold

theorem commits_eq_iff (same : first.clientPart = second.clientPart)
    (done : Does (processSaleAs w env actor first) db u ws final) :
    (processSaleAs w env actor first).commit db = (processSaleAs w env actor second).commit db ↔
      StoredAlike db first second := by
  obtain ⟨sales, _, inserted, own⟩ := processSaleAs_twin rfl done
  obtain ⟨sales', _, inserted', twin⟩ := processSaleAs_twin same done
  have stored := (done.deterministic own).2.2
  have salesOf : final.sales = sales := (congrArg Store.sales stored :)
  have itemsOf : final.saleItems = saveItems (pricedSale w env db first).id db.saleItems
    (pricedSale w env db first).items := (congrArg Store.saleItems stored :)
  have id : (pricedSale w env db second).id = (pricedSale w env db first).id :=
    (congrArg (fun row : SaleRow => row.id) (@pricedSale_settled w env db first second same) :).symm
  have facts := (processSaleAs_does done).1
  have facts' := (processSaleAs_does twin).1
  have rows := (insert?_injective inserted inserted').trans (rows_alike same)
  have lines := @lines_alike w env db first second same facts.available facts'.available db.saleItems
    (pricedSale w env db first).id
  rw [commit_accepted done, commit_accepted twin, id]
  constructor
  · intro equal
    have sameSales : sales = sales' := salesOf.symm.trans (congrArg Store.sales equal)
    obtain ⟨synced, plan, points⟩ := rows.mp sameSales
    exact ⟨synced, plan, points, lines.mp (itemsOf.symm.trans (congrArg Store.saleItems equal))⟩
  · intro alike
    have sameSales := rows.mpr ⟨alike.synced, alike.plan, alike.points⟩
    rw [← lines.mpr alike.returned, ← itemsOf, ← sameSales, ← salesOf]
    rfl

end Commits

/-- Requests that agree in the client's fields are accepted together, and leave the same
store exactly when the stored fields agree as well. -/
theorem client_fields (w : Word) (env : Env) (actor : Actor) (db : Store) (first second : Sale)
    (same : first.clientPart = second.clientPart) :
    ((processSaleAs w env actor first).accepts db ↔ (processSaleAs w env actor second).accepts db) ∧
    (¬ (processSaleAs w env actor first).accepts db →
      (processSaleAs w env actor first).commit db = (processSaleAs w env actor second).commit db) ∧
    ((processSaleAs w env actor first).accepts db →
      ((processSaleAs w env actor first).commit db = (processSaleAs w env actor second).commit db ↔
        StoredAlike db first second)) := by
  have both : (processSaleAs w env actor first).accepts db ↔ (processSaleAs w env actor second).accepts db := by
    constructor
    · rintro ⟨_, _, _, done⟩
      obtain ⟨_, _, _, twin⟩ := processSaleAs_twin same done
      exact ⟨_, _, _, twin⟩
    · rintro ⟨_, _, _, done⟩
      obtain ⟨_, _, _, twin⟩ := processSaleAs_twin same.symm done
      exact ⟨_, _, _, twin⟩
  refine ⟨both, fun rejected => ?_, fun ⟨_, _, _, done⟩ => commits_eq_iff same done⟩
  rw [(commit_rejected rejected).1, (commit_rejected (fun accepted => rejected (both.mpr accepted))).1]

section Tea

/-- Two teas, of which the request says one was taken back. -/
def teasTakenBack : Sale :=
  { teaSale "s1" "" .cash none none 2 with items := [⟨0, "", "tea", "Tea", 1000, 2, 0, 0, 0, 1⟩] }

end Tea

/-- The quantity taken back is stored as it was sent: the sale is accepted with and
without it, and the stores differ. -/
theorem client_fields_returned :
    (teaSale "s1" "" .cash none none 2).clientPart = teasTakenBack.clientPart ∧
      (processSaleAs .exact till sara (teaSale "s1" "" .cash none none 2)).accepts shop ∧
      (processSaleAs .exact till sara teasTakenBack).accepts shop ∧
      (processSaleAs .exact till sara (teaSale "s1" "" .cash none none 2)).commit shop ≠
        (processSaleAs .exact till sara teasTakenBack).commit shop := by
  refine ⟨?_, ?_, ?_, ?_⟩ <;> decide +kernel

theorem client_fields_total :
    (processSaleAs .exact till sara (teaSale "s1" "" .cash none none 2)).commit shop =
      (processSaleAs .exact till sara { teaSale "s1" "" .cash none none 2 with total := 1, status := .paid }).commit
        shop := by
  have accepted : (processSaleAs .exact till sara (teaSale "s1" "" .cash none none 2)).accepts shop := by
    decide +kernel
  exact ((client_fields .exact till sara shop (teaSale "s1" "" .cash none none 2)
    { teaSale "s1" "" .cash none none 2 with total := 1, status := .paid } rfl).2.2 accepted).mpr
      ⟨rfl, rfl, fun _ => rfl, rfl⟩

end BeidarPos
