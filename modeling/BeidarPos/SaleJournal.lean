import BeidarPos.ReturnJournal
import BeidarPos.ProcessSale

/-! The journal of an accepted sale, and what the request passed on its way. -/
namespace BeidarPos

open Machine Relational Journal Tx

/-- What a line of the request was checked for. -/
structure CheckedItem (w : Word) (item : SaleItem) : Prop where
  quantity : 0 < item.quantity
  discount : 0 ≤ item.discount
  gross : item.discount ≤ Amount.mulFloat w item.price item.quantity

theorem checkItem_does {db final : Store} (h : Does (checkItem w item) db u ws final) :
    ws = [] ∧ final = db ∧ CheckedItem w item := by
  simp only [checkItem, does_bind, does_ensure] at h
  obtain ⟨_, _, _, _, ⟨quantity, rfl, rfl⟩, ⟨_, _, _, _, ⟨discount, rfl, rfl⟩, ⟨gross, rfl, rfl⟩, rfl⟩, rfl⟩ := h
  exact ⟨rfl, rfl, quantity, discount, gross⟩

theorem checkDiscountPermission_does {db final : Store}
    (h : Does (checkDiscountPermission actor sale) db u ws final) : ws = [] ∧ final = db := by
  rcases does_when.mp h with ⟨_, guarded⟩ | ⟨_, rfl, rfl⟩
  · simp only [requirePermissionFor, does_bind, does_ensure] at guarded
    obtain ⟨_, _, _, _, ⟨_, rfl, rfl⟩, ⟨_, rfl, rfl⟩, rfl⟩ := guarded
    exact ⟨rfl, rfl⟩
  · exact ⟨rfl, rfl⟩

/-- A sale without a customer leaves no debt. -/
structure PaidInFull (sale : SaleRow) : Prop where
  credit : sale.paymentMethod ≠ .credit
  installment : sale.paymentMethod ≠ .installment
  split : ¬ (sale.paymentMethod = .split ∧ ∃ split ∈ sale.splitDetails, 0 < split.get .credit)

theorem checkCustomer_does {db final : Store} {sale : Sale} (h : Does (checkCustomer sale) db u ws final) :
    ws = [] ∧ final = db ∧ (sale.customerID = "" → PaidInFull sale.toSaleRow) := by
  rcases does_when.mp h with ⟨_, guarded⟩ | ⟨named, rfl, rfl⟩
  · simp only [does_bind, does_ensure] at guarded
    obtain ⟨_, _, _, _, ⟨credit, rfl, rfl⟩, ⟨_, _, _, _, ⟨inst, rfl, rfl⟩, ⟨split, rfl, rfl⟩, rfl⟩, rfl⟩ := guarded
    exact ⟨rfl, rfl, fun _ => ⟨credit, inst, split⟩⟩
  · exact ⟨rfl, rfl, fun anonymous => absurd anonymous named⟩

/-- What a request was checked for before its transaction. -/
structure Admitted (w : Word) (sale : Sale) : Prop where
  items : sale.items ≠ []
  anonymous : sale.customerID = "" → PaidInFull sale.toSaleRow
  checked : ∀ item ∈ sale.items, CheckedItem w item

theorem admitSale_does {db final : Store} (h : Does (admitSale w actor sale) db u ws final) :
    ws = [] ∧ final = db ∧ Admitted w sale := by
  simp only [admitSale, does_bind, does_ensure] at h
  obtain ⟨_, _, _, _, ⟨items, rfl, rfl⟩, ⟨_, _, _, _, permission, ⟨_, _, _, _, customer, lines, rfl⟩, rfl⟩, rfl⟩ := h
  obtain ⟨rfl, rfl⟩ := checkDiscountPermission_does permission
  obtain ⟨rfl, rfl, anonymous⟩ := checkCustomer_does customer
  obtain ⟨rfl, rfl, checked⟩ := each_checks (fun _ _ _ _ _ body => checkItem_does body) lines
  exact ⟨rfl, rfl, items, anonymous, checked⟩

/-- One line added to the cart. -/
def addToCart (w : Word) (products : Table Product.id) (cart : Cart) (item : SaleItem) : Cart :=
  match products.find? item.productID with
  | none => cart
  | some product => {
      items := cart.items ++ [soldItem w product item]
      subtotal := w.add cart.subtotal (Amount.mulFloat w item.price item.quantity)
      total := w.add cart.total (lineTotal w item) }

def soldCart (w : Word) (products : Table Product.id) (items : List SaleItem) : Cart :=
  items.foldl (addToCart w products) ⟨[], 0, 0⟩

def soldWrites (env : Env) (saleID : String) (products : Table Product.id) (item : SaleItem) : List Write :=
  match products.find? item.productID with
  | none => []
  | some product =>
    [.updateStock item.productID (-item.quantity),
      .createStockMovement (saleMovement env saleID product item)]

/-- A line was sold from a product that has it in stock, at its price. -/
def Available (w : Word) (products : Table Product.id) (item : SaleItem) : Prop :=
  ∃ product, products.find? item.productID = some product ∧ item.quantity ≤ product.stock ∧
    priceMatches w product item

/-- A line of the request with the columns its product decides. -/
def soldLine (w : Word) (products : Table Product.id) (item : SaleItem) : SaleItem :=
  match products.find? item.productID with
  | some product => soldItem w product item
  | none => item

theorem soldCart_lines {w : Word} {products : Table Product.id} {items : List SaleItem}
    (available : ∀ item ∈ items, Available w products item) :
    (soldCart w products items).items = items.map (soldLine w products) := by
  suffices extended : ∀ cart : Cart, (items.foldl (addToCart w products) cart).items =
      cart.items ++ items.map (soldLine w products) from extended ⟨[], 0, 0⟩
  induction items with
  | nil => simp
  | cons item items ih =>
    intro cart
    obtain ⟨product, found, _, _⟩ := available item (by simp)
    rw [List.foldl_cons, ih fun other member => available other (by simp [member])]
    simp [addToCart, soldLine, found]

theorem sellItem_does {db final : Store}
    (h : Does (sellItem w env saleID products cart item) db cart' ws final) :
    cart' = addToCart w products cart item ∧ ws = soldWrites env saleID products item ∧
      Available w products item := by
  simp only [sellItem, does_bind, does_require, does_ensure, does_mapError, does_write, does_pure] at h
  obtain ⟨product, _, _, _, ⟨found, rfl, rfl⟩, ⟨_, _, _, _, ⟨stock, rfl, rfl⟩, ⟨_, _, _, _, ⟨price, rfl, rfl⟩,
    ⟨_, _, _, _, ⟨rfl, _⟩, ⟨_, _, _, _, ⟨rfl, _⟩, ⟨rfl, rfl, rfl⟩, rfl⟩, rfl⟩, rfl⟩, rfl⟩, rfl⟩ := h
  refine ⟨?_, ?_, product, found, stock, price⟩
  · simp [addToCart, found]
  · simp [soldWrites, found]

/-- What an installment plan was checked for against the invoice total. -/
structure CheckedPlan (w : Word) (sale : SaleRow) (plan : InstallmentPlan) : Prop where
  downPayment : 0 ≤ plan.downPayment
  bounded : plan.downPayment ≤ sale.total
  amounts : ∀ inst ∈ plan.entries, 0 ≤ inst.amount
  complete : ∀ schedule, plan.schedule = some schedule →
    schedule.foldl (fun sum inst => w.add sum inst.amount) 0 = w.sub sale.total plan.downPayment

theorem checkPlan_does {db final : Store} {sale : Sale} (h : Does (checkPlan w sale) db u ws final) :
    ws = [] ∧ final = db ∧ (sale.paymentMethod = .installment → ∀ plan, sale.installmentPlan = some plan →
      CheckedPlan w sale.toSaleRow plan) := by
  rcases does_when.mp h with ⟨inst, guarded⟩ | ⟨other, rfl, rfl⟩
  · cases planned : sale.installmentPlan with
    | none =>
      simp only [planned, does_pure] at guarded
      exact ⟨guarded.2.1, guarded.2.2, fun _ plan absent => by simp at absent⟩
    | some plan =>
      simp only [planned, does_bind, does_ensure] at guarded
      obtain ⟨_, _, _, _, ⟨down, rfl, rfl⟩, ⟨_, _, _, _, ⟨bounded, rfl, rfl⟩, guarded, rfl⟩, rfl⟩ := guarded
      cases scheduled : plan.schedule with
      | none =>
        simp only [scheduled, does_pure] at guarded
        refine ⟨by simp [guarded.2.1], guarded.2.2, fun _ plan' same => ?_⟩
        cases same
        exact ⟨down, bounded, by simp [InstallmentPlan.entries, scheduled], by simp [scheduled]⟩
      | some schedule =>
        simp only [scheduled, does_bind, does_ensure] at guarded
        obtain ⟨_, _, _, _, ⟨amounts, rfl, rfl⟩, ⟨sum, rfl, rfl⟩, rfl⟩ := guarded
        refine ⟨rfl, rfl, fun _ plan' same => ?_⟩
        cases same
        refine ⟨down, bounded, by simpa [InstallmentPlan.entries, scheduled] using amounts, ?_⟩
        intro schedule' same
        rw [scheduled] at same
        cases same
        exact sum
  · exact ⟨rfl, rfl, fun inst => absurd inst other⟩

def chargeWrites (w : Word) (env : Env) (sale : SaleRow) : List Write :=
  if sale.customerID = "" then []
  else [.incrementPurchasesAndDebt sale.customerID sale.total sale.pointsAwarded (debtIncrease sale)
    (installmentDebtIncrease w sale) env.date]

theorem chargeCustomer_does {db final : Store} (h : Does (chargeCustomer w env sale) db u ws final) :
    ws = chargeWrites w env sale ∧
      (sale.customerID ≠ "" → ∃ customer, db.customers.find? sale.customerID = some customer) := by
  rcases does_when.mp h with ⟨named, charged⟩ | ⟨anonymous, rfl, rfl⟩
  · simp only [does_bind, does_ask, does_require, does_write] at charged
    obtain ⟨_, _, _, _, ⟨rfl, rfl, rfl⟩, ⟨customer, _, _, _, ⟨found, rfl, rfl⟩, ⟨rfl, _⟩, rfl⟩, rfl⟩ := charged
    refine ⟨?_, fun _ => ⟨customer, found⟩⟩
    simp [chargeWrites, named, Table.find?_key found]
  · refine ⟨?_, fun named => absurd named anonymous⟩
    rw [chargeWrites, if_pos (not_not.mp anonymous)]

/-- What the legs of a split payment were checked for, in the order they were visited. -/
structure CheckedSplit (w : Word) (env : Env) (sale : SaleRow) (split : SplitDetails) : Prop where
  legs : ∀ leg ∈ split.legs, 0 ≤ leg.2 ∧ leg.2 ≤ sale.total
  complete : ((env.order 1).visit split.legs).foldl (fun sum leg => w.add sum leg.2) 0 = sale.total

theorem savePayment_does {row : Payment} {db final : Store} (h : Does (savePayment row) db u ws final) :
    ws = [.createPayment row] := by
  simp only [savePayment, does_mapError, does_write] at h
  exact h.1

theorem savePayment_when {row : Payment} {db final : Store}
    (h : Does (when (0 < amount) (savePayment row)) db u ws final) : ws = rowFor amount row := by
  rcases does_when.mp h with ⟨positive, saved⟩ | ⟨skipped, rfl, _⟩
  · rw [savePayment_does saved, rowFor, if_pos positive]
  · rw [rowFor, if_neg skipped]

def splitPaymentWrites (env : Env) (sale : SaleRow) (split : SplitDetails) : List Write :=
  ((env.order 2).visit split.legs).flatMap fun leg =>
    rowFor leg.2 (paymentRow env sale leg.2 leg.1 "Split Payment")

theorem recordSplit_does {db final : Store} (h : Does (recordSplit w env sale split) db u ws final) :
    ws = splitPaymentWrites env sale split ∧ CheckedSplit w env sale split := by
  simp only [recordSplit, does_bind, does_ensure] at h
  obtain ⟨_, _, _, _, legs, ⟨_, _, _, _, ⟨complete, rfl, rfl⟩, rows, rfl⟩, rfl⟩ := h
  have passed : ∀ leg : PaymentMethod × Int, ∀ db ws final, Does (checkLeg sale leg) db () ws final →
      ws = [] ∧ final = db ∧ 0 ≤ leg.2 ∧ leg.2 ≤ sale.total := by
    intro leg db ws final checked
    simp only [checkLeg, does_bind, does_ensure] at checked
    obtain ⟨_, _, _, _, ⟨low, rfl, rfl⟩, ⟨high, rfl, rfl⟩, rfl⟩ := checked
    exact ⟨rfl, rfl, low, high⟩
  obtain ⟨rfl, rfl, checked⟩ := each_checks (fun leg _ => passed leg) legs
  refine ⟨?_, ?_, complete⟩
  · rw [each_journal (fun _ _ _ _ _ body => savePayment_when body) rows]
    rfl
  · intro leg member
    exact checked leg (((env.order 0).perm split.legs).mem_iff.mpr member)

def paymentWrites (w : Word) (env : Env) (sale : SaleRow) : List Write :=
  match sale.paymentMethod, sale.splitDetails with
  | .split, some split => splitPaymentWrites env sale split
  | _, _ =>
    rowFor (paymentAmount w sale) (paymentRow env sale (paymentAmount w sale) sale.paymentMethod "") ++
    rowFor (downPayment sale) (paymentRow env sale (downPayment sale) .cash "الدفعة الأولى")

theorem paymentWrites_single
    (notSplit : ∀ split, sale.paymentMethod = .split → sale.splitDetails = some split → False) :
    paymentWrites w env sale =
      rowFor (paymentAmount w sale) (paymentRow env sale (paymentAmount w sale) sale.paymentMethod "") ++
      rowFor (downPayment sale) (paymentRow env sale (downPayment sale) .cash "الدفعة الأولى") := by
  unfold paymentWrites
  split
  · rename_i split kind details
    exact (notSplit split kind details).elim
  · rfl

theorem recordPayments_does {db final : Store} (h : Does (recordPayments w env sale) db u ws final) :
    ws = paymentWrites w env sale ∧ (sale.paymentMethod = .split → ∀ split, sale.splitDetails = some split →
      CheckedSplit w env sale split) := by
  unfold recordPayments at h
  split at h
  · rename_i split kind details
    obtain ⟨rfl, checked⟩ := recordSplit_does h
    refine ⟨by simp [paymentWrites, kind, details], fun _ split' same => ?_⟩
    rw [details] at same
    cases same
    exact checked
  · rename_i notSplit
    simp only [recordSingle, does_bind] at h
    obtain ⟨_, front, _, back, first, second, rfl⟩ := h
    refine ⟨?_, fun kind split details => absurd details (notSplit split kind)⟩
    rw [savePayment_when first, savePayment_when second, paymentWrites_single notSplit]

/-- The last writes of a sale: the shift, and the discount when there is one. -/
def shiftWrites (requireShift : Bool) (sale : SaleRow) : List Write :=
  .updateShiftSales sale.total (saleCash sale) true requireShift ::
    if 0 < sale.discount then [.log (discountLog sale)] else []

def pricedSale (w : Word) (env : Env) (db : Store) (request : Sale) : Sale :=
  let sale := stampSale env request
  priceSale w ((db.preferences.map AppPreferences.taxRate).getD 0) sale (soldCart w db.products sale.items)

def shiftNeeded (db : Store) : Bool := (db.preferences.map AppPreferences.requireShift).getD false

def saleJournal (w : Word) (env : Env) (db : Store) (request : Sale) : List Write :=
  let sale := pricedSale w env db request
  request.items.flatMap (soldWrites env sale.id db.products) ++
  .createSale sale :: (chargeWrites w env sale.toSaleRow ++ paymentWrites w env sale.toSaleRow ++
    shiftWrites (shiftNeeded db) sale.toSaleRow)

/-- What an accepted request passed, in terms of the sale it became. -/
structure SaleFacts (w : Word) (env : Env) (db : Store) (request : Sale) : Prop where
  admitted : Admitted w (stampSale env request)
  available : ∀ item ∈ request.items, Available w db.products item
  discount : 0 ≤ request.discount
  bounded : request.discount ≤ (soldCart w db.products request.items).total
  plan : (pricedSale w env db request).paymentMethod = .installment →
    ∀ plan, (pricedSale w env db request).installmentPlan = some plan →
      CheckedPlan w (pricedSale w env db request).toSaleRow plan
  customer : request.customerID ≠ "" → ∃ customer, db.customers.find? request.customerID = some customer
  split : (pricedSale w env db request).paymentMethod = .split →
    ∀ split, (pricedSale w env db request).splitDetails = some split →
      CheckedSplit w env (pricedSale w env db request).toSaleRow split
  fresh : db.sales.find? (stampSale env request).id = none

theorem checkInvoiceDiscount_does {sale : Sale} {db final : Store}
    (h : Does (checkInvoiceDiscount sale cart) db u ws final) :
    ws = [] ∧ final = db ∧ 0 ≤ sale.discount ∧ sale.discount ≤ cart.total := by
  simp only [checkInvoiceDiscount, does_bind, does_ensure] at h
  obtain ⟨_, _, _, _, ⟨low, rfl, rfl⟩, ⟨high, rfl, rfl⟩, rfl⟩ := h
  exact ⟨rfl, rfl, low, high⟩

theorem commitSale_does {sale : Sale} {db final : Store} (h : Does (commitSale w env need sale) db u ws final) :
    db.sales.find? sale.id = none ∧
    (sale.customerID ≠ "" → ∃ customer, db.customers.find? sale.customerID = some customer) ∧
    (sale.paymentMethod = .split → ∀ split, sale.splitDetails = some split →
      CheckedSplit w env sale.toSaleRow split) ∧
    ws = .createSale sale :: (chargeWrites w env sale.toSaleRow ++ paymentWrites w env sale.toSaleRow ++
      shiftWrites need sale.toSaleRow) := by
  simp only [commitSale, does_bind, does_mapError, does_write] at h
  obtain ⟨_, _, stored, _, ⟨rfl, created⟩, ⟨_, _, _, _, charge, ⟨_, _, _, _, payments,
    ⟨_, _, _, _, ⟨rfl, _⟩, logged, rfl⟩, rfl⟩, rfl⟩, rfl⟩ := h
  obtain ⟨sales, inserted, rfl⟩ := createSale_ok created
  obtain ⟨rfl, customer⟩ := chargeCustomer_does charge
  obtain ⟨rfl, split⟩ := recordPayments_does payments
  refine ⟨(Table.insert?_rows inserted).2, customer, split, ?_⟩
  rcases does_when.mp logged with ⟨discounted, written⟩ | ⟨none, rfl, _⟩
  · simp [shiftWrites, discounted, (does_write.mp written).1]
  · simp [shiftWrites, none]

theorem confined_sold (env : Env) (saleID : String) (products : Table Product.id) (items : List SaleItem) :
    Confined [.stock] (items.flatMap (soldWrites env saleID products)) := by
  refine Confined.flatMap ?_
  intro item
  unfold soldWrites
  split
  · exact confined_nil
  · simp [Confined, Write.area]

theorem confined_charge (w : Word) (env : Env) (sale : SaleRow) : Confined [.customers] (chargeWrites w env sale) := by
  unfold chargeWrites
  split
  · exact confined_nil
  · simp [Confined, Write.area]

theorem confined_payments (w : Word) (env : Env) (sale : SaleRow) : Confined [.ledger] (paymentWrites w env sale) := by
  unfold paymentWrites
  split
  · exact Confined.flatMap fun leg => confined_rowFor _ _
  · exact (confined_rowFor _ _).append (confined_rowFor _ _)

theorem processSaleAs_does {db final : Store} (h : Does (processSaleAs w env actor request) db u ws final) :
    SaleFacts w env db request ∧ ws = saleJournal w env db request := by
  unfold processSaleAs at h
  rw [does_bind] at h
  obtain ⟨_, _, start, _, admission, h, rfl⟩ := h
  rw [does_ask_bind, does_ask_bind, does_bind] at h
  obtain ⟨cart, stockWs, sold, _, sell, h, rfl⟩ := h
  rw [does_bind] at h
  obtain ⟨_, _, _, _, invoice, h, rfl⟩ := h
  obtain ⟨_, _, ready, _, planned, done, rfl⟩ := does_bind.mp h
  obtain ⟨rfl, rfl, admitted⟩ := admitSale_does admission
  obtain ⟨rfl, rfl, available⟩ := foldEach_journal (g := addToCart w start.products)
    (fun _ _ _ _ _ _ _ body => sellItem_does body) sell
  obtain ⟨rfl, rfl, low, high⟩ := checkInvoiceDiscount_does invoice
  obtain ⟨rfl, rfl, plan⟩ := checkPlan_does planned
  obtain ⟨fresh, customer, split, rfl⟩ := commitSale_does done
  have sales : ∀ id, ready.sales.find? id = start.sales.find? id := by
    intro id
    have replayed := (saleCell id).replay_read sell.replays
    rw [(sale_within id).frame (confined_sold _ _ _ _) (by decide)] at replayed
    exact replayed
  have customers : ∀ id, ready.customers.find? id = start.customers.find? id := by
    intro id
    have replayed := (customerCell id).replay_read sell.replays
    rw [(customer_within id).frame (confined_sold _ _ _ _) (by decide)] at replayed
    exact replayed
  refine ⟨⟨admitted, available, low, high, plan, fun named => ?_, split, ?_⟩, ?_⟩
  · obtain ⟨found, h⟩ := customer named
    exact ⟨found, (customers _).symm.trans h⟩
  · exact (sales _).symm.trans fresh
  · simp [saleJournal, pricedSale, shiftNeeded, priceSale, stampSale, soldCart]

/-- The journal in three parts: stock and the sale, the customer, ledger and shift. -/
theorem saleJournal_parts (w : Word) (env : Env) (db : Store) (request : Sale) :
    ∃ front back, saleJournal w env db request =
        front ++ (chargeWrites w env (pricedSale w env db request).toSaleRow ++
          (paymentWrites w env (pricedSale w env db request).toSaleRow ++
            (.updateShiftSales (pricedSale w env db request).total
              (saleCash (pricedSale w env db request).toSaleRow) true (shiftNeeded db) :: back))) ∧
      Confined [.stock, .sales] front ∧ Confined [.log] back := by
  refine ⟨request.items.flatMap (soldWrites env (pricedSale w env db request).id db.products) ++
      [.createSale (pricedSale w env db request)],
    if 0 < (pricedSale w env db request).discount then
      [.log (discountLog (pricedSale w env db request).toSaleRow)] else [], ?_, ?_, ?_⟩
  · simp [saleJournal, shiftWrites]
  · refine ((confined_sold _ _ _ _).mono (by simp)).append ?_
    simp [Confined, Write.area]
  · split
    · simp [Confined, Write.area]
    · exact confined_nil

theorem confined_shift (requireShift : Bool) (sale : SaleRow) :
    Confined [.shifts, .log] (shiftWrites requireShift sale) := by
  unfold shiftWrites
  split <;> simp [Confined, Write.area]

/-- The sale is written once, after the stock and before everything else. -/
theorem saleJournal_created (w : Word) (env : Env) (db : Store) (request : Sale) :
    ∃ front back, saleJournal w env db request = front ++ .createSale (pricedSale w env db request) :: back ∧
      Confined [.stock] front ∧ Confined [.customers, .ledger, .shifts, .log] back := by
  refine ⟨_, _, rfl, confined_sold _ _ _ _, ?_⟩
  have charge := (confined_charge w env (pricedSale w env db request).toSaleRow).mono
    (show [Area.customers] ⊆ [.customers, .ledger, .shifts, .log] by simp)
  have payments := (confined_payments w env (pricedSale w env db request).toSaleRow).mono
    (show [Area.ledger] ⊆ [.customers, .ledger, .shifts, .log] by simp)
  have shift := (confined_shift (shiftNeeded db) (pricedSale w env db request).toSaleRow).mono
    (show [Area.shifts, .log] ⊆ [.customers, .ledger, .shifts, .log] by simp)
  exact (charge.append payments).append shift

theorem saleJournal_row (w : Word) (env : Env) (db : Store) (request : Sale) (id : String) (o : Option SaleRow) :
    (saleCell id).steps (saleJournal w env db request) o =
      if id = (pricedSale w env db request).id then some (pricedSale w env db request).toSaleRow else o := by
  obtain ⟨front, back, parts, first, last⟩ := saleJournal_created w env db request
  rw [parts, Cell.steps_append, (sale_within id).frame first (by decide), Cell.steps_cons,
    (sale_within id).frame last (by decide)]
  rfl

/-- The payment rows of a sale are those of its payment part. -/
theorem saleJournal_rows (w : Word) (env : Env) (db : Store) (request : Sale) :
    createdRows (saleJournal w env db request) =
      createdRows (paymentWrites w env (pricedSale w env db request).toSaleRow) := by
  obtain ⟨front, back, parts, first, last⟩ := saleJournal_parts w env db request
  have tail : Confined [.shifts, .log] (.updateShiftSales (pricedSale w env db request).total
      (saleCash (pricedSale w env db request).toSaleRow) true (shiftNeeded db) :: back) :=
    confined_cons.mpr ⟨by simp [Write.area], last.mono (by simp)⟩
  rw [parts, createdRows_append, createdRows_append, createdRows_append, createdRows_frame first (by decide),
    createdRows_frame (confined_charge _ _ _) (by decide), createdRows_frame tail (by decide)]
  simp

/-- A balance of a customer is moved by the charge alone. -/
theorem saleJournal_balance {id : String} {balance : Customer → Int} {change : Write → Int → Int}
    {moves : ∀ w c, balance (w.onCustomer c) = change w (balance c)} (w : Word) (env : Env) (db : Store)
    (request : Sale) (o : Option Int) :
    (balanceCell id balance change moves).steps (saleJournal w env db request) o =
      (balanceCell id balance change moves).steps
        (chargeWrites w env (pricedSale w env db request).toSaleRow) o := by
  obtain ⟨front, back, parts, first, last⟩ := saleJournal_parts w env db request
  rw [parts, Cell.steps_append, Cell.steps_append, Cell.steps_append, balance_within.frame first (by decide),
    balance_within.frame (confined_payments _ _ _) (by decide), Cell.steps_cons,
    balance_within.frame last (by decide)]
  rfl

/-- The open shift is moved by the one shift update of the sale. -/
theorem saleJournal_drawer (w : Word) (env : Env) (db : Store) (request : Sale) (o : Option Shift) :
    drawerSteps (saleJournal w env db request) o =
      drawerStep (.updateShiftSales (pricedSale w env db request).total
        (saleCash (pricedSale w env db request).toSaleRow) true (shiftNeeded db)) o := by
  obtain ⟨front, back, parts, first, last⟩ := saleJournal_parts w env db request
  rw [parts, drawerSteps_append, drawerSteps_append, drawerSteps_append, drawerSteps_frame first (by decide),
    drawerSteps_frame (confined_charge _ _ _) (by decide), drawerSteps_frame (confined_payments _ _ _) (by decide)]
  exact drawerSteps_frame last (by decide) _

end BeidarPos
