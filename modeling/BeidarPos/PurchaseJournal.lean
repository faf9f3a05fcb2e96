import BeidarPos.PurchaseOrders

/-! The journals of the accepted calls on purchase orders, and the parts of the depot
the results are about: one order's row, one supplier's balance and the order lines. -/
namespace BeidarPos

open Machine Relational Journal Tx

section Parts

theorem shop_ok {write : Write} {d final : Depot} (h : DepotWrite.apply (.shop write) d = .ok final) :
    ∃ store, write.apply d.store = .ok store ∧ final = { d with store := store } := by
  simp only [DepotWrite.apply] at h
  cases applied : write.apply d.store with
  | error e => simp [applied, Except.map] at h
  | ok store =>
    simp only [applied, Except.map, Except.ok.injEq] at h
    exact ⟨store, rfl, h.symm⟩

theorem createOrder_ok {order : PurchaseOrder} {d final : Depot}
    (h : DepotWrite.apply (.createPurchaseOrder order) d = .ok final) :
    ∃ orders, d.purchaseOrders.insert? order.toPurchaseOrderRow = some orders ∧
      final = { d with
        purchaseOrders := orders
        purchaseOrderItems := saveOrderItems order.id d.purchaseOrderItems order.items } := by
  simp only [DepotWrite.apply] at h
  cases inserted : d.purchaseOrders.insert? order.toPurchaseOrderRow with
  | none => simp [inserted] at h
  | some orders =>
    simp only [inserted, Except.ok.injEq] at h
    exact ⟨orders, rfl, h.symm⟩

def orderRowStep (id : String) : DepotWrite → Option PurchaseOrderRow → Option PurchaseOrderRow
  | .createPurchaseOrder order, o => if id = order.id then some order.toPurchaseOrderRow else o
  | .updatePurchaseOrder order, o => if id = order.id then o.map (fun _ => order.toPurchaseOrderRow) else o
  | _, o => o

/-- The row of one order. -/
def orderRowCell (id : String) : Cell DepotWrite.apply (Option PurchaseOrderRow) where
  read := fun d => d.purchaseOrders.find? id
  step := orderRowStep id
  law := by
    intro w d final h
    cases w with
    | shop => obtain ⟨_, _, rfl⟩ := shop_ok h; rfl
    | createPurchaseOrder order =>
      obtain ⟨orders, inserted, rfl⟩ := createOrder_ok h
      exact Table.find?_insert inserted id
    | updatePurchaseOrder order => cases h; exact Table.find?_put
    | _ => cases h; rfl

def balanceOf (supplierID : String) (d : Depot) : Option Int := (d.suppliers.find? supplierID).map Supplier.balance

def supplierBalanceStep (supplierID : String) : DepotWrite → Option Int → Option Int
  | .updateBalance id amount, o => if supplierID = id then o.map (fun balance => clampSub balance amount) else o
  | _, o => o

/-- What one supplier is owed. -/
def supplierBalanceCell (supplierID : String) : Cell DepotWrite.apply (Option Int) where
  read := balanceOf supplierID
  step := supplierBalanceStep supplierID
  law := by
    intro w d final h
    cases w with
    | shop => obtain ⟨_, _, rfl⟩ := shop_ok h; rfl
    | createPurchaseOrder order => obtain ⟨_, _, rfl⟩ := createOrder_ok h; rfl
    | updateBalance id amount =>
      cases h
      have modified := Table.find?_modify d.suppliers id (Supplier.updateBalance amount) (fun _ => rfl) supplierID
      simp only [balanceOf, supplierBalanceStep, modified]
      split
      · rw [Option.map_map, Option.map_map]
        rfl
      · rfl
    | _ => cases h; rfl

def orderLinesStep : DepotWrite → Serial PurchaseOrderItem.id → Serial PurchaseOrderItem.id
  | .createPurchaseOrder order, t | .updatePurchaseOrder order, t => saveOrderItems order.id t order.items
  | .deleteItemsByOrderID orderID, t => t.filter (fun item => item.orderID ≠ orderID)
  | .updateItemReceivedQty itemID qty, t => t.modify itemID (PurchaseOrderItem.receivedAs qty) PurchaseOrderItem.receivedAs_id
  | _, t => t

/-- The lines of all orders. -/
def orderLinesCell : Cell DepotWrite.apply (Serial PurchaseOrderItem.id) where
  read := Depot.purchaseOrderItems
  step := orderLinesStep
  law := by
    intro w d final h
    cases w with
    | shop => obtain ⟨_, _, rfl⟩ := shop_ok h; rfl
    | createPurchaseOrder order => obtain ⟨_, _, rfl⟩ := createOrder_ok h; rfl
    | _ => cases h; rfl

end Parts

section Calls

variable {w : Word} {env : Env} {d final : Depot} {ws : List DepotWrite}

theorem getPurchaseOrder_row {id : String} {order : PurchaseOrder} (h : d.getPurchaseOrder id = some order) :
    d.purchaseOrders.find? id = some order.toPurchaseOrderRow ∧ order.items = d.getOrderItems id ∧ order.id = id := by
  obtain ⟨row, found, rfl⟩ := Option.map_eq_some_iff.mp h
  exact ⟨found, rfl, Table.find?_key found⟩

/-- A line a new or an edited order is accepted with. -/
def AdmittedLine (item : PurchaseOrderItem) : Prop := 0 < item.quantity ∧ 0 < item.unitCost

theorem checkOrderItems_does {items : List PurchaseOrderItem} (h : Does (each checkOrderItem items) d u ws final) :
    ws = [] ∧ final = d ∧ ∀ item ∈ items, AdmittedLine item := by
  refine each_checks ?_ h
  intro item _ s ws final checked
  unfold checkOrderItem at checked
  rw [does_ensure_bind, does_ensure] at checked
  obtain ⟨quantity, cost, rfl, rfl⟩ := checked
  exact ⟨rfl, rfl, quantity, cost⟩

theorem createPurchaseOrder_does {order : PurchaseOrder} (h : Does (createPurchaseOrder w env order) d u ws final) :
    order.supplierID ≠ "" ∧ order.items ≠ [] ∧ (∀ item ∈ order.items, AdmittedLine item) ∧
      ws = [.createPurchaseOrder (newOrder w env (d.suppliers.find? order.supplierID) order)] := by
  unfold createPurchaseOrder at h
  rw [does_ensure_bind, does_ensure_bind, does_bind] at h
  obtain ⟨supplied, filled, _, _, _, _, checked, h, rfl⟩ := h
  obtain ⟨rfl, rfl, admitted⟩ := checkOrderItems_does checked
  rw [does_ask_bind, does_write] at h
  exact ⟨supplied, filled, admitted, by rw [h.1]; rfl⟩

theorem updatePurchaseOrder_does {order : PurchaseOrder} (h : Does (updatePurchaseOrder w order) d u ws final) :
    ∃ existing, d.getPurchaseOrder order.id = some existing ∧ existing.status = .pending ∧
      (∀ item ∈ order.items, AdmittedLine item) ∧
      ws = [.deleteItemsByOrderID order.id, .updatePurchaseOrder (editedOrder w order)] := by
  unfold updatePurchaseOrder at h
  rw [does_ask_bind, does_require_bind] at h
  obtain ⟨existing, loaded, h⟩ := h
  rw [does_ensure_bind, does_bind] at h
  obtain ⟨pending, _, _, _, _, checked, h, rfl⟩ := h
  obtain ⟨rfl, rfl, admitted⟩ := checkOrderItems_does checked
  rw [does_write_bind] at h
  obtain ⟨_, _, _, h, rfl⟩ := h
  rw [does_write] at h
  exact ⟨existing, loaded, pending, admitted, by rw [h.1]; rfl⟩

/-- What a cancellation gives back to the supplier's balance. -/
def revertWrites (w : Word) (order : PurchaseOrderRow) : List DepotWrite :=
  if 0 < order.paidAmount ∧ order.supplierID ≠ "" then [.updateBalance order.supplierID (w.neg order.paidAmount)]
  else []

theorem cancelPurchaseOrder_does {id : String} (h : Does (cancelPurchaseOrder w id) d u ws final) :
    ∃ order, d.getPurchaseOrder id = some order ∧
      (order.status = .pending ∨ order.status = .partiallyReceived) ∧
      ws = revertWrites w order.toPurchaseOrderRow ++ [.updatePurchaseOrder { order with status := .cancelled }] := by
  unfold cancelPurchaseOrder at h
  rw [does_ask_bind, does_require_bind] at h
  obtain ⟨order, loaded, h⟩ := h
  rw [does_ensure_bind, does_bind] at h
  obtain ⟨«open», _, _, _, _, reverted, h, rfl⟩ := h
  rw [does_write] at h
  refine ⟨order, loaded, «open», ?_⟩
  rw [h.1]
  congr 1
  rcases does_when.mp reverted with ⟨paid, written⟩ | ⟨unpaid, rfl, _⟩
  · rw [(does_write.mp written).1, revertWrites, if_pos paid]
  · rw [revertWrites, if_neg unpaid]

structure PaymentFacts (w : Word) (d : Depot) (orderID : String) (amount : Int) (order : PurchaseOrder) : Prop where
  positive : 0 < amount
  loaded : d.getPurchaseOrder orderID = some order
  active : order.status ≠ .cancelled
  owing : 0 < w.sub order.totalAmount order.paidAmount
  covered : amount ≤ w.sub order.totalAmount order.paidAmount

theorem payPurchaseOrder_does {orderID : String} {amount : Int}
    (h : Does (payPurchaseOrder w orderID amount) d u ws final) :
    ∃ order, PaymentFacts w d orderID amount order ∧
      ws = [.updatePurchaseOrder { order with paidAmount := w.add order.paidAmount amount },
        .updateBalance order.supplierID amount] := by
  unfold payPurchaseOrder at h
  rw [does_ensure_bind, does_ask_bind, does_require_bind] at h
  obtain ⟨positive, order, loaded, h⟩ := h
  rw [does_ensure_bind, does_ensure_bind, does_ensure_bind, does_write_bind] at h
  obtain ⟨active, owing, covered, _, _, _, h, rfl⟩ := h
  rw [does_write] at h
  exact ⟨order, ⟨positive, loaded, active, owing, covered⟩, by rw [h.1]⟩

/-- One turn of the receive loop on the lines in memory. -/
def takeOffer (state : Receiving) (offer : PurchaseOrderItem) : Receiving :=
  match acceptedOffer state.orderItems offer with
  | none => state
  | some (item, toReceive) => {
      orderItems := receivedInto item.id (item.receivedQty + toReceive) state.orderItems
      allReceived := state.allReceived && !decide (item.receivedQty + toReceive < item.quantity) }

def offerWrites (env : Env) (orderID : String) (products : Table Product.id) (state : Receiving)
    (offer : PurchaseOrderItem) : List DepotWrite :=
  match acceptedOffer state.orderItems offer with
  | none => []
  | some (item, toReceive) => [
      .updateItemReceivedQty item.id (item.receivedQty + toReceive),
      .shop (.updateStock offer.productID toReceive),
      .shop (.createStockMovement (restockMovement env orderID
        (((products.find? offer.productID).map Product.name).getD item.productName) offer toReceive))]

theorem receiveItem_does {orderID : String} {products : Table Product.id} {state next : Receiving}
    {offer : PurchaseOrderItem} (h : Does (receiveItem env orderID products state offer) d next ws final) :
    next = takeOffer state offer ∧ ws = offerWrites env orderID products state offer := by
  unfold receiveItem at h
  split at h
  · rename_i passed
    obtain ⟨rfl, rfl, _⟩ := does_pure.mp h
    simp [takeOffer, offerWrites, passed]
  · rename_i item toReceive taken
    rw [does_write_bind] at h
    obtain ⟨_, _, _, h, rfl⟩ := h
    rw [does_write_bind] at h
    obtain ⟨_, _, _, h, rfl⟩ := h
    rw [does_write_bind] at h
    obtain ⟨_, _, _, h, rfl⟩ := h
    obtain ⟨rfl, rfl, _⟩ := does_pure.mp h
    simp [takeOffer, offerWrites, taken]

def receiveWrites (env : Env) (orderID : String) (products : Table Product.id) :
    List PurchaseOrderItem → Receiving → List DepotWrite
  | [], _ => []
  | offer :: offers, state =>
    offerWrites env orderID products state offer ++ receiveWrites env orderID products offers (takeOffer state offer)

theorem receiveItems_does {orderID : String} {products : Table Product.id} {offers : List PurchaseOrderItem}
    {state next : Receiving} (h : Does (foldEach (receiveItem env orderID products) offers state) d next ws final) :
    next = offers.foldl takeOffer state ∧ ws = receiveWrites env orderID products offers state := by
  induction offers generalizing state d ws with
  | nil =>
    obtain ⟨rfl, rfl, _⟩ := does_foldEach_nil.mp h
    exact ⟨rfl, rfl⟩
  | cons offer offers ih =>
    obtain ⟨middle, _, _, _, head, tail, rfl⟩ := does_foldEach_cons.mp h
    obtain ⟨rfl, rfl⟩ := receiveItem_does head
    obtain ⟨rfl, rfl⟩ := ih tail
    exact ⟨rfl, rfl⟩

/-- The lines and the flag after all offers of a request. -/
def received (d : Depot) (orderID : String) (items : List PurchaseOrderItem) : Receiving :=
  items.foldl takeOffer ⟨d.getOrderItems orderID, true⟩

def fullyReceived (orderItems : List PurchaseOrderItem) : Bool :=
  orderItems.all (fun item => !decide (item.receivedQty < item.quantity))

def partlyReceived (orderItems : List PurchaseOrderItem) : Bool :=
  orderItems.any (fun item => decide (0 < item.receivedQty))

/-- How the order is saved after the loop, if it is. -/
def receiptWrites (env : Env) (order : PurchaseOrder) (state : Receiving) : List DepotWrite :=
  if (state.allReceived && fullyReceived state.orderItems) = true then
    [.updatePurchaseOrder { order with status := .received, receivedAt := env.millis }]
  else if partlyReceived state.orderItems = true then
    [.updatePurchaseOrder { order with status := .partiallyReceived }]
  else []

structure ReceiveFacts (d : Depot) (orderID : String) (order : PurchaseOrder) : Prop where
  loaded : d.getPurchaseOrder orderID = some order
  unreceived : order.status ≠ .received
  active : order.status ≠ .cancelled

theorem receivePurchaseOrder_does {orderID : String} {items : List PurchaseOrderItem}
    (h : Does (receivePurchaseOrder env orderID items) d u ws final) :
    ∃ order, ReceiveFacts d orderID order ∧
      ws = receiveWrites env orderID d.store.products items ⟨d.getOrderItems orderID, true⟩ ++
        receiptWrites env order (received d orderID items) := by
  unfold receivePurchaseOrder at h
  rw [does_ask_bind, does_require_bind] at h
  obtain ⟨order, loaded, h⟩ := h
  rw [does_ensure_bind, does_ensure_bind, does_ask_bind, does_ask_bind, does_bind] at h
  obtain ⟨unreceived, active, state, _, _, _, loop, h, rfl⟩ := h
  obtain ⟨rfl, rfl⟩ := receiveItems_does loop
  refine ⟨order, ⟨loaded, unreceived, active⟩, ?_⟩
  congr 1
  unfold receiptWrites received fullyReceived partlyReceived
  dsimp only at h
  split at h
  · rename_i complete
    rw [if_pos complete, (does_write.mp h).1]
  · rename_i incomplete
    rw [if_neg incomplete]
    rcases does_when.mp h with ⟨some, written⟩ | ⟨none, rfl, _⟩
    · rw [if_pos some, (does_write.mp written).1]
    · rw [if_neg none]

/-- The receive loop saves no order and moves no balance. -/
theorem receiveWrites_frame {β : Type} {cell : Cell DepotWrite.apply β} {orderID : String}
    {products : Table Product.id} {offers : List PurchaseOrderItem} {state : Receiving}
    (shop : ∀ write b, cell.step (.shop write) b = b)
    (line : ∀ itemID qty b, cell.step (.updateItemReceivedQty itemID qty) b = b) (b : β) :
    cell.steps (receiveWrites env orderID products offers state) b = b := by
  induction offers generalizing state with
  | nil => rfl
  | cons offer offers ih =>
    have head : cell.steps (offerWrites env orderID products state offer) b = b := by
      unfold offerWrites
      split
      · rfl
      · simp [shop, line]
    rw [receiveWrites, Cell.steps_append, head]
    exact ih

end Calls

end BeidarPos
