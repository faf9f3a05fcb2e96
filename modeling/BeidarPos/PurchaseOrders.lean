import BeidarPos.Store

/-! Purchase orders: ordering from a supplier, paying, receiving into stock and
cancelling. The depot is the store with the supplier and order tables beside it; a
write on the store is one of the depot's writes. -/
namespace BeidarPos

open Machine Relational Journal Tx

structure Supplier where
  id : String
  name : String
  companyName : String
  phone : String
  email : String
  notes : String
  balance : Int
  deriving DecidableEq

/-- `POStatusPending` and so on; a client may save any other text on an edit. -/
inductive PurchaseOrderStatus where
  | pending | partiallyReceived | received | cancelled
  | other (name : String) (unlisted : name ∉ ["pending", "partial", "received", "cancelled"])
  deriving DecidableEq

structure PurchaseOrderItem where
  id : Nat
  orderID : String
  productID : String
  productName : String
  quantity : ℚ
  receivedQty : ℚ
  unitCost : Int
  total : Int
  deriving DecidableEq

/-- The columns of an order. -/
structure PurchaseOrderRow where
  id : String
  supplierID : String
  supplierName : String
  status : PurchaseOrderStatus
  totalAmount : Int
  paidAmount : Int
  note : String
  createdAt : Int
  receivedAt : Int
  deriving DecidableEq

/-- An order with its lines, as a client sends it and as a preload returns it. -/
structure PurchaseOrder extends PurchaseOrderRow where
  items : List PurchaseOrderItem
  deriving DecidableEq

structure Depot where
  store : Store
  suppliers : Table Supplier.id
  purchaseOrders : Table PurchaseOrderRow.id
  purchaseOrderItems : Serial PurchaseOrderItem.id
  deriving DecidableEq

def PurchaseOrderItem.numbered (item : PurchaseOrderItem) (n : Nat) : PurchaseOrderItem := { item with id := n }

def PurchaseOrderItem.ofOrder (orderID : String) (item : PurchaseOrderItem) : PurchaseOrderItem :=
  { item with orderID := orderID }

def PurchaseOrderItem.receivedAs (qty : ℚ) (item : PurchaseOrderItem) : PurchaseOrderItem :=
  { item with receivedQty := qty }

theorem PurchaseOrderItem.receivedAs_id (item : PurchaseOrderItem) : (item.receivedAs qty).id = item.id := rfl

def saveOrderItem (orderID : String) (t : Serial PurchaseOrderItem.id) (item : PurchaseOrderItem) :
    Serial PurchaseOrderItem.id :=
  t.save PurchaseOrderItem.numbered (fun _ _ => rfl) (PurchaseOrderItem.ofOrder orderID) (fun _ => rfl) item

def saveOrderItems (orderID : String) (t : Serial PurchaseOrderItem.id) (items : List PurchaseOrderItem) :
    Serial PurchaseOrderItem.id :=
  items.foldl (saveOrderItem orderID) t

namespace Depot

variable (d : Depot)

def getOrderItems (orderID : String) : List PurchaseOrderItem :=
  d.purchaseOrderItems.rows.filter (fun item => item.orderID = orderID)

def getPurchaseOrder (id : String) : Option PurchaseOrder :=
  (d.purchaseOrders.find? id).map fun row => { row with items := d.getOrderItems id }

end Depot

/-- A positive amount is owed less; a negative one is owed back. -/
def Supplier.updateBalance (amount : Int) (s : Supplier) : Supplier :=
  { s with balance := clampSub s.balance amount }

/-- The repository calls that write, those on the store among them. -/
inductive DepotWrite where
  | shop (write : Write)
  | createPurchaseOrder (order : PurchaseOrder)
  | updatePurchaseOrder (order : PurchaseOrder)
  | deleteItemsByOrderID (orderID : String)
  | updateItemReceivedQty (itemID : Nat) (newReceivedQty : ℚ)
  | updateBalance (supplierID : String) (amount : Int)
  deriving DecidableEq

def DepotWrite.apply : DepotWrite → Depot → Except Failure Depot
  | .shop write, d => (write.apply d.store).map fun store => { d with store := store }
  | .createPurchaseOrder order, d =>
    match d.purchaseOrders.insert? order.toPurchaseOrderRow with
    | none => .error (.constraint "purchase_orders")
    | some orders => .ok { d with
        purchaseOrders := orders
        purchaseOrderItems := saveOrderItems order.id d.purchaseOrderItems order.items }
  | .updatePurchaseOrder order, d => .ok { d with
      purchaseOrders := d.purchaseOrders.put order.toPurchaseOrderRow
      purchaseOrderItems := saveOrderItems order.id d.purchaseOrderItems order.items }
  | .deleteItemsByOrderID orderID, d =>
    .ok { d with purchaseOrderItems := d.purchaseOrderItems.filter (fun item => item.orderID ≠ orderID) }
  | .updateItemReceivedQty itemID qty, d => .ok { d with
      purchaseOrderItems := d.purchaseOrderItems.modify itemID (PurchaseOrderItem.receivedAs qty) (fun _ => rfl) }
  | .updateBalance supplierID amount, d =>
    .ok { d with suppliers := d.suppliers.modify supplierID (Supplier.updateBalance amount) (fun _ => rfl) }

/-- A service call on the depot. -/
abbrev DepotTx := Tx DepotWrite.apply

/-- The store inside the depot. -/
def shopPart : Part Write.apply DepotWrite.apply where
  get := Depot.store
  set := fun store d => { d with store := store }
  inj := DepotWrite.shop
  set_get := fun _ => rfl
  get_set := fun _ _ => rfl
  set_set := fun _ _ _ => rfl
  acts := fun _ _ => rfl

def refuse (message : String) : Failure := .plain (.plain message)

/-- `"PO-"` and the first eight characters of a fresh identifier. -/
def purchaseOrderID (env : Env) : String := "PO-" ++ String.ofList (env.freshID.toList.take 8)

def checkOrderItem (item : PurchaseOrderItem) : DepotTx Unit := do
  ensure (0 < item.quantity) (refuse "الكمية يجب أن تكون أكبر من الصفر")
  ensure (0 < item.unitCost) (refuse "تكلفة الوحدة يجب أن تكون أكبر من الصفر")

def orderItemTotal (w : Word) (item : PurchaseOrderItem) : Int := Amount.mulFloat w item.unitCost item.quantity

/-- The total the loop adds up, line by line. -/
def orderTotal (w : Word) (items : List PurchaseOrderItem) : Int :=
  items.foldl (fun total item => w.add total (orderItemTotal w item)) 0

/-- A line of a new order: nothing received yet. -/
def newOrderItem (w : Word) (orderID : String) (item : PurchaseOrderItem) : PurchaseOrderItem :=
  { item with orderID := orderID, receivedQty := 0, total := orderItemTotal w item }

def newOrder (w : Word) (env : Env) (supplier : Option Supplier) (order : PurchaseOrder) : PurchaseOrder :=
  { order with
    id := purchaseOrderID env
    status := .pending
    createdAt := env.millis
    paidAmount := 0
    items := order.items.map (newOrderItem w (purchaseOrderID env))
    totalAmount := orderTotal w order.items
    supplierName := (supplier.map Supplier.name).getD order.supplierName }

def createPurchaseOrder (w : Word) (env : Env) (order : PurchaseOrder) : DepotTx Unit := do
  ensure (order.supplierID ≠ "") (refuse "المورد مطلوب")
  ensure (order.items ≠ []) (refuse "يجب إضافة منتج واحد على الأقل")
  each checkOrderItem order.items
  let suppliers ← ask Depot.suppliers
  write (.createPurchaseOrder (newOrder w env (suppliers.find? order.supplierID) order))

/-- A line of an edited order keeps the received quantity the client sends. -/
def editedOrderItem (w : Word) (orderID : String) (item : PurchaseOrderItem) : PurchaseOrderItem :=
  { item with orderID := orderID, total := orderItemTotal w item }

/-- Only the lines' totals and the order's are computed; what was paid is the client's. -/
def editedOrder (w : Word) (order : PurchaseOrder) : PurchaseOrder :=
  { order with items := order.items.map (editedOrderItem w order.id), totalAmount := orderTotal w order.items }

def updatePurchaseOrder (w : Word) (order : PurchaseOrder) : DepotTx Unit := do
  let found ← ask (fun d => d.getPurchaseOrder order.id)
  let existing ← require found .recordNotFound
  ensure (existing.status = .pending) (refuse "لا يمكن تعديل أمر شراء تم استلامه أو إلغاؤه")
  each checkOrderItem order.items
  write (.deleteItemsByOrderID order.id)
  write (.updatePurchaseOrder (editedOrder w order))

def cancelPurchaseOrder (w : Word) (id : String) : DepotTx Unit := do
  let found ← ask (fun d => d.getPurchaseOrder id)
  let order ← require found .recordNotFound
  ensure (order.status = .pending ∨ order.status = .partiallyReceived) (refuse "لا يمكن إلغاء هذا الأمر")
  when (0 < order.paidAmount ∧ order.supplierID ≠ "")
    (write (.updateBalance order.supplierID (w.neg order.paidAmount)))
  write (.updatePurchaseOrder { order with status := .cancelled })

def payPurchaseOrder (w : Word) (orderID : String) (amount : Int) : DepotTx Unit := do
  ensure (0 < amount) (refuse "مبلغ الدفع يجب أن يكون أكبر من صفر")
  let found ← ask (fun d => d.getPurchaseOrder orderID)
  let order ← require found .recordNotFound
  ensure (order.status ≠ .cancelled) (refuse "لا يمكن الدفع لأمر شراء ملغي")
  let remaining := w.sub order.totalAmount order.paidAmount
  ensure (0 < remaining) (refuse "أمر الشراء مدفوع بالكامل")
  ensure (amount ≤ remaining) (.plain (.format "المبلغ أكبر من المتبقي (%s)" [.amount remaining]))
  write (.updatePurchaseOrder { order with paidAmount := w.add order.paidAmount amount })
  write (.updateBalance order.supplierID amount)

/-- The lines in memory, and whether every turn so far filled its line. -/
structure Receiving where
  orderItems : List PurchaseOrderItem
  allReceived : Bool

/-- `orderItemMap`: of the lines with one product the last one stored under it. -/
def orderItemOf (orderItems : List PurchaseOrderItem) (productID : String) : Option PurchaseOrderItem :=
  (orderItems.filter (fun item => item.productID = productID)).getLast?

def remainingQty (item : PurchaseOrderItem) : ℚ := item.quantity - item.receivedQty

/-- The line an offer goes to, with the quantity taken: no more than is outstanding. -/
def acceptedOffer (orderItems : List PurchaseOrderItem) (offer : PurchaseOrderItem) :
    Option (PurchaseOrderItem × ℚ) :=
  if offer.receivedQty ≤ 0 then none
  else
    match orderItemOf orderItems offer.productID with
    | none => none
    | some item =>
      if remainingQty item ≤ 0 then none
      else some (item, if remainingQty item < offer.receivedQty then remainingQty item else offer.receivedQty)

def receivedInto (itemID : Nat) (qty : ℚ) (orderItems : List PurchaseOrderItem) : List PurchaseOrderItem :=
  orderItems.map fun item => if item.id = itemID then item.receivedAs qty else item

def restockMovement (env : Env) (orderID productName : String) (offer : PurchaseOrderItem) (toReceive : ℚ) :
    StockMovement :=
  ⟨offer.productID, productName, "restock", toReceive, "استلام أمر شراء #" ++ orderID, env.millis⟩

/-- One turn of the receive loop; an offer that takes nothing is passed over. -/
def receiveItem (env : Env) (orderID : String) (products : Table Product.id) (state : Receiving)
    (offer : PurchaseOrderItem) : DepotTx Receiving :=
  match acceptedOffer state.orderItems offer with
  | none => pure state
  | some (item, toReceive) => do
    let newReceivedQty := item.receivedQty + toReceive
    write (.updateItemReceivedQty item.id newReceivedQty)
    write (.shop (.updateStock offer.productID toReceive))
    let productName := ((products.find? offer.productID).map Product.name).getD item.productName
    write (.shop (.createStockMovement (restockMovement env orderID productName offer toReceive)))
    pure {
      orderItems := receivedInto item.id newReceivedQty state.orderItems
      allReceived := state.allReceived && !decide (newReceivedQty < item.quantity) }

/-- The order is saved with the lines of its preload, which were not received into. -/
def receivePurchaseOrder (env : Env) (orderID : String) (items : List PurchaseOrderItem) : DepotTx Unit := do
  let found ← ask (fun d => d.getPurchaseOrder orderID)
  let order ← require found .recordNotFound
  ensure (order.status ≠ .received) (refuse "تم استلام هذا الأمر بالكامل مسبقاً")
  ensure (order.status ≠ .cancelled) (refuse "لا يمكن استلام أمر ملغي")
  let orderItems ← ask (fun d => d.getOrderItems orderID)
  let products ← ask (fun d => d.store.products)
  let state ← foldEach (receiveItem env orderID products) items ⟨orderItems, true⟩
  let allReceived := state.allReceived && state.orderItems.all (fun item => !decide (item.receivedQty < item.quantity))
  let partiallyReceived := state.orderItems.any (fun item => decide (0 < item.receivedQty))
  if allReceived = true then
    write (.updatePurchaseOrder { order with status := .received, receivedAt := env.millis })
  else
    when (partiallyReceived = true) (write (.updatePurchaseOrder { order with status := .partiallyReceived }))

end BeidarPos
