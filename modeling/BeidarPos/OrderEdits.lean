import BeidarPos.DocumentLines
import BeidarPos.OrderConcurrency

/-! Editing a pending purchase order. The client's whole order is saved over the row, so
what a new order has set by the server is the client's on an edit. -/
namespace BeidarPos

open Machine Rounding Relational Journal Tx

/-- Cost times quantity, in whole cents. -/
def itemValue (item : PurchaseOrderItem) : Int := roundHalfAway (item.unitCost * item.quantity)

def itemsValue (items : List PurchaseOrderItem) : Int := (items.map itemValue).sum

/-- What the server owns of an order is as it was, and the lines are those of an order of
which nothing has come in. -/
structure ServerOwned (existing edited : PurchaseOrder) : Prop where
  status : edited.status = existing.status
  paidAmount : edited.paidAmount = existing.paidAmount
  createdAt : edited.createdAt = existing.createdAt
  receivedAt : edited.receivedAt = existing.receivedAt
  unreceived : ∀ item ∈ edited.items, item.receivedQty = 0
  totalAmount : edited.totalAmount = itemsValue edited.items
  lines : edited.items ≠ []

namespace Depot

variable (d : Depot) (order : PurchaseOrder)

/-- The lines of other orders, as stored. -/
def otherLines : List PurchaseOrderItem :=
  d.purchaseOrderItems.rows.filter (fun line => line.orderID ≠ order.id)

/-- The lines of other orders whose number a line of the request brings. -/
def claimedLines : List PurchaseOrderItem :=
  (d.otherLines order).filter (fun line => Claimed PurchaseOrderItem.id order.items line)

/-- The lines of the request that are stored under a number of their own. -/
def placedLines : List PurchaseOrderItem :=
  placed PurchaseOrderItem.id ((d.otherLines order).map PurchaseOrderItem.id) d.purchaseOrderItems.seq order.items

/-- The client sends back what the server owns, no line that has come in, and at least one
line; the lines the order gets add up to the ones sent. -/
structure SentBack (existing : PurchaseOrder) : Prop where
  status : order.status = existing.status
  paidAmount : order.paidAmount = existing.paidAmount
  createdAt : order.createdAt = existing.createdAt
  receivedAt : order.receivedAt = existing.receivedAt
  unreceived : ∀ item ∈ d.claimedLines order ++ d.placedLines order, item.receivedQty = 0
  totalAmount : Word.int64.wrap (itemsValue order.items) = itemsValue (d.claimedLines order ++ d.placedLines order)
  lines : order.items ≠ []

end Depot

section Free

variable {d : Depot} {order : PurchaseOrder}

/-- Under free numbers the lines are the request's. -/
theorem lines_free (free : NumbersFree d (.updatePurchaseOrder order)) :
    d.claimedLines order ++ d.placedLines order = order.items := by
  have none : d.claimedLines order = [] := by
    refine List.filter_eq_nil_iff.mpr fun line member => ?_
    have stored : line.id ∈ (d.otherLines order).map PurchaseOrderItem.id := List.mem_map_of_mem member
    simpa using fun claimed : Claimed PurchaseOrderItem.id order.items line =>
      freeNumbers_fresh free line.id claimed.2 claimed.1 stored
  rw [none, List.nil_append]
  exact placed_free free

/-- What is asked of the lines of a request that takes no number. -/
theorem sentBack_free {existing : PurchaseOrder} (free : NumbersFree d (.updatePurchaseOrder order)) :
    d.SentBack order existing ↔
      (order.status = existing.status ∧ order.paidAmount = existing.paidAmount ∧
        order.createdAt = existing.createdAt ∧ order.receivedAt = existing.receivedAt) ∧
      (∀ item ∈ order.items, item.receivedQty = 0) ∧ Word.int64.fits (itemsValue order.items) ∧ order.items ≠ [] := by
  have fitting : Word.int64.wrap (itemsValue order.items) = itemsValue order.items ↔
      Word.int64.fits (itemsValue order.items) :=
    ⟨fun kept => kept ▸ Word.int64.fits_wrap _, Word.int64.wrap_of_fits _⟩
  constructor
  · intro sent
    have unreceived := sent.unreceived
    have total := sent.totalAmount
    rw [lines_free free] at unreceived total
    exact ⟨⟨sent.status, sent.paidAmount, sent.createdAt, sent.receivedAt⟩, unreceived, fitting.mp total, sent.lines⟩
  · rintro ⟨⟨status, paid, created, received⟩, unreceived, fits, lines⟩
    refine ⟨status, paid, created, received, ?_, ?_, lines⟩
    · rwa [lines_free free]
    · rw [lines_free free]
      exact fitting.mpr fits

end Free

section Lines

variable {d : Depot} {order : PurchaseOrder}

theorem orderTotal_int64 (items : List PurchaseOrderItem) :
    orderTotal .int64 items = Word.int64.wrap (itemsValue items) := by
  rw [orderTotal, Word.int64_foldl _ items Word.int64.fits_zero, zero_add]
  exact Word.int64_sum_wrapped itemValue items

theorem storedAs_columns {item line : PurchaseOrderItem} (stored : orderLines.StoredAs p item line) :
    line.receivedQty = item.receivedQty ∧ itemValue line = itemValue item := by
  rcases stored with ⟨_, rfl⟩ | ⟨_, n, rfl⟩ <;> exact ⟨rfl, rfl⟩

theorem stored_columns {items added : List PurchaseOrderItem}
    (stored : List.Forall₂ (orderLines.StoredAs p) items added) :
    ((∀ line ∈ added, line.receivedQty = 0) ↔ ∀ item ∈ items, item.receivedQty = 0) ∧
      itemsValue added = itemsValue items := by
  induction stored with
  | nil => exact ⟨Iff.rfl, rfl⟩
  | cons first _ ih =>
    obtain ⟨received, value⟩ := storedAs_columns first
    refine ⟨?_, ?_⟩
    · rw [List.forall_mem_cons, List.forall_mem_cons, received, ih.1]
    · simp only [itemsValue, List.map_cons, List.sum_cons] at ih ⊢
      rw [value, ih.2]

/-- The lines an edited order has, by what is asked of them. -/
theorem editedLines (d : Depot) (order : PurchaseOrder) {lines : List PurchaseOrderItem}
    (saved : (orderLines.saveAll order.id (d.purchaseOrderItems.filter (fun line => line.orderID ≠ order.id))
      (order.items.map (editedOrderItem .int64 order.id))).rows.filter (fun line => line.orderID = order.id) = lines) :
    ((∀ line ∈ lines, line.receivedQty = 0) ↔
        ∀ item ∈ d.claimedLines order ++ d.placedLines order, item.receivedQty = 0) ∧
      itemsValue lines = itemsValue (d.claimedLines order ++ d.placedLines order) ∧
      (lines ≠ [] ↔ order.items ≠ []) := by
  have childless : ∀ line ∈ (d.purchaseOrderItems.filter (fun line => line.orderID ≠ order.id)).rows,
      orderLines.parent line ≠ order.id := fun line member => (Table.filter_mem.mp member).2
  have settled : ∀ line, orderLines.parent line = order.id → orderLines.adopt order.id line = line := by
    intro line own
    rw [← own]
    rfl
  obtain ⟨added, own, stored⟩ := HasMany.saveAll_own (order.items.map (editedOrderItem .int64 order.id)) settled
    childless
  rw [placed_map (f := editedOrderItem .int64 order.id) (fun _ => rfl)] at stored
  obtain ⟨received, value⟩ := stored_columns stored
  have claimed : (d.purchaseOrderItems.filter (fun line => line.orderID ≠ order.id)).rows.filter
      (fun line => Claimed PurchaseOrderItem.id (order.items.map (editedOrderItem .int64 order.id)) line) =
      d.claimedLines order := by
    refine List.filter_congr fun line _ => ?_
    exact decide_eq_decide.mpr (claimed_map (f := editedOrderItem .int64 order.id) (fun _ => rfl) order.items line)
  rw [claimed] at own
  have lines_eq : lines = (d.claimedLines order).map (orderLines.adopt order.id) ++ added := saved.symm.trans own
  have moved : ((∀ line ∈ (d.claimedLines order).map (orderLines.adopt order.id), line.receivedQty = 0) ↔
      ∀ line ∈ d.claimedLines order, line.receivedQty = 0) := List.forall_mem_map
  have filled : (∀ line ∈ (d.placedLines order).map (editedOrderItem .int64 order.id), line.receivedQty = 0) ↔
      ∀ line ∈ d.placedLines order, line.receivedQty = 0 := List.forall_mem_map
  subst lines_eq
  refine ⟨?_, ?_, ?_⟩
  · rw [List.forall_mem_append, List.forall_mem_append, moved, received]
    exact and_congr_right fun _ => filled
  · simp only [itemsValue, List.map_append, List.sum_append, List.map_map] at value ⊢
    rw [value]
    rfl
  · have sent : d.claimedLines order ++ d.placedLines order ≠ [] ↔ order.items ≠ [] := by
      cases items : order.items with
      | nil => simp [Depot.claimedLines, Depot.placedLines, items, Claimed, placed]
      | cons item rest =>
        refine iff_of_true ?_ (List.cons_ne_nil _ _)
        simp only [Depot.claimedLines, Depot.placedLines, items]
        exact HasMany.claimed_or_placed
    have count := stored.length_eq
    rw [← sent, ← List.length_pos_iff, ← List.length_pos_iff, List.length_append, List.length_append, List.length_map,
      ← count, List.length_map]
    rfl

/-- What an accepted edit stores under the order's number. -/
theorem updatePurchaseOrder_stored {ws : List DepotWrite} {final : Depot}
    (h : Does (updatePurchaseOrder .int64 order) d u ws final) :
    ∃ edited, final.getPurchaseOrder order.id = some edited ∧
      edited.toPurchaseOrderRow = (editedOrder .int64 order).toPurchaseOrderRow ∧
      edited.items =
        (orderLines.saveAll order.id (d.purchaseOrderItems.filter (fun line => line.orderID ≠ order.id))
          (order.items.map (editedOrderItem .int64 order.id))).rows.filter (fun line => line.orderID = order.id) := by
  have does : Does ((DocumentCall.updatePurchaseOrder order).body .int64 till) d u ws final := h
  obtain ⟨lines, _, ⟨row, found⟩, rows⟩ := updatePurchaseOrder_lines does
  have put : final.purchaseOrders.find? order.id = some (editedOrder .int64 order).toPurchaseOrderRow := by
    rw [rows, Table.find?_put, found]
    exact if_pos rfl
  refine ⟨_, Option.map_eq_some_iff.mpr ⟨_, put, rfl⟩, rfl, ?_⟩
  change final.purchaseOrderItems.rows.filter _ = _
  rw [lines]

end Lines

/-- An accepted edit of a pending order leaves what the server owns, when and only when the
client sends it back. -/
theorem order_edit_keeps (d : Depot) (order : PurchaseOrder) (accepted : (updatePurchaseOrder .int64 order).accepts d) :
    ∃ existing edited, d.getPurchaseOrder order.id = some existing ∧ existing.status = .pending ∧
      ((updatePurchaseOrder .int64 order).commit d).getPurchaseOrder order.id = some edited ∧
      (ServerOwned existing edited ↔ d.SentBack order existing) := by
  have does := does_accepted accepted
  obtain ⟨existing, stored, pending, _⟩ := updatePurchaseOrder_does does
  obtain ⟨edited, saved, row, items⟩ := updatePurchaseOrder_stored does
  obtain ⟨received, value, left⟩ := editedLines d order items.symm
  have status : edited.status = (editedOrder .int64 order).status := congrArg PurchaseOrderRow.status row
  have paid : edited.paidAmount = (editedOrder .int64 order).paidAmount := congrArg PurchaseOrderRow.paidAmount row
  have created : edited.createdAt = (editedOrder .int64 order).createdAt := congrArg PurchaseOrderRow.createdAt row
  have arrived : edited.receivedAt = (editedOrder .int64 order).receivedAt := congrArg PurchaseOrderRow.receivedAt row
  have total : edited.totalAmount = Word.int64.wrap (itemsValue order.items) :=
    (congrArg PurchaseOrderRow.totalAmount row).trans (orderTotal_int64 order.items)
  refine ⟨existing, edited, stored, pending, saved, fun kept => ?_, fun sent => ?_⟩
  · exact ⟨status.symm.trans kept.status, paid.symm.trans kept.paidAmount, created.symm.trans kept.createdAt,
      arrived.symm.trans kept.receivedAt, received.mp kept.unreceived,
      (total.symm.trans kept.totalAmount).trans value, left.mp kept.lines⟩
  · exact ⟨status.trans sent.status, paid.trans sent.paidAmount, created.trans sent.createdAt,
      arrived.trans sent.receivedAt, received.mpr sent.unreceived, total.trans (sent.totalAmount.trans value.symm),
      left.mpr sent.lines⟩

section Tea

/-- The pending order of five packs of tea, half of it paid in advance. -/
def prepaidTea : PurchaseOrder := { teaOrdered with paidAmount := 1250 }

def prepaidDepot : Depot := { teaDepot with purchaseOrders := ⟨[prepaidTea.toPurchaseOrderRow], by simp⟩ }

/-- The order sent with a sixth pack. -/
def sixthPack : PurchaseOrder := { prepaidTea with items := [⟨1, "PO-1", "tea", "Tea", 6, 0, 500, 2500⟩] }

/-- The order sent with nothing paid and no lines. -/
def emptied : PurchaseOrder := { teaOrdered with items := [] }

end Tea

theorem order_edit_keeps_sixth :
    ∃ edited, ((updatePurchaseOrder .int64 sixthPack).commit prepaidDepot).getPurchaseOrder "PO-1" = some edited ∧
      ServerOwned prepaidTea edited := by
  obtain ⟨existing, edited, stored, _, saved, kept⟩ := order_edit_keeps prepaidDepot sixthPack (by decide +kernel)
  have before : prepaidDepot.getPurchaseOrder "PO-1" = some prepaidTea := by decide +kernel
  cases Option.some.inj (before.symm.trans stored)
  refine ⟨edited, saved, kept.mpr ((sentBack_free (by decide +kernel)).mpr ⟨⟨rfl, rfl, rfl, rfl⟩, ?_, ?_, ?_⟩)⟩
  · decide +kernel
  · exact ⟨by decide +kernel, by decide +kernel⟩
  · exact List.cons_ne_nil _ _

/-- Nothing paid and no lines is what is stored. -/
theorem order_edit_forgets :
    (updatePurchaseOrder .int64 emptied).accepts prepaidDepot ∧
      prepaidDepot.getPurchaseOrder "PO-1" = some prepaidTea ∧ prepaidTea.status = .pending ∧
      ∃ edited, ((updatePurchaseOrder .int64 emptied).commit prepaidDepot).getPurchaseOrder "PO-1" = some edited ∧
        edited.paidAmount = 0 ∧ edited.items = [] ∧ ¬ ServerOwned prepaidTea edited := by
  refine ⟨by decide +kernel, by decide +kernel, rfl, { emptied with totalAmount := 0 }, by decide +kernel, rfl, rfl, ?_⟩
  intro kept
  exact kept.lines rfl

end BeidarPos
