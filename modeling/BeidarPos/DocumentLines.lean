import BeidarPos.HasMany
import BeidarPos.PurchaseJournal
import BeidarPos.ReturnLimits

/-! The lines of sales and purchase orders. A line comes with the number the client sent;
whether another document keeps its lines depends on that number alone. -/
namespace BeidarPos

open Machine Relational Journal Tx

theorem SaleItem.numbered_id (line : SaleItem) (n : Nat) : SaleItem.id { line with id := n } = n := rfl

theorem SaleItem.numbered_saleID (line : SaleItem) (n : Nat) : SaleItem.saleID { line with id := n } = line.saleID := rfl

theorem SaleItem.sold_id (saleID : String) (line : SaleItem) : SaleItem.id { line with saleID := saleID } = line.id := rfl

theorem SaleItem.sold_saleID (saleID : String) (line : SaleItem) :
    SaleItem.saleID { line with saleID := saleID } = saleID := rfl

def saleLines : HasMany SaleItem.id String where
  parent := SaleItem.saleID
  adopt := fun saleID line => { line with saleID := saleID }
  number := fun line n => { line with id := n }
  numbered := SaleItem.numbered_id
  keeps := SaleItem.sold_id
  adopted := SaleItem.sold_saleID
  stays := SaleItem.numbered_saleID

theorem PurchaseOrderItem.numbered_id (item : PurchaseOrderItem) (n : Nat) : (item.numbered n).id = n := rfl

theorem PurchaseOrderItem.numbered_orderID (item : PurchaseOrderItem) (n : Nat) :
    (item.numbered n).orderID = item.orderID := rfl

theorem PurchaseOrderItem.ofOrder_id (orderID : String) (item : PurchaseOrderItem) :
    (item.ofOrder orderID).id = item.id := rfl

theorem PurchaseOrderItem.ofOrder_orderID (orderID : String) (item : PurchaseOrderItem) :
    (item.ofOrder orderID).orderID = orderID := rfl

def orderLines : HasMany PurchaseOrderItem.id String where
  parent := PurchaseOrderItem.orderID
  adopt := PurchaseOrderItem.ofOrder
  number := PurchaseOrderItem.numbered
  numbered := PurchaseOrderItem.numbered_id
  keeps := PurchaseOrderItem.ofOrder_id
  adopted := PurchaseOrderItem.ofOrder_orderID
  stays := PurchaseOrderItem.numbered_orderID

theorem saveItems_all (saleID : String) (t : Serial SaleItem.id) (items : List SaleItem) :
    saveItems saleID t items = saleLines.saveAll saleID t items := by
  unfold saveItems HasMany.saveAll
  congr 1
  funext t item
  exact saveItem_eq saleID t item

/-- The requests that create a document or replace its lines. -/
inductive DocumentCall where
  | processSaleAs (actor : Actor) (request : Sale)
  | createPurchaseOrder (order : PurchaseOrder)
  | updatePurchaseOrder (order : PurchaseOrder)

def DocumentCall.body (w : Word) (env : Env) : DocumentCall → DepotTx Unit
  | .processSaleAs actor request => shopPart.lift (BeidarPos.processSaleAs w env actor request)
  | .createPurchaseOrder order => BeidarPos.createPurchaseOrder w env order
  | .updatePurchaseOrder order => BeidarPos.updatePurchaseOrder w order

/-- Every line belongs to a document, as the foreign keys demand. -/
structure Tied (d : Depot) : Prop where
  sales : ∀ line ∈ d.store.saleItems.rows, ∃ row, d.store.sales.find? line.saleID = some row
  orders : ∀ line ∈ d.purchaseOrderItems.rows, ∃ row, d.purchaseOrders.find? line.orderID = some row

/-- The lines of the other documents are as they were, and the document has the lines of
the request and no others. -/
def LinesKept (w : Word) (env : Env) (before after : Depot) : DocumentCall → Prop
  | .processSaleAs _ request =>
    saleLines.Saved (stampSale env request).id before.store.saleItems.rows after.store.saleItems.rows
        (request.items.map (soldLine w before.store.products)) ∧
      after.purchaseOrderItems = before.purchaseOrderItems
  | .createPurchaseOrder order =>
    orderLines.Saved (purchaseOrderID env) before.purchaseOrderItems.rows after.purchaseOrderItems.rows
        (order.items.map (newOrderItem w (purchaseOrderID env))) ∧
      after.store.saleItems = before.store.saleItems
  | .updatePurchaseOrder order =>
    orderLines.Saved order.id before.purchaseOrderItems.rows after.purchaseOrderItems.rows
        (order.items.map (editedOrderItem w order.id)) ∧
      after.store.saleItems = before.store.saleItems

/-- No number of the request is one of a stored line or of a line saved just before it.
An edited order's own lines are gone by then. -/
def NumbersFree (d : Depot) : DocumentCall → Prop
  | .processSaleAs _ request =>
    FreeNumbers (d.store.saleItems.rows.map SaleItem.id) d.store.saleItems.seq (request.items.map SaleItem.id)
  | .createPurchaseOrder order =>
    FreeNumbers (d.purchaseOrderItems.rows.map PurchaseOrderItem.id) d.purchaseOrderItems.seq
      (order.items.map PurchaseOrderItem.id)
  | .updatePurchaseOrder order =>
    FreeNumbers ((d.purchaseOrderItems.rows.filter (fun line => line.orderID ≠ order.id)).map PurchaseOrderItem.id)
      d.purchaseOrderItems.seq (order.items.map PurchaseOrderItem.id)

instance (d : Depot) (call : DocumentCall) : Decidable (NumbersFree d call) :=
  match call with
  | .processSaleAs _ _ | .createPurchaseOrder _ | .updatePurchaseOrder _ =>
    inferInstanceAs (Decidable (FreeNumbers _ _ _))

/-- Lines that bring no number harm no document. -/
theorem numbersFree_unnumbered (d : Depot) :
    (∀ actor (request : Sale), (∀ item ∈ request.items, item.id = 0) → NumbersFree d (.processSaleAs actor request)) ∧
    ∀ order : PurchaseOrder, (∀ item ∈ order.items, item.id = 0) →
      NumbersFree d (.createPurchaseOrder order) ∧ NumbersFree d (.updatePurchaseOrder order) := by
  refine ⟨fun _ request unnumbered => freeNumbers_zero ?_ _ _, fun order unnumbered =>
    ⟨freeNumbers_zero ?_ _ _, freeNumbers_zero ?_ _ _⟩⟩ <;>
  · intro n member
    obtain ⟨item, sent, rfl⟩ := List.mem_map.mp member
    exact unnumbered item sent

section Lines

variable {w : Word} {env : Env}

theorem soldLine_id (products : Table Product.id) (item : SaleItem) : (soldLine w products item).id = item.id := by
  unfold soldLine
  split <;> rfl

theorem pricedSale_items {db : Store} {request : Sale}
    (available : ∀ item ∈ request.items, Available w db.products item) :
    (pricedSale w env db request).items = request.items.map (soldLine w db.products) := soldCart_lines available

end Lines

section Calls

variable {w : Word} {env : Env} {d final : Depot} {ws : List DepotWrite}

/-- What an accepted sale does to the two line tables. -/
theorem processSaleAs_lines {actor : Actor} {request : Sale}
    (h : Does ((DocumentCall.processSaleAs actor request).body w env) d u ws final) :
    final.store.saleItems = saleLines.saveAll (stampSale env request).id d.store.saleItems
        (request.items.map (soldLine w d.store.products)) ∧
      final.purchaseOrderItems = d.purchaseOrderItems ∧ final.purchaseOrders = d.purchaseOrders ∧
      d.store.sales.find? (stampSale env request).id = none ∧
      ∀ id, final.store.sales.find? id =
        if id = (stampSale env request).id then some (pricedSale w env d.store request).toSaleRow
        else d.store.sales.find? id := by
  obtain ⟨inner, s, does, _, rfl⟩ := shopPart.does_lift.mp h
  obtain ⟨facts, rfl⟩ := processSaleAs_does does
  refine ⟨?_, rfl, rfl, facts.fresh, fun id => ?_⟩
  · have replayed := saleLines_replayed does
    rw [saleJournal_lines, pricedSale_items facts.available, saveItems_all] at replayed
    exact replayed
  · have replayed := (saleCell id).replay_read does.replays
    exact replayed.trans (saleJournal_row w env _ request id _)

theorem createPurchaseOrder_lines {order : PurchaseOrder}
    (h : Does ((DocumentCall.createPurchaseOrder order).body w env) d u ws final) :
    final.purchaseOrderItems = orderLines.saveAll (purchaseOrderID env) d.purchaseOrderItems
        (order.items.map (newOrderItem w (purchaseOrderID env))) ∧
      final.store = d.store ∧ d.purchaseOrders.find? (purchaseOrderID env) = none ∧
      ∃ row, ∀ id, final.purchaseOrders.find? id =
        if id = purchaseOrderID env then some row else d.purchaseOrders.find? id := by
  obtain ⟨_, _, _, rfl⟩ := createPurchaseOrder_does h
  obtain ⟨next, created, same⟩ := replay_cons.mp h.replays
  cases same
  obtain ⟨orders, inserted, rfl⟩ := createOrder_ok created
  exact ⟨rfl, rfl, (Table.insert?_rows inserted).2, _, Table.find?_insert inserted⟩

theorem updatePurchaseOrder_lines {order : PurchaseOrder}
    (h : Does ((DocumentCall.updatePurchaseOrder order).body w env) d u ws final) :
    final.purchaseOrderItems = orderLines.saveAll order.id
        (d.purchaseOrderItems.filter (fun line => line.orderID ≠ order.id))
        (order.items.map (editedOrderItem w order.id)) ∧
      final.store = d.store ∧ (∃ row, d.purchaseOrders.find? order.id = some row) ∧
      final.purchaseOrders = d.purchaseOrders.put (editedOrder w order).toPurchaseOrderRow := by
  obtain ⟨existing, loaded, _, _, rfl⟩ := updatePurchaseOrder_does h
  have replayed := h.replays
  simp only [replay, DepotWrite.apply, Except.ok.injEq] at replayed
  subst replayed
  exact ⟨rfl, rfl, ⟨_, (getPurchaseOrder_row loaded).1⟩, rfl⟩

/-- The lines of an accepted request belong to a document again. -/
theorem documentCall_tied {call : DocumentCall} (tied : Tied d) (h : Does (call.body w env) d u ws final) :
    Tied final := by
  cases call with
  | processSaleAs actor request =>
    obtain ⟨lines, orderLines, orders, _, sales⟩ := processSaleAs_lines h
    refine ⟨fun line member => ?_, fun line member => ?_⟩
    · rw [sales]
      split
      · exact ⟨_, rfl⟩
      · rename_i other
        rw [lines] at member
        rcases HasMany.saveAll_parents member with own | before
        · exact absurd own other
        · exact tied.sales line before
    · rw [orderLines] at member
      rw [orders]
      exact tied.orders line member
  | createPurchaseOrder order =>
    obtain ⟨lines, store, _, row, orders⟩ := createPurchaseOrder_lines h
    refine ⟨fun line member => ?_, fun line member => ?_⟩
    · rw [store] at member ⊢
      exact tied.sales line member
    · rw [orders]
      split
      · exact ⟨row, rfl⟩
      · rename_i other
        rw [lines] at member
        rcases HasMany.saveAll_parents member with own | before
        · exact absurd own other
        · exact tied.orders line before
  | updatePurchaseOrder order =>
    obtain ⟨lines, store, ⟨row, found⟩, orders⟩ := updatePurchaseOrder_lines h
    refine ⟨fun line member => ?_, fun line member => ?_⟩
    · rw [store] at member ⊢
      exact tied.sales line member
    · rw [orders, Table.find?_put]
      change ∃ row', (if line.orderID = order.id then _ else _) = some row'
      rw [lines] at member
      rcases HasMany.saveAll_parents member with own | before
      · exact ⟨(editedOrder w order).toPurchaseOrderRow, by
          change line.orderID = order.id at own
          rw [if_pos own, own, found]
          rfl⟩
      · obtain ⟨stored, other⟩ := Table.filter_mem.mp before
        rw [if_neg other]
        exact tied.orders line stored

end Calls

/-- The lines of every other document stay as they are, and the document gets exactly the
lines of the request, when and only when the numbers the client sent are free. -/
theorem document_lines (w : Word) (env : Env) (d : Depot) (call : DocumentCall) (tied : Tied d)
    (accepted : (call.body w env).accepts d) :
    LinesKept w env d ((call.body w env).commit d) call ↔ NumbersFree d call := by
  have does := does_accepted accepted
  cases call with
  | processSaleAs actor request =>
    obtain ⟨lines, orderLines, _, fresh, _⟩ := processSaleAs_lines does
    have childless : ∀ line ∈ d.store.saleItems.rows, saleLines.parent line ≠ (stampSale env request).id := by
      intro line member own
      obtain ⟨row, found⟩ := tied.sales line member
      change line.saleID = _ at own
      rw [own, fresh] at found
      cases found
    have numbers : (request.items.map (soldLine w d.store.products)).map SaleItem.id = request.items.map SaleItem.id := by
      rw [List.map_map]
      exact List.map_congr_left fun item _ => soldLine_id _ item
    simp only [LinesKept, NumbersFree, orderLines, and_true, lines]
    rw [HasMany.saveAll_saved childless, numbers]
  | createPurchaseOrder order =>
    obtain ⟨lines, store, fresh, _⟩ := createPurchaseOrder_lines does
    have childless : ∀ line ∈ d.purchaseOrderItems.rows, orderLines.parent line ≠ purchaseOrderID env := by
      intro line member own
      obtain ⟨row, found⟩ := tied.orders line member
      change line.orderID = _ at own
      rw [own, fresh] at found
      cases found
    simp only [LinesKept, NumbersFree, store, and_true, lines]
    rw [HasMany.saveAll_saved childless, List.map_map]
    rfl
  | updatePurchaseOrder order =>
    obtain ⟨lines, store, _, _⟩ := updatePurchaseOrder_lines does
    have childless : ∀ line ∈ (d.purchaseOrderItems.filter (fun line => line.orderID ≠ order.id)).rows,
        orderLines.parent line ≠ order.id := fun line member => (Table.filter_mem.mp member).2
    have saved : orderLines.Saved order.id (d.purchaseOrderItems.filter (fun line => line.orderID ≠ order.id)).rows _
        (order.items.map (editedOrderItem w order.id)) ↔ _ := HasMany.saveAll_saved childless
    have others : (d.purchaseOrderItems.filter (fun line => line.orderID ≠ order.id)).rows.filter
        (fun line => orderLines.parent line ≠ order.id) =
        d.purchaseOrderItems.rows.filter (fun line => orderLines.parent line ≠ order.id) := by
      change (d.purchaseOrderItems.rows.filter _).filter _ = _
      rw [List.filter_filter]
      refine List.filter_congr fun line _ => ?_
      rw [← Bool.decide_and]
      exact decide_eq_decide.mpr (and_self_iff)
    simp only [LinesKept, NumbersFree, store, and_true, lines]
    rw [List.map_map] at saved
    exact ⟨fun kept => saved.mp ⟨kept.others.trans others.symm, kept.own⟩,
      fun free => ⟨(saved.mpr free).others.trans others, (saved.mpr free).own⟩⟩

section Tea

/-- A depot where the first sale is done. -/
def teaCounter : Depot := ⟨twoTeasSold, .empty, .empty, .empty⟩

/-- One tea, sent under a number of the client's. -/
def numberedTea (number : Nat) : DocumentCall :=
  .processSaleAs sara { teaSale "s2" "" .cash none none 1 with items := [⟨number, "", "tea", "Tea", 1000, 1, 0, 0, 0, 0⟩] }

theorem teaCounter_tied : Tied teaCounter := by
  have sold : ∀ line ∈ teaCounter.store.saleItems.rows, (teaCounter.store.sales.find? line.saleID).isSome := by
    decide +kernel
  exact ⟨fun line member => Option.isSome_iff_exists.mp (sold line member), fun _ member => nomatch member⟩

end Tea

/-- The second sale takes the line of the first one and stores none of its own. -/
theorem document_lines_taken :
    ((numberedTea 1).body .exact till).accepts teaCounter ∧
      ¬ LinesKept .exact till teaCounter (((numberedTea 1).body .exact till).commit teaCounter) (numberedTea 1) ∧
      (teaCounter.store.itemsOf "s1").length = 1 ∧
      (((numberedTea 1).body .exact till).commit teaCounter).store.itemsOf "s1" = [] ∧
      (((numberedTea 1).body .exact till).commit teaCounter).store.itemsOf "s2" =
        [⟨1, "s2", "tea", "Tea", 1000, 2, 2000, 600, 0, 0⟩] := by
  have accepted : ((numberedTea 1).body .exact till).accepts teaCounter := by decide +kernel
  refine ⟨accepted, ?_, by decide +kernel, by decide +kernel, by decide +kernel⟩
  intro kept
  have others : ((((numberedTea 1).body .exact till).commit teaCounter).store.saleItems.rows.filter
      (fun line => line.saleID ≠ "s2")) = teaCounter.store.saleItems.rows.filter (fun line => line.saleID ≠ "s2") :=
    kept.1.others
  revert others
  decide +kernel

/-- Under a number of its own the second sale leaves the first one alone. -/
theorem document_lines_own :
    LinesKept .exact till teaCounter (((numberedTea 2).body .exact till).commit teaCounter) (numberedTea 2) :=
  (document_lines .exact till teaCounter (numberedTea 2) teaCounter_tied (by decide +kernel)).mpr
    (by decide +kernel)

end BeidarPos
