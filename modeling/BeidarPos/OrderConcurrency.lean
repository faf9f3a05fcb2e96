import BeidarPos.Receiving
import BeidarPos.Interleaving

/-! Calls on one purchase order that run at the same time. An edit and a deletion read
the order before their transaction begins; receiving, paying and cancelling are one
transaction each. -/
namespace BeidarPos

open Machine Relational Journal Tx Interleaving

/-- A call on the order where it stands. -/
inductive OrderTask (id : String) where
  | updatePurchaseOrder (order : PurchaseOrder) (same : order.id = id)
  | updating (order : PurchaseOrder) (same : order.id = id)
  | deletePurchaseOrder
  | deleting
  | receivePurchaseOrder (items : List PurchaseOrderItem)
  | payPurchaseOrder (amount : Int)
  | cancelPurchaseOrder
  | answered (result : Except Failure Unit)

namespace Depot

variable (d : Depot)

def deleteItemsByOrderID (orderID : String) : Depot :=
  { d with purchaseOrderItems := d.purchaseOrderItems.filter (fun item => item.orderID ≠ orderID) }

def deleteOrder (id : String) : Depot :=
  { d with purchaseOrders := d.purchaseOrders.filter (fun row => row.id ≠ id) }

/-- A save of an order the transaction has not read: it is rewritten, or inserted. -/
def saveOrder (order : PurchaseOrder) : Depot := { d with
  purchaseOrders := d.purchaseOrders.set order.toPurchaseOrderRow
  purchaseOrderItems := saveOrderItems order.id d.purchaseOrderItems order.items }

end Depot

/-- What an edit asks before its transaction. -/
def updateGuard (order : PurchaseOrder) : DepotTx Unit := do
  let found ← ask (fun d => d.getPurchaseOrder order.id)
  let existing ← require found .recordNotFound
  ensure (existing.status = .pending) (refuse "لا يمكن تعديل أمر شراء تم استلامه أو إلغاؤه")
  each checkOrderItem order.items

def deleteGuard (id : String) : DepotTx Unit := do
  let found ← ask (fun d => d.getPurchaseOrder id)
  let order ← require found .recordNotFound
  ensure (order.status = .pending) (refuse "لا يمكن حذف أمر شراء تم استلامه")

variable {id : String}

/-- What a transaction answers. -/
def outcome (x : DepotTx Unit) (d : Depot) : Except Failure Unit := (x.run d).map fun _ => ()

/-- The read before a transaction, or a transaction. -/
def OrderTask.step (w : Word) (env : Env) (task : OrderTask id) (d : Depot) : OrderTask id × Depot :=
  match task with
  | .updatePurchaseOrder order same =>
    match outcome (updateGuard order) d with
    | .error e => (.answered (.error e), d)
    | .ok _ => (.updating order same, d)
  | .updating order _ => (.answered (.ok ()), (d.deleteItemsByOrderID order.id).saveOrder (editedOrder w order))
  | .deletePurchaseOrder =>
    match outcome (deleteGuard id) d with
    | .error e => (.answered (.error e), d)
    | .ok _ => (.deleting, d)
  | .deleting => (.answered (.ok ()), (d.deleteItemsByOrderID id).deleteOrder id)
  | .receivePurchaseOrder items =>
    let tx := BeidarPos.receivePurchaseOrder env id items
    (.answered (outcome tx d), tx.commit d)
  | .payPurchaseOrder amount =>
    let tx := BeidarPos.payPurchaseOrder w id amount
    (.answered (outcome tx d), tx.commit d)
  | .cancelPurchaseOrder =>
    let tx := BeidarPos.cancelPurchaseOrder w id
    (.answered (outcome tx d), tx.commit d)
  | .answered result => (.answered result, d)

abbrev OrderWorld (id : String) := World Depot (OrderTask id)

/-- An order that was received in part or in full, cancelled, or paid. -/
def PurchaseOrderRow.Settled (row : PurchaseOrderRow) : Prop := row.status ≠ .pending ∨ 0 < row.paidAmount

instance (row : PurchaseOrderRow) : Decidable row.Settled := inferInstanceAs (Decidable (_ ∨ _))

/-- What a settled order keeps from one state to a later one. -/
structure KeptOrder (id : String) (row : PurchaseOrderRow) (d d' : Depot) (row' : PurchaseOrderRow) : Prop where
  stored : d'.purchaseOrders.find? id = some row'
  status : row.status ≠ .pending → row'.status ≠ .pending
  paid : row.paidAmount ≤ row'.paidAmount
  lines : ∀ line ∈ d.getOrderItems id, ∃ line' ∈ d'.getOrderItems id,
    line'.id = line.id ∧ line.receivedQty ≤ line'.receivedQty

def Kept (id : String) (d d' : Depot) : Prop :=
  ∀ row, d.purchaseOrders.find? id = some row → row.Settled → ∃ row', KeptOrder id row d d' row'

/-- The transaction of an edit or a deletion finds the order pending and unpaid, if at all. -/
def OrderTask.writesUnsettled (task : OrderTask id) (d : Depot) : Prop :=
  match task with
  | .updating _ _ | .deleting => ∀ row ∈ d.purchaseOrders.find? id, ¬ row.Settled
  | _ => True

instance (task : OrderTask id) (d : Depot) : Decidable (task.writesUnsettled d) :=
  match task with
  | .updating _ _ | .deleting => inferInstanceAs (Decidable (∀ row ∈ d.purchaseOrders.find? id, ¬ row.Settled))
  | .updatePurchaseOrder _ _ | .deletePurchaseOrder | .receivePurchaseOrder _ | .payPurchaseOrder _
  | .cancelPurchaseOrder | .answered _ => isTrue trivial

def WritesUnsettled (_ : Turn Env) (task : OrderTask id) (w : OrderWorld id) : Prop := task.writesUnsettled w.state

instance (turn : Turn Env) (task : OrderTask id) (w : OrderWorld id) : Decidable (WritesUnsettled turn task w) :=
  inferInstanceAs (Decidable (task.writesUnsettled w.state))

variable {w : Word} {env : Env} {d d' final : Depot} {ws : List DepotWrite}

/-- The two halves of an edit in a row are the edit in one transaction. -/
theorem update_halves {order : PurchaseOrder} (h : Does (updateGuard order) d () ws final) :
    (updatePurchaseOrder w order).commit d = (d.deleteItemsByOrderID order.id).saveOrder (editedOrder w order) := by
  unfold updateGuard at h
  rw [does_ask_bind, does_require_bind] at h
  obtain ⟨existing, loaded, h⟩ := h
  rw [does_ensure_bind] at h
  obtain ⟨pending, checked⟩ := h
  obtain ⟨rfl, rfl, admitted⟩ := checkOrderItems_does checked
  have row := (getPurchaseOrder_row loaded).1
  have inPlace : final.purchaseOrders.set (editedOrder w order).toPurchaseOrderRow =
      final.purchaseOrders.put (editedOrder w order).toPurchaseOrderRow := Table.set_stored row
  suffices edited : Does (updatePurchaseOrder w order) final ()
      [.deleteItemsByOrderID order.id, .updatePurchaseOrder (editedOrder w order)]
      ((final.deleteItemsByOrderID order.id).saveOrder (editedOrder w order)) from commit_accepted edited
  unfold updatePurchaseOrder
  rw [does_ask_bind, does_require_bind]
  refine ⟨existing, loaded, does_ensure_bind.mpr ⟨pending, ?_⟩⟩
  refine does_bind.mpr ⟨(), [], final, _, checked, does_write_bind.mpr ⟨_, _, rfl, does_write.mpr ⟨rfl, ?_⟩, rfl⟩, rfl⟩
  simp only [DepotWrite.apply, Depot.saveOrder, Depot.deleteItemsByOrderID, inPlace]

theorem Kept.refl (id : String) (d : Depot) : Kept id d d :=
  fun row stored _ => ⟨row, stored, fun h => h, le_refl _, fun line member => ⟨line, member, rfl, le_refl _⟩⟩

theorem KeptOrder.settled {row row' : PurchaseOrderRow} (kept : KeptOrder id row d d' row') (settled : row.Settled) :
    row'.Settled := by
  rcases settled with status | paid
  · exact .inl (kept.status status)
  · exact .inr (lt_of_lt_of_le paid kept.paid)

theorem Kept.trans (first : Kept id d d') (second : Kept id d' final) : Kept id d final := by
  intro row stored settled
  obtain ⟨row', kept⟩ := first row stored settled
  obtain ⟨row'', later⟩ := second row' kept.stored (kept.settled settled)
  refine ⟨row'', later.stored, fun h => later.status (kept.status h), kept.paid.trans later.paid, fun line member => ?_⟩
  obtain ⟨line', member', same, more⟩ := kept.lines line member
  obtain ⟨line'', member'', same', more'⟩ := later.lines line' member'
  exact ⟨line'', member'', same'.trans same, more.trans more'⟩

section Receiving

variable {state : Receiving} {offers : List PurchaseOrderItem} {line : PurchaseOrderItem}

/-- An offer takes nothing back from a line. -/
theorem takeOffer_grows (offer : PurchaseOrderItem) (distinct : (state.orderItems.map PurchaseOrderItem.id).Nodup)
    (member : line ∈ state.orderItems) :
    ∃ line' ∈ (takeOffer state offer).orderItems, line'.id = line.id ∧ line.receivedQty ≤ line'.receivedQty := by
  unfold takeOffer
  split
  · exact ⟨line, member, rfl, le_refl _⟩
  · next item toReceive accepted =>
    have taken := acceptedOffer_some accepted
    refine ⟨_, List.mem_map.mpr ⟨line, member, rfl⟩, ?_⟩
    by_cases own : line.id = item.id
    · have same : line = item := List.inj_on_of_nodup_map distinct member taken.line own
      have positive := taken.positive
      subst same
      exact ⟨by rw [if_pos rfl]; rfl, by rw [if_pos rfl]; simp [PurchaseOrderItem.receivedAs, positive.le]⟩
    · rw [if_neg own]
      exact ⟨rfl, le_refl _⟩

theorem offers_grow (distinct : (state.orderItems.map PurchaseOrderItem.id).Nodup) (member : line ∈ state.orderItems) :
    ∃ line' ∈ (offers.foldl takeOffer state).orderItems, line'.id = line.id ∧ line.receivedQty ≤ line'.receivedQty := by
  induction offers generalizing state line with
  | nil => exact ⟨line, member, rfl, le_refl _⟩
  | cons offer offers ih =>
    obtain ⟨line', member', same, more⟩ := takeOffer_grows offer distinct member
    have distinct' := (takeOffer_same state offer).ids ▸ distinct
    obtain ⟨line'', member'', same', more'⟩ := ih distinct' member'
    exact ⟨line'', member'', same'.trans same, more.trans more'⟩

end Receiving

/-- Every stored line has a number: the database numbers rows from 1. -/
def LinesNumbered (d : Depot) : Prop := ∀ line ∈ d.purchaseOrderItems.rows, line.id ≠ 0

theorem receive_kept {items : List PurchaseOrderItem} (numbered : LinesNumbered d)
    (h : Does (receivePurchaseOrder env id items) d () ws final) : Kept id d final ∧ LinesNumbered final := by
  obtain ⟨own, -, tied⟩ := receive_table numbered h
  have replayed := order_replayed h id
  obtain ⟨order, facts, rfl⟩ := receivePurchaseOrder_does h
  obtain ⟨loaded, -, named⟩ := getPurchaseOrder_row facts.loaded
  refine ⟨fun row stored _ => ?_, fun line member => ?_⟩
  · have row_eq : order.toPurchaseOrderRow = row := Option.some.inj (loaded.symm.trans stored)
    have lines : ∀ line ∈ d.getOrderItems id, ∃ line' ∈ final.getOrderItems id,
        line'.id = line.id ∧ line.receivedQty ≤ line'.receivedQty := by
      rw [own]
      exact fun line member => @offers_grow ⟨d.getOrderItems id, true⟩ items line (distinct_ids id d) member
    rw [Cell.steps_append, receiveWrites_frame (fun _ _ => rfl) (fun _ _ _ => rfl), loaded] at replayed
    unfold receiptWrites at replayed
    split at replayed
    · simp only [Cell.steps_cons, Cell.steps_nil, orderRowCell, orderRowStep, named, if_true, Option.map_some] at replayed
      exact ⟨_, replayed, fun _ => by simp, by rw [← row_eq], lines⟩
    · split at replayed
      · simp only [Cell.steps_cons, Cell.steps_nil, orderRowCell, orderRowStep, named, if_true, Option.map_some] at replayed
        exact ⟨_, replayed, fun _ => by simp, by rw [← row_eq], lines⟩
      · exact ⟨row, replayed.trans (row_eq ▸ rfl), fun settled => settled, le_refl _, lines⟩
  · obtain ⟨old, stored, same⟩ := tied_row (tied ▸ tied_of_mem member)
    rw [← Table.find?_key stored]
    exact numbered old (Table.find?_mem stored)

/-- A transaction that writes the order back, with a later status and no less paid. -/
theorem saved_kept {x : DepotTx Unit} {order : PurchaseOrder} (saved : PurchaseOrder) (numbered : LinesNumbered d)
    (h : Does x d () ws final)
    (loaded : d.getPurchaseOrder id = some order) (items : saved.items = order.items) (same : saved.id = order.id)
    (status : order.status ≠ .pending → saved.status ≠ .pending) (paid : order.paidAmount ≤ saved.paidAmount)
    (row : (orderRowCell id).steps ws (d.purchaseOrders.find? id) =
      (d.purchaseOrders.find? id).map fun _ => saved.toPurchaseOrderRow)
    (lines : orderLinesCell.steps ws d.purchaseOrderItems = saveOrderItems saved.id d.purchaseOrderItems saved.items) :
    Kept id d final ∧ LinesNumbered final := by
  have replayed := order_replayed h id
  have table := lines_replayed h
  have stays := saveOrderItems_preload numbered loaded (t := d.purchaseOrderItems) rfl
  rw [row] at replayed
  rw [lines, items, same, stays] at table
  refine ⟨fun old stored _ => ?_, fun line member => numbered line (table ▸ member)⟩
  have old_eq : order.toPurchaseOrderRow = old :=
    Option.some.inj ((getPurchaseOrder_row loaded).1.symm.trans stored)
  subst old_eq
  rw [stored] at replayed
  refine ⟨_, replayed, status, paid, fun line member => ⟨line, ?_, rfl, le_refl _⟩⟩
  unfold Depot.getOrderItems
  rw [table]
  exact member

theorem pay_kept {amount : Int} (numbered : LinesNumbered d) (h : Does (payPurchaseOrder .exact id amount) d () ws final) :
    Kept id d final ∧ LinesNumbered final := by
  obtain ⟨order, facts, rfl⟩ := payPurchaseOrder_does h
  have named := (getPurchaseOrder_row facts.loaded).2.2
  have positive := facts.positive
  refine saved_kept { order with paidAmount := order.paidAmount + amount } numbered h facts.loaded rfl rfl
    (fun settled => settled) ?_ ?_ rfl
  · simp only
    omega
  · simp [Cell.steps_cons, Cell.steps_nil, orderRowCell, orderRowStep, named]

theorem cancel_kept (numbered : LinesNumbered d) (h : Does (cancelPurchaseOrder .exact id) d () ws final) :
    Kept id d final ∧ LinesNumbered final := by
  obtain ⟨order, loaded, -, rfl⟩ := cancelPurchaseOrder_does h
  have named := (getPurchaseOrder_row loaded).2.2
  refine saved_kept { order with status := .cancelled } numbered h loaded rfl rfl
    (fun _ => by simp) (le_refl _) ?_ ?_
  · unfold revertWrites
    split <;> simp [Cell.steps_cons, Cell.steps_nil, orderRowCell, orderRowStep, named]
  · unfold revertWrites
    split <;> rfl

theorem saveOrderItem_numbered {t : Serial PurchaseOrderItem.id} {item : PurchaseOrderItem}
    (numbered : ∀ line ∈ t.rows, line.id ≠ 0) : ∀ line ∈ (saveOrderItem id t item).rows, line.id ≠ 0 := by
  intro line member
  cases found : t.find? item.id with
  | none =>
    obtain ⟨row, rows, which⟩ := @Serial.save_fresh _ _ t PurchaseOrderItem.numbered (fun _ _ => rfl)
      (PurchaseOrderItem.ofOrder id) (fun _ => rfl) item found
    rcases List.mem_append.mp (rows ▸ member) with old | new
    · exact numbered line old
    · rw [List.mem_singleton.mp new]
      rcases which with ⟨rfl, given⟩ | rfl
      · exact given
      · exact Nat.succ_ne_zero _
  | some row =>
    have given : item.id ≠ 0 := Table.find?_key found ▸ numbered row (Table.find?_mem found)
    have taken : t.insert? (item.ofOrder id) = none :=
      Serial.insert?_none.mpr (Table.insert?_none.mpr ⟨row, found⟩)
    have saved : (saveOrderItem id t item).toTable =
        t.toTable.modify item.id (PurchaseOrderItem.ofOrder id) (fun _ => rfl) := by
      unfold saveOrderItem Serial.save
      rw [if_neg given, taken]
      rfl
    rw [saved] at member
    rcases @Table.modify_mem _ _ _ _ t.toTable (PurchaseOrderItem.ofOrder id) (fun _ => rfl) _ _ member with
      ⟨old, before, rfl, -⟩ | ⟨before, -⟩
    · exact numbered old before
    · exact numbered line before

theorem saveOrderItems_numbered {t : Serial PurchaseOrderItem.id} {items : List PurchaseOrderItem}
    (numbered : ∀ line ∈ t.rows, line.id ≠ 0) : ∀ line ∈ (saveOrderItems id t items).rows, line.id ≠ 0 := by
  induction items generalizing t with
  | nil => exact numbered
  | cons item items ih => exact ih (saveOrderItem_numbered numbered)

/-- A transaction leaves the depot alone, or what it does keeps the order. -/
theorem commit_kept {x : DepotTx Unit} (numbered : LinesNumbered d)
    (kept : ∀ ws final, Does x d () ws final → Kept id d final ∧ LinesNumbered final) :
    Kept id d (x.commit d) ∧ LinesNumbered (x.commit d) := by
  by_cases accepted : x.accepts d
  · exact kept _ _ (does_accepted accepted)
  · rw [(commit_rejected accepted).1]
    exact ⟨Kept.refl id d, numbered⟩

theorem unsettled_kept (unsettled : ∀ row ∈ d.purchaseOrders.find? id, ¬ row.Settled) : Kept id d final :=
  fun row stored settled => absurd settled (unsettled row stored)

/-- One step of a call, a case for each. -/
theorem step_kept {task : OrderTask id} (env : Env) (numbered : LinesNumbered d) (unsettled : task.writesUnsettled d) :
    Kept id d (task.step .exact env d).2 ∧ LinesNumbered (task.step .exact env d).2 := by
  have deleted : ∀ orderID, LinesNumbered (d.deleteItemsByOrderID orderID) :=
    fun orderID line member => numbered line (Table.filter_mem.mp member).1
  cases task with
  | updatePurchaseOrder order same =>
    simp only [OrderTask.step]
    split <;> exact ⟨Kept.refl id d, numbered⟩
  | updating order same =>
    exact ⟨unsettled_kept unsettled, saveOrderItems_numbered (deleted order.id)⟩
  | deletePurchaseOrder =>
    simp only [OrderTask.step]
    split <;> exact ⟨Kept.refl id d, numbered⟩
  | deleting => exact ⟨unsettled_kept unsettled, deleted id⟩
  | receivePurchaseOrder items => exact commit_kept numbered fun _ _ done => receive_kept numbered done
  | payPurchaseOrder amount => exact commit_kept numbered fun _ _ done => pay_kept numbered done
  | cancelPurchaseOrder => exact commit_kept numbered fun _ _ done => cancel_kept numbered done
  | answered result => exact ⟨Kept.refl id d, numbered⟩

theorem run_kept {world : OrderWorld id} {schedule : List (Turn Env)} (numbered : LinesNumbered world.state)
    (unsettled : Meets (OrderTask.step .exact) WritesUnsettled schedule world) :
    Kept id world.state (run (OrderTask.step .exact) schedule world).state ∧
      LinesNumbered (run (OrderTask.step .exact) schedule world).state := by
  refine run_keeps (fun now => Kept id world.state now.state ∧ LinesNumbered now.state) ?_
    ⟨Kept.refl id _, numbered⟩ unsettled
  intro now turn task kept _ allowed
  obtain ⟨next, numbered'⟩ := step_kept turn.env kept.2 allowed
  exact ⟨kept.1.trans next, numbered'⟩

/-- In every interleaving of calls on an order in which the transactions of edits and
deletions find it unsettled, an order that is settled after some steps is still there
after more, is not pending again, and lost no payment and no received quantity. -/
theorem settled_order_kept (id : String) (world : OrderWorld id) (numbered : LinesNumbered world.state)
    (front back : List (Turn Env)) (unsettled : Meets (OrderTask.step .exact) WritesUnsettled (front ++ back) world) :
    Kept id (run (OrderTask.step .exact) front world).state (run (OrderTask.step .exact) (front ++ back) world).state := by
  rw [run_append]
  exact (run_kept (run_kept numbered unsettled.front).2 unsettled.back).1

section Tea

/-- A pending order of five packs of tea, nothing paid or received. -/
def teaOrdered : PurchaseOrder :=
  ⟨⟨"PO-1", "s", "Samir", .pending, 2500, 0, "", 0, 0⟩, [⟨1, "PO-1", "tea", "Tea", 5, 0, 500, 2500⟩]⟩

def teaDepot : Depot where
  store := shop
  suppliers := .empty
  purchaseOrders := ⟨[teaOrdered.toPurchaseOrderRow], by simp⟩
  purchaseOrderItems := Serial.append .empty (fun n => ⟨n, "PO-1", "tea", "Tea", 5, 0, 500, 2500⟩) (fun _ => rfl)

def teaWorld (tasks : List (OrderTask "PO-1")) : OrderWorld "PO-1" := ⟨teaDepot, tasks⟩

theorem teaWorld_numbered (tasks : List (OrderTask "PO-1")) : LinesNumbered (teaWorld tasks).state := by
  intro line member
  rw [List.mem_singleton.mp member]
  exact Nat.succ_ne_zero 0

def teaTurns (turns : List Nat) : List (Turn Env) := turns.map fun task => ⟨task, till⟩

/-- An edit that was let through before the tea came in. -/
def editedTea : OrderWorld "PO-1" :=
  teaWorld [.updatePurchaseOrder teaOrdered rfl, .receivePurchaseOrder [delivery "tea" 2]]

/-- A deletion of an order that was paid in part. -/
def paidTea : OrderWorld "PO-1" := teaWorld [.payPurchaseOrder 1000, .deletePurchaseOrder]

end Tea

theorem received_tea_kept :
    Kept "PO-1" (run (OrderTask.step .exact) (teaTurns [0, 0, 1]) editedTea).state
      (run (OrderTask.step .exact) (teaTurns [0, 0, 1] ++ teaTurns [1]) editedTea).state :=
  settled_order_kept "PO-1" editedTea (teaWorld_numbered _) (teaTurns [0, 0, 1]) (teaTurns [1]) (by
    decide +kernel)

/-- The edit's transaction takes a receipt back, and a paid order is deleted. -/
theorem settled_order_lost :
    ¬ Kept "PO-1" (run (OrderTask.step .exact) (teaTurns [0, 1]) editedTea).state
        (run (OrderTask.step .exact) (teaTurns [0, 1, 0]) editedTea).state ∧
      ¬ Kept "PO-1" (run (OrderTask.step .exact) (teaTurns [0]) paidTea).state
        (run (OrderTask.step .exact) (teaTurns [0, 1, 1]) paidTea).state := by
  constructor
  · intro kept
    obtain ⟨row, facts⟩ := kept { teaOrdered.toPurchaseOrderRow with status := .partiallyReceived }
      (by decide +kernel) (by decide)
    have pending : (run (OrderTask.step .exact) (teaTurns [0, 1, 0]) editedTea).state.purchaseOrders.find? "PO-1" =
        some teaOrdered.toPurchaseOrderRow := by decide +kernel
    have same : row = teaOrdered.toPurchaseOrderRow := Option.some.inj (facts.stored.symm.trans pending)
    exact facts.status (by decide) (same ▸ rfl)
  · intro kept
    obtain ⟨row, facts⟩ := kept { teaOrdered.toPurchaseOrderRow with paidAmount := 1000 } (by decide +kernel) (by decide)
    have gone : (run (OrderTask.step .exact) (teaTurns [0, 1, 1]) paidTea).state.purchaseOrders.find? "PO-1" = none := by
      decide +kernel
    have stored := facts.stored
    rw [gone] at stored
    cases stored

end BeidarPos
