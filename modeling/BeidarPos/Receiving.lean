import BeidarPos.ReceivedLines

/-! Receiving purchase orders over whole runs. The lines in memory are the stored lines of
the order throughout the loop, so what holds of the loop holds of the tables: no line
is received beyond its quantity, stock rises by what the lines received, and the
status follows the lines as long as a request that offers everything fills each line in
one turn. -/
namespace BeidarPos

open Machine Relational Journal Tx

section Tables

def linesFor (orderID : String) (t : Serial PurchaseOrderItem.id) : List PurchaseOrderItem :=
  t.rows.filter (fun item => item.orderID = orderID)

def receiveRow (itemID : Nat) (qty : ℚ) (t : Serial PurchaseOrderItem.id) : Serial PurchaseOrderItem.id :=
  t.modify itemID (PurchaseOrderItem.receivedAs qty) PurchaseOrderItem.receivedAs_id

theorem linesFor_receiveRow (itemID : Nat) (qty : ℚ) (orderID : String) (t : Serial PurchaseOrderItem.id) :
    linesFor orderID (receiveRow itemID qty t) = receivedInto itemID qty (linesFor orderID t) := by
  have kept : (fun item : PurchaseOrderItem => decide (item.orderID = orderID)) ∘
      (fun line => if line.id = itemID then line.receivedAs qty else line) =
      fun item => decide (item.orderID = orderID) := by
    funext line
    by_cases same : line.id = itemID <;> simp [same, PurchaseOrderItem.receivedAs]
  have filtered := List.filter_map (f := fun line : PurchaseOrderItem =>
    if line.id = itemID then line.receivedAs qty else line)
    (p := fun item : PurchaseOrderItem => decide (item.orderID = orderID)) (l := t.rows)
  rw [kept] at filtered
  exact filtered

/-- The lines of an order do not change when a line of another one does. -/
theorem linesFor_other {t : Serial PurchaseOrderItem.id} {orderID other : String} {item : PurchaseOrderItem}
    (member : item ∈ linesFor orderID t) (ne : other ≠ orderID) (qty : ℚ) :
    linesFor other (receiveRow item.id qty t) = linesFor other t := by
  rw [linesFor_receiveRow]
  unfold receivedInto
  conv_rhs => rw [← List.map_id (linesFor other t)]
  apply List.map_congr_left
  intro line inside
  have elsewhere : line.id ≠ item.id := by
    intro same
    have stored := List.mem_filter.mp member
    have stored' := List.mem_filter.mp inside
    have identical := Table.unique_row stored'.1 stored.1 same
    have owner : item.orderID = orderID := by simpa using stored.2
    have owner' : line.orderID = other := by simpa using stored'.2
    exact ne (owner'.symm.trans (identical ▸ owner))
  simp [elsewhere]

/-- Number and order of each row. -/
def ties (t : Serial PurchaseOrderItem.id) : List (Nat × String) := t.rows.map fun line => (line.id, line.orderID)

theorem ties_receiveRow (itemID : Nat) (qty : ℚ) (t : Serial PurchaseOrderItem.id) :
    ties (receiveRow itemID qty t) = ties t :=
  receivedInto_map (fun line => (line.id, line.orderID)) (fun _ _ => rfl) itemID qty t.rows

theorem tied_row {t : Serial PurchaseOrderItem.id} {number : Nat} {orderID : String} (tied : (number, orderID) ∈ ties t) :
    ∃ row, t.find? number = some row ∧ row.orderID = orderID := by
  obtain ⟨row, member, same⟩ := List.mem_map.mp tied
  cases same
  exact ⟨row, Table.find?_of_mem member, rfl⟩

theorem tied_of_mem {t : Serial PurchaseOrderItem.id} {line : PurchaseOrderItem} (member : line ∈ t.rows) :
    (line.id, line.orderID) ∈ ties t :=
  List.mem_map.mpr ⟨line, member, rfl⟩

/-- The loop on the table is the loop in memory; other orders' lines and all ties stay. -/
theorem receive_lines (env : Env) (orderID : String) (products : Table Product.id)
    {offers : List PurchaseOrderItem} {state : Receiving} {t : Serial PurchaseOrderItem.id}
    (loaded : state.orderItems = linesFor orderID t) :
    linesFor orderID (orderLinesCell.steps (receiveWrites env orderID products offers state) t) =
        (offers.foldl takeOffer state).orderItems ∧
      (∀ other ≠ orderID, linesFor other (orderLinesCell.steps (receiveWrites env orderID products offers state) t) =
        linesFor other t) ∧
      ties (orderLinesCell.steps (receiveWrites env orderID products offers state) t) = ties t := by
  induction offers generalizing state t with
  | nil => exact ⟨loaded.symm, fun _ _ => rfl, rfl⟩
  | cons offer offers ih =>
    rw [receiveWrites, Cell.steps_append]
    cases accepted : acceptedOffer state.orderItems offer with
    | none =>
      have passed : takeOffer state offer = state := by simp [takeOffer, accepted]
      have silent : offerWrites env orderID products state offer = [] := by simp [offerWrites, accepted]
      rw [List.foldl_cons, passed, silent, Cell.steps_nil]
      exact ih loaded
    | some pair =>
      obtain ⟨item, toReceive⟩ := pair
      have taken := acceptedOffer_some accepted
      have turn : orderLinesCell.steps (offerWrites env orderID products state offer) t =
          receiveRow item.id (item.receivedQty + toReceive) t := by
        simp only [offerWrites, accepted]
        rfl
      have next : (takeOffer state offer).orderItems =
          linesFor orderID (receiveRow item.id (item.receivedQty + toReceive) t) := by
        simp only [takeOffer, accepted]
        rw [linesFor_receiveRow, loaded]
      rw [List.foldl_cons, turn]
      obtain ⟨lines, others, same⟩ := ih next
      refine ⟨lines, ?_, ?_⟩
      · intro other ne
        rw [others other ne, linesFor_other (loaded ▸ taken.line) ne]
      · rw [same, ties_receiveRow]

/-- A save of lines that are stored and tied already changes nothing. -/
theorem saveOrderItems_stored {t : Serial PurchaseOrderItem.id} {orderID : String} {items : List PurchaseOrderItem}
    (stored : ∀ item ∈ items, item.id ≠ 0 ∧ (item.id, orderID) ∈ ties t) : saveOrderItems orderID t items = t := by
  unfold saveOrderItems
  induction items with
  | nil => rfl
  | cons item items ih =>
    obtain ⟨numbered, tied⟩ := stored item (by simp)
    obtain ⟨row, found, owner⟩ := tied_row tied
    have same : saveOrderItem orderID t item = t :=
      Serial.save_stored numbered found (by simp [PurchaseOrderItem.ofOrder, ← owner])
    rw [List.foldl_cons, same]
    exact ih fun other member => stored other (by simp [member])

/-- A line as a new order adds it: tied to the order, numbered, nothing received. -/
structure NewLine (orderID : String) (line : PurchaseOrderItem) : Prop where
  owner : line.orderID = orderID
  numbered : line.id ≠ 0
  untouched : line.receivedQty = 0
  quantity : 0 < line.quantity

/-- Saving lines under free numbers only adds rows. A number used twice in the request
is added once: the second save finds its row and ties it as it is. -/
theorem saveOrderItems_new {t t' : Serial PurchaseOrderItem.id} {orderID : String} {items added : List PurchaseOrderItem}
    (free : ∀ item ∈ items, t.find? item.id = none)
    (admitted : ∀ item ∈ items, item.receivedQty = 0 ∧ 0 < item.quantity)
    (so_far : t'.rows = t.rows ++ added) (good : ∀ line ∈ added, NewLine orderID line) :
    ∃ all, (saveOrderItems orderID t' items).rows = t.rows ++ all ∧ (∀ line ∈ all, NewLine orderID line) ∧
      (items ≠ [] ∨ added ≠ [] → all ≠ []) := by
  induction items generalizing t' added with
  | nil => exact ⟨added, so_far, good, by simp⟩
  | cons item items ih =>
    have later : ∀ other ∈ items, t.find? other.id = none := fun other member => free other (by simp [member])
    have rest : ∀ other ∈ items, other.receivedQty = 0 ∧ 0 < other.quantity :=
      fun other member => admitted other (by simp [member])
    obtain ⟨untouched, quantity⟩ := admitted item (by simp)
    cases found : t'.find? item.id with
    | none =>
      obtain ⟨row, rows, which⟩ := @Serial.save_fresh _ _ t' PurchaseOrderItem.numbered (fun _ _ => rfl)
        (PurchaseOrderItem.ofOrder orderID) (fun _ => rfl) item found
      have new : NewLine orderID row := by
        rcases which with ⟨rfl, given⟩ | rfl
        · exact ⟨rfl, given, untouched, quantity⟩
        · exact ⟨rfl, Nat.succ_ne_zero _, untouched, quantity⟩
      have extended : (saveOrderItem orderID t' item).rows = t.rows ++ (added ++ [row]) := by
        rw [← List.append_assoc, ← so_far]
        exact rows
      have good' : ∀ line ∈ added ++ [row], NewLine orderID line := by
        intro line member
        rcases List.mem_append.mp member with old | last
        · exact good line old
        · exact List.mem_singleton.mp last ▸ new
      obtain ⟨all, rows, lines, some⟩ := ih later rest extended good'
      exact ⟨all, rows, lines, fun _ => some (.inr (by simp))⟩
    | some row =>
      have member : row ∈ t.rows ++ added := so_far ▸ Table.find?_mem found
      have number := Table.find?_key found
      have recent : row ∈ added := by
        rcases List.mem_append.mp member with old | recent
        · have taken := Table.find?_of_mem old
          rw [number, free item (by simp)] at taken
          cases taken
        · exact recent
      have new := good row recent
      have same : saveOrderItem orderID t' item = t' :=
        Serial.save_stored (number ▸ new.numbered) found (by simp [PurchaseOrderItem.ofOrder, ← new.owner])
      obtain ⟨all, rows, lines, some⟩ := ih later rest so_far good
      refine ⟨all, ?_, lines, fun _ => some (.inr ?_)⟩
      · rw [saveOrderItems, List.foldl_cons, same]
        exact rows
      · exact fun empty => by rw [empty] at recent; cases recent

end Tables

inductive ReceivingCall where
  | create (order : PurchaseOrder)
  | receive (orderID : String) (items : List PurchaseOrderItem)

def ReceivingCall.body (w : Word) (env : Env) : ReceivingCall → DepotTx Unit
  | .create order => createPurchaseOrder w env order
  | .receive orderID items => receivePurchaseOrder env orderID items

/-- What a call may bring in the state it is made in: a new order no number of a stored
line, and a request that offers everything outstanding no two lines of one product and
no product in several deliveries. -/
def ReceivingCall.clear (d : Depot) : ReceivingCall → Prop
  | .create order => ∀ item ∈ order.items, d.purchaseOrderItems.find? item.id = none
  | .receive orderID items => OffersAll (d.getOrderItems orderID) items →
      DistinctProducts (d.getOrderItems orderID) ∧ CoveredAtOnce (d.getOrderItems orderID) items

/-- The depots reached from one without orders by such calls. `elsewhere` is any change
outside the orders and their lines. -/
inductive ClearRun (w : Word) : Depot → Prop
  | start (d : Depot) : d.purchaseOrders.rows = [] → d.purchaseOrderItems.rows = [] → ClearRun w d
  | call {d final : Depot} {ws : List DepotWrite} (env : Env) (c : ReceivingCall) :
    ClearRun w d → c.clear d → Does (c.body w env) d () ws final → ClearRun w final
  | elsewhere {d final : Depot} : ClearRun w d → final.purchaseOrders = d.purchaseOrders →
    final.purchaseOrderItems = d.purchaseOrderItems → ClearRun w final

structure SoundOrder (row : PurchaseOrderRow) (lines : List PurchaseOrderItem) : Prop where
  filled : lines ≠ []
  within : WithinOrder lines
  active : row.status ≠ .cancelled
  complete : row.status = .received ↔ Full lines

structure Tidy (d : Depot) : Prop where
  numbered : ∀ line ∈ d.purchaseOrderItems.rows, line.id ≠ 0
  owned : ∀ line ∈ d.purchaseOrderItems.rows, (d.purchaseOrders.find? line.orderID).isSome
  orders : ∀ id row, d.purchaseOrders.find? id = some row → SoundOrder row (d.getOrderItems id)

variable {w : Word} {env : Env} {d final : Depot} {ws : List DepotWrite}

theorem order_replayed {x : DepotTx α} (h : Does x d a ws final) (id : String) :
    final.purchaseOrders.find? id = (orderRowCell id).steps ws (d.purchaseOrders.find? id) :=
  (orderRowCell id).replay_read h.replays

theorem lines_replayed {x : DepotTx α} (h : Does x d a ws final) :
    final.purchaseOrderItems = orderLinesCell.steps ws d.purchaseOrderItems :=
  orderLinesCell.replay_read h.replays

theorem newOrder_lines (env : Env) (supplier : Option Supplier) {order : PurchaseOrder}
    (admitted : ∀ item ∈ order.items, AdmittedLine item) :
    ∀ item ∈ (newOrder w env supplier order).items, item.receivedQty = 0 ∧ 0 < item.quantity := by
  intro item member
  obtain ⟨sent, inside, rfl⟩ := List.mem_map.mp member
  exact ⟨rfl, (admitted sent inside).1⟩

theorem create_keeps_tidy {order : PurchaseOrder} (tidy : Tidy d) (clear : (ReceivingCall.create order).clear d)
    (h : Does (createPurchaseOrder w env order) d () ws final) : Tidy final := by
  have replayed := order_replayed h
  have lines := lines_replayed h
  have applied := h.replays
  obtain ⟨_, filled, admitted, rfl⟩ := createPurchaseOrder_does h
  generalize new : newOrder w env (d.suppliers.find? order.supplierID) order = stored at *
  have fresh : d.purchaseOrders.find? stored.id = none := by
    obtain ⟨next, made, _⟩ := replay_cons.mp applied
    obtain ⟨orders, inserted, _⟩ := createOrder_ok made
    exact (Table.insert?_rows inserted).2
  have free : ∀ item ∈ stored.items, d.purchaseOrderItems.find? item.id = none := by
    intro item member
    rw [← new] at member
    obtain ⟨sent, inside, rfl⟩ := List.mem_map.mp member
    exact clear sent inside
  have some : stored.items ≠ [] := by
    rw [← new]
    simpa [newOrder] using filled
  obtain ⟨added, rows, news, nonempty⟩ := @saveOrderItems_new _ d.purchaseOrderItems stored.id _ [] free
    (new ▸ newOrder_lines env _ admitted) (by simp) (by simp)
  simp only [Cell.steps_cons, Cell.steps_nil, orderRowCell, orderRowStep] at replayed
  have table : final.purchaseOrderItems.rows = d.purchaseOrderItems.rows ++ added := by
    rw [lines]
    exact rows
  have before : d.getOrderItems stored.id = [] := by
    refine List.filter_eq_nil_iff.mpr ?_
    intro line member
    have owned := tidy.owned line member
    simp only [decide_eq_true_eq]
    rintro owner
    rw [owner, fresh] at owned
    cases owned
  have own : added.filter (fun item => item.orderID = stored.id) = added :=
    List.filter_eq_self.mpr fun line member => by simp [(news line member).owner]
  refine ⟨?_, ?_, ?_⟩
  · intro line member
    rw [table] at member
    rcases List.mem_append.mp member with old | recent
    · exact tidy.numbered line old
    · exact (news line recent).numbered
  · intro line member
    rw [table] at member
    rw [replayed]
    split
    · simp
    · rename_i other
      rcases List.mem_append.mp member with old | recent
      · exact tidy.owned line old
      · exact absurd (news line recent).owner other
  · intro id row found
    rw [replayed] at found
    have split_lines : final.getOrderItems id =
        d.getOrderItems id ++ added.filter (fun item => item.orderID = id) := by
      simp only [Depot.getOrderItems, table, List.filter_append]
    split at found
    · rename_i same
      subst same
      cases found
      rw [split_lines, before, own, List.nil_append]
      refine ⟨nonempty (.inl some), ?_, ?_, ?_⟩
      · intro line member
        have new := news line member
        rw [new.untouched]
        exact ⟨le_rfl, new.quantity.le⟩
      · rw [← new]; simp [newOrder]
      · rw [← new]
        simp only [newOrder, reduceCtorEq, false_iff]
        intro full
        obtain ⟨line, member⟩ := List.exists_mem_of_ne_nil _ (nonempty (.inl some))
        have short := full line member
        rw [(news line member).untouched] at short
        exact absurd (news line member).quantity (not_lt.mpr short)
    · rename_i other
      have none : added.filter (fun item => item.orderID = id) = [] := by
        refine List.filter_eq_nil_iff.mpr ?_
        intro line member
        simp only [decide_eq_true_eq]
        exact fun owner => other (owner.symm.trans (news line member).owner)
      rw [split_lines, none, List.append_nil]
      exact tidy.orders id row found

theorem fullyReceived_iff (lines : List PurchaseOrderItem) : fullyReceived lines = true ↔ Full lines := by
  simp [fullyReceived, Full]

theorem distinct_ids (orderID : String) (d : Depot) :
    ((d.getOrderItems orderID).map PurchaseOrderItem.id).Nodup :=
  d.purchaseOrderItems.distinct.sublist (List.filter_sublist.map _)

/-- The order is saved with the lines of its preload, which are tied to it already. -/
theorem saveOrderItems_preload {t : Serial PurchaseOrderItem.id} {orderID : String} {order : PurchaseOrder}
    (numbered : ∀ line ∈ d.purchaseOrderItems.rows, line.id ≠ 0) (loaded : d.getPurchaseOrder orderID = some order)
    (tied : ties t = ties d.purchaseOrderItems) : saveOrderItems order.id t order.items = t := by
  obtain ⟨_, preload, named⟩ := getPurchaseOrder_row loaded
  refine saveOrderItems_stored ?_
  intro item member
  rw [preload] at member
  obtain ⟨stored, owner⟩ := List.mem_filter.mp member
  have owner : item.orderID = orderID := by simpa using owner
  rw [tied, named, ← owner]
  exact ⟨numbered item stored, tied_of_mem stored⟩

/-- What an accepted receipt leaves in the line table: the order's lines as the loop left
them in memory, all other lines as they were, every line with its number and order. -/
theorem receive_table {orderID : String} {items : List PurchaseOrderItem}
    (numbered : ∀ line ∈ d.purchaseOrderItems.rows, line.id ≠ 0)
    (h : Does (receivePurchaseOrder env orderID items) d u ws final) :
    final.getOrderItems orderID = (received d orderID items).orderItems ∧
      (∀ other ≠ orderID, final.getOrderItems other = d.getOrderItems other) ∧
      ties final.purchaseOrderItems = ties d.purchaseOrderItems := by
  have lines := lines_replayed h
  obtain ⟨order, facts, rfl⟩ := receivePurchaseOrder_does h
  obtain ⟨own, others, tied⟩ := @receive_lines env orderID d.store.products items
    ⟨d.getOrderItems orderID, true⟩ d.purchaseOrderItems rfl
  rw [Cell.steps_append] at lines
  generalize orderLinesCell.steps (receiveWrites env orderID d.store.products items
    ⟨d.getOrderItems orderID, true⟩) d.purchaseOrderItems = t at lines own others tied
  have saved := saveOrderItems_preload numbered facts.loaded tied
  have closed : orderLinesCell.steps (receiptWrites env order (received d orderID items)) t = t := by
    unfold receiptWrites
    split
    · exact saved
    · split
      · exact saved
      · rfl
  rw [closed] at lines
  subst lines
  exact ⟨own, others, tied⟩

/-- The row of the order after an accepted receipt. -/
theorem receive_row {orderID : String} {items : List PurchaseOrderItem}
    (h : Does (receivePurchaseOrder env orderID items) d u ws final) :
    ∃ order, ReceiveFacts d orderID order ∧
      (∀ other ≠ orderID, final.purchaseOrders.find? other = d.purchaseOrders.find? other) ∧
      ∃ row, final.purchaseOrders.find? orderID = some row ∧ row.status ≠ .cancelled ∧
        (row.status = .received ↔
          (received d orderID items).allReceived = true ∧ Full (received d orderID items).orderItems) := by
  have replayed := order_replayed h
  obtain ⟨order, facts, rfl⟩ := receivePurchaseOrder_does h
  obtain ⟨stored, _, named⟩ := getPurchaseOrder_row facts.loaded
  refine ⟨order, facts, ?_, ?_⟩
  · intro other ne
    rw [replayed, Cell.steps_append, receiveWrites_frame (fun _ _ => rfl) (fun _ _ _ => rfl)]
    unfold receiptWrites
    split
    · simp [orderRowCell, orderRowStep, named, ne]
    · split
      · simp [orderRowCell, orderRowStep, named, ne]
      · rfl
  · have after := replayed orderID
    rw [Cell.steps_append, receiveWrites_frame (fun _ _ => rfl) (fun _ _ _ => rfl), stored] at after
    unfold receiptWrites at after
    rw [← fullyReceived_iff, ← Bool.and_eq_true]
    split at after
    · rename_i complete
      simp only [Cell.steps_cons, Cell.steps_nil, orderRowCell, orderRowStep, named, if_true, Option.map_some] at after
      exact ⟨_, after, by simp, by simp [complete]⟩
    · rename_i incomplete
      split at after
      · simp only [Cell.steps_cons, Cell.steps_nil, orderRowCell, orderRowStep, named, if_true, Option.map_some] at after
        exact ⟨_, after, by simp, by simp [incomplete]⟩
      · exact ⟨_, after, facts.active, by simp [incomplete, facts.unreceived]⟩

theorem receive_keeps_tidy {orderID : String} {items : List PurchaseOrderItem} (tidy : Tidy d)
    (clear : (ReceivingCall.receive orderID items).clear d)
    (h : Does (receivePurchaseOrder env orderID items) d () ws final) : Tidy final := by
  obtain ⟨own, others, tied⟩ := receive_table tidy.numbered h
  obtain ⟨order, facts, rows, row, found, active, status⟩ := receive_row h
  obtain ⟨stored, _, _⟩ := getPurchaseOrder_row facts.loaded
  have sound := tidy.orders _ _ stored
  have ids := distinct_ids orderID d
  have kept : ∀ line ∈ final.purchaseOrderItems.rows, ∃ old ∈ d.purchaseOrderItems.rows,
      old.id = line.id ∧ old.orderID = line.orderID := by
    intro line member
    have tie := tied_of_mem member
    rw [tied] at tie
    obtain ⟨old, before, same⟩ := List.mem_map.mp tie
    simp only [Prod.mk.injEq] at same
    exact ⟨old, before, same.1, same.2⟩
  refine ⟨?_, ?_, ?_⟩
  · intro line member
    obtain ⟨old, before, number, _⟩ := kept line member
    exact number ▸ tidy.numbered old before
  · intro line member
    obtain ⟨old, before, _, owner⟩ := kept line member
    have owned := tidy.owned old before
    rw [owner] at owned
    by_cases same : line.orderID = orderID
    · rw [same, found]
      rfl
    · rw [rows _ same]
      exact owned
  · intro id row' found'
    by_cases same : id = orderID
    · subst same
      rw [found] at found'
      cases found'
      rw [own]
      have sameLines := offers_same items ⟨d.getOrderItems id, true⟩
      refine ⟨?_, offers_within ids sound.within, active, ?_⟩
      · intro empty
        have lengths := congrArg List.length sameLines.ids
        rw [show (items.foldl takeOffer ⟨d.getOrderItems id, true⟩).orderItems = [] from empty] at lengths
        have := sound.filled
        simp only [List.map_nil, List.length_nil, List.length_map] at lengths
        exact this (List.length_eq_zero_iff.mp lengths.symm)
      · rw [status]
        refine ⟨fun done => done.2, fun full => ⟨?_, full⟩⟩
        obtain ⟨distinct, covered⟩ := clear (offersAll_of_full ids sound.within full)
        exact (@offers_covered ⟨d.getOrderItems id, true⟩ _ ids distinct covered).2
    · rw [others id same]
      rw [rows id same] at found'
      exact tidy.orders id row' found'

theorem ClearRun.tidy (run : ClearRun w d) : Tidy d := by
  induction run with
  | start d orders lines =>
    refine ⟨by simp [lines], by simp [lines], ?_⟩
    intro id row found
    have member := Table.find?_mem found
    rw [orders] at member
    cases member
  | call env c _ clear does ih =>
    cases c with
    | create order => exact create_keeps_tidy ih clear does
    | receive orderID items => exact receive_keeps_tidy ih clear does
  | elsewhere _ orders lines ih =>
    refine ⟨lines ▸ ih.numbered, lines ▸ orders ▸ ih.owned, ?_⟩
    intro id row found
    rw [orders] at found
    have same : ∀ a b : Depot, a.purchaseOrderItems = b.purchaseOrderItems → a.getOrderItems id = b.getOrderItems id := by
      intro a b h
      simp only [Depot.getOrderItems, h]
    rw [same _ _ lines]
    exact ih.orders id row found

section Stock

variable {state : Receiving} {offers : List PurchaseOrderItem} {orderID : String} {products : Table Product.id}

/-- The loop moves the stock of a product by what its lines received. -/
theorem received_stock (ids : (state.orderItems.map PurchaseOrderItem.id).Nodup) (p : String) :
    ((shopWrites (receiveWrites env orderID products offers state)).map (Write.stockGain p)).sum =
      receivedOf p (offers.foldl takeOffer state).orderItems - receivedOf p state.orderItems := by
  induction offers generalizing state with
  | nil => simp [receiveWrites, shopWrites]
  | cons offer offers ih =>
    have next : ((takeOffer state offer).orderItems.map PurchaseOrderItem.id).Nodup := by
      rw [(takeOffer_same state offer).ids]
      exact ids
    have turn : ((shopWrites (offerWrites env orderID products state offer)).map (Write.stockGain p)).sum =
        receivedOf p (takeOffer state offer).orderItems - receivedOf p state.orderItems := by
      unfold offerWrites takeOffer
      split
      · simp [shopWrites]
      · rename_i item toReceive accepted
        have taken := acceptedOffer_some accepted
        rw [receivedOf_receivedInto ids taken.line, taken.product]
        simp [shopWrites, Write.stockGain]
    rw [receiveWrites, shopWrites_append, List.map_append, List.sum_append, turn, ih next, List.foldl_cons]
    ring

/-- An accepted receipt adds to the stock of each product what its lines received. -/
theorem receive_stock {items : List PurchaseOrderItem} (tidy : Tidy d)
    (h : Does (receivePurchaseOrder env orderID items) d u ws final) (p : String) :
    stockOf p final.store = (stockOf p d.store).map
      (· + (receivedOf p (final.getOrderItems orderID) - receivedOf p (d.getOrderItems orderID))) := by
  rw [(receive_table tidy.numbered h).1]
  have replayed := (stockCell p).replay_read (replay_shop h.replays)
  obtain ⟨order, _, rfl⟩ := receivePurchaseOrder_does h
  rw [stock_steps, shopWrites_append, receipt_shop, List.append_nil,
    @received_stock _ ⟨d.getOrderItems orderID, true⟩ _ _ _ (distinct_ids orderID d)] at replayed
  exact replayed

/-- Every product a line still waits for is in the shop, and not so far below zero that
the delivery leaves it there. -/
def Stocked (lines : List PurchaseOrderItem) (db : Store) : Prop :=
  ∀ line ∈ lines, 0 < remainingQty line → ∃ stock ∈ stockOf line.productID db, 0 ≤ stock + remainingQty line

theorem updateStock_accepted {db : Store} {id : String} {stock qty : ℚ} (found : stockOf id db = some stock)
    (enough : 0 ≤ stock + qty) : ∃ next, (Write.updateStock id qty).apply db = .ok next := by
  obtain ⟨product, present, rfl⟩ := Option.map_eq_some_iff.mp found
  simp [Write.apply, Store.updateStock, present, enough]

/-- A request that covers every open line at once meets no refusal in the loop. -/
theorem offers_accepted (ids : (state.orderItems.map PurchaseOrderItem.id).Nodup)
    (distinct : DistinctProducts state.orderItems) (covered : CoveredAtOnce state.orderItems offers)
    (stocked : Stocked state.orderItems d.store) :
    ∃ next ws final, Does (foldEach (receiveItem env orderID products) offers state) d next ws final := by
  induction offers generalizing state d with
  | nil => exact ⟨_, _, _, does_foldEach_nil.mpr ⟨rfl, rfl, rfl⟩⟩
  | cons offer offers ih =>
    obtain ⟨rest, _, whole⟩ := takeOffer_covered ids distinct covered
    have same := takeOffer_same state offer
    have ids' : ((takeOffer state offer).orderItems.map PurchaseOrderItem.id).Nodup := same.ids ▸ ids
    have distinct' : DistinctProducts (takeOffer state offer).orderItems := by
      unfold DistinctProducts
      rw [same.products]
      exact distinct
    suffices turn : ∃ middle front, Does (receiveItem env orderID products state offer) d (takeOffer state offer)
        front middle ∧ Stocked (takeOffer state offer).orderItems middle.store by
      obtain ⟨middle, front, does, stocked'⟩ := turn
      obtain ⟨next, back, final, later⟩ := ih ids' distinct' rest stocked'
      exact ⟨next, _, final, does_foldEach_cons.mpr ⟨_, _, _, _, does, later, rfl⟩⟩
    cases accepted : acceptedOffer state.orderItems offer with
    | none =>
      have passed : takeOffer state offer = state := by simp [takeOffer, accepted]
      rw [passed]
      refine ⟨d, [], ?_, stocked⟩
      rw [receiveItem, accepted]
      exact does_pure.mpr ⟨rfl, rfl, rfl⟩
    | some pair =>
      obtain ⟨item, toReceive⟩ := pair
      have taken := acceptedOffer_some accepted
      have filled := whole item toReceive accepted
      obtain ⟨stock, found, enough⟩ := stocked item taken.line taken.open_
      rw [← filled] at enough
      rw [taken.product] at found
      obtain ⟨store, updated⟩ := updateStock_accepted found enough
      have stocks : ∀ p, stockOf p store = stockStep p (.updateStock offer.productID toReceive) (stockOf p d.store) :=
        fun p => (stockCell p).law _ _ _ updated
      refine ⟨{ d with
          store := { store with stockMovements := store.stockMovements ++ [restockMovement env orderID
            (((products.find? offer.productID).map Product.name).getD item.productName) offer toReceive] }
          purchaseOrderItems := receiveRow item.id (item.receivedQty + toReceive) d.purchaseOrderItems },
        offerWrites env orderID products state offer, ?_, ?_⟩
      · rw [receiveItem, accepted]
        simp only [offerWrites, takeOffer, accepted]
        refine does_write_bind.mpr ⟨_, _, rfl, ?_, rfl⟩
        refine does_write_bind.mpr ⟨_, _, by simp only [DepotWrite.apply, updated, Except.map]; rfl, ?_, rfl⟩
        exact does_write_bind.mpr ⟨_, _, rfl, does_pure.mpr ⟨rfl, rfl, rfl⟩, rfl⟩
      · intro line member outstanding
        simp only [takeOffer, accepted] at member
        obtain ⟨old, before, rfl⟩ := mem_receivedInto member
        split at outstanding
        · rename_i number
          have identical : old = item := List.inj_on_of_nodup_map ids before taken.line number
          subst identical
          simp [remainingQty, PurchaseOrderItem.receivedAs, filled] at outstanding
        · rename_i other
          rw [if_neg other]
          obtain ⟨stock', present, enough'⟩ := stocked old before outstanding
          refine ⟨stock', ?_, enough'⟩
          have product : old.productID ≠ offer.productID := by
            intro same
            exact other (congrArg PurchaseOrderItem.id (List.inj_on_of_nodup_map distinct before taken.line
              (same.trans taken.product.symm)))
          have kept := stocks old.productID
          simp only [stockStep, if_neg product] at kept
          exact kept ▸ present

end Stock

/-- A request that offers everything outstanding, one line and one delivery a product,
of products that are in the shop, completes the order. -/
theorem receive_completes {orderID : String} {items : List PurchaseOrderItem} {row : PurchaseOrderRow} (env : Env)
    (tidy : Tidy d) (stored : d.purchaseOrders.find? orderID = some row)
    (distinct : DistinctProducts (d.getOrderItems orderID)) (covered : CoveredAtOnce (d.getOrderItems orderID) items)
    (stocked : Stocked (d.getOrderItems orderID) d.store) :
    ∃ row', ((receivePurchaseOrder env orderID items).commit d).purchaseOrders.find? orderID = some row' ∧
      row'.status = .received ∧ Full (((receivePurchaseOrder env orderID items).commit d).getOrderItems orderID) := by
  have sound := tidy.orders orderID row stored
  have ids := distinct_ids orderID d
  by_cases accepted : (receivePurchaseOrder env orderID items).accepts d
  · have does := does_accepted accepted
    obtain ⟨own, _, _⟩ := receive_table tidy.numbered does
    obtain ⟨_, _, _, row', found, _, status⟩ := receive_row does
    obtain ⟨full, flag⟩ := @offers_covered ⟨d.getOrderItems orderID, true⟩ _ ids distinct covered
    exact ⟨row', found, status.mpr ⟨flag, full⟩, own ▸ full⟩
  · -- the only refusal left is that of an order received before
    have done : row.status = .received := by
      by_contra unreceived
      refine accepted ?_
      obtain ⟨state, front, middle, loop⟩ := @offers_accepted env d
        ⟨d.getOrderItems orderID, true⟩ _ orderID d.store.products ids distinct covered stocked
      have loaded : d.getPurchaseOrder orderID = some { row with items := d.getOrderItems orderID } := by
        simp [Depot.getPurchaseOrder, stored]
      unfold Tx.accepts receivePurchaseOrder
      simp only [does_ask_bind, does_require_bind, does_ensure_bind, loaded, Option.some.injEq]
      have rest : ∀ flag partly, ∃ back final, Does (if flag = true then
          write (.updatePurchaseOrder { row with
            items := d.getOrderItems orderID, status := .received, receivedAt := env.millis })
          else when (partly = true) (write (.updatePurchaseOrder { row with
            items := d.getOrderItems orderID, status := .partiallyReceived })) : DepotTx Unit) middle () back final := by
        intro flag partly
        split
        · exact ⟨_, _, does_write.mpr ⟨rfl, rfl⟩⟩
        · by_cases some : partly = true
          · exact ⟨_, _, does_when.mpr (.inl ⟨some, does_write.mpr ⟨rfl, rfl⟩⟩)⟩
          · exact ⟨_, _, does_when.mpr (.inr ⟨some, rfl, rfl⟩)⟩
      obtain ⟨back, final, last⟩ := rest
        (state.allReceived && state.orderItems.all (fun item => !decide (item.receivedQty < item.quantity)))
        (state.orderItems.any (fun item => decide (0 < item.receivedQty)))
      exact ⟨(), _, final, _, rfl, unreceived, sound.active, does_bind.mpr ⟨_, _, _, _, loop, last, rfl⟩⟩
    rw [(commit_rejected accepted).1]
    exact ⟨row, stored, done, sound.complete.mp done⟩

section Deliveries

def receivingStep (w : Word) (step : Env × ReceivingCall) : DepotTx Unit := step.2.body w step.1

def unordered : Depot := ⟨shop, .empty, .empty, .empty⟩

def orderLine (productID : String) (quantity : ℚ) : PurchaseOrderItem := ⟨0, "", productID, "", quantity, 0, 500, 0⟩

def orderOf (items : List PurchaseOrderItem) : Env × ReceivingCall :=
  (till, .create ⟨⟨"", "s", "", .pending, 0, 0, "", 0, 0⟩, items⟩)

def delivery (productID : String) (qty : ℚ) : PurchaseOrderItem := ⟨0, "", productID, "", 0, qty, 0, 0⟩

/-- The order of a run made at the till with the identifier `"fresh"`. -/
def onOrder (items : List PurchaseOrderItem) : Depot := after (receivingStep .int64) [orderOf items] unordered

instance (lines offers : List PurchaseOrderItem) : Decidable (OffersAll lines offers) :=
  inferInstanceAs (Decidable (∀ line ∈ lines, _))

end Deliveries

end BeidarPos
