import BeidarPos.Calls
import BeidarPos.StockLedger

/-! How much the returns of one sale give back. The full return closes the sale and leaves
its lines as they are, the partial return looks at the lines and not at the status. -/
namespace BeidarPos

open Machine Relational Journal Tx

section Lines

/-- The lines carry a number, and something holds of them. -/
def LinesHold (p : SaleItem → Prop) (t : Serial SaleItem.id) : Prop := ∀ line ∈ t.rows, line.id ≠ 0 ∧ p line

/-- The lines of sales carry a number and were sold in a positive quantity. -/
def LinesSold (t : Serial SaleItem.id) : Prop := ∀ line ∈ t.rows, line.id ≠ 0 ∧ 0 < line.quantity

/-- What neither the keys of a line nor its returned quantity bear on. -/
def Steady (p : SaleItem → Prop) : Prop :=
  ∀ line n saleID returned, p line → p { line with id := n, saleID := saleID, returnedQty := returned }

variable {p : SaleItem → Prop}

theorem saveItem_eq (saleID : String) (t : Serial SaleItem.id) (item : SaleItem) :
    saveItem saleID t item = t.save (fun line n => { line with id := n }) (fun _ _ => rfl)
      (fun line => { line with saleID := saleID }) (fun _ => rfl) item := by
  unfold saveItem Serial.save
  split
  · rfl
  · cases t.insert? { item with saleID := saleID } <;> rfl

theorem saveItem_lines {saleID : String} {t : Serial SaleItem.id} {item : SaleItem} (steady : Steady p)
    (lines : LinesHold p t) (holds : p item) : LinesHold p (saveItem saleID t item) := by
  cases found : t.find? item.id with
  | none =>
    obtain ⟨row, rows, which⟩ := @Serial.save_fresh _ _ t (fun line n => { line with id := n }) (fun _ _ => rfl)
      (fun line => { line with saleID := saleID }) (fun _ => rfl) item found
    intro line member
    rw [saveItem_eq, rows] at member
    rcases List.mem_append.mp member with old | new
    · exact lines line old
    · obtain rfl := List.mem_singleton.mp new
      rcases which with ⟨rfl, numbered⟩ | rfl
      · exact ⟨numbered, steady item item.id saleID item.returnedQty holds⟩
      · exact ⟨by simp, steady item (t.seq + 1) saleID item.returnedQty holds⟩
  | some row =>
    have numbered : item.id ≠ 0 := Table.find?_key found ▸ (lines row (Table.find?_mem found)).1
    have taken : t.insert? { item with saleID := saleID } = none :=
      Serial.insert?_none.mpr (Table.insert?_none.mpr ⟨row, found⟩)
    intro line member
    rw [saveItem, if_neg numbered, taken] at member
    obtain ⟨old, before, rfl⟩ := List.mem_map.mp member
    obtain ⟨kept, held⟩ := lines old before
    split
    · exact ⟨kept, steady old old.id saleID old.returnedQty held⟩
    · exact ⟨kept, held⟩

theorem saveItems_lines {saleID : String} {t : Serial SaleItem.id} {items : List SaleItem} (steady : Steady p)
    (lines : LinesHold p t) (hold : ∀ item ∈ items, p item) : LinesHold p (saveItems saleID t items) := by
  unfold saveItems
  induction items generalizing t with
  | nil => exact lines
  | cons item items ih =>
    exact ih (saveItem_lines steady lines (hold item (by simp))) fun other member => hold other (by simp [member])

/-- Saving a sale with lines it was loaded with moves none of them. -/
theorem saveItems_loaded {saleID : String} {t : Serial SaleItem.id} {items : List SaleItem}
    (loaded : ∀ item ∈ items, item.id ≠ 0 ∧ ∃ row, t.find? item.id = some row ∧ row.saleID = saleID) :
    saveItems saleID t items = t := by
  unfold saveItems
  induction items with
  | nil => rfl
  | cons item items ih =>
    obtain ⟨numbered, row, stored, tied⟩ := loaded item (by simp)
    have kept : saveItem saleID t item = t := by
      rw [saveItem_eq]
      exact Serial.save_stored numbered stored (by rw [← tied])
    rw [List.foldl_cons, kept]
    exact ih fun other member => loaded other (by simp [member])

theorem soldCart_items {w : Word} {products : Table Product.id} {items : List SaleItem}
    (hold : ∀ item ∈ items, ∀ product, p (soldItem w product item)) : ∀ item ∈ (soldCart w products items).items, p item := by
  suffices added : ∀ cart : Cart, (∀ item ∈ cart.items, p item) →
      ∀ item ∈ (items.foldl (addToCart w products) cart).items, p item from
    added ⟨[], 0, 0⟩ (by simp)
  induction items with
  | nil => exact fun _ sold => sold
  | cons item items ih =>
    intro cart sold
    refine ih (fun other member => hold other (by simp [member])) _ ?_
    unfold addToCart
    split
    · exact sold
    · intro line member
      rcases List.mem_append.mp member with old | new
      · exact sold line old
      · obtain rfl := List.mem_singleton.mp new
        exact hold item (by simp) _

theorem soldCart_quantity {w : Word} {products : Table Product.id} {items : List SaleItem}
    (positive : ∀ item ∈ items, 0 < item.quantity) : ∀ item ∈ (soldCart w products items).items, 0 < item.quantity :=
  soldCart_items fun item member _ => positive item member

theorem itemsOf_loaded {db : Store} {saleID : String} (sold : LinesHold p db.saleItems) :
    ∀ item ∈ db.itemsOf saleID, item.id ≠ 0 ∧ ∃ row, db.saleItems.find? item.id = some row ∧ row.saleID = saleID := by
  intro item member
  obtain ⟨stored, own⟩ := List.mem_filter.mp member
  exact ⟨(sold item stored).1, item, Table.find?_of_mem stored, by simpa using own⟩

theorem getSaleItem_mem {db : Store} {saleID productID : String} {item : SaleItem}
    (h : db.getSaleItem saleID productID = some item) : item ∈ db.itemsOf saleID := by
  have member : item ∈ (db.itemsOf saleID).filter (fun line => line.productID = productID) :=
    List.argmin_mem (Option.mem_def.mpr h)
  exact (List.mem_filter.mp member).1

theorem returnJournal_lines {w : Word} {env : Env} {db : Store} {sale : Sale} {products : Table Product.id}
    {debt : Option Int} (sold : LinesHold p db.saleItems) (items : sale.items = db.itemsOf sale.id) :
    linesCell.steps (returnJournal w env products debt sale) db.saleItems = db.saleItems := by
  have closing : ∀ t, linesCell.steps (closingWrites w env sale (creditOverpay w sale.toSaleRow debt)) t =
      saveItems sale.id t sale.items := by
    intro t
    unfold closingWrites
    split <;> rfl
  rw [returnJournal, Cell.steps_append, Cell.steps_append, Cell.steps_append,
    lines_within.frame (confined_restock _ _ _ _) (by decide),
    lines_within.frame (confined_balances _ _ _ _) (by decide),
    lines_within.frame (confined_ledger _ _ _) (by decide), closing, items]
  exact saveItems_loaded (itemsOf_loaded sold)

theorem partialJournal_lines {w : Word} {env : Env} {db : Store} {saleID productID : String} {qtyToReturn : ℚ}
    {item : SaleItem} {sale : Sale} (sold : LinesHold p db.saleItems) (items : sale.items = db.itemsOf sale.id)
    (line : item ∈ db.itemsOf sale.id) :
    linesCell.steps (partialJournal w env db saleID productID qtyToReturn item sale) db.saleItems =
      db.saleItems.put (returnedLine item qtyToReturn) := by
  have own : item.saleID = sale.id := by simpa using (List.mem_filter.mp line).2
  have saved : saveItems sale.id (db.saleItems.put (returnedLine item qtyToReturn)) sale.items =
      db.saleItems.put (returnedLine item qtyToReturn) := by
    refine saveItems_loaded ?_
    rw [items]
    intro other member
    obtain ⟨numbered, row, stored, tied⟩ := itemsOf_loaded sold other member
    refine ⟨numbered, ?_⟩
    simp only [Serial.put_rows, Table.find?_put, stored, Option.map_some]
    split
    · exact ⟨_, rfl, own⟩
    · exact ⟨_, rfl, tied⟩
  simp only [partialJournal]
  rw [Cell.steps_cons, Cell.steps_append, Cell.steps_append, Cell.steps_append,
    lines_within.frame (confined_partialStock _ _ _ _ _ _) (by decide),
    lines_within.frame (confined_partialBalances _ _ _ _ _ _ _) (by decide),
    lines_within.frame (confined_partialLedger _ _ _ _ _) (by decide)]
  exact saved

theorem saleJournal_lines (w : Word) (env : Env) (db : Store) (request : Sale) (t : Serial SaleItem.id) :
    linesCell.steps (saleJournal w env db request) t =
      saveItems (stampSale env request).id t (pricedSale w env db request).items := by
  obtain ⟨front, back, parts, first, last⟩ := saleJournal_created w env db request
  rw [parts, Cell.steps_append, lines_within.frame first (by decide), Cell.steps_cons,
    lines_within.frame last (by decide)]
  rfl

theorem saleLines_replayed {x : DbTx α} {db final : Store} (h : Does x db a ws final) :
    final.saleItems = linesCell.steps ws db.saleItems := linesCell.replay_read h.replays

theorem paymentJournal_lines (env : Env) (prefs : Option AppPreferences) (request : Payment) (t : Serial SaleItem.id) :
    linesCell.steps (paymentJournal env prefs request) t = t := by
  unfold paymentJournal debtPaymentWrites cashInWrites
  split <;> split <;> rfl

theorem installmentJournal_lines (env : Env) (prefs : Option AppPreferences) (index : Nat) (method : PaymentMethod)
    (sale : Sale) (plan : InstallmentPlan) (inst : Installment) (t : Serial SaleItem.id) :
    linesCell.steps (installmentJournal env prefs index method sale plan inst) t = t := by
  unfold installmentJournal installmentDebtPaid cashInWrites
  split <;> split <;> rfl

theorem put_lines {t : Serial SaleItem.id} {item : SaleItem} (lines : LinesHold p t) (numbered : item.id ≠ 0)
    (holds : p item) : LinesHold p (t.put item) := by
  intro line member
  obtain ⟨old, before, rfl⟩ := List.mem_map.mp member
  split
  · exact ⟨numbered, holds⟩
  · exact lines old before

/-- The call stores the lines of a sale, or writes one. -/
def Call.WritesLines : Call → Prop
  | .processSale .. | .returnSalePartial .. => True
  | .returnSale _ | .createPayment _ | .createPaymentForced _ | .payInstallment .. | .addCashMovement .. => False

/-- What an accepted call does to the lines: a sale saves its own, the return of a part writes one,
and every other call leaves them. -/
theorem call_lines {w : Word} {env : Env} {c : Call} {db final : Store} (lines : LinesHold p db.saleItems)
    (h : Does (c.body w env) db () ws final) :
    (¬ c.WritesLines ∧ final.saleItems = db.saleItems) ∨
    (∃ actor request, c = .processSale actor request ∧ SaleFacts w env db request ∧
      final.saleItems = saveItems (stampSale env request).id db.saleItems (pricedSale w env db request).items) ∨
    ∃ saleID productID qty item sale, c = .returnSalePartial saleID productID qty ∧
      PartialFacts w db saleID productID qty item sale ∧ item ∈ db.itemsOf saleID ∧
      final.saleItems = db.saleItems.put (returnedLine item qty) := by
  have moved := saleLines_replayed h
  cases c with
  | processSale actor request =>
    obtain ⟨facts, rfl⟩ := processSaleAs_does h
    rw [saleJournal_lines] at moved
    exact .inr (.inl ⟨actor, request, rfl, facts, moved⟩)
  | returnSale sold' =>
    obtain ⟨sale, loaded, _, _, rfl⟩ := returnSale_does h
    obtain ⟨_, items, rfl⟩ := getSale_row loaded
    rw [returnJournal_lines lines items] at moved
    exact .inl ⟨not_false, moved⟩
  | returnSalePartial saleID productID qty =>
    obtain ⟨item, sale, facts, rfl⟩ := returnSalePartial_does h
    obtain ⟨_, items, rfl⟩ := getSale_row facts.loaded
    have line := getSaleItem_mem facts.line
    rw [partialJournal_lines lines items line] at moved
    exact .inr (.inr ⟨sale.id, productID, qty, item, sale, rfl, facts, line, moved⟩)
  | createPayment request =>
    obtain ⟨_, rfl⟩ := createPayment_does h
    rw [paymentJournal_lines] at moved
    exact .inl ⟨not_false, moved⟩
  | createPaymentForced request =>
    obtain ⟨_, rfl⟩ := createPayment_does h
    rw [paymentJournal_lines] at moved
    exact .inl ⟨not_false, moved⟩
  | payInstallment saleID index amount method =>
    obtain ⟨sale, plan, inst, _, rfl⟩ := payInstallment_does h
    rw [installmentJournal_lines] at moved
    exact .inl ⟨not_false, moved⟩
  | addCashMovement =>
    obtain ⟨_, _, rfl⟩ := addCashMovement_does h
    exact .inl ⟨not_false, moved⟩

theorem call_lines_quiet {w : Word} {env : Env} {c : Call} {db final : Store} (lines : LinesHold p db.saleItems)
    (h : Does (c.body w env) db () ws final) (quiet : ¬ c.WritesLines) : final.saleItems = db.saleItems := by
  rcases call_lines lines h with ⟨_, same⟩ | ⟨_, _, rfl, _, _⟩ | ⟨_, _, _, _, _, rfl, _, _, _⟩
  · exact same
  · exact absurd trivial quiet
  · exact absurd trivial quiet

/-- What holds of every line a sale adds holds of every stored line. -/
theorem call_keeps_lines {w : Word} {env : Env} {c : Call} {db final : Store} (steady : Steady p)
    (sells : ∀ request, SaleFacts w env db request → ∀ item ∈ (pricedSale w env db request).items, p item)
    (lines : LinesHold p db.saleItems) (h : Does (c.body w env) db () ws final) : LinesHold p final.saleItems := by
  rcases call_lines lines h with ⟨_, same⟩ | ⟨actor, request, _, facts, saved⟩ |
    ⟨saleID, productID, qty, item, sale, _, facts, line, written⟩
  · rw [same]
    exact lines
  · rw [saved]
    exact saveItems_lines steady lines (sells request facts)
  · obtain ⟨numbered, holds⟩ := lines item (List.mem_filter.mp line).1
    rw [written]
    exact put_lines lines numbered (steady item item.id item.saleID (item.returnedQty + qty) holds)

theorem sale_quantities {w : Word} {env : Env} {db : Store} {request : Sale} (facts : SaleFacts w env db request) :
    ∀ item ∈ (pricedSale w env db request).items, 0 < item.quantity :=
  soldCart_quantity fun item member => (facts.admitted.checked item member).quantity

theorem Reachable.sold {db : Store} (h : Reachable db) : LinesSold db.saleItems := by
  induction h with
  | start db sales items =>
    intro line member
    rw [items] at member
    cases member
  | call env c _ does ih =>
    exact call_keeps_lines (fun _ _ _ _ positive => positive) (fun _ facts => sale_quantities facts) ih does
  | elsewhere _ _ items ih =>
    rw [items]
    exact ih

end Lines

section Amounts

/-- The quantity a return puts back for one line, as its loop computes it. -/
def lineBack (db : Store) (saleID : String) (lineID : Nat) : ReturnCall → ℚ
  | .full =>
    match db.saleItems.find? lineID with
    | some line => if line.saleID = saleID ∧ 0 < outstanding line then outstanding line else 0
    | none => 0
  | .part productID qtyToReturn =>
    match db.getSaleItem saleID productID with
    | some line => if line.id = lineID then qtyToReturn else 0
    | none => 0

/-- What a journal puts into the stock of a product. -/
def stockBack (productID : String) (ws : List Write) : ℚ := (ws.map (Write.stockGain productID)).sum

def serveReturn (saleID : String) (step : Env × ReturnCall) : DbTx Unit := step.2.body .exact step.1 saleID

@[simp] theorem stockBack_append (productID : String) (front back : List Write) :
    stockBack productID (front ++ back) = stockBack productID front + stockBack productID back := by
  simp [stockBack]

theorem stockBack_frame {areas : List Area} {ws : List Write} (confined : Confined areas ws)
    (outside : Area.stock ∉ areas) (productID : String) : stockBack productID ws = 0 := by
  refine List.sum_eq_zero fun x member => ?_
  obtain ⟨v, inside, rfl⟩ := List.mem_map.mp member
  cases v with
  | updateStock => exact absurd (confined _ inside) outside
  | _ => rfl

theorem stockBack_flatMap (productID : String) (items : List SaleItem) (f : SaleItem → List Write) :
    stockBack productID (items.flatMap f) = (items.map fun item => stockBack productID (f item)).sum := by
  induction items with
  | nil => rfl
  | cons item items ih => rw [List.flatMap_cons, stockBack_append, ih, List.map_cons, List.sum_cons]

/-- What a return puts into the stock of a product is what it puts back for its lines. -/
theorem stock_put_back {env : Env} {call : ReturnCall} {saleID productID : String} {product : Product} {db final : Store}
    {ws : List Write} (stored : db.products.find? productID = some product)
    (h : Does (call.body .exact env saleID) db () ws final) :
    stockBack productID ws = ((db.itemsOf saleID).map fun line =>
      if line.productID = productID then lineBack db saleID line.id call else 0).sum := by
  cases call with
  | full =>
    obtain ⟨sale, loaded, _, _, rfl⟩ := returnSale_does h
    obtain ⟨_, items, rfl⟩ := getSale_row loaded
    simp only [returnJournal, stockBack_append, stockBack_frame (confined_balances _ _ _ _) (by decide),
      stockBack_frame (confined_ledger _ _ _) (by decide), stockBack_frame (confined_closing _ _ _ _) (by decide),
      add_zero, stockBack_flatMap, items]
    refine congrArg List.sum (List.map_congr_left fun line member => ?_)
    obtain ⟨inside, own⟩ := List.mem_filter.mp member
    simp only [lineBack, Table.find?_of_mem inside, restockWrites]
    by_cases here : line.productID = productID
    · have tied : line.saleID = sale.id := by simpa using own
      simp only [here, stored, tied, true_and, if_true]
      split <;> simp [stockBack, Write.stockGain]
    · rw [if_neg here]
      split
      · rfl
      · split <;> simp [stockBack, Write.stockGain, here]
  | part soldID qtyToReturn =>
    obtain ⟨item, sale, facts, rfl⟩ := returnSalePartial_does h
    obtain ⟨_, _, rfl⟩ := getSale_row facts.loaded
    have only : ∀ other ∈ db.itemsOf sale.id, (if other.productID = productID then
        lineBack db sale.id other.id (.part soldID qtyToReturn) else 0) =
          if other = item then (if soldID = productID then qtyToReturn else 0) else 0 := by
      intro other member
      have product := getSaleItem_product facts.line
      simp only [lineBack, facts.line]
      by_cases same : other = item
      · subst same
        simp [product]
      · have apart : item.id ≠ other.id := fun number =>
          same (Table.unique_row (List.mem_filter.mp member).1 (List.mem_filter.mp (getSaleItem_mem facts.line)).1 number.symm)
        simp [same, apart]
    rw [List.map_congr_left only]
    obtain ⟨back, parts, rest⟩ := partialJournal_parts .exact env db sale.id soldID qtyToReturn item sale
    have distinct : (db.itemsOf sale.id).Nodup := (List.Nodup.of_map _ db.saleItems.distinct).filter _
    rw [parts, stockBack_append, stockBack_append, stockBack_append, stockBack_append,
      stockBack_frame (confined_line _) (by decide), stockBack_frame (confined_partialBalances _ _ _ _ _ _ _) (by decide),
      stockBack_frame (confined_partialLedger _ _ _ _ _) (by decide), stockBack_frame rest (by decide),
      List.sum_map_ite_eq, List.count_eq_one_of_mem distinct (getSaleItem_mem facts.line)]
    by_cases here : soldID = productID
    · subst here
      simp [stored, partialStockWrites, stockBack, Write.stockGain]
    · cases found : db.products.find? soldID <;> simp [partialStockWrites, stockBack, Write.stockGain, here]

/-- The value the accepted calls of a sequence took off the sale. -/
def refunded (saleID : String) : List (Env × ReturnCall) → Store → Int
  | [], _ => 0
  | step :: steps, db =>
    (if (serveReturn saleID step).accepts db then returnValue .exact db saleID step.2 else 0) +
      refunded saleID steps ((serveReturn saleID step).commit db)

/-- The quantity the accepted calls of a sequence put back for a line. -/
def putBack (saleID : String) (lineID : Nat) : List (Env × ReturnCall) → Store → ℚ
  | [], _ => 0
  | step :: steps, db =>
    (if (serveReturn saleID step).accepts db then lineBack db saleID lineID step.2 else 0) +
      putBack saleID lineID steps ((serveReturn saleID step).commit db)

/-- A returned sale gets no partial return of a quantity its line still has. -/
def ReturnCall.Admissible (db : Store) (saleID : String) : ReturnCall → Prop
  | .full => True
  | .part productID qtyToReturn => ∀ sale ∈ db.sales.find? saleID, sale.status = .returned →
    ∀ line ∈ db.getSaleItem saleID productID, 0 < qtyToReturn → outstanding line < qtyToReturn

end Amounts

section Limits

/-- Something of the sale may still come back: what was refunded and what is left make up
the total, and each line knows what came back of it. -/
structure Midway (start : Store) (saleID : String) (total refunded : Int) (back : Nat → ℚ) (db : Store) : Prop where
  row : ∃ row, db.sales.find? saleID = some row ∧ 0 ≤ row.total ∧ refunded + row.total = total
  lines : ∀ n, db.saleItems.find? n = (start.saleItems.find? n).map fun line => returnedLine line (back n)
  within : ∀ line ∈ start.itemsOf saleID, back line.id = 0 ∨ line.returnedQty + back line.id ≤ line.quantity

/-- The sale came back as a whole. -/
structure CameBack (start : Store) (saleID : String) (total refunded : Int) (back : Nat → ℚ) (db : Store) : Prop where
  row : ∃ row, db.sales.find? saleID = some row ∧ row.status = .returned
  refund : refunded ≤ total
  within : ∀ line ∈ start.itemsOf saleID, back line.id ≤ line.quantity

variable {start db final : Store} {saleID : String} {total given : Int} {back : Nat → ℚ}

theorem sold_row {w : Word} {actor : Actor} {request : Sale} (sold : Does (processSaleAs w env actor request) db u ws start) :
    start.sales.find? (stampSale env request).id = some (pricedSale w env db request).toSaleRow := by
  have moved := sale_replayed sold (stampSale env request).id
  obtain ⟨_, rfl⟩ := processSaleAs_does sold
  rw [moved, saleJournal_row]
  exact if_pos rfl

/-- Nothing has come back of a sale that was just made. -/
theorem midway_sold {actor : Actor} {request : Sale} (sold : Does (processSaleAs .exact env actor request) db u ws start) :
    Midway start (stampSale env request).id (pricedSale .exact env db request).total 0 (fun _ => 0) start := by
  obtain ⟨facts, _⟩ := processSaleAs_does sold
  refine ⟨⟨_, sold_row sold, facts.payable.nonneg, Int.zero_add _⟩, fun n => ?_, fun _ _ => .inl rfl⟩
  simp [returnedLine]

theorem returnedLine_again (line : SaleItem) (first second : ℚ) :
    returnedLine (returnedLine line first) second = returnedLine line (first + second) := by
  simp [returnedLine, add_assoc]

theorem returned_rejects {w : Word} {env : Env} {call : ReturnCall} {row : SaleRow}
    (stored : db.sales.find? saleID = some row) (status : row.status = .returned)
    (admissible : call.Admissible db saleID) : ¬ (call.body w env saleID).accepts db := by
  rintro ⟨u, ws, final, does⟩
  cases call with
  | full =>
    obtain ⟨sale, loaded, whole, _⟩ := returnSale_does does
    obtain ⟨found, _⟩ := getSale_row loaded
    obtain rfl : row = sale.toSaleRow := Option.some.inj (stored.symm.trans found)
    exact whole status
  | part productID qtyToReturn =>
    obtain ⟨item, sale, facts, _⟩ := returnSalePartial_does does
    have short := admissible row stored status item facts.line facts.positive
    exact absurd facts.available (not_le.mpr short)

theorem full_limits (midway : Midway start saleID total given back db) (sold : LinesSold db.saleItems)
    (fair : ∀ line ∈ start.itemsOf saleID, 0 ≤ line.returnedQty)
    (h : Does (returnSale .exact env saleID) db u ws final) :
    CameBack start saleID total (given + returnValue .exact db saleID .full)
      (fun n => back n + lineBack db saleID n .full) final := by
  have moved := sale_replayed h
  obtain ⟨sale, loaded, _, _, rfl⟩ := returnSale_does h
  obtain ⟨stored, _, rfl⟩ := getSale_row loaded
  obtain ⟨row, found, _, sum⟩ := midway.row
  obtain rfl : row = sale.toSaleRow := Option.some.inj (found.symm.trans stored)
  refine ⟨⟨{ sale.toSaleRow with status := .returned }, ?_, rfl⟩, ?_, ?_⟩
  · rw [moved, returnJournal_row, if_pos rfl, stored, Option.map_some]
  · have value : returnValue .exact db sale.id .full = sale.total := by simp [returnValue, loaded]
    rw [value]
    exact sum.le
  · intro line member
    have kept := midway.within line member
    have low := fair line member
    obtain ⟨inside, own⟩ := List.mem_filter.mp member
    have here : db.saleItems.find? line.id = some (returnedLine line (back line.id)) := by
      rw [midway.lines, Table.find?_of_mem inside, Option.map_some]
    have positive : 0 < line.quantity := (sold _ (Table.find?_mem here)).2
    have left : outstanding (returnedLine line (back line.id)) = line.quantity - (line.returnedQty + back line.id) := rfl
    simp only [lineBack, here, left]
    by_cases more : (returnedLine line (back line.id)).saleID = sale.id ∧
        0 < line.quantity - (line.returnedQty + back line.id)
    · rw [if_pos more]
      linarith
    · rw [if_neg more]
      rcases kept with none | fits
      · rw [none]
        linarith
      · linarith

theorem part_limits {productID : String} {qtyToReturn : ℚ} (midway : Midway start saleID total given back db)
    (sold : LinesSold db.saleItems) (h : Does (returnSalePartial .exact env saleID productID qtyToReturn) db u ws final) :
    Midway start saleID total (given + returnValue .exact db saleID (.part productID qtyToReturn))
      (fun n => back n + lineBack db saleID n (.part productID qtyToReturn)) final := by
  have moved := sale_replayed h
  have lines := saleLines_replayed h
  obtain ⟨item, sale, facts, rfl⟩ := returnSalePartial_does h
  obtain ⟨stored, items, rfl⟩ := getSale_row facts.loaded
  have member := getSaleItem_mem facts.line
  rw [partialJournal_lines sold items member] at lines
  obtain ⟨row, found, low, sum⟩ := midway.row
  obtain rfl : row = sale.toSaleRow := Option.some.inj (found.symm.trans stored)
  have stored' := Table.find?_of_mem (List.mem_filter.mp member).1
  rw [midway.lines] at stored'
  obtain ⟨line, before, same⟩ := Option.map_eq_some_iff.mp stored'
  refine ⟨?_, ?_, ?_⟩
  · have value : returnValue .exact db sale.id (.part productID qtyToReturn) = partialRefund .exact sale item qtyToReturn := by
      simp [returnValue, facts.line, facts.loaded]
    have high := partialRefund_le .exact sale item qtyToReturn
    have left := shrinkSale_total sale (returnedLine item qtyToReturn) qtyToReturn (partialRefund .exact sale item qtyToReturn)
      (allReturned (db.saleItems.put (returnedLine item qtyToReturn)) sale.id) high
    refine ⟨_, by rw [moved, partialJournal_row, if_pos rfl, stored, Option.map_some], ?_, ?_⟩
    · rw [left]
      omega
    · rw [left, value]
      omega
  · intro n
    rw [lines, Serial.put_rows, Table.find?_put, midway.lines]
    simp only [lineBack, facts.line]
    by_cases here : n = item.id
    · rw [if_pos (show n = (returnedLine item qtyToReturn).id from here), if_pos here.symm, here, before]
      simp only [Option.map_some, Option.some.injEq]
      rw [← returnedLine_again, same]
    · have other : ¬ item.id = n := fun h => here h.symm
      rw [if_neg (show n ≠ (returnedLine item qtyToReturn).id from here), if_neg other, add_zero]
  · intro other member
    simp only [lineBack, facts.line]
    by_cases here : item.id = other.id
    · have inside := (List.mem_filter.mp member).1
      obtain rfl : line = other := by
        have found := Table.find?_of_mem inside
        rw [← here, before] at found
        exact Option.some.inj found
      refine .inr ?_
      have room := facts.available
      rw [← same] at room
      simp only [outstanding, returnedLine, here] at room
      rw [if_pos here]
      linarith
    · rw [if_neg here, add_zero]
      exact midway.within other member

theorem run_limits (steps : List (Env × ReturnCall)) (reached : Reachable db)
    (fair : ∀ line ∈ start.itemsOf saleID, 0 ≤ line.returnedQty)
    (state : Midway start saleID total given back db ∨ CameBack start saleID total given back db)
    (admissible : ∀ front step later, steps = front ++ step :: later →
      step.2.Admissible (after (serveReturn saleID) front db) saleID) :
    Midway start saleID total (given + refunded saleID steps db) (fun n => back n + putBack saleID n steps db)
        (after (serveReturn saleID) steps db) ∨
      CameBack start saleID total (given + refunded saleID steps db) (fun n => back n + putBack saleID n steps db)
        (after (serveReturn saleID) steps db) := by
  induction steps generalizing db given back with
  | nil => simpa [refunded, putBack] using state
  | cons step steps ih =>
    obtain ⟨env, call⟩ := step
    have now := admissible [] (env, call) steps rfl
    have rest : ∀ front step later, steps = front ++ step :: later →
        step.2.Admissible (after (serveReturn saleID) front ((serveReturn saleID (env, call)).commit db)) saleID :=
      fun front step later parts => admissible ((env, call) :: front) step later (by rw [parts]; rfl)
    by_cases accepted : (serveReturn saleID (env, call)).accepts db
    · have does := does_accepted accepted
      have onward : Reachable ((serveReturn saleID (env, call)).commit db) := by
        cases call with
        | full => exact .call env (.returnSale saleID) reached does
        | part productID qtyToReturn => exact .call env (.returnSalePartial saleID productID qtyToReturn) reached does
      have midway : Midway start saleID total given back db := by
        rcases state with midway | back
        · exact midway
        · obtain ⟨row, stored, status⟩ := back.row
          exact absurd accepted (returned_rejects stored status now)
      have next : Midway start saleID total (given + returnValue .exact db saleID call)
            (fun n => back n + lineBack db saleID n call) ((serveReturn saleID (env, call)).commit db) ∨
          CameBack start saleID total (given + returnValue .exact db saleID call)
            (fun n => back n + lineBack db saleID n call) ((serveReturn saleID (env, call)).commit db) := by
        cases call with
        | full => exact .inr (full_limits midway reached.sold fair does)
        | part productID qtyToReturn => exact .inl (part_limits midway reached.sold does)
      have later := ih onward next rest
      simpa only [refunded, putBack, accepted, if_true, after_cons, add_assoc] using later
    · rw [(commit_rejected accepted).1] at rest
      have later := ih reached state rest
      simpa only [refunded, putBack, accepted, if_false, after_cons, (commit_rejected accepted).1, zero_add] using later

end Limits

section Teas

def twoTeasSold : Store := (processSaleAs .exact till sara (teaSale "s1" "" .cash none none 2)).commit shop

/-- The whole sale comes back, and then one of its teas. -/
def backTwice : List (Env × ReturnCall) := [(till, .full), (till, .part "tea" 1)]

/-- One tea comes back, and then the rest. -/
def backInParts : List (Env × ReturnCall) := [(till, .part "tea" 1), (till, .full)]

end Teas

end BeidarPos
