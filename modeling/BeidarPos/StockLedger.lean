import BeidarPos.Accounting
import BeidarPos.PartialJournal
import BeidarPos.PurchaseJournal

/-! The stock ledger. A product's stock and the movements that explain it are written
by separate calls; every operation writes them in step, so over any run the stock is
what it was plus the movements recorded since. -/
namespace BeidarPos

open Machine Relational Journal Tx

/-- The quantity the movements record for a product. -/
def moved (id : String) (moves : List StockMovement) : ℚ :=
  (moves.map fun m => if m.productID = id then m.qty else 0).sum

@[simp] theorem moved_nil (id : String) : moved id [] = 0 := rfl

@[simp] theorem moved_append (id : String) (front back : List StockMovement) :
    moved id (front ++ back) = moved id front + moved id back := by
  simp [moved]

def Write.stockGain (id : String) : Write → ℚ
  | .updateStock p qty => if p = id then qty else 0
  | _ => 0

def movementOf : Write → Option StockMovement
  | .createStockMovement m => some m
  | _ => none

/-- The movements a journal records. -/
def movementsOf (ws : List Write) : List StockMovement := ws.filterMap movementOf

@[simp] theorem movementsOf_append (front back : List Write) :
    movementsOf (front ++ back) = movementsOf front ++ movementsOf back :=
  List.filterMap_append

/-- A journal that moves each product's stock by what it records for it. -/
def Ledgered (ws : List Write) : Prop := ∀ id, (ws.map (Write.stockGain id)).sum = moved id (movementsOf ws)

theorem ledgered_nil : Ledgered [] := fun _ => rfl

theorem Ledgered.append {front back : List Write} (first : Ledgered front) (second : Ledgered back) :
    Ledgered (front ++ back) := by
  intro id
  rw [List.map_append, List.sum_append, movementsOf_append, moved_append, first id, second id]

theorem Ledgered.flatMap {items : List β} {f : β → List Write} (each : ∀ b ∈ items, Ledgered (f b)) :
    Ledgered (items.flatMap f) := by
  induction items with
  | nil => exact ledgered_nil
  | cons b items ih =>
    rw [List.flatMap_cons]
    exact (each b (by simp)).append (ih fun c member => each c (by simp [member]))

/-- An update of the stock and its movement. -/
theorem ledgered_pair {id : String} {qty : ℚ} {m : StockMovement} (product : m.productID = id) (same : m.qty = qty) :
    Ledgered [.updateStock id qty, .createStockMovement m] := by
  intro other
  subst product same
  simp [Write.stockGain, movementsOf, List.filterMap_cons, movementOf, moved]

/-- A journal without stock writes records no movement either. -/
theorem ledgered_elsewhere (areas : List Area) {ws : List Write} (confined : Confined areas ws)
    (outside : Area.stock ∉ areas) : Ledgered ws := by
  intro id
  induction ws with
  | nil => rfl
  | cons v ws ih =>
    obtain ⟨head, rest⟩ := confined_cons.mp confined
    have other : v.area ≠ .stock := fun same => outside (same ▸ head)
    have gain : v.stockGain id = 0 := by
      cases v <;> first | rfl | exact absurd rfl other
    have moves : movementOf v = none := by
      cases v <;> first | rfl | exact absurd rfl other
    have tail := ih rest
    simp only [movementsOf, List.filterMap_cons, moves, List.map_cons, List.sum_cons, gain, zero_add] at tail ⊢
    exact tail

theorem stock_steps (id : String) (ws : List Write) (stock : Option ℚ) :
    (stockCell id).steps ws stock = stock.map (· + (ws.map (Write.stockGain id)).sum) := by
  induction ws generalizing stock with
  | nil => simp
  | cons v ws ih =>
    have step : stockStep id v stock = stock.map (· + v.stockGain id) := by
      cases v with
      | updateStock p qty =>
        by_cases same : id = p
        · simp [stockStep, Write.stockGain, same]
        · have other : ¬ p = id := fun e => same e.symm
          simp [stockStep, Write.stockGain, same, other]
      | _ => simp [stockStep, Write.stockGain]
    rw [Cell.steps_cons, ih]
    simp only [stockCell, step, Option.map_map, List.map_cons, List.sum_cons]
    congr 1
    funext q
    simp [add_assoc]

/-- The movements recorded so far. -/
def movementCell : Cell Write.apply (List StockMovement) where
  read := Store.stockMovements
  step := fun w moves => moves ++ (movementOf w).toList
  law := by
    intro w db final h
    cases w with
    | createStockMovement => cases h; rfl
    | _ => first
      | (obtain ⟨_, rfl⟩ := apply_tables h; simp [movementOf])
      | (obtain ⟨_, _, rfl⟩ := apply_tables h; simp [movementOf])

theorem movement_steps (ws : List Write) (moves : List StockMovement) :
    movementCell.steps ws moves = moves ++ movementsOf ws := by
  induction ws generalizing moves with
  | nil => simp [movementsOf]
  | cons v ws ih =>
    rw [Cell.steps_cons, ih]
    cases made : movementOf v <;> simp [movementCell, movementsOf, made]

def StockNonneg (db : Store) : Prop := ∀ id, ∀ stock ∈ stockOf id db, 0 ≤ stock

/-- Only an update moves stock, and it refuses to go below zero. -/
theorem apply_keeps_nonneg {v : Write} {db final : Store} (nonneg : StockNonneg db) (h : v.apply db = .ok final) :
    StockNonneg final := by
  intro id stock found
  have law := (stockCell id).law v db final h
  cases v with
  | updateStock p qty =>
    obtain ⟨⟨product, stored, enough⟩, _⟩ := updateStock_ok h
    simp only [stockCell, stockStep] at law
    rw [law] at found
    split at found
    · rename_i same
      subst same
      simp only [stockOf, stored, Option.map_some, Option.mem_some_iff] at found
      exact found ▸ enough
    · exact nonneg id stock found
  | _ =>
    simp only [stockCell, stockStep] at law
    rw [law] at found
    exact nonneg id stock found

theorem replay_keeps_nonneg {ws : List Write} {db final : Store} (nonneg : StockNonneg db)
    (h : replay Write.apply ws db = .ok final) : StockNonneg final :=
  replay_keeps h nonneg fun _ _ _ _ => apply_keeps_nonneg

section Journals

theorem ledgered_sold (env : Env) (saleID : String) (products : Table Product.id) (items : List SaleItem) :
    Ledgered (items.flatMap (soldWrites env saleID products)) := by
  refine Ledgered.flatMap ?_
  intro item _
  unfold soldWrites
  split
  · exact ledgered_nil
  · rename_i product found
    have same : product.id = item.productID := Table.find?_key found
    exact ledgered_pair (m := saleMovement env saleID product item) same rfl

theorem ledgered_sale (w : Word) (env : Env) (db : Store) (request : Sale) :
    Ledgered (saleJournal w env db request) := by
  refine (ledgered_sold _ _ _ _).append (ledgered_elsewhere [.sales, .customers, .ledger, .shifts, .log] ?_
    (by decide))
  refine confined_cons.mpr ⟨by simp [Write.area], ?_⟩
  have charge := (confined_charge w env (pricedSale w env db request).toSaleRow).mono
    (show [Area.customers] ⊆ [.sales, .customers, .ledger, .shifts, .log] by simp)
  have payments := (confined_payments w env (pricedSale w env db request).toSaleRow).mono
    (show [Area.ledger] ⊆ [.sales, .customers, .ledger, .shifts, .log] by simp)
  have shift := (confined_shift (shiftNeeded db) (pricedSale w env db request).toSaleRow).mono
    (show [Area.shifts, .log] ⊆ [.sales, .customers, .ledger, .shifts, .log] by simp)
  exact (charge.append payments).append shift

theorem ledgered_return (w : Word) (env : Env) (products : Table Product.id) (debt : Option Int) (sale : Sale) :
    Ledgered (returnJournal w env products debt sale) := by
  have restocked : Ledgered (sale.items.flatMap (restockWrites env sale.id products)) := by
    refine Ledgered.flatMap ?_
    intro item _
    unfold restockWrites
    split
    · exact ledgered_nil
    · split
      · exact ledgered_pair rfl rfl
      · exact ledgered_nil
  exact ((restocked.append (ledgered_elsewhere _ (confined_balances _ _ _ _) (by decide))).append
    (ledgered_elsewhere _ (confined_ledger _ _ _) (by decide))).append
    (ledgered_elsewhere _ (confined_closing _ _ _ _) (by decide))

theorem getSaleItem_product {db : Store} {saleID productID : String} {item : SaleItem}
    (h : db.getSaleItem saleID productID = some item) : item.productID = productID := by
  have member : item ∈ (db.itemsOf saleID).filter (fun line => line.productID = productID) :=
    List.argmin_mem (Option.mem_def.mpr h)
  simpa using (List.mem_filter.mp member).2

theorem ledgered_partial {w : Word} {env : Env} {db : Store} {saleID productID : String} {qtyToReturn : ℚ}
    {item : SaleItem} {sale : Sale} (facts : PartialFacts w db saleID productID qtyToReturn item sale) :
    Ledgered (partialJournal w env db saleID productID qtyToReturn item sale) := by
  have restocked : Ledgered (partialStockWrites env saleID productID (db.products.find? productID)
      (returnedLine item qtyToReturn) qtyToReturn) := by
    unfold partialStockWrites
    split
    · exact ledgered_nil
    · have same : item.productID = productID := getSaleItem_product facts.line
      exact ledgered_pair (m := partialMovement env saleID _ (returnedLine item qtyToReturn) qtyToReturn) same rfl
  have line : Ledgered [.updateSaleItem (returnedLine item qtyToReturn)] :=
    ledgered_elsewhere [.sales] (by simp [Confined, Write.area]) (by decide)
  refine line.append (((restocked.append (ledgered_elsewhere _ (confined_partialBalances _ _ _ _ _ _ _) (by decide))).append
    (ledgered_elsewhere _ (confined_partialLedger _ _ _ _ _) (by decide))).append ?_)
  exact ledgered_elsewhere [.shifts, .sales, .log] (by simp [Confined, Write.area]) (by decide)

/-- The writes of a depot journal on the store. -/
def shopWrites (ws : List DepotWrite) : List Write :=
  ws.filterMap fun v => match v with
    | .shop write => some write
    | _ => none

@[simp] theorem shopWrites_append (front back : List DepotWrite) :
    shopWrites (front ++ back) = shopWrites front ++ shopWrites back :=
  List.filterMap_append

@[simp] theorem shopWrites_lifted (ws : List Write) : shopWrites (ws.map DepotWrite.shop) = ws := by
  induction ws with
  | nil => rfl
  | cons v ws ih =>
    rw [List.map_cons, shopWrites, List.filterMap_cons]
    exact congrArg (v :: ·) ih

/-- A depot journal replays on the store inside by its writes there. -/
theorem replay_shop {ws : List DepotWrite} {d final : Depot} (h : replay DepotWrite.apply ws d = .ok final) :
    replay Write.apply (shopWrites ws) d.store = .ok final.store := by
  induction ws generalizing d with
  | nil => cases h; rfl
  | cons v ws ih =>
    obtain ⟨next, applied, onward⟩ := replay_cons.mp h
    have tail := ih onward
    cases v with
    | shop write =>
      obtain ⟨store, written, rfl⟩ := shop_ok applied
      simpa [shopWrites, replay, written] using tail
    | createPurchaseOrder => obtain ⟨_, _, rfl⟩ := createOrder_ok applied; exact tail
    | _ => cases applied; exact tail

theorem ledgered_received (env : Env) (orderID : String) (products : Table Product.id)
    (offers : List PurchaseOrderItem) (state : Receiving) :
    Ledgered (shopWrites (receiveWrites env orderID products offers state)) := by
  induction offers generalizing state with
  | nil => exact ledgered_nil
  | cons offer offers ih =>
    rw [receiveWrites, shopWrites_append]
    refine Ledgered.append ?_ (ih _)
    unfold offerWrites
    split
    · exact ledgered_nil
    · exact ledgered_pair rfl rfl

theorem receipt_shop (env : Env) (order : PurchaseOrder) (state : Receiving) :
    shopWrites (receiptWrites env order state) = [] := by
  unfold receiptWrites
  split
  · rfl
  · split <;> rfl

end Journals

/-- The operations that move stock. -/
inductive StockCall where
  | processSale (actor : Actor) (request : Sale)
  | returnSale (id : String)
  | returnSalePartial (saleID productID : String) (qtyToReturn : ℚ)
  | receivePurchaseOrder (orderID : String) (items : List PurchaseOrderItem)

def StockCall.body (w : Word) (env : Env) : StockCall → DepotTx Unit
  | .processSale actor request => shopPart.lift (processSaleAs w env actor request)
  | .returnSale id => shopPart.lift (BeidarPos.returnSale w env id)
  | .returnSalePartial saleID productID qty => shopPart.lift (BeidarPos.returnSalePartial w env saleID productID qty)
  | .receivePurchaseOrder orderID items => BeidarPos.receivePurchaseOrder env orderID items

theorem call_ledgered {w : Word} {env : Env} {c : StockCall} {d final : Depot} {ws : List DepotWrite}
    (h : Does (c.body w env) d () ws final) : Ledgered (shopWrites ws) := by
  cases c with
  | processSale actor request =>
    obtain ⟨inner, s, does, rfl, _⟩ := shopPart.does_lift.mp h
    obtain ⟨_, rfl⟩ := processSaleAs_does does
    rw [shopPart, shopWrites_lifted]
    exact ledgered_sale _ _ _ _
  | returnSale id =>
    obtain ⟨inner, s, does, rfl, _⟩ := shopPart.does_lift.mp h
    obtain ⟨sale, _, _, _, rfl⟩ := returnSale_does does
    rw [shopPart, shopWrites_lifted]
    exact ledgered_return _ _ _ _ _
  | returnSalePartial saleID productID qty =>
    obtain ⟨inner, s, does, rfl, _⟩ := shopPart.does_lift.mp h
    obtain ⟨item, sale, facts, rfl⟩ := returnSalePartial_does does
    rw [shopPart, shopWrites_lifted]
    exact ledgered_partial facts
  | receivePurchaseOrder orderID items =>
    obtain ⟨order, _, rfl⟩ := receivePurchaseOrder_does h
    rw [shopWrites_append, receipt_shop, List.append_nil]
    exact ledgered_received _ _ _ _ _

/-- The final store explains its stock by the movements recorded since the start. -/
def Explained (start final : Store) : Prop :=
  ∃ recorded, final.stockMovements = start.stockMovements ++ recorded ∧
    ∀ id, stockOf id final = (stockOf id start).map (· + moved id recorded)

theorem Explained.refl (db : Store) : Explained db db := ⟨[], by simp, by simp⟩

theorem Explained.trans {start middle final : Store} (first : Explained start middle) (second : Explained middle final) :
    Explained start final := by
  obtain ⟨front, early, stocks⟩ := first
  obtain ⟨back, late, more⟩ := second
  refine ⟨front ++ back, by rw [late, early, List.append_assoc], ?_⟩
  intro id
  rw [more, stocks, Option.map_map]
  congr 1
  funext q
  simp [add_assoc]

theorem explained_replay {ws : List Write} {db final : Store} (ledgered : Ledgered ws)
    (h : replay Write.apply ws db = .ok final) : Explained db final := by
  refine ⟨movementsOf ws, ?_, ?_⟩
  · have replayed := movementCell.replay_read h
    rw [movement_steps] at replayed
    exact replayed
  · intro id
    have replayed := (stockCell id).replay_read h
    rw [stock_steps, ledgered id] at replayed
    exact replayed

def stockServe (w : Word) (step : Env × StockCall) : DepotTx Unit := step.2.body w step.1

/-- Over every run, accepted and rejected calls alike, the stock of every product is
what it was plus the movements recorded since, and never negative. -/
theorem stock_ledger (w : Word) (calls : List (Env × StockCall)) (start : Depot) (nonneg : StockNonneg start.store) :
    ∃ recorded, (after (stockServe w) calls start).store.stockMovements = start.store.stockMovements ++ recorded ∧
      ∀ id, stockOf id (after (stockServe w) calls start).store =
          (stockOf id start.store).map (· + moved id recorded) ∧
        ∀ stock ∈ stockOf id (after (stockServe w) calls start).store, 0 ≤ stock := by
  have kept : ∀ step s u ws final, Explained start.store s.store ∧ StockNonneg s.store →
      Does (stockServe w step) s u ws final → Explained start.store final.store ∧ StockNonneg final.store := by
    rintro step s u ws final ⟨explained, nonneg⟩ does
    have replayed := replay_shop does.replays
    exact ⟨explained.trans (explained_replay (call_ledgered does) replayed), replay_keeps_nonneg nonneg replayed⟩
  obtain ⟨⟨recorded, moves, stocks⟩, final⟩ :=
    after_preserved (stockServe w) kept calls start ⟨Explained.refl _, nonneg⟩
  exact ⟨recorded, moves, fun id => ⟨stocks id, final id⟩⟩

section Tea

/-- The shop with five teas on order. -/
def awaiting : Depot :=
  ⟨shop, .empty, ⟨[⟨"PO-1", "s", "Samir", .pending, 2500, 0, "", 0, 0⟩], by decide⟩,
    ⟨⟨[⟨1, "PO-1", "tea", "Tea", 5, 0, 500, 2500⟩], by decide⟩, 1, by decide⟩⟩

def soldAndRestocked : List (Env × StockCall) := [
  (till, .processSale sara (teaSale "s1" "" .cash none none 2)),
  (till, .returnSalePartial "s1" "tea" 1),
  (till, .receivePurchaseOrder "PO-1" [⟨0, "", "tea", "", 0, 8, 0, 0⟩])]

end Tea

/-- Two teas sold, one returned and five received. -/
theorem stock_ledger_tea :
    (∃ recorded, (after (stockServe .int64) soldAndRestocked awaiting).store.stockMovements = recorded ∧
      stockOf "tea" (after (stockServe .int64) soldAndRestocked awaiting).store = some (10 + moved "tea" recorded)) ∧
    stockOf "tea" (after (stockServe .int64) soldAndRestocked awaiting).store = some 14 := by
  have nonneg : StockNonneg awaiting.store := by
    intro id stock found
    simp only [stockOf, awaiting, shop, Table.find?, List.find?_cons, List.find?_nil] at found
    split at found
    · simp only [Option.map_some, Option.mem_some_iff] at found
      rw [← found]
      decide +kernel
    · simp at found
  obtain ⟨recorded, moves, stocks⟩ := stock_ledger .int64 soldAndRestocked awaiting nonneg
  have before : stockOf "tea" awaiting.store = some 10 := by decide +kernel
  refine ⟨⟨recorded, by simpa [awaiting, shop, Store.empty] using moves, ?_⟩, by decide +kernel⟩
  rw [(stocks "tea").1, before]
  rfl

end BeidarPos
