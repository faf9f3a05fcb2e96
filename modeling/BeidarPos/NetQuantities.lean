import BeidarPos.ReturnLimits
import BeidarPos.Statistics

/-! Sold quantities in the statistics. The product report adds up what was sold, the cost of goods
what was sold and did not come back; a part that came back counts in the one and not in the
other as long as its sale counts at all. -/
namespace BeidarPos

open Machine Relational Journal Tx

namespace Store

variable (db : Store)

/-- What came back of a name, of sales that count. -/
def returnedOf (name : String) : ℚ :=
  ((db.revenueLines.filter fun line => line.name = name).map SaleItem.returnedQty).sum

/-- The product names of sales that count. -/
def soldNames : List String := (db.revenueLines.map SaleItem.name).dedup

end Store

/-- The product report shows for each name what was sold of it and not returned, and in all as much
as the cost of goods is based on. -/
structure NetReported (db : Store) (limit : Int) : Prop where
  each : ∀ name ∈ db.soldNames, ∃ product ∈ db.getTopSellingProducts limit,
    product.label = name ∧ (product.value : ℚ) = db.netQuantityOf name
  sum : ((((db.getTopSellingProducts limit).map TopProduct.value).sum : Int) : ℚ) = db.netQuantity

/-- Nothing of any name came back in part, and its quantity is a whole number below a million. -/
def WholeAndKept (db : Store) : Prop :=
  ∀ name ∈ db.soldNames, db.returnedOf name = 0 ∧ (scanInt (db.quantityOf name)).isSome

section Report

variable {db : Store} {limit : Int}

theorem netQuantityOf_eq (name : String) : db.netQuantityOf name = db.quantityOf name - db.returnedOf name := by
  unfold Store.netQuantityOf Store.quantityOf Store.returnedOf
  induction db.revenueLines.filter fun line => line.name = name with
  | nil => simp
  | cons line lines ih =>
    simp only [List.map_cons, List.sum_cons, ih]
    ring

theorem scanInt_value {q : ℚ} {n : Int} (scanned : scanInt q = some n) : (n : ℚ) = q := by
  unfold scanInt at scanned
  split at scanned
  · rename_i whole
    cases scanned
    exact Rat.coe_int_num_of_den_eq_one whole.1
  · cases scanned

/-- A limit that is not below the number of names leaves none out. -/
theorem topSelling_perm (enough : (db.soldNames.length : Int) ≤ limit) :
    (db.getTopSellingProducts limit).Perm
      (db.soldNames.filterMap fun name => (scanInt (db.quantityOf name)).map (TopProduct.mk name)) := by
  have sorted := List.mergeSort_perm (db.soldNames.map fun name => (name, db.quantityOf name))
    fun a b => decide (b.2 ≤ a.2)
  have length := sorted.length_eq
  rw [List.length_map] at length
  have all := sorted.filterMap fun group => (scanInt group.2).map (TopProduct.mk group.1)
  rw [List.filterMap_map] at all
  simp only [Store.getTopSellingProducts]
  rw [if_neg (by omega)]
  change (List.filterMap _ (List.take _ ((db.soldNames.map fun name => (name, db.quantityOf name)).mergeSort _))).Perm _
  rw [List.take_of_length_le (by omega)]
  exact all

theorem topSelling_mem (enough : (db.soldNames.length : Int) ≤ limit) {product : TopProduct} :
    product ∈ db.getTopSellingProducts limit ↔
      product.label ∈ db.soldNames ∧ scanInt (db.quantityOf product.label) = some product.value := by
  rw [(topSelling_perm enough).mem_iff, List.mem_filterMap]
  constructor
  · rintro ⟨name, sold, shown⟩
    obtain ⟨value, scanned, rfl⟩ := Option.map_eq_some_iff.mp shown
    exact ⟨sold, scanned⟩
  · rintro ⟨sold, scanned⟩
    exact ⟨product.label, sold, by rw [scanned]; rfl⟩

theorem netQuantity_groups : (db.soldNames.map db.netQuantityOf).sum = db.netQuantity :=
  Keyed.groups_sum _ (List.nodup_dedup _) fun _ member => List.mem_dedup.mpr (List.mem_map_of_mem member)

theorem scanned_sum {names : List String} (shown : ∀ name ∈ names, ∃ value : Int,
    scanInt (db.quantityOf name) = some value ∧ (value : ℚ) = db.netQuantityOf name) :
    ((((names.filterMap fun name => (scanInt (db.quantityOf name)).map (TopProduct.mk name)).map
      TopProduct.value).sum : Int) : ℚ) = (names.map db.netQuantityOf).sum := by
  induction names with
  | nil => rfl
  | cons name names ih =>
    obtain ⟨value, scanned, net⟩ := shown name List.mem_cons_self
    have rest := ih fun other member => shown other (List.mem_cons_of_mem _ member)
    rw [List.filterMap_cons_some (by rw [scanned]; rfl), List.map_cons, List.sum_cons, List.map_cons, List.sum_cons,
      Int.cast_add, rest, net]

theorem netReported_iff (enough : (db.soldNames.length : Int) ≤ limit) : NetReported db limit ↔ WholeAndKept db := by
  constructor
  · intro reported name sold
    obtain ⟨product, listed, rfl, net⟩ := reported.each name sold
    obtain ⟨_, scanned⟩ := (topSelling_mem enough).mp listed
    rw [scanInt_value scanned, netQuantityOf_eq] at net
    exact ⟨by linarith, by rw [scanned]; rfl⟩
  · intro whole
    have shown : ∀ name ∈ db.soldNames, ∃ value : Int, scanInt (db.quantityOf name) = some value ∧
        (value : ℚ) = db.netQuantityOf name := by
      intro name sold
      obtain ⟨kept, scannable⟩ := whole name sold
      obtain ⟨value, scanned⟩ := Option.isSome_iff_exists.mp scannable
      exact ⟨value, scanned, by rw [netQuantityOf_eq, kept, sub_zero, scanInt_value scanned]⟩
    refine ⟨fun name sold => ?_, ?_⟩
    · obtain ⟨value, scanned, net⟩ := shown name sold
      exact ⟨⟨name, value⟩, (topSelling_mem enough).mpr ⟨sold, scanned⟩, rfl, net⟩
    · rw [((topSelling_perm enough).map TopProduct.value).sum_eq, scanned_sum shown, netQuantity_groups]

end Report

section History

/-- A line without anything returned, or of a sale that came back as a whole. -/
def Unreturned (db : Store) : Prop :=
  ∀ line ∈ db.saleItems.rows, line.returnedQty = 0 ∨ ∃ sale ∈ db.sales.find? line.saleID, sale.status = .returned

/-- All that was ever sold of a name. -/
def everSold (lines : List SaleItem) (name : String) : ℚ :=
  ((lines.filter fun line => line.name = name).map SaleItem.quantity).sum

def WholeLine (line : SaleItem) : Prop := 0 < line.quantity ∧ line.quantity.den = 1

/-- Nothing is partly returned, lines are whole and few enough. -/
structure Reportable (db : Store) : Prop where
  kept : Unreturned db
  whole : LinesHold WholeLine db.saleItems
  few : ∀ name, everSold db.saleItems.rows name < 1000000

/-- The change between two calls that leaves the sales alone. -/
def SameSales (db next : Store) : Prop := next.sales = db.sales ∧ next.saleItems = db.saleItems

abbrev SalesStep := CounterStep SameSales

/-- A sale of whole quantities whose lines are new, of no name more than a million in all; a
partial return that returns the last of its sale. -/
def SalesStep.Plain : SalesStep → Store → Prop
  | .call env (.processSale _ request), db =>
    (∀ item ∈ request.items, item.id = 0 ∧ item.returnedQty = 0 ∧ item.quantity.den = 1) ∧
      ∀ name, everSold (db.saleItems.rows ++ (pricedSale .exact env db request).items) name < 1000000
  | .call _ (.returnSalePartial saleID productID qty), db => ∀ item ∈ db.getSaleItem saleID productID,
    allReturned (db.saleItems.put (returnedLine item qty)) saleID = true
  | _, _ => True

/-- A line without its keys. -/
def SaleItem.bare (line : SaleItem) : SaleItem := { line with id := 0, saleID := "" }

/-- Lines without a number are added after the others, as they are. -/
theorem saveItems_fresh {saleID : String} {t : Serial SaleItem.id} {items : List SaleItem}
    (fresh : ∀ item ∈ items, item.id = 0) : ∃ added, (saveItems saleID t items).rows = t.rows ++ added ∧
      (∀ line ∈ added, line.id ≠ 0 ∧ line.saleID = saleID) ∧ added.map SaleItem.bare = items.map SaleItem.bare := by
  unfold saveItems
  induction items generalizing t with
  | nil => exact ⟨[], by simp, by simp, rfl⟩
  | cons item items ih =>
    obtain ⟨added, rows, keyed, same⟩ := @ih (saveItem saleID t item) fun other member =>
      fresh other (List.mem_cons_of_mem _ member)
    have first : (saveItem saleID t item).rows = t.rows ++ [{ item with id := t.seq + 1, saleID := saleID }] := by
      rw [saveItem, if_pos (fresh item List.mem_cons_self)]
      rfl
    refine ⟨{ item with id := t.seq + 1, saleID := saleID } :: added, ?_, ?_, ?_⟩
    · rw [List.foldl_cons, rows, first, List.append_assoc, List.singleton_append]
    · exact List.forall_mem_cons.mpr ⟨⟨Nat.succ_ne_zero _, rfl⟩, keyed⟩
    · rw [List.map_cons, List.map_cons, same]
      rfl

/-- What is neither the name nor the quantity does not matter. -/
theorem everSold_map {lines : List SaleItem} {f : SaleItem → SaleItem} (name : String)
    (same : ∀ line ∈ lines, (f line).name = line.name ∧ (f line).quantity = line.quantity) :
    everSold (lines.map f) name = everSold lines name := by
  induction lines with
  | nil => rfl
  | cons line lines ih =>
    have first := same line List.mem_cons_self
    have rest := ih fun other member => same other (List.mem_cons_of_mem _ member)
    unfold everSold at rest ⊢
    rw [List.map_cons, List.filter_cons, List.filter_cons, first.1]
    split
    · rw [List.map_cons, List.sum_cons, List.map_cons, List.sum_cons, first.2, rest]
    · exact rest

theorem everSold_bare (lines : List SaleItem) (name : String) :
    everSold (lines.map SaleItem.bare) name = everSold lines name :=
  everSold_map name fun _ _ => ⟨rfl, rfl⟩

theorem everSold_append (front back : List SaleItem) (name : String) :
    everSold (front ++ back) name = everSold front name + everSold back name := by
  simp [everSold]

variable {db final : Store} {env : Env}

theorem sum_whole {quantities : List ℚ} (whole : ∀ q ∈ quantities, q.den = 1) : ∃ n : Int, quantities.sum = n := by
  induction quantities with
  | nil => exact ⟨0, by simp⟩
  | cons q quantities ih =>
    obtain ⟨n, rest⟩ := ih fun other member => whole other (List.mem_cons_of_mem _ member)
    refine ⟨q.num + n, ?_⟩
    rw [List.sum_cons, rest, Int.cast_add, Rat.coe_int_num_of_den_eq_one (whole q List.mem_cons_self)]

/-- Lines of sales that count are not of returned sales, and a whole sum below a million is read. -/
theorem wholeAndKept_of_reportable (reportable : Reportable db) : WholeAndKept db := by
  intro name _
  have lines : (db.revenueLines.filter fun line => line.name = name).Sublist
      (db.saleItems.rows.filter fun line => line.name = name) := List.filter_sublist.filter _
  have held : ∀ line ∈ db.revenueLines.filter (fun line => line.name = name), WholeLine line := fun line member =>
    (reportable.whole line (List.mem_filter.mp (lines.subset member)).1).2
  constructor
  · refine List.sum_eq_zero (List.forall_mem_map.mpr fun line member => ?_)
    obtain ⟨stored, counts⟩ := List.mem_filter.mp (List.mem_filter.mp member).1
    obtain ⟨sale, found, status⟩ := of_decide_eq_true counts
    rcases reportable.kept line stored with kept | ⟨other, same, back⟩
    · exact kept
    · obtain rfl : sale = other := Option.some.inj (found.symm.trans same)
      rw [back] at status
      exact absurd status (by decide)
  · obtain ⟨n, sum⟩ := sum_whole (List.forall_mem_map.mpr fun line member => (held line member).2)
    have nonneg : (0 : ℚ) ≤ n := by
      rw [← sum]
      exact List.sum_nonneg (List.forall_mem_map.mpr fun line member => (held line member).1.le)
    have below : (n : ℚ) < 1000000 := by
      rw [← sum]
      refine lt_of_le_of_lt ((lines.map SaleItem.quantity).sum_le_sum (List.forall_mem_map.mpr fun line member => ?_))
        (reportable.few name)
      exact (reportable.whole line (List.mem_filter.mp member).1).2.1.le
    have low : 0 ≤ n := by exact_mod_cast nonneg
    have high : n < 1000000 := by exact_mod_cast below
    rw [Store.quantityOf, sum, scanInt, if_pos ⟨by simp, by simp; omega⟩]
    rfl

theorem Reportable.frame (reportable : Reportable db) (lines : final.saleItems = db.saleItems)
    (returned : ∀ id, ∀ sale ∈ db.sales.find? id, sale.status = .returned →
      ∃ after ∈ final.sales.find? id, after.status = .returned) : Reportable final := by
  refine ⟨fun line stored => ?_, by rw [lines]; exact reportable.whole, by rw [lines]; exact reportable.few⟩
  rw [lines] at stored
  rcases reportable.kept line stored with kept | ⟨sale, found, status⟩
  · exact .inl kept
  · exact .inr (returned _ sale found status)

theorem sale_reportable {actor : Actor} {request : Sale} {ws : List Write} (reportable : Reportable db)
    (plain : SalesStep.Plain (.call env (.processSale actor request)) db)
    (h : Does (processSaleAs .exact env actor request) db () ws final) : Reportable final := by
  obtain ⟨fresh, few⟩ := plain
  have rowMoved := sale_replayed h
  have moved := saleLines_replayed h
  obtain ⟨facts, rfl⟩ := processSaleAs_does h
  rw [saleJournal_lines] at moved
  have priced : ∀ item ∈ (pricedSale .exact env db request).items,
      item.id = 0 ∧ item.returnedQty = 0 ∧ item.quantity.den = 1 :=
    soldCart_items fun item member _ => fresh item member
  obtain ⟨added, rows, keyed, same⟩ := @saveItems_fresh (stampSale env request).id db.saleItems
    (pricedSale .exact env db request).items fun item member => (priced item member).1
  rw [← moved] at rows
  have source : ∀ line ∈ added, line.returnedQty = 0 ∧ WholeLine line := by
    intro line member
    have bare := List.mem_map_of_mem (f := SaleItem.bare) member
    rw [same] at bare
    obtain ⟨item, inside, equal⟩ := List.mem_map.mp bare
    have returned : item.bare.returnedQty = line.bare.returnedQty := by rw [equal]
    have quantity : item.bare.quantity = line.bare.quantity := by rw [equal]
    change item.returnedQty = line.returnedQty at returned
    change item.quantity = line.quantity at quantity
    obtain ⟨_, none, whole⟩ := priced item inside
    exact ⟨returned ▸ none, quantity ▸ sale_quantities facts item inside, quantity ▸ whole⟩
  refine ⟨fun line stored => ?_, fun line stored => ?_, fun name => ?_⟩
  · rw [rows] at stored
    rcases List.mem_append.mp stored with old | new
    · rcases reportable.kept line old with kept | ⟨sale, found, status⟩
      · exact .inl kept
      · refine .inr ⟨sale, ?_, status⟩
        rw [rowMoved, saleJournal_row, if_neg ?_]
        · exact found
        · intro taken
          have none : db.sales.find? line.saleID = none := taken ▸ facts.fresh
          rw [none] at found
          cases found
    · exact .inl (source line new).1
  · rw [rows] at stored
    rcases List.mem_append.mp stored with old | new
    · exact reportable.whole line old
    · exact ⟨(keyed line new).1, (source line new).2⟩
  · rw [rows, everSold_append, ← everSold_bare added, same, everSold_bare, ← everSold_append]
    exact few name

theorem part_reportable {saleID productID : String} {qty : ℚ} {ws : List Write} (reportable : Reportable db)
    (plain : SalesStep.Plain (.call env (.returnSalePartial saleID productID qty)) db)
    (h : Does (returnSalePartial .exact env saleID productID qty) db () ws final) : Reportable final := by
  have rowMoved := sale_replayed h
  have moved := saleLines_replayed h
  obtain ⟨item, sale, facts, rfl⟩ := returnSalePartial_does h
  obtain ⟨stored, items, rfl⟩ := getSale_row facts.loaded
  have line := getSaleItem_mem facts.line
  have inside := (List.mem_filter.mp line).1
  have tied : item.saleID = sale.id := by simpa using (List.mem_filter.mp line).2
  obtain ⟨numbered, whole⟩ := reportable.whole item inside
  have done := plain item facts.line
  rw [partialJournal_lines reportable.whole items line] at moved
  have closed : ∃ after ∈ final.sales.find? sale.id, after.status = .returned := by
    refine ⟨_, by rw [rowMoved, partialJournal_row, if_pos rfl, stored]; rfl, ?_⟩
    simp [shrinkSale, done]
  refine ⟨fun other member => ?_, ?_, fun name => ?_⟩
  · by_cases own : other.saleID = sale.id
    · exact .inr (own ▸ closed)
    · have old : other ∈ db.saleItems.rows := by
        rw [moved, Serial.put_rows, Table.put_rows] at member
        obtain ⟨before, stored, rfl⟩ := List.mem_map.mp member
        split at own
        · exact absurd tied own
        · rename_i apart
          rw [if_neg apart]
          exact stored
      rcases reportable.kept other old with kept | ⟨back, found, status⟩
      · exact .inl kept
      · exact .inr ⟨back, by rw [rowMoved, partialJournal_row, if_neg own]; exact found, status⟩
  · rw [moved]
    exact put_lines reportable.whole numbered whole
  · rw [moved, Serial.put_rows, Table.put_rows, everSold_map name]
    · exact reportable.few name
    · intro before stored
      split
      · rename_i same
        obtain rfl : before = item := Table.unique_row stored inside same
        exact ⟨rfl, rfl⟩
      · exact ⟨rfl, rfl⟩

theorem call_reportable {c : Call} {ws : List Write} (reportable : Reportable db)
    (plain : SalesStep.Plain (.call env c) db) (h : Does (c.body .exact env) db () ws final) : Reportable final := by
  rcases call_lines reportable.whole h with ⟨quiet, same⟩ | ⟨actor, request, rfl, _, _⟩ |
    ⟨saleID, productID, qty, item, sale, rfl, _, _, _⟩
  · refine reportable.frame same fun id row found status => ?_
    rcases call_row h id with ⟨_, kept⟩ | ⟨_, _, rfl, _, _, _⟩ | ⟨sale, _, _, now⟩ | ⟨_, _, _, _, rfl, _, _⟩ |
      ⟨_, _, _, sale, _, _, _, facts, _⟩
    · exact ⟨row, kept.trans found, status⟩
    · exact absurd trivial quiet
    · exact ⟨_, now, rfl⟩
    · exact absurd trivial quiet
    · -- only a sale that is not returned takes a payment
      obtain rfl : row = sale.toSaleRow := Option.some.inj (found.symm.trans (getSale_row facts.loaded).1)
      exact absurd status facts.active.1
  · exact sale_reportable reportable plain h
  · exact part_reportable reportable plain h

theorem step_reportable {step : SalesStep} (reportable : Reportable db) (plain : step.Plain db) :
    Reportable (step.next db) := by
  cases step with
  | call env c =>
    by_cases accepted : (c.body .exact env).accepts db
    · obtain ⟨_, ws, final, does⟩ := accepted
      rw [CounterStep.next, commit_accepted does]
      exact call_reportable reportable plain does
    · rw [CounterStep.next, (commit_rejected accepted).1]
      exact reportable
  | elsewhere change keeps =>
    obtain ⟨sales, lines⟩ := keeps db
    exact reportable.frame lines fun id row found status => ⟨row, by rw [CounterStep.next, sales]; exact found, status⟩

theorem run_reportable {steps : List SalesStep} (empty : db.saleItems.rows = [])
    (plain : ∀ front step back, steps = front ++ step :: back → SalesStep.Plain step (CounterStep.run front db)) :
    ∀ front back, steps = front ++ back → Reportable (CounterStep.run front db) := by
  have start : Reportable db :=
    ⟨by simp [Unreturned, empty], by simp [LinesHold, empty], by simp [everSold, empty]⟩
  refine (@Runs.kept_iff _ _ (fun db step => CounterStep.next step db) steps db Reportable (fun _ _ => True) start
    fun front step back parts reportable => ?_).mpr fun _ _ _ _ => trivial
  exact iff_true_intro (step_reportable reportable (plain front step back parts))

end History

def teasStep : SalesStep := .call till (.processSale sara (teaSale "s1" "" .cash none none 2))

end BeidarPos
