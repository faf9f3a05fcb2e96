import BeidarPos.ReturnArithmetic
import BeidarPos.SaleReversal

/-! A sale that comes back in parts. Every part is cut from what is left of the invoice, and
the last one takes all of it. -/
namespace BeidarPos

open Machine Relational Journal Tx Rounding

section Steps

variable {p : SaleItem → Prop} {w : Word} {env : Env} {db final : Store} {saleID productID : String} {qtyToReturn : ℚ}
  {ws : List Write}

/-- The sale as a part of it leaves it. -/
def partLeft (w : Word) (sale : Sale) (item : SaleItem) (qtyToReturn : ℚ) : Sale :=
  { shrinkSale w sale (returnedLine item qtyToReturn) qtyToReturn (partialRefund w sale item qtyToReturn)
      ((sale.items.map (markReturned item qtyToReturn)).all fun line => decide (line.quantity ≤ line.returnedQty)) with
    items := sale.items.map (markReturned item qtyToReturn) }

theorem part_sale (lines : LinesHold p db.saleItems)
    (h : Does (returnSalePartial w env saleID productID qtyToReturn) db () ws final) :
    ∃ item sale, PartialFacts w db saleID productID qtyToReturn item sale ∧
      ws = partialJournal w env db saleID productID qtyToReturn item sale ∧
      final.getSale saleID = some (partLeft w sale item qtyToReturn) := by
  have moved := sale_replayed h saleID
  have rows := saleLines_replayed h
  obtain ⟨item, sale, facts, rfl⟩ := returnSalePartial_does h
  obtain ⟨stored, items, named⟩ := getSale_row facts.loaded
  have member := getSaleItem_mem facts.line
  subst named
  rw [partialJournal_lines lines items member] at rows
  rw [partialJournal_row, if_pos rfl, stored] at moved
  have marked : final.itemsOf sale.id = sale.items.map (markReturned item qtyToReturn) := by
    rw [Store.itemsOf, rows, items]
    exact put_itemsOf (List.mem_filter.mp member).1
  have all : allReturned (db.saleItems.put (returnedLine item qtyToReturn)) sale.id =
      (sale.items.map (markReturned item qtyToReturn)).all fun line => decide (line.quantity ≤ line.returnedQty) := by
    rw [← marked, Store.itemsOf, rows]
    rfl
  refine ⟨item, sale, facts, rfl, ?_⟩
  rw [Store.getSale, moved, marked, all]
  rfl

end Steps

section Last

variable {sale : Sale} {item : SaleItem} {qtyToReturn : ℚ}

/-- What a line still counts for in the value of the invoice. -/
def lineValue (returned : SaleItem → ℚ) (line : SaleItem) : Int :=
  if scaled .exact line.quantity ≤ 0 then 0 else remainingCents .exact line (returned line)

theorem remAllCents_sum (item : SaleItem) (qtyToReturn : ℚ) (lines : List SaleItem) :
    remAllCents .exact item qtyToReturn lines = (lines.map (lineValue (returnedBefore item qtyToReturn))).sum := by
  have turn : ∀ (sum : Int) (line : SaleItem), (if scaled .exact line.quantity ≤ 0 then sum
      else Word.exact.add sum (remainingCents .exact line (returnedBefore item qtyToReturn line))) =
      Word.exact.add sum (lineValue (returnedBefore item qtyToReturn) line) := by
    intro sum line
    unfold lineValue
    split <;> simp
  rw [remAllCents]
  simp only [turn, Word.exact_foldl, Int.zero_add]

theorem lineValue_nonneg (returned : SaleItem → ℚ) {line : SaleItem} (sound : LineSound line) :
    0 ≤ lineValue returned line := by
  unfold lineValue
  split
  · exact le_rfl
  · exact Rounding.share_nonneg sound.2 (remScaledQty_bounds _ (scaled_nonneg sound.1.le)).1 (scaled_nonneg sound.1.le)

/-- A line that has come back counts for nothing. -/
theorem lineValue_returned {returned : SaleItem → ℚ} {line : SaleItem} (sound : LineSound line)
    (back : line.quantity ≤ returned line) : lineValue returned line = 0 := by
  have none : remScaledQty .exact line (returned line) = 0 := by
    have low := (remScaledQty_bounds (returned line) (scaled_nonneg sound.1.le)).1
    have high : scaled .exact (line.quantity - returned line) ≤ 0 := by
      have mono := scaled_mono (show line.quantity - returned line ≤ 0 by linarith)
      have zero : scaled .exact 0 = 0 := by decide +kernel
      rwa [zero] at mono
    have quantity := scaled_nonneg sound.1.le
    simp only [remScaledQty] at low ⊢
    split at low <;> split <;> split at low <;> omega
  unfold lineValue remainingCents
  split
  · rfl
  · rw [none]
    simp

/-- A refund cut from a share no smaller than all that is left takes the whole total. -/
theorem refundAmountOf_all {total share remAll : Int} (nonneg : 0 ≤ total) (left : 0 ≤ remAll)
    (covers : remAll ≤ share) (refund : 0 < refundAmountOf .exact total share remAll) :
    refundAmountOf .exact total share remAll = total := by
  have positive : 0 < remAll := by
    by_contra none
    obtain rfl : remAll = 0 := by omega
    have worthless : refundAmountOf .exact total share 0 = 0 := by
      simp [refundAmountOf, not_lt.mpr nonneg]
    omega
  have product : 0 ≤ total * share := Int.mul_nonneg nonneg (by omega)
  have enough : total ≤ (total * share).tdiv remAll := by
    rw [Int.tdiv_eq_ediv_of_nonneg product]
    exact Int.le_ediv_of_mul_le positive (Int.mul_le_mul_of_nonneg_left covers nonneg)
  by_cases capped : total < (total * share).tdiv remAll
  · simp [refundAmountOf, capped]
  · have same : (total * share).tdiv remAll = total := by omega
    simp [refundAmountOf, same]

/-- The part after which nothing is left refunds the whole invoice. -/
theorem last_refund (sound : ∀ line ∈ sale.items, LineSound line) (nonneg : 0 ≤ sale.total) (member : item ∈ sale.items)
    (distinct : (sale.items.map SaleItem.productID).Nodup) (positive : 0 < qtyToReturn) (whole : qtyToReturn = outstanding item)
    (others : ∀ line ∈ sale.items, line ≠ item → line.quantity ≤ line.returnedQty)
    (refund : 0 < partialRefund .exact sale item qtyToReturn) :
    partialRefund .exact sale item qtyToReturn = sale.total := by
  have before : returnedBefore (returnedLine item qtyToReturn) qtyToReturn item = item.returnedQty := by
    simp [returnedBefore, returnedLine]
  have product : ∀ line ∈ sale.items, line.productID = item.productID → line = item :=
    fun line inside same => List.inj_on_of_nodup_map distinct inside member same
  have elsewhere : ∀ line ∈ sale.items, line ≠ item →
      lineValue (returnedBefore (returnedLine item qtyToReturn) qtyToReturn) line = 0 := by
    intro line inside other
    refine lineValue_returned (sound line inside) ?_
    have apart : line.productID ≠ (returnedLine item qtyToReturn).productID := fun same => other (product line inside same)
    rw [returnedBefore, if_neg apart]
    exact others line inside other
  have alone : remAllCents .exact (returnedLine item qtyToReturn) qtyToReturn sale.items =
      lineValue (returnedBefore (returnedLine item qtyToReturn) qtyToReturn) item := by
    rw [remAllCents_sum]
    rw [List.sum_map_eq_nsmul_single item _ fun line other inside => elsewhere line inside other,
      List.count_eq_one_of_mem (List.Nodup.of_map _ distinct) member, one_nsmul]
  have low := lineValue_nonneg (returnedBefore (returnedLine item qtyToReturn) qtyToReturn) (sound item member)
  have covers : lineValue (returnedBefore (returnedLine item qtyToReturn) qtyToReturn) item ≤
      itemShareCents .exact item qtyToReturn := by
    obtain ⟨quantity, total⟩ := sound item member
    have goods := scaled_nonneg quantity.le
    have part : 0 ≤ scaled .exact (outstanding item) := by
      have zero : scaled .exact 0 = 0 := by decide +kernel
      have mono := scaled_mono (positive.le.trans_eq whole)
      omega
    have within : remScaledQty .exact item item.returnedQty ≤ scaled .exact (outstanding item) := by
      change (let rem := scaled .exact (outstanding item)
        let rem := if rem < 0 then 0 else rem
        if scaled .exact item.quantity < rem then scaled .exact item.quantity else rem) ≤ _
      simp only
      split <;> split <;> omega
    unfold lineValue
    rw [before, whole]
    split
    · exact Rounding.share_nonneg total part goods
    · exact Rounding.share_mono total (remScaledQty_bounds _ goods).1 goods within
  unfold partialRefund at refund ⊢
  change 0 < refundAmountOf _ _ _ (remAllCents _ (returnedLine item qtyToReturn) _ _) at refund
  change refundAmountOf _ _ _ (remAllCents _ (returnedLine item qtyToReturn) _ _) = _
  rw [alone] at refund ⊢
  exact refundAmountOf_all nonneg low covers refund

end Last

def ReturnCall.IsPart : ReturnCall → Prop
  | .full => False
  | .part _ _ => True

section Runs

variable {env : Env} {db final : Store} {saleID productID : String} {qtyToReturn : ℚ} {ws : List Write} {total given : Int}
  {begun : Prop}

def fullyReturned (lines : List SaleItem) : Bool := lines.all fun line => decide (line.quantity ≤ line.returnedQty)

/-- What was given back and what is left of the invoice make up the total; once begun the
status says whether every line came back. -/
structure Partway (saleID : String) (total given : Int) (begun : Prop) (db : Store) : Prop where
  lines : LinesHold LineSound db.saleItems
  sale : ∃ sale, db.getSale saleID = some sale ∧ 0 ≤ sale.total ∧ 0 ≤ sale.vat ∧ given + sale.total = total ∧
    (sale.items.map SaleItem.productID).Nodup ∧
    (begun → sale.status = if fullyReturned sale.items then .returned else .partialReturn)

/-- The lines keep their products when one of them is marked. -/
theorem marked_products {lines : List SaleItem} {item : SaleItem}
    (unique : ∀ line ∈ lines, line.id = item.id → line = item) (qtyToReturn : ℚ) :
    (lines.map (markReturned item qtyToReturn)).map SaleItem.productID = lines.map SaleItem.productID := by
  rw [List.map_map]
  refine List.map_congr_left fun line member => ?_
  simp only [Function.comp_apply, markReturned]
  split
  · rename_i same
    rw [unique line member same]
    rfl
  · rfl

/-- The lines of a loaded sale are told apart by their numbers. -/
theorem loaded_unique {sale : Sale} (loaded : db.getSale saleID = some sale) {item : SaleItem} (member : item ∈ sale.items) :
    ∀ line ∈ sale.items, line.id = item.id → line = item := by
  obtain ⟨_, items, _⟩ := getSale_row loaded
  intro line inside same
  rw [items] at inside member
  exact Table.unique_row (List.mem_filter.mp inside).1 (List.mem_filter.mp member).1 same

theorem part_value {item : SaleItem} {sale : Sale}
    (facts : PartialFacts .exact db saleID productID qtyToReturn item sale) :
    returnValue .exact db saleID (.part productID qtyToReturn) = partialRefund .exact sale item qtyToReturn := by
  simp [returnValue, facts.line, facts.loaded]

theorem Partway.part (kept : Partway saleID total given begun db)
    (h : Does (returnSalePartial .exact env saleID productID qtyToReturn) db () ws final) :
    Partway saleID total (given + returnValue .exact db saleID (.part productID qtyToReturn)) True final := by
  obtain ⟨item, sale, facts, -, left⟩ := part_sale kept.lines h
  obtain ⟨sale', loaded, nonneg, _, sum, distinct, _⟩ := kept.sale
  obtain rfl : sale = sale' := Option.some.inj (facts.loaded.symm.trans loaded)
  have member : item ∈ sale.items := by
    obtain ⟨_, items, rfl⟩ := getSale_row loaded
    exact items ▸ getSaleItem_mem facts.line
  have high := partialRefund_le .exact sale item qtyToReturn
  have rest : (partLeft .exact sale item qtyToReturn).total = sale.total - partialRefund .exact sale item qtyToReturn :=
    shrinkSale_total _ _ _ _ _ high
  refine ⟨linesSound_call (c := .returnSalePartial saleID productID qtyToReturn) kept.lines h, _, left, ?_, ?_, ?_, ?_, ?_⟩
  · rw [rest]
    omega
  · change 0 ≤ (if _ < 0 then 0 else _ : Int)
    split <;> omega
  · rw [rest, part_value facts]
    omega
  · exact (marked_products (loaded_unique loaded member) qtyToReturn).symm ▸ distinct
  · exact fun _ => rfl

theorem Partway.run (steps : List (Env × ReturnCall)) (kept : Partway saleID total given begun db)
    (parts : ∀ step ∈ steps, step.2.IsPart) (accepted : AllAccepted (serveReturn saleID) steps db) :
    Partway saleID total (given + refunded saleID steps db) (begun ∨ steps ≠ []) (after (serveReturn saleID) steps db) := by
  induction steps generalizing db given begun with
  | nil => simpa [refunded] using kept
  | cons step steps ih =>
    obtain ⟨env, call⟩ := step
    obtain ⟨now, onward⟩ := accepted
    cases call with
    | full => exact (parts (env, .full) (by simp)).elim
    | part productID qtyToReturn =>
      have next := kept.part (does_accepted now)
      have later := ih next (fun step member => parts step (by simp [member])) onward
      simp only [refunded, now, if_true, after_cons, ← add_assoc]
      refine ⟨later.lines, later.sale.imp fun sale => ?_⟩
      rintro ⟨loaded, nonneg, vat, sum, distinct, status⟩
      exact ⟨loaded, nonneg, vat, sum, distinct, fun _ => status (.inl trivial)⟩

theorem reachable_sound (h : Reachable db) : LinesHold LineSound db.saleItems := by
  induction h with
  | start db sales items =>
    intro line member
    rw [items] at member
    cases member
  | call env c _ does ih => exact linesSound_call ih does
  | elsewhere _ _ items ih =>
    rw [items]
    exact ih

variable {actor : Actor} {request : Sale} {start : Store}

/-- An accepted sale starts with its whole total left and nothing given back. -/
theorem partway_sold (reached : Reachable db) (sold : Does (processSaleAs .exact env actor request) db () ws start)
    (distinct : ((start.itemsOf (stampSale env request).id).map SaleItem.productID).Nodup) :
    Partway (stampSale env request).id (pricedSale .exact env db request).total 0 False start := by
  have loaded := sold_loaded sold
  obtain ⟨_, items, _⟩ := getSale_row loaded
  obtain ⟨facts, _⟩ := processSaleAs_does sold
  refine ⟨reachable_sound (.call env (.processSale actor request) reached sold), _, loaded, saleTotal_nonneg facts,
    saleVat_nonneg facts, Int.zero_add _, items ▸ distinct, False.elim⟩

/-- The part that brings back the last line takes what is left of the total and of the VAT. -/
theorem Partway.last (kept : Partway saleID total given begun db)
    (h : Does (returnSalePartial .exact env saleID productID qtyToReturn) db () ws final)
    (whole : ∀ line ∈ final.itemsOf saleID, line.quantity ≤ line.returnedQty) :
    (∃ row, final.sales.find? saleID = some row ∧ row.total = 0 ∧ row.vat = 0 ∧ row.status = .returned) ∧
    ∃ row, db.sales.find? saleID = some row ∧ 0 < row.total ∧ 0 ≤ row.vat ∧
      returnValue .exact db saleID (.part productID qtyToReturn) = row.total ∧ (begun → row.status = .partialReturn) := by
  obtain ⟨item, sale, facts, -, left⟩ := part_sale kept.lines h
  obtain ⟨sale', loaded, nonneg, vat, _, distinct, status⟩ := kept.sale
  obtain rfl : sale = sale' := Option.some.inj (facts.loaded.symm.trans loaded)
  obtain ⟨stored, items, named⟩ := getSale_row loaded
  obtain ⟨stored', items', _⟩ := getSale_row left
  subst named
  have member : item ∈ sale.items := items ▸ getSaleItem_mem facts.line
  have unique := loaded_unique loaded member
  have back : ∀ line ∈ sale.items, (markReturned item qtyToReturn line).quantity ≤
      (markReturned item qtyToReturn line).returnedQty := by
    intro line inside
    exact whole _ (items' ▸ List.mem_map_of_mem inside)
  have marked : item.quantity ≤ item.returnedQty + qtyToReturn := by
    have own := back item member
    simpa [markReturned, returnedLine] using own
  have others : ∀ line ∈ sale.items, line ≠ item → line.quantity ≤ line.returnedQty := by
    intro line inside other
    have own := back line inside
    rwa [markReturned, if_neg fun same => other (unique line inside same)] at own
  have exhausted : qtyToReturn = outstanding item := by
    have available := facts.available
    simp only [outstanding] at available ⊢
    linarith
  have lineSound : ∀ line ∈ sale.items, LineSound line := by
    intro line inside
    rw [items] at inside
    exact (kept.lines line (List.mem_filter.mp inside).1).2
  have taken := last_refund lineSound nonneg member distinct facts.positive exhausted others facts.refund
  have refund := facts.refund
  have done : fullyReturned (sale.items.map (markReturned item qtyToReturn)) = true := by
    simpa [fullyReturned] using back
  have undone : fullyReturned sale.items = false := by
    have short : ¬ item.quantity ≤ item.returnedQty := by
      have positive := facts.positive
      rw [exhausted, outstanding] at positive
      linarith
    simpa [fullyReturned] using ⟨item, member, not_le.mp short⟩
  refine ⟨⟨_, stored', ?_, ?_, ?_⟩, _, stored, by omega, vat, ?_, fun started => ?_⟩
  · change (shrinkSale .exact sale (returnedLine item qtyToReturn) qtyToReturn
      (partialRefund .exact sale item qtyToReturn) _).total = 0
    rw [shrinkSale_total _ _ _ _ _ (partialRefund_le .exact sale item qtyToReturn), taken, Int.sub_self]
  · have all : refundVat .exact sale (partialRefund .exact sale item qtyToReturn) = sale.vat := by
      rw [taken] at refund ⊢
      rcases vat.lt_or_eq with taxed | untaxed
      · rw [refundVat, if_pos ⟨refund, taxed⟩, Word.exact_mul, Word.exact_quot]
        exact Int.mul_tdiv_cancel _ refund.ne'
      · rw [refundVat, ← untaxed]
        simp
    change (shrinkSale .exact sale (returnedLine item qtyToReturn) qtyToReturn
      (partialRefund .exact sale item qtyToReturn) _).vat = 0
    rw [shrinkSale_vat, all]
    simp
  · exact if_pos done
  · rw [part_value facts, taken]
  · rw [status started, undone]
    rfl

theorem refunded_append (front back : List (Env × ReturnCall)) (db : Store) :
    refunded saleID (front ++ back) db =
      refunded saleID front db + refunded saleID back (after (serveReturn saleID) front db) := by
  induction front generalizing db with
  | nil => simp [refunded]
  | cons step front ih => simp [refunded, ih, add_assoc]

/-- What an accepted part is worth, next to what is left of the invoice. -/
theorem part_worth (h : Does (returnSalePartial .exact env saleID productID qtyToReturn) db () ws final) :
    ∃ row, db.sales.find? saleID = some row ∧ 0 < returnValue .exact db saleID (.part productID qtyToReturn) ∧
      returnValue .exact db saleID (.part productID qtyToReturn) ≤ row.total := by
  obtain ⟨item, sale, facts, _⟩ := returnSalePartial_does h
  obtain ⟨stored, _, _⟩ := getSale_row facts.loaded
  rw [part_value facts]
  exact ⟨_, stored, facts.refund, partialRefund_le .exact sale item qtyToReturn⟩

end Runs

section Teas

/-- The two teas come back one by one. -/
def oneByOne : List (Env × ReturnCall) := [(till, .part "tea" 1), (till, .part "tea" 1)]

end Teas

end BeidarPos
