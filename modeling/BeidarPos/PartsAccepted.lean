import BeidarPos.PartialReturns

/-! When a part of a sale comes back. Besides the quantity that is left of the line only the
worth of the part can stop it: the stock of what was sold stays above zero, and the customer
remains. -/
namespace BeidarPos

open Machine Relational Journal Tx Rounding

section Acceptance

variable {env : Env} {db : Store} {sale : SaleRow} {item : SaleItem} {saleID productID : String} {qtyToReturn : ℚ}
  {refundAmount : Int}

theorem restockPartial_accepts : (restockPartial env saleID productID item qtyToReturn).accepts db ↔
    ∀ stock ∈ stockOf productID db, 0 ≤ stock + qtyToReturn := by
  unfold restockPartial
  rw [accepts_ask_bind]
  cases found : db.products.find? productID with
  | none =>
    have nothing : stockOf productID db = none := by rw [stockOf, found, Option.map_none]
    simp only [nothing]
    exact ⟨fun _ _ none => (Option.not_mem_none _ none).elim, fun _ => unfailing_pure db⟩
  | some product =>
    have stocked : stockOf productID db = some product.stock := by rw [stockOf, found, Option.map_some]
    simp only [stocked]
    rw [accepts_write_bind]
    constructor
    · rintro ⟨_, updated, _⟩ stock there
      obtain ⟨⟨other, same, enough⟩, _⟩ := updateStock_ok updated
      obtain rfl : product = other := Option.some.inj (found.symm.trans same)
      exact Option.some.inj there ▸ enough
    · intro enough
      refine ⟨_, updateStock_raised found _ (enough _ rfl), ?_⟩
      exact unfailing_write (fun db => ⟨_, createStockMovement_ok _ db⟩) _

theorem partialCredit_accepts (found : (debtOf db sale.customerID).isSome) :
    (partialCredit .exact env sale item qtyToReturn refundAmount).accepts db := by
  obtain ⟨debt, owed⟩ := Option.isSome_iff_exists.mp found
  obtain ⟨customer, stored, -⟩ := Option.map_eq_some_iff.mp owed
  unfold partialCredit
  rw [accepts_ask_bind, accepts_require_bind]
  refine ⟨customer, stored, ?_⟩
  exact (unfailing_customer _ rfl).bind
    (fun _ => ((unfailing_payment _ rfl).mapError.when).bind fun _ => unfailing_pure) db

theorem partialSplitCredit_unfailing : Unfailing (partialSplitCredit .exact sale refundAmount) := by
  unfold partialSplitCredit
  split
  · exact unfailing_pure
  · exact (unfailing_customer _ rfl).when

/-- As for a full return, only a credit sale needs its customer. -/
theorem partialCustomer_accepts : (partialCustomer .exact env sale item qtyToReturn refundAmount).accepts db ↔
    debtorFound sale (debtOf db sale.customerID) := by
  constructor
  · rintro ⟨_, _, _, does⟩
    exact (partialCustomer_does does).1
  · intro found
    unfold partialCustomer
    by_cases anonymous : sale.customerID = ""
    · rw [if_pos anonymous]
      exact unfailing_pure db
    · rw [if_neg anonymous, accepts_write_bind]
      refine ⟨_, rfl, ?_⟩
      rw [accepts_write_bind]
      refine ⟨_, rfl, ?_⟩
      cases kind : sale.paymentMethod with
      | credit =>
        have kept := debtor_remains sale.customerID
        exact partialCredit_accepts ((kept _ _ _).trans ((kept _ _ _).trans (found anonymous kind)))
      | installment => exact (unfailing_customer _ rfl).bind (fun _ => unfailing_pure) _
      | split => exact partialSplitCredit_unfailing.bind (fun _ => unfailing_pure) _
      | cash | card | other => exact unfailing_pure _

theorem partialLedger_unfailing (note : Text) : Unfailing (partialLedger .exact env sale note refundAmount) := by
  unfold partialLedger
  split
  · exact Unfailing.each fun leg _ => (unfailing_payment _ rfl).when
  · exact (unfailing_payment _ rfl).when

/-- A part that is worth nothing is refused before its divisors can be zero. -/
theorem partialRefund_divides {sale : Sale} (refund : 0 < partialRefund .exact sale item qtyToReturn) :
    scaled .exact item.quantity ≠ 0 ∧ remAllCents .exact (returnedLine item qtyToReturn) qtyToReturn sale.items ≠ 0 := by
  change 0 < refundAmountOf .exact sale.total (itemShareCents .exact item qtyToReturn)
    (remAllCents .exact (returnedLine item qtyToReturn) qtyToReturn sale.items) at refund
  have worthless : ∀ share remAll : Int, sale.total * share = 0 ∨ remAll = 0 →
      ¬ 0 < refundAmountOf .exact sale.total share remAll := by
    rintro share remAll none positive
    have nothing : (sale.total * share).tdiv remAll = 0 := by
      rcases none with none | none <;> simp [none]
    simp only [refundAmountOf, Word.exact_mul, Word.exact_quot, nothing] at positive
    split at positive <;> omega
  constructor
  · intro none
    refine worthless _ _ (.inl ?_) refund
    simp [itemShareCents, none]
  · exact fun none => worthless _ _ (.inr none) refund

/-- A part is accepted when and only when its checks pass and the stock has room. -/
theorem returnSalePartial_accepts : (returnSalePartial .exact env saleID productID qtyToReturn).accepts db ↔
    ∃ item sale, PartialFacts .exact db saleID productID qtyToReturn item sale ∧
      ∀ stock ∈ stockOf productID db, 0 ≤ stock + qtyToReturn := by
  constructor
  · rintro ⟨_, _, _, does⟩
    obtain ⟨item, sale, facts, _⟩ := returnSalePartial_does does
    refine ⟨item, sale, facts, ?_⟩
    have accepted : (returnSalePartial .exact env saleID productID qtyToReturn).accepts db := ⟨_, _, _, does⟩
    unfold returnSalePartial at accepted
    rw [accepts_ask_bind, accepts_require_bind] at accepted
    obtain ⟨_, _, accepted⟩ := accepted
    rw [accepts_ask_bind, accepts_require_bind] at accepted
    obtain ⟨_, _, accepted⟩ := accepted
    rw [accepts_ensure_bind, accepts_ensure_bind, accepts_write_bind] at accepted
    obtain ⟨_, _, _, marked, accepted⟩ := accepted
    obtain ⟨_, _, _, restocked, _⟩ := accepts_bind.mp accepted
    have room := restockPartial_accepts.mp ⟨_, _, _, restocked⟩
    cases marked
    exact room
  · rintro ⟨item, sale, facts, room⟩
    obtain ⟨quantity, remaining⟩ := partialRefund_divides facts.refund
    unfold returnSalePartial
    rw [accepts_ask_bind, accepts_require_bind]
    refine ⟨item, facts.line, ?_⟩
    rw [accepts_ask_bind, accepts_require_bind]
    refine ⟨sale, facts.loaded, ?_⟩
    rw [accepts_ensure_bind, accepts_ensure_bind, accepts_write_bind]
    refine ⟨facts.positive, facts.available, _, rfl, ?_⟩
    have restocks : (restockPartial env saleID productID (returnedLine item qtyToReturn) qtyToReturn).accepts
        (db.updateSaleItem (returnedLine item qtyToReturn)) := restockPartial_accepts.mpr room
    obtain ⟨_, _, restocked, restock⟩ := restocks
    refine accepts_bind.mpr ⟨_, _, restocked, restock, ?_⟩
    have debt : debtOf restocked sale.customerID = debtOf db sale.customerID := by
      rw [debt_replayed restock, restockPartial_does restock]
      exact balance_within.frame (confined_partialStock _ _ _ _ _ _) (by decide) _
    rw [accepts_ensure_bind, accepts_ensure_bind, accepts_ensure_bind, accepts_ask_bind]
    refine ⟨quantity, remaining, facts.refund, ?_⟩
    have debtor := facts.debtor
    rw [← debt] at debtor
    obtain ⟨overpay, _, settled, customer⟩ := partialCustomer_accepts.mpr debtor
    refine accepts_bind.mpr ⟨overpay, _, settled, customer, ?_⟩
    refine (partialLedger_unfailing _).bind (fun _ => Unfailing.bind (Unfailing.when ?_) fun _ => ?_) settled
    · exact unfailing_write fun db => ⟨_, rfl⟩
    · exact (unfailing_write fun db => ⟨_, rfl⟩).bind fun _ => unfailing_write fun db => ⟨_, rfl⟩

end Acceptance

section Runs

variable {env : Env} {actor : Actor} {request : Sale} {db start final : Store} {ws : List Write} {saleID productID customerID : String}
  {qtyToReturn : ℚ} {total given : Int} {back : Nat → ℚ}

theorem debtor_kept {x : DbTx α} (h : Does x db a ws final) (id : String) :
    (debtOf final id).isSome = (debtOf db id).isSome := by
  rw [debt_replayed h]
  generalize debtOf db id = o
  clear h
  induction ws generalizing o with
  | nil => rfl
  | cons v ws ih =>
    rw [Cell.steps_cons, ih]
    change (if v.customer = some id then o.map (debtChange v) else o).isSome = o.isSome
    split
    · exact Option.isSome_map
    · rfl

/-- Who owes for a sale is still there, and the stock of one of its products is not below zero. -/
structure Servable (saleID productID customerID : String) (db : Store) : Prop where
  row : ∃ row, db.sales.find? saleID = some row ∧ row.customerID = customerID
  debtor : customerID ≠ "" → (debtOf db customerID).isSome
  stock : ∀ stock ∈ stockOf productID db, 0 ≤ stock

theorem servable_sold (sold : Does (processSaleAs .exact env actor request) db () ws start) {item : SaleItem}
    (asked : item ∈ request.items) :
    Servable (stampSale env request).id item.productID request.customerID start := by
  refine ⟨⟨_, sold_row sold, rfl⟩, fun named => ?_, sold_floor sold asked⟩
  obtain ⟨facts, _⟩ := processSaleAs_does sold
  obtain ⟨customer, known⟩ := facts.customer named
  rw [debtor_kept sold, debtOf, known]
  rfl

theorem Servable.part {returned : String} (kept : Servable saleID productID customerID db)
    (h : Does (returnSalePartial .exact env saleID returned qtyToReturn) db () ws final) :
    Servable saleID productID customerID final := by
  have moved := sale_replayed h saleID
  have debtor := debtor_kept h customerID
  have floor := stock_floor h.replays (.inl kept.stock)
  obtain ⟨item, sale, facts, rfl⟩ := returnSalePartial_does h
  obtain ⟨stored, _, named⟩ := getSale_row facts.loaded
  obtain ⟨row, found, owner⟩ := kept.row
  obtain rfl : row = sale.toSaleRow := Option.some.inj (found.symm.trans stored)
  refine ⟨?_, fun who => debtor.trans (kept.debtor who), floor⟩
  rw [moved, partialJournal_row, if_pos named.symm, stored]
  exact ⟨_, rfl, owner⟩

/-- Both halves of what a part needs last through any parts, accepted or not. -/
theorem parts_servable (steps : List (Env × ReturnCall)) (reached : Reachable db)
    (midway : Midway start saleID total given back db) (servable : Servable saleID productID customerID db)
    (parts : ∀ step ∈ steps, step.2.IsPart) :
    Reachable (after (serveReturn saleID) steps db) ∧
    Midway start saleID total (given + refunded saleID steps db) (fun n => back n + putBack saleID n steps db)
      (after (serveReturn saleID) steps db) ∧
    Servable saleID productID customerID (after (serveReturn saleID) steps db) := by
  induction steps generalizing db given back with
  | nil => simpa [refunded, putBack] using ⟨reached, midway, servable⟩
  | cons step steps ih =>
    obtain ⟨env, call⟩ := step
    have later : ∀ step ∈ steps, step.2.IsPart := fun step member => parts step (by simp [member])
    cases call with
    | full => exact (parts (env, .full) (by simp)).elim
    | part returned qtyToReturn =>
      by_cases accepted : (serveReturn saleID (env, .part returned qtyToReturn)).accepts db
      · have does := does_accepted accepted
        have onward := ih (.call env (.returnSalePartial saleID returned qtyToReturn) reached does)
          (part_limits midway reached.sold does) (servable.part does) later
        simpa only [refunded, putBack, accepted, if_true, after_cons, add_assoc] using onward
      · have onward := ih reached midway servable later
        simpa only [refunded, putBack, accepted, if_false, after_cons, (commit_rejected accepted).1, zero_add] using onward

/-- The line that a product of the sale is found by, while it is the only one. -/
theorem midway_line (midway : Midway start saleID total given back db) {line : SaleItem} (member : line ∈ start.itemsOf saleID)
    (product : line.productID = productID)
    (only : ∀ other ∈ start.itemsOf saleID, other.productID = productID → other = line) :
    db.getSaleItem saleID productID = some (returnedLine line (back line.id)) := by
  obtain ⟨inside, own⟩ := List.mem_filter.mp member
  have own : line.saleID = saleID := of_decide_eq_true own
  have here : db.saleItems.find? line.id = some (returnedLine line (back line.id)) := by
    rw [midway.lines, Table.find?_of_mem inside, Option.map_some]
  have found : returnedLine line (back line.id) ∈ (db.itemsOf saleID).filter (fun other => other.productID = productID) :=
    List.mem_filter.mpr ⟨List.mem_filter.mpr ⟨Table.find?_mem here, decide_eq_true own⟩, decide_eq_true product⟩
  have alone : ∀ other ∈ (db.itemsOf saleID).filter (fun other => other.productID = productID),
      other = returnedLine line (back line.id) := by
    intro other there
    obtain ⟨there, same⟩ := List.mem_filter.mp there
    obtain ⟨there, owned⟩ := List.mem_filter.mp there
    have before := Table.find?_of_mem there
    rw [midway.lines] at before
    obtain ⟨origin, stored, marked⟩ := Option.map_eq_some_iff.mp before
    rw [← marked] at same owned
    have origin_line : origin = line := only origin
      (List.mem_filter.mpr ⟨Table.find?_mem stored, owned⟩) (of_decide_eq_true same)
    have numbered : other.id = line.id := by
      rw [← marked, origin_line]
      rfl
    rw [← marked, origin_line, numbered]
  unfold Store.getSaleItem
  cases first : List.argmin SaleItem.id ((db.itemsOf saleID).filter (fun other => other.productID = productID)) with
  | none =>
    rw [List.argmin_eq_none] at first
    rw [first] at found
    cases found
  | some other => rw [alone other (List.argmin_mem first)]

end Runs

section Teas

def manager : Actor := ⟨true, "sara", "desk", .admin, []⟩

/-- Two teas that are given away. -/
def freeTeas : Sale :=
  { teaSale "s1" "" .cash none none 2 with items := [⟨0, "", "tea", "Tea", 1000, 2, 0, 0, 2000, 0⟩] }

end Teas

end BeidarPos
