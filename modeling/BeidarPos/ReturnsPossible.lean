import BeidarPos.Calls

/-! What a full return still needs when other services have been at work since the sale:
the customer of a credit sale, and room in the stock of the products it puts back. -/
namespace BeidarPos

open Machine Relational Journal Tx

def ErrCustomerNotFound : Failure := AppError.keyed .customer "CUSTOMER_NOT_FOUND" "CUSTOMER_NOT_FOUND" [] "id"

/-- Sales on installments of the customer that are not paid off; a returned one counts too. -/
def Store.activeInstallmentsCount (db : Store) (customerID : String) : Nat :=
  (db.sales.rows.filter fun sale =>
    sale.customerID = customerID ∧ sale.paymentMethod = .installment ∧ sale.status ≠ .paid).length

/-- A debt only asks for the force, and only a debt on credit. -/
def Store.deleteCustomer (id : String) (force : Bool) (db : Store) : Except Failure Store :=
  match db.customers.find? id with
  | none => .error ErrCustomerNotFound
  | some customer =>
    let active := db.activeInstallmentsCount id
    if 0 < active then
      .error (.app ⟨.customer, "CUSTOMER_HAS_ACTIVE_INSTALLMENTS", .message "CUSTOMER_HAS_ACTIVE_INSTALLMENTS"
        [.number active], .hint "CUSTOMER_HAS_ACTIVE_INSTALLMENTS", "", false⟩)
    else if customer.debt ≠ 0 ∧ force = false then
      .error (.app ⟨.customer, "CUSTOMER_HAS_DEBT", .message "CUSTOMER_HAS_DEBT" [.amount customer.debt],
        .message "CUSTOMER_HAS_DEBT_FORCE_HINT" [], "", true⟩)
    else .ok { db with customers := db.customers.filter (fun c => c.id ≠ id) }

def Store.deleteProduct (id : String) (db : Store) : Except Failure Store :=
  if id = "" then .error (.plain (.plain "معرف المنتج مطلوب للحذف"))
  else
    match db.products.find? id with
    | none => .error (.wrapped (.plain "failed to get product for deletion") .recordNotFound)
    | some _ => .ok { db with products := db.products.filter (fun p => p.id ≠ id) }

inductive LaterCall where
  | call (env : Env) (c : Call)
  | deleteProduct (id : String)
  | deleteCustomer (id : String) (force : Bool)

/-- A call that is refused changes nothing. -/
def LaterCall.next (w : Word) (db : Store) : LaterCall → Store
  | .call env c => (c.body w env).commit db
  | .deleteProduct id => (db.deleteProduct id).toOption.getD db
  | .deleteCustomer id force => (db.deleteCustomer id force).toOption.getD db

/-- The stores that runs lead to; `elsewhere` is any change by services that do not write
sales and their lines. -/
inductive Later (w : Word) (start : Store) : Store → Prop
  | refl : Later w start start
  | next {db : Store} (c : LaterCall) : Later w start db → Later w start (c.next w db)
  | elsewhere {db final : Store} :
    Later w start db → final.sales = db.sales → final.saleItems = db.saleItems → Later w start final

/-- The line of a product that the return puts back first. -/
def firstOutstanding (items : List SaleItem) (productID : String) : Option SaleItem :=
  items.find? fun item => item.productID = productID ∧ 0 < outstanding item

/-- No product's stock is so far below zero that its first line does not lift it. -/
def Restockable (items : List SaleItem) (db : Store) : Prop :=
  ∀ product ∈ db.products.rows, ∀ line ∈ firstOutstanding items product.id, 0 ≤ product.stock + outstanding line

/-- What a full return needs of the other tables. -/
structure ReturnCovered (db : Store) (sale : SaleRow) (items : List SaleItem) : Prop where
  debtor : debtorFound sale (debtOf db sale.customerID)
  stock : Restockable items db

/-- Stock that is not negative never stops a return. -/
theorem restockable_nonneg {db : Store} (nonneg : ∀ product ∈ db.products.rows, 0 ≤ product.stock)
    (items : List SaleItem) : Restockable items db := by
  intro product member line first
  have positive : 0 < outstanding line := by
    have found := List.find?_some first
    exact (of_decide_eq_true found).2
  have := nonneg product member
  linarith

section Restock

variable {env : Env} {saleID : String} {products : Table Product.id}

theorem createStockMovement_ok (m : StockMovement) (db : Store) :
    Write.apply (.createStockMovement m) db = .ok { db with stockMovements := db.stockMovements ++ [m] } := rfl

theorem updateStock_raised {db : Store} {id : String} {product : Product} (found : db.products.find? id = some product)
    (qty : ℚ) (enough : 0 ≤ product.stock + qty) :
    db.updateStock id qty = .ok { db with
      products := db.products.modify id (fun p => { p with stock := p.stock + qty }) (fun _ => rfl) } := by
  simp only [Store.updateStock, found, if_pos enough]

theorem restockable_find {items : List SaleItem} {db : Store} : Restockable items db ↔
    ∀ id product, db.products.find? id = some product → ∀ line ∈ firstOutstanding items id,
      0 ≤ product.stock + outstanding line := by
  constructor
  · intro room id product found line first
    obtain rfl := Table.find?_key found
    exact room product (Table.find?_mem found) line first
  · intro room product member
    exact room product.id product (Table.find?_of_mem member)

/-- A line that is passed over is no product's first. -/
theorem restockable_skip {item : SaleItem} {items : List SaleItem} {db : Store}
    (skipped : ∀ product, db.products.find? item.productID = some product → ¬ 0 < outstanding item) :
    Restockable (item :: items) db ↔ Restockable items db := by
  have same : ∀ id product, db.products.find? id = some product →
      firstOutstanding (item :: items) id = firstOutstanding items id := by
    intro id product found
    refine List.find?_cons_of_neg ?_
    simp only [decide_eq_true_eq, not_and]
    rintro rfl
    exact skipped product found
  rw [restockable_find, restockable_find]
  refine forall_congr' fun id => forall_congr' fun product => forall_congr' fun found => ?_
  rw [same id product found]

/-- A line that is put back comes first, and leaves its product above zero. -/
theorem restockable_first {item : SaleItem} {items : List SaleItem} {db : Store} {product : Product}
    (found : db.products.find? item.productID = some product) (positive : 0 < outstanding item)
    (moves : List StockMovement) :
    Restockable (item :: items) db ↔ 0 ≤ product.stock + outstanding item ∧ Restockable items { db with
      products := db.products.modify item.productID (fun p => { p with stock := p.stock + outstanding item })
        (fun _ => rfl)
      stockMovements := moves } := by
  have here : firstOutstanding (item :: items) item.productID = some item :=
    List.find?_cons_of_pos (by simpa using positive)
  have others : ∀ id, id ≠ item.productID → firstOutstanding (item :: items) id = firstOutstanding items id := by
    intro id other
    refine List.find?_cons_of_neg ?_
    simp [Ne.symm other]
  rw [restockable_find, restockable_find]
  constructor
  · intro room
    have enough := room _ product found item here
    refine ⟨enough, fun id later stored line first => ?_⟩
    by_cases same : id = item.productID
    · subst same
      rw [Table.find?_modify_same, found] at stored
      cases stored
      have outstandingLine := List.find?_some first
      exact add_nonneg enough (of_decide_eq_true outstandingLine).2.le
    · rw [Table.find?_modify_other same] at stored
      rw [← others id same] at first
      exact room id later stored line first
  · rintro ⟨enough, room⟩ id later stored line first
    by_cases same : id = item.productID
    · subst same
      rw [found] at stored
      cases stored
      rw [here] at first
      cases first
      exact enough
    · rw [others id same] at first
      exact room id later (by rw [Table.find?_modify_other same, stored]) line first

/-- A restock loop over a table with the products there are. -/
theorem restock_accepts {items : List SaleItem} {db : Store}
    (same : ∀ id, (products.find? id).isSome = (db.products.find? id).isSome) :
    (each (restockLine env saleID products) items).accepts db ↔ Restockable items db := by
  induction items generalizing db with
  | nil => exact iff_of_true ⟨(), [], db, does_each_nil.mpr ⟨rfl, rfl⟩⟩ fun _ _ _ none => nomatch none
  | cons item items ih =>
    change (restockLine env saleID products item >>= fun _ => each (restockLine env saleID products) items).accepts db ↔ _
    have passed : restockLine env saleID products item = (Pure.pure () : DbTx Unit) →
        (∀ product, db.products.find? item.productID = some product → ¬ 0 < outstanding item) →
        ((restockLine env saleID products item >>= fun _ => each (restockLine env saleID products) items).accepts db ↔
          Restockable (item :: items) db) := by
      intro skip unmoved
      rw [skip, restockable_skip unmoved, ← ih same, accepts_bind]
      simp
    cases stocked : products.find? item.productID with
    | none =>
      refine passed (by rw [restockLine, stocked]) fun product found => ?_
      have absent := same item.productID
      rw [stocked, found] at absent
      cases absent
    | some named =>
      by_cases positive : 0 < outstanding item
      · obtain ⟨product, found⟩ := Option.isSome_iff_exists.mp ((same item.productID).symm.trans (by rw [stocked]; rfl))
        have present : ∀ id, (products.find? id).isSome = ((db.products.modify item.productID
            (fun p => { p with stock := p.stock + outstanding item }) (fun _ => rfl)).find? id).isSome := by
          intro id
          rw [same, Table.find?_modify]
          split <;> simp
        rw [restockable_first found positive (db.stockMovements ++ [returnMovement env saleID named item]),
          ← ih present, accepts_bind]
        simp only [restockLine, stocked, when, if_pos positive, does_write_bind, does_write]
        constructor
        · rintro ⟨_, _, _, ⟨_, _, updated, ⟨_, moved⟩, _⟩, rest⟩
          obtain ⟨⟨product', found', enough⟩, rfl⟩ := updateStock_ok updated
          cases moved
          rw [found] at found'
          cases found'
          exact ⟨enough, rest⟩
        · rintro ⟨enough, rest⟩
          exact ⟨(), _, _, ⟨_, _, updateStock_raised found _ enough, ⟨rfl, rfl⟩, rfl⟩, rest⟩
      · refine passed ?_ fun _ _ => positive
        rw [restockLine, stocked]
        exact if_neg positive

end Restock

section Refund

variable {w : Word} {env : Env} {sale : SaleRow} {db : Store}

theorem debtor_remains (id : String) (db : Store) (f : Customer → Customer) (keeps : ∀ c, (f c).id = c.id) :
    (debtOf (db.updateCustomer id f keeps) id).isSome = (debtOf db id).isSome := by
  simp only [debtOf, Store.updateCustomer, Table.find?_modify_same, Option.isSome_map]

theorem refundCredit_accepts (found : (debtOf db sale.customerID).isSome) : (refundCredit w env sale).accepts db := by
  obtain ⟨debt, owed⟩ := Option.isSome_iff_exists.mp found
  obtain ⟨customer, stored, -⟩ := Option.map_eq_some_iff.mp owed
  unfold refundCredit
  rw [accepts_ask_bind, accepts_require_bind]
  refine ⟨customer, stored, ?_⟩
  have paid := (unfailing_payment (refundRow env sale (w.neg (overpaid w customer.debt sale.total)) .cash
    (.plain "استرداد نقدي لمدفوعات آجل")) rfl).mapError (f := refundFailed)
  exact (unfailing_customer _ rfl).bind (fun _ => paid.when.bind fun _ => unfailing_pure) db

theorem refundInstallment_unfailing : Unfailing (refundInstallment w env sale) := by
  have paid := (unfailing_payment (refundRow env sale (w.neg (installmentRefundable w sale)) .cash
    (.plain "استرداد فاتورة أقساط")) rfl).mapError (f := refundFailed)
  exact paid.when.bind fun _ => (unfailing_customer _ rfl).when.bind fun _ => unfailing_pure

theorem refundSplitCredit_unfailing : Unfailing (refundSplitCredit w env sale) := by
  refine Unfailing.bind (Unfailing.when fun db => ?_) fun _ => unfailing_pure
  rw [accepts_ask_bind]
  split
  · exact unfailing_pure db
  · exact (unfailing_customer _ rfl).bind (fun _ => (unfailing_payment _ rfl).when) db

/-- The customer's balances stop a return only when a credit sale's customer is gone. -/
theorem refundCustomer_accepts :
    (refundCustomer w env sale).accepts db ↔ debtorFound sale (debtOf db sale.customerID) := by
  constructor
  · rintro ⟨_, _, _, does⟩
    exact (refundCustomer_does does).1
  · intro found
    unfold refundCustomer
    by_cases anonymous : sale.customerID = ""
    · rw [if_pos anonymous]
      exact unfailing_pure db
    · rw [if_neg anonymous, accepts_write_bind]
      refine ⟨_, rfl, ?_⟩
      rw [accepts_write_bind]
      refine ⟨_, rfl, ?_⟩
      cases kind : sale.paymentMethod with
      | credit =>
        have kept := debtor_remains sale.customerID
        exact refundCredit_accepts ((kept _ _ _).trans ((kept _ _ _).trans (found anonymous kind)))
      | installment => exact refundInstallment_unfailing _
      | split => exact refundSplitCredit_unfailing _
      | cash | card | other => exact unfailing_pure _

theorem refundLedger_unfailing : Unfailing (refundLedger w env sale) := by
  unfold refundLedger
  split
  · exact (unfailing_payment _ rfl).mapError
  · exact (unfailing_payment _ rfl).mapError
  · exact Unfailing.each fun leg _ => (unfailing_payment _ rfl).mapError.when
  · exact unfailing_pure

/-- A stored sale that is not returned yet can be returned when and only when what it
needs of the other tables is there. -/
theorem returnSale_accepts {id : String} {loaded : Sale} (found : db.getSale id = some loaded)
    (live : loaded.status ≠ .returned) :
    (returnSale w env id).accepts db ↔ ReturnCovered db loaded.toSaleRow loaded.items := by
  have same : ∀ {ws : List Write} {middle : Store} {u : Unit},
      Does (each (restockLine env loaded.id db.products) loaded.items) db u ws middle →
        debtOf middle loaded.customerID = debtOf db loaded.customerID := by
    intro ws middle u restock
    rw [debt_replayed restock, restock_does restock]
    exact balance_within.frame (confined_restock _ _ _ _) (by decide) _
  unfold returnSale
  rw [accepts_ask_bind, accepts_require_bind]
  constructor
  · rintro ⟨sale, stored, rest⟩
    rw [found] at stored
    cases stored
    rw [accepts_ensure_bind, accepts_ask_bind, accepts_bind] at rest
    obtain ⟨_, u, ws, middle, restock, rest⟩ := rest
    obtain ⟨_, _, _, customer, _⟩ := accepts_bind.mp rest
    refine ⟨?_, (restock_accepts fun _ => rfl).mp ⟨_, _, _, restock⟩⟩
    rw [← same restock]
    exact (refundCustomer_does customer).1
  · rintro ⟨debtor, stock⟩
    refine ⟨loaded, found, ?_⟩
    rw [accepts_ensure_bind, accepts_ask_bind, accepts_bind]
    have restocked : (each (restockLine env loaded.id db.products) loaded.items).accepts db :=
      (restock_accepts fun _ => rfl).mpr stock
    obtain ⟨u, ws, middle, restock⟩ := restocked
    refine ⟨live, u, ws, middle, restock, ?_⟩
    rw [← same restock] at debtor
    obtain ⟨overpay, front, paidOut, customer⟩ := refundCustomer_accepts.mpr debtor
    refine accepts_bind.mpr ⟨overpay, front, paidOut, customer, ?_⟩
    refine refundLedger_unfailing.bind (fun _ => Unfailing.bind (Unfailing.when ?_) fun _ => ?_) paidOut
    · exact unfailing_write fun db => ⟨_, rfl⟩
    · exact (unfailing_write fun db => ⟨_, rfl⟩).bind fun _ => unfailing_write fun db => ⟨_, rfl⟩

end Refund

section Runs

variable {w : Word} {id : String} {start db : Store}

theorem deleteProduct_keeps (product : String) (db : Store) :
    ((db.deleteProduct product).toOption.getD db).sales = db.sales ∧
      ((db.deleteProduct product).toOption.getD db).saleItems = db.saleItems := by
  unfold Store.deleteProduct
  split
  · exact ⟨rfl, rfl⟩
  · split <;> exact ⟨rfl, rfl⟩

theorem deleteCustomer_keeps (customer : String) (force : Bool) (db : Store) :
    ((db.deleteCustomer customer force).toOption.getD db).sales = db.sales ∧
      ((db.deleteCustomer customer force).toOption.getD db).saleItems = db.saleItems := by
  unfold Store.deleteCustomer
  split
  · exact ⟨rfl, rfl⟩
  · simp only
    split
    · exact ⟨rfl, rfl⟩
    · split <;> exact ⟨rfl, rfl⟩

/-- A later step is an accepted call, or leaves the sales and their lines alone. -/
theorem later_step (c : LaterCall) (db : Store) :
    (∃ env call, c = .call env call ∧ (call.body w env).accepts db) ∨
      (c.next w db).sales = db.sales ∧ (c.next w db).saleItems = db.saleItems := by
  cases c with
  | call env call =>
    by_cases accepted : (call.body w env).accepts db
    · exact .inl ⟨env, call, rfl, accepted⟩
    · have still : (LaterCall.call env call).next w db = db := (commit_rejected accepted).1
      exact .inr ⟨by rw [still], by rw [still]⟩
  | deleteProduct product => exact .inr (deleteProduct_keeps product db)
  | deleteCustomer customer force => exact .inr (deleteCustomer_keeps customer force db)

/-- What accepted calls keep, of the sales and their lines, holds in every later store. -/
theorem later_keeps (invariant : Store → Prop) (later : Later w start db) (begun : invariant start)
    (calls : ∀ {db final ws env} {call : Call}, invariant db → Does (call.body w env) db () ws final → invariant final)
    (elsewhere : ∀ {db final : Store}, final.sales = db.sales → final.saleItems = db.saleItems → invariant db →
      invariant final) : invariant db := by
  induction later with
  | refl => exact begun
  | @next db c _ ih =>
    rcases later_step (w := w) c db with ⟨env, call, rfl, accepted⟩ | ⟨sales, items⟩
    · exact calls ih (does_accepted accepted)
    · exact elsewhere sales items ih
  | elsewhere _ sales items ih => exact elsewhere sales items ih

/-- No later step takes a stored sale away. -/
theorem later_stored (later : Later w start db) (stored : (start.sales.find? id).isSome) : (db.sales.find? id).isSome :=
  later_keeps (fun db => (db.sales.find? id).isSome) later stored
    (fun stored does => sale_remains does.replays stored)
    (fun sales _ stored => by rw [sales]; exact stored)

theorem returnSale_returns {env : Env} (accepted : (returnSale w env id).accepts db) :
    ∃ row, ((returnSale w env id).commit db).sales.find? id = some row ∧ row.status = .returned := by
  have does := does_accepted accepted
  obtain ⟨sale, found, _, _, journal⟩ := returnSale_does does
  obtain ⟨row, stored, rfl⟩ := Option.map_eq_some_iff.mp found
  have replayed := (saleCell id).replay_read does.replays
  rw [journal, returnJournal_row] at replayed
  change ((returnSale w env id).commit db).sales.find? id = _ at replayed
  obtain rfl := Table.find?_key stored
  refine ⟨{ row with status := .returned }, ?_, rfl⟩
  rw [replayed, if_pos rfl]
  change (db.sales.find? row.id).map _ = _
  rw [stored]
  rfl

end Runs

/-- After every run that follows an accepted sale the sale is still stored, and while it is
not returned, a full return succeeds and marks it returned when and only when the customer
of a credit sale still exists and the stock has room. -/
theorem returns_possible (w : Word) (env env' : Env) (actor : Actor) (request : Sale) (start db : Store)
    (sold : (processSaleAs w env actor request).accepts start)
    (later : Later w ((processSaleAs w env actor request).commit start) db) :
    ∃ sale, db.getSale (stampSale env request).id = some sale ∧ (sale.status ≠ .returned →
      (((returnSale w env' (stampSale env request).id).accepts db ∧
        ∃ row, ((returnSale w env' (stampSale env request).id).commit db).sales.find? (stampSale env request).id =
          some row ∧ row.status = .returned) ↔ ReturnCovered db sale.toSaleRow sale.items)) := by
  have does := does_accepted sold
  obtain ⟨_, journal⟩ := processSaleAs_does does
  have created : (((processSaleAs w env actor request).commit start).sales.find? (stampSale env request).id).isSome := by
    have replayed := (saleCell (stampSale env request).id).replay_read does.replays
    have named : (stampSale env request).id = (pricedSale w env start request).id := rfl
    rw [journal, saleJournal_row, if_pos named] at replayed
    exact Option.isSome_iff_exists.mpr ⟨_, replayed⟩
  obtain ⟨row, stored⟩ := Option.isSome_iff_exists.mp (later_stored later created)
  have loaded : db.getSale (stampSale env request).id = some { row with items := db.itemsOf (stampSale env request).id } := by
    rw [Store.getSale, stored]
    rfl
  refine ⟨_, loaded, fun live => ?_⟩
  rw [← returnSale_accepts loaded live]
  exact ⟨And.left, fun accepted => ⟨accepted, returnSale_returns accepted⟩⟩

section Tea

/-- Two teas sold to Ali on credit. -/
def owedTeas : Store := (processSaleAs .exact till sara (teaSale "s1" "ali" .credit none none 2)).commit shop

/-- Ali is deleted although he owes them. -/
def aliGone : Store := (LaterCall.deleteCustomer "ali" true).next .exact owedTeas

/-- Two teas sold for cash, and tea is not sold any more. -/
def teaGone : Store := (LaterCall.deleteProduct "tea").next .exact
  ((processSaleAs .exact till sara (teaSale "s1" "" .cash none none 2)).commit shop)

end Tea

/-- The teas cannot come back any more. -/
theorem returns_possible_gone :
    (processSaleAs .exact till sara (teaSale "s1" "ali" .credit none none 2)).accepts shop ∧
      Later .exact owedTeas aliGone ∧ (∀ row ∈ aliGone.sales.find? "s1", row.status = .pending) ∧
      ¬ (returnSale .exact till "s1").accepts aliGone :=
  ⟨by decide +kernel, .next _ .refl, by decide +kernel, by decide +kernel⟩

theorem returns_possible_tea : (returnSale .exact till "s1").accepts teaGone := by
  have sold : (processSaleAs .exact till sara (teaSale "s1" "" .cash none none 2)).accepts shop := by decide +kernel
  have empty : teaGone.products.rows = [] := by decide +kernel
  have cash : ∀ row ∈ teaGone.sales.find? "s1", row.status ≠ .returned ∧ row.customerID = "" := by decide +kernel
  obtain ⟨sale, loaded, possible⟩ := returns_possible .exact till till sara (teaSale "s1" "" .cash none none 2) shop
    teaGone sold (.next _ .refl)
  obtain ⟨row, stored, rfl⟩ := Option.map_eq_some_iff.mp loaded
  obtain ⟨live, anonymous⟩ := cash row stored
  refine ((possible live).mpr ⟨fun named => absurd anonymous named, ?_⟩).1
  exact restockable_nonneg (by simp [empty]) _

end BeidarPos
