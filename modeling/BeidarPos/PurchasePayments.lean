import BeidarPos.PurchaseJournal

/-! Paying a supplier. An order's paid amount stays between zero and its total as long as
no edit sends another one, and a cancellation gives back what was paid; the balance it
gives it back to was cut at zero by the payments. -/
namespace BeidarPos

open Machine Relational Journal Tx

inductive OrderCall where
  | create (order : PurchaseOrder)
  | update (order : PurchaseOrder)
  | pay (orderID : String) (amount : Int)
  | receive (orderID : String) (items : List PurchaseOrderItem)
  | cancel (id : String)

def OrderCall.body (w : Word) (env : Env) : OrderCall → DepotTx Unit
  | .create order => createPurchaseOrder w env order
  | .update order => updatePurchaseOrder w order
  | .pay orderID amount => payPurchaseOrder w orderID amount
  | .receive orderID items => receivePurchaseOrder env orderID items
  | .cancel id => cancelPurchaseOrder w id

/-- What was paid is between nothing and the whole, and the whole is a stored number. -/
structure Funded (w : Word) (row : PurchaseOrderRow) : Prop where
  nonneg : 0 ≤ row.paidAmount
  le : row.paidAmount ≤ row.totalAmount
  fits : w.fits row.totalAmount

def OrdersFunded (w : Word) (d : Depot) : Prop := ∀ id row, d.purchaseOrders.find? id = some row → Funded w row

/-- The amounts a call brings: the lines' total does not fall below zero, and an edit
claims no payment below zero or above that total. -/
def OrderCall.fundable (w : Word) : OrderCall → Prop
  | .create order => 0 ≤ orderTotal w order.items
  | .update order => 0 ≤ order.paidAmount ∧ order.paidAmount ≤ orderTotal w order.items
  | _ => True

/-- The depots reached from one without orders by calls that bring such amounts.
`elsewhere` is any change outside the order rows. -/
inductive FundedRun (w : Word) : Depot → Prop
  | start (d : Depot) : d.purchaseOrders.rows = [] → FundedRun w d
  | call {d final : Depot} {ws : List DepotWrite} (env : Env) (c : OrderCall) :
    FundedRun w d → c.fundable w → Does (c.body w env) d () ws final → FundedRun w final
  | elsewhere {d final : Depot} : FundedRun w d → final.purchaseOrders = d.purchaseOrders → FundedRun w final

theorem orderTotal_fits (w : Word) (items : List PurchaseOrderItem) : w.fits (orderTotal w items) := by
  have sum : ∀ total, w.fits total →
      w.fits (items.foldl (fun total item => w.add total (orderItemTotal w item)) total) := by
    induction items with
    | nil => exact fun _ fits => fits
    | cons item items ih => exact fun total _ => ih _ (w.fits_wrap _)
  exact sum 0 w.fits_zero

variable {w : Word} {env : Env} {d final : Depot} {ws : List DepotWrite}

theorem row_replayed {x : DepotTx α} (h : Does x d a ws final) (id : String) :
    final.purchaseOrders.find? id = (orderRowCell id).steps ws (d.purchaseOrders.find? id) :=
  (orderRowCell id).replay_read h.replays

theorem balance_replayed {x : DepotTx α} (h : Does x d a ws final) (supplierID : String) :
    balanceOf supplierID final = (supplierBalanceCell supplierID).steps ws (balanceOf supplierID d) :=
  (supplierBalanceCell supplierID).replay_read h.replays

/-- Receiving changes at most when and how far the order was received. -/
theorem received_row {order : PurchaseOrder} {orderID : String} {products : Table Product.id}
    {items : List PurchaseOrderItem} {start state : Receiving} {id : String} {o : Option PurchaseOrderRow}
    {row : PurchaseOrderRow}
    (found : (orderRowCell id).steps (receiveWrites env orderID products items start ++ receiptWrites env order state) o
      = some row) :
    o = some row ∨ (id = order.id ∧ row.paidAmount = order.paidAmount ∧ row.totalAmount = order.totalAmount) := by
  rw [Cell.steps_append, receiveWrites_frame (fun _ _ => rfl) (fun _ _ _ => rfl)] at found
  have stamped : ∀ status receivedAt, (orderRowCell id).steps
      [.updatePurchaseOrder { order with status := status, receivedAt := receivedAt }] o = some row →
      o = some row ∨ (id = order.id ∧ row.paidAmount = order.paidAmount ∧ row.totalAmount = order.totalAmount) := by
    intro status receivedAt written
    simp only [Cell.steps_cons, Cell.steps_nil, orderRowCell, orderRowStep] at written
    split at written
    · rename_i same
      obtain ⟨_, _, rfl⟩ := Option.map_eq_some_iff.mp written
      exact .inr ⟨same, rfl, rfl⟩
    · exact .inl written
  unfold receiptWrites at found
  split at found
  · exact stamped _ _ found
  · split at found
    · exact stamped _ _ found
    · exact .inl found

/-- An accepted payment adds exactly its amount, and that stays within the total. -/
theorem PaymentFacts.paid {orderID : String} {amount : Int} {order : PurchaseOrder}
    (facts : PaymentFacts w d orderID amount order) (funded : Funded w order.toPurchaseOrderRow) :
    w.add order.paidAmount amount = order.paidAmount + amount ∧ order.paidAmount + amount ≤ order.totalAmount := by
  have covered := facts.covered
  rw [w.sub_of_le funded.fits funded.nonneg funded.le] at covered
  have le : order.paidAmount + amount ≤ order.totalAmount := by omega
  have low := funded.nonneg
  have positive := facts.positive
  exact ⟨w.wrap_of_fits _ (w.fits_between 0 order.totalAmount _ w.fits_zero funded.fits (by omega) le), le⟩

/-- Every accepted call that brings such amounts leaves every order funded. -/
theorem call_keeps_funded {c : OrderCall} (funded : OrdersFunded w d) (fundable : c.fundable w)
    (h : Does (c.body w env) d () ws final) : OrdersFunded w final := by
  intro id row found
  rw [row_replayed h] at found
  cases c with
  | create order =>
    obtain ⟨_, _, _, rfl⟩ := createPurchaseOrder_does h
    simp only [Cell.steps_cons, Cell.steps_nil, orderRowCell, orderRowStep] at found
    split at found
    · cases found
      exact ⟨le_rfl, fundable, orderTotal_fits w order.items⟩
    · exact funded id row found
  | update order =>
    obtain ⟨existing, _, _, _, rfl⟩ := updatePurchaseOrder_does h
    simp only [Cell.steps_cons, Cell.steps_nil, orderRowCell, orderRowStep] at found
    split at found
    · obtain ⟨_, _, rfl⟩ := Option.map_eq_some_iff.mp found
      exact ⟨fundable.1, fundable.2, orderTotal_fits w order.items⟩
    · exact funded id row found
  | pay orderID amount =>
    obtain ⟨order, facts, rfl⟩ := payPurchaseOrder_does h
    obtain ⟨stored, _, rfl⟩ := getPurchaseOrder_row facts.loaded
    simp only [Cell.steps_cons, Cell.steps_nil, orderRowCell, orderRowStep] at found
    split at found
    · obtain ⟨_, _, rfl⟩ := Option.map_eq_some_iff.mp found
      have before := funded _ _ stored
      obtain ⟨added, le⟩ := facts.paid before
      have low := before.nonneg
      have positive := facts.positive
      refine ⟨?_, ?_, before.fits⟩
      · simp only [added]; omega
      · simpa only [added] using le
    · exact funded id row found
  | receive orderID items =>
    obtain ⟨order, facts, rfl⟩ := receivePurchaseOrder_does h
    obtain ⟨stored, _, rfl⟩ := getPurchaseOrder_row facts.loaded
    rcases received_row found with same | ⟨_, paid, total⟩
    · exact funded id row same
    · have before := funded _ _ stored
      exact ⟨paid ▸ before.nonneg, paid ▸ total ▸ before.le, total ▸ before.fits⟩
  | cancel orderID =>
    obtain ⟨order, loaded, _, rfl⟩ := cancelPurchaseOrder_does h
    obtain ⟨stored, _, rfl⟩ := getPurchaseOrder_row loaded
    have reverted : ∀ o, (orderRowCell id).steps (revertWrites w order.toPurchaseOrderRow) o = o := by
      intro o
      unfold revertWrites
      split <;> rfl
    rw [Cell.steps_append, reverted] at found
    simp only [Cell.steps_cons, Cell.steps_nil, orderRowCell, orderRowStep] at found
    split at found
    · obtain ⟨_, _, rfl⟩ := Option.map_eq_some_iff.mp found
      have before := funded _ _ stored
      exact ⟨before.nonneg, before.le, before.fits⟩
    · exact funded id row found

theorem FundedRun.funded (run : FundedRun w d) : OrdersFunded w d := by
  induction run with
  | start d empty =>
    intro id row found
    have member := Table.find?_mem found
    rw [empty] at member
    cases member
  | call env c _ fundable does ih => exact call_keeps_funded ih fundable does
  | elsewhere _ same ih =>
    intro id row found
    rw [same] at found
    exact ih id row found

/-- Accepted payments on one order, one after the other. -/
inductive PaidInTurn (w : Word) (orderID : String) : Depot → List Int → Depot → Prop
  | nil (d : Depot) : PaidInTurn w orderID d [] d
  | cons {d middle final : Depot} {ws : List DepotWrite} {amount : Int} {amounts : List Int} :
    Does (payPurchaseOrder w orderID amount) d () ws middle → PaidInTurn w orderID middle amounts final →
    PaidInTurn w orderID d (amount :: amounts) final

/-- What is owed after a sum was paid. -/
def owedAfter (balance paid : Int) : Int := max 0 (balance - paid)

theorem clampSub_eq (balance amount : Int) : clampSub balance amount = owedAfter balance amount := by
  unfold clampSub owedAfter
  split <;> omega

/-- The row with one more payment on it. -/
def PurchaseOrderRow.paying (amount : Int) (row : PurchaseOrderRow) : PurchaseOrderRow :=
  { row with paidAmount := row.paidAmount + amount }

theorem PurchaseOrderRow.paying_paying (first second : Int) (row : PurchaseOrderRow) :
    (row.paying first).paying second = row.paying (first + second) := by
  simp [PurchaseOrderRow.paying, add_assoc]

/-- One payment: the order has it, and the balance is cut by it. -/
theorem payment_step {orderID : String} {amount : Int} {row : PurchaseOrderRow}
    (h : Does (payPurchaseOrder w orderID amount) d () ws final) (stored : d.purchaseOrders.find? orderID = some row)
    (funded : Funded w row) :
    0 < amount ∧ Funded w (row.paying amount) ∧ final.purchaseOrders.find? orderID = some (row.paying amount) ∧
      ∀ balance, balanceOf row.supplierID d = some balance →
        balanceOf row.supplierID final = some (owedAfter balance amount) := by
  have replayed := row_replayed h orderID
  have owed := balance_replayed h row.supplierID
  obtain ⟨order, facts, rfl⟩ := payPurchaseOrder_does h
  obtain ⟨found, _, rfl⟩ := getPurchaseOrder_row facts.loaded
  rw [stored] at found
  cases found
  obtain ⟨added, le⟩ := facts.paid funded
  have low := funded.nonneg
  have positive := facts.positive
  refine ⟨positive, ⟨?_, le, funded.fits⟩, ?_, ?_⟩
  · simp only [PurchaseOrderRow.paying]
    omega
  · simpa [orderRowCell, orderRowStep, stored, added, PurchaseOrderRow.paying] using replayed
  · intro balance before
    rw [before] at owed
    simpa [supplierBalanceCell, supplierBalanceStep, clampSub_eq] using owed

theorem owedAfter_owedAfter {balance first second : Int} (positive : 0 < second) :
    owedAfter (owedAfter balance first) second = owedAfter balance (first + second) := by
  unfold owedAfter
  omega

/-- After some payments, the order has their sum and the balance was cut at zero. -/
theorem payments_run {orderID : String} {amounts : List Int} {row : PurchaseOrderRow} {balance : Int}
    (paid : PaidInTurn w orderID d amounts final) (made : amounts ≠ [])
    (stored : d.purchaseOrders.find? orderID = some row) (funded : Funded w row)
    (before : balanceOf row.supplierID d = some balance) :
    0 < amounts.sum ∧ Funded w (row.paying amounts.sum) ∧
      final.purchaseOrders.find? orderID = some (row.paying amounts.sum) ∧
      balanceOf row.supplierID final = some (owedAfter balance amounts.sum) := by
  induction paid generalizing row balance with
  | nil => exact absurd rfl made
  | @cons d middle final _ amount amounts first rest ih =>
    obtain ⟨positive, next, row', owed⟩ := payment_step first stored funded
    rw [List.sum_cons]
    by_cases last : amounts = []
    · subst last
      cases rest
      simpa using ⟨positive, next, row', owed balance before⟩
    · obtain ⟨more, next', row'', owed'⟩ := ih last row' next (owed balance before)
      rw [PurchaseOrderRow.paying_paying] at next' row''
      rw [owedAfter_owedAfter more] at owed'
      exact ⟨by omega, next', row'', owed'⟩

/-- The cancellation of an order that was paid gives the whole paid amount back. -/
theorem cancellation_step {orderID : String} {row : PurchaseOrderRow} {balance : Int}
    (negates : ∀ x, 0 ≤ x → w.fits x → w.fits (-x)) (h : Does (cancelPurchaseOrder w orderID) d () ws final)
    (stored : d.purchaseOrders.find? orderID = some row) (funded : Funded w row) (paid : 0 < row.paidAmount)
    (before : balanceOf row.supplierID d = some balance) :
    balanceOf row.supplierID final =
      some (if row.supplierID = "" then balance else owedAfter balance (-row.paidAmount)) := by
  have owed := balance_replayed h row.supplierID
  obtain ⟨order, loaded, _, rfl⟩ := cancelPurchaseOrder_does h
  obtain ⟨found, _, rfl⟩ := getPurchaseOrder_row loaded
  rw [stored] at found
  cases found
  have fits := w.fits_between 0 order.totalAmount _ w.fits_zero funded.fits funded.nonneg funded.le
  have back : w.neg order.paidAmount = -order.paidAmount :=
    w.wrap_of_fits _ (negates _ funded.nonneg fits)
  rw [before] at owed
  by_cases unnamed : order.supplierID = ""
  · simpa [revertWrites, unnamed, supplierBalanceCell, supplierBalanceStep] using owed
  · simpa [revertWrites, unnamed, paid, back, supplierBalanceCell, supplierBalanceStep, clampSub_eq] using owed

/-- When a cancellation undoes payments: nothing was paid before them and the balance
covers them all, or there is neither a supplier to name nor anything owed. -/
def Undone (row : PurchaseOrderRow) (balance paid : Int) : Prop :=
  (row.supplierID ≠ "" ∧ row.paidAmount = 0 ∧ paid ≤ balance) ∨ (row.supplierID = "" ∧ balance = 0)

instance (row : PurchaseOrderRow) (balance paid : Int) : Decidable (Undone row balance paid) :=
  inferInstanceAs (Decidable (_ ∨ _))

theorem undone_iff {row : PurchaseOrderRow} {balance paid : Int} (nonneg : 0 ≤ row.paidAmount) (positive : 0 < paid) :
    (if row.supplierID = "" then owedAfter balance paid
      else owedAfter (owedAfter balance paid) (-(row.paidAmount + paid))) = balance ↔ Undone row balance paid := by
  unfold Undone owedAfter
  by_cases unnamed : row.supplierID = ""
  · simp only [unnamed, if_true, ne_eq, not_true_eq_false, false_and, true_and, false_or]
    omega
  · simp only [unnamed, if_false, ne_eq, not_false_eq_true, true_and, false_and, or_false]
    omega

/-- In every run whose calls bring such amounts, every order has been paid between
nothing and its total; and from each state of it, payments on an order and then its
cancellation leave the supplier's balance as it was in exactly the undone case. -/
theorem supplier_balance_after_cancellation (w : Word) (negates : ∀ x, 0 ≤ x → w.fits x → w.fits (-x)) (d : Depot)
    (run : FundedRun w d) :
    (∀ id row, d.purchaseOrders.find? id = some row → 0 ≤ row.paidAmount ∧ row.paidAmount ≤ row.totalAmount) ∧
    ∀ orderID row amounts paid env ws cancelled balance,
      d.purchaseOrders.find? orderID = some row → amounts ≠ [] → PaidInTurn w orderID d amounts paid →
      Does ((OrderCall.cancel orderID).body w env) paid () ws cancelled → balanceOf row.supplierID d = some balance →
      (balanceOf row.supplierID cancelled = some balance ↔ Undone row balance amounts.sum) := by
  refine ⟨fun id row found => ⟨(run.funded id row found).nonneg, (run.funded id row found).le⟩, ?_⟩
  intro orderID row amounts paid env ws cancelled balance stored made payments cancel before
  have funded := run.funded orderID row stored
  obtain ⟨positive, funded', stored', owed⟩ := payments_run payments made stored funded before
  have low := funded.nonneg
  have sum : 0 < (row.paying amounts.sum).paidAmount := by
    simp only [PurchaseOrderRow.paying]
    omega
  have given := cancellation_step negates cancel stored' funded' sum owed
  rw [show (row.paying amounts.sum).supplierID = row.supplierID from rfl] at given
  rw [given, Option.some_inj]
  exact undone_iff funded.nonneg positive

section Supplies

def orderStep (w : Word) (step : Env × OrderCall) : DepotTx Unit := step.2.body w step.1

def morning : Env := ⟨"2026-01-01", 0, 0, "11112222", fun _ => .stored⟩

/-- One supplier who is owed the given balance, and no orders. -/
def supplied (balance : Int) : Depot := ⟨.empty, ⟨[⟨"s", "Samir", "", "", "", "", balance⟩], by simp⟩, .empty, .empty⟩

def teaOrder : PurchaseOrder :=
  ⟨⟨"", "s", "", .pending, 0, 0, "", 0, 0⟩, [⟨0, "", "tea", "Tea", 10, 0, 500, 0⟩]⟩

def ordered : List (Env × OrderCall) := [(morning, .create teaOrder)]

/-- The same order, edited into one that was paid more than its total. -/
def overpaidEdit : Env × OrderCall :=
  (morning, .update { teaOrder with id := "PO-11112222", paidAmount := 9000 })

end Supplies

/-- A payment on nothing owed comes back as a credit, and an edit passes the total. -/
theorem cancellation_leaves_credit :
    (¬ ∀ calls orderID amount start, let d := after (orderStep .int64) calls start
      let paid := (payPurchaseOrder .int64 orderID amount).commit d
      (payPurchaseOrder .int64 orderID amount).accepts d → (cancelPurchaseOrder .int64 orderID).accepts paid →
      ∀ row ∈ d.purchaseOrders.find? orderID,
        balanceOf row.supplierID ((cancelPurchaseOrder .int64 orderID).commit paid) = balanceOf row.supplierID d) ∧
    ¬ ∀ calls start, start.purchaseOrders.rows = [] →
      ∀ row ∈ (after (orderStep .int64) calls start).purchaseOrders.rows, row.paidAmount ≤ row.totalAmount := by
  constructor
  · intro restores
    have restored := restores ordered "PO-11112222" 5000 (supplied 0) (by decide +kernel) (by decide +kernel)
    have differs : ¬ ∀ row ∈ (after (orderStep .int64) ordered (supplied 0)).purchaseOrders.find? "PO-11112222",
        balanceOf row.supplierID ((cancelPurchaseOrder .int64 "PO-11112222").commit
          ((payPurchaseOrder .int64 "PO-11112222" 5000).commit (after (orderStep .int64) ordered (supplied 0)))) =
        balanceOf row.supplierID (after (orderStep .int64) ordered (supplied 0)) := by decide +kernel
    exact differs restored
  · intro bounded
    have within := bounded (ordered ++ [overpaidEdit]) (supplied 0) rfl
    have exceeds : ¬ ∀ row ∈ (after (orderStep .int64) (ordered ++ [overpaidEdit]) (supplied 0)).purchaseOrders.rows,
        row.paidAmount ≤ row.totalAmount := by decide +kernel
    exact exceeds within

/-- With enough owed before, the payment is undone. -/
theorem supplier_balance_samir : balanceOf "s" ((cancelPurchaseOrder .int64 "PO-11112222").commit
    ((payPurchaseOrder .int64 "PO-11112222" 2000).commit (after (orderStep .int64) ordered (supplied 9000)))) =
    some 9000 := by
  have negates : ∀ x, 0 ≤ x → Word.int64.fits x → Word.int64.fits (-x) := by
    intro x nonneg fits
    simp only [Word.int64] at fits ⊢
    omega
  have created : Does ((OrderCall.create teaOrder).body .int64 morning) (supplied 9000) () _ _ :=
    does_accepted (by decide +kernel)
  have run : FundedRun .int64 (after (orderStep .int64) ordered (supplied 9000)) :=
    .call morning (.create teaOrder) (.start _ rfl) (by decide +kernel : 0 ≤ orderTotal .int64 teaOrder.items) created
  have paid : PaidInTurn .int64 "PO-11112222" (after (orderStep .int64) ordered (supplied 9000)) [2000] _ :=
    .cons (does_accepted (by decide +kernel)) (.nil _)
  have cancelled : Does ((OrderCall.cancel "PO-11112222").body .int64 morning)
      ((payPurchaseOrder .int64 "PO-11112222" 2000).commit (after (orderStep .int64) ordered (supplied 9000))) () _ _ :=
    does_accepted (by decide +kernel)
  have stored : ∃ row, (after (orderStep .int64) ordered (supplied 9000)).purchaseOrders.find? "PO-11112222" =
      some row ∧ row.supplierID = "s" ∧ Undone row 9000 2000 := by
    refine ⟨(newOrder .int64 morning ((supplied 9000).suppliers.find? "s") teaOrder).toPurchaseOrderRow, ?_, ?_, ?_⟩
    · decide +kernel
    · rfl
    · decide +kernel
  obtain ⟨row, found, named, undone⟩ := stored
  have before : balanceOf row.supplierID (after (orderStep .int64) ordered (supplied 9000)) = some 9000 := by
    rw [named]
    decide +kernel
  have restored := (supplier_balance_after_cancellation .int64 negates _ run).2 _ row [2000] _ morning _ _ 9000 found
    (by simp) paid cancelled before
  rw [← named]
  exact restored.mpr undone

end BeidarPos
