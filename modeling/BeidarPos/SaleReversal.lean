import BeidarPos.ReturnCash
import BeidarPos.ReturnLimits
import BeidarPos.ReturnsPossible

/-! A sale and its full return with nothing in between. The return has its own switches on
the payment method, so what it takes back is compared with what the sale put on the shift,
the customer and the stock. -/
namespace BeidarPos

open Machine Relational Journal Tx Rounding

/-- The methods whose full return pays out the whole invoice and leaves no debt to settle:
cash, card, a plan that is all down payment, and legs of cash and card. -/
def PaidOut (sale : SaleRow) : Prop :=
  match sale.paymentMethod with
  | .cash | .card => True
  | .installment => ∃ plan ∈ sale.installmentPlan, plan.downPayment = sale.total
  | .split => ∃ split ∈ sale.splitDetails, split.get .cash + split.get .card = sale.total
  | .credit | .other _ _ => False

/-- A clamped subtraction undoes an addition of no less when they are the same amount, of
a number that is not below zero. -/
theorem clampSub_undoes {before added taken : Int} (bounded : taken ≤ added) :
    clampSub (before + added) taken = before ↔ taken = added ∧ 0 ≤ before := by
  unfold clampSub
  split <;> omega

section Legs

variable {sale : SaleRow} {split : SplitDetails}

/-- Before the first return each leg remains as it was paid. -/
theorem CoveredSplit.remaining_whole (h : CoveredSplit sale split) (whole : split.total = sale.total)
    (pick : MapOrder) (m : PaymentMethod) : (legOf (saleRemainingLegs .exact pick sale) m).getD 0 = split.get m := by
  have legs : ∀ leg ∈ split.legs, 0 ≤ leg.2 := h.legs
  rcases lt_or_ge 0 split.total with positive | worthless
  · have scaled : scaledLegs .exact sale.total split.total split = split.legs.filter fun leg => 0 < leg.2 := by
      rw [h.scaledLegs_eq positive, ← whole]
      conv_rhs => rw [← List.map_id (split.legs.filter fun leg => 0 < leg.2)]
      refine List.map_congr_left fun leg _ => ?_
      rw [share_whole positive.ne']
      rfl
    have nothing : CoveredSplit.remainder sale split = 0 := by
      rw [CoveredSplit.remainder, scaled, h.filter_sum]
      omega
    rw [h.remaining_eq positive, nothing, if_neg (lt_irrefl 0), scaled, legOf,
      Keyed.valueOf_filter (fun amount : Int => 0 < amount) split.distinct]
    unfold SplitDetails.get legOf
    cases named : Keyed.valueOf split.legs m with
    | none => rfl
    | some amount =>
      have low : 0 ≤ amount := legs _ (Keyed.valueOf_mem named)
      rw [Option.filter_some]
      split
      · rfl
      · rename_i unpaid
        simp only [decide_eq_true_eq] at unpaid
        simp only [Option.getD_none, Option.getD_some]
        omega
  · rw [h.remaining_worthless worthless]
    have within : split.get m ≤ split.total := by
      unfold SplitDetails.get
      have amounts : ∀ amount ∈ split.legs.map Prod.snd, 0 ≤ amount := by
        intro amount member
        obtain ⟨leg, inside, rfl⟩ := List.mem_map.mp member
        exact legs leg inside
      cases named : legOf split.legs m with
      | none => exact List.sum_nonneg amounts
      | some amount =>
        exact List.single_le_sum amounts _ (List.mem_map.mpr ⟨_, Keyed.valueOf_mem named, rfl⟩)
    have low := SplitDetails.get_nonneg legs m
    have nothing : (legOf [] m).getD 0 = 0 := rfl
    omega

/-- No three methods were paid more than the legs make up. -/
theorem three_legs_le (legs : ∀ leg ∈ split.legs, 0 ≤ leg.2) :
    split.get .cash + split.get .card + split.get .credit ≤ split.total := by
  have at_key := fun m : PaymentMethod => Keyed.sum_at (k := m) (fun a : Int => a) split.distinct
  have cash := at_key .cash
  have card := at_key .card
  have credit := at_key .credit
  rw [Option.map_id'] at cash card credit
  unfold SplitDetails.get legOf SplitDetails.total
  rw [← cash, ← card, ← credit, ← List.sum_map_add, ← List.sum_map_add]
  refine List.sum_le_sum fun leg member => ?_
  have low := legs leg member
  rcases hm : leg.1 <;> simp [low]

end Legs

section Customer

variable {env : Env} {sale : SaleRow}

/-- The customer's row as the sale leaves it. -/
def charged (env : Env) (sale : SaleRow) (c : Customer) : Customer :=
  c.incrementPurchasesAndDebt sale.total sale.pointsAwarded (debtIncrease sale) (installmentDebtIncrease .exact sale)
    env.date

/-- The customer's row as the full return leaves it. -/
def reverted (env : Env) (sale : SaleRow) (c : Customer) : Customer :=
  let c := (c.decrementPurchases sale.total).adjustPoints (-Amount.div .exact sale.total 1000)
  match sale.paymentMethod with
  | .credit => c.decrementDebt sale.total
  | .installment =>
    if 0 < installmentOutstanding .exact sale then c.decrementInstallmentDebt (installmentOutstanding .exact sale) else c
  | .split => if 0 < creditRemaining .exact env sale then c.decrementDebt (creditRemaining .exact env sale) else c
  | _ => c

theorem charge_customer (named : sale.customerID ≠ "") (c : Customer) :
    (customerCell sale.customerID).steps (chargeWrites .exact env sale) (some c) = some (charged env sale c) := by
  simp [chargeWrites, named, customerCell, Write.customer, Write.onCustomer, charged]

theorem debtRefund_customer (debt amount : Int) (note : Text) (c : Customer) :
    (customerCell sale.customerID).steps (debtRefundWrites .exact env sale debt amount note) (some c) =
      some (c.decrementDebt amount) := by
  rw [debtRefundWrites, Cell.steps_cons, (customer_within sale.customerID).frame (confined_rowFor _ _) (by decide)]
  exact if_pos rfl

theorem balance_customer (named : sale.customerID ≠ "") (c : Customer) :
    (customerCell sale.customerID).steps (balanceWrites .exact env sale (some c.debt)) (some c) =
      some (reverted env sale c) := by
  have points : (customerCell sale.customerID).steps [.decrementPurchases sale.customerID sale.total,
      .adjustPoints sale.customerID (Word.exact.neg (Amount.div .exact sale.total 1000))] (some c) =
      some ((c.decrementPurchases sale.total).adjustPoints (-Amount.div .exact sale.total 1000)) := by
    simp [customerCell, Write.customer, Write.onCustomer]
  unfold balanceWrites
  rw [if_neg named, Cell.steps_append, points]
  cases kind : sale.paymentMethod with
  | credit => simp only [debtRefund_customer, reverted, kind]
  | installment =>
    simp only [installmentRefundWrites, Cell.steps_append, reverted, kind]
    rw [(customer_within sale.customerID).frame (confined_rowFor _ _) (by decide)]
    unfold installmentDebtWrites
    split
    · exact if_pos rfl
    · rfl
  | split =>
    simp only [splitCreditWrites, reverted, kind]
    split
    · exact debtRefund_customer _ _ _ _
    · rfl
  | cash | card | other => simp [reverted, kind]

/-- The balances a sale moves are the same. -/
structure SameBalances (c after : Customer) : Prop where
  purchases : after.totalPurchases = c.totalPurchases
  points : after.points = c.points
  debt : after.debt = c.debt
  installmentDebt : after.installmentDebt = c.installmentDebt

end Customer

section Methods

variable {env env' : Env} {db : Store} {request : Sale} {sale : SaleRow} {debt : Option Int} {c : Customer}

/-- The row of an accepted sale, and what it was checked for. -/
structure SoldRow (env : Env) (sale : SaleRow) : Prop where
  payable : Payable env sale
  valid : ValidSale sale
  plan : sale.paymentMethod = .installment → ∀ plan, sale.installmentPlan = some plan → CheckedPlan .exact sale plan
  points : sale.customerID ≠ "" → sale.pointsAwarded = Amount.div .exact sale.total 1000

theorem soldRow (facts : SaleFacts .exact env db request) : SoldRow env (pricedSale .exact env db request).toSaleRow :=
  ⟨facts.payable, priced_valid facts, facts.plan, fun named => if_pos named⟩

/-- What was paid of a plan is no more than what its schedule comes to. -/
theorem CheckedPlan.paid {plan : InstallmentPlan} (checked : CheckedPlan .exact sale plan) :
    0 ≤ paidSum .exact plan ∧ paidSum .exact plan ≤ sale.total - plan.downPayment := by
  refine ⟨paidSum_nonneg checked.amounts, ?_⟩
  have bounded := checked.bounded
  rw [paidSum_exact]
  cases scheduled : plan.schedule with
  | none =>
    simp only [InstallmentPlan.entries, scheduled, Option.getD_none, List.map_nil, List.sum_nil]
    omega
  | some schedule =>
    have sum := checked.complete schedule scheduled
    rw [Word.exact_foldl, Int.zero_add, Word.exact_sub] at sum
    have amounts := checked.amounts
    simp only [InstallmentPlan.entries, scheduled, Option.getD_some] at amounts ⊢
    rw [← sum]
    refine List.sum_le_sum fun inst member => ?_
    have := amounts inst member
    unfold paidAmount
    split <;> omega

theorem SoldRow.covered (sold : SoldRow env sale) (kind : sale.paymentMethod = .split) {split : SplitDetails}
    (details : sale.splitDetails = some split) : CoveredSplit sale split ∧ split.total = sale.total :=
  ⟨sold.valid.coveredSplit kind details, split_complete (sold.payable.split kind split details)⟩

/-- A split sale passes its cash and card legs to the shift. -/
theorem split_refund (sold : SoldRow env sale) (kind : sale.paymentMethod = .split) {split : SplitDetails}
    (details : sale.splitDetails = some split) :
    shiftRefund .exact env' sale (creditOverpay .exact sale debt) =
      (split.get .cash + split.get .card, split.get .cash) := by
  obtain ⟨covered, whole⟩ := sold.covered kind details
  have none : creditOverpay .exact sale debt = 0 := by simp [creditOverpay, kind]
  simp [shiftRefund, kind, none, covered.remaining_whole whole]

theorem installment_refund {plan : InstallmentPlan} (kind : sale.paymentMethod = .installment)
    (planned : sale.installmentPlan = some plan) (overpay : Int) :
    shiftRefund .exact env' sale overpay =
      (plan.downPayment + paidSum .exact plan, plan.downPayment + paidSum .exact plan) := by
  simp [shiftRefund, kind, installmentRefundable, planned]

/-- What the return takes off the shift is what the sale put there. -/
theorem PaidOut.refund (env' : Env) (debt : Option Int) (paid : PaidOut sale) (sold : SoldRow env sale) :
    shiftRefund .exact env' sale (creditOverpay .exact sale debt) = (sale.total, saleCash sale) := by
  unfold PaidOut at paid
  cases kind : sale.paymentMethod with
  | cash => simp [shiftRefund, saleCash, kind]
  | card => simp [shiftRefund, saleCash, kind]
  | installment =>
    simp only [kind] at paid
    obtain ⟨plan, planned, down⟩ := paid
    have planned : sale.installmentPlan = some plan := planned
    have bounds := (sold.plan kind plan planned).paid
    have nothing : paidSum .exact plan = 0 := by omega
    rw [installment_refund kind planned, nothing, Int.add_zero, down]
    simp [saleCash, kind, planned, down]
  | split =>
    simp only [kind] at paid
    obtain ⟨split, details, whole⟩ := paid
    have details : sale.splitDetails = some split := details
    rw [split_refund sold kind details, whole]
    simp [saleCash, kind, details]
  | credit => simp [kind] at paid
  | other => simp [kind] at paid

/-- Nothing of the invoice was owed. -/
theorem PaidOut.debts (paid : PaidOut sale) (sold : SoldRow env sale) :
    debtIncrease sale = 0 ∧ installmentDebtIncrease .exact sale = 0 ∧
      ∀ c, reverted env' sale c = (c.decrementPurchases sale.total).adjustPoints (-Amount.div .exact sale.total 1000) := by
  unfold PaidOut at paid
  cases kind : sale.paymentMethod with
  | cash | card => simp [debtIncrease, installmentDebtIncrease, reverted, kind]
  | installment =>
    simp only [kind] at paid
    obtain ⟨plan, planned, down⟩ := paid
    have planned : sale.installmentPlan = some plan := planned
    have bounds := (sold.plan kind plan planned).paid
    have settled : ¬ 0 < installmentOutstanding .exact sale := by
      simp only [installmentOutstanding, planned, Word.exact_sub]
      omega
    simp [debtIncrease, installmentDebtIncrease, reverted, kind, planned, down, settled]
  | split =>
    simp only [kind] at paid
    obtain ⟨split, details, whole⟩ := paid
    have details : sale.splitDetails = some split := details
    obtain ⟨covered, total⟩ := sold.covered kind details
    have none : split.get .credit = 0 := by
      have low := SplitDetails.get_nonneg covered.legs .credit
      have high := three_legs_le covered.legs
      omega
    have settled : creditRemaining .exact env' sale = 0 := (covered.remaining_whole total _ .credit).trans none
    simp [debtIncrease, installmentDebtIncrease, reverted, kind, details, none, settled]
  | credit => simp [kind] at paid
  | other => simp [kind] at paid

/-- A customer who owes nothing for the sale has the balances of before, when they were not
below zero. -/
theorem PaidOut.balances (paid : PaidOut sale) (sold : SoldRow env sale) (named : sale.customerID ≠ "") :
    SameBalances c (reverted env' sale (charged env sale c)) ↔
      0 ≤ c.totalPurchases ∧ (0 ≤ c.points ∨ sale.pointsAwarded = 0) := by
  obtain ⟨debt, installmentDebt, same⟩ := @PaidOut.debts env env' sale paid sold
  have nonneg := div_nonneg_exact sold.payable.nonneg (show 0 < 1000 by decide)
  have awarded := sold.points named
  have purchases := @clampSub_undoes c.totalPurchases sale.total sale.total le_rfl
  have points := @clampSub_undoes c.points _ _ (le_refl (Amount.div .exact sale.total 1000))
  rw [same]
  constructor
  · intro kept
    refine ⟨(purchases.mp kept.purchases).2, ?_⟩
    by_cases none : sale.pointsAwarded = 0
    · exact .inr none
    · have back := kept.points
      have some : ¬ 0 ≤ -Amount.div .exact sale.total 1000 := by omega
      simp only [Customer.adjustPoints, Customer.decrementPurchases, charged, Customer.incrementPurchasesAndDebt, some,
        if_false, neg_neg, awarded] at back
      exact .inl (points.mp back).2
  · rintro ⟨low, given⟩
    refine ⟨purchases.mpr ⟨rfl, low⟩, ?_, ?_, ?_⟩
    · simp only [Customer.adjustPoints, Customer.decrementPurchases, charged, Customer.incrementPurchasesAndDebt, awarded,
        neg_neg]
      split
      · omega
      · rcases given with low | none
        · exact points.mpr ⟨rfl, low⟩
        · omega
    · simp [Customer.adjustPoints, Customer.decrementPurchases, charged, Customer.incrementPurchasesAndDebt, debt]
    · simp [Customer.adjustPoints, Customer.decrementPurchases, charged, Customer.incrementPurchasesAndDebt,
        installmentDebt]

/-- When the shift and the customer are as before, the method is one that pays out. -/
theorem paidOut_of_kept (sold : SoldRow env sale) {sales : Int}
    (kept : sale.customerID ≠ "" → ∃ c, debt = some (charged env sale c).debt ∧
      SameBalances c (reverted env' sale (charged env sale c)))
    (given : 0 < (shiftRefund .exact env' sale (creditOverpay .exact sale debt)).1)
    (restored : clampSub (sales + sale.total) (shiftRefund .exact env' sale (creditOverpay .exact sale debt)).1 = sales) :
    PaidOut sale := by
  have total := sold.payable.nonneg
  unfold PaidOut
  cases kind : sale.paymentMethod with
  | cash | card => trivial
  | other => simp [shiftRefund, kind] at given
  | credit =>
    have named : sale.customerID ≠ "" := fun anonymous => (sold.valid.anonymous anonymous).credit kind
    -- the shift only hears of what the debt did not cover, and then the debt was below zero
    have overpay : 0 < creditOverpay .exact sale debt := by
      by_contra none
      simp [shiftRefund, kind, none] at given
    obtain ⟨c, owed, same⟩ := kept named
    have short : (charged env sale c).debt < sale.total := by
      by_contra covered
      simp [creditOverpay, kind, owed, overpaid, covered] at overpay
    have back := same.debt
    simp only [reverted, kind, Customer.decrementDebt, Customer.adjustPoints, Customer.decrementPurchases, charged,
      Customer.incrementPurchasesAndDebt, debtIncrease, clampSub] at back short
    split at back <;> split at short <;> omega
  | installment =>
    have named : sale.customerID ≠ "" := fun anonymous => (sold.valid.anonymous anonymous).installment kind
    cases planned : sale.installmentPlan with
    | none => simp [shiftRefund, kind, installmentRefundable, planned] at given
    | some plan =>
      have checked := sold.plan kind plan planned
      have bounds := checked.paid
      have bounded := checked.bounded
      rw [installment_refund kind planned] at restored
      have whole := (clampSub_undoes (by omega)).mp restored
      have settled : ¬ 0 < installmentOutstanding .exact sale := by
        simp only [installmentOutstanding, planned, Word.exact_sub]
        omega
      obtain ⟨c, _, same⟩ := kept named
      have back := same.installmentDebt
      simp only [reverted, kind, settled, if_false, Customer.adjustPoints, Customer.decrementPurchases, charged,
        Customer.incrementPurchasesAndDebt, installmentDebtIncrease, planned, Word.exact_sub] at back
      refine ⟨plan, rfl, ?_⟩
      split at back <;> omega
  | split =>
    cases details : sale.splitDetails with
    | none => simp [shiftRefund, kind, saleRemainingLegs, details, creditOverpay] at given
    | some split =>
      obtain ⟨covered, whole⟩ := sold.covered kind details
      rw [split_refund sold kind details] at restored
      have low := SplitDetails.get_nonneg covered.legs .credit
      have high := three_legs_le covered.legs
      exact ⟨split, rfl, ((clampSub_undoes (by omega)).mp restored).1⟩

end Methods

section Journals

variable {w : Word} {env env' : Env} {db final : Store} {request : Sale}

/-- What the request takes out of the stock of a product. -/
def soldQuantity (items : List SaleItem) (productID : String) : ℚ :=
  (items.map fun item => if item.productID = productID then item.quantity else 0).sum

/-- What the lines of a sale put back into it. -/
def backQuantity (lines : List SaleItem) (productID : String) : ℚ :=
  (lines.map fun line => if line.productID = productID ∧ 0 < outstanding line then outstanding line else 0).sum

/-- The lines stored under the sale. -/
def savedLines (env : Env) (db : Store) (request : Sale) : List SaleItem :=
  (saveItems (stampSale env request).id db.saleItems (pricedSale .exact env db request).items).rows.filter
    fun line => line.saleID = (stampSale env request).id

/-- The sale as it is loaded after it was stored. -/
def storedSale (env : Env) (db : Store) (request : Sale) : Sale :=
  ⟨(pricedSale .exact env db request).toSaleRow, savedLines env db request⟩

theorem saleJournal_customer (id : String) (o : Option Customer) :
    (customerCell id).steps (saleJournal w env db request) o =
      (customerCell id).steps (chargeWrites w env (pricedSale w env db request).toSaleRow) o := by
  obtain ⟨front, back, parts, first, last⟩ := saleJournal_parts w env db request
  rw [parts, Cell.steps_append, Cell.steps_append, Cell.steps_append, (customer_within id).frame first (by decide),
    (customer_within id).frame (confined_payments _ _ _) (by decide)]
  exact (customer_within id).frame last (by decide) _

theorem returnJournal_customer (products : Table Product.id) (debt : Option Int) (sale : Sale) (id : String)
    (o : Option Customer) : (customerCell id).steps (returnJournal w env products debt sale) o =
      (customerCell id).steps (balanceWrites w env sale.toSaleRow debt) o := by
  rw [returnJournal, Cell.steps_append, Cell.steps_append, Cell.steps_append,
    (customer_within id).frame (confined_restock _ _ _ _) (by decide),
    (customer_within id).frame (confined_ledger _ _ _) (by decide),
    (customer_within id).frame (confined_closing _ _ _ _) (by decide)]

theorem returnJournal_opens (products : Table Product.id) (debt : Option Int) (sale : Sale) :
    ∀ v ∈ returnJournal w env products debt sale, ∀ shift, v ≠ .saveShift shift := by
  have closing : ∀ overpay, ∀ v ∈ closingWrites w env sale overpay, ∀ shift, v ≠ .saveShift shift := by
    intro overpay v member shift
    unfold closingWrites at member
    split at member <;> simp at member <;> rcases member with rfl | rfl | rfl <;> simp
  intro v member shift opened
  subst opened
  simp only [returnJournal, List.mem_append] at member
  rcases member with ((inside | inside) | inside) | inside
  · simpa [Write.area] using confined_restock _ _ _ _ _ inside
  · simpa [Write.area] using confined_balances _ _ _ _ _ inside
  · simpa [Write.area] using confined_ledger _ _ _ _ inside
  · exact closing _ _ inside shift rfl

/-- The open shift is moved by the one refund of the return, when there is one. -/
theorem returnJournal_drawer (products : Table Product.id) (debt : Option Int) (sale : Sale) (o : Option Shift) :
    drawerSteps (returnJournal w env products debt sale) o =
      if 0 < (shiftRefund w env sale.toSaleRow (creditOverpay w sale.toSaleRow debt)).1 then
        drawerStep (.updateShiftRefunds (shiftRefund w env sale.toSaleRow (creditOverpay w sale.toSaleRow debt)).1
          (shiftRefund w env sale.toSaleRow (creditOverpay w sale.toSaleRow debt)).2 true) o
      else o := by
  rw [returnJournal, drawerSteps_append, drawerSteps_append, drawerSteps_append,
    drawerSteps_frame (confined_restock _ _ _ _) (by decide), drawerSteps_frame (confined_balances _ _ _ _) (by decide),
    drawerSteps_frame (confined_ledger _ _ _) (by decide)]
  unfold closingWrites
  split <;> rfl

theorem saleJournal_stock (facts : SaleFacts .exact env db request) (productID : String) :
    stockBack productID (saleJournal .exact env db request) = -soldQuantity request.items productID := by
  have rest : Confined [.sales, .customers, .ledger, .shifts, .log] (.createSale (pricedSale .exact env db request) ::
      (chargeWrites .exact env (pricedSale .exact env db request).toSaleRow ++
        paymentWrites .exact env (pricedSale .exact env db request).toSaleRow ++
        shiftWrites (shiftNeeded db) (pricedSale .exact env db request).toSaleRow)) := by
    refine confined_cons.mpr ⟨by simp [Write.area], ?_⟩
    exact (((confined_charge _ _ _).mono (by simp)).append ((confined_payments _ _ _).mono (by simp))).append
      ((confined_shift _ _).mono (by simp))
  simp only [saleJournal]
  rw [stockBack_append, stockBack_frame rest (by decide), add_zero, stockBack_flatMap, soldQuantity, List.sum_neg,
    List.map_map]
  refine congrArg List.sum (List.map_congr_left fun item member => ?_)
  obtain ⟨product, found, _⟩ := facts.available item member
  simp only [soldWrites, found, Function.comp_apply]
  split <;> simp [stockBack, Write.stockGain, *]

/-- A product whose stock was updated is not below zero from then on. -/
theorem stock_floor {ws : List Write} {id : String} (h : replay Write.apply ws db = .ok final)
    (moved : (∀ stock ∈ stockOf id db, 0 ≤ stock) ∨ ∃ qty, .updateStock id qty ∈ ws) :
    ∀ stock ∈ stockOf id final, 0 ≤ stock := by
  induction ws generalizing db with
  | nil =>
    cases h
    rcases moved with above | ⟨_, none⟩
    · exact above
    · cases none
  | cons v ws ih =>
    obtain ⟨next, applied, onward⟩ := replay_cons.mp h
    have step : stockOf id next = stockStep id v (stockOf id db) := (stockCell id).law _ _ _ applied
    have updated : ∀ qty, v = .updateStock id qty → ∀ stock ∈ stockOf id next, 0 ≤ stock := by
      rintro qty rfl stock there
      obtain ⟨⟨product, found, enough⟩, _⟩ := updateStock_ok applied
      have raised : stockOf id next = some (product.stock + qty) := by
        rw [step]
        simp [stockStep, stockOf, found]
      rw [raised] at there
      exact Option.some.inj there ▸ enough
    refine ih onward ?_
    by_cases here : ∃ qty, v = .updateStock id qty
    · obtain ⟨qty, same⟩ := here
      exact .inl (updated qty same)
    · rcases moved with above | ⟨qty, member⟩
      · have kept : stockOf id next = stockOf id db := by
          rw [step]
          cases v with
          | updateStock p qty =>
            refine if_neg ?_
            rintro rfl
            exact here ⟨qty, rfl⟩
          | _ => rfl
        exact .inl (kept ▸ above)
      · rcases List.mem_cons.mp member with same | later
        · exact absurd ⟨qty, same.symm⟩ here
        · exact .inr ⟨qty, later⟩

end Journals

/-- The totals a sale moves on a shift are the same. -/
structure SameCounters (s after : Shift) : Prop where
  id : after.id = s.id
  totalSales : after.totalSales = s.totalSales
  cashSales : after.cashSales = s.cashSales
  salesCount : after.salesCount = s.salesCount

/-- Stock, the customer's balances and the totals of the open shift are as before. -/
structure BalancesKept (customerID : String) (db final : Store) : Prop where
  stock : ∀ id, stockOf id final = stockOf id db
  customer : ∀ c ∈ db.customers.find? customerID, ∃ after ∈ final.customers.find? customerID, SameBalances c after
  shift : ∀ s ∈ db.activeShift, ∃ after ∈ final.activeShift, SameCounters s after

/-- The invoice is worth something and its method pays it out, nothing was below zero, and
the lines stored under the sale put back what was sold. -/
structure Reversible (env : Env) (db : Store) (request : Sale) (shift : Shift) : Prop where
  total : 0 < (pricedSale .exact env db request).total
  method : PaidOut (pricedSale .exact env db request).toSaleRow
  shift : 0 ≤ shift.totalSales ∧ 0 ≤ shift.cashSales ∧ 0 ≤ shift.salesCount
  customer : request.customerID ≠ "" → ∀ c ∈ db.customers.find? request.customerID,
    0 ≤ c.totalPurchases ∧ (0 ≤ c.points ∨ (pricedSale .exact env db request).pointsAwarded = 0)
  stock : ∀ id, (stockOf id db).isSome →
    backQuantity (savedLines env db request) id = soldQuantity request.items id

section Sold

variable {env env' : Env} {actor : Actor} {request : Sale} {db sold final : Store} {ws ws' : List Write} {shift : Shift}

theorem sold_shift (h : Does (processSaleAs .exact env actor request) db () ws sold) (active : db.activeShift = some shift)
    (named : shift.id ≠ "") : sold.activeShift = some (shift.addSale (pricedSale .exact env db request).total
      (saleCash (pricedSale .exact env db request).toSaleRow) true) := by
  obtain ⟨_, rfl⟩ := processSaleAs_does h
  rw [drawer_replayed h.replays (saleJournal_opens .exact env db request), saleJournal_drawer, active]
  exact congrArg some (if_neg named)

theorem sold_stock (h : Does (processSaleAs .exact env actor request) db () ws sold) (id : String) :
    stockOf id sold = (stockOf id db).map (· + -soldQuantity request.items id) := by
  obtain ⟨facts, rfl⟩ := processSaleAs_does h
  rw [← saleJournal_stock facts id]
  exact ((stockCell id).replay_read h.replays).trans (stock_steps id _ _)

theorem sold_loaded (h : Does (processSaleAs .exact env actor request) db () ws sold) :
    sold.getSale (stampSale env request).id = some (storedSale env db request) := by
  have row := sale_replayed h (stampSale env request).id
  have lines := saleLines_replayed h
  obtain ⟨_, rfl⟩ := processSaleAs_does h
  have named : (stampSale env request).id = (pricedSale .exact env db request).id := rfl
  rw [saleJournal_row, if_pos named] at row
  rw [saleJournal_lines] at lines
  rw [Store.getSale, row, Store.itemsOf, lines]
  rfl

theorem sold_customer (h : Does (processSaleAs .exact env actor request) db () ws sold) (named : request.customerID ≠ "")
    {c : Customer} (known : db.customers.find? request.customerID = some c) :
    sold.customers.find? request.customerID = some (charged env (pricedSale .exact env db request).toSaleRow c) := by
  have moved := (customerCell request.customerID).replay_read h.replays
  obtain ⟨_, rfl⟩ := processSaleAs_does h
  rw [saleJournal_customer] at moved
  refine moved.trans ?_
  change (customerCell _).steps _ (db.customers.find? request.customerID) = _
  rw [known]
  have invoice : (pricedSale .exact env db request).toSaleRow.customerID ≠ "" := named
  exact charge_customer invoice c

theorem sold_anonymous (h : Does (processSaleAs .exact env actor request) db () ws sold) (anonymous : request.customerID = "") :
    sold.customers.find? request.customerID = db.customers.find? request.customerID := by
  have moved := (customerCell request.customerID).replay_read h.replays
  obtain ⟨_, rfl⟩ := processSaleAs_does h
  have named : (pricedSale .exact env db request).customerID = "" := anonymous
  rw [saleJournal_customer, chargeWrites, if_pos named] at moved
  exact moved

/-- The sale as the return that follows at once loads it. -/
theorem returned_journal (h : Does (processSaleAs .exact env actor request) db () ws sold)
    (back : Does (returnSale .exact env' (stampSale env request).id) sold () ws' final) :
    ws' = returnJournal .exact env' sold.products (debtOf sold request.customerID) (storedSale env db request) := by
  obtain ⟨sale, loaded, _, _, rfl⟩ := returnSale_does back
  rw [sold_loaded h] at loaded
  cases loaded
  rfl

theorem returned_stock (h : Does (processSaleAs .exact env actor request) db () ws sold)
    (back : Does (returnSale .exact env' (stampSale env request).id) sold () ws' final) {id : String}
    (stored : (stockOf id sold).isSome) :
    stockOf id final = (stockOf id sold).map (· + backQuantity (savedLines env db request) id) := by
  have given : stockBack id ws' = backQuantity (savedLines env db request) id := by
    obtain ⟨stock, there⟩ := Option.isSome_iff_exists.mp stored
    obtain ⟨product, found, _⟩ := Option.map_eq_some_iff.mp there
    have lines : sold.itemsOf (stampSale env request).id = savedLines env db request := by
      obtain ⟨_, items, _⟩ := getSale_row (sold_loaded h)
      exact items.symm
    have full : Does (ReturnCall.full.body .exact env' (stampSale env request).id) sold () ws' final := back
    rw [stock_put_back found full, lines, backQuantity]
    refine congrArg List.sum (List.map_congr_left fun line member => ?_)
    rw [← lines] at member
    obtain ⟨inside, own⟩ := List.mem_filter.mp member
    have own : line.saleID = (stampSale env request).id := by simpa using own
    simp only [lineBack, Table.find?_of_mem inside, own, true_and]
    split <;> split <;> simp_all
  rw [← given]
  exact ((stockCell id).replay_read back.replays).trans (stock_steps id _ _)

theorem returned_shift (h : Does (processSaleAs .exact env actor request) db () ws sold)
    (back : Does (returnSale .exact env' (stampSale env request).id) sold () ws' final)
    (active : db.activeShift = some shift) (named : shift.id ≠ "") :
    let sale := (pricedSale .exact env db request).toSaleRow
    let refund := shiftRefund .exact env' sale (creditOverpay .exact sale (debtOf sold request.customerID))
    final.activeShift = some (if 0 < refund.1
      then (shift.addSale sale.total (saleCash sale) true).subRefund refund.1 refund.2 true
      else shift.addSale sale.total (saleCash sale) true) := by
  have journal := returned_journal h back
  subst journal
  have step : ∀ total cash, drawerStep (.updateShiftRefunds total cash true)
      (some (shift.addSale (pricedSale .exact env db request).total
        (saleCash (pricedSale .exact env db request).toSaleRow) true)) =
      some ((shift.addSale (pricedSale .exact env db request).total
        (saleCash (pricedSale .exact env db request).toSaleRow) true).subRefund total cash true) :=
    fun _ _ => congrArg some (if_neg named)
  rw [drawer_replayed back.replays (returnJournal_opens _ _ _), returnJournal_drawer, sold_shift h active named, step]
  exact (apply_ite some _ _ _).symm

theorem returned_customer (h : Does (processSaleAs .exact env actor request) db () ws sold)
    (back : Does (returnSale .exact env' (stampSale env request).id) sold () ws' final) (named : request.customerID ≠ "")
    {c : Customer} (known : db.customers.find? request.customerID = some c) :
    final.customers.find? request.customerID = some (reverted env' (pricedSale .exact env db request).toSaleRow
      (charged env (pricedSale .exact env db request).toSaleRow c)) := by
  have journal := returned_journal h back
  have row := sold_customer h named known
  have moved := (customerCell request.customerID).replay_read back.replays
  rw [journal, returnJournal_customer, debtOf, row, Option.map_some] at moved
  refine moved.trans ?_
  change (customerCell _).steps _ (sold.customers.find? request.customerID) = _
  rw [row]
  have invoice : (pricedSale .exact env db request).toSaleRow.customerID ≠ "" := named
  exact balance_customer invoice _

theorem returned_anonymous (h : Does (processSaleAs .exact env actor request) db () ws sold)
    (back : Does (returnSale .exact env' (stampSale env request).id) sold () ws' final)
    (anonymous : request.customerID = "") :
    final.customers.find? request.customerID = db.customers.find? request.customerID := by
  have journal := returned_journal h back
  have moved := (customerCell request.customerID).replay_read back.replays
  have named : (storedSale env db request).customerID = "" := anonymous
  have nothing : balanceWrites .exact env' (storedSale env db request).toSaleRow (debtOf sold request.customerID) = [] := by
    unfold balanceWrites
    exact if_pos named
  rw [journal, returnJournal_customer, nothing] at moved
  exact moved.trans (sold_anonymous h anonymous)

/-- The stock of what was sold is not below zero. -/
theorem sold_floor (h : Does (processSaleAs .exact env actor request) db () ws sold) {item : SaleItem}
    (asked : item ∈ request.items) : ∀ stock ∈ stockOf item.productID sold, 0 ≤ stock := by
  obtain ⟨facts, rfl⟩ := processSaleAs_does h
  obtain ⟨product, found, _⟩ := facts.available item asked
  have written : Write.updateStock item.productID (-item.quantity) ∈ saleJournal .exact env db request := by
    refine List.mem_append_left _ (List.mem_flatMap.mpr ⟨item, asked, ?_⟩)
    simp [soldWrites, found]
  exact stock_floor h.replays (.inr ⟨_, written⟩)

/-- Lines that put back what was sold find room in the stock. -/
theorem restockable_sold (h : Does (processSaleAs .exact env actor request) db () ws sold)
    (stock : ∀ id, (stockOf id db).isSome → backQuantity (savedLines env db request) id = soldQuantity request.items id) :
    Restockable (savedLines env db request) sold := by
  intro product member line first
  have outstandingLine := List.find?_some first
  obtain ⟨own, positive⟩ := of_decide_eq_true outstandingLine
  have inside := List.mem_of_find?_eq_some first
  have there : stockOf product.id sold = some product.stock := by
    rw [stockOf, Table.find?_of_mem member]
    rfl
  have before : (stockOf product.id db).isSome := by
    have moved := sold_stock h product.id
    rw [there] at moved
    cases known : stockOf product.id db with
    | none => simp [known] at moved
    | some => rfl
  have put : 0 < backQuantity (savedLines env db request) product.id := by
    have parts : ∀ x ∈ (savedLines env db request).map (fun line =>
        if line.productID = product.id ∧ 0 < outstanding line then outstanding line else 0), 0 ≤ x := by
      intro x there
      obtain ⟨other, _, rfl⟩ := List.mem_map.mp there
      split
      · rename_i left
        exact left.2.le
      · exact le_rfl
    have here : outstanding line ∈ (savedLines env db request).map (fun line =>
        if line.productID = product.id ∧ 0 < outstanding line then outstanding line else 0) :=
      List.mem_map.mpr ⟨line, inside, if_pos ⟨own, positive⟩⟩
    exact lt_of_lt_of_le positive (List.single_le_sum parts _ here)
  rw [stock product.id before] at put
  obtain ⟨item, asked, same⟩ : ∃ item ∈ request.items, item.productID = product.id := by
    by_contra none
    have nothing : soldQuantity request.items product.id = 0 := by
      refine List.sum_eq_zero fun x there => ?_
      obtain ⟨item, inside, rfl⟩ := List.mem_map.mp there
      exact if_neg fun same => none ⟨item, inside, same⟩
    exact absurd put (by rw [nothing]; exact lt_irrefl 0)
  have enough := sold_floor h asked product.stock (same ▸ there)
  linarith

end Sold

end BeidarPos
