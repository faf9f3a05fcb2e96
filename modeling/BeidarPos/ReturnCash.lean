import BeidarPos.Calls

/-! The cash of a return: the refund rows it writes and the amount it takes out of the
drawer are computed apart from each other, and compared here for one call on any
reachable store. -/
namespace BeidarPos

open Machine Rounding Relational Journal Tx

/-- What a refund row hands back under one method. -/
def handed (m : PaymentMethod) (p : Payment) : Int := if p.method = m then |p.amount| else 0

/-- The cash a journal passes to the open shift as refunded. -/
def cashRefundPassed (ws : List Write) : Int := ((shiftRefunds ws).map Prod.snd).sum

@[simp] theorem overpaid_exact (debt amount : Int) :
    overpaid .exact debt amount = if debt < amount then amount - debt else 0 := rfl

theorem overpaid_nonneg (debt amount : Int) : 0 ≤ overpaid .exact debt amount := by
  rw [overpaid_exact]
  split <;> omega

theorem handed_refund (m : PaymentMethod) (env : Env) (sale : SaleRow) {amount : Int} (nonneg : 0 ≤ amount)
    (method : PaymentMethod) (note : Text) :
    handed m (refundRow env sale (Word.exact.neg amount) method note) = if method = m then amount else 0 := by
  simp [handed, refundRow, abs_of_nonneg nonneg]

theorem debtRefund_rows (m : PaymentMethod) (env : Env) (sale : SaleRow) (debt amount : Int) (note : Text) :
    rowSum (handed m) (debtRefundWrites .exact env sale debt amount note) =
      if PaymentMethod.cash = m then overpaid .exact debt amount else 0 := by
  have nonneg := overpaid_nonneg debt amount
  rw [debtRefundWrites, ← List.singleton_append, rowSum_append, rowSum_rowFor, handed_refund m env sale nonneg]
  have none : rowSum (handed m) [.decrementDebt sale.customerID amount] = 0 := rfl
  rw [none]
  split <;> split <;> omega

/-- The amount of an installment that was paid. -/
def paidAmount (inst : Installment) : Int := if inst.status = .paid then inst.amount else 0

theorem paidSum_exact (plan : InstallmentPlan) : paidSum .exact plan = (plan.entries.map paidAmount).sum := by
  have turn : (fun (sum : Int) (inst : Installment) =>
      if inst.status = .paid then Word.exact.add sum inst.amount else sum) =
      fun sum inst => Word.exact.add sum (paidAmount inst) := by
    funext sum inst
    by_cases paid : inst.status = .paid <;> simp [paidAmount, paid]
  rw [paidSum, turn, Word.exact_foldl, Int.zero_add]

theorem paidSum_nonneg {plan : InstallmentPlan} (amounts : ∀ inst ∈ plan.entries, 0 ≤ inst.amount) :
    0 ≤ paidSum .exact plan := by
  rw [paidSum_exact]
  refine List.sum_nonneg ?_
  intro x member
  obtain ⟨inst, inside, rfl⟩ := List.mem_map.mp member
  have := amounts inst inside
  unfold paidAmount
  split <;> omega

theorem installmentRefundable_nonneg {sale : SaleRow} (valid : ValidSale sale)
    (kind : sale.paymentMethod = .installment) : 0 ≤ installmentRefundable .exact sale := by
  unfold installmentRefundable
  split
  · exact le_rfl
  · rename_i plan planned
    obtain ⟨down, amounts⟩ := valid.plan kind plan planned
    have := paidSum_nonneg amounts
    simp only [Word.exact_add]
    omega

section Full

variable {env : Env} {sale : Sale} {split : SplitDetails}

/-- The refund rows of the legs that are paid back in money, with what is paid on each. -/
def legRows (env : Env) (sale : SaleRow) (note : Text) (paid : PaymentMethod → Int → Int) (leg : PaymentMethod × Int) :
    List Write :=
  if 0 < leg.2 ∧ leg.1 ≠ .credit ∧ 0 < paid leg.1 leg.2 then
    [.createPayment (refundRow env sale (Word.exact.neg (paid leg.1 leg.2)) leg.1 note)]
  else []

/-- Every leg is visited once, so the rows hand back what the leg of the method pays. -/
theorem legRows_handed (order : MapOrder) (split : SplitDetails) (row : SaleRow) (note : Text)
    (paid : PaymentMethod → Int → Int) (m : PaymentMethod) :
    rowSum (handed m) ((order.visit split.legs).flatMap (legRows env row note paid)) =
      ((Keyed.valueOf split.legs m).map fun amount =>
        if 0 < amount ∧ m ≠ .credit ∧ 0 < paid m amount then paid m amount else 0).getD 0 := by
  have turn : ∀ leg : PaymentMethod × Int, rowSum (handed m) (legRows env row note paid leg) =
      if leg.1 = m then if 0 < leg.2 ∧ m ≠ .credit ∧ 0 < paid m leg.2 then paid m leg.2 else 0 else 0 := by
    intro leg
    unfold legRows
    by_cases key : leg.1 = m
    · subst key
      split
      · rename_i positive
        rw [rowSum_payment, handed_refund _ _ _ positive.2.2.le, if_pos rfl]
      · rw [rowSum_nil, if_pos rfl]
    · split
      · rename_i positive
        rw [rowSum_payment, handed_refund _ _ _ positive.2.2.le, if_neg key]
      · rfl
  have read := Keyed.sum_at (k := m) (fun amount : Int =>
    if 0 < amount ∧ m ≠ .credit ∧ 0 < paid m amount then paid m amount else 0) split.distinct
  rw [rowSum_flatMap, ((order.perm split.legs).map _).sum_eq, List.map_congr_left (fun leg _ => turn leg), read]

/-- A split sale's ledger part hands back what remains of each leg but the credit leg. -/
theorem splitLedger_rows (covered : CoveredSplit sale.toSaleRow split) (m : PaymentMethod) :
    rowSum (handed m) (((env.order 2).visit split.legs).flatMap
      (splitLegWrites .exact env sale.toSaleRow (saleRemainingLegs .exact (env.order 1) sale.toSaleRow))) =
      if m = .credit then 0 else (legOf (saleRemainingLegs .exact (env.order 1) sale.toSaleRow) m).getD 0 := by
  generalize rem : saleRemainingLegs .exact (env.order 1) sale.toSaleRow = remaining
  refine (legRows_handed (env.order 2) split _ _ (fun method _ => (legOf remaining method).getD 0) m).trans ?_
  by_cases credit : m = .credit
  · subst credit
    cases Keyed.valueOf split.legs .credit <;> simp
  · rw [if_neg credit]
    cases left : legOf remaining m with
    | none => cases Keyed.valueOf split.legs m <;> simp
    | some amount =>
      rw [← rem] at left
      obtain ⟨paid, named, positive⟩ := covered.remaining_named left
      have nonneg : 0 ≤ amount := covered.remaining_nonneg _ (Keyed.valueOf_mem left)
      simp only [named, Option.map_some, Option.getD_some, positive, true_and, ne_eq, credit, not_false_eq_true]
      split <;> omega

theorem returnJournal_rows (g : Payment → Int) (w : Word) (env : Env) (products : Table Product.id)
    (debt : Option Int) (sale : Sale) :
    rowSum g (returnJournal w env products debt sale) =
      rowSum g (balanceWrites w env sale.toSaleRow debt) + rowSum g (ledgerWrites w env sale.toSaleRow) := by
  rw [returnJournal, rowSum_append, rowSum_append, rowSum_append,
    rowSum_frame (confined_restock _ _ _ _) (by decide), rowSum_frame (confined_closing _ _ _ _) (by decide)]
  omega

theorem returnJournal_passed (w : Word) (env : Env) (products : Table Product.id) (debt : Option Int) (sale : Sale) :
    cashRefundPassed (returnJournal w env products debt sale) =
      if 0 < (shiftRefund w env sale.toSaleRow (creditOverpay w sale.toSaleRow debt)).1 then
        (shiftRefund w env sale.toSaleRow (creditOverpay w sale.toSaleRow debt)).2 else 0 := by
  rw [cashRefundPassed, returnJournal, shiftRefunds_append, shiftRefunds_append, shiftRefunds_append,
    shiftRefunds_frame (confined_restock _ _ _ _) (by decide),
    shiftRefunds_frame (confined_balances _ _ _ _) (by decide),
    shiftRefunds_frame (confined_ledger _ _ _) (by decide)]
  unfold closingWrites
  split <;> simp [shiftRefunds]

/-- Cash the ledger hands back for the credit leg, of which the shift is not told. -/
def unpassedCash (env : Env) (sale : SaleRow) (debt : Option Int) : Int :=
  match sale.paymentMethod, debt with
  | .split, some debt =>
    if sale.customerID ≠ "" ∧ 0 < creditRemaining .exact env sale then
      overpaid .exact debt (creditRemaining .exact env sale)
    else 0
  | _, _ => 0

/-- Balances other than a split sale's: what they hand back is passed on. -/
theorem balance_rows (m : PaymentMethod) (env : Env) (sale : SaleRow) (debt : Option Int) (valid : ValidSale sale) :
    rowSum (handed m) (balanceWrites .exact env sale debt) =
      (if PaymentMethod.cash = m then creditOverpay .exact sale debt + unpassedCash env sale debt +
        (if sale.paymentMethod = .installment then installmentRefundable .exact sale else 0) else 0) := by
  have purchases : rowSum (handed m) [.decrementPurchases sale.customerID sale.total,
      .adjustPoints sale.customerID (Word.exact.neg (Amount.div .exact sale.total 1000))] = 0 := rfl
  unfold balanceWrites
  by_cases anonymous : sale.customerID = ""
  · have paid := valid.anonymous anonymous
    have credit : creditOverpay .exact sale debt = 0 := by
      unfold creditOverpay
      split <;> simp [anonymous]
    have split : unpassedCash env sale debt = 0 := by
      unfold unpassedCash
      split <;> simp [anonymous]
    simp [anonymous, credit, split, paid.installment]
  · rw [if_neg anonymous, rowSum_append, purchases, Int.zero_add]
    cases kind : sale.paymentMethod with
    | credit =>
      cases debt with
      | none => simp [creditOverpay, unpassedCash, kind]
      | some debt =>
        have nonneg := overpaid_nonneg debt sale.total
        rw [debtRefund_rows]
        simp only [creditOverpay, unpassedCash, kind, anonymous, if_false, reduceCtorEq]
        split <;> omega
    | installment =>
      have paid : rowSum (handed m) (installmentDebtWrites sale (installmentOutstanding .exact sale)) = 0 :=
        rowSum_frame (confined_installmentDebt _ _) (by decide) _
      have nonneg := installmentRefundable_nonneg valid kind
      simp only [installmentRefundWrites, rowSum_append, paid, rowSum_rowFor, handed_refund m env sale nonneg,
        creditOverpay, unpassedCash, kind, if_true]
      split <;> split <;> omega
    | split =>
      cases debt with
      | none => simp [splitCreditWrites, creditOverpay, unpassedCash, kind]
      | some debt =>
        simp only [splitCreditWrites, creditOverpay, unpassedCash, kind, reduceCtorEq, if_false]
        by_cases positive : 0 < creditRemaining .exact env sale
        · rw [if_pos positive, debtRefund_rows]
          simp [anonymous, positive]
        · simp [positive]
    | cash | card | other => simp [creditOverpay, unpassedCash, kind]

theorem ValidSale.coveredSplit {sale : SaleRow} (valid : ValidSale sale) (kind : sale.paymentMethod = .split)
    (details : sale.splitDetails = some split) : CoveredSplit sale split :=
  ⟨details, (valid.split kind split details).1, valid.nonneg, (valid.split kind split details).2⟩

theorem getD_nonneg {legs : List (PaymentMethod × Int)} (nonneg : ∀ leg ∈ legs, 0 ≤ leg.2) (m : PaymentMethod) :
    0 ≤ (legOf legs m).getD 0 := by
  cases named : legOf legs m with
  | none => exact le_rfl
  | some amount => exact nonneg _ (Keyed.valueOf_mem named)

/-- A full return's cash rows are the cash passed to the shift, and what is not passed. -/
theorem full_cash (valid : ValidSale sale.toSaleRow) (products : Table Product.id) (debt : Option Int) :
    rowSum (handed .cash) (returnJournal .exact env products debt sale) =
      cashRefundPassed (returnJournal .exact env products debt sale) + unpassedCash env sale.toSaleRow debt := by
  have nonneg := valid.nonneg
  rw [returnJournal_rows, returnJournal_passed, balance_rows .cash env sale.toSaleRow debt valid, if_pos rfl]
  cases kind : sale.paymentMethod with
  | cash =>
    have paid : rowSum (handed .cash) (ledgerWrites .exact env sale.toSaleRow) = sale.total := by
      simp only [ledgerWrites, kind, rowSum_payment]
      rw [handed_refund _ _ _ nonneg, if_pos rfl]
    simp only [paid, creditOverpay, unpassedCash, shiftRefund, kind, reduceCtorEq, if_false]
    split <;> omega
  | card =>
    have paid : rowSum (handed .cash) (ledgerWrites .exact env sale.toSaleRow) = 0 := by
      simp only [ledgerWrites, kind, rowSum_payment]
      rw [handed_refund _ _ _ nonneg, if_neg (by simp)]
    simp [paid, creditOverpay, unpassedCash, shiftRefund, kind]
  | credit =>
    have paid : rowSum (handed .cash) (ledgerWrites .exact env sale.toSaleRow) = 0 := by
      simp [ledgerWrites, kind]
    have low : 0 ≤ creditOverpay .exact sale.toSaleRow debt := by
      unfold creditOverpay
      split
      · split <;> omega
      · exact le_rfl
    simp only [paid, unpassedCash, shiftRefund, kind, reduceCtorEq, if_false]
    split
    · simp
    · simp only [lt_self_iff_false, if_false]
      omega
  | installment =>
    have paid : rowSum (handed .cash) (ledgerWrites .exact env sale.toSaleRow) = 0 := by
      simp [ledgerWrites, kind]
    have low := installmentRefundable_nonneg valid kind
    simp only [paid, creditOverpay, unpassedCash, shiftRefund, kind, if_true]
    split <;> omega
  | split =>
    have credit : creditOverpay .exact sale.toSaleRow debt = 0 := by simp [creditOverpay, kind]
    rw [credit]
    cases details : sale.splitDetails with
    | none =>
      have paid : rowSum (handed .cash) (ledgerWrites .exact env sale.toSaleRow) = 0 := by
        simp [ledgerWrites, kind, details]
      simp [paid, shiftRefund, saleRemainingLegs, kind, details]
    | some split =>
      have covered := valid.coveredSplit kind details
      have paid : rowSum (handed .cash) (ledgerWrites .exact env sale.toSaleRow) =
          (legOf (saleRemainingLegs .exact (env.order 3) sale.toSaleRow) .cash).getD 0 := by
        rw [← covered.remaining_order (env.order 1) (env.order 3) (.inl rfl)]
        simp only [ledgerWrites, kind, details]
        rw [splitLedger_rows covered .cash, if_neg (by simp)]
      have cash : 0 ≤ (legOf (saleRemainingLegs .exact (env.order 3) sale.toSaleRow) .cash).getD 0 :=
        getD_nonneg covered.remaining_nonneg .cash
      have card : 0 ≤ (legOf (saleRemainingLegs .exact (env.order 3) sale.toSaleRow) .card).getD 0 :=
        getD_nonneg covered.remaining_nonneg .card
      simp only [paid, shiftRefund, kind, reduceCtorEq, if_false, lt_self_iff_false, Word.exact_add]
      split <;> omega
  | other =>
    have paid : rowSum (handed .cash) (ledgerWrites .exact env sale.toSaleRow) = 0 := by
      simp [ledgerWrites, kind]
    simp [paid, creditOverpay, unpassedCash, shiftRefund, kind]

end Full

section Partial

variable {env : Env} {sale : Sale} {split : SplitDetails} {refundAmount : Int}

theorem partialBalance_rows (m : PaymentMethod) (env : Env) (sale : SaleRow) (item : SaleItem) (qtyToReturn : ℚ)
    (refundAmount : Int) (debt : Option Int) :
    rowSum (handed m) (partialBalanceWrites .exact env sale item qtyToReturn refundAmount debt) =
      if PaymentMethod.cash = m then partialOverpay .exact sale refundAmount debt else 0 := by
  have purchases : rowSum (handed m) [.decrementPurchases sale.customerID refundAmount,
      .adjustPoints sale.customerID (Word.exact.neg (Amount.div .exact refundAmount 1000))] = 0 := rfl
  unfold partialBalanceWrites
  by_cases anonymous : sale.customerID = ""
  · have none : partialOverpay .exact sale refundAmount debt = 0 := by
      unfold partialOverpay
      split <;> simp [anonymous]
    simp [anonymous, none]
  · rw [if_neg anonymous, rowSum_append, purchases, Int.zero_add]
    cases kind : sale.paymentMethod with
    | credit =>
      cases debt with
      | none => simp [partialOverpay, kind]
      | some debt =>
        rw [debtRefund_rows]
        simp [partialOverpay, kind, anonymous]
    | installment => simp [partialOverpay, kind, rowSum, createdRows]
    | split =>
      have none : rowSum (handed m) (creditShareWrites .exact sale refundAmount) = 0 := by
        unfold creditShareWrites
        split <;> rfl
      simp [partialOverpay, kind, none]
    | cash | card | other => simp [partialOverpay, kind]

theorem legShare_exact (refundAmount amount total : Int) :
    legShare .exact refundAmount amount total = share refundAmount amount total := rfl

/-- What the leg of a method pays out of a refund. -/
def legPayout (sale : SaleRow) (split : SplitDetails) (refundAmount : Int) (m : PaymentMethod) : Int :=
  if m = .credit then 0 else share refundAmount (split.get m) sale.total

theorem partialLegs_rows (positive : 0 < sale.total) (refund : 0 < refundAmount)
    (legs : ∀ leg ∈ split.legs, 0 ≤ leg.2) (note : Text) (m : PaymentMethod) :
    rowSum (handed m) (((env.order 0).visit split.legs).flatMap
      (partialLegWrites .exact env sale.toSaleRow note refundAmount)) =
      legPayout sale.toSaleRow split refundAmount m := by
  refine (legRows_handed (env.order 0) split _ note (fun _ amount => share refundAmount amount sale.total) m).trans ?_
  unfold legPayout
  by_cases credit : m = .credit
  · subst credit
    cases Keyed.valueOf split.legs .credit <;> simp
  · rw [if_neg credit]
    unfold SplitDetails.get legOf
    cases named : Keyed.valueOf split.legs m with
    | none => simp
    | some amount =>
      have low : 0 ≤ amount := legs _ (Keyed.valueOf_mem named)
      have nonneg := share_nonneg refund.le low positive.le
      simp only [Option.map_some, Option.getD_some, ne_eq, credit, not_false_eq_true, true_and]
      by_cases paid : 0 < amount
      · by_cases given : 0 < share refundAmount amount sale.total
        · simp [paid, given]
        · simp only [paid, given, and_false, if_false]
          omega
      · have zero : amount = 0 := by omega
        simp [zero]

theorem partialJournal_rows (g : Payment → Int) (w : Word) (env : Env) (db : Store) (saleID productID : String)
    (qtyToReturn : ℚ) (item : SaleItem) (sale : Sale) :
    rowSum g (partialJournal w env db saleID productID qtyToReturn item sale) =
      rowSum g (partialBalanceWrites w env sale.toSaleRow (returnedLine item qtyToReturn) qtyToReturn
        (partialRefund w sale item qtyToReturn) (debtOf db sale.customerID)) +
      rowSum g (partialLedgerWrites w env sale.toSaleRow (partialNote item qtyToReturn)
        (partialRefund w sale item qtyToReturn)) := by
  obtain ⟨back, parts, rest⟩ := partialJournal_parts w env db saleID productID qtyToReturn item sale
  rw [parts, rowSum_append, rowSum_append, rowSum_append, rowSum_append, rowSum_frame (confined_line _) (by decide),
    rowSum_frame (confined_partialStock _ _ _ _ _ _) (by decide), rowSum_frame rest (by decide)]
  omega

theorem partialJournal_passed (w : Word) (env : Env) (db : Store) (saleID productID : String)
    (qtyToReturn : ℚ) (item : SaleItem) (sale : Sale) :
    cashRefundPassed (partialJournal w env db saleID productID qtyToReturn item sale) =
      partialCash w sale.toSaleRow (partialRefund w sale item qtyToReturn)
        (partialOverpay w sale.toSaleRow (partialRefund w sale item qtyToReturn) (debtOf db sale.customerID)) := by
  simp only [cashRefundPassed, partialJournal]
  rw [← List.singleton_append, shiftRefunds_append, shiftRefunds_append, shiftRefunds_append, shiftRefunds_append,
    shiftRefunds_frame (confined_partialStock _ _ _ _ _ _) (by decide),
    shiftRefunds_frame (confined_partialBalances _ _ _ _ _ _ _) (by decide),
    shiftRefunds_frame (confined_partialLedger _ _ _ _ _) (by decide)]
  simp [shiftRefunds]

theorem partialOverpay_nonneg (sale : SaleRow) (refundAmount : Int) (debt : Option Int) :
    0 ≤ partialOverpay .exact sale refundAmount debt := by
  unfold partialOverpay
  split
  · split
    · exact le_rfl
    · exact overpaid_nonneg _ _
  · exact le_rfl

theorem partialOverpay_other {sale : SaleRow} (kind : sale.paymentMethod ≠ .credit) (w : Word) (refundAmount : Int)
    (debt : Option Int) : partialOverpay w sale refundAmount debt = 0 := by
  unfold partialOverpay
  split
  · rename_i credit
    exact absurd credit kind
  · rfl

/-- What a partial return writes under one method outside a split payment. -/
theorem partialLedger_single (m : PaymentMethod) (note : Text) (refund : 0 < refundAmount)
    (single : payingLegs sale.toSaleRow = none) :
    rowSum (handed m) (partialLedgerWrites .exact env sale.toSaleRow note refundAmount) =
      if sale.paymentMethod = m ∧ m ≠ .credit then refundAmount else 0 := by
  simp only [partialLedgerWrites, single]
  by_cases credit : sale.paymentMethod = .credit
  · have other : ¬ (sale.paymentMethod = m ∧ m ≠ .credit) := fun h => h.2 (h.1 ▸ credit)
    rw [if_neg (not_not.mpr credit), if_neg other]
    rfl
  · rw [if_pos credit, rowSum_payment, handed_refund _ _ _ refund.le]
    by_cases own : sale.paymentMethod = m
    · rw [if_pos own, if_pos ⟨own, own ▸ credit⟩]
    · rw [if_neg own, if_neg (fun h => own h.1)]

theorem payingLegs_other (kind : sale.paymentMethod ≠ .split) : payingLegs sale.toSaleRow = none :=
  if_neg fun h => kind h.1

/-- A partial return's cash rows are the cash it passes to the shift, whatever the method. -/
theorem partial_cash {db : Store} (valid : ValidSale sale.toSaleRow)
    (facts : PartialFacts .exact db saleID productID qtyToReturn item sale) :
    rowSum (handed .cash) (partialJournal .exact env db saleID productID qtyToReturn item sale) =
      cashRefundPassed (partialJournal .exact env db saleID productID qtyToReturn item sale) := by
  have refund := facts.refund
  have total : 0 < sale.total := lt_of_lt_of_le refund (partialRefund_le ..)
  rw [partialJournal_rows, partialJournal_passed, partialBalance_rows, if_pos rfl]
  cases legs : payingLegs sale.toSaleRow with
  | none =>
    have low := partialOverpay_nonneg sale.toSaleRow (partialRefund .exact sale item qtyToReturn)
      (debtOf db sale.customerID)
    rw [partialLedger_single .cash _ refund legs]
    by_cases cash : sale.paymentMethod = .cash
    · have none := @partialOverpay_other sale.toSaleRow (by simp [cash]) .exact
        (partialRefund .exact sale item qtyToReturn) (debtOf db sale.customerID)
      simp [partialCash, cash, none]
    · simp only [partialCash, cash, legs, false_and, if_false]
      split <;> omega
  | some split =>
    have kind : sale.paymentMethod = .split := by
      by_contra other
      rw [payingLegs_other other] at legs
      cases legs
    have details : sale.splitDetails = some split := by
      rw [← legs, payingLegs, if_pos ⟨kind, total⟩]
    have paid := (valid.split kind split details).1
    rw [partialOverpay_other (by simp [kind])]
    simp only [partialLedgerWrites, legs, partialLegs_rows total refund paid, partialCash, kind, legPayout,
      legShare_exact, reduceCtorEq, if_false, Int.zero_add]
    split
    · rfl
    · have low := SplitDetails.get_nonneg paid .cash
      have zero : split.get .cash = 0 := by omega
      rw [zero, share_zero]

end Partial

/-- The credit leg of a split sale is worth more than its customer still owes. -/
def CreditPaidDown (env : Env) (db : Store) (sale : SaleRow) : Prop :=
  sale.paymentMethod = .split ∧ sale.customerID ≠ "" ∧
    ∃ debt, debtOf db sale.customerID = some debt ∧ 0 < creditRemaining .exact env sale ∧
      debt < creditRemaining .exact env sale

theorem unpassedCash_zero (env : Env) (db : Store) (sale : SaleRow) :
    unpassedCash env sale (debtOf db sale.customerID) = 0 ↔ ¬ CreditPaidDown env db sale := by
  unfold unpassedCash CreditPaidDown
  cases known : debtOf db sale.customerID with
  | none => cases sale.paymentMethod <;> simp
  | some debt =>
    cases sale.paymentMethod with
    | split =>
      by_cases named : sale.customerID = ""
      · simp [named]
      · by_cases positive : 0 < creditRemaining .exact env sale
        · simp [named, positive]
          omega
        · simp [named, positive]
    | cash | card | credit | installment | other => simp

def debtPayment (amount : Int) : Payment := ⟨0, "", "ali", amount, .cash, .plain "", 0, "sara", 0⟩

/-- Half of a sale went on credit, and the customer has paid that half since. -/
def paidDown : Store :=
  after serve [(till, .processSale sara (teaSale "s1" "ali" .split (some halves) none 2)),
    (till, .createPayment (debtPayment 1000))] shop

theorem paidDown_reachable : Reachable paidDown := Reachable.after (.start shop rfl rfl) _

end BeidarPos
