import BeidarPos.ReturnCash

/-! What a return gives back, against the value it takes off the sale: debts go down
and are clamped at zero, rows are written in cash or by card, and shares are cut. -/
namespace BeidarPos

open Machine Rounding Relational Journal Tx

/-- By how much a balance fell; an account that is not there has none. -/
def lowered (before after : Option Int) : Int := before.getD 0 - after.getD 0

theorem lowered_clampSub (owed amount : Int) : lowered (some owed) (some (clampSub owed amount)) = min owed amount := by
  simp only [lowered, Option.getD_some, clampSub]
  split <;> omega

theorem lowered_self (o : Option Int) : lowered o o = 0 := by
  simp [lowered]

/-- Debt taken off and debt paid out make up the amount, whatever was owed. -/
theorem debt_and_payout (owed amount : Int) : min owed amount + overpaid .exact owed amount = amount := by
  rw [overpaid_exact]
  split <;> omega

section Full

variable {env : Env} {sale : Sale}

theorem returnJournal_balance {id : String} {balance : Customer → Int} {change : Write → Int → Int}
    {moves : ∀ w c, balance (w.onCustomer c) = change w (balance c)} (w : Word) (env : Env)
    (products : Table Product.id) (debt : Option Int) (sale : Sale) (o : Option Int) :
    (balanceCell id balance change moves).steps (returnJournal w env products debt sale) o =
      (balanceCell id balance change moves).steps (balanceWrites w env sale.toSaleRow debt) o := by
  rw [returnJournal, Cell.steps_append, Cell.steps_append, Cell.steps_append,
    balance_within.frame (confined_restock _ _ _ _) (by decide),
    balance_within.frame (confined_ledger _ _ _) (by decide),
    balance_within.frame (confined_closing _ _ _ _) (by decide)]

/-- The debt after the writes of a refund that takes `amount` off it. -/
theorem debtRefund_debt (w : Word) (env : Env) (sale : SaleRow) (debt amount : Int) (note : Text) (o : Option Int) :
    (debtCell sale.customerID).steps (debtRefundWrites w env sale debt amount note) o =
      o.map fun owed => clampSub owed amount := by
  rw [debtRefundWrites, Cell.steps_cons]
  rw [(debt_within sale.customerID).frame (confined_rowFor _ _) (by decide)]
  exact if_pos rfl

theorem debtRefund_installmentDebt (w : Word) (env : Env) (sale : SaleRow) (debt amount : Int) (note : Text)
    (o : Option Int) :
    (installmentDebtCell sale.customerID).steps (debtRefundWrites w env sale debt amount note) o = o := by
  rw [debtRefundWrites, Cell.steps_cons]
  rw [(installmentDebt_within sale.customerID).frame (confined_rowFor _ _) (by decide)]
  exact balance_fixed (fun _ => rfl) o

/-- What a full return gives back through the customer's debt and its pay-out. -/
def creditGiven (env : Env) (sale : SaleRow) (debt : Option Int) : Int :=
  match sale.paymentMethod, debt with
  | .credit, some _ => if sale.customerID = "" then 0 else sale.total
  | .split, some _ => if sale.customerID ≠ "" ∧ 0 < creditRemaining .exact env sale then
      creditRemaining .exact env sale else 0
  | _, _ => 0

theorem pointWrites_debt (id : String) (amount delta : Int) (o : Option Int) :
    (debtCell id).steps [.decrementPurchases id amount, .adjustPoints id delta] o = o := by
  simp [debtCell, balanceCell, Write.customer, debtChange, Function.comp_def]

theorem pointWrites_installmentDebt (id : String) (amount delta : Int) (o : Option Int) :
    (installmentDebtCell id).steps [.decrementPurchases id amount, .adjustPoints id delta] o = o := by
  simp [installmentDebtCell, balanceCell, Write.customer, installmentDebtChange, Function.comp_def]

/-- Debt goes down by what is not paid out, for the credit method and the credit leg. -/
theorem full_debt (env : Env) (sale : SaleRow) (debt : Option Int) :
    lowered debt ((debtCell sale.customerID).steps (balanceWrites .exact env sale debt) debt) +
      (creditOverpay .exact sale debt + unpassedCash env sale debt) = creditGiven env sale debt := by
  unfold balanceWrites creditOverpay unpassedCash creditGiven
  by_cases anonymous : sale.customerID = ""
  · cases sale.paymentMethod <;> cases debt <;> simp [anonymous, lowered_self]
  · rw [if_neg anonymous, Cell.steps_append, pointWrites_debt]
    cases kind : sale.paymentMethod with
    | credit =>
      cases debt with
      | none => simp [lowered]
      | some owed =>
        have given := debt_and_payout owed sale.total
        have nonneg := overpaid_nonneg owed sale.total
        simp only [debtRefund_debt, Option.map_some, lowered_clampSub, anonymous, if_false]
        omega
    | installment =>
      have kept : ∀ o, (debtCell sale.customerID).steps
          (installmentDebtWrites sale (installmentOutstanding .exact sale)) o = o := by
        intro o
        unfold installmentDebtWrites
        split
        · exact balance_fixed (fun _ => rfl) o
        · rfl
      simp only [installmentRefundWrites, Cell.steps_append, kept]
      rw [(debt_within sale.customerID).frame (confined_rowFor _ _) (by decide)]
      simp [lowered_self]
    | split =>
      cases debt with
      | none => simp [splitCreditWrites, lowered]
      | some owed =>
        have given := debt_and_payout owed (creditRemaining .exact env sale)
        by_cases positive : 0 < creditRemaining .exact env sale
        · simp only [splitCreditWrites, positive, if_true, debtRefund_debt, Option.map_some, lowered_clampSub,
            anonymous, ne_eq, not_false_eq_true, and_self]
          omega
        · simp [splitCreditWrites, positive, lowered]
    | cash | card | other => simp [lowered_self]

/-- What the installment debt falls by when `amount` is taken off, if anything is. -/
def installmentTaken (owed : Option Int) (amount : Int) : Int :=
  match owed with
  | none => 0
  | some owed => if 0 < amount then min owed amount else 0

theorem full_installmentDebt (env : Env) (sale : SaleRow) (debt o : Option Int) (named : sale.customerID ≠ "") :
    lowered o ((installmentDebtCell sale.customerID).steps (balanceWrites .exact env sale debt) o) =
      if sale.paymentMethod = .installment then installmentTaken o (installmentOutstanding .exact sale) else 0 := by
  unfold balanceWrites
  rw [if_neg named, Cell.steps_append, pointWrites_installmentDebt]
  cases kind : sale.paymentMethod with
  | credit =>
    cases debt with
    | none => simp [lowered_self]
    | some owed => simp [debtRefund_installmentDebt, lowered_self]
  | installment =>
    simp only [installmentRefundWrites, Cell.steps_append, if_true]
    rw [(installmentDebt_within sale.customerID).frame (confined_rowFor _ _) (by decide)]
    unfold installmentDebtWrites
    by_cases positive : 0 < installmentOutstanding .exact sale
    · rw [if_pos positive]
      cases o with
      | none => simp [installmentTaken, lowered, installmentDebtCell, balanceCell, Write.customer]
      | some owed =>
        have fell := lowered_clampSub owed (installmentOutstanding .exact sale)
        simpa [installmentTaken, positive, installmentDebtCell, balanceCell, Write.customer, installmentDebtChange]
          using fell
    · rw [if_neg positive]
      cases o <;> simp [installmentTaken, positive, lowered]
  | split =>
    cases debt with
    | none => simp [splitCreditWrites, lowered_self]
    | some owed =>
      unfold splitCreditWrites
      simp only
      split
      · simp [debtRefund_installmentDebt, lowered_self]
      · simp [lowered_self]
  | cash | card | other => simp [lowered_self]

/-- Money handed back by the ledger part of a full return, in cash and by card. -/
theorem full_ledger (valid : ValidSale sale.toSaleRow)
    (keys : ∀ split, sale.paymentMethod = .split → sale.splitDetails = some split →
      ∀ leg ∈ split.legs, SplitKey leg.1) :
    rowSum (handed .cash) (ledgerWrites .exact env sale.toSaleRow) +
        rowSum (handed .card) (ledgerWrites .exact env sale.toSaleRow) =
      match sale.paymentMethod, sale.splitDetails with
      | .cash, _ | .card, _ => sale.total
      | .split, some _ => sale.total - creditRemaining .exact env sale.toSaleRow
      | _, _ => 0 := by
  have nonneg := valid.nonneg
  cases kind : sale.paymentMethod with
  | cash | card =>
    simp only [ledgerWrites, kind, rowSum_payment]
    rw [handed_refund _ _ _ nonneg, handed_refund _ _ _ nonneg]
    simp
  | split =>
    cases details : sale.splitDetails with
    | none => simp [ledgerWrites, kind, details]
    | some split =>
      have covered := valid.coveredSplit kind details
      have sum := three_legs_sum covered.remaining_distinct
        (@CoveredSplit.remaining_keys _ _ (env.order 1) covered (keys split kind details))
      have order := covered.remaining_order (env.order 1) (env.order 0) (m := .credit) (.inr rfl)
      rw [covered.remaining_sum, order] at sum
      simp only [ledgerWrites, kind, details]
      rw [splitLedger_rows covered .cash, splitLedger_rows covered .card, if_neg (by simp), if_neg (by simp)]
      simp only [creditRemaining]
      omega
  | credit | installment | other => simp [ledgerWrites, kind]

/-- What is outstanding and what was taken in make up the total. -/
theorem installment_parts (sale : SaleRow) :
    installmentRefundable .exact sale + installmentOutstanding .exact sale = sale.total := by
  unfold installmentRefundable installmentOutstanding
  cases sale.installmentPlan with
  | none => simp
  | some plan =>
    simp only [Word.exact_add, Word.exact_sub]
    omega

end Full

/-- Everything a call gave back: off both debts, in cash and by card. -/
def givenBack (db final : Store) (ws : List Write) (customerID : String) : Int :=
  lowered (debtOf db customerID) (debtOf final customerID) +
  lowered (installmentDebtOf db customerID) (installmentDebtOf final customerID) +
  rowSum (handed .cash) ws + rowSum (handed .card) ws

/-- What a full return needs in order to give the whole total back. -/
def FullyCovered (env : Env) (db : Store) (sale : SaleRow) : Prop :=
  match sale.paymentMethod, sale.splitDetails with
  | .cash, _ | .card, _ | .credit, _ => True
  | .installment, _ => installmentOutstanding .exact sale = 0 ∨
      (0 < installmentOutstanding .exact sale ∧
        ∃ owed, installmentDebtOf db sale.customerID = some owed ∧ installmentOutstanding .exact sale ≤ owed)
  | .split, some _ => creditRemaining .exact env sale = 0 ∨ (debtOf db sale.customerID).isSome
  | .split, none | .other _ _, _ => sale.total = 0

section FullValue

variable {env : Env} {db : Store} {sale : Sale} {split : SplitDetails}

theorem creditRemaining_nonneg {sale : SaleRow} (covered : CoveredSplit sale split) (env : Env) :
    0 ≤ creditRemaining .exact env sale :=
  getD_nonneg covered.remaining_nonneg .credit

/-- A credit leg is only left where there is a customer. -/
theorem creditRemaining_named {sale : SaleRow} (valid : ValidSale sale) (kind : sale.paymentMethod = .split)
    (details : sale.splitDetails = some split) (left : 0 < creditRemaining .exact env sale) : sale.customerID ≠ "" := by
  intro anonymous
  have paid := valid.anonymous anonymous
  have covered := valid.coveredSplit kind details
  unfold creditRemaining at left
  cases found : legOf (saleRemainingLegs .exact (env.order 0) sale) .credit with
  | none =>
    rw [found] at left
    exact absurd left (lt_irrefl 0)
  | some amount =>
    obtain ⟨leg, named, positive⟩ := covered.remaining_named found
    refine paid.split ⟨kind, split, details, ?_⟩
    simpa [SplitDetails.get, named] using positive

theorem installmentTaken_covers (owed : Option Int) (amount : Int) :
    installmentTaken owed amount = amount ↔ amount = 0 ∨ (0 < amount ∧ ∃ o, owed = some o ∧ amount ≤ o) := by
  unfold installmentTaken
  cases owed with
  | none => simp [eq_comm]
  | some o =>
    simp only [Option.some.injEq, exists_eq_left']
    split <;> omega

theorem creditGiven_split (valid : ValidSale sale.toSaleRow) (kind : sale.paymentMethod = .split)
    (details : sale.splitDetails = some split) (debt : Option Int) :
    creditGiven env sale.toSaleRow debt = creditRemaining .exact env sale.toSaleRow ↔
      creditRemaining .exact env sale.toSaleRow = 0 ∨ debt.isSome := by
  have nonneg := creditRemaining_nonneg (valid.coveredSplit kind details) env
  unfold creditGiven
  cases debt with
  | none => simp [kind, eq_comm]
  | some owed =>
    simp only [kind, Option.isSome_some, or_true, iff_true]
    by_cases left : 0 < creditRemaining .exact env sale.toSaleRow
    · rw [if_pos ⟨creditRemaining_named valid kind details left, left⟩]
    · rw [if_neg fun h => left h.2]
      omega

/-- Off the installment debt of a fully returned sale: the outstanding part, if it is owed. -/
theorem full_installmentLowered (valid : ValidSale sale.toSaleRow) (env : Env) (debt o : Option Int) :
    lowered o ((installmentDebtCell sale.customerID).steps (balanceWrites .exact env sale.toSaleRow debt) o) =
      if sale.paymentMethod = .installment then installmentTaken o (installmentOutstanding .exact sale.toSaleRow)
      else 0 := by
  by_cases anonymous : sale.customerID = ""
  · have paid := (valid.anonymous anonymous).installment
    simp [balanceWrites, anonymous, paid, lowered_self]
  · exact full_installmentDebt env sale.toSaleRow debt o anonymous

/-- Everything a full return gives back, part by part. -/
theorem full_givenBack {final : Store} (valid : ValidSale sale.toSaleRow)
    (keys : ∀ split, sale.paymentMethod = .split → sale.splitDetails = some split →
      ∀ leg ∈ split.legs, SplitKey leg.1)
    {x : DbTx Unit} (h : Does x db u (returnJournal .exact env db.products (debtOf db sale.customerID) sale) final) :
    givenBack db final (returnJournal .exact env db.products (debtOf db sale.customerID) sale) sale.customerID =
      creditGiven env sale.toSaleRow (debtOf db sale.customerID) +
      (if sale.paymentMethod = .installment then
        installmentTaken (installmentDebtOf db sale.customerID) (installmentOutstanding .exact sale.toSaleRow) +
          installmentRefundable .exact sale.toSaleRow
      else 0) +
      (match sale.paymentMethod, sale.splitDetails with
      | .cash, _ | .card, _ => sale.total
      | .split, some _ => sale.total - creditRemaining .exact env sale.toSaleRow
      | _, _ => 0) := by
  have debt := debt_replayed h sale.customerID
  have owed := installmentDebt_replayed h sale.customerID
  have credit := full_debt env sale.toSaleRow (debtOf db sale.customerID)
  have installment := full_installmentLowered valid env (debtOf db sale.customerID) (installmentDebtOf db sale.customerID)
  have ledger := @full_ledger env _ valid keys
  unfold debtCell at debt credit
  unfold installmentDebtCell at owed installment
  rw [returnJournal_balance] at debt owed
  have other : ¬ PaymentMethod.cash = PaymentMethod.card := by simp
  rw [givenBack, debt, owed, installment, returnJournal_rows, returnJournal_rows,
    balance_rows .cash env sale.toSaleRow _ valid, balance_rows .card env sale.toSaleRow _ valid, if_pos rfl, if_neg other]
  split <;> omega

/-- A full return gives the whole total back exactly where the total is covered. -/
theorem full_value {final : Store} (valid : ValidSale sale.toSaleRow)
    (debtor : debtorFound sale.toSaleRow (debtOf db sale.customerID))
    (keys : ∀ split, sale.paymentMethod = .split → sale.splitDetails = some split →
      ∀ leg ∈ split.legs, SplitKey leg.1)
    {x : DbTx Unit} (h : Does x db u (returnJournal .exact env db.products (debtOf db sale.customerID) sale) final) :
    sale.total = givenBack db final (returnJournal .exact env db.products (debtOf db sale.customerID) sale)
      sale.customerID ↔ FullyCovered env db sale.toSaleRow := by
  rw [full_givenBack valid keys h]
  unfold FullyCovered
  cases kind : sale.paymentMethod with
  | cash | card => simp [creditGiven, kind]
  | credit =>
    have named : sale.customerID ≠ "" := fun anonymous => (valid.anonymous anonymous).credit kind
    obtain ⟨owed, found⟩ := Option.isSome_iff_exists.mp (debtor named kind)
    simp [creditGiven, kind, found, named]
  | installment =>
    have parts := installment_parts sale.toSaleRow
    have taken := installmentTaken_covers (installmentDebtOf db sale.customerID)
      (installmentOutstanding .exact sale.toSaleRow)
    have credit : creditGiven env sale.toSaleRow (debtOf db sale.customerID) = 0 := by simp [creditGiven, kind]
    simp only [credit, if_true, ← taken]
    constructor
    · intro total
      omega
    · intro total
      omega
  | split =>
    cases details : sale.splitDetails with
    | none =>
      have credit : creditGiven env sale.toSaleRow (debtOf db sale.customerID) = 0 := by
        unfold creditGiven creditRemaining saleRemainingLegs
        cases debtOf db sale.customerID <;> simp [kind, details]
      simp [credit]
    | some split =>
      have given := @creditGiven_split env _ _ valid kind details (debtOf db sale.customerID)
      simp only [reduceCtorEq, if_false, ← given]
      constructor
      · intro total
        omega
      · intro total
        omega
  | other => simp [creditGiven, kind]

end FullValue

/-- The part of a credit share that the customer's debt does not cover. -/
def uncovered (debt : Option Int) (creditShare : Int) : Int :=
  if 0 < creditShare then creditShare - (debt.map fun owed => min owed creditShare).getD 0 else 0

/-- What a partial return needs in order to give its refund back. For a split payment,
what truncation cuts off the shares and what the debt does not cover has to be exactly
what the legs, as they were paid, overstate the invoice by. -/
def PartiallyCovered (db : Store) (sale : SaleRow) (refundAmount : Int) : Prop :=
  match sale.paymentMethod, sale.splitDetails with
  | .cash, _ | .card, _ | .credit, _ => True
  | .installment, _ => ∃ owed, installmentDebtOf db sale.customerID = some owed ∧ refundAmount ≤ owed
  | .split, some split =>
    refundAmount * split.get .cash % sale.total + refundAmount * split.get .card % sale.total +
        refundAmount * split.get .credit % sale.total +
        sale.total * uncovered (debtOf db sale.customerID) (share refundAmount (split.get .credit) sale.total) =
      refundAmount * (split.total - sale.total)
  | .split, none | .other _ _, _ => False

section PartialValue

variable {env : Env} {db : Store} {sale : Sale} {split : SplitDetails} {item : SaleItem} {qtyToReturn : ℚ}
  {refundAmount : Int}

theorem partialJournal_balance {id : String} {balance : Customer → Int} {change : Write → Int → Int}
    {moves : ∀ w c, balance (w.onCustomer c) = change w (balance c)} (w : Word) (env : Env) (db : Store)
    (saleID productID : String) (qtyToReturn : ℚ) (item : SaleItem) (sale : Sale) (o : Option Int) :
    (balanceCell id balance change moves).steps (partialJournal w env db saleID productID qtyToReturn item sale) o =
      (balanceCell id balance change moves).steps (partialBalanceWrites w env sale.toSaleRow
        (returnedLine item qtyToReturn) qtyToReturn (partialRefund w sale item qtyToReturn)
        (debtOf db sale.customerID)) o := by
  obtain ⟨back, parts, rest⟩ := partialJournal_parts w env db saleID productID qtyToReturn item sale
  rw [parts, Cell.steps_append, Cell.steps_append, Cell.steps_append, Cell.steps_append,
    balance_within.frame (confined_line _) (by decide), balance_within.frame (confined_partialStock _ _ _ _ _ _) (by decide),
    balance_within.frame (confined_partialLedger _ _ _ _ _) (by decide), balance_within.frame rest (by decide)]

theorem creditShareWrites_debt (sale : SaleRow) (refundAmount : Int) (debt : Option Int)
    (nonneg : 0 ≤ creditShare .exact sale refundAmount) :
    lowered debt ((debtCell sale.customerID).steps (creditShareWrites .exact sale refundAmount) debt) =
      creditShare .exact sale refundAmount - uncovered debt (creditShare .exact sale refundAmount) := by
  unfold creditShareWrites uncovered
  split
  · cases debt with
    | none => simp [lowered, debtCell, balanceCell]
    | some owed =>
      have fell := lowered_clampSub owed (creditShare .exact sale refundAmount)
      simp only [debtCell, balanceCell, Cell.steps_cons, Cell.steps_nil, Write.customer, if_true, Option.map_some,
        debtChange, fell, Option.getD_some]
      omega
  · rw [Cell.steps_nil, lowered_self]
    omega

/-- The debt a partial return takes off, with what it pays out for a credit sale. -/
theorem partial_debt (env : Env) (sale : SaleRow) (item : SaleItem) (qtyToReturn : ℚ) (refundAmount : Int)
    (debt : Option Int) :
    lowered debt ((debtCell sale.customerID).steps
        (partialBalanceWrites .exact env sale item qtyToReturn refundAmount debt) debt) +
      partialOverpay .exact sale refundAmount debt =
    if sale.customerID = "" then 0
    else
      match sale.paymentMethod, debt with
      | .credit, some _ => refundAmount
      | .split, _ => lowered debt ((debtCell sale.customerID).steps (creditShareWrites .exact sale refundAmount) debt)
      | _, _ => 0 := by
  unfold partialBalanceWrites partialOverpay
  by_cases anonymous : sale.customerID = ""
  · cases sale.paymentMethod <;> cases debt <;> simp [anonymous, lowered_self]
  · rw [if_neg anonymous, if_neg anonymous, Cell.steps_append, pointWrites_debt]
    cases kind : sale.paymentMethod with
    | credit =>
      cases debt with
      | none => simp [lowered]
      | some owed =>
        have given := debt_and_payout owed refundAmount
        simp only [debtRefund_debt, Option.map_some, lowered_clampSub, anonymous, if_false]
        exact given
    | installment =>
      have kept : (debtCell sale.customerID).steps [.decrementInstallmentDebt sale.customerID refundAmount] debt =
          debt := balance_fixed (fun _ => rfl) debt
      simp [kept, lowered_self]
    | split => simp
    | cash | card | other => simp [lowered_self]

theorem partial_installmentDebt (env : Env) (sale : SaleRow) (item : SaleItem) (qtyToReturn : ℚ)
    (refundAmount : Int) (debt o : Option Int) (named : sale.customerID ≠ "") :
    lowered o ((installmentDebtCell sale.customerID).steps
        (partialBalanceWrites .exact env sale item qtyToReturn refundAmount debt) o) =
      if sale.paymentMethod = .installment then (o.map fun owed => min owed refundAmount).getD 0 else 0 := by
  unfold partialBalanceWrites
  rw [if_neg named, Cell.steps_append, pointWrites_installmentDebt]
  cases kind : sale.paymentMethod with
  | credit =>
    cases debt with
    | none => simp [lowered_self]
    | some owed => simp [debtRefund_installmentDebt, lowered_self]
  | installment =>
    cases o with
    | none => simp [lowered, installmentDebtCell, balanceCell]
    | some owed =>
      have fell := lowered_clampSub owed refundAmount
      simpa [installmentDebtCell, balanceCell, Write.customer, installmentDebtChange] using fell
  | split =>
    have kept : (installmentDebtCell sale.customerID).steps (creditShareWrites .exact sale refundAmount) o = o := by
      unfold creditShareWrites
      split
      · exact balance_fixed (fun _ => rfl) o
      · rfl
    simp [kept, lowered_self]
  | cash | card | other => simp [lowered_self]

/-- Everything a partial return gives back, part by part. -/
theorem partial_givenBack {final : Store} {saleID productID : String} (valid : ValidSale sale.toSaleRow) {x : DbTx Unit}
    (h : Does x db u (partialJournal .exact env db saleID productID qtyToReturn item sale) final) :
    givenBack db final (partialJournal .exact env db saleID productID qtyToReturn item sale) sale.customerID =
      (if sale.customerID = "" then 0
      else
        match sale.paymentMethod, debtOf db sale.customerID with
        | .credit, some _ => partialRefund .exact sale item qtyToReturn
        | .split, _ => lowered (debtOf db sale.customerID) ((debtCell sale.customerID).steps
            (creditShareWrites .exact sale.toSaleRow (partialRefund .exact sale item qtyToReturn))
            (debtOf db sale.customerID))
        | _, _ => 0) +
      (if sale.paymentMethod = .installment then ((installmentDebtOf db sale.customerID).map fun owed =>
        min owed (partialRefund .exact sale item qtyToReturn)).getD 0 else 0) +
      rowSum (handed .cash) (partialLedgerWrites .exact env sale.toSaleRow (partialNote item qtyToReturn)
        (partialRefund .exact sale item qtyToReturn)) +
      rowSum (handed .card) (partialLedgerWrites .exact env sale.toSaleRow (partialNote item qtyToReturn)
        (partialRefund .exact sale item qtyToReturn)) := by
  have debt := (debt_replayed h sale.customerID).trans (partialJournal_balance ..)
  have owed := (installmentDebt_replayed h sale.customerID).trans (partialJournal_balance ..)
  have credit := partial_debt env sale.toSaleRow (returnedLine item qtyToReturn) qtyToReturn
    (partialRefund .exact sale item qtyToReturn) (debtOf db sale.customerID)
  have installment : lowered (installmentDebtOf db sale.customerID) ((installmentDebtCell sale.customerID).steps
      (partialBalanceWrites .exact env sale.toSaleRow (returnedLine item qtyToReturn) qtyToReturn
        (partialRefund .exact sale item qtyToReturn) (debtOf db sale.customerID))
      (installmentDebtOf db sale.customerID)) =
      if sale.paymentMethod = .installment then ((installmentDebtOf db sale.customerID).map fun owed =>
        min owed (partialRefund .exact sale item qtyToReturn)).getD 0 else 0 := by
    by_cases anonymous : sale.customerID = ""
    · have paid := (valid.anonymous anonymous).installment
      simp [partialBalanceWrites, anonymous, paid, lowered_self]
    · exact partial_installmentDebt env sale.toSaleRow _ _ _ _ _ anonymous
  change _ = (debtCell sale.customerID).steps _ _ at debt
  change _ = (installmentDebtCell sale.customerID).steps _ _ at owed
  have other : ¬ PaymentMethod.cash = PaymentMethod.card := by simp
  rw [givenBack, debt, owed, installment, partialJournal_rows, partialJournal_rows, partialBalance_rows,
    partialBalance_rows, if_pos rfl, if_neg other, ← credit]
  omega

theorem share_remainder (whole : Int) {amount part : Int} (nonneg : 0 ≤ amount) (low : 0 ≤ part) :
    whole * share amount part whole = amount * part - amount * part % whole := by
  rw [share_eq_div nonneg low]
  have parts := Int.emod_add_mul_ediv (amount * part) whole
  omega

theorem creditShare_eq {sale : SaleRow} (total : 0 < sale.total) (details : sale.splitDetails = some split)
    (legs : ∀ leg ∈ split.legs, 0 ≤ leg.2) (refundAmount : Int) :
    creditShare .exact sale refundAmount = share refundAmount (split.get .credit) sale.total := by
  have low := SplitDetails.get_nonneg legs .credit
  simp only [creditShare, details, total, true_and, legShare_exact]
  split
  · rfl
  · have zero : split.get .credit = 0 := by omega
    rw [zero, share_zero]

/-- The parts of a split sale's refund, with the shares written as exact fractions. -/
theorem split_value (lost : Int) {total refund cash card credit : Int} (positive : 0 < total) (nonneg : 0 ≤ refund)
    (cashLow : 0 ≤ cash) (cardLow : 0 ≤ card) (creditLow : 0 ≤ credit) :
    refund = share refund credit total - lost + share refund cash total + share refund card total ↔
      refund * cash % total + refund * card % total + refund * credit % total + total * lost =
        refund * (cash + card + credit - total) := by
  have first := share_remainder total nonneg cashLow
  have second := share_remainder total nonneg cardLow
  have third := share_remainder total nonneg creditLow
  have expand : refund * (cash + card + credit - total) =
      refund * cash + refund * card + refund * credit - total * refund := by ring
  have scale : total * (share refund credit total - lost + share refund cash total + share refund card total) =
      total * share refund credit total - total * lost + total * share refund cash total +
        total * share refund card total := by ring
  constructor
  · intro same
    rw [← same] at scale
    omega
  · intro same
    have scaled : total * refund =
        total * (share refund credit total - lost + share refund cash total + share refund card total) := by omega
    exact mul_left_cancel₀ positive.ne' scaled

/-- A partial return gives its refund back exactly where the refund is covered. -/
theorem partial_value {final : Store} {saleID productID : String} (valid : ValidSale sale.toSaleRow)
    (facts : PartialFacts .exact db saleID productID qtyToReturn item sale)
    (keys : ∀ split, sale.paymentMethod = .split → sale.splitDetails = some split →
      ∀ leg ∈ split.legs, SplitKey leg.1)
    {x : DbTx Unit} (h : Does x db u (partialJournal .exact env db saleID productID qtyToReturn item sale) final) :
    partialRefund .exact sale item qtyToReturn =
        givenBack db final (partialJournal .exact env db saleID productID qtyToReturn item sale) sale.customerID ↔
      PartiallyCovered db sale.toSaleRow (partialRefund .exact sale item qtyToReturn) := by
  have refund := facts.refund
  have total : 0 < sale.total := lt_of_lt_of_le refund (partialRefund_le ..)
  rw [partial_givenBack valid h]
  unfold PartiallyCovered
  generalize partialRefund .exact sale item qtyToReturn = refundAmount at refund ⊢
  cases kind : sale.paymentMethod with
  | cash | card | other =>
    have single := @payingLegs_other sale (by simp [kind])
    rw [partialLedger_single .cash _ refund single, partialLedger_single .card _ refund single]
    simp [kind]
    try omega
  | credit =>
    have named : sale.customerID ≠ "" := fun anonymous => (valid.anonymous anonymous).credit kind
    obtain ⟨owed, found⟩ := Option.isSome_iff_exists.mp (facts.debtor named kind)
    have single := @payingLegs_other sale (by simp [kind])
    rw [partialLedger_single .cash _ refund single, partialLedger_single .card _ refund single]
    simp [kind, found, named]
  | installment =>
    have single := @payingLegs_other sale (by simp [kind])
    rw [partialLedger_single .cash _ refund single, partialLedger_single .card _ refund single]
    cases owed : installmentDebtOf db sale.customerID with
    | none => simp [kind]; omega
    | some amount => simp [kind]
  | split =>
    cases details : sale.splitDetails with
    | none =>
      have single : payingLegs sale.toSaleRow = none := by simp [payingLegs, kind, details]
      have share : creditShareWrites .exact sale.toSaleRow refundAmount = [] := by
        simp [creditShareWrites, creditShare, details]
      rw [partialLedger_single .cash _ refund single, partialLedger_single .card _ refund single]
      simp [kind, share, lowered_self]
      omega
    | some split =>
      have paid := (valid.split kind split details).1
      have legs : payingLegs sale.toSaleRow = some split := by rw [payingLegs, if_pos ⟨kind, total⟩, details]
      have sum := three_legs_sum split.distinct (keys split kind details)
      have credit := creditShare_eq total details paid refundAmount
      have low := SplitDetails.get_nonneg paid .credit
      have debt := creditShareWrites_debt sale.toSaleRow refundAmount (debtOf db sale.customerID)
        (by rw [credit]; exact share_nonneg refund.le low total.le)
      have given : (if sale.customerID = "" then 0 else lowered (debtOf db sale.customerID)
          ((debtCell sale.customerID).steps (creditShareWrites .exact sale.toSaleRow refundAmount)
            (debtOf db sale.customerID))) =
          share refundAmount (split.get .credit) sale.total -
            uncovered (debtOf db sale.customerID) (share refundAmount (split.get .credit) sale.total) := by
        rw [debt, credit]
        split
        · rename_i anonymous
          have none : ¬ 0 < split.get .credit := fun owed =>
            (valid.anonymous anonymous).split ⟨kind, split, details, owed⟩
          have zero : split.get .credit = 0 := by omega
          simp [zero, uncovered]
        · rfl
      have value := split_value (uncovered (debtOf db sale.customerID)
        (share refundAmount (split.get .credit) sale.total)) total refund.le
        (SplitDetails.get_nonneg paid .cash) (SplitDetails.get_nonneg paid .card) low
      have whole : split.total = split.get .cash + split.get .card + split.get .credit := sum
      simp only [partialLedgerWrites, legs, partialLegs_rows total refund paid, legPayout, reduceCtorEq, if_false,
        add_zero, given, whole]
      exact value

end PartialValue

/-- What a return needs in order to give back exactly the value it takes off the sale. -/
def Covered (env : Env) (db : Store) (saleID : String) (sale : SaleRow) : ReturnCall → Prop
  | .full => FullyCovered env db sale
  | .part productID qtyToReturn =>
    PartiallyCovered db sale (returnValue .exact db saleID (.part productID qtyToReturn))

section Lost

def quarterLeft : InstallmentPlan := ⟨2000, 1500, 1, "2026-01-01", some [⟨1, "2026-02-01", 500, .pending, 0⟩]⟩

/-- Two teas on a plan that leaves a quarter of the price to installments. -/
def planned : Store :=
  after serve [(till, .processSale sara (teaSale "s1" "ali" .installment none (some quarterLeft) 2))] shop

theorem planned_reachable : Reachable planned := Reachable.after (.start shop rfl rfl) _

theorem planned_keys : ∀ sale, planned.getSale "s1" = some sale → ∀ split ∈ sale.splitDetails, ∀ leg ∈ split.legs,
    SplitKey leg.1 := by
  have unsplit : (planned.getSale "s1").all (fun sale => sale.splitDetails = none) := by decide +kernel
  intro sale loaded split details
  rw [loaded] at unsplit
  simp only [Option.all_some, decide_eq_true_eq] at unsplit
  rw [unsplit] at details
  cases details

end Lost

end BeidarPos
