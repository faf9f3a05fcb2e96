import BeidarPos.SaleJournal

/-! The books of one sale: the invoice columns, the ledger rows, the drawer and the
customer's two debts are computed by separate case distinctions on the payment
method, and agree. Amounts are exact here, as long as nothing leaves 64 bits. -/
namespace BeidarPos

open Machine Rounding Relational Journal Tx

/-- The sums a cart accumulates when every line was found. -/
theorem soldCart_exact {products : Table Product.id} {items : List SaleItem}
    (available : ∀ item ∈ items, Available .exact products item) :
    (soldCart .exact products items).subtotal =
      (items.map fun item => roundHalfAway (item.price * item.quantity)).sum ∧
    (soldCart .exact products items).total = (items.map (lineTotal .exact)).sum := by
  suffices h : ∀ cart : Cart,
      (items.foldl (addToCart .exact products) cart).subtotal =
        cart.subtotal + (items.map fun item => roundHalfAway (item.price * item.quantity)).sum ∧
      (items.foldl (addToCart .exact products) cart).total = cart.total + (items.map (lineTotal .exact)).sum by
    simpa [soldCart] using h ⟨[], 0, 0⟩
  induction items with
  | nil => simp
  | cons item items ih =>
    intro cart
    obtain ⟨product, found, _⟩ := available item (by simp)
    have rest := ih (fun other member => available other (by simp [member])) (addToCart .exact products cart item)
    simp only [List.foldl_cons, List.map_cons, List.sum_cons, rest.1, rest.2]
    simp only [addToCart, found, Word.exact_add, Amount.mulFloat, Word.exact_wrap]
    constructor <;> ring

theorem saleTotal_exact (env : Env) (db : Store) (request : Sale) :
    (pricedSale .exact env db request).total =
      (soldCart .exact db.products request.items).total - request.discount +
        (pricedSale .exact env db request).vat := by
  simp [pricedSale, priceSale, stampSale]

theorem saleTaxable_nonneg (facts : SaleFacts .exact env db request) :
    0 ≤ (soldCart .exact db.products request.items).total - request.discount := by
  have bounded := facts.bounded
  omega

theorem saleVat_nonneg (facts : SaleFacts .exact env db request) : 0 ≤ (pricedSale .exact env db request).vat := by
  simp only [pricedSale, priceSale, stampSale]
  split
  · rename_i rate
    exact percentage_nonneg (saleTaxable_nonneg facts) rate.le
  · exact le_rfl

theorem saleTotal_nonneg (facts : SaleFacts .exact env db request) :
    0 ≤ (pricedSale .exact env db request).total := by
  have taxable := saleTaxable_nonneg facts
  have vat := saleVat_nonneg facts
  rw [saleTotal_exact]
  omega

section Payments

variable {env : Env} {sale : SaleRow}

/-- The legs of an accepted split payment, in whatever order, make up the total. -/
theorem split_complete (checked : CheckedSplit .exact env sale split) : split.total = sale.total := by
  have visited := checked.complete
  rw [Word.exact_foldl] at visited
  rw [SplitDetails.total, ← visited, Int.zero_add]
  exact (((env.order 1).perm split.legs).map Prod.snd).sum_eq.symm

theorem splitPayments_sum (g : Payment → Int) (split : SplitDetails) :
    rowSum g (splitPaymentWrites env sale split) =
      (split.legs.map fun leg => if 0 < leg.2 then g (paymentRow env sale leg.2 leg.1 "Split Payment") else 0).sum := by
  rw [splitPaymentWrites, rowSum_flatMap]
  simp only [rowSum_rowFor]
  exact (((env.order 2).perm split.legs).map _).sum_eq

/-- What an accepted split payment records under a method is the leg of that method. -/
theorem splitPayments_in (checked : CheckedSplit .exact env sale split) (m : PaymentMethod) :
    rowSum (paidIn m) (splitPaymentWrites env sale split) = split.get m := by
  have read := Keyed.sum_at (k := m) (fun amount : Int => amount) split.distinct
  rw [Option.map_id'] at read
  rw [splitPayments_sum, SplitDetails.get, ← read]
  refine congrArg List.sum (List.map_congr_left ?_)
  intro leg member
  have := (checked.legs leg member).1
  by_cases key : leg.1 = m
  · simp only [paidIn, paymentRow, key, if_true]
    split <;> omega
  · simp [paidIn, paymentRow, key]

theorem splitPayments_total (checked : CheckedSplit .exact env sale split) :
    rowSum Payment.amount (splitPaymentWrites env sale split) = sale.total := by
  rw [splitPayments_sum, ← split_complete checked]
  refine congrArg List.sum (List.map_congr_left ?_)
  intro leg member
  have := (checked.legs leg member).1
  simp only [paymentRow]
  split <;> omega

/-- What a sale without split legs records: its own method, and the down payment as cash. -/
theorem singlePayments_sum (g : Payment → Int)
    (notSplit : ∀ split, sale.paymentMethod = .split → sale.splitDetails = some split → False) :
    rowSum g (paymentWrites .exact env sale) =
      (if 0 < paymentAmount .exact sale then
        g (paymentRow env sale (paymentAmount .exact sale) sale.paymentMethod "") else 0) +
      (if 0 < downPayment sale then g (paymentRow env sale (downPayment sale) .cash "الدفعة الأولى") else 0) := by
  rw [paymentWrites_single notSplit, rowSum_append, rowSum_rowFor, rowSum_rowFor]

theorem payments_positive : ∀ row ∈ createdRows (paymentWrites .exact env sale), 0 < row.amount := by
  have positive : ∀ amount method note, ∀ row ∈
      createdRows (rowFor amount (paymentRow env sale amount method note)), 0 < row.amount := by
    intro amount method note row member
    unfold rowFor at member
    split at member
    · rename_i above
      rw [List.mem_singleton.mp member]
      exact above
    · simp at member
  intro row member
  unfold paymentWrites at member
  split at member
  · obtain ⟨v, inside, created⟩ := List.mem_filterMap.mp member
    obtain ⟨leg, _, inLeg⟩ := List.mem_flatMap.mp inside
    exact positive _ _ _ row (List.mem_filterMap.mpr ⟨v, inLeg, created⟩)
  · rw [createdRows_append] at member
    rcases List.mem_append.mp member with inside | inside
    · exact positive _ _ _ row inside
    · exact positive _ _ _ row inside

end Payments

/-- What the payment part of an accepted sale needs to know of it. -/
structure Payable (env : Env) (sale : SaleRow) : Prop where
  nonneg : 0 ≤ sale.total
  plan : sale.paymentMethod = .installment → ∀ plan, sale.installmentPlan = some plan →
    0 ≤ plan.downPayment ∧ plan.downPayment ≤ sale.total
  split : sale.paymentMethod = .split → ∀ split, sale.splitDetails = some split → CheckedSplit .exact env sale split

theorem SaleFacts.payable (facts : SaleFacts .exact env db request) :
    Payable env (pricedSale .exact env db request).toSaleRow where
  nonneg := saleTotal_nonneg facts
  plan := fun kind plan planned =>
    ⟨(facts.plan kind plan planned).downPayment, (facts.plan kind plan planned).bounded⟩
  split := facts.split

theorem downPayment_other (kind : sale.paymentMethod ≠ .installment) : downPayment sale = 0 := by
  unfold downPayment
  split
  · rename_i installment _
    exact absurd installment kind
  · rfl

theorem downPayment_bounds (payable : Payable env sale) : 0 ≤ downPayment sale ∧ downPayment sale ≤ sale.total := by
  have nonneg := payable.nonneg
  unfold downPayment
  split
  · rename_i plan kind planned
    have bounds := payable.plan kind plan planned
    split <;> omega
  · omega

theorem paymentAmount_exact (payable : Payable env sale) :
    paymentAmount .exact sale = sale.total - downPayment sale := by
  have bounds := downPayment_bounds payable
  simp only [paymentAmount, Word.exact_sub]
  split <;> omega

theorem downPayment_installment (payable : Payable env sale) (kind : sale.paymentMethod = .installment) :
    downPayment sale = (sale.installmentPlan.map InstallmentPlan.downPayment).getD 0 := by
  cases planned : sale.installmentPlan with
  | none => simp [downPayment, kind, planned]
  | some plan =>
    have := (payable.plan kind plan planned).1
    simp only [downPayment, kind, planned, Option.map_some, Option.getD_some]
    split <;> omega

/-- A payment sale is either split over legs or recorded under its own method. -/
theorem split_or_single (sale : SaleRow) :
    (∃ split, sale.paymentMethod = .split ∧ sale.splitDetails = some split) ∨
    (∀ split, sale.paymentMethod = .split → sale.splitDetails = some split → False) := by
  by_cases h : ∃ split, sale.paymentMethod = .split ∧ sale.splitDetails = some split
  · exact .inl h
  · exact .inr fun split kind details => h ⟨split, kind, details⟩

theorem payments_total (payable : Payable env sale) :
    rowSum Payment.amount (paymentWrites .exact env sale) = sale.total := by
  rcases split_or_single sale with ⟨split, kind, details⟩ | notSplit
  · simpa [paymentWrites, kind, details] using splitPayments_total (payable.split kind split details)
  · have bounds := downPayment_bounds payable
    rw [singlePayments_sum _ notSplit, paymentAmount_exact payable]
    simp only [paymentRow]
    by_cases rest : 0 < sale.total - downPayment sale <;> by_cases down : 0 < downPayment sale <;>
      simp only [rest, down, if_true, if_false] <;> omega

theorem singlePayments_in (payable : Payable env sale) (m : PaymentMethod)
    (notSplit : ∀ split, sale.paymentMethod = .split → sale.splitDetails = some split → False) :
    rowSum (paidIn m) (paymentWrites .exact env sale) =
      (if sale.paymentMethod = m then sale.total - downPayment sale else 0) +
      (if m = .cash then downPayment sale else 0) := by
  have bounds := downPayment_bounds payable
  rw [singlePayments_sum _ notSplit, paymentAmount_exact payable]
  simp only [paidIn, paymentRow, eq_comm (a := PaymentMethod.cash)]
  by_cases own : sale.paymentMethod = m <;> by_cases cash : m = .cash <;>
    simp only [own, cash, if_true, if_false, ite_self] <;>
    by_cases rest : 0 < sale.total - downPayment sale <;> by_cases down : 0 < downPayment sale <;>
    simp only [rest, down, if_true, if_false] <;> omega

/-- The cash rows of a sale are what it adds to the drawer. -/
theorem payments_cash (payable : Payable env sale) :
    rowSum (paidIn .cash) (paymentWrites .exact env sale) = saleCash sale := by
  rcases split_or_single sale with ⟨split, kind, details⟩ | notSplit
  · simpa [paymentWrites, saleCash, kind, details] using splitPayments_in (payable.split kind split details) .cash
  · rw [singlePayments_in payable .cash notSplit]
    cases kind : sale.paymentMethod with
    | cash => simp [saleCash, kind, downPayment_other]
    | installment =>
      rw [downPayment_installment payable kind]
      cases planned : sale.installmentPlan <;> simp [saleCash, kind, planned]
    | split =>
      have details : sale.splitDetails = none := Option.eq_none_iff_forall_ne_some.mpr (fun split => notSplit split kind)
      simp [saleCash, kind, details, downPayment_other]
    | card | credit | other => simp [saleCash, kind, downPayment_other]

/-- The credit rows of a sale are the debt it leaves. -/
theorem payments_credit (payable : Payable env sale) :
    rowSum (paidIn .credit) (paymentWrites .exact env sale) = debtIncrease sale := by
  rcases split_or_single sale with ⟨split, kind, details⟩ | notSplit
  · simpa [paymentWrites, debtIncrease, kind, details] using
      splitPayments_in (payable.split kind split details) .credit
  · rw [singlePayments_in payable .credit notSplit]
    cases kind : sale.paymentMethod with
    | credit => simp [debtIncrease, kind, downPayment_other]
    | split =>
      have details : sale.splitDetails = none := Option.eq_none_iff_forall_ne_some.mpr (fun split => notSplit split kind)
      simp [debtIncrease, kind, details]
    | cash | card | installment | other => simp [debtIncrease, kind]

/-- The installment rows of a sale are the installment debt it leaves. -/
theorem payments_installment (payable : Payable env sale)
    (keys : ∀ split ∈ sale.splitDetails, ∀ leg ∈ split.legs, leg.1 ≠ .installment) :
    rowSum (paidIn .installment) (paymentWrites .exact env sale) = installmentDebtIncrease .exact sale := by
  rcases split_or_single sale with ⟨split, kind, details⟩ | notSplit
  · have unnamed : legOf split.legs .installment = none :=
      Keyed.valueOf_none.mpr (keys split (by simp [details]))
    simpa [paymentWrites, installmentDebtIncrease, SplitDetails.get, kind, details, unnamed] using
      splitPayments_in (payable.split kind split details) .installment
  · rw [singlePayments_in payable .installment notSplit]
    cases kind : sale.paymentMethod with
    | installment =>
      rw [downPayment_installment payable kind]
      cases planned : sale.installmentPlan <;> simp [installmentDebtIncrease, kind, planned]
    | cash | card | credit | split | other => simp [installmentDebtIncrease, kind]

/-- A sale that leaves no customer leaves no debt. -/
theorem anonymous_debts (facts : SaleFacts .exact env db request) (anonymous : request.customerID = "") :
    debtIncrease (pricedSale .exact env db request).toSaleRow = 0 ∧
    installmentDebtIncrease .exact (pricedSale .exact env db request).toSaleRow = 0 := by
  have paid := facts.admitted.anonymous anonymous
  have credit : (pricedSale .exact env db request).paymentMethod ≠ .credit := paid.credit
  have installment : (pricedSale .exact env db request).paymentMethod ≠ .installment := paid.installment
  constructor
  · unfold debtIncrease
    split
    · rename_i kind
      exact absurd kind credit
    · rename_i split kind details
      have low : 0 ≤ split.get .credit :=
        SplitDetails.get_nonneg (fun leg inside => ((facts.split kind split details).legs leg inside).1) .credit
      have high : ¬ 0 < split.get .credit := fun owed => paid.split ⟨kind, split, details, owed⟩
      omega
    · rfl
  · unfold installmentDebtIncrease
    split
    · rename_i kind _
      exact absurd kind installment
    · rename_i kind _
      exact absurd kind installment
    · rfl

theorem debtIncrease_nonneg (payable : Payable env sale) : 0 ≤ debtIncrease sale := by
  unfold debtIncrease
  split
  · exact payable.nonneg
  · rename_i split kind details
    exact SplitDetails.get_nonneg (fun leg inside => ((payable.split kind split details).legs leg inside).1) .credit
  · exact le_rfl

theorem installmentDebtIncrease_nonneg (payable : Payable env sale) : 0 ≤ installmentDebtIncrease .exact sale := by
  unfold installmentDebtIncrease
  split
  · rename_i plan kind planned
    have := (payable.plan kind plan planned).2
    simp only [Word.exact_sub]
    omega
  · exact payable.nonneg
  · exact le_rfl

/-- A balance that a charge raises by `inc` is raised by it when there is a customer. -/
theorem charged_balance {balance : Customer → Int} {change : Write → Int → Int}
    {moves : ∀ w c, balance (w.onCustomer c) = change w (balance c)} {inc : Int}
    (raised : ∀ d, change (.incrementPurchasesAndDebt sale.customerID sale.total sale.pointsAwarded (debtIncrease sale)
      (installmentDebtIncrease .exact sale) env.date) d = d + inc)
    (anonymous : sale.customerID = "" → inc = 0) (o : Option Int) (known : sale.customerID ≠ "" → o.isSome) :
    ((balanceCell sale.customerID balance change moves).steps (chargeWrites .exact env sale) o).getD 0 =
      o.getD 0 + inc := by
  by_cases named : sale.customerID = ""
  · simp [chargeWrites, named, anonymous named]
  · obtain ⟨d, rfl⟩ := Option.isSome_iff_exists.mp (known named)
    simp [chargeWrites, named, balanceCell, Write.customer, raised]

theorem charged_debt (payable : Payable env sale) (anonymous : sale.customerID = "" → debtIncrease sale = 0)
    (o : Option Int) (known : sale.customerID ≠ "" → o.isSome) :
    ((debtCell sale.customerID).steps (chargeWrites .exact env sale) o).getD 0 = o.getD 0 + debtIncrease sale := by
  refine charged_balance ?_ anonymous o known
  intro d
  have := debtIncrease_nonneg payable
  simp only [debtChange]
  split <;> omega

theorem charged_installmentDebt (payable : Payable env sale)
    (anonymous : sale.customerID = "" → installmentDebtIncrease .exact sale = 0)
    (o : Option Int) (known : sale.customerID ≠ "" → o.isSome) :
    ((installmentDebtCell sale.customerID).steps (chargeWrites .exact env sale) o).getD 0 =
      o.getD 0 + installmentDebtIncrease .exact sale := by
  refine charged_balance ?_ anonymous o known
  intro d
  have := installmentDebtIncrease_nonneg payable
  simp only [installmentDebtChange]
  split <;> omega

/-- The books of an accepted sale: its row, its ledger rows and the balances around it. -/
structure SaleAccounts (env : Env) (request : Sale) (db final : Store) (row : SaleRow) (created : List Payment) :
    Prop where
  stored : final.sales.find? (stampSale env request).id = some row
  subtotal : row.subtotal = (request.items.map fun item => roundHalfAway (item.price * item.quantity)).sum
  total : row.total = (request.items.map (lineTotal .exact)).sum - request.discount + row.vat
  nonnegative : 0 ≤ row.total
  ledger : ledger final = ledger db ++ created
  positive : ∀ p ∈ created, 0 < p.amount
  complete : (created.map Payment.amount).sum = row.total
  cash : ∀ shift, db.activeShift = some shift → shift.id ≠ "" → ∃ shift', final.activeShift = some shift' ∧
    shift'.id = shift.id ∧ (created.map (paidIn .cash)).sum = shift'.cashSales - shift.cashSales
  credit : (created.map (paidIn .credit)).sum =
    (debtOf final request.customerID).getD 0 - (debtOf db request.customerID).getD 0
  installment : (created.map (paidIn .installment)).sum =
    (installmentDebtOf final request.customerID).getD 0 - (installmentDebtOf db request.customerID).getD 0

theorem saleJournal_opens (w : Word) (env : Env) (db : Store) (request : Sale) :
    ∀ v ∈ saleJournal w env db request, ∀ shift, v ≠ .saveShift shift := by
  obtain ⟨front, back, parts, first, last⟩ := saleJournal_parts w env db request
  intro v member shift opened
  subst opened
  rw [parts] at member
  simp only [List.mem_append, List.mem_cons, reduceCtorEq, false_or] at member
  rcases member with inside | inside | inside | inside
  · simpa [Write.area] using first _ inside
  · simpa [Write.area] using confined_charge _ _ _ _ inside
  · simpa [Write.area] using confined_payments _ _ _ _ inside
  · simpa [Write.area] using last _ inside

theorem sale_accounts {db final : Store} (h : Does (processSaleAs .exact env actor request) db u ws final)
    (keys : ∀ split ∈ request.splitDetails, ∀ leg ∈ split.legs, leg.1 = .cash ∨ leg.1 = .card ∨ leg.1 = .credit) :
    ∃ row created, SaleAccounts env request db final row created := by
  obtain ⟨facts, rfl⟩ := processSaleAs_does h
  have payable := facts.payable
  obtain ⟨subtotals, totals⟩ := soldCart_exact facts.available
  have rows := saleJournal_rows .exact env db request
  have sums : ∀ g : Payment → Int, (∀ p, g p.unnumbered = g p) →
      (((createdRows (saleJournal .exact env db request)).map Payment.unnumbered).map g).sum =
        rowSum g (paymentWrites .exact env (pricedSale .exact env db request).toSaleRow) := by
    intro g blind
    rw [rows, List.map_map, rowSum]
    exact congrArg List.sum (List.map_congr_left fun p _ => blind p)
  refine ⟨(pricedSale .exact env db request).toSaleRow,
    (createdRows (saleJournal .exact env db request)).map Payment.unnumbered, ?_⟩
  constructor
  case ledger => exact ledger_grows h
  case stored =>
    have replayed := (saleCell (stampSale env request).id).replay_read h.replays
    rw [saleJournal_row] at replayed
    exact replayed.trans (if_pos rfl)
  case subtotal =>
    rw [← subtotals]
    rfl
  case total =>
    rw [← totals]
    exact saleTotal_exact env db request
  case nonnegative => exact payable.nonneg
  case positive =>
    intro p member
    obtain ⟨row, created, rfl⟩ := List.mem_map.mp member
    rw [rows] at created
    exact payments_positive row created
  case complete =>
    rw [sums Payment.amount (fun _ => rfl)]
    exact payments_total payable
  case cash =>
    intro shift active named
    have moved := drawer_replayed h.replays (saleJournal_opens .exact env db request)
    rw [saleJournal_drawer, active] at moved
    refine ⟨_, moved, ?_, ?_⟩
    · simp [named, Shift.addSale]
    · rw [sums (paidIn .cash) (fun _ => rfl), payments_cash payable]
      simp [named, Shift.addSale]
  case credit =>
    have known : request.customerID ≠ "" → (debtOf db request.customerID).isSome := by
      intro named
      obtain ⟨customer, found⟩ := facts.customer named
      simp [debtOf, found]
    have charged := charged_debt payable (fun anonymous => (anonymous_debts facts anonymous).1)
      (debtOf db request.customerID) known
    have moved : debtOf final request.customerID = (debtCell request.customerID).steps
        (chargeWrites .exact env (pricedSale .exact env db request).toSaleRow) (debtOf db request.customerID) :=
      (debt_replayed h request.customerID).trans (saleJournal_balance ..)
    rw [sums (paidIn .credit) (fun _ => rfl), payments_credit payable, moved]
    exact eq_sub_of_add_eq' charged.symm
  case installment =>
    have known : request.customerID ≠ "" → (installmentDebtOf db request.customerID).isSome := by
      intro named
      obtain ⟨customer, found⟩ := facts.customer named
      simp [installmentDebtOf, found]
    have charged := charged_installmentDebt payable (fun anonymous => (anonymous_debts facts anonymous).2)
      (installmentDebtOf db request.customerID) known
    have moved : installmentDebtOf final request.customerID = (installmentDebtCell request.customerID).steps
        (chargeWrites .exact env (pricedSale .exact env db request).toSaleRow)
        (installmentDebtOf db request.customerID) :=
      (installmentDebt_replayed h request.customerID).trans (saleJournal_balance ..)
    have unnamed : ∀ split ∈ (pricedSale .exact env db request).splitDetails, ∀ leg ∈ split.legs,
        leg.1 ≠ .installment := by
      intro split details leg member
      rcases keys split details leg member with key | key | key <;> simp [key]
    rw [sums (paidIn .installment) (fun _ => rfl), payments_installment payable unnamed, moved]
    exact eq_sub_of_add_eq' charged.symm

theorem existing_rejected {db : Store} {row : SaleRow} (w : Word) (actor : Actor)
    (existing : db.sales.find? (stampSale env request).id = some row) :
    ¬ (processSaleAs w env actor request).accepts db := by
  rintro ⟨u, ws, final, does⟩
  have fresh := (processSaleAs_does does).1.fresh
  rw [existing] at fresh
  cases fresh

/-- The books agree for every accepted request, a rejected one changes nothing, and an
identifier is sold under at most once, whatever is written in between. -/
theorem processSale_accounting (env : Env) (actor : Actor) (request : Sale) (db : Store)
    (keys : ∀ split ∈ request.splitDetails, ∀ leg ∈ split.legs, leg.1 = .cash ∨ leg.1 = .card ∨ leg.1 = .credit) :
    let call := processSaleAs .exact env actor request
    (call.accepts db → ∃ row created, SaleAccounts env request db (call.commit db) row created) ∧
    (¬ call.accepts db → call.commit db = db) ∧
    (∀ row, db.sales.find? (stampSale env request).id = some row → ¬ call.accepts db) ∧
    (call.accepts db → ∀ ws later, replay Write.apply ws (call.commit db) = .ok later →
      ∀ env' actor' request', (stampSale env' request').id = (stampSale env request).id →
        ¬ (processSaleAs .exact env' actor' request').accepts later) := by
  refine ⟨fun accepted => sale_accounts (does_accepted accepted) keys, fun rejected => (commit_rejected rejected).1,
    fun row existing => existing_rejected .exact actor existing, ?_⟩
  intro accepted ws later replayed env' actor' request' same
  obtain ⟨row, created, books⟩ := sale_accounts (does_accepted accepted) keys
  have stored := sale_remains replayed (Option.isSome_iff_exists.mpr ⟨row, books.stored⟩)
  obtain ⟨kept, found⟩ := Option.isSome_iff_exists.mp stored
  rw [← same] at found
  exact existing_rejected .exact actor' found

section Shop

/-- A shop with one product, one customer and an open shift. -/
def shop : Store := { Store.empty with
  products := ⟨[⟨"tea", "Tea", "100", 1000, 600, 10, 0, "drinks", "", "", 0, "", none⟩], by decide⟩
  customers := ⟨[⟨"ali", "Ali", "", 0, 0, 0, "", 0, ""⟩], by decide⟩
  shifts := ⟨[⟨"morning", "sara", "Sara", 0, 0, 5000, 0, 5000, 0, .open, 0, 0, 0, ""⟩], by decide⟩ }

def till : Env := ⟨"2026-01-01", 0, 0, "fresh", fun _ => .stored⟩

def sara : Actor := ⟨true, "sara", "desk", .cashier, []⟩

/-- A request for some teas, paid by the given method. -/
def teaSale (id customerID : String) (method : PaymentMethod) (details : Option SplitDetails)
    (plan : Option InstallmentPlan) (quantity : ℚ) : Sale :=
  { id := id, customerID := customerID, customerName := "", staffID := "sara", staffName := "Sara", date := ""
    timestamp := 0, subtotal := 0, discount := 0, vat := 0, total := 0, paymentMethod := method
    status := .completed, itemsCount := quantity, splitDetails := details, installmentPlan := plan, note := ""
    pointsAwarded := 0, zohoSynced := false
    items := [⟨0, "", "tea", "Tea", 1000, quantity, 0, 0, 0, 0⟩] }

def halves : SplitDetails := ⟨[(.cash, 1000), (.credit, 1000)], by decide⟩

end Shop

/-- Two teas, half in cash and half on credit. -/
theorem processSale_accounting_halves :
    (processSaleAs .exact till sara (teaSale "s1" "ali" .split (some halves) none 2)).accepts shop ∧
    ∃ row created, SaleAccounts till (teaSale "s1" "ali" .split (some halves) none 2) shop
      ((processSaleAs .exact till sara (teaSale "s1" "ali" .split (some halves) none 2)).commit shop) row created := by
  have accepted : (processSaleAs .exact till sara (teaSale "s1" "ali" .split (some halves) none 2)).accepts shop := by
    decide +kernel
  refine ⟨accepted, (processSale_accounting till sara (teaSale "s1" "ali" .split (some halves) none 2) shop ?_).1
    accepted⟩
  intro split details leg member
  cases details
  simp only [halves, List.mem_cons, List.not_mem_nil, or_false] at member
  rcases member with rfl | rfl <;> simp

end BeidarPos
