import BeidarPos.InstallmentReaders
import BeidarPos.ReturnValue

/-! The installment debt of a customer against what can still be collected of his plans.
The debt column, the plan and the status of a sale are written apart from each other; a
return closes the plan, and takes off the debt what it computes from the invoice. -/
namespace BeidarPos

open Machine Relational Journal Tx

section Awaited

/-- The amount of an entry that is not paid. -/
def unpaidAmount (inst : Installment) : Int := if inst.status = .paid then 0 else inst.amount

/-- What the plan of a sale waits for; nothing once something came back. -/
def awaited (sale : SaleRow) : Int :=
  if sale.status = .returned ∨ sale.status = .partialReturn then 0
  else
    match sale.installmentPlan with
    | none => 0
    | some plan => (plan.entries.map unpaidAmount).sum

open Classical in
/-- The amounts of the entries of a sale a payment would be accepted for. -/
noncomputable def collectableAmount (db : Store) (sale : SaleRow) : Int :=
  match sale.installmentPlan with
  | none => 0
  | some plan =>
    ((plan.entries.zipIdx.filter fun entry => Collectable db sale.id entry.2).map fun entry => entry.1.amount).sum

theorem sum_filter {α : Type} (items : List α) (p : α → Bool) (f : α → Int) :
    ((items.filter p).map f).sum = (items.map fun a => if p a then f a else 0).sum := by
  induction items with
  | nil => rfl
  | cons a items ih =>
    rw [List.filter_cons, List.map_cons, List.sum_cons, ← ih]
    split <;> simp

open Classical in
theorem collectableAmount_awaited {db : Store} {sale : SaleRow} (stored : db.sales.find? sale.id = some sale)
    (amounts : ∀ plan ∈ sale.installmentPlan, ∀ inst ∈ plan.entries, 0 ≤ inst.amount) :
    collectableAmount db sale = awaited sale := by
  unfold collectableAmount awaited
  cases planned : sale.installmentPlan with
  | none => simp
  | some plan =>
    simp only [sum_filter, decide_eq_true_eq]
    have turn : ∀ entry ∈ plan.entries.zipIdx,
        (if Collectable db sale.id entry.2 then entry.1.amount else 0) =
          if sale.status = .returned ∨ sale.status = .partialReturn then 0 else unpaidAmount entry.1 := by
      rintro ⟨inst, index⟩ member
      have entry : plan.entries[index]? = some inst := by simpa using List.mk_mem_zipIdx_iff_getElem?.mp member
      have nonneg := amounts plan planned inst (List.mem_of_getElem? entry)
      have due : Collectable db sale.id index ↔
          (sale.status ≠ .returned ∧ sale.status ≠ .partialReturn) ∧ inst.status ≠ .paid ∧ 0 < inst.amount := by
        simp [collectable_iff stored, planned, entry, and_assoc]
      by_cases back : sale.status = .returned ∨ sale.status = .partialReturn
      · rw [if_pos back, if_neg (fun open_ => by tauto)]
      · by_cases paid : inst.status = .paid
        · simp [due, paid, unpaidAmount]
        · by_cases positive : 0 < inst.amount
          · rw [if_pos (due.mpr ⟨by tauto, paid, positive⟩), if_neg back, unpaidAmount, if_neg paid]
          · rw [if_neg (fun open_ => positive (due.mp open_).2.2), if_neg back, unpaidAmount, if_neg paid]
            exact nonneg.antisymm (not_lt.mp positive)
    rw [List.map_congr_left turn]
    split
    · simp
    · have firsts : plan.entries.zipIdx.map (unpaidAmount ∘ Prod.fst) = plan.entries.map unpaidAmount := by
        rw [← List.map_map, List.zipIdx_map_fst]
      exact congrArg List.sum firsts

/-- What an installment sale adds to the debt of its customer. -/
def due (sale : SaleRow) : Int := if sale.paymentMethod = .installment then awaited sale else 0

def share (customerID : String) (sale : SaleRow) : Int := if sale.customerID = customerID then due sale else 0

/-- What can still be collected of a customer's installment sales. -/
noncomputable def collectableDebt (db : Store) (customerID : String) : Int :=
  ((db.sales.rows.filter fun sale => sale.customerID = customerID ∧ sale.paymentMethod = .installment).map
    (collectableAmount db)).sum

def awaitedDebt (db : Store) (customerID : String) : Int := (db.sales.rows.map (share customerID)).sum

theorem collectableDebt_awaited {db : Store} (valid : SalesValid db) (customerID : String) :
    collectableDebt db customerID = awaitedDebt db customerID := by
  unfold collectableDebt awaitedDebt
  rw [sum_filter]
  refine congrArg List.sum (List.map_congr_left fun sale member => ?_)
  have stored := Table.find?_of_mem member
  simp only [share, due]
  by_cases own : sale.customerID = customerID
  · by_cases kind : sale.paymentMethod = .installment
    · have amounts := (valid _ _ stored).plan kind
      simp [own, kind, collectableAmount_awaited stored fun plan planned => (amounts plan planned).2]
    · simp [own, kind]
  · simp [own]

theorem unpaidAmount_nonneg {inst : Installment} (nonneg : 0 ≤ inst.amount) : 0 ≤ unpaidAmount inst := by
  unfold unpaidAmount
  split <;> omega

theorem due_nonneg {sale : SaleRow} (valid : ValidSale sale) : 0 ≤ due sale := by
  unfold due awaited
  split
  · rename_i kind
    split
    · exact le_rfl
    · split
      · exact le_rfl
      · rename_i plan planned
        refine List.sum_nonneg fun x member => ?_
        obtain ⟨inst, entry, rfl⟩ := List.mem_map.mp member
        exact unpaidAmount_nonneg ((valid.plan kind plan planned).2 inst entry)
  · exact le_rfl

theorem shares_nonneg {db : Store} (valid : SalesValid db) (customerID : String) :
    ∀ x ∈ db.sales.rows.map (share customerID), 0 ≤ x := by
  intro x member
  obtain ⟨sale, stored, rfl⟩ := List.mem_map.mp member
  unfold share
  split
  · exact due_nonneg (valid _ _ (Table.find?_of_mem stored))
  · exact le_rfl

theorem due_le {db : Store} {id : String} {sale : SaleRow} (valid : SalesValid db) (stored : db.sales.find? id = some sale) :
    due sale ≤ awaitedDebt db sale.customerID := by
  have own : share sale.customerID sale = due sale := if_pos rfl
  rw [← own]
  exact List.single_le_sum (shares_nonneg valid _) _ (List.mem_map_of_mem (Table.find?_mem stored))

theorem awaitedDebt_nonneg {db : Store} (valid : SalesValid db) (customerID : String) :
    0 ≤ awaitedDebt db customerID := List.sum_nonneg (shares_nonneg valid customerID)

end Awaited

section Plans

theorem sum_modify (entries : List Installment) (f : Installment → Int) (g : Installment → Installment) {index : Nat}
    {inst : Installment} (entry : entries[index]? = some inst) :
    ((entries.modify index g).map f).sum = (entries.map f).sum - f inst + f (g inst) := by
  induction entries generalizing index with
  | nil => simp at entry
  | cons head rest ih =>
    cases index with
    | zero =>
      obtain rfl : head = inst := by simpa using entry
      simp only [List.modify_zero_cons, List.map_cons, List.sum_cons]
      omega
    | succ index =>
      have inside := ih (by simpa using entry)
      simp only [List.modify_succ_cons, List.map_cons, List.sum_cons, inside]
      omega

theorem entries_paidPlan (env : Env) (index : Nat) (plan : InstallmentPlan) :
    (paidPlan env index plan).entries = plan.entries.modify index fun inst =>
      { inst with status := .paid, paidAt := env.unix } := by
  cases scheduled : plan.schedule with
  | none => simp [InstallmentPlan.entries, paidPlan, scheduled]
  | some schedule => simp [InstallmentPlan.entries, paidPlan, scheduled, markPaid]

/-- The entries and the down payment make up the total, as the sale was checked for. -/
def PlanComplete (sale : SaleRow) : Prop :=
  ∃ plan, sale.installmentPlan = some plan ∧
    (plan.entries.map Installment.amount).sum = sale.total - plan.downPayment

theorem paid_and_unpaid (plan : InstallmentPlan) :
    paidSum .exact plan + (plan.entries.map unpaidAmount).sum = (plan.entries.map Installment.amount).sum := by
  rw [paidSum_exact]
  induction plan.entries with
  | nil => rfl
  | cons inst entries ih =>
    have split : paidAmount inst + unpaidAmount inst = inst.amount := by
      unfold paidAmount unpaidAmount
      split <;> omega
    simp only [List.map_cons, List.sum_cons]
    omega

theorem paidSum_zero {plan : InstallmentPlan} (nonneg : ∀ inst ∈ plan.entries, 0 ≤ inst.amount) :
    paidSum .exact plan = 0 ↔ ∀ inst ∈ plan.entries, inst.status = .paid → inst.amount = 0 := by
  rw [paidSum_exact]
  generalize plan.entries = entries at nonneg ⊢
  induction entries with
  | nil => simp
  | cons inst entries ih =>
    have first := nonneg inst (by simp)
    have rest : 0 ≤ (entries.map paidAmount).sum := List.sum_nonneg fun x member => by
      obtain ⟨other, inside, rfl⟩ := List.mem_map.mp member
      have := nonneg other (by simp [inside])
      unfold paidAmount
      split <;> omega
    have later := ih fun other member => nonneg other (by simp [member])
    rw [List.map_cons, List.sum_cons, List.forall_mem_cons, ← later]
    by_cases paid : inst.status = .paid
    · have whole : paidAmount inst = inst.amount := if_pos paid
      simp only [whole, paid, forall_const]
      omega
    · have nothing : paidAmount inst = 0 := if_neg paid
      simp [nothing, paid]

/-- What a full return takes off the debt is what the plan of the sale waits for. -/
theorem PlanComplete.outstanding {sale : SaleRow} (complete : PlanComplete sale) (whole : sale.status ≠ .returned)
    (part : sale.status ≠ .partialReturn) : installmentOutstanding .exact sale = awaited sale := by
  obtain ⟨plan, planned, sum⟩ := complete
  have parts := paid_and_unpaid plan
  simp only [installmentOutstanding, awaited, planned, whole, part, or_self, if_false, Word.exact_sub]
  omega

theorem PlanComplete.paid {env : Env} {sale : SaleRow} {plan : InstallmentPlan} {inst : Installment} {index : Nat}
    (complete : PlanComplete sale) (planned : sale.installmentPlan = some plan)
    (entry : plan.entries[index]? = some inst) (status : SaleStatus) :
    PlanComplete { sale with installmentPlan := some (paidPlan env index plan), status := status } := by
  obtain ⟨plan', planned', sum⟩ := complete
  obtain rfl : plan = plan' := Option.some.inj (planned.symm.trans planned')
  refine ⟨_, rfl, ?_⟩
  rw [entries_paidPlan, sum_modify _ _ _ entry]
  simp only [paidPlan]
  omega

end Plans

section Books

structure DebtBooks (db : Store) : Prop where
  valid : SalesValid db
  complete : ∀ id sale, db.sales.find? id = some sale → sale.paymentMethod = .installment →
    sale.status ≠ .returned → sale.status ≠ .partialReturn → PlanComplete sale

/-- Each stored customer owes in installments what can still be collected of his sales. -/
def DebtsCollectable (db : Store) : Prop :=
  ∀ customerID owed, installmentDebtOf db customerID = some owed → owed = collectableDebt db customerID

def DebtsAwaited (db : Store) : Prop :=
  ∀ customerID owed, installmentDebtOf db customerID = some owed → owed = awaitedDebt db customerID

theorem debtsCollectable_iff {db : Store} (valid : SalesValid db) : DebtsCollectable db ↔ DebtsAwaited db := by
  simp only [DebtsCollectable, DebtsAwaited, collectableDebt_awaited valid]

/-- A change of one sale and of the debt of its customer. -/
structure DebtMove (db final : Store) (customerID : String) (onDebt : Int → Int) (before after : Int) : Prop where
  debts : ∀ id, installmentDebtOf final id =
    if customerID = id then (installmentDebtOf db id).map onDebt else installmentDebtOf db id
  sums : ∀ id, awaitedDebt final id = if customerID = id then awaitedDebt db id - before + after else awaitedDebt db id

theorem DebtMove.awaited_iff {db final : Store} {customerID : String} {onDebt : Int → Int} {before after : Int}
    (move : DebtMove db final customerID onDebt before after) (held : DebtsAwaited db) :
    DebtsAwaited final ↔ ∀ owed ∈ installmentDebtOf db customerID, onDebt owed = owed - before + after := by
  constructor
  · intro later owed known
    have here := later customerID (onDebt owed) (by rw [move.debts, if_pos rfl, known, Option.map_some])
    rw [move.sums, if_pos rfl, ← held customerID owed known] at here
    exact here
  · intro fits id owed known
    rw [move.debts] at known
    rw [move.sums]
    split at known
    · rename_i same
      subst same
      obtain ⟨old, stored, rfl⟩ := Option.map_eq_some_iff.mp known
      rw [if_pos rfl, ← held _ old stored]
      exact fits old stored
    · rename_i other
      rw [if_neg other]
      exact held id owed known

theorem guarded_map {guard : Prop} [Decidable guard] (customerID id : String) (f : Int → Int) (o : Option Int) :
    (if guard ∧ customerID = id then o.map f else o) =
      if customerID = id then o.map (fun owed => if guard then f owed else owed) else o := by
  by_cases holds : guard <;> simp [holds]

theorem awaitedDebt_replaced {db final : Store} {saleID customerID : String} {before after : Int}
    (others : ∀ id, id ≠ saleID → final.sales.find? id = db.sales.find? id)
    (old : ∀ id, db.sales.amountAt (share id) saleID = if customerID = id then before else 0)
    (new : ∀ id, final.sales.amountAt (share id) saleID = if customerID = id then after else 0) (id : String) :
    awaitedDebt final id = if customerID = id then awaitedDebt db id - before + after else awaitedDebt db id := by
  have replaced := Table.sum_replaced others (share id)
  rw [old, new] at replaced
  refine replaced.trans ?_
  split
  · rfl
  · simp [awaitedDebt]

/-- A sale that is rewritten for the same customer moves what can be collected of him. -/
theorem DebtMove.of_row {db final : Store} {old new : SaleRow} {onDebt : Int → Int}
    (stored : db.sales.find? old.id = some old)
    (written : ∀ id, final.sales.find? id = if id = old.id then (db.sales.find? id).map fun _ => new else db.sales.find? id)
    (customer : new.customerID = old.customerID)
    (debts : ∀ id, installmentDebtOf final id =
      if old.customerID = id then (installmentDebtOf db id).map onDebt else installmentDebtOf db id) :
    DebtMove db final old.customerID onDebt (due old) (due new) where
  debts := debts
  sums := by
    have others : ∀ id, id ≠ old.id → final.sales.find? id = db.sales.find? id := by
      intro id other
      rw [written, if_neg other]
    refine awaitedDebt_replaced others ?_ ?_
    · intro id
      simp [Table.amountAt, stored, share]
    · intro id
      simp [Table.amountAt, written, stored, share, customer]

end Books

section Journals

/-- The installment debt after a decrement. -/
theorem decremented (customerID id : String) (amount : Int) (o : Option Int) :
    (installmentDebtCell id).step (.decrementInstallmentDebt customerID amount) o =
      if customerID = id then o.map (fun owed => clampSub owed amount) else o := by
  simp only [installmentDebtCell, balanceCell, Write.customer, Option.some.injEq]
  rfl

theorem unmoved_debtRefund (w : Word) (env : Env) (sale : SaleRow) (debt amount : Int) (note : Text) (id : String)
    (o : Option Int) : (installmentDebtCell id).steps (debtRefundWrites w env sale debt amount note) o = o := by
  rw [debtRefundWrites, Cell.steps_cons, (installmentDebt_within id).frame (confined_rowFor _ _) (by decide)]
  exact balance_fixed (fun _ => rfl) o

theorem unmoved_points (customerID id : String) (amount delta : Int) (o : Option Int) :
    (installmentDebtCell id).steps [.decrementPurchases customerID amount, .adjustPoints customerID delta] o = o := by
  rw [Cell.steps_cons, Cell.steps_cons, Cell.steps_nil]
  exact (balance_fixed (fun _ => rfl) _).trans (balance_fixed (fun _ => rfl) o)

theorem charged_installments (payable : Payable env sale) (id : String) (o : Option Int) :
    (installmentDebtCell id).steps (chargeWrites .exact env sale) o =
      if sale.customerID ≠ "" ∧ sale.customerID = id then
        o.map (fun owed => owed + installmentDebtIncrease .exact sale) else o := by
  have nonneg := installmentDebtIncrease_nonneg payable
  have raised : installmentDebtChange (.incrementPurchasesAndDebt sale.customerID sale.total sale.pointsAwarded
      (debtIncrease sale) (installmentDebtIncrease .exact sale) env.date) =
        fun owed => owed + installmentDebtIncrease .exact sale := by
    funext owed
    simp only [installmentDebtChange]
    split <;> omega
  unfold chargeWrites
  by_cases anonymous : sale.customerID = ""
  · simp [anonymous]
  · rw [if_neg anonymous]
    simp only [Cell.steps_cons, Cell.steps_nil, installmentDebtCell, balanceCell, Write.customer, Option.some.injEq,
      raised, ne_eq, anonymous, not_false_eq_true, true_and]

theorem returned_installments (env : Env) (sale : SaleRow) (debt : Option Int) (id : String) (o : Option Int) :
    (installmentDebtCell id).steps (balanceWrites .exact env sale debt) o =
      if (sale.customerID ≠ "" ∧ sale.paymentMethod = .installment ∧ 0 < installmentOutstanding .exact sale) ∧
          sale.customerID = id then
        o.map (fun owed => clampSub owed (installmentOutstanding .exact sale)) else o := by
  unfold balanceWrites
  by_cases anonymous : sale.customerID = ""
  · simp [anonymous]
  · rw [if_neg anonymous, Cell.steps_append, unmoved_points]
    cases kind : sale.paymentMethod with
    | installment =>
      simp only [installmentRefundWrites, Cell.steps_append,
        (installmentDebt_within id).frame (confined_rowFor _ _) (by decide)]
      unfold installmentDebtWrites
      by_cases left : 0 < installmentOutstanding .exact sale
      · simp [left, anonymous, decremented]
      · simp [left]
    | credit => cases debt <;> simp [unmoved_debtRefund]
    | split =>
      cases debt with
      | none => simp [splitCreditWrites]
      | some owed =>
        unfold splitCreditWrites
        simp only
        split <;> simp [unmoved_debtRefund]
    | cash | card | other => simp

theorem partly_installments (env : Env) (sale : SaleRow) (item : SaleItem) (qtyToReturn : ℚ) (refundAmount : Int)
    (debt : Option Int) (id : String) (o : Option Int) :
    (installmentDebtCell id).steps (partialBalanceWrites .exact env sale item qtyToReturn refundAmount debt) o =
      if (sale.customerID ≠ "" ∧ sale.paymentMethod = .installment) ∧ sale.customerID = id then
        o.map (fun owed => clampSub owed refundAmount) else o := by
  unfold partialBalanceWrites
  by_cases anonymous : sale.customerID = ""
  · simp [anonymous]
  · rw [if_neg anonymous, Cell.steps_append, unmoved_points]
    cases kind : sale.paymentMethod with
    | installment => simp [decremented, anonymous]
    | credit => cases debt <;> simp [unmoved_debtRefund]
    | split =>
      have unmoved : (installmentDebtCell id).steps (creditShareWrites .exact sale refundAmount) o = o := by
        unfold creditShareWrites
        split
        · exact balance_fixed (fun _ => rfl) o
        · rfl
      simp [unmoved]
    | cash | card | other => simp

theorem collected_installments (env : Env) (prefs : Option AppPreferences) (index : Nat) (method : PaymentMethod)
    (sale : Sale) (plan : InstallmentPlan) (inst : Installment) (id : String) (o : Option Int) :
    (installmentDebtCell id).steps (installmentJournal env prefs index method sale plan inst) o =
      if sale.customerID ≠ "" ∧ sale.customerID = id then o.map (fun owed => clampSub owed inst.amount) else o := by
  have drawer : ∀ o, (installmentDebtCell id).steps (cashInWrites prefs method inst.amount) o = o := by
    intro o
    unfold cashInWrites
    split
    · exact balance_fixed (fun _ => rfl) o
    · rfl
  have rows : ∀ o, (installmentDebtCell id).step (.createPayment (installmentRow env sale.toSaleRow inst.amount method index))
      ((installmentDebtCell id).step (.updateSaleInstallmentPlan sale.id (paidPlan env index plan)
        (if allPaid (paidPlan env index plan) then .paid else sale.status)) o) = o :=
    fun o => (balance_fixed (fun _ => rfl) _).trans (balance_fixed (fun _ => rfl) o)
  simp only [installmentJournal, Cell.steps_cons, Cell.steps_append, drawer, rows, installmentDebtPaid]
  by_cases named : sale.customerID = ""
  · simp [named]
  · simp [named, decremented]

end Journals

section Calls

/-- An installment sale comes with a schedule. -/
def Call.Scheduled : Call → Prop
  | .processSale _ request => request.paymentMethod = .installment →
    ∃ plan ∈ request.installmentPlan, plan.schedule.isSome
  | _ => True

/-- No entry of a new plan is paid beforehand, an entry is only collected for an installment
sale, and a return takes off the debt what the plan of its sale waits for. -/
def Call.KeepsDebt (db : Store) : Call → Prop
  | .processSale _ request => request.paymentMethod = .installment →
    ∀ plan ∈ request.installmentPlan, ∀ inst ∈ plan.entries, inst.status = .paid → inst.amount = 0
  | .payInstallment saleID _ _ _ => ∀ sale ∈ db.sales.find? saleID,
    sale.customerID ≠ "" → sale.paymentMethod ≠ .installment → ∀ owed ∈ installmentDebtOf db sale.customerID, owed = 0
  | .returnSale saleID => ∀ sale ∈ db.sales.find? saleID,
    sale.paymentMethod = .installment → sale.status = .partialReturn →
      ∀ owed ∈ installmentDebtOf db sale.customerID, owed = 0 ∨ installmentOutstanding .exact sale ≤ 0
  | .returnSalePartial saleID productID qtyToReturn => ∀ sale ∈ db.sales.find? saleID,
    sale.paymentMethod = .installment → ∀ owed ∈ installmentDebtOf db sale.customerID,
      min owed (returnValue .exact db saleID (.part productID qtyToReturn)) = awaited sale
  | _ => True

theorem clampSub_min (owed amount : Int) : clampSub owed amount = owed - min owed amount := by
  unfold clampSub
  split <;> omega

variable {env : Env} {db final : Store}

theorem ValidSale.named {sale : SaleRow} (valid : ValidSale sale) (kind : sale.paymentMethod = .installment) :
    sale.customerID ≠ "" := fun anonymous => (valid.anonymous anonymous).installment kind

theorem scheduled_complete {request : Sale} (facts : SaleFacts .exact env db request)
    (scheduled : ∃ plan ∈ request.installmentPlan, plan.schedule.isSome) (kind : request.paymentMethod = .installment) :
    PlanComplete (pricedSale .exact env db request).toSaleRow := by
  obtain ⟨plan, planned, some⟩ := scheduled
  obtain ⟨schedule, given⟩ := Option.isSome_iff_exists.mp some
  have sum := (facts.plan kind plan planned).complete schedule given
  rw [Word.exact_foldl, Int.zero_add, Word.exact_sub] at sum
  exact ⟨plan, planned, by simpa [InstallmentPlan.entries, given] using sum⟩

/-- The plans of live installment sales stay complete. -/
theorem call_complete {c : Call} (books : DebtBooks db) (scheduled : c.Scheduled)
    (h : Does (c.body .exact env) db () ws final) : DebtBooks final := by
  refine ⟨call_keeps_valid books.valid h, ?_⟩
  intro id row found kind whole part
  rcases call_row h id with ⟨_, kept⟩ | ⟨_, _, rfl, facts, _, now⟩ | ⟨sale, _, loaded, now⟩ |
    ⟨productID, qty, item, sale, _, facts, now⟩ | ⟨index, _, _, sale, plan, _, _, facts, now⟩
  · exact books.complete id row (kept ▸ found) kind whole part
  · cases now.symm.trans found
    exact scheduled_complete facts (scheduled kind) kind
  · cases now.symm.trans found
    exact absurd rfl whole
  · cases now.symm.trans found
    simp only [shrinkSale] at whole part
    split at whole
    · exact absurd rfl whole
    · rename_i open_
      rw [if_neg open_] at part
      exact absurd rfl part
  · cases now.symm.trans found
    have stored := (getSale_row facts.loaded).1
    exact (books.complete _ _ stored kind facts.active.1 facts.active.2).paid facts.planned facts.scheduled _

theorem sale_debts {actor : Actor} {request : Sale} (held : DebtsAwaited db)
    (scheduled : (Call.processSale actor request).Scheduled)
    (h : Does (processSaleAs .exact env actor request) db () ws final) :
    DebtsAwaited final ↔ (Call.processSale actor request).KeepsDebt db := by
  have moved := sale_replayed h
  have debts := installmentDebt_replayed h
  obtain ⟨facts, rfl⟩ := processSaleAs_does h
  set row := (pricedSale .exact env db request).toSaleRow with priced
  simp only [saleJournal_row] at moved
  have absent : db.sales.find? row.id = none := by
    by_contra stored
    obtain ⟨old, found⟩ := Option.ne_none_iff_exists'.mp stored
    exact existing_rejected .exact actor found ⟨(), _, _, h⟩
  have move : DebtMove db final row.customerID
      (fun owed => if row.customerID ≠ "" then owed + installmentDebtIncrease .exact row else owed) 0 (due row) := by
    refine ⟨fun id => ?_, ?_⟩
    · rw [debts]
      exact (saleJournal_balance ..).trans ((charged_installments facts.payable id _).trans (guarded_map _ _ _ _))
    · have others : ∀ id, id ≠ row.id → final.sales.find? id = db.sales.find? id := by
        intro id other
        rw [moved, if_neg other]
      have here : final.sales.find? row.id = some row := by rw [moved, if_pos rfl]
      refine awaitedDebt_replaced others ?_ ?_
      · intro id
        simp [Table.amountAt, absent]
      · intro id
        simp [Table.amountAt, here, share]
  rw [move.awaited_iff held]
  by_cases kind : request.paymentMethod = .installment
  · have valid := priced_valid facts
    have named : row.customerID ≠ "" := valid.named kind
    obtain ⟨customer, known⟩ := facts.customer named
    have owes : installmentDebtOf db row.customerID = some customer.installmentDebt := by
      simp only [installmentDebtOf]
      rw [show row.customerID = request.customerID from rfl, known, Option.map_some]
    obtain ⟨plan, planned, sum⟩ := scheduled_complete facts (scheduled kind) kind
    have parts := paid_and_unpaid plan
    have raised : installmentDebtIncrease .exact row = row.total - plan.downPayment := by
      simp only [installmentDebtIncrease]
      rw [show row.paymentMethod = .installment from kind, planned]
      rfl
    have waits : due row = (plan.entries.map unpaidAmount).sum := by
      have pending : row.status = .pending := if_pos (.inr kind)
      have planned' : row.installmentPlan = some plan := planned
      rw [due, if_pos (show row.paymentMethod = .installment from kind), awaited, pending, planned']
      simp
    have total : (plan.entries.map Installment.amount).sum = row.total - plan.downPayment := sum
    have nonneg := (valid.plan kind plan planned).2
    have entries : (Call.processSale actor request).KeepsDebt db ↔ paidSum .exact plan = 0 := by
      rw [paidSum_zero nonneg]
      constructor
      · exact fun keeps => keeps kind plan planned
      · rintro unpaid _ plan' planned'
        obtain rfl : plan = plan' := Option.some.inj (planned.symm.trans planned')
        exact unpaid
    simp only [owes, Option.mem_def, Option.some.injEq, forall_eq', ne_eq, named, not_false_eq_true, if_true, raised, waits,
      entries]
    omega
  · have nothing : due row = 0 := if_neg kind
    have unraised : installmentDebtIncrease .exact row = 0 := by
      have other : row.paymentMethod ≠ .installment := kind
      unfold installmentDebtIncrease
      split
      · exact absurd (by assumption) other
      · exact absurd (by assumption) other
      · rfl
    simp [nothing, unraised, Call.KeepsDebt, kind]

theorem return_debts {saleID : String} (books : DebtBooks db) (held : DebtsAwaited db)
    (h : Does (returnSale .exact env saleID) db () ws final) :
    DebtsAwaited final ↔ (Call.returnSale saleID).KeepsDebt db := by
  have moved := sale_replayed h
  have debts := installmentDebt_replayed h
  obtain ⟨sale, loaded, whole, _, rfl⟩ := returnSale_does h
  obtain ⟨stored, _, rfl⟩ := getSale_row loaded
  simp only [returnJournal_row] at moved
  have cleared : due { sale.toSaleRow with status := .returned } = 0 := by simp [due, awaited]
  have move := DebtMove.of_row stored moved rfl fun id => by
    rw [debts]
    exact (returnJournal_balance ..).trans ((returned_installments ..).trans (guarded_map _ _ _ _))
  rw [move.awaited_iff held, cleared]
  have only : (Call.returnSale sale.id).KeepsDebt db ↔ (sale.paymentMethod = .installment → sale.status = .partialReturn →
      ∀ owed ∈ installmentDebtOf db sale.customerID, owed = 0 ∨ installmentOutstanding .exact sale.toSaleRow ≤ 0) := by
    simp [Call.KeepsDebt, stored]
  rw [only]
  by_cases kind : sale.paymentMethod = .installment
  · have valid := books.valid _ _ stored
    have named : sale.customerID ≠ "" := valid.named kind
    simp only [named, kind, ne_eq, not_false_eq_true, true_and, forall_const]
    have bound : ∀ owed ∈ installmentDebtOf db sale.customerID, due sale.toSaleRow ≤ owed := by
      intro owed known
      rw [held _ owed known]
      exact due_le books.valid stored
    have low := due_nonneg valid
    by_cases part : sale.status = .partialReturn
    · have closed : due sale.toSaleRow = 0 := by simp [due, awaited, part]
      simp only [part, forall_const, closed]
      refine forall₂_congr fun owed known => ?_
      have nonneg := bound owed known
      have cut := clampSub_min owed (installmentOutstanding .exact sale.toSaleRow)
      split <;> omega
    · have waits : installmentOutstanding .exact sale.toSaleRow = due sale.toSaleRow := by
        rw [due, if_pos kind]
        exact (books.complete _ _ stored kind whole part).outstanding whole part
      simp only [part, false_imp_iff, iff_true, waits]
      intro owed known
      have enough := bound owed known
      have cut := clampSub_min owed (due sale.toSaleRow)
      split <;> omega
  · have nothing : due sale.toSaleRow = 0 := if_neg kind
    simp [kind, nothing]

theorem partial_debts {saleID productID : String} {qtyToReturn : ℚ} (books : DebtBooks db) (held : DebtsAwaited db)
    (h : Does (returnSalePartial .exact env saleID productID qtyToReturn) db () ws final) :
    DebtsAwaited final ↔ (Call.returnSalePartial saleID productID qtyToReturn).KeepsDebt db := by
  have moved := sale_replayed h
  have debts := installmentDebt_replayed h
  obtain ⟨item, sale, facts, rfl⟩ := returnSalePartial_does h
  obtain ⟨stored, _, rfl⟩ := getSale_row facts.loaded
  simp only [partialJournal_row] at moved
  set shrunk := shrinkSale .exact sale (returnedLine item qtyToReturn) qtyToReturn
    (partialRefund .exact sale item qtyToReturn)
    (allReturned (db.saleItems.put (returnedLine item qtyToReturn)) sale.id) with shrink
  have cleared : due shrunk.toSaleRow = 0 := by
    have back : shrunk.status = .returned ∨ shrunk.status = .partialReturn := by
      simp only [shrink, shrinkSale]
      split
      · exact .inl rfl
      · exact .inr rfl
    simp [due, awaited, back]
  have move := DebtMove.of_row stored moved rfl fun id => by
    rw [debts]
    exact (partialJournal_balance ..).trans ((partly_installments ..).trans (guarded_map _ _ _ _))
  rw [move.awaited_iff held, cleared]
  have value : returnValue .exact db sale.id (.part productID qtyToReturn) = partialRefund .exact sale item qtyToReturn := by
    simp [returnValue, facts.line, facts.loaded]
  have only : (Call.returnSalePartial sale.id productID qtyToReturn).KeepsDebt db ↔ (sale.paymentMethod = .installment →
      ∀ owed ∈ installmentDebtOf db sale.customerID, min owed (partialRefund .exact sale item qtyToReturn) =
        awaited sale.toSaleRow) := by
    simp [Call.KeepsDebt, stored, value]
  rw [only]
  by_cases kind : sale.paymentMethod = .installment
  · have named : sale.customerID ≠ "" := (books.valid _ _ stored).named kind
    have waits : due sale.toSaleRow = awaited sale.toSaleRow := if_pos kind
    simp only [named, kind, ne_eq, not_false_eq_true, and_self, if_true, forall_const, waits]
    refine forall₂_congr fun owed _ => ?_
    rw [clampSub_min]
    omega
  · have nothing : due sale.toSaleRow = 0 := if_neg kind
    simp [kind, nothing]

theorem collect_debts {saleID : String} {index amount : Int} {method : PaymentMethod} (books : DebtBooks db)
    (held : DebtsAwaited db) (h : Does (payInstallment .exact env saleID index amount method) db () ws final) :
    DebtsAwaited final ↔ (Call.payInstallment saleID index amount method).KeepsDebt db := by
  have moved := sale_replayed h
  have debts := installmentDebt_replayed h
  obtain ⟨sale, plan, inst, facts, rfl⟩ := payInstallment_does h
  obtain ⟨stored, _, rfl⟩ := getSale_row facts.loaded
  have positive : 0 < inst.amount := by
    unfold payInstallment at h
    exact facts.positive (does_ensure_bind.mp h).1
  set paid : SaleRow := { sale.toSaleRow with
    installmentPlan := some (paidPlan env index.toNat plan)
    status := if allPaid (paidPlan env index.toNat plan) then .paid else sale.status } with rewritten
  have written : ∀ id, final.sales.find? id =
      if id = sale.id then (db.sales.find? id).map fun _ => paid else db.sales.find? id := by
    intro id
    rw [moved, installmentJournal_row]
    simp only [saleStep]
    split
    · rename_i same
      subst same
      rw [stored, Option.map_some, Option.map_some]
    · rfl
  have move := DebtMove.of_row stored written rfl fun id => by
    rw [debts]
    exact (collected_installments ..).trans (guarded_map _ _ _ _)
  rw [move.awaited_iff held]
  have only : (Call.payInstallment sale.id index amount method).KeepsDebt db ↔ (sale.customerID ≠ "" →
      sale.paymentMethod ≠ .installment → ∀ owed ∈ installmentDebtOf db sale.customerID, owed = 0) := by
    simp [Call.KeepsDebt, stored]
  rw [only]
  by_cases kind : sale.paymentMethod = .installment
  · have named : sale.customerID ≠ "" := (books.valid _ _ stored).named kind
    have before : due sale.toSaleRow = (plan.entries.map unpaidAmount).sum := by
      simp [due, awaited, kind, facts.active, facts.planned]
    have after : due paid = due sale.toSaleRow - inst.amount := by
      have live : paid.status ≠ .returned ∧ paid.status ≠ .partialReturn := by
        simp only [rewritten]
        split
        · simp
        · exact facts.active
      have sum := sum_modify plan.entries unpaidAmount (fun inst => { inst with status := .paid, paidAt := env.unix })
        facts.scheduled
      have old : unpaidAmount inst = inst.amount := if_neg facts.unpaid
      rw [← entries_paidPlan, ← before, old] at sum
      rw [due, if_pos (show paid.paymentMethod = .installment from kind), awaited, if_neg (by tauto)]
      simpa [rewritten, unpaidAmount] using sum
    simp only [named, kind, ne_eq, not_false_eq_true, not_true_eq_false, if_true, false_imp_iff, forall_const, iff_true, after]
    intro owed known
    have enough := due_le books.valid stored
    rw [← held _ owed known] at enough
    have kept : final.sales.find? sale.id = some paid := by rw [written, if_pos rfl, stored, Option.map_some]
    have rest := due_nonneg (call_keeps_valid (c := .payInstallment sale.id index amount method) books.valid h _ _ kept)
    rw [clampSub_min]
    omega
  · have nothing : due sale.toSaleRow = 0 := if_neg kind
    have still : due paid = 0 := if_neg kind
    simp only [nothing, still, kind, ne_eq, not_false_eq_true, forall_const, sub_zero, Int.add_zero]
    by_cases named : sale.customerID = ""
    · simp [named]
    · simp only [named, not_false_eq_true, if_true, forall_const]
      refine forall₂_congr fun owed known => ?_
      have low := awaitedDebt_nonneg books.valid sale.customerID
      rw [← held _ owed known] at low
      rw [clampSub_min]
      omega

/-- The debts stay right over a call whose journal moves no installments. -/
theorem unmoved_debts (held : DebtsAwaited db) (rows : ∀ id, final.sales.find? id = db.sales.find? id)
    (debts : ∀ id, installmentDebtOf final id = installmentDebtOf db id) : DebtsAwaited final := by
  intro id owed known
  have same : awaitedDebt final id = awaitedDebt db id := by
    have replaced := Table.sum_replaced (fun other (_ : other ≠ "") => rows other) (share id)
    rw [Table.amountAt, Table.amountAt, rows] at replaced
    exact replaced.trans (by simp [awaitedDebt])
  rw [same]
  exact held id owed ((debts id).symm.trans known)

theorem payment_debts {request : Payment} {allowOverpay : Bool} (held : DebtsAwaited db)
    (h : Does (createPayment .exact env request allowOverpay) db () ws final) : DebtsAwaited final := by
  have moved := sale_replayed h
  have debts := installmentDebt_replayed h
  obtain ⟨_, rfl⟩ := createPayment_does h
  simp only [paymentJournal_row] at moved
  refine unmoved_debts held moved fun id => (debts id).trans ?_
  have fixed : ∀ v ∈ paymentJournal env db.preferences request, ∀ o, (installmentDebtCell id).step v o = o := by
    unfold paymentJournal debtPaymentWrites cashInWrites
    intro v member o
    simp only [List.mem_cons, List.mem_append] at member
    rcases member with rfl | paid | cash
    · exact balance_fixed (fun _ => rfl) o
    · split at paid
      · obtain rfl := List.mem_singleton.mp paid
        exact balance_fixed (fun _ => rfl) o
      · cases paid
    · split at cash
      · obtain rfl := List.mem_singleton.mp cash
        exact balance_fixed (fun _ => rfl) o
      · cases cash
  exact Cell.steps_frame _ fixed _

/-- An accepted call leaves every debt collectable exactly when it keeps the debts. -/
theorem call_debts {c : Call} (books : DebtBooks db) (held : DebtsAwaited db) (scheduled : c.Scheduled)
    (h : Does (c.body .exact env) db () ws final) : DebtsAwaited final ↔ c.KeepsDebt db := by
  cases c with
  | processSale actor request => exact sale_debts held scheduled h
  | returnSale saleID => exact return_debts books held h
  | returnSalePartial saleID productID qty => exact partial_debts books held h
  | createPayment request => exact iff_of_true (payment_debts held h) trivial
  | createPaymentForced request => exact iff_of_true (payment_debts held h) trivial
  | payInstallment saleID index amount method => exact collect_debts books held h
  | addCashMovement =>
    have moved := sale_replayed h
    have debts := installmentDebt_replayed h
    obtain ⟨_, _, rfl⟩ := addCashMovement_does h
    exact iff_of_true (unmoved_debts held moved debts) trivial

end Calls

/-- The same sales, and for every customer the same installment debt. -/
def SameDebts (db later : Store) : Prop :=
  later.sales = db.sales ∧ ∀ customerID, installmentDebtOf later customerID = installmentDebtOf db customerID

abbrev DebtStep := CounterStep SameDebts

def ScheduledStep (db : Store) : DebtStep → Prop
  | .call env c => (c.body .exact env).accepts db → c.Scheduled
  | .elsewhere _ _ => True

def KeepsDebtStep (db : Store) : DebtStep → Prop
  | .call env c => (c.body .exact env).accepts db → c.KeepsDebt db
  | .elsewhere _ _ => True

theorem step_debts {step : DebtStep} {db : Store} (books : DebtBooks db) (held : DebtsAwaited db)
    (scheduled : ScheduledStep db step) :
    DebtBooks (step.next db) ∧ (DebtsAwaited (step.next db) ↔ KeepsDebtStep db step) := by
  cases step with
  | call env c =>
    by_cases accepted : (c.body .exact env).accepts db
    · have does := does_accepted accepted
      simp only [KeepsDebtStep, accepted, forall_const]
      exact ⟨call_complete books (scheduled accepted) does, call_debts books held (scheduled accepted) does⟩
    · simp only [CounterStep.next, KeepsDebtStep, accepted, false_imp_iff, iff_true]
      rw [(commit_rejected accepted).1]
      exact ⟨books, held⟩
  | elsewhere change keeps =>
    obtain ⟨sales, debts⟩ := keeps db
    have rows : ∀ id, (change db).sales.find? id = db.sales.find? id := fun id => by rw [sales]
    refine ⟨⟨fun id row found => books.valid id row ((rows id).symm.trans found),
      fun id row found => books.complete id row ((rows id).symm.trans found)⟩, ?_⟩
    exact iff_of_true (unmoved_debts held rows debts) trivial

theorem commit_keeps_valid {env : Env} {c : Call} {db : Store} (valid : SalesValid db) :
    SalesValid ((c.body .exact env).commit db) := by
  by_cases accepted : (c.body .exact env).accepts db
  · exact call_keeps_valid valid (does_accepted accepted)
  · rw [(commit_rejected accepted).1]
    exact valid

section Tea

def teaForAli : DebtStep := .call till (.processSale sara (teaSale "s1" "ali" .installment none (some twoMonths) 2))

theorem shop_cleared : ∀ customerID, ∀ owed ∈ installmentDebtOf shop customerID, owed = 0 := by
  intro customerID owed known
  obtain ⟨customer, found, rfl⟩ := Option.map_eq_some_iff.mp known
  have member := Table.find?_mem found
  simp only [shop, List.mem_singleton] at member
  rw [member]

/-- The sale of the teas comes with a schedule, whatever is called afterwards on it. -/
theorem teaForAli_scheduled {c : Call} (other : c.Scheduled) (front : List DebtStep) (step : DebtStep)
    (back : List DebtStep) (parts : [teaForAli, .call till c] = front ++ step :: back) :
    ScheduledStep (CounterStep.run front shop) step := by
  have member : step ∈ [teaForAli, .call till c] := by rw [parts]; simp
  simp only [List.mem_cons, List.not_mem_nil, or_false] at member
  rcases member with rfl | rfl
  · exact fun _ _ => ⟨twoMonths, rfl, rfl⟩
  · exact fun _ => other

end Tea

end BeidarPos
