import BeidarPos.InstallmentDebt
import BeidarPos.ReturnLimits

/-! Collecting the installments of a sale. Whatever calls are made, an entry of the schedule
is collected once, for its own amount, and the plan, the status of the sale and the payment
rows tell the same. -/
namespace BeidarPos

open Machine Relational Journal Tx

structure PayCall where
  env : Env
  saleID : String
  installmentIndex : Int
  amount : Int
  method : PaymentMethod

def servePay (w : Word) (call : PayCall) : DbTx Unit :=
  payInstallment w call.env call.saleID call.installmentIndex call.amount call.method

/-- The indices of the sale that the accepted calls of a sequence name, in order. -/
def acceptedIndices (w : Word) (saleID : String) : List PayCall → Store → List Int
  | [], _ => []
  | call :: calls, db =>
    (if call.saleID = saleID ∧ (servePay w call).accepts db then [call.installmentIndex] else []) ++
      acceptedIndices w saleID calls ((servePay w call).commit db)

/-- The paid entries of a schedule that starts at number `k`: their indices and amounts. -/
def paidFrom (k : Int) : List Installment → List (Int × Int)
  | [] => []
  | inst :: rest => (if inst.status = .paid then [(k, inst.amount)] else []) ++ paidFrom (k + 1) rest

/-- The index and the amount of each row that was collected for the sale. -/
def collectedRows (saleID : String) (rows : List Payment) : List (Int × Int) :=
  (rows.filter fun row => row.saleID = saleID).map fun row => (row.instIndex, row.amount)

section Schedule

variable {entries : List Installment} {inst : Installment} {index : Nat} {k : Int}

theorem paidFrom_low {entry : Int × Int} (member : entry ∈ paidFrom k entries) : k ≤ entry.1 := by
  induction entries generalizing k with
  | nil => cases member
  | cons head rest ih =>
    rcases List.mem_append.mp member with here | later
    · split at here
      · obtain rfl := List.mem_singleton.mp here
        exact le_rfl
      · cases here
    · have above := ih later
      omega

/-- No index is paid twice. -/
theorem paidFrom_nodup (k : Int) (entries : List Installment) : ((paidFrom k entries).map Prod.fst).Nodup := by
  induction entries generalizing k with
  | nil => exact List.nodup_nil
  | cons head rest ih =>
    rw [paidFrom, List.map_append, List.nodup_append]
    refine ⟨by split <;> simp, ih _, fun a first b second => ?_⟩
    obtain ⟨entry, later, rfl⟩ := List.mem_map.mp second
    have above := paidFrom_low later
    split at first
    · obtain rfl := List.mem_singleton.mp first
      omega
    · cases first

/-- Paying an entry adds its index and its amount. -/
theorem paidFrom_paid (env : Env) (entry : entries[index]? = some inst) (unpaid : inst.status ≠ .paid) :
    (paidFrom k (entries.modify index fun inst => { inst with status := .paid, paidAt := env.unix })).Perm
      (paidFrom k entries ++ [(k + index, inst.amount)]) := by
  induction entries generalizing index k with
  | nil => simp at entry
  | cons head rest ih =>
    cases index with
    | zero =>
      obtain rfl : head = inst := by simpa using entry
      simp only [List.modify_zero_cons, paidFrom, if_true, unpaid, if_false, List.nil_append, Nat.cast_zero, add_zero]
      exact List.perm_append_comm
    | succ index =>
      have inside := ih (k := k + 1) (by simpa using entry)
      have shifted : k + 1 + (index : Int) = k + ((index + 1 : Nat) : Int) := by
        push_cast
        ring
      simp only [List.modify_succ_cons, paidFrom, List.append_assoc]
      rw [shifted] at inside
      exact inside.append_left _

theorem amounts_paid (env : Env) (entries : List Installment) (index : Nat) :
    (entries.modify index fun inst => { inst with status := .paid, paidAt := env.unix }).map Installment.amount =
      entries.map Installment.amount := by
  induction entries generalizing index with
  | nil => simp
  | cons head rest ih => cases index <;> simp [ih]

theorem paidFrom_none (unpaid : ∀ inst ∈ entries, inst.status ≠ .paid) : paidFrom k entries = [] := by
  induction entries generalizing k with
  | nil => rfl
  | cons head rest ih =>
    rw [paidFrom, if_neg (unpaid head (by simp)), ih fun inst member => unpaid inst (by simp [member])]
    rfl

end Schedule

section Calls

variable {w : Word} {env : Env} {db final : Store} {saleID : String} {ws : List Write} {call : PayCall}
  {amounts : List Int} {collected : List (Int × Int)}

/-- The sale's plan keeps its amounts, the collected entries are the paid ones, and the
status says when these are all. -/
structure Collecting (saleID : String) (amounts : List Int) (collected : List (Int × Int)) (db : Store) : Prop where
  row : ∃ row plan, db.sales.find? saleID = some row ∧ row.installmentPlan = some plan ∧
    plan.entries.map Installment.amount = amounts ∧ collected.Perm (paidFrom 0 plan.entries) ∧
    (row.status = .paid ↔ allPaid plan)

theorem collected_row (saleID : String) (h : Does (servePay w call) db () ws final) :
    ∃ sale plan inst, InstallmentFacts w db call.saleID call.installmentIndex call.amount sale plan inst ∧
      collectedRows saleID (createdRows ws) =
        if call.saleID = saleID then [(call.installmentIndex, inst.amount)] else [] := by
  obtain ⟨sale, plan, inst, facts, rfl⟩ := payInstallment_does h
  obtain ⟨_, _, own⟩ := getSale_row facts.loaded
  refine ⟨sale, plan, inst, facts, ?_⟩
  have low : ¬ call.installmentIndex < 0 := by
    intro low
    have entry := facts.entry
    rw [installmentAt, if_pos low] at entry
    cases entry
  have index : (call.installmentIndex.toNat : Int) = call.installmentIndex := Int.toNat_of_nonneg (by omega)
  have created : createdRows (installmentJournal call.env db.preferences call.installmentIndex.toNat call.method sale plan inst) =
      [installmentRow call.env sale.toSaleRow inst.amount call.method call.installmentIndex.toNat] := by
    unfold installmentJournal installmentDebtPaid cashInWrites
    split <;> split <;> rfl
  rw [created, ← own]
  unfold collectedRows
  by_cases here : sale.id = saleID
  · simp [installmentRow, here, index]
  · simp [installmentRow, here]

/-- An accepted call on the sale adds the entry it names, which was not paid before. -/
theorem Collecting.step (kept : Collecting saleID amounts collected db) (h : Does (servePay w call) db () ws final) :
    Collecting saleID amounts (collected ++ collectedRows saleID (createdRows ws)) final := by
  have moved := sale_replayed h saleID
  obtain ⟨sale, plan, inst, facts, rows⟩ := collected_row saleID h
  obtain ⟨stored, _, own⟩ := getSale_row facts.loaded
  obtain ⟨row, plan', found, planned, same, perm, status⟩ := kept.row
  obtain ⟨_, _, _, facts', rfl⟩ := payInstallment_does h
  obtain rfl := Option.some.inj (facts.loaded.symm.trans facts'.loaded)
  obtain rfl := Option.some.inj (facts.planned.symm.trans facts'.planned)
  rw [installmentJournal_row, saleStep] at moved
  rw [rows]
  by_cases here : call.saleID = saleID
  · rw [if_pos (own.trans here).symm] at moved
    rw [here] at stored
    obtain rfl : row = sale.toSaleRow := Option.some.inj (found.symm.trans stored)
    obtain rfl := Option.some.inj (planned.symm.trans facts.planned)
    rw [stored, Option.map_some] at moved
    have entry := facts.entry
    unfold installmentAt at entry
    split at entry
    · cases entry
    · rename_i low
      have index : ((call.installmentIndex.toNat : Nat) : Int) = call.installmentIndex := Int.toNat_of_nonneg (by omega)
      have paid := paidFrom_paid call.env (k := 0) entry facts.unpaid
      rw [zero_add, index] at paid
      rw [if_pos here]
      refine ⟨_, _, moved, rfl, ?_, ?_, ?_⟩
      · rw [entries_paidPlan, amounts_paid, same]
      · rw [entries_paidPlan]
        exact (perm.append_right _).trans paid.symm
      · have unfinished : ¬ allPaid plan' := fun all => facts.unpaid (all inst (List.mem_of_getElem? entry))
        simp only
        split
        · rename_i all
          exact iff_of_true rfl all
        · rename_i more
          exact iff_of_false (mt status.mp unfinished) more
  · rw [if_neg fun same => here (own.symm.trans same.symm)] at moved
    rw [if_neg here, List.append_nil]
    exact ⟨row, plan', moved.trans found, planned, same, perm, status⟩

/-- Over any calls the rows that are created for the sale follow the accepted indices. -/
theorem Collecting.run (calls : List PayCall) (kept : Collecting saleID amounts collected db) :
    Collecting saleID amounts (collected ++ collectedRows saleID (createdRows (history (servePay w) calls db)))
        (after (servePay w) calls db) ∧
      (collectedRows saleID (createdRows (history (servePay w) calls db))).map Prod.fst =
        acceptedIndices w saleID calls db := by
  have joined : ∀ front back : List Write, collectedRows saleID (createdRows (front ++ back)) =
      collectedRows saleID (createdRows front) ++ collectedRows saleID (createdRows back) := by
    intro front back
    simp [collectedRows]
  induction calls generalizing db collected with
  | nil => simpa [history, collectedRows, acceptedIndices] using kept
  | cons call calls ih =>
    rw [history, joined, acceptedIndices, after_cons, List.map_append]
    by_cases accepted : (servePay w call).accepts db
    · have does := does_accepted accepted
      obtain ⟨onward, indices⟩ := ih (kept.step does)
      rw [List.append_assoc] at onward
      refine ⟨onward, ?_⟩
      obtain ⟨_, _, inst, _, rows⟩ := collected_row saleID does
      rw [indices, rows]
      by_cases here : call.saleID = saleID <;> simp [here, accepted]
    · obtain ⟨still, nothing⟩ := commit_rejected accepted
      obtain ⟨onward, indices⟩ := ih kept
      have none : collectedRows saleID (createdRows []) = [] := rfl
      rw [still, nothing, none, List.nil_append, List.map_nil, List.nil_append, if_neg fun both => accepted both.2,
        List.nil_append]
      exact ⟨onward, indices⟩

end Calls

/-- Each installment of a sale is collected at most once and for its own amount, whatever calls
are made, and the readers agree on which ones are. A call that is refused changes nothing. -/
theorem installments_collected (w : Word) {env : Env} {actor : Actor} {request : Sale} {db start : Store} {ws : List Write}
    {plan : InstallmentPlan} (sold : Does (processSaleAs w env actor request) db () ws start)
    (kind : request.paymentMethod = .installment) (planned : request.installmentPlan = some plan)
    (some_entry : plan.entries ≠ []) (pending : ∀ inst ∈ plan.entries, inst.status ≠ .paid) (calls : List PayCall) :
    (acceptedIndices w (stampSale env request).id calls start).Nodup ∧
    (∃ row now, (after (servePay w) calls start).sales.find? (stampSale env request).id = some row ∧
      row.installmentPlan = some now ∧ now.entries.map Installment.amount = plan.entries.map Installment.amount ∧
      (collectedRows (stampSale env request).id (createdRows (history (servePay w) calls start))).Perm
        (paidFrom 0 now.entries) ∧
      (row.status = .paid ↔ allPaid now) ∧
      ∃ total paid remaining, getInstallmentSummary w (stampSale env request).id (after (servePay w) calls start) =
          .ok (total, paid, remaining) ∧
        (w.fits (plan.entries.map Installment.amount).sum → remaining = (now.unpaid.map Installment.amount).sum)) ∧
    ∀ front call later, calls = front ++ call :: later → ¬ (servePay w call).accepts (after (servePay w) front start) →
      (servePay w call).commit (after (servePay w) front start) = after (servePay w) front start ∧
        (servePay w call).journal (after (servePay w) front start) = [] := by
  have stored := sold_row sold
  obtain ⟨facts, _⟩ := processSaleAs_does sold
  have checked : CheckedPlan w (pricedSale w env db request).toSaleRow plan := facts.plan kind plan planned
  have begun : Collecting (stampSale env request).id (plan.entries.map Installment.amount) [] start := by
    refine ⟨_, plan, stored, planned, rfl, by rw [paidFrom_none pending], ?_⟩
    have waiting : (pricedSale w env db request).toSaleRow.status = .pending := if_pos (.inr kind)
    obtain ⟨inst, member⟩ := List.exists_mem_of_ne_nil _ some_entry
    exact iff_of_false (by rw [waiting]; simp) fun all => pending inst member (all inst member)
  obtain ⟨⟨row, now, found, planned', same, perm, status⟩, indices⟩ := begun.run calls
  rw [List.nil_append] at perm
  refine ⟨?_, ⟨row, now, found, planned', same, perm, status, ?_⟩, fun front call later _ => commit_rejected⟩
  · rw [← indices]
    exact (perm.map Prod.fst).nodup_iff.mpr (paidFrom_nodup 0 now.entries)
  · have loaded : (after (servePay w) calls start).getSale (stampSale env request).id =
        some ⟨row, (after (servePay w) calls start).itemsOf (stampSale env request).id⟩ := by
      rw [Store.getSale, found]
      rfl
    refine ⟨_, _, _, by rw [getInstallmentSummary, loaded]; simp only [planned']; rfl, fun fits => ?_⟩
    have nonneg : ∀ inst ∈ now.entries, 0 ≤ inst.amount := by
      intro inst member
      have there : inst.amount ∈ plan.entries.map Installment.amount := same ▸ List.mem_map_of_mem member
      obtain ⟨origin, inside, equal⟩ := List.mem_map.mp there
      exact equal ▸ checked.amounts origin inside
    have waits : ∀ inst ∈ now.unpaid, 0 ≤ inst.amount := fun inst member => nonneg inst (mem_unpaid.mp member).1
    have within : (now.unpaid.map Installment.amount).sum ≤ (now.entries.map Installment.amount).sum :=
      (List.filter_sublist.map _).sum_le_sum fun amount member => by
        obtain ⟨inst, inside, rfl⟩ := List.mem_map.mp member
        exact nonneg inst inside
    have low : 0 ≤ (now.unpaid.map Installment.amount).sum := List.sum_nonneg fun amount member => by
      obtain ⟨inst, inside, rfl⟩ := List.mem_map.mp member
      exact waits inst inside
    rw [← same] at fits
    rw [w.foldl_of_fits Installment.amount now.unpaid waits le_rfl
      (by rw [Int.zero_add]; exact w.fits_of_le fits low within), Int.zero_add]

section Tea

def teasOnPlan (plan : InstallmentPlan) : Store :=
  (processSaleAs .exact till sara (teaSale "s1" "ali" .installment none (some plan) 2)).commit shop

/-- The second month, the second month again, and the first one with its amount in dinars. -/
def payTwice : List PayCall := [⟨till, "s1", 1, 1000, .cash⟩, ⟨till, "s1", 1, 1000, .card⟩, ⟨till, "s1", 0, 10, .cash⟩]

/-- Nothing is left to collect after the first payment. -/
def allDown : InstallmentPlan := ⟨2000, 2000, 0, "2026-01-01", some []⟩

end Tea

theorem installments_collected_teas : (acceptedIndices .exact "s1" payTwice (teasOnPlan twoMonths)).Nodup ∧
    ∃ row now, (after (servePay .exact) payTwice (teasOnPlan twoMonths)).sales.find? "s1" = some row ∧
      row.installmentPlan = some now ∧ now.entries.map Installment.amount = [1000, 1000] ∧
      (collectedRows "s1" (createdRows (history (servePay .exact) payTwice (teasOnPlan twoMonths)))).Perm
        (paidFrom 0 now.entries) ∧
      (row.status = .paid ↔ allPaid now) := by
  have accepted : (processSaleAs .exact till sara (teaSale "s1" "ali" .installment none (some twoMonths) 2)).accepts shop := by
    decide +kernel
  have sold : Does (processSaleAs .exact till sara (teaSale "s1" "ali" .installment none (some twoMonths) 2)) shop () _
    (teasOnPlan twoMonths) := does_accepted accepted
  obtain ⟨once, ⟨row, now, found, planned, same, perm, status, _⟩, _⟩ :=
    installments_collected .exact sold rfl rfl (by decide) (by decide) payTwice
  exact ⟨once, row, now, found, planned, same, perm, status⟩

/-- A plan without installments waits for ever, although each of its installments is paid. -/
theorem installments_collected_none :
    (processSaleAs .exact till sara (teaSale "s1" "ali" .installment none (some allDown) 2)).accepts shop ∧
    (∀ inst ∈ allDown.entries, inst.status = .pending) ∧
    (∀ row ∈ (after (servePay .exact) [] (teasOnPlan allDown)).sales.find? "s1",
      row.installmentPlan = some allDown ∧ row.status ≠ .paid) ∧ allPaid allDown := by
  refine ⟨?_, ?_, ?_, ?_⟩ <;> decide +kernel

end BeidarPos
