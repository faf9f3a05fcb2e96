import BeidarPos.RemainingLegs
import BeidarPos.ReturnValue
import BeidarPos.PartialReturns

/-! How much of a split sale comes back through each of its legs. A partial return measures
the legs as they were paid against what is left of the invoice, a full return against their
own sum, with what truncation left over on one of them. -/
namespace BeidarPos

open Machine Relational Journal Tx Rounding

section Measures

/-- A row on a leg; cash for a debt that did not cover the credit leg is not on the cash leg. -/
def onLeg (m : PaymentMethod) (p : Payment) : Int := if p.note = creditNote then 0 else handed m p

/-- Cash for a debt that did not cover the credit leg. -/
def forDebt (p : Payment) : Int := if p.note = creditNote then handed .cash p else 0

/-- What a call gives back through a leg of a customer's sale. -/
def callGiven (customerID : String) (m : PaymentMethod) (x : DbTx Unit) (db : Store) : Int :=
  if m = .credit then
    lowered (debtOf db customerID) (debtOf (x.commit db) customerID) + rowSum forDebt (x.journal db)
  else rowSum (onLeg m) (x.journal db)

theorem callGiven_rejected {customerID : String} {m : PaymentMethod} {x : DbTx Unit} {db : Store}
    (rejected : ¬ x.accepts db) : callGiven customerID m x db = 0 := by
  obtain ⟨same, nothing⟩ := commit_rejected rejected
  unfold callGiven
  rw [same, nothing, lowered_self]
  simp

theorem callGiven_accepted {customerID : String} {m : PaymentMethod} {x : DbTx Unit} {db final : Store}
    {ws : List Write} (h : Does x db () ws final) : callGiven customerID m x db =
      if m = .credit then lowered (debtOf db customerID) (debtOf final customerID) + rowSum forDebt ws
      else rowSum (onLeg m) ws := by
  rw [callGiven, journal_accepted h, commit_accepted h]

end Measures

section Calls

variable {env : Env} {db final : Store} {sale : Sale} {split : SplitDetails} {saleID productID : String}
  {qtyToReturn : ℚ} {ws : List Write}

theorem onLeg_refund (m : PaymentMethod) (row : SaleRow) (amount : Int) (method : PaymentMethod) {note : Text}
    (other : note ≠ creditNote) :
    onLeg m (refundRow env row amount method note) = handed m (refundRow env row amount method note) := by
  simp [onLeg, refundRow, other]

theorem forDebt_refund (row : SaleRow) (amount : Int) (method : PaymentMethod) {note : Text} (other : note ≠ creditNote) :
    forDebt (refundRow env row amount method note) = 0 := by
  simp [forDebt, refundRow, other]

/-- The rows of the legs that are paid back are on them. -/
theorem legRows_given (legs : List (PaymentMethod × Int)) (row : SaleRow) {note : Text} (other : note ≠ creditNote)
    (paid : PaymentMethod → Int → Int) (m : PaymentMethod) :
    rowSum (onLeg m) (legs.flatMap (legRows env row note paid)) =
        rowSum (handed m) (legs.flatMap (legRows env row note paid)) ∧
      rowSum forDebt (legs.flatMap (legRows env row note paid)) = 0 := by
  simp only [rowSum_flatMap]
  refine ⟨congrArg List.sum (List.map_congr_left fun leg _ => ?_), List.sum_eq_zero fun x member => ?_⟩
  · unfold legRows
    split
    · rw [rowSum_payment, rowSum_payment, onLeg_refund _ _ _ _ other]
    · rfl
  · obtain ⟨leg, _, rfl⟩ := List.mem_map.mp member
    unfold legRows
    split
    · rw [rowSum_payment, forDebt_refund _ _ _ other]
    · rfl

theorem splitLegs_given (remaining legs : List (PaymentMethod × Int)) (m : PaymentMethod) :
    rowSum (onLeg m) (legs.flatMap (splitLegWrites .exact env sale.toSaleRow remaining)) =
        rowSum (handed m) (legs.flatMap (splitLegWrites .exact env sale.toSaleRow remaining)) ∧
      rowSum forDebt (legs.flatMap (splitLegWrites .exact env sale.toSaleRow remaining)) = 0 :=
  legRows_given legs sale.toSaleRow (by decide) (fun method _ => (legOf remaining method).getD 0) m

theorem partialLegs_given (note : Text) (other : note ≠ creditNote) (refundAmount : Int)
    (legs : List (PaymentMethod × Int)) (m : PaymentMethod) :
    rowSum (onLeg m) (legs.flatMap (partialLegWrites .exact env sale.toSaleRow note refundAmount)) =
        rowSum (handed m) (legs.flatMap (partialLegWrites .exact env sale.toSaleRow note refundAmount)) ∧
      rowSum forDebt (legs.flatMap (partialLegWrites .exact env sale.toSaleRow note refundAmount)) = 0 :=
  legRows_given legs sale.toSaleRow other (fun _ amount => legShare .exact refundAmount amount sale.total) m

/-- The balances of a split sale pay out what the debt did not cover, and nothing on a leg. -/
theorem splitBalance_given (kind : sale.paymentMethod = .split) (debt : Option Int) (m : PaymentMethod) :
    rowSum (onLeg m) (balanceWrites .exact env sale.toSaleRow debt) = 0 ∧
      rowSum forDebt (balanceWrites .exact env sale.toSaleRow debt) = unpassedCash env sale.toSaleRow debt := by
  unfold balanceWrites unpassedCash
  by_cases anonymous : sale.customerID = ""
  · simp only [anonymous, if_true, kind, ne_eq, not_true_eq_false, false_and, if_false]
    cases debt <;> exact ⟨rfl, rfl⟩
  · rw [if_neg anonymous, kind]
    cases debt with
    | none => exact ⟨rfl, rfl⟩
    | some owed =>
      have nonneg := overpaid_nonneg owed (creditRemaining .exact env sale.toSaleRow)
      have points : ∀ g : Payment → Int, rowSum g [.decrementPurchases sale.customerID sale.total,
          .adjustPoints sale.customerID (Word.exact.neg (Amount.div .exact sale.total 1000))] = 0 := fun _ => rfl
      simp only [rowSum_append, points, Int.zero_add, splitCreditWrites, anonymous, ne_eq, not_false_eq_true, true_and]
      by_cases positive : 0 < creditRemaining .exact env sale.toSaleRow
      · have taken : ∀ g : Payment → Int,
            rowSum g [.decrementDebt sale.customerID (creditRemaining .exact env sale.toSaleRow)] = 0 := fun _ => rfl
        rw [if_pos positive, if_pos positive, debtRefundWrites, ← List.singleton_append, rowSum_append, rowSum_append,
          taken, taken, rowSum_rowFor, rowSum_rowFor]
        simp only [onLeg, forDebt, refundRow, if_true, handed, Word.exact_neg, abs_neg, abs_of_nonneg nonneg]
        constructor
        · split <;> rfl
        · split <;> omega
      · rw [if_neg positive, if_neg positive]
        exact ⟨rfl, rfl⟩

theorem partialSplitBalance_given (kind : sale.paymentMethod = .split) (item : SaleItem) (refundAmount : Int)
    (debt : Option Int) (g : Payment → Int) :
    rowSum g (partialBalanceWrites .exact env sale.toSaleRow item qtyToReturn refundAmount debt) = 0 := by
  unfold partialBalanceWrites
  rw [kind]
  split
  · rfl
  · have share : rowSum g (creditShareWrites .exact sale.toSaleRow refundAmount) = 0 := by
      unfold creditShareWrites
      split <;> rfl
    have points : rowSum g [.decrementPurchases sale.customerID refundAmount,
        .adjustPoints sale.customerID (Word.exact.neg (Amount.div .exact refundAmount 1000))] = 0 := rfl
    rw [rowSum_append, points, Int.zero_add]
    exact share

theorem uncovered_nonneg (debt : Option Int) (creditShare : Int) : 0 ≤ uncovered debt creditShare := by
  unfold uncovered
  split
  · cases debt with
    | none => simp; omega
    | some owed => simp
  · exact le_rfl

/-- A partial return gives back no more through a leg than the leg's share of the refund. -/
theorem part_given (kind : sale.paymentMethod = .split) (details : sale.splitDetails = some split)
    (legs : ∀ leg ∈ split.legs, 0 ≤ leg.2) {item : SaleItem}
    (facts : PartialFacts .exact db saleID productID qtyToReturn item sale)
    (h : Does (returnSalePartial .exact env saleID productID qtyToReturn) db ()
      (partialJournal .exact env db saleID productID qtyToReturn item sale) final) (m : PaymentMethod) :
    callGiven sale.customerID m (returnSalePartial .exact env saleID productID qtyToReturn) db ≤
      Rounding.share (partialRefund .exact sale item qtyToReturn) (split.get m) sale.total := by
  have refund := facts.refund
  have positive : 0 < sale.total := lt_of_lt_of_le refund (partialRefund_le ..)
  have paying : payingLegs sale.toSaleRow = some split := by simp [payingLegs, kind, positive, details]
  have low := fun m => Rounding.share_nonneg refund.le (SplitDetails.get_nonneg legs m) positive.le
  have rows := @partialLegs_given env sale (partialNote item qtyToReturn) (by simp [partialNote, creditNote])
    (partialRefund .exact sale item qtyToReturn) ((env.order 0).visit split.legs)
  rw [callGiven_accepted h, partialJournal_rows, partialJournal_rows, partialSplitBalance_given kind,
    partialSplitBalance_given kind, partialLedgerWrites, paying, Int.zero_add, Int.zero_add]
  dsimp only
  rw [(rows m).1, (rows m).2, partialLegs_rows positive refund legs, legPayout]
  split
  · rename_i credit
    subst credit
    have share : creditShare .exact sale.toSaleRow (partialRefund .exact sale item qtyToReturn) ≤
        Rounding.share (partialRefund .exact sale item qtyToReturn) (split.get .credit) sale.total := by
      simp only [creditShare, details, legShare_exact]
      split
      · exact le_rfl
      · exact low .credit
    have shareLow : 0 ≤ creditShare .exact sale.toSaleRow (partialRefund .exact sale item qtyToReturn) := by
      simp only [creditShare, details, legShare_exact]
      split
      · exact low .credit
      · exact le_rfl
    have debt := debt_replayed h sale.customerID
    have fell := partial_debt env sale.toSaleRow (returnedLine item qtyToReturn) qtyToReturn
      (partialRefund .exact sale item qtyToReturn) (debtOf db sale.customerID)
    unfold debtCell at debt fell
    rw [partialJournal_balance] at debt
    have other : partialOverpay .exact sale.toSaleRow (partialRefund .exact sale item qtyToReturn)
        (debtOf db sale.customerID) = 0 :=
      @partialOverpay_other sale.toSaleRow (by simp [kind]) .exact _ _
    have taken := creditShareWrites_debt sale.toSaleRow (partialRefund .exact sale item qtyToReturn)
      (debtOf db sale.customerID) shareLow
    have rest := uncovered_nonneg (debtOf db sale.customerID)
      (creditShare .exact sale.toSaleRow (partialRefund .exact sale item qtyToReturn))
    have share_low := low .credit
    rw [other, kind, ← debt] at fell
    dsimp only at fell
    unfold debtCell at taken
    rw [taken] at fell
    split at fell <;> omega
  · exact le_rfl

/-- A full return gives back no more through a leg than what remains of it. -/
theorem full_given (kind : sale.paymentMethod = .split) (covered : CoveredSplit sale.toSaleRow split)
    (h : Does (returnSale .exact env saleID) db ()
      (returnJournal .exact env db.products (debtOf db sale.customerID) sale) final) (m : PaymentMethod) :
    ∃ pick, callGiven sale.customerID m (returnSale .exact env saleID) db ≤
      (legOf (saleRemainingLegs .exact pick sale.toSaleRow) m).getD 0 := by
  have balance := @splitBalance_given env sale kind (debtOf db sale.customerID)
  have legs := @splitLegs_given env sale (saleRemainingLegs .exact (env.order 1) sale.toSaleRow)
    ((env.order 2).visit split.legs)
  have ledger : ledgerWrites .exact env sale.toSaleRow = ((env.order 2).visit split.legs).flatMap
      (splitLegWrites .exact env sale.toSaleRow (saleRemainingLegs .exact (env.order 1) sale.toSaleRow)) := by
    simp [ledgerWrites, kind, covered.details]
  rw [callGiven_accepted h, returnJournal_rows, returnJournal_rows, (balance m).1, (balance m).2, ledger, (legs m).1,
    (legs m).2, splitLedger_rows covered]
  by_cases credit : m = .credit
  · subst credit
    refine ⟨env.order 0, ?_⟩
    have debt := debt_replayed h sale.customerID
    have fell := full_debt env sale.toSaleRow (debtOf db sale.customerID)
    unfold debtCell at debt fell
    rw [returnJournal_balance] at debt
    have none : creditOverpay .exact sale.toSaleRow (debtOf db sale.customerID) = 0 := by simp [creditOverpay, kind]
    have nonneg := creditRemaining_nonneg covered env
    have given : creditGiven env sale.toSaleRow (debtOf db sale.customerID) ≤ creditRemaining .exact env sale.toSaleRow := by
      unfold creditGiven
      cases debtOf db sale.customerID with
      | none => simpa [kind] using nonneg
      | some owed =>
        simp only [kind]
        split
        · exact le_rfl
        · exact nonneg
    rw [none, ← debt] at fell
    change _ ≤ creditRemaining .exact env sale.toSaleRow
    simp only [if_true]
    omega
  · exact ⟨env.order 1, by simp [credit]⟩

end Calls

section Runs

variable {saleID customerID : String} {split : SplitDetails}

/-- What others may do to a sale that is coming back: anything but its payment and its worth. -/
def SamePayment (saleID : String) (db final : Store) : Prop :=
  ∀ row, db.sales.find? saleID = some row → ∃ next, final.sales.find? saleID = some next ∧
    next.paymentMethod = row.paymentMethod ∧ next.splitDetails = row.splitDetails ∧ next.total = row.total ∧
    next.customerID = row.customerID

/-- A partial return of the sale, or a change elsewhere. -/
inductive PartStep (saleID : String) where
  | part (env : Env) (productID : String) (qtyToReturn : ℚ)
  | elsewhere (change : Store → Store) (keeps : ∀ db, SamePayment saleID db (change db))

namespace PartStep

def next : PartStep saleID → Store → Store
  | .part env productID qtyToReturn, db => (returnSalePartial .exact env saleID productID qtyToReturn).commit db
  | .elsewhere change _, db => change db

def given (customerID : String) (m : PaymentMethod) : PartStep saleID → Store → Int
  | .part env productID qtyToReturn, db =>
    callGiven customerID m (returnSalePartial .exact env saleID productID qtyToReturn) db
  | .elsewhere _ _, _ => 0

/-- What an accepted part is worth, as a fraction of what is left of the invoice. -/
def fraction : PartStep saleID → Store → ℚ
  | .part env productID qtyToReturn, db =>
    if (returnSalePartial .exact env saleID productID qtyToReturn).accepts db then
      (returnValue .exact db saleID (.part productID qtyToReturn) : ℚ) /
        ((db.sales.find? saleID).elim 0 SaleRow.total : Int)
    else 0
  | .elsewhere _ _, _ => 0

def run (steps : List (PartStep saleID)) (db : Store) : Store := steps.foldl (fun db step => step.next db) db

/-- The sum of something over the steps of a run. -/
def total {α : Type} [AddMonoid α] (f : PartStep saleID → Store → α) : List (PartStep saleID) → Store → α
  | [], _ => 0
  | step :: steps, db => f step db + total f steps (step.next db)

end PartStep

/-- What the parts of a sale, and the full return that may end them, give back through a leg. -/
def legGiven (customerID : String) (m : PaymentMethod) (steps : List (PartStep saleID)) (last : Option Env) (db : Store) :
    Int :=
  PartStep.total (PartStep.given customerID m) steps db +
    last.elim 0 fun env => callGiven customerID m (returnSale .exact env saleID) (PartStep.run steps db)

/-- Nothing is left over by truncation, or one unit, and the leg that takes it was cut. -/
def RemainderTaken (row : SaleRow) (split : SplitDetails) : Prop :=
  CoveredSplit.remainder row split ≤ 0 ∨ (CoveredSplit.remainder row split = 1 ∧
    ∀ pick, ∀ m ∈ remainderLeg pick (scaledLegs .exact row.total split.total split),
      ¬ split.total ∣ row.total * split.get m)

/-- The fractions the parts are worth make up one invoice at most, with what is left of the
legs when the rest comes back. -/
structure ReturnsFit (split : SplitDetails) (steps : List (PartStep saleID)) (last : Option Env) (db : Store) : Prop where
  parts : PartStep.total PartStep.fraction steps db ≤ 1
  rest : ∀ env ∈ last, (returnSale .exact env saleID).accepts (PartStep.run steps db) →
    ∀ row ∈ (PartStep.run steps db).sales.find? saleID,
      PartStep.total PartStep.fraction steps db + (row.total : ℚ) / split.total ≤ 1 ∧ RemainderTaken row split

/-- The sale on its way back: what was given through each leg is a fraction of the leg. -/
structure Cut (saleID customerID : String) (split : SplitDetails) (gone : ℚ) (given : PaymentMethod → Int) (db : Store) :
    Prop where
  row : ∃ row, db.sales.find? saleID = some row ∧ row.paymentMethod = .split ∧ row.splitDetails = some split ∧
    row.customerID = customerID ∧ 0 ≤ row.total ∧ row.total ≤ split.total
  low : 0 ≤ gone
  legs : ∀ m, (given m : ℚ) ≤ gone * split.get m

variable {gone : ℚ} {given : PaymentMethod → Int} {db final : Store}

/-- A share is the fraction of the part, or less. -/
theorem share_le_fraction {amount leg whole : Int} (ha : 0 ≤ amount) (hl : 0 ≤ leg) (hw : 0 < whole) :
    (Rounding.share amount leg whole : ℚ) ≤ (amount : ℚ) / whole * leg := by
  have product := Rounding.share_mul_le ha hl hw
  have positive : (0 : ℚ) < whole := by exact_mod_cast hw
  rw [div_mul_eq_mul_div, le_div_iff₀ positive]
  exact_mod_cast product

theorem Cut.part {env : Env} {productID : String} {qtyToReturn : ℚ} (cut : Cut saleID customerID split gone given db)
    (legs : ∀ leg ∈ split.legs, 0 ≤ leg.2) :
    Cut saleID customerID split (gone + PartStep.fraction (.part env productID qtyToReturn : PartStep saleID) db)
      (fun m => given m + PartStep.given customerID m (.part env productID qtyToReturn : PartStep saleID) db)
      (PartStep.next (.part env productID qtyToReturn : PartStep saleID) db) := by
  simp only [PartStep.fraction, PartStep.given, PartStep.next]
  by_cases accepted : (returnSalePartial .exact env saleID productID qtyToReturn).accepts db
  · have h := does_accepted accepted
    have moved := sale_replayed h saleID
    obtain ⟨item, sale, facts, journal⟩ := returnSalePartial_does h
    rw [journal] at h moved
    obtain ⟨stored, _, own⟩ := getSale_row facts.loaded
    obtain ⟨row, found, kind, details, owner, nonneg, covered⟩ := cut.row
    obtain rfl : row = sale.toSaleRow := Option.some.inj (found.symm.trans stored)
    have refund := facts.refund
    have high := partialRefund_le .exact sale item qtyToReturn
    have positive : 0 < sale.total := lt_of_lt_of_le refund high
    have left := shrinkSale_total sale (returnedLine item qtyToReturn) qtyToReturn (partialRefund .exact sale item qtyToReturn)
      (allReturned (db.saleItems.put (returnedLine item qtyToReturn)) saleID) high
    have worth : (0 : ℚ) ≤ (partialRefund .exact sale item qtyToReturn : ℚ) / sale.total :=
      div_nonneg (by exact_mod_cast refund.le) (by exact_mod_cast positive.le)
    rw [partialJournal_row, if_pos own.symm, stored, Option.map_some] at moved
    rw [if_pos accepted, part_value facts, stored]
    refine ⟨⟨_, moved, kind, details, owner, ?_, ?_⟩, add_nonneg cut.low worth, fun m => ?_⟩
    · rw [left]
      omega
    · rw [left]
      omega
    · have own_share := part_given kind details legs facts h m
      have share := share_le_fraction refund.le (SplitDetails.get_nonneg legs m) positive
      have before := cut.legs m
      rw [owner] at own_share
      have step : ((callGiven customerID m (returnSalePartial .exact env saleID productID qtyToReturn) db : Int) : ℚ) ≤
          (partialRefund .exact sale item qtyToReturn : ℚ) / sale.total * split.get m :=
        le_trans (by exact_mod_cast own_share) share
      simp only [Option.elim_some]
      push_cast
      linarith
  · have nothing := fun m => @callGiven_rejected customerID m _ _ accepted
    rw [if_neg accepted, (commit_rejected accepted).1, add_zero]
    simpa only [nothing, add_zero] using cut

theorem Cut.run (steps : List (PartStep saleID)) (cut : Cut saleID customerID split gone given db)
    (legs : ∀ leg ∈ split.legs, 0 ≤ leg.2) :
    Cut saleID customerID split (gone + PartStep.total PartStep.fraction steps db)
      (fun m => given m + PartStep.total (PartStep.given customerID m) steps db) (PartStep.run steps db) := by
  induction steps generalizing gone given db with
  | nil => simpa [PartStep.total, PartStep.run] using cut
  | cons step steps ih =>
    have next : Cut saleID customerID split (gone + step.fraction db) (fun m => given m + step.given customerID m db)
        (step.next db) := by
      cases step with
      | part env productID qtyToReturn => exact cut.part legs
      | elsewhere change keeps =>
        obtain ⟨row, found, kind, details, owner, nonneg, covered⟩ := cut.row
        obtain ⟨next, after, kind', details', total, owner'⟩ := keeps db row found
        refine ⟨⟨next, after, kind'.trans kind, details'.trans details, owner'.trans owner, ?_, ?_⟩, ?_, fun m => ?_⟩
        · rw [total]
          exact nonneg
        · rw [total]
          exact covered
        · simpa [PartStep.fraction] using cut.low
        · simpa [PartStep.fraction, PartStep.given] using cut.legs m
    have later := ih next
    simpa only [PartStep.total, PartStep.run, List.foldl_cons, add_assoc] using later

/-- A leg of which a fraction is gone has room for its share of the rest of the whole. -/
theorem fraction_room {x leg rest total : Int} (positive : 0 < total) (low : 0 ≤ leg) (before : (x : ℚ) ≤ gone * leg)
    (room : gone + (rest : ℚ) / total ≤ 1) : x * total + rest * leg ≤ leg * total := by
  have wide : (0 : ℚ) < total := by exact_mod_cast positive
  have legLow : (0 : ℚ) ≤ leg := by exact_mod_cast low
  have parts : (x : ℚ) + (rest : ℚ) / total * leg ≤ leg := by
    calc (x : ℚ) + (rest : ℚ) / total * leg
        ≤ gone * leg + (rest : ℚ) / total * leg := by linarith
      _ = (gone + (rest : ℚ) / total) * leg := by ring
      _ ≤ 1 * leg := mul_le_mul_of_nonneg_right room legLow
      _ = leg := one_mul _
  have product := mul_le_mul_of_nonneg_right parts wide.le
  have cleared : ((x : ℚ) + (rest : ℚ) / total * leg) * total = x * total + rest * leg := by
    field_simp
  rw [cleared] at product
  exact_mod_cast product

/-- What remains of a leg fits beside what was given through it. -/
theorem remaining_room {row : SaleRow} {pick : MapOrder} {m : PaymentMethod} {x : Int} (covered : CoveredSplit row split)
    (before : (x : ℚ) ≤ gone * split.get m) (room : gone + (row.total : ℚ) / split.total ≤ 1)
    (taken : RemainderTaken row split) : x + (legOf (saleRemainingLegs .exact pick row) m).getD 0 ≤ split.get m := by
  have leg := SplitDetails.get_nonneg covered.legs m
  rcases lt_or_ge 0 split.total with positive | worthless
  · have scaled := fraction_room positive leg before room
    have share := Rounding.share_mul_le covered.nonneg leg positive
    have within : x + Rounding.share row.total (split.get m) split.total ≤ split.get m := by
      refine le_of_mul_le_mul_right ?_ positive
      rw [Int.add_mul]
      omega
    cases found : legOf (saleRemainingLegs .exact pick row) m with
    | none =>
      have low := Rounding.share_nonneg covered.nonneg leg positive.le
      simp only [Option.getD_none]
      omega
    | some amount =>
      have member := Keyed.valueOf_mem found
      rw [covered.remaining_eq positive] at member
      rw [Option.getD_some]
      split at member
      · rename_i left
        obtain ⟨unit, uncut⟩ := taken.resolve_left (not_le.mpr left)
        obtain ⟨old, inside, same⟩ := List.mem_map.mp member
        obtain ⟨own, _⟩ := covered.scaled_leg positive inside
        split at same
        · rename_i taker
          obtain ⟨rfl, rfl⟩ := Prod.mk.inj same
          have strict : Rounding.share row.total (split.get old.1) split.total * split.total < row.total * split.get old.1 :=
            lt_of_le_of_ne share fun whole => uncut pick old.1 taker.symm (Dvd.intro_left _ whole)
          have short : x + Rounding.share row.total (split.get old.1) split.total < split.get old.1 := by
            refine lt_of_mul_lt_mul_right ?_ positive.le
            rw [Int.add_mul]
            omega
          rw [Word.exact_add, own, unit]
          omega
        · subst same
          exact (congrArg (x + ·) own).trans_le within
      · obtain ⟨own, _⟩ := covered.scaled_leg positive member
        exact (congrArg (x + ·) own).trans_le within
  · have nothing : row.total = 0 := by
      have := covered.nonneg
      have := covered.covered
      omega
    rw [covered.remaining_worthless worthless]
    rw [nothing, Int.cast_zero, zero_div, add_zero] at room
    have legLow : (0 : ℚ) ≤ split.get m := by exact_mod_cast leg
    have all : (x : ℚ) ≤ split.get m := by
      calc (x : ℚ) ≤ gone * split.get m := before
        _ ≤ 1 * split.get m := mul_le_mul_of_nonneg_right room legLow
        _ = split.get m := one_mul _
    have whole : x ≤ split.get m := by exact_mod_cast all
    change x + 0 ≤ _
    omega

/-- What is given through the legs stays within each of them when the returns fit. -/
theorem Cut.legGiven_le {steps : List (PartStep saleID)} {last : Option Env}
    (cut : Cut saleID customerID split 0 (fun _ => 0) db) (legs : ∀ leg ∈ split.legs, 0 ≤ leg.2)
    (fit : ReturnsFit split steps last db) (m : PaymentMethod) :
    legGiven customerID m steps last db ≤ split.get m := by
  have after := cut.run steps legs
  simp only [zero_add] at after
  have leg : (0 : ℚ) ≤ split.get m := by exact_mod_cast SplitDetails.get_nonneg legs m
  have parts : PartStep.total (PartStep.given customerID m) steps db ≤ split.get m := by
    have whole : ((PartStep.total (PartStep.given customerID m) steps db : Int) : ℚ) ≤ split.get m :=
      (after.legs m).trans ((mul_le_mul_of_nonneg_right fit.parts leg).trans_eq (one_mul _))
    exact_mod_cast whole
  unfold legGiven
  cases last with
  | none => simpa using parts
  | some env =>
    rw [Option.elim_some]
    by_cases accepted : (returnSale .exact env saleID).accepts (PartStep.run steps db)
    · have h := does_accepted accepted
      obtain ⟨sale, loaded, _, _, journal⟩ := returnSale_does h
      rw [journal] at h
      obtain ⟨stored, _, _⟩ := getSale_row loaded
      obtain ⟨row, found, kind, details, owner, nonneg, total⟩ := after.row
      obtain rfl : row = sale.toSaleRow := Option.some.inj (found.symm.trans stored)
      obtain ⟨room, taken⟩ := fit.rest env rfl accepted _ found
      have covered : CoveredSplit sale.toSaleRow split := ⟨details, legs, nonneg, total⟩
      obtain ⟨pick, given⟩ := full_given kind covered h m
      have fits : PartStep.total (PartStep.given customerID m) steps db +
          (legOf (saleRemainingLegs .exact pick sale.toSaleRow) m).getD 0 ≤ split.get m :=
        remaining_room covered (after.legs m) room taken
      rw [owner] at given
      omega
    · rw [callGiven_rejected accepted, add_zero]
      exact parts

end Runs

section Halves

/-- Two teas, half of them paid in cash and half on credit. -/
def halvesSold : Store := (processSaleAs .exact till sara (teaSale "s1" "ali" .split (some halves) none 2)).commit shop

def oneTea : PartStep "s1" := .part till "tea" 1

end Halves

end BeidarPos
