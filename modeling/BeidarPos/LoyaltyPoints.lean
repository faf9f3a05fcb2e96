import BeidarPos.PartialReturns

/-! Loyalty points of a sale that comes back: a thousandth of the total, rounded when the
sale is made and rounded again for every part. -/
namespace BeidarPos

open Machine Relational Journal Tx Rounding

/-- What a write takes from the points of a customer. -/
def Write.pointsTaken (customerID : String) : Write → Int
  | .adjustPoints id delta => if id = customerID then -delta else 0
  | _ => 0

def pointsTaken (customerID : String) (ws : List Write) : Int := (ws.map (Write.pointsTaken customerID)).sum

/-- A thousandth of the part and of the rest, each rounded, make up a thousandth of both:
two fractions that are rounded down do not add up to a half, and two that are rounded up lack
no half. -/
structure KeepsRounding (part rest : Int) : Prop where
  down : part % 1000 < 500 → rest % 1000 < 500 → part % 1000 + rest % 1000 < 500
  up : 500 ≤ part % 1000 → 500 ≤ rest % 1000 → 1500 ≤ part % 1000 + rest % 1000

section Rounded

variable {amount part rest : Int}

theorem div_thousand (nonneg : 0 ≤ amount) : Amount.div .exact amount 1000 = (amount + 500) / 1000 := by
  have low : ¬ amount < 0 := by omega
  have quotient := Int.tdiv_eq_ediv_of_nonneg (b := 1000) nonneg
  have remainder := Int.tmod_eq_emod_of_nonneg (b := 1000) nonneg
  have unsigned : ¬ amount % 1000 < 0 := by omega
  have half : (1001 : Int).tdiv 2 = 500 := rfl
  simp only [Amount.div, Amount.roundDiv, Word.exact_quot, Word.exact_rem, Word.exact_add, quotient, remainder, low,
    unsigned, if_false]
  norm_num [half]
  split <;> omega

/-- Rounding the part and the rest apart loses nothing just in the case of `KeepsRounding`. -/
theorem keepsRounding_iff (part_nonneg : 0 ≤ part) (rest_nonneg : 0 ≤ rest) : KeepsRounding part rest ↔
    Amount.div .exact part 1000 + Amount.div .exact rest 1000 = Amount.div .exact (part + rest) 1000 := by
  rw [div_thousand part_nonneg, div_thousand rest_nonneg, div_thousand (by omega : 0 ≤ part + rest)]
  constructor
  · rintro ⟨down, up⟩
    omega
  · intro same
    refine ⟨fun _ _ => ?_, fun _ _ => ?_⟩ <;> omega

end Rounded

section Journals

variable {env : Env} {sale : Sale} {customerID : String}

@[simp] theorem pointsTaken_append (front back : List Write) :
    pointsTaken customerID (front ++ back) = pointsTaken customerID front + pointsTaken customerID back := by
  simp [pointsTaken]

theorem pointsTaken_frame {areas : List Area} {ws : List Write} (confined : Confined areas ws)
    (outside : Area.customers ∉ areas) : pointsTaken customerID ws = 0 := by
  refine List.sum_eq_zero fun x member => ?_
  obtain ⟨v, inside, rfl⟩ := List.mem_map.mp member
  cases v with
  | adjustPoints => exact absurd (confined _ inside) outside
  | _ => rfl

@[simp] theorem pointsTaken_rowFor (amount : Int) (row : Payment) : pointsTaken customerID (rowFor amount row) = 0 := by
  unfold rowFor
  split <;> rfl

@[simp] theorem pointsTaken_debtRefund (row : SaleRow) (debt amount : Int) (note : Text) :
    pointsTaken customerID (debtRefundWrites .exact env row debt amount note) = 0 := by
  rw [debtRefundWrites, ← List.singleton_append, pointsTaken_append, pointsTaken_rowFor]
  rfl

theorem pointsTaken_reverted (amount : Int) :
    pointsTaken customerID [.decrementPurchases customerID amount,
      .adjustPoints customerID (Word.exact.neg (Amount.div .exact amount 1000))] = Amount.div .exact amount 1000 := by
  simp [pointsTaken, Write.pointsTaken]

theorem balances_points (debt : Option Int) (named : sale.customerID ≠ "") :
    pointsTaken sale.customerID (balanceWrites .exact env sale.toSaleRow debt) = Amount.div .exact sale.total 1000 := by
  unfold balanceWrites
  rw [if_neg named, pointsTaken_append, pointsTaken_reverted, add_eq_left]
  cases kind : sale.paymentMethod with
  | credit =>
    cases debt with
    | none => rfl
    | some debt => exact pointsTaken_debtRefund _ _ _ _
  | installment =>
    change pointsTaken _ (installmentRefundWrites .exact env sale.toSaleRow) = 0
    rw [installmentRefundWrites, pointsTaken_append, pointsTaken_rowFor, installmentDebtWrites, zero_add]
    split <;> rfl
  | split =>
    change pointsTaken _ (splitCreditWrites .exact env sale.toSaleRow debt) = 0
    unfold splitCreditWrites
    cases debt with
    | none => rfl
    | some debt =>
      simp only
      split
      · exact pointsTaken_debtRefund _ _ _ _
      · rfl
  | cash | card | other => rfl

theorem partialBalances_points {item : SaleItem} {qtyToReturn : ℚ} {refundAmount : Int} (debt : Option Int)
    (named : sale.customerID ≠ "") :
    pointsTaken sale.customerID (partialBalanceWrites .exact env sale.toSaleRow item qtyToReturn refundAmount debt) =
      Amount.div .exact refundAmount 1000 := by
  unfold partialBalanceWrites
  rw [if_neg named, pointsTaken_append, pointsTaken_reverted, add_eq_left]
  cases kind : sale.paymentMethod with
  | credit =>
    cases debt with
    | none => rfl
    | some debt => exact pointsTaken_debtRefund _ _ _ _
  | split =>
    change pointsTaken _ (creditShareWrites .exact sale.toSaleRow refundAmount) = 0
    unfold creditShareWrites
    split <;> rfl
  | installment | cash | card | other => rfl

theorem returnJournal_points (products : Table Product.id) (debt : Option Int) (named : sale.customerID ≠ "") :
    pointsTaken sale.customerID (returnJournal .exact env products debt sale) = Amount.div .exact sale.total 1000 := by
  have closing : pointsTaken sale.customerID (closingWrites .exact env sale (creditOverpay .exact sale.toSaleRow debt)) = 0 := by
    unfold closingWrites
    split <;> rfl
  rw [returnJournal, pointsTaken_append, pointsTaken_append, pointsTaken_append, closing, balances_points debt named,
    pointsTaken_frame (confined_restock _ _ _ _) (by decide), pointsTaken_frame (confined_ledger _ _ _) (by decide)]
  omega

theorem partialJournal_points {db : Store} {saleID productID : String} {qtyToReturn : ℚ} {item : SaleItem}
    (named : sale.customerID ≠ "") :
    pointsTaken sale.customerID (partialJournal .exact env db saleID productID qtyToReturn item sale) =
      Amount.div .exact (partialRefund .exact sale item qtyToReturn) 1000 := by
  rw [partialJournal, ← List.singleton_append]
  simp only [pointsTaken_append, partialBalances_points _ named,
    pointsTaken_frame (confined_partialStock _ _ _ _ _ _) (by decide),
    pointsTaken_frame (confined_partialLedger _ _ _ _ _) (by decide)]
  simp [pointsTaken, Write.pointsTaken]

end Journals

section Runs

variable {env : Env} {db final : Store} {saleID productID customerID : String} {qtyToReturn : ℚ} {ws : List Write}
  {points taken : Int}

/-- The points taken so far and those of what is left make up the points of the sale. -/
structure Rewarded (saleID customerID : String) (points taken : Int) (db : Store) : Prop where
  row : ∃ row, db.sales.find? saleID = some row ∧ row.customerID = customerID ∧ 0 ≤ row.total ∧
    taken + Amount.div .exact row.total 1000 = points

/-- What a part leaves of the invoice is rounded along with it. -/
def RoundsEvenly (db : Store) (saleID : String) (call : ReturnCall) : Prop :=
  ∀ row ∈ db.sales.find? saleID, KeepsRounding (returnValue .exact db saleID call) (row.total - returnValue .exact db saleID call)

theorem Rewarded.part (kept : Rewarded saleID customerID points taken db) (named : customerID ≠ "")
    (h : Does (returnSalePartial .exact env saleID productID qtyToReturn) db () ws final)
    (even : RoundsEvenly db saleID (.part productID qtyToReturn)) :
    Rewarded saleID customerID points (taken + pointsTaken customerID ws) final := by
  have moved := sale_replayed h saleID
  obtain ⟨item, sale, facts, rfl⟩ := returnSalePartial_does h
  obtain ⟨stored, _, own⟩ := getSale_row facts.loaded
  obtain ⟨row, found, owner, nonneg, sum⟩ := kept.row
  obtain rfl : row = sale.toSaleRow := Option.some.inj (found.symm.trans stored)
  have high := partialRefund_le .exact sale item qtyToReturn
  have left := shrinkSale_total sale (returnedLine item qtyToReturn) qtyToReturn (partialRefund .exact sale item qtyToReturn)
    (allReturned (db.saleItems.put (returnedLine item qtyToReturn)) saleID) high
  have rounded := even sale.toSaleRow stored
  rw [part_value facts, keepsRounding_iff facts.refund.le (by omega)] at rounded
  rw [add_sub_cancel] at rounded
  subst owner
  rw [partialJournal_row, if_pos own.symm, stored, Option.map_some] at moved
  refine ⟨_, moved, rfl, ?_, ?_⟩
  · rw [left]
    omega
  · rw [left, partialJournal_points named]
    omega

theorem Rewarded.run (steps : List (Env × ReturnCall)) (kept : Rewarded saleID customerID points taken db)
    (named : customerID ≠ "") (parts : ∀ step ∈ steps, step.2.IsPart) (accepted : AllAccepted (serveReturn saleID) steps db)
    (even : ∀ front step later, steps = front ++ step :: later →
      RoundsEvenly (after (serveReturn saleID) front db) saleID step.2) :
    Rewarded saleID customerID points (taken + pointsTaken customerID (history (serveReturn saleID) steps db))
      (after (serveReturn saleID) steps db) := by
  induction steps generalizing db taken with
  | nil => simpa [history, pointsTaken] using kept
  | cons step steps ih =>
    obtain ⟨env, call⟩ := step
    obtain ⟨now, onward⟩ := accepted
    cases call with
    | full => exact (parts (env, .full) (by simp)).elim
    | part productID qtyToReturn =>
      have next := kept.part named (does_accepted now) (even [] _ steps rfl)
      have later := ih next (fun step member => parts step (by simp [member])) onward fun front step later same =>
        even ((env, .part productID qtyToReturn) :: front) step later (by rw [same]; rfl)
      rw [history, pointsTaken_append, ← add_assoc]
      exact later

theorem Rewarded.full (kept : Rewarded saleID customerID points taken db) (named : customerID ≠ "")
    (h : Does (returnSale .exact env saleID) db () ws final) : taken + pointsTaken customerID ws = points := by
  obtain ⟨sale, loaded, _, _, rfl⟩ := returnSale_does h
  obtain ⟨stored, _, _⟩ := getSale_row loaded
  obtain ⟨row, found, owner, _, sum⟩ := kept.row
  obtain rfl : row = sale.toSaleRow := Option.some.inj (found.symm.trans stored)
  subst owner
  rw [returnJournal_points _ _ named]
  exact sum

/-- Parts that bring back every line leave nothing of the total. -/
theorem Partway.ended {total given : Int} {begun : Prop} {steps : List (Env × ReturnCall)}
    (kept : Partway saleID total given begun db) (some_part : steps ≠ []) (parts : ∀ step ∈ steps, step.2.IsPart)
    (accepted : AllAccepted (serveReturn saleID) steps db)
    (whole : ∀ line ∈ (after (serveReturn saleID) steps db).itemsOf saleID, line.quantity ≤ line.returnedQty) :
    ∃ row, (after (serveReturn saleID) steps db).sales.find? saleID = some row ∧ row.total = 0 := by
  rcases List.eq_nil_or_concat steps with none | ⟨front, last, rfl⟩
  · exact absurd none some_part
  rw [List.concat_eq_append] at *
  obtain ⟨onward, now⟩ := (allAccepted_append _ front [last] db).mp accepted
  have midway := kept.run front (fun step member => parts step (List.mem_append_left _ member)) onward
  obtain ⟨env, call⟩ := last
  cases call with
  | full => exact (parts (env, .full) (by simp)).elim
  | part productID qtyToReturn =>
    rw [after_append, after_cons, after_nil] at whole ⊢
    obtain ⟨⟨row, stored, nothing, _⟩, _⟩ := midway.last (does_accepted now.1) whole
    exact ⟨row, stored, nothing⟩

end Runs

/-- The parts of a sale, and the full return that may end them. -/
def returnsOf (parts : List (Env × ReturnCall)) (last : Option Env) : List (Env × ReturnCall) :=
  parts ++ (last.map fun env => (env, ReturnCall.full)).toList

section Tea

def aliTeas (quantity : ℚ) : Store := (processSaleAs .exact till sara (teaSale "s1" "ali" .cash none none quantity)).commit shop

end Tea

end BeidarPos
