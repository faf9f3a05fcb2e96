import BeidarPos.ReturnLimits
import BeidarPos.ReturnsPossible

/-! The share arithmetic of the returns on 64-bit integers. The largest products that the
returns of a sale can need are known when the sale is stored, and returns only make them
smaller. -/
namespace BeidarPos

open Machine Relational Journal Tx Rounding

/-- The VAT that goes back with a refund. -/
def refundVat (w : Word) (sale : Sale) (refundAmount : Int) : Int :=
  if 0 < sale.total ∧ 0 < sale.vat then w.quot (w.mul sale.vat refundAmount) sale.total else 0

theorem shrinkSale_vat (w : Word) (sale : Sale) (item : SaleItem) (qtyToReturn : ℚ) (refundAmount : Int) (done : Bool) :
    (shrinkSale w sale item qtyToReturn refundAmount done).vat =
      if w.sub sale.vat (refundVat w sale refundAmount) < 0 then 0
      else w.sub sale.vat (refundVat w sale refundAmount) := rfl

/-- Every product of a partial return fits, and what is computed from them is exact. -/
structure ExactPart (sale : Sale) (item : SaleItem) (qtyToReturn : ℚ) : Prop where
  share : Word.int64.fits (item.total * scaled .exact qtyToReturn)
  remaining : ∀ line ∈ sale.items, Word.int64.fits (line.total *
    remScaledQty .exact line (returnedBefore (returnedLine item qtyToReturn) qtyToReturn line))
  refund : Word.int64.fits (sale.total * itemShareCents .exact item qtyToReturn)
  leg : ∀ split ∈ payingLegs sale.toSaleRow, ∀ leg ∈ split.legs, 0 < leg.2 →
    Word.int64.fits (partialRefund .exact sale item qtyToReturn * leg.2)
  vat : Word.int64.fits (sale.vat * partialRefund .exact sale item qtyToReturn)
  refundAmount : partialRefund .int64 sale item qtyToReturn = partialRefund .exact sale item qtyToReturn
  legShares : ∀ split ∈ payingLegs sale.toSaleRow, ∀ leg ∈ split.legs, 0 < leg.2 →
    legShare .int64 (partialRefund .int64 sale item qtyToReturn) leg.2 sale.total =
      legShare .exact (partialRefund .exact sale item qtyToReturn) leg.2 sale.total
  refundedVat : refundVat .int64 sale (partialRefund .int64 sale item qtyToReturn) =
    refundVat .exact sale (partialRefund .exact sale item qtyToReturn)

/-- The same of what remains of the legs. -/
structure ExactLegs (sale : SaleRow) : Prop where
  product : ∀ split ∈ sale.splitDetails, ∀ leg ∈ split.legs, 0 < leg.2 → Word.int64.fits (sale.total * leg.2)
  legs : ∀ pick, saleRemainingLegs .int64 pick sale = saleRemainingLegs .exact pick sale

/-- The largest quantity of a line that a return works with. -/
def reach (line : SaleItem) : ℚ := max line.quantity (outstanding line)

/-- The quantity of a line in thousandths, its total by them, and the invoice total by its
share of them. -/
structure RoomyLine (total : Int) (line : SaleItem) : Prop where
  quantity : Word.int64.fits (scaled .exact line.quantity)
  goods : Word.int64.fits (line.total * scaled .exact (reach line))
  share : Word.int64.fits (total * itemShareCents .exact line (reach line))

def SplitDetails.paid (split : SplitDetails) : Int := ((split.legs.filter fun leg => 0 < leg.2).map Prod.snd).sum

/-- There is room for the largest products of a sale. -/
structure Roomy (sale : Sale) : Prop where
  lines : ∀ line ∈ sale.items, RoomyLine sale.total line
  returned : ∀ line ∈ sale.items, ∀ other ∈ sale.items, line.productID = other.productID →
    Word.int64.fits (scaled .exact (line.quantity - other.returnedQty))
  goods : Word.int64.fits (sale.items.map SaleItem.total).sum
  legs : ∀ split ∈ sale.splitDetails, Word.int64.fits split.total ∧ Word.int64.fits split.paid ∧
    ∀ leg ∈ split.legs, 0 < leg.2 → Word.int64.fits (sale.total * leg.2)
  vat : Word.int64.fits (sale.vat * sale.total)

instance (x : Int) : Decidable (Word.int64.fits x) := inferInstanceAs (Decidable (_ ∧ _))

instance (total : Int) (line : SaleItem) : Decidable (RoomyLine total line) :=
  decidable_of_iff (Word.int64.fits (scaled .exact line.quantity) ∧
      Word.int64.fits (line.total * scaled .exact (reach line)) ∧
      Word.int64.fits (total * itemShareCents .exact line (reach line)))
    ⟨fun ⟨quantity, goods, share⟩ => ⟨quantity, goods, share⟩, fun h => ⟨h.quantity, h.goods, h.share⟩⟩

/-- The signs that a sale is stored with. -/
structure SoundAmounts (sale : Sale) : Prop where
  nonneg : 0 ≤ sale.total
  fits : Word.int64.fits sale.total
  vat : 0 ≤ sale.vat
  fitsVat : Word.int64.fits sale.vat
  lines : ∀ line ∈ sale.items, 0 < line.quantity ∧ 0 ≤ line.total

section Products

variable {sale : Sale} {item line : SaleItem} {qtyToReturn returned : ℚ}

theorem scaled_of_fits {q : ℚ} (fits : Word.int64.fits (scaled .exact q)) : scaled .int64 q = scaled .exact q :=
  Word.int64.wrap_of_fits _ fits

theorem remScaledQty_bounds (returned : ℚ) (nonneg : 0 ≤ scaled .exact line.quantity) :
    0 ≤ remScaledQty .exact line returned ∧ remScaledQty .exact line returned ≤ scaled .exact line.quantity := by
  simp only [remScaledQty]
  split <;> split <;> omega

/-- A line whose remaining value is computed exactly. -/
structure ExactLine (line : SaleItem) (returned : ℚ) : Prop where
  nonneg : 0 ≤ line.total
  quantity : 0 ≤ scaled .exact line.quantity
  fits : Word.int64.fits (scaled .exact line.quantity)
  left : Word.int64.fits (scaled .exact (line.quantity - returned))
  goods : Word.int64.fits (line.total * scaled .exact line.quantity)

theorem ExactLine.product (exact : ExactLine line returned) :
    Word.int64.fits (line.total * remScaledQty .exact line returned) := by
  obtain ⟨low, high⟩ := remScaledQty_bounds returned exact.quantity
  exact Word.int64.fits_of_le exact.goods (Int.mul_nonneg exact.nonneg low)
    (Int.mul_le_mul_of_nonneg_left high exact.nonneg)

theorem ExactLine.remaining (exact : ExactLine line returned) :
    remainingCents .int64 line returned = remainingCents .exact line returned := by
  have quantity : remScaledQty .int64 line returned = remScaledQty .exact line returned := by
    simp only [remScaledQty, scaled_of_fits exact.fits, scaled_of_fits exact.left]
  obtain ⟨low, _⟩ := remScaledQty_bounds returned exact.quantity
  rw [remainingCents, quantity, scaled_of_fits exact.fits,
    Word.int64.share_of_fits exact.product (Int.mul_nonneg exact.nonneg low) exact.quantity]
  rfl

theorem ExactLine.bounds (exact : ExactLine line returned) (positive : 0 < scaled .exact line.quantity) :
    0 ≤ remainingCents .exact line returned ∧ remainingCents .exact line returned ≤ line.total := by
  obtain ⟨low, high⟩ := remScaledQty_bounds returned exact.quantity
  exact ⟨share_nonneg exact.nonneg low exact.quantity, share_le_amount exact.nonneg low positive high⟩

/-- One more line of the sum of what remains. -/
def addRemaining (w : Word) (returned : SaleItem → ℚ) (sum : Int) (line : SaleItem) : Int :=
  if scaled w line.quantity ≤ 0 then sum else w.add sum (remainingCents w line (returned line))

theorem addRemaining_exact {returned : SaleItem → ℚ} {lines : List SaleItem} {sum : Int}
    (exact : ∀ line ∈ lines, ExactLine line (returned line)) (low : 0 ≤ sum)
    (fits : Word.int64.fits (sum + (lines.map SaleItem.total).sum)) :
    lines.foldl (addRemaining .int64 returned) sum = lines.foldl (addRemaining .exact returned) sum ∧
      0 ≤ lines.foldl (addRemaining .exact returned) sum := by
  induction lines generalizing sum with
  | nil => exact ⟨rfl, low⟩
  | cons line lines ih =>
    have here := exact line (by simp)
    have later : 0 ≤ (lines.map SaleItem.total).sum := by
      refine List.sum_nonneg fun total member => ?_
      obtain ⟨other, inside, rfl⟩ := List.mem_map.mp member
      exact (exact other (by simp [inside])).nonneg
    rw [List.map_cons, List.sum_cons] at fits
    -- the sum grows by no more than the total of the line
    have next : addRemaining .int64 returned sum line = addRemaining .exact returned sum line ∧
        0 ≤ addRemaining .exact returned sum line ∧ addRemaining .exact returned sum line ≤ sum + line.total := by
      have nonneg := here.nonneg
      simp only [addRemaining, scaled_of_fits here.fits]
      split
      · exact ⟨rfl, low, by omega⟩
      · obtain ⟨zero, total⟩ := here.bounds (by omega)
        rw [here.remaining, Word.exact_add]
        refine ⟨Word.int64.wrap_of_fits _ ?_, by omega, by omega⟩
        exact Word.int64.fits_of_le fits (by omega) (by omega)
    rw [List.foldl_cons, List.foldl_cons, next.1]
    exact ih (fun other member => exact other (by simp [member])) next.2.1
      (Word.int64.fits_of_le fits (by omega) (by omega))

theorem refundAmountOf_nonneg {total share remAll : Int} (ht : 0 ≤ total) (hs : 0 ≤ share) (hr : 0 ≤ remAll) :
    0 ≤ refundAmountOf .exact total share remAll := by
  have quotient : 0 ≤ (total * share).tdiv remAll := Int.tdiv_nonneg (Int.mul_nonneg ht hs) hr
  by_cases capped : total < (total * share).tdiv remAll
  · simpa [refundAmountOf, capped] using ht
  · simpa [refundAmountOf, capped] using quotient

variable (sound : SoundAmounts sale) (roomy : Roomy sale) (member : item ∈ sale.items)

include sound roomy member

theorem Roomy.exactLine (same : returned = item.returnedQty ∨
    ∃ other ∈ sale.items, item.productID = other.productID ∧ returned = other.returnedQty) : ExactLine item returned := by
  obtain ⟨quantity, nonneg⟩ := sound.lines item member
  have scaledNonneg := scaled_nonneg quantity.le
  refine ⟨nonneg, scaledNonneg, (roomy.lines item member).quantity, ?_, ?_⟩
  · rcases same with rfl | ⟨other, there, product, rfl⟩
    · exact roomy.returned item member item member rfl
    · exact roomy.returned item member other there product
  · exact Word.int64.fits_of_le (roomy.lines item member).goods (Int.mul_nonneg nonneg scaledNonneg)
      (Int.mul_le_mul_of_nonneg_left (scaled_mono (le_max_left _ _)) nonneg)

theorem Roomy.remAll (qtyToReturn : ℚ) :
    (∀ line ∈ sale.items, ExactLine line (returnedBefore (returnedLine item qtyToReturn) qtyToReturn line)) ∧
    remAllCents .int64 (returnedLine item qtyToReturn) qtyToReturn sale.items =
      remAllCents .exact (returnedLine item qtyToReturn) qtyToReturn sale.items ∧
    0 ≤ remAllCents .exact (returnedLine item qtyToReturn) qtyToReturn sale.items := by
  have exact : ∀ line ∈ sale.items,
      ExactLine line (returnedBefore (returnedLine item qtyToReturn) qtyToReturn line) := by
    intro line there
    refine roomy.exactLine sound there ?_
    unfold returnedBefore
    split
    · rename_i same
      exact .inr ⟨item, member, same, by simp [returnedLine]⟩
    · exact .inl rfl
  refine ⟨exact, addRemaining_exact exact le_rfl ?_⟩
  rw [Int.zero_add]
  exact roomy.goods

theorem Roomy.itemShare (positive : 0 < qtyToReturn) (available : qtyToReturn ≤ outstanding item) :
    Word.int64.fits (item.total * scaled .exact qtyToReturn) ∧
    itemShareCents .int64 item qtyToReturn = itemShareCents .exact item qtyToReturn ∧
    0 ≤ itemShareCents .exact item qtyToReturn ∧
    itemShareCents .exact item qtyToReturn ≤ itemShareCents .exact item (reach item) := by
  obtain ⟨quantity, nonneg⟩ := sound.lines item member
  have exact := roomy.exactLine sound member (.inl rfl)
  have low := scaled_nonneg positive.le
  have within : scaled .exact qtyToReturn ≤ scaled .exact (reach item) :=
    scaled_mono (available.trans (le_max_right _ _))
  have product : Word.int64.fits (item.total * scaled .exact qtyToReturn) :=
    Word.int64.fits_of_le (roomy.lines item member).goods (Int.mul_nonneg nonneg low)
      (Int.mul_le_mul_of_nonneg_left within nonneg)
  have fits : Word.int64.fits (scaled .exact qtyToReturn) :=
    Word.int64.fits_of_le exact.left low (scaled_mono available)
  refine ⟨product, ?_, share_nonneg nonneg low exact.quantity, share_mono nonneg low exact.quantity within⟩
  rw [itemShareCents, scaled_of_fits fits, scaled_of_fits exact.fits,
    Word.int64.share_of_fits product (Int.mul_nonneg nonneg low) exact.quantity]
  rfl

theorem Roomy.partialRefund (positive : 0 < qtyToReturn) (available : qtyToReturn ≤ outstanding item) :
    Word.int64.fits (sale.total * itemShareCents .exact item qtyToReturn) ∧
    BeidarPos.partialRefund .int64 sale item qtyToReturn = BeidarPos.partialRefund .exact sale item qtyToReturn ∧
    0 ≤ BeidarPos.partialRefund .exact sale item qtyToReturn := by
  obtain ⟨_, share, low, high⟩ := roomy.itemShare sound member positive available
  obtain ⟨_, remAll, nonneg⟩ := roomy.remAll sound member qtyToReturn
  have total := sound.nonneg
  have product : Word.int64.fits (sale.total * itemShareCents .exact item qtyToReturn) :=
    Word.int64.fits_of_le (roomy.lines item member).share (Int.mul_nonneg total low)
      (Int.mul_le_mul_of_nonneg_left high total)
  have refund := Word.int64.share_of_fits product (Int.mul_nonneg total low) nonneg
  refine ⟨product, ?_, ?_⟩
  · change refundAmountOf .int64 _ _ (remAllCents .int64 (returnedLine item qtyToReturn) _ _) = _
    rw [share, remAll, refundAmountOf, refund]
    rfl
  · exact refundAmountOf_nonneg total low nonneg

/-- With room for the largest products a partial return is computed exactly. -/
theorem Roomy.exactPart (positive : 0 < qtyToReturn) (available : qtyToReturn ≤ outstanding item) :
    ExactPart sale item qtyToReturn := by
  obtain ⟨shareFits, _, _, _⟩ := roomy.itemShare sound member positive available
  obtain ⟨product, refund, low⟩ := roomy.partialRefund sound member positive available
  obtain ⟨exact, _, _⟩ := roomy.remAll sound member qtyToReturn
  have high := partialRefund_le .exact sale item qtyToReturn
  have legFits : ∀ split ∈ payingLegs sale.toSaleRow, ∀ leg ∈ split.legs, 0 < leg.2 →
      Word.int64.fits (BeidarPos.partialRefund .exact sale item qtyToReturn * leg.2) := by
    intro split paying leg inside paid
    have details : split ∈ sale.splitDetails := by
      unfold payingLegs at paying
      split at paying
      · exact paying
      · cases paying
    exact Word.int64.fits_of_le ((roomy.legs split details).2.2 leg inside paid) (Int.mul_nonneg low paid.le)
      (Int.mul_le_mul_of_nonneg_right high paid.le)
  have vatFits : Word.int64.fits (sale.vat * BeidarPos.partialRefund .exact sale item qtyToReturn) :=
    Word.int64.fits_of_le roomy.vat (Int.mul_nonneg sound.vat low) (Int.mul_le_mul_of_nonneg_left high sound.vat)
  refine ⟨shareFits, fun line there => (exact line there).product, product, legFits, vatFits, refund, ?_, ?_⟩
  · intro split paying leg inside paid
    rw [refund]
    exact Word.int64.share_of_fits (legFits split paying leg inside paid) (Int.mul_nonneg low paid.le) sound.nonneg
  · rw [refund, refundVat, refundVat, Word.int64.share_of_fits vatFits (Int.mul_nonneg sound.vat low) sound.nonneg]
    rfl

end Products

section Legs

variable {total amount originalTotal : Int} {split : SplitDetails}

theorem remainingLeg_int64 (nonneg : 0 ≤ total) (paid : 0 < amount) (positive : 0 < originalTotal)
    (fits : Word.int64.fits (total * amount)) :
    remainingLeg .int64 total amount originalTotal = remainingLeg .exact total amount originalTotal ∧
      0 ≤ remainingLeg .exact total amount originalTotal ∧ remainingLeg .exact total amount originalTotal ≤ amount := by
  refine ⟨?_, ?_⟩
  · rw [remainingLeg, Word.int64.share_of_fits fits (Int.mul_nonneg nonneg paid.le) positive.le]
    rfl
  · simp only [remainingLeg]
    split <;> split <;> omega

theorem scaledLegs_int64 (nonneg : 0 ≤ total) (positive : 0 < originalTotal)
    (fits : ∀ leg ∈ split.legs, 0 < leg.2 → Word.int64.fits (total * leg.2)) :
    scaledLegs .int64 total originalTotal split = scaledLegs .exact total originalTotal split ∧
      (∀ leg ∈ scaledLegs .exact total originalTotal split, 0 ≤ leg.2) ∧
      ((scaledLegs .exact total originalTotal split).map Prod.snd).sum ≤ split.paid := by
  have each : ∀ leg ∈ split.legs.filter (fun leg => 0 < leg.2),
      remainingLeg .int64 total leg.2 originalTotal = remainingLeg .exact total leg.2 originalTotal ∧
        0 ≤ remainingLeg .exact total leg.2 originalTotal ∧ remainingLeg .exact total leg.2 originalTotal ≤ leg.2 := by
    intro leg member
    obtain ⟨inside, paid⟩ := List.mem_filter.mp member
    have paid : 0 < leg.2 := of_decide_eq_true paid
    exact remainingLeg_int64 nonneg paid positive (fits leg inside paid)
  refine ⟨List.map_congr_left fun leg member => by rw [(each leg member).1], ?_, ?_⟩
  · intro leg member
    obtain ⟨old, inside, rfl⟩ := List.mem_map.mp member
    exact (each old inside).2.1
  · rw [scaledLegs, List.map_map]
    exact List.sum_le_sum fun leg member => (each leg member).2.2

theorem addToLeg_int64 {legs : List (PaymentMethod × Int)} {diff : Int} (m : Option PaymentMethod) (low : 0 < diff)
    (nonneg : ∀ leg ∈ legs, 0 ≤ leg.2) (fits : Word.int64.fits ((legs.map Prod.snd).sum + diff)) :
    addToLeg .int64 m diff legs = addToLeg .exact m diff legs := by
  refine List.map_congr_left fun leg member => ?_
  have within : leg.2 ≤ (legs.map Prod.snd).sum := by
    refine List.single_le_sum (fun amount inside => ?_) _ (List.mem_map_of_mem member)
    obtain ⟨other, there, rfl⟩ := List.mem_map.mp inside
    exact nonneg other there
  have here := nonneg leg member
  have sum : Word.int64.add leg.2 diff = leg.2 + diff :=
    Word.int64.wrap_of_fits _ (Word.int64.fits_of_le fits (by omega) (by omega))
  rw [sum, Word.exact_add]

theorem sumLegs_int64 (legs : List (PaymentMethod × Int)) (fits : Word.int64.fits (legs.map Prod.snd).sum) :
    sumLegs .int64 legs = (legs.map Prod.snd).sum := by
  rw [sumLegs, Word.int64_foldl _ _ Word.int64.fits_zero, Int.zero_add, Word.int64.wrap_of_fits _ fits]

theorem Roomy.exactLegs {sale : Sale} (sound : SoundAmounts sale) (roomy : Roomy sale) :
    ExactLegs sale.toSaleRow := by
  refine ⟨fun split details leg inside paid => (roomy.legs split details).2.2 leg inside paid, fun pick => ?_⟩
  unfold saleRemainingLegs
  cases details : sale.splitDetails with
  | none => rfl
  | some split =>
    obtain ⟨total, paid, products⟩ := roomy.legs split details
    have original : sumLegs .int64 split.legs = split.total := sumLegs_int64 _ total
    have exact : sumLegs .exact split.legs = split.total := sumLegs_exact _
    simp only [original, exact]
    split
    · rfl
    · rename_i positive
      obtain ⟨same, nonneg, within⟩ := scaledLegs_int64 sound.nonneg (not_le.mp positive) products
      have low : 0 ≤ ((scaledLegs .exact sale.total split.total split).map Prod.snd).sum := by
        refine List.sum_nonneg fun amount inside => ?_
        obtain ⟨leg, there, rfl⟩ := List.mem_map.mp inside
        exact nonneg leg there
      have sum := sumLegs_int64 _ (Word.int64.fits_of_le paid low within)
      have difference : Word.int64.sub sale.total ((scaledLegs .exact sale.total split.total split).map Prod.snd).sum =
          sale.total - ((scaledLegs .exact sale.total split.total split).map Prod.snd).sum := by
        have upper := sound.fits
        have nonneg := sound.nonneg
        refine Word.int64.wrap_of_fits _ ?_
        simp only [Word.int64] at paid upper ⊢
        omega
      rw [same, sum, sumLegs_exact, difference, Word.exact_sub]
      split
      · rename_i left
        refine addToLeg_int64 _ left nonneg ?_
        rw [add_sub_cancel]
        exact sound.fits
      · rfl

end Legs

section Steps

variable {sale next : Sale} {item : SaleItem} {qtyToReturn : ℚ}

/-- A sale of which less is left has no less room. -/
theorem Roomy.less (roomy : Roomy sale) (sound : SoundAmounts sale) (items : next.items.Sublist sale.items)
    (low : 0 ≤ next.total) (total : next.total ≤ sale.total) (lowVat : 0 ≤ next.vat) (vat : next.vat ≤ sale.vat)
    (details : next.splitDetails = sale.splitDetails) : Roomy next ∧ SoundAmounts next := by
  have inside : ∀ {line}, line ∈ next.items → line ∈ sale.items := fun member => items.subset member
  have share : ∀ {line}, line ∈ next.items → 0 ≤ itemShareCents .exact line (reach line) := by
    intro line member
    obtain ⟨quantity, nonneg⟩ := sound.lines line (inside member)
    exact share_nonneg nonneg (scaled_nonneg (quantity.le.trans (le_max_left _ _))) (scaled_nonneg quantity.le)
  have smaller : ∀ {x : Int}, 0 ≤ x → Word.int64.fits (sale.total * x) → Word.int64.fits (next.total * x) := by
    intro x positive fits
    exact Word.int64.fits_of_le fits (Int.mul_nonneg low positive) (Int.mul_le_mul_of_nonneg_right total positive)
  refine ⟨⟨fun line member => ?_, fun line member other there => ?_, ?_, fun split found => ?_, ?_⟩,
    ⟨low, Word.int64.fits_of_le sound.fits low total, lowVat, Word.int64.fits_of_le sound.fitsVat lowVat vat,
      fun line member => sound.lines line (inside member)⟩⟩
  · obtain ⟨quantity, goods, shareFits⟩ := roomy.lines line (inside member)
    exact ⟨quantity, goods, smaller (share member) shareFits⟩
  · exact roomy.returned line (inside member) other (inside there)
  · have nonneg : ∀ amount ∈ sale.items.map SaleItem.total, 0 ≤ amount := by
      intro amount member
      obtain ⟨line, there, rfl⟩ := List.mem_map.mp member
      exact (sound.lines line there).2
    refine Word.int64.fits_of_le roomy.goods ?_ ((items.map _).sum_le_sum nonneg)
    exact List.sum_nonneg fun amount member => nonneg amount ((items.map _).subset member)
  · rw [details] at found
    obtain ⟨sum, paid, products⟩ := roomy.legs split found
    exact ⟨sum, paid, fun leg member positive => smaller positive.le (products leg member positive)⟩
  · exact Word.int64.fits_of_le roomy.vat (Int.mul_nonneg lowVat low) (mul_le_mul vat total low sound.vat)

/-- The lines of a sale after a partial return of one of them. -/
def markReturned (item : SaleItem) (qtyToReturn : ℚ) (line : SaleItem) : SaleItem :=
  if line.id = item.id then returnedLine item qtyToReturn else line

theorem Roomy.marked (roomy : Roomy sale) (sound : SoundAmounts sale) (member : item ∈ sale.items)
    (unique : ∀ line ∈ sale.items, line.id = item.id → line = item) (positive : 0 < qtyToReturn)
    (available : qtyToReturn ≤ outstanding item) :
    Roomy { sale with items := sale.items.map (markReturned item qtyToReturn) } ∧
      SoundAmounts { sale with items := sale.items.map (markReturned item qtyToReturn) } := by
  have either : ∀ line ∈ sale.items, markReturned item qtyToReturn line = line ∨
      line = item ∧ markReturned item qtyToReturn line = returnedLine item qtyToReturn := by
    intro line there
    unfold markReturned
    split
    · rename_i same
      exact .inr ⟨unique line there same, rfl⟩
    · exact .inl rfl
  obtain ⟨quantity, nonneg⟩ := sound.lines item member
  have less : reach (returnedLine item qtyToReturn) ≤ reach item := by
    have left : outstanding (returnedLine item qtyToReturn) ≤ outstanding item := by
      simp only [outstanding, returnedLine]
      linarith
    exact max_le_max le_rfl left
  have low : 0 ≤ scaled .exact (reach (returnedLine item qtyToReturn)) :=
    scaled_nonneg (quantity.le.trans (le_max_left item.quantity _))
  have line : RoomyLine sale.total (returnedLine item qtyToReturn) := by
    obtain ⟨fits, goods, share⟩ := roomy.lines item member
    have within := scaled_mono less
    have smaller : itemShareCents .exact (returnedLine item qtyToReturn) (reach (returnedLine item qtyToReturn)) ≤
        itemShareCents .exact item (reach item) := share_mono nonneg low (scaled_nonneg quantity.le) within
    refine ⟨fits, Word.int64.fits_of_le goods (Int.mul_nonneg nonneg low) (Int.mul_le_mul_of_nonneg_left within nonneg),
      Word.int64.fits_of_le share (Int.mul_nonneg sound.nonneg ?_) (Int.mul_le_mul_of_nonneg_left smaller sound.nonneg)⟩
    exact share_nonneg nonneg low (scaled_nonneg quantity.le)
  -- the returned quantity stays within the quantity sold
  have returned : ∀ line ∈ sale.items, line.productID = item.productID →
      Word.int64.fits (scaled .exact (line.quantity - (item.returnedQty + qtyToReturn))) := by
    intro line there product
    have before := roomy.returned line there item member product
    have sold := (roomy.lines item member).quantity
    have positive' := (sound.lines line there).1
    have room : item.returnedQty + qtyToReturn ≤ item.quantity := by
      unfold outstanding at available
      linarith
    have upper : scaled .exact (line.quantity - (item.returnedQty + qtyToReturn)) ≤
        scaled .exact (line.quantity - item.returnedQty) := scaled_mono (by linarith)
    have lower : -scaled .exact item.quantity ≤ scaled .exact (line.quantity - (item.returnedQty + qtyToReturn)) :=
      neg_scaled_le (by linarith)
    simp only [Word.int64] at before sold ⊢
    omega
  refine ⟨⟨?_, ?_, ?_, roomy.legs, roomy.vat⟩, ⟨sound.nonneg, sound.fits, sound.vat, sound.fitsVat, ?_⟩⟩
  · intro marked inside
    obtain ⟨old, there, rfl⟩ := List.mem_map.mp inside
    rcases either old there with same | ⟨rfl, same⟩
    · rw [same]
      exact roomy.lines old there
    · rw [same]
      exact line
  · intro marked inside other beside product
    obtain ⟨old, there, rfl⟩ := List.mem_map.mp inside
    obtain ⟨second, here, rfl⟩ := List.mem_map.mp beside
    have sold : (markReturned item qtyToReturn old).quantity = old.quantity ∧
        (markReturned item qtyToReturn old).productID = old.productID := by
      rcases either old there with same | ⟨rfl, same⟩ <;> rw [same] <;> exact ⟨rfl, rfl⟩
    rw [sold.1]
    rw [sold.2] at product
    rcases either second here with same | ⟨rfl, same⟩
    · rw [same] at product ⊢
      exact roomy.returned old there second here product
    · rw [same] at product ⊢
      exact returned old there product
  · have same : (sale.items.map (markReturned item qtyToReturn)).map SaleItem.total = sale.items.map SaleItem.total := by
      rw [List.map_map]
      refine List.map_congr_left fun old there => ?_
      rw [Function.comp_apply]
      rcases either old there with same | ⟨rfl, same⟩ <;> rw [same]
      rfl
    exact same ▸ roomy.goods
  · intro marked inside
    obtain ⟨old, there, rfl⟩ := List.mem_map.mp inside
    rcases either old there with same | ⟨rfl, same⟩ <;> rw [same]
    · exact sound.lines old there
    · exact ⟨quantity, nonneg⟩

/-- What is left after a partial return, when nothing wraps. -/
theorem Roomy.shrunk (roomy : Roomy sale) (sound : SoundAmounts sale) (member : item ∈ sale.items)
    (positive : 0 < qtyToReturn) (available : qtyToReturn ≤ outstanding item) (done : Bool) :
    let left := shrinkSale .int64 sale (returnedLine item qtyToReturn) qtyToReturn
      (BeidarPos.partialRefund .int64 sale item qtyToReturn) done
    0 ≤ left.total ∧ left.total ≤ sale.total ∧ 0 ≤ left.vat ∧ left.vat ≤ sale.vat := by
  obtain ⟨_, refund, low⟩ := roomy.partialRefund sound member positive available
  have exact := (roomy.exactPart sound member positive available).refundedVat
  have high := partialRefund_le .exact sale item qtyToReturn
  rw [refund] at exact ⊢
  generalize BeidarPos.partialRefund .exact sale item qtyToReturn = refundAmount at *
  have vat : 0 ≤ refundVat .exact sale refundAmount ∧ refundVat .exact sale refundAmount ≤ sale.vat := by
    unfold refundVat
    split
    · rename_i left
      exact ⟨share_nonneg sound.vat low left.1.le, share_le_amount sound.vat low left.1 high⟩
    · exact ⟨le_rfl, sound.vat⟩
  have total : Word.int64.sub sale.total refundAmount = sale.total - refundAmount :=
    Word.int64.sub_of_le sound.fits low high
  have rest : Word.int64.sub sale.vat (refundVat .int64 sale refundAmount) = sale.vat - refundVat .exact sale refundAmount := by
    rw [exact]
    exact Word.int64.sub_of_le sound.fitsVat vat.1 vat.2
  have left : (shrinkSale .int64 sale (returnedLine item qtyToReturn) qtyToReturn refundAmount done).total =
      sale.total - refundAmount := by
    simp only [shrinkSale, total]
    exact if_neg (by omega)
  simp only [left, shrinkSale_vat, rest]
  refine ⟨by omega, by omega, ?_⟩
  split <;> omega

end Steps

section Calls

variable {w : Word} {env : Env} {db final : Store} {id saleID : String} {t : Serial SaleItem.id} {item : SaleItem}
  {p : SaleItem → Prop}

theorem filter_map_sublist {α : Type} {keep : α → Bool} {f : α → α} {rows : List α}
    (still : ∀ a ∈ rows, keep (f a) = true → f a = a) : ((rows.map f).filter keep).Sublist (rows.filter keep) := by
  induction rows with
  | nil => exact .slnil
  | cons a rows ih =>
    have later := ih fun other member => still other (by simp [member])
    rw [List.map_cons, List.filter_cons]
    split
    · rename_i kept
      have same := still a (by simp) kept
      rw [same] at kept ⊢
      rw [List.filter_cons, if_pos kept]
      exact later.cons_cons a
    · exact later.trans ((List.sublist_cons_self a rows).filter keep)

/-- Lines saved under another sale are none of this one. -/
theorem saveItems_others {items : List SaleItem} (lines : LinesHold p t) (other : saleID ≠ id) :
    ((saveItems saleID t items).rows.filter (fun line => line.saleID = id)).Sublist
      (t.rows.filter (fun line => line.saleID = id)) := by
  have one : ∀ {t : Serial SaleItem.id} (item : SaleItem), LinesHold (fun _ => True) t →
      ((saveItem saleID t item).rows.filter (fun line => line.saleID = id)).Sublist
        (t.rows.filter (fun line => line.saleID = id)) := by
    intro t item lines
    cases found : t.find? item.id with
    | none =>
      obtain ⟨row, rows, which⟩ := @Serial.save_fresh _ _ t (fun line n => { line with id := n }) (fun _ _ => rfl)
        (fun line => { line with saleID := saleID }) (fun _ => rfl) item found
      have elsewhere : row.saleID ≠ id := by
        rcases which with ⟨rfl, _⟩ | rfl <;> exact other
      rw [saveItem_eq, rows, List.filter_append, List.filter_singleton]
      simp [elsewhere]
    | some row =>
      have numbered : item.id ≠ 0 := Table.find?_key found ▸ (lines row (Table.find?_mem found)).1
      have taken : t.insert? { item with saleID := saleID } = none :=
        Serial.insert?_none.mpr (Table.insert?_none.mpr ⟨row, found⟩)
      rw [saveItem, if_neg numbered, taken]
      refine filter_map_sublist fun line _ kept => ?_
      split at kept
      · exact absurd (of_decide_eq_true kept) other
      · rename_i untouched
        exact if_neg untouched
  replace lines : LinesHold (fun _ => True) t := fun line member => ⟨(lines line member).1, trivial⟩
  have steady : Steady fun _ => True := fun _ _ _ _ _ => trivial
  unfold saveItems
  induction items generalizing t with
  | nil => exact List.Sublist.refl _
  | cons item items ih =>
    exact (ih (saveItem_lines steady lines trivial)).trans (one item lines)

theorem put_itemsOf {qtyToReturn : ℚ} (stored : item ∈ t.rows) :
    (t.put (returnedLine item qtyToReturn)).rows.filter (fun line => line.saleID = id) =
      (t.rows.filter (fun line => line.saleID = id)).map (markReturned item qtyToReturn) := by
  have rows : (t.put (returnedLine item qtyToReturn)).rows = t.rows.map (markReturned item qtyToReturn) := rfl
  rw [rows, List.filter_map]
  refine congrArg _ (List.filter_congr fun line member => ?_)
  simp only [Function.comp_apply, markReturned]
  split
  · rename_i same
    rw [Table.unique_row member stored same]
    rfl
  · rfl

/-- Marking a line of another sale changes no line of this one. -/
theorem markReturned_elsewhere {other : String} {qtyToReturn : ℚ} (member : item ∈ db.itemsOf other) (elsewhere : id ≠ other) :
    (db.itemsOf id).map (markReturned item qtyToReturn) = db.itemsOf id := by
  conv_rhs => rw [← List.map_id (db.itemsOf id)]
  refine List.map_congr_left fun line inside => if_neg fun same => elsewhere ?_
  obtain ⟨here, own⟩ := List.mem_filter.mp inside
  obtain ⟨there, foreign⟩ := List.mem_filter.mp member
  rw [Table.unique_row here there same] at own
  simp only [decide_eq_true_eq] at own foreign
  exact own.symm.trans foreign

/-- An accepted call leaves a stored sale with no more lines and the same amounts, or takes
a part of it back. -/
theorem call_sale {c : Call} {sale : Sale} (lines : LinesHold p db.saleItems) (h : Does (c.body w env) db () ws final)
    (stored : db.getSale id = some sale) : ∃ next, final.getSale id = some next ∧
      next.splitDetails = sale.splitDetails ∧
      (next.items.Sublist sale.items ∧ next.total = sale.total ∧ next.vat = sale.vat ∨
        ∃ productID qtyToReturn item done, PartialFacts w db id productID qtyToReturn item sale ∧
          next.items = sale.items.map (markReturned item qtyToReturn) ∧
          let left := shrinkSale w sale (returnedLine item qtyToReturn) qtyToReturn
            (partialRefund w sale item qtyToReturn) done
          next.total = left.total ∧ next.vat = left.vat) := by
  obtain ⟨found, items, named⟩ := getSale_row stored
  have loaded : ∀ {row}, final.sales.find? id = some row →
      final.getSale id = some { row with items := final.itemsOf id } := by
    intro row here
    rw [Store.getSale, here]
    rfl
  -- a row with the same amounts and no more lines, whatever else could have happened
  have kept : ∀ {R : Sale → Prop} {row : SaleRow}, final.sales.find? id = some row →
      row.splitDetails = sale.splitDetails ∧ row.total = sale.total ∧ row.vat = sale.vat →
      (final.itemsOf id).Sublist (db.itemsOf id) → ∃ next, final.getSale id = some next ∧
        next.splitDetails = sale.splitDetails ∧
        (next.items.Sublist sale.items ∧ next.total = sale.total ∧ next.vat = sale.vat ∨ R next) := by
    rintro R row here ⟨details, total, vat⟩ fewer
    exact ⟨_, loaded here, details, .inl ⟨items ▸ fewer, total, vat⟩⟩
  have sameLines : final.saleItems = db.saleItems → (final.itemsOf id).Sublist (db.itemsOf id) := by
    intro same
    rw [Store.itemsOf, Store.itemsOf, same]
  rcases call_row h id with ⟨elsewhere, same⟩ | ⟨_, _, _, facts, own, _⟩ | ⟨sale', rfl, whole, now⟩ |
    ⟨productID, qty, item, sale', rfl, facts, now⟩ | ⟨index, _, _, sale', plan, _, rfl, facts, now⟩
  · refine kept (same.trans found) ⟨rfl, rfl, rfl⟩ ?_
    rcases call_lines lines h with ⟨_, quiet⟩ | ⟨actor, request, rfl, _, saved⟩ |
      ⟨saleID, productID, qty, item, _, rfl, _, member, written⟩
    · exact sameLines quiet
    · rw [Store.itemsOf, Store.itemsOf, saved]
      exact saveItems_others lines fun other => elsewhere other.symm
    · have marked : final.itemsOf id = (db.itemsOf id).map (markReturned item qty) := by
        rw [Store.itemsOf, written]
        exact put_itemsOf (List.mem_filter.mp member).1
      rw [marked, markReturned_elsewhere member elsewhere]
  · rw [own, facts.fresh] at found
    cases found
  · cases whole.symm.trans stored
    exact kept now ⟨rfl, rfl, rfl⟩ (sameLines (call_lines_quiet lines h not_false))
  · cases facts.loaded.symm.trans stored
    rcases call_lines lines h with ⟨quiet, _⟩ | ⟨_, _, differs, _⟩ | ⟨_, _, _, item', _, same, facts', member, written⟩
    · exact absurd trivial quiet
    · cases differs
    · cases same
      cases facts.line.symm.trans facts'.line
      refine ⟨_, loaded now, rfl, .inr ⟨productID, qty, item, _, facts, ?_, rfl, rfl⟩⟩
      have marked : final.itemsOf id = (db.itemsOf id).map (markReturned item qty) := by
        rw [Store.itemsOf, written]
        exact put_itemsOf (List.mem_filter.mp member).1
      exact marked.trans (by rw [items])
  · cases facts.loaded.symm.trans stored
    exact kept now ⟨rfl, rfl, rfl⟩ (sameLines (call_lines_quiet lines h not_false))

end Calls

section Acceptance

variable {w : Word} {env : Env} {db : Store} {request : Sale}

/-- The machine integers hold the totals of the lines, the VAT and the total as they are. -/
structure ExactlyPriced (env : Env) (db : Store) (request : Sale) : Prop where
  items : (pricedSale .int64 env db request).items = (pricedSale .exact env db request).items
  vat : (pricedSale .int64 env db request).vat = (pricedSale .exact env db request).vat
  total : (pricedSale .int64 env db request).total = (pricedSale .exact env db request).total

def LineSound (line : SaleItem) : Prop := 0 < line.quantity ∧ 0 ≤ line.total

/-- The discount of a line was checked against what its total is cut from. -/
theorem soldItem_sound {item : SaleItem} (checked : CheckedItem w item) (product : Product) :
    LineSound (soldItem w product item) := by
  have total : lineTotal w item = Amount.mulFloat w item.price item.quantity - item.discount :=
    w.sub_of_le (w.fits_wrap _) checked.discount checked.gross
  have gross := checked.gross
  refine ⟨checked.quantity, ?_⟩
  simp only [soldItem, total]
  omega

theorem sale_lines_sound (facts : SaleFacts w env db request) :
    ∀ item ∈ (pricedSale w env db request).items, LineSound item :=
  soldCart_items fun item member product => soldItem_sound (facts.admitted.checked item member) product

theorem soldCart_total (w : Word) (products : Table Product.id) (items : List SaleItem) :
    (soldCart w products items).total =
      (soldCart w products items).items.foldl (fun sum line => w.add sum line.total) 0 := by
  suffices added : ∀ cart : Cart, cart.total = cart.items.foldl (fun sum line => w.add sum line.total) 0 →
      (items.foldl (addToCart w products) cart).total =
        (items.foldl (addToCart w products) cart).items.foldl (fun sum line => w.add sum line.total) 0 from
    added ⟨[], 0, 0⟩ rfl
  induction items with
  | nil => exact fun _ same => same
  | cons item items ih =>
    intro cart same
    refine ih _ ?_
    unfold addToCart
    split
    · exact same
    · rw [List.foldl_append, ← same]
      rfl

theorem ExactlyPriced.sound (exact : ExactlyPriced env db request) (facts : SaleFacts .int64 env db request) :
    0 ≤ (pricedSale .int64 env db request).total ∧ 0 ≤ (pricedSale .int64 env db request).vat := by
  have items : (soldCart .int64 db.products request.items).items = (soldCart .exact db.products request.items).items :=
    exact.items
  have machine := soldCart_total .int64 db.products request.items
  have whole := soldCart_total .exact db.products request.items
  rw [Word.int64_foldl _ _ Word.int64.fits_zero, Int.zero_add, items] at machine
  rw [Word.exact_foldl, Int.zero_add] at whole
  have nonneg : 0 ≤ ((soldCart .exact db.products request.items).items.map SaleItem.total).sum := by
    refine List.sum_nonneg fun total member => ?_
    obtain ⟨line, there, rfl⟩ := List.mem_map.mp member
    rw [← items] at there
    exact (sale_lines_sound facts line there).2
  have bounded := facts.bounded
  have wrapped := Word.int64_wrap_le nonneg
  have taxable : 0 ≤ (soldCart .exact db.products request.items).total - request.discount := by omega
  have vat : 0 ≤ (pricedSale .exact env db request).vat := by
    simp only [pricedSale, priceSale]
    split
    · rename_i rate
      exact percentage_nonneg taxable rate.le
    · exact le_rfl
  have total : (pricedSale .exact env db request).total =
      (soldCart .exact db.products request.items).total - request.discount + (pricedSale .exact env db request).vat := rfl
  rw [exact.total, exact.vat, total]
  exact ⟨by omega, vat⟩

end Acceptance

/-- The sale is stored with exact amounts and room for its returns. -/
structure ReturnsRoomy (id : String) (db : Store) : Prop where
  lines : LinesHold LineSound db.saleItems
  sale : ∃ sale, db.getSale id = some sale ∧ SoundAmounts sale ∧ Roomy sale

section Runs

variable {w : Word} {id : String} {origin db final start later : Store}

theorem linesSound_call {env : Env} {c : Call} {ws : List Write} (lines : LinesHold LineSound db.saleItems)
    (h : Does (c.body w env) db () ws final) : LinesHold LineSound final.saleItems :=
  call_keeps_lines (fun _ _ _ _ sound => sound) (fun _ facts => sale_lines_sound facts) lines h

theorem call_keeps_roomy {env : Env} {c : Call} {ws : List Write} (kept : ReturnsRoomy id db)
    (h : Does (c.body .int64 env) db () ws final) : ReturnsRoomy id final := by
  obtain ⟨lines, sale, stored, sound, roomy⟩ := kept
  refine ⟨linesSound_call lines h, ?_⟩
  obtain ⟨next, there, details, ⟨fewer, total, vat⟩ | ⟨productID, qtyToReturn, item, done, facts, marked, left⟩⟩ :=
    call_sale lines h stored
  · obtain ⟨room, signs⟩ := roomy.less sound fewer (by rw [total]; exact sound.nonneg) total.le
      (by rw [vat]; exact sound.vat) vat.le details
    exact ⟨next, there, signs, room⟩
  · obtain ⟨_, items, rfl⟩ := getSale_row stored
    have member : item ∈ sale.items := items ▸ getSaleItem_mem facts.line
    have unique : ∀ line ∈ sale.items, line.id = item.id → line = item := by
      intro line inside same
      rw [items] at inside member
      exact Table.unique_row (List.mem_filter.mp inside).1 (List.mem_filter.mp member).1 same
    obtain ⟨low, high, lowVat, highVat⟩ := roomy.shrunk sound member facts.positive facts.available done
    obtain ⟨room, signs⟩ := roomy.marked sound member unique facts.positive facts.available
    rw [← left.1] at low high
    rw [← left.2] at lowVat highVat
    obtain ⟨room, signs⟩ := room.less signs (marked ▸ List.Sublist.refl _) low high lowVat highVat details
    exact ⟨next, there, signs, room⟩

theorem elsewhere_keeps_roomy (sales : final.sales = db.sales) (items : final.saleItems = db.saleItems)
    (kept : ReturnsRoomy id db) : ReturnsRoomy id final := by
  obtain ⟨lines, sale, stored, good⟩ := kept
  refine ⟨items ▸ lines, sale, ?_, good⟩
  rw [← stored, Store.getSale, Store.getSale, sales, Store.itemsOf, Store.itemsOf, items]

end Runs

/-- When there is room for the largest products of an accepted sale, then in every run that
follows no product of its returns wraps, and what they compute is exact. -/
theorem return_arithmetic {origin db start later : Store} {env : Env} {actor : Actor} {request sale : Sale}
    {ws : List Write} (empty : origin.saleItems.rows = []) (before : Later .int64 origin db)
    (sold : Does (processSaleAs .int64 env actor request) db () ws start) (exact : ExactlyPriced env db request)
    (stored : start.getSale (stampSale env request).id = some sale) (roomy : Roomy sale)
    (onward : Later .int64 start later) :
    ∃ left, later.getSale (stampSale env request).id = some left ∧ ExactLegs left.toSaleRow ∧
      ∀ productID item qtyToReturn, later.getSaleItem (stampSale env request).id productID = some item →
        0 < qtyToReturn → qtyToReturn ≤ outstanding item → ExactPart left item qtyToReturn := by
  have lines : LinesHold LineSound db.saleItems :=
    later_keeps (fun db => LinesHold LineSound db.saleItems) before
      (fun line member => by rw [empty] at member; cases member) linesSound_call (fun _ items lines => items ▸ lines)
  have begun : LinesHold LineSound start.saleItems := linesSound_call (c := .processSale actor request) lines sold
  have row := sale_replayed sold (stampSale env request).id
  obtain ⟨facts, rfl⟩ := processSaleAs_does sold
  have named : (stampSale env request).id = (pricedSale .int64 env db request).id := rfl
  rw [saleJournal_row, if_pos named] at row
  obtain ⟨found, items, _⟩ := getSale_row stored
  have same : sale.toSaleRow = (pricedSale .int64 env db request).toSaleRow := Option.some.inj (found.symm.trans row)
  obtain ⟨total, vat⟩ := exact.sound facts
  have fitsVat : Word.int64.fits (pricedSale .int64 env db request).vat := by
    simp only [pricedSale, priceSale]
    split
    · exact Word.int64.fits_wrap _
    · exact Word.int64.fits_zero
  have sound : SoundAmounts sale := by
    refine ⟨?_, ?_, ?_, ?_, fun line member => ?_⟩
    · rw [same]; exact total
    · rw [same]; exact Word.int64.fits_wrap _
    · rw [same]; exact vat
    · rw [same]; exact fitsVat
    · rw [items] at member
      exact (begun line (List.mem_filter.mp member).1).2
  obtain ⟨_, left, there, signs, room⟩ := later_keeps (ReturnsRoomy (stampSale env request).id) onward
    ⟨begun, sale, stored, sound, roomy⟩ call_keeps_roomy elsewhere_keeps_roomy
  refine ⟨left, there, room.exactLegs signs, ?_⟩
  intro productID item qtyToReturn line positive available
  obtain ⟨_, own, _⟩ := getSale_row there
  exact room.exactPart signs (own ▸ getSaleItem_mem line) positive available

section Cars

/-- Two teas, half in cash and half on credit. -/
def splitTeas : Store := (processSaleAs .int64 till sara (teaSale "s1" "ali" .split (some halves) none 2)).commit shop

/-- One of them has come back. -/
def oneTeaBack : Store := (LaterCall.call till (.returnSalePartial "s1" "tea" 1)).next .int64 splitTeas

def carShop : Store := { shop with
  products := ⟨[⟨"car", "Car", "200", 4500000000, 0, 10, 0, "cars", "", "", 0, "", none⟩], by decide⟩ }

def carSale : Sale := { teaSale "s1" "" .cash none none 2 with
  items := [⟨0, "", "car", "Car", 4500000000, 2, 0, 0, 0, 0⟩] }

/-- Two cars of 45 million dinars. -/
def carsSold : Store := (processSaleAs .int64 till sara carSale).commit carShop

end Cars

theorem return_arithmetic_teas :
    ∃ left ∈ oneTeaBack.getSale "s1", ∃ item ∈ oneTeaBack.getSaleItem "s1" "tea",
      partialRefund .int64 left item 1 = partialRefund .exact left item 1 ∧
      saleRemainingLegs .int64 .stored left.toSaleRow = saleRemainingLegs .exact .stored left.toSaleRow := by
  have accepted : (processSaleAs .int64 till sara (teaSale "s1" "ali" .split (some halves) none 2)).accepts shop := by
    decide +kernel
  have exact : ExactlyPriced till shop (teaSale "s1" "ali" .split (some halves) none 2) :=
    ⟨by decide +kernel, by decide +kernel, by decide +kernel⟩
  have present : (splitTeas.getSale "s1").isSome := by decide +kernel
  obtain ⟨sale, stored⟩ := Option.isSome_iff_exists.mp present
  have lines : ∀ sale ∈ splitTeas.getSale "s1", ∀ line ∈ sale.items, RoomyLine sale.total line := by decide +kernel
  have returned : ∀ sale ∈ splitTeas.getSale "s1", ∀ line ∈ sale.items, ∀ other ∈ sale.items,
      line.productID = other.productID → Word.int64.fits (scaled .exact (line.quantity - other.returnedQty)) := by
    decide +kernel
  have goods : ∀ sale ∈ splitTeas.getSale "s1", Word.int64.fits (sale.items.map SaleItem.total).sum := by decide +kernel
  have legs : ∀ sale ∈ splitTeas.getSale "s1", ∀ split ∈ sale.splitDetails, Word.int64.fits split.total ∧
      Word.int64.fits split.paid ∧ ∀ leg ∈ split.legs, 0 < leg.2 → Word.int64.fits (sale.total * leg.2) := by
    decide +kernel
  have vat : ∀ sale ∈ splitTeas.getSale "s1", Word.int64.fits (sale.vat * sale.total) := by decide +kernel
  obtain ⟨left, there, remaining, parts⟩ := return_arithmetic rfl .refl (does_accepted accepted) exact stored
    ⟨lines sale stored, returned sale stored, goods sale stored, legs sale stored, vat sale stored⟩ (.next _ .refl)
  have line : (oneTeaBack.getSaleItem "s1" "tea").isSome := by decide +kernel
  obtain ⟨item, found⟩ := Option.isSome_iff_exists.mp line
  have available : ∀ item ∈ oneTeaBack.getSaleItem "s1" "tea", 1 ≤ outstanding item := by decide +kernel
  have part := parts "tea" item 1 found one_pos (available item found)
  exact ⟨left, there, item, found, part.refundAmount, remaining.legs .stored⟩

/-- For one of two cars that cost 45 million dinars each, 4 million are paid back. -/
theorem return_arithmetic_wraps :
    (processSaleAs .int64 till sara carSale).accepts carShop ∧ ExactlyPriced till carShop carSale ∧
      (returnSalePartial .int64 till "s1" "car" 1).accepts carsSold ∧
      ∃ sale ∈ carsSold.getSale "s1", ∃ item ∈ carsSold.getSaleItem "s1" "car",
        ¬ Word.int64.fits (sale.total * itemShareCents .exact item 1) ∧
        partialRefund .exact sale item 1 = 4500000000 ∧ partialRefund .int64 sale item 1 = 400723539 := by
  refine ⟨?_, ⟨?_, ?_, ?_⟩, ?_, ?_⟩ <;> decide +kernel

end BeidarPos
