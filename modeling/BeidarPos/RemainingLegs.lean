import BeidarPos.Accounting
import BeidarPos.PartialJournal

/-! How far the remaining legs of a split payment stay within what was paid, and how far
they depend on the order in which the maps are visited. -/
namespace BeidarPos

open Machine Relational Journal Tx Rounding

section Bounds

variable {sale : SaleRow} {split : SplitDetails} {pick : MapOrder}

/-- The leg that takes what truncation left over has room for it. -/
def RemainderFits (pick : MapOrder) (sale : SaleRow) (split : SplitDetails) : Prop :=
  ∀ m ∈ remainderLeg pick (scaledLegs .exact sale.total split.total split),
    Rounding.share sale.total (split.get m) split.total + CoveredSplit.remainder sale split ≤ split.get m

/-- A leg before the remainder is given out. -/
theorem legOf_scaled (w : Word) (total originalTotal : Int) (split : SplitDetails) (m : PaymentMethod) :
    legOf (scaledLegs w total originalTotal split) m =
      ((legOf split.legs m).filter (0 < ·)).map fun amount => remainingLeg w total amount originalTotal := by
  have pairs : Keyed.valueOf (scaledLegs w total originalTotal split) m =
      (Keyed.valueOf (split.legs.filter fun leg => 0 < leg.2) m).map fun amount => remainingLeg w total amount originalTotal :=
    Keyed.valueOf_map fun _ amount => remainingLeg w total amount originalTotal
  rw [legOf, pairs, Keyed.valueOf_filter (fun amount : Int => 0 < amount) split.distinct]

theorem CoveredSplit.scaled_leg (h : CoveredSplit sale split) (positive : 0 < split.total) {leg : PaymentMethod × Int}
    (member : leg ∈ scaledLegs .exact sale.total split.total split) :
    leg.2 = Rounding.share sale.total (split.get leg.1) split.total ∧ leg.2 ≤ split.get leg.1 := by
  rw [h.scaledLegs_eq positive] at member
  obtain ⟨old, inside, rfl⟩ := List.mem_map.mp member
  have paid := List.mem_of_mem_filter inside
  have named : split.get old.1 = old.2 := by
    rw [SplitDetails.get, legOf, Keyed.valueOf_of_mem split.distinct paid]
    rfl
  rw [named]
  exact ⟨rfl, share_le_part h.nonneg (h.legs old paid) positive h.covered⟩

end Bounds

/-- A third paid in cash, by card and on credit, of which two are left. -/
def thirds : SplitDetails := ⟨[(.cash, 1), (.card, 1), (.credit, 1)], by decide⟩

def thirdsLeft : SaleRow :=
  { (teaSale "s1" "ali" .split (some thirds) none 2).toSaleRow with total := 2 }

def halvesLeft : SaleRow :=
  { (teaSale "s1" "ali" .split (some halves) none 2).toSaleRow with total := 1000 }

section Orders

/-- The remaining legs with the orders in which the maps are visited: the legs for their
sum and for their shares, and the result for its sum and for the leg met first. -/
def saleRemainingLegsBy (w : Word) (order : Nat → MapOrder) (sale : SaleRow) : List (PaymentMethod × Int) :=
  match sale.splitDetails with
  | none => []
  | some split =>
    let originalTotal := sumLegs w ((order 0).visit split.legs)
    if originalTotal ≤ 0 then []
    else
      let remaining := (((order 1).visit split.legs).filter fun leg => 0 < leg.2).map fun leg =>
        (leg.1, remainingLeg w sale.total leg.2 originalTotal)
      let diff := w.sub sale.total (sumLegs w ((order 2).visit remaining))
      if 0 < diff then addToLeg w (remainderLeg (order 3) remaining) diff remaining else remaining

/-- In the order of storage they are the remaining legs of the returns. -/
theorem saleRemainingLegsBy_stored (w : Word) (order : Nat → MapOrder) (sale : SaleRow)
    (stored : ∀ i < 3, order i = .stored) : saleRemainingLegsBy w order sale = saleRemainingLegs w (order 3) sale := by
  unfold saleRemainingLegsBy saleRemainingLegs
  rw [stored 0 (by decide), stored 1 (by decide), stored 2 (by decide)]
  rfl

variable {sale : SaleRow} {split : SplitDetails}

/-- The legs in their shares, as they are met. -/
def visitedLegs (order : MapOrder) (sale : SaleRow) (split : SplitDetails) : List (PaymentMethod × Int) :=
  ((order.visit split.legs).filter fun leg => 0 < leg.2).map fun leg =>
    (leg.1, remainingLeg .exact sale.total leg.2 split.total)

theorem visitedLegs_perm (order : MapOrder) (sale : SaleRow) (split : SplitDetails) :
    (visitedLegs order sale split).Perm (scaledLegs .exact sale.total split.total split) :=
  ((order.perm split.legs).filter _).map _

theorem legOf_visited (order : MapOrder) (sale : SaleRow) (split : SplitDetails) (m : PaymentMethod) :
    legOf (visitedLegs order sale split) m = legOf (scaledLegs .exact sale.total split.total split) m :=
  Keyed.valueOf_perm (visitedLegs_perm order sale split) CoveredSplit.scaledLegs_distinct

/-- Only the leg that takes the remainder depends on the orders. -/
theorem legOf_remainingBy (order : Nat → MapOrder) (details : sale.splitDetails = some split) (m : PaymentMethod) :
    legOf (saleRemainingLegsBy .exact order sale) m =
      if split.total ≤ 0 then none
      else if 0 < CoveredSplit.remainder sale split then
        (legOf (scaledLegs .exact sale.total split.total split) m).map fun amount =>
          if some m = remainderLeg (order 3) (visitedLegs (order 1) sale split) then
            amount + CoveredSplit.remainder sale split
          else amount
      else legOf (scaledLegs .exact sale.total split.total split) m := by
  have total : sumLegs .exact ((order 0).visit split.legs) = split.total := by
    rw [sumLegs_exact]
    exact (((order 0).perm split.legs).map Prod.snd).sum_eq
  have lost : Word.exact.sub sale.total (sumLegs .exact ((order 2).visit (visitedLegs (order 1) sale split))) =
      CoveredSplit.remainder sale split := by
    rw [Word.exact_sub, sumLegs_exact, CoveredSplit.remainder]
    congr 1
    exact ((((order 2).perm _).trans (visitedLegs_perm (order 1) sale split)).map Prod.snd).sum_eq
  simp only [saleRemainingLegsBy, details, total]
  change legOf (if split.total ≤ 0 then [] else
    if 0 < Word.exact.sub sale.total (sumLegs .exact ((order 2).visit (visitedLegs (order 1) sale split))) then
      addToLeg .exact (remainderLeg (order 3) (visitedLegs (order 1) sale split))
        (Word.exact.sub sale.total (sumLegs .exact ((order 2).visit (visitedLegs (order 1) sale split))))
        (visitedLegs (order 1) sale split)
    else visitedLegs (order 1) sale split) m = _
  rw [lost]
  split
  · rfl
  · split
    · rw [legOf_addToLeg, legOf_visited]
    · exact legOf_visited (order 1) sale split m

/-- The orders cannot be told apart: nothing is left over, or a credit or cash leg takes
it, or there is one leg at most that could. -/
def OrderFree (sale : SaleRow) : Prop :=
  ∀ split ∈ sale.splitDetails, split.total ≤ 0 ∨ CoveredSplit.remainder sale split ≤ 0 ∨
    0 < split.get .credit ∨ 0 < split.get .cash ∨ (split.legs.filter fun leg => 0 < leg.2).length ≤ 1

/-- A positive leg takes part. -/
theorem scaled_isSome (w : Word) (total originalTotal : Int) (split : SplitDetails) (m : PaymentMethod) :
    (legOf (scaledLegs w total originalTotal split) m).isSome ↔ 0 < split.get m := by
  rw [legOf_scaled, Option.isSome_map, SplitDetails.get]
  cases legOf split.legs m with
  | none => simp
  | some amount => simp [Option.filter_some]

/-- The leg for the remainder when neither credit nor cash is there. -/
theorem remainderLeg_first {legs : List (PaymentMethod × Int)} {pick : MapOrder} (credit : (legOf legs .credit).isSome = false)
    (cash : (legOf legs .cash).isSome = false) : remainderLeg pick legs = (pick.visit legs).head?.map Prod.fst := by
  rw [remainderLeg, credit, cash]
  rfl

def MapOrder.reversed : MapOrder := ⟨List.reverse, List.reverse_perm⟩

/-- With neither credit nor cash, the legs that are left over for belong to whoever is met first. -/
theorem first_taken (pick order : MapOrder) (noCredit : split.get .credit ≤ 0) (noCash : split.get .cash ≤ 0) :
    remainderLeg pick (visitedLegs order sale split) = (pick.visit (visitedLegs order sale split)).head?.map Prod.fst := by
  refine remainderLeg_first ?_ ?_
  · rw [legOf_visited, Bool.eq_false_iff]
    exact fun present => absurd ((scaled_isSome _ _ _ _ _).mp present) (not_lt.mpr noCredit)
  · rw [legOf_visited, Bool.eq_false_iff]
    exact fun present => absurd ((scaled_isSome _ _ _ _ _).mp present) (not_lt.mpr noCash)

/-- Credit or cash takes the remainder in every order, and so does a leg that is alone. -/
theorem remainderLeg_free (order order' : Nat → MapOrder)
    (free : 0 < split.get .credit ∨ 0 < split.get .cash ∨ (split.legs.filter fun leg => 0 < leg.2).length ≤ 1) :
    remainderLeg (order 3) (visitedLegs (order 1) sale split) =
      remainderLeg (order' 3) (visitedLegs (order' 1) sale split) := by
  by_cases credit : 0 < split.get .credit
  · have present : ∀ order, (legOf (visitedLegs order sale split) .credit).isSome := by
      intro order
      rw [legOf_visited]
      exact (scaled_isSome ..).mpr credit
    rw [remainderLeg, remainderLeg, if_pos (present _), if_pos (present _)]
  · by_cases cash : 0 < split.get .cash
    · have absent : ∀ order, ¬ (legOf (visitedLegs order sale split) .credit).isSome := by
        intro order
        rw [legOf_visited]
        exact mt (scaled_isSome ..).mp credit
      have present : ∀ order, (legOf (visitedLegs order sale split) .cash).isSome := by
        intro order
        rw [legOf_visited]
        exact (scaled_isSome ..).mpr cash
      rw [remainderLeg, remainderLeg, if_neg (absent _), if_neg (absent _), if_pos (present _), if_pos (present _)]
    · have alone := (free.resolve_left credit).resolve_left cash
      rw [first_taken _ _ (not_lt.mp credit) (not_lt.mp cash), first_taken _ _ (not_lt.mp credit) (not_lt.mp cash)]
      have same : ∀ order : Nat → MapOrder, (order 3).visit (visitedLegs (order 1) sale split) =
          scaledLegs .exact sale.total split.total split := by
        intro order
        have moved := ((order 3).perm (visitedLegs (order 1) sale split)).trans (visitedLegs_perm (order 1) sale split)
        have few : (scaledLegs .exact sale.total split.total split).length ≤ 1 := by
          rw [scaledLegs, List.length_map]
          exact alone
        cases legs : scaledLegs .exact sale.total split.total split with
        | nil =>
          rw [legs] at moved
          exact moved.eq_nil
        | cons leg rest =>
          rw [legs] at moved few
          have none : rest = [] := List.length_eq_zero_iff.mp (by simpa using few)
          subst none
          exact List.perm_singleton.mp moved
      rw [same order, same order']

end Orders

section Transfer

/-- Paid by card and by a transfer, a method the code does not name. -/
def byTransfer : SplitDetails := ⟨[(.card, 1000), (.other "transfer" (by decide), 500)], by decide⟩

def transferred : Store :=
  (processSaleAs .exact till sara (teaSale "s1" "" .split (some byTransfer) none (3 / 2))).commit shop

def lastFirst : Nat → MapOrder := fun i => if i = 3 then .reversed else .stored

end Transfer

end BeidarPos
