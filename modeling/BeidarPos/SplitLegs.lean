import BeidarPos.Models

/-! What is still outstanding on each leg of a split payment. -/
namespace BeidarPos

open Machine Rounding

def remainingLeg (w : Word) (total amount originalTotal : Int) : Int :=
  let leg := w.quot (w.mul total amount) originalTotal
  let leg := if leg < 0 then 0 else leg
  if amount < leg then amount else leg

/-- The leg the truncation remainder goes to: credit, else cash, else the first visited. -/
def remainderLeg (pick : MapOrder) (remaining : List (PaymentMethod × Int)) : Option PaymentMethod :=
  if (legOf remaining .credit).isSome then some .credit
  else if (legOf remaining .cash).isSome then some .cash
  else (pick.visit remaining).head?.map Prod.fst

def addToLeg (w : Word) (m : Option PaymentMethod) (diff : Int) (remaining : List (PaymentMethod × Int)) :
    List (PaymentMethod × Int) :=
  remaining.map fun leg => if some leg.1 = m then (leg.1, w.add leg.2 diff) else leg

def scaledLegs (w : Word) (total originalTotal : Int) (split : SplitDetails) : List (PaymentMethod × Int) :=
  (split.legs.filter fun leg => 0 < leg.2).map fun leg => (leg.1, remainingLeg w total leg.2 originalTotal)

def sumLegs (w : Word) (legs : List (PaymentMethod × Int)) : Int := legs.foldl (fun sum leg => w.add sum leg.2) 0

def saleRemainingLegs (w : Word) (pick : MapOrder) (sale : SaleRow) : List (PaymentMethod × Int) :=
  match sale.splitDetails with
  | none => []
  | some split =>
    let originalTotal := sumLegs w split.legs
    if originalTotal ≤ 0 then []
    else
      let remaining := scaledLegs w sale.total originalTotal split
      let diff := w.sub sale.total (sumLegs w remaining)
      if 0 < diff then addToLeg w (remainderLeg pick remaining) diff remaining else remaining

theorem SplitDetails.get_nonneg {split : SplitDetails} (legs : ∀ leg ∈ split.legs, 0 ≤ leg.2) (m : PaymentMethod) :
    0 ≤ split.get m := by
  unfold SplitDetails.get
  cases named : legOf split.legs m with
  | none => exact le_rfl
  | some amount => exact legs _ (Keyed.valueOf_mem named)

theorem sumLegs_exact (legs : List (PaymentMethod × Int)) : sumLegs .exact legs = (legs.map Prod.snd).sum := by
  rw [sumLegs, Word.exact_foldl, Int.zero_add]

/-- A split sale whose legs still cover what the invoice is worth. -/
structure CoveredSplit (sale : SaleRow) (split : SplitDetails) : Prop where
  details : sale.splitDetails = some split
  legs : ∀ leg ∈ split.legs, 0 ≤ leg.2
  nonneg : 0 ≤ sale.total
  covered : sale.total ≤ split.total

namespace CoveredSplit

variable {sale : SaleRow} {split : SplitDetails} {pick : MapOrder}

/-- The leg in proportion; the clamps of the source do not bite. -/
theorem remainingLeg_eq (h : CoveredSplit sale split) (positive : 0 < split.total) {amount : Int} (low : 0 ≤ amount) :
    remainingLeg .exact sale.total amount split.total = share sale.total amount split.total := by
  have nonneg := share_nonneg h.nonneg low positive.le
  have le := share_le_part h.nonneg low positive h.covered
  unfold share at nonneg le
  have low : ¬ (sale.total * amount).tdiv split.total < 0 := by omega
  have high : ¬ amount < (sale.total * amount).tdiv split.total := by omega
  simp only [remainingLeg, Word.exact_quot, Word.exact_mul, share, low, high, if_false]

theorem scaledLegs_eq (h : CoveredSplit sale split) (positive : 0 < split.total) :
    scaledLegs .exact sale.total split.total split =
      (split.legs.filter fun leg => 0 < leg.2).map fun leg => (leg.1, share sale.total leg.2 split.total) := by
  refine List.map_congr_left ?_
  intro leg member
  rw [h.remainingLeg_eq positive (h.legs leg (List.mem_of_mem_filter member))]

theorem scaledLegs_nonneg (h : CoveredSplit sale split) (positive : 0 < split.total) :
    ∀ leg ∈ scaledLegs .exact sale.total split.total split, 0 ≤ leg.2 := by
  rw [h.scaledLegs_eq positive]
  intro leg member
  obtain ⟨old, inside, rfl⟩ := List.mem_map.mp member
  exact share_nonneg h.nonneg (h.legs old (List.mem_of_mem_filter inside)) positive.le

theorem scaledLegs_distinct : ((scaledLegs w total originalTotal split).map Prod.fst).Nodup := by
  rw [scaledLegs, List.map_map]
  exact split.distinct.sublist ((List.filter_sublist).map Prod.fst)

theorem filter_sum (h : CoveredSplit sale split) :
    ((split.legs.filter fun leg => 0 < leg.2).map Prod.snd).sum = split.total := by
  have legs := h.legs
  unfold SplitDetails.total
  generalize split.legs = entries at legs
  induction entries with
  | nil => rfl
  | cons leg entries ih =>
    have head := legs leg (by simp)
    have tail := ih (fun other member => legs other (by simp [member]))
    by_cases positive : 0 < leg.2
    · simp [positive, tail]
    · have : leg.2 = 0 := by omega
      simp [this, tail]

/-- The shares of the legs never add up to more than the invoice. -/
theorem scaledLegs_sum (h : CoveredSplit sale split) (positive : 0 < split.total) :
    ((scaledLegs .exact sale.total split.total split).map Prod.snd).sum ≤ sale.total := by
  rw [h.scaledLegs_eq positive, List.map_map]
  have parts := @sum_shares_le _ split.total h.nonneg positive
    ((split.legs.filter fun leg => 0 < leg.2).map Prod.snd) ?_ h.filter_sum.le
  · rw [List.map_map] at parts
    exact parts
  · intro part member
    obtain ⟨leg, inside, rfl⟩ := List.mem_map.mp member
    exact h.legs leg (List.mem_of_mem_filter inside)

theorem scaledLegs_ne_nil (h : CoveredSplit sale split) (positive : 0 < split.total) :
    scaledLegs .exact sale.total split.total split ≠ [] := by
  intro empty
  have none : (split.legs.filter fun leg => 0 < leg.2) = [] := List.map_eq_nil_iff.mp empty
  have sum := h.filter_sum
  rw [none] at sum
  simp only [List.map_nil, List.sum_nil] at sum
  omega

/-- The truncation remainder, which one leg takes. -/
def remainder (sale : SaleRow) (split : SplitDetails) : Int :=
  sale.total - ((scaledLegs .exact sale.total split.total split).map Prod.snd).sum

theorem remaining_eq (h : CoveredSplit sale split) (positive : 0 < split.total) :
    saleRemainingLegs .exact pick sale =
      if 0 < remainder sale split then
        addToLeg .exact (remainderLeg pick (scaledLegs .exact sale.total split.total split)) (remainder sale split)
          (scaledLegs .exact sale.total split.total split)
      else scaledLegs .exact sale.total split.total split := by
  have some_left : ¬ split.total ≤ 0 := by omega
  have total : sumLegs .exact split.legs = split.total := sumLegs_exact _
  simp only [saleRemainingLegs, h.details, total, some_left, if_false, Word.exact_sub, sumLegs_exact]
  rfl

theorem remaining_worthless (h : CoveredSplit sale split) (worthless : split.total ≤ 0) :
    saleRemainingLegs .exact pick sale = [] := by
  have total : sumLegs .exact split.legs = split.total := sumLegs_exact _
  simp [saleRemainingLegs, h.details, total, worthless]

end CoveredSplit

section Remainder

variable {legs : List (PaymentMethod × Int)} {m : PaymentMethod}

theorem addToLeg_fst (o : Option PaymentMethod) (diff : Int) :
    (addToLeg .exact o diff legs).map Prod.fst = legs.map Prod.fst := by
  rw [addToLeg, List.map_map]
  refine List.map_congr_left ?_
  intro leg _
  simp only [Function.comp_apply]
  split <;> rfl

theorem legOf_addToLeg (o : Option PaymentMethod) (diff : Int) :
    legOf (addToLeg .exact o diff legs) m = (legOf legs m).map fun a => if some m = o then a + diff else a := by
  have pairs : addToLeg .exact o diff legs =
      legs.map fun leg => (leg.1, if some leg.1 = o then leg.2 + diff else leg.2) := by
    refine List.map_congr_left ?_
    intro leg _
    simp only [Word.exact_add]
    split <;> rfl
  rw [pairs]
  exact Keyed.valueOf_map fun k a => if some k = o then a + diff else a

theorem addToLeg_nonneg {o : Option PaymentMethod} {diff : Int} (low : 0 ≤ diff) (nonneg : ∀ leg ∈ legs, 0 ≤ leg.2) :
    ∀ leg ∈ addToLeg .exact o diff legs, 0 ≤ leg.2 := by
  intro leg member
  obtain ⟨old, inside, rfl⟩ := List.mem_map.mp member
  have := nonneg old inside
  split
  · simp only [Word.exact_add]
    omega
  · exact this

theorem addToLeg_sum {diff : Int} (distinct : (legs.map Prod.fst).Nodup) (member : m ∈ legs.map Prod.fst) :
    ((addToLeg .exact (some m) diff legs).map Prod.snd).sum = (legs.map Prod.snd).sum + diff := by
  induction legs with
  | nil => simp at member
  | cons leg legs ih =>
    obtain ⟨fresh, rest⟩ := List.nodup_cons.mp distinct
    have unfolded : addToLeg .exact (some m) diff (leg :: legs) =
        (if some leg.1 = some m then (leg.1, Word.exact.add leg.2 diff) else leg) ::
          addToLeg .exact (some m) diff legs := rfl
    rw [unfolded]
    by_cases here : leg.1 = m
    · have others : addToLeg .exact (some m) diff legs = legs := by
        rw [addToLeg]
        conv_rhs => rw [← List.map_id legs]
        refine List.map_congr_left ?_
        intro other inside
        have : other.1 ≠ m := by
          rintro rfl
          exact fresh (here ▸ List.mem_map.mpr ⟨other, inside, rfl⟩)
        simp [this]
      simp only [List.map_cons, others, here, if_true, List.sum_cons, Word.exact_add]
      omega
    · have inside : m ∈ legs.map Prod.fst := by
        rcases List.mem_cons.mp member with same | later
        · exact absurd same.symm here
        · exact later
      simp only [List.map_cons, List.sum_cons, ih rest inside, Option.some.injEq, here, if_false]
      omega

/-- The remainder goes to a leg that is there. -/
theorem remainderLeg_mem (pick : MapOrder) (some_left : legs ≠ []) :
    ∃ m, remainderLeg pick legs = some m ∧ m ∈ legs.map Prod.fst := by
  have named : ∀ m, (legOf legs m).isSome → m ∈ legs.map Prod.fst := by
    intro m present
    obtain ⟨amount, found⟩ := Option.isSome_iff_exists.mp present
    exact List.mem_map.mpr ⟨_, Keyed.valueOf_mem found, rfl⟩
  unfold remainderLeg
  split
  · rename_i credit
    exact ⟨_, rfl, named _ credit⟩
  · split
    · rename_i cash
      exact ⟨_, rfl, named _ cash⟩
    · have order := pick.perm legs
      cases visited : pick.visit legs with
      | nil =>
        rw [visited] at order
        exact absurd order.nil_eq.symm some_left
      | cons leg rest =>
        refine ⟨leg.1, rfl, List.mem_map.mpr ⟨leg, ?_, rfl⟩⟩
        exact order.mem_iff.mp (by simp [visited])

/-- Cash and credit take the remainder, or not, whatever the visiting order. -/
theorem remainderLeg_order (pick other : MapOrder) (kind : m = .cash ∨ m = .credit) (present : (legOf legs m).isSome) :
    (some m = remainderLeg pick legs) = (some m = remainderLeg other legs) := by
  unfold remainderLeg
  rcases kind with rfl | rfl
  · split
    · rfl
    · rfl
  · rw [if_pos present, if_pos present]

end Remainder

namespace CoveredSplit

variable {sale : SaleRow} {split : SplitDetails} {pick : MapOrder}

theorem remainder_nonneg (h : CoveredSplit sale split) (positive : 0 < split.total) : 0 ≤ remainder sale split := by
  have := h.scaledLegs_sum positive
  unfold remainder
  omega

theorem remaining_nonneg (h : CoveredSplit sale split) : ∀ leg ∈ saleRemainingLegs .exact pick sale, 0 ≤ leg.2 := by
  rcases lt_or_ge 0 split.total with positive | worthless
  · have nonneg := h.scaledLegs_nonneg positive
    rw [h.remaining_eq positive]
    split
    · exact addToLeg_nonneg (h.remainder_nonneg positive) nonneg
    · exact nonneg
  · simp [h.remaining_worthless worthless]

theorem remaining_distinct (h : CoveredSplit sale split) : ((saleRemainingLegs .exact pick sale).map Prod.fst).Nodup := by
  rcases lt_or_ge 0 split.total with positive | worthless
  · rw [h.remaining_eq positive]
    split
    · rw [addToLeg_fst]
      exact scaledLegs_distinct
    · exact scaledLegs_distinct
  · simp [h.remaining_worthless worthless]

/-- Nothing of the invoice is lost: the remaining legs add up to it. -/
theorem remaining_sum (h : CoveredSplit sale split) :
    ((saleRemainingLegs .exact pick sale).map Prod.snd).sum = sale.total := by
  rcases lt_or_ge 0 split.total with positive | worthless
  · have nonneg := h.remainder_nonneg positive
    rw [h.remaining_eq positive]
    split
    · obtain ⟨m, chosen, present⟩ := remainderLeg_mem pick (h.scaledLegs_ne_nil positive)
      rw [chosen, addToLeg_sum scaledLegs_distinct present]
      unfold remainder
      omega
    · rename_i none
      unfold remainder at none nonneg
      omega
  · have := h.nonneg
    have := h.covered
    rw [h.remaining_worthless worthless, List.map_nil, List.sum_nil]
    omega

/-- A leg that remains is one of the legs that were paid. -/
theorem remaining_named (h : CoveredSplit sale split) {m : PaymentMethod} {amount : Int}
    (found : legOf (saleRemainingLegs .exact pick sale) m = some amount) :
    ∃ paid, legOf split.legs m = some paid ∧ 0 < paid := by
  have named : ∀ a, legOf (scaledLegs .exact sale.total split.total split) m = some a →
      ∃ paid, legOf split.legs m = some paid ∧ 0 < paid := by
    intro a scaled
    obtain ⟨leg, inside, same⟩ := List.mem_map.mp (Keyed.valueOf_mem scaled)
    obtain ⟨member, positive⟩ := List.mem_filter.mp inside
    obtain ⟨rfl, _⟩ := Prod.mk.inj same
    exact ⟨leg.2, Keyed.valueOf_of_mem split.distinct member, by simpa using positive⟩
  rcases lt_or_ge 0 split.total with positive | worthless
  · rw [h.remaining_eq positive] at found
    split at found
    · rw [legOf_addToLeg] at found
      obtain ⟨a, scaled, _⟩ := Option.map_eq_some_iff.mp found
      exact named a scaled
    · exact named amount found
  · rw [h.remaining_worthless worthless] at found
    cases found

/-- What remains of the cash and credit legs does not depend on a visiting order. -/
theorem remaining_order (h : CoveredSplit sale split) (pick other : MapOrder) {m : PaymentMethod}
    (kind : m = .cash ∨ m = .credit) :
    legOf (saleRemainingLegs .exact pick sale) m = legOf (saleRemainingLegs .exact other sale) m := by
  rcases lt_or_ge 0 split.total with positive | worthless
  · rw [h.remaining_eq positive, h.remaining_eq positive]
    split
    · rw [legOf_addToLeg, legOf_addToLeg]
      cases present : legOf (scaledLegs .exact sale.total split.total split) m with
      | none => rfl
      | some a =>
        have same := remainderLeg_order pick other kind (Option.isSome_iff_exists.mpr ⟨a, present⟩)
        simp only [Option.map_some, same]
    · rfl
  · rw [h.remaining_worthless worthless, h.remaining_worthless worthless]

end CoveredSplit

/-- Money methods a split payment may be made with, and credit. -/
def SplitKey (m : PaymentMethod) : Prop := m = .cash ∨ m = .card ∨ m = .credit

theorem three_legs_sum {legs : List (PaymentMethod × Int)} (distinct : (legs.map Prod.fst).Nodup)
    (keys : ∀ leg ∈ legs, SplitKey leg.1) : (legs.map Prod.snd).sum =
      (legOf legs .cash).getD 0 + (legOf legs .card).getD 0 + (legOf legs .credit).getD 0 := by
  have cash := Keyed.sum_at (k := PaymentMethod.cash) (fun a : Int => a) distinct
  have card := Keyed.sum_at (k := PaymentMethod.card) (fun a : Int => a) distinct
  have credit := Keyed.sum_at (k := PaymentMethod.credit) (fun a : Int => a) distinct
  rw [Option.map_id'] at cash card credit
  rw [← cash, ← card, ← credit, ← List.sum_map_add, ← List.sum_map_add]
  refine congrArg List.sum (List.map_congr_left ?_)
  intro leg member
  rcases keys leg member with key | key | key <;> simp [key]

theorem CoveredSplit.remaining_keys {sale : SaleRow} {split : SplitDetails} {pick : MapOrder}
    (h : CoveredSplit sale split) (keys : ∀ leg ∈ split.legs, SplitKey leg.1) :
    ∀ leg ∈ saleRemainingLegs .exact pick sale, SplitKey leg.1 := by
  intro leg member
  obtain ⟨paid, named, _⟩ := h.remaining_named (Keyed.valueOf_of_mem h.remaining_distinct member)
  have key := keys (leg.1, paid) (Keyed.valueOf_mem named)
  exact key

end BeidarPos
