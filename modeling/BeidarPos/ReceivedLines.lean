import BeidarPos.StockLedger

/-! The receive loop on the lines in memory: which line an offer goes to, what it takes,
and when a whole request fills every line in one turn each. -/
namespace BeidarPos

open Machine Relational Journal Tx

section Lines

/-- No line has received less than nothing or more than was ordered. -/
def WithinOrder (lines : List PurchaseOrderItem) : Prop :=
  ∀ line ∈ lines, 0 ≤ line.receivedQty ∧ line.receivedQty ≤ line.quantity

def Full (lines : List PurchaseOrderItem) : Prop := ∀ line ∈ lines, line.quantity ≤ line.receivedQty

def DistinctProducts (lines : List PurchaseOrderItem) : Prop := (lines.map PurchaseOrderItem.productID).Nodup

/-- A sum over the lines with one product. -/
def lineSum (value : PurchaseOrderItem → ℚ) (productID : String) (lines : List PurchaseOrderItem) : ℚ :=
  (lines.map fun line => if line.productID = productID then value line else 0).sum

def receivedOf (productID : String) (lines : List PurchaseOrderItem) : ℚ :=
  lineSum PurchaseOrderItem.receivedQty productID lines

def outstandingOf (productID : String) (lines : List PurchaseOrderItem) : ℚ := lineSum remainingQty productID lines

/-- What a request offers of one product; an offer of nothing or less counts for nothing. -/
def offeredOf (productID : String) (offers : List PurchaseOrderItem) : ℚ :=
  lineSum (fun offer => if 0 < offer.receivedQty then offer.receivedQty else 0) productID offers

/-- The request offers the full outstanding quantity of every product. -/
def OffersAll (lines offers : List PurchaseOrderItem) : Prop :=
  ∀ line ∈ lines, outstandingOf line.productID lines ≤ offeredOf line.productID offers

def firstOffer (offers : List PurchaseOrderItem) (productID : String) : Option PurchaseOrderItem :=
  offers.find? (fun offer => offer.productID = productID ∧ 0 < offer.receivedQty)

/-- Each line with something outstanding is covered by the first offer of its product alone. -/
def CoveredAtOnce (lines offers : List PurchaseOrderItem) : Prop :=
  ∀ line ∈ lines, 0 < remainingQty line →
    ∃ offer, firstOffer offers line.productID = some offer ∧ remainingQty line ≤ offer.receivedQty

@[simp] theorem lineSum_nil (value : PurchaseOrderItem → ℚ) (p : String) : lineSum value p [] = 0 := rfl

@[simp] theorem lineSum_cons (value : PurchaseOrderItem → ℚ) (p : String) (line : PurchaseOrderItem)
    (lines : List PurchaseOrderItem) :
    lineSum value p (line :: lines) = (if line.productID = p then value line else 0) + lineSum value p lines := by
  simp [lineSum]

theorem lineSum_sub (first second : PurchaseOrderItem → ℚ) (p : String) (lines : List PurchaseOrderItem) :
    lineSum (fun line => first line - second line) p lines = lineSum first p lines - lineSum second p lines := by
  induction lines with
  | nil => simp
  | cons line lines ih =>
    rw [lineSum_cons, lineSum_cons, lineSum_cons, ih]
    split <;> ring

theorem lineSum_congr {first second : PurchaseOrderItem → ℚ} {lines : List PurchaseOrderItem} (p : String)
    (same : ∀ line ∈ lines, first line = second line) : lineSum first p lines = lineSum second p lines := by
  unfold lineSum
  congr 1
  apply List.map_congr_left
  intro line member
  rw [same line member]

end Lines

section Offer

variable {lines : List PurchaseOrderItem} {offer item : PurchaseOrderItem} {toReceive : ℚ}

/-- What is known of an offer that was accepted. -/
structure Taken (lines : List PurchaseOrderItem) (offer item : PurchaseOrderItem) (toReceive : ℚ) : Prop where
  line : item ∈ lines
  product : item.productID = offer.productID
  offered : 0 < offer.receivedQty
  open_ : 0 < remainingQty item
  taken : toReceive = min (remainingQty item) offer.receivedQty

theorem orderItemOf_mem {productID : String} (h : orderItemOf lines productID = some item) :
    item ∈ lines ∧ item.productID = productID := by
  have member := List.mem_filter.mp (List.mem_of_getLast? h)
  exact ⟨member.1, by simpa using member.2⟩

theorem acceptedOffer_some (h : acceptedOffer lines offer = some (item, toReceive)) :
    Taken lines offer item toReceive := by
  unfold acceptedOffer at h
  split at h
  · cases h
  · rename_i offered
    split at h
    · cases h
    · rename_i found line
      split at h
      · cases h
      · rename_i outstanding
        simp only [Option.some.injEq, Prod.mk.injEq] at h
        obtain ⟨rfl, rfl⟩ := h
        obtain ⟨member, product⟩ := orderItemOf_mem line
        refine ⟨member, product, not_le.mp offered, not_le.mp outstanding, ?_⟩
        split
        · rename_i less
          exact (min_eq_left less.le).symm
        · rename_i more
          exact (min_eq_right (not_lt.mp more)).symm

theorem Taken.positive (taken : Taken lines offer item toReceive) : 0 < toReceive :=
  taken.taken ▸ lt_min taken.open_ taken.offered

theorem Taken.le_remaining (taken : Taken lines offer item toReceive) : toReceive ≤ remainingQty item :=
  taken.taken ▸ min_le_left _ _

theorem Taken.le_offer (taken : Taken lines offer item toReceive) : toReceive ≤ offer.receivedQty :=
  taken.taken ▸ min_le_right _ _

/-- With one line a product, the map finds that line. -/
theorem orderItemOf_line (distinct : DistinctProducts lines) (member : item ∈ lines) :
    orderItemOf lines item.productID = some item := by
  have inside : item ∈ lines.filter (fun line => line.productID = item.productID) := by simp [member]
  have nonempty : lines.filter (fun line => line.productID = item.productID) ≠ [] := by
    intro empty
    rw [empty] at inside
    cases inside
  have last := List.getLast?_eq_some_getLast nonempty
  have found := orderItemOf_mem last
  rw [orderItemOf, last, Option.some_inj]
  exact List.inj_on_of_nodup_map distinct found.1 member found.2

/-- An offer of a product whose one line is open goes to that line. -/
theorem acceptedOffer_open (distinct : DistinctProducts lines) (member : item ∈ lines) (outstanding : 0 < remainingQty item)
    (product : offer.productID = item.productID) (offered : 0 < offer.receivedQty) :
    acceptedOffer lines offer ≠ none := by
  unfold acceptedOffer
  rw [if_neg (not_le.mpr offered), product, orderItemOf_line distinct member]
  simp only [if_neg (not_le.mpr outstanding)]
  exact Option.some_ne_none _

end Offer

section Turn

variable {lines : List PurchaseOrderItem} {item : PurchaseOrderItem} {qty : ℚ}

theorem receivedInto_map {β : Type} (column : PurchaseOrderItem → β)
    (kept : ∀ line qty, column (PurchaseOrderItem.receivedAs qty line) = column line) (itemID : Nat) (qty : ℚ)
    (lines : List PurchaseOrderItem) : (receivedInto itemID qty lines).map column = lines.map column := by
  rw [receivedInto, List.map_map]
  apply List.map_congr_left
  intro line _
  by_cases same : line.id = itemID
  · simp [same, kept]
  · simp [same]

theorem mem_receivedInto {itemID : Nat} {line : PurchaseOrderItem} (member : line ∈ receivedInto itemID qty lines) :
    ∃ old ∈ lines, line = if old.id = itemID then old.receivedAs qty else old := by
  obtain ⟨old, before, rfl⟩ := List.mem_map.mp member
  exact ⟨old, before, rfl⟩

/-- Receiving into one line of a product adds to that product's sum alone. -/
theorem receivedOf_receivedInto (distinct : (lines.map PurchaseOrderItem.id).Nodup) (member : item ∈ lines)
    (toReceive : ℚ) (p : String) :
    receivedOf p (receivedInto item.id (item.receivedQty + toReceive) lines) =
      receivedOf p lines + if item.productID = p then toReceive else 0 := by
  unfold receivedOf
  induction lines with
  | nil => cases member
  | cons line lines ih =>
    obtain ⟨fresh, rest⟩ := List.nodup_cons.mp distinct
    rcases List.mem_cons.mp member with rfl | later
    · have others : receivedInto item.id (item.receivedQty + toReceive) lines = lines := by
        unfold receivedInto
        conv_rhs => rw [← List.map_id lines]
        apply List.map_congr_left
        intro other inside
        have ne : other.id ≠ item.id := fun same => fresh (List.mem_map.mpr ⟨other, inside, same⟩)
        simp [ne]
      have head : receivedInto item.id (item.receivedQty + toReceive) (item :: lines) =
          item.receivedAs (item.receivedQty + toReceive) :: lines := by
        rw [receivedInto, List.map_cons, if_pos rfl]
        exact congrArg _ others
      rw [head, lineSum_cons, lineSum_cons]
      by_cases same : item.productID = p <;> simp [same, PurchaseOrderItem.receivedAs]
      ring
    · have ne : line.id ≠ item.id := fun same => fresh (List.mem_map.mpr ⟨item, later, same.symm⟩)
      have tail := ih rest later
      have head : receivedInto item.id (item.receivedQty + toReceive) (line :: lines) =
          line :: receivedInto item.id (item.receivedQty + toReceive) lines := by
        simp [receivedInto, ne]
      rw [head, lineSum_cons, lineSum_cons, tail, add_assoc]

end Turn

section Loop

/-- The columns a turn of the loop leaves alone, and the quantities it keeps in bounds. -/
structure SameLines (before after : List PurchaseOrderItem) : Prop where
  ids : after.map PurchaseOrderItem.id = before.map PurchaseOrderItem.id
  products : after.map PurchaseOrderItem.productID = before.map PurchaseOrderItem.productID
  quantities : ∀ p, lineSum PurchaseOrderItem.quantity p after = lineSum PurchaseOrderItem.quantity p before

theorem SameLines.refl (lines : List PurchaseOrderItem) : SameLines lines lines := ⟨rfl, rfl, fun _ => rfl⟩

theorem SameLines.trans {first second third : List PurchaseOrderItem} (h : SameLines first second)
    (k : SameLines second third) : SameLines first third :=
  ⟨k.ids.trans h.ids, k.products.trans h.products, fun p => (k.quantities p).trans (h.quantities p)⟩

theorem sameLines_receivedInto (itemID : Nat) (qty : ℚ) (lines : List PurchaseOrderItem) :
    SameLines lines (receivedInto itemID qty lines) where
  ids := receivedInto_map PurchaseOrderItem.id (fun _ _ => rfl) itemID qty lines
  products := receivedInto_map PurchaseOrderItem.productID (fun _ _ => rfl) itemID qty lines
  quantities := fun p => congrArg List.sum (receivedInto_map
    (fun line => if line.productID = p then line.quantity else 0) (fun _ _ => rfl) itemID qty lines)

variable {state : Receiving} {offer : PurchaseOrderItem} {offers : List PurchaseOrderItem}

theorem takeOffer_same (state : Receiving) (offer : PurchaseOrderItem) :
    SameLines state.orderItems (takeOffer state offer).orderItems := by
  unfold takeOffer
  split
  · exact .refl _
  · exact sameLines_receivedInto _ _ _

theorem takeOffer_within (distinct : (state.orderItems.map PurchaseOrderItem.id).Nodup)
    (within : WithinOrder state.orderItems) : WithinOrder (takeOffer state offer).orderItems := by
  unfold takeOffer
  split
  · exact within
  · rename_i item toReceive accepted
    have taken := acceptedOffer_some accepted
    intro line member
    obtain ⟨old, before, rfl⟩ := mem_receivedInto member
    split
    · rename_i same
      have identical : old = item := List.inj_on_of_nodup_map distinct before taken.line same
      subst identical
      have bound := taken.le_remaining
      have := taken.positive
      have := (within old before).1
      simp only [remainingQty] at bound
      exact ⟨by simp only [PurchaseOrderItem.receivedAs]; linarith, by simp only [PurchaseOrderItem.receivedAs]; linarith⟩
    · exact within old before

/-- A turn adds to one product no more than it was offered. -/
theorem takeOffer_received (distinct : (state.orderItems.map PurchaseOrderItem.id).Nodup) (p : String) :
    receivedOf p state.orderItems ≤ receivedOf p (takeOffer state offer).orderItems ∧
      receivedOf p (takeOffer state offer).orderItems ≤ receivedOf p state.orderItems + offeredOf p [offer] := by
  have offered : 0 ≤ offeredOf p [offer] := by
    simp only [offeredOf, lineSum_cons, lineSum_nil, add_zero]
    split
    · split
      · rename_i positive
        exact positive.le
      · exact le_rfl
    · exact le_rfl
  unfold takeOffer
  split
  · exact ⟨le_rfl, by linarith⟩
  · rename_i item toReceive accepted
    have taken := acceptedOffer_some accepted
    rw [receivedOf_receivedInto distinct taken.line]
    have positive := taken.positive
    have bound := taken.le_offer
    by_cases same : item.productID = p
    · have named : offer.productID = p := taken.product ▸ same
      simp only [offeredOf, lineSum_cons, lineSum_nil, add_zero, same, named, if_true, taken.offered]
      exact ⟨by linarith, by linarith⟩
    · simp only [same, if_false, add_zero]
      exact ⟨le_rfl, by linarith⟩

theorem offers_same (offers : List PurchaseOrderItem) (state : Receiving) :
    SameLines state.orderItems (offers.foldl takeOffer state).orderItems := by
  induction offers generalizing state with
  | nil => exact .refl _
  | cons offer offers ih => exact (takeOffer_same state offer).trans (ih _)

theorem offers_within (distinct : (state.orderItems.map PurchaseOrderItem.id).Nodup)
    (within : WithinOrder state.orderItems) : WithinOrder (offers.foldl takeOffer state).orderItems := by
  induction offers generalizing state with
  | nil => exact within
  | cons offer offers ih =>
    refine ih ?_ (takeOffer_within distinct within)
    rw [(takeOffer_same state offer).ids]
    exact distinct

theorem offers_received (distinct : (state.orderItems.map PurchaseOrderItem.id).Nodup) (p : String) :
    receivedOf p (offers.foldl takeOffer state).orderItems ≤ receivedOf p state.orderItems + offeredOf p offers := by
  induction offers generalizing state with
  | nil => simp [offeredOf]
  | cons offer offers ih =>
    have next : ((takeOffer state offer).orderItems.map PurchaseOrderItem.id).Nodup := by
      rw [(takeOffer_same state offer).ids]
      exact distinct
    have head := (@takeOffer_received _ offer distinct p).2
    have tail := ih next
    simp only [offeredOf, lineSum_cons, lineSum_nil, add_zero] at head tail ⊢
    rw [List.foldl_cons]
    linarith

/-- A request after which every line is full offered everything outstanding. -/
theorem offersAll_of_full (distinct : (state.orderItems.map PurchaseOrderItem.id).Nodup)
    (within : WithinOrder state.orderItems) (full : Full (offers.foldl takeOffer state).orderItems) :
    OffersAll state.orderItems offers := by
  intro line _
  have bounds := @offers_within _ offers distinct within
  have received := @offers_received _ offers distinct line.productID
  have quantities := (offers_same offers state).quantities line.productID
  have complete : receivedOf line.productID (offers.foldl takeOffer state).orderItems =
      lineSum PurchaseOrderItem.quantity line.productID (offers.foldl takeOffer state).orderItems :=
    lineSum_congr _ fun done member => le_antisymm (bounds done member).2 (full done member)
  have outstanding : outstandingOf line.productID state.orderItems =
      lineSum PurchaseOrderItem.quantity line.productID state.orderItems - receivedOf line.productID state.orderItems :=
    lineSum_sub _ _ _ _
  linarith

/-- A turn on a line its offer covers fills the line, and the rest stays covered. -/
theorem takeOffer_covered (ids : (state.orderItems.map PurchaseOrderItem.id).Nodup)
    (distinct : DistinctProducts state.orderItems) (covered : CoveredAtOnce state.orderItems (offer :: offers)) :
    CoveredAtOnce (takeOffer state offer).orderItems offers ∧
      (takeOffer state offer).allReceived = state.allReceived ∧
      ∀ item toReceive, acceptedOffer state.orderItems offer = some (item, toReceive) → toReceive = remainingQty item := by
  -- an offer that some open line waits for is taken by that line
  have passed : ∀ line ∈ state.orderItems, 0 < remainingQty line → acceptedOffer state.orderItems offer = none →
      firstOffer (offer :: offers) line.productID = firstOffer offers line.productID := by
    intro line member outstanding none
    unfold firstOffer
    rw [List.find?_cons_of_neg]
    simp only [decide_eq_true_eq, not_and, not_lt]
    intro product
    by_contra offered
    exact acceptedOffer_open distinct member outstanding product (not_le.mp offered) none
  cases accepted : acceptedOffer state.orderItems offer with
  | none =>
    simp only [takeOffer, accepted]
    refine ⟨?_, trivial, by simp⟩
    intro line member outstanding
    obtain ⟨first, found, enough⟩ := covered line member outstanding
    exact ⟨first, (passed line member outstanding accepted) ▸ found, enough⟩
  | some pair =>
    obtain ⟨item, toReceive⟩ := pair
    have taken := acceptedOffer_some accepted
    obtain ⟨first, found, enough⟩ := covered item taken.line taken.open_
    have head : firstOffer (offer :: offers) item.productID = some offer := by
      unfold firstOffer
      rw [List.find?_cons_of_pos]
      simpa using ⟨taken.product.symm, taken.offered⟩
    rw [head] at found
    cases found
    have whole : toReceive = remainingQty item := taken.taken.trans (min_eq_left enough)
    have filled : item.receivedQty + toReceive = item.quantity := by
      rw [whole, remainingQty]
      ring
    simp only [takeOffer, accepted]
    refine ⟨?_, ?_, ?_⟩
    · intro line member outstanding
      obtain ⟨old, before, rfl⟩ := mem_receivedInto member
      split at outstanding
      · rename_i same
        have identical : old = item := List.inj_on_of_nodup_map ids before taken.line same
        subst identical
        simp [remainingQty, PurchaseOrderItem.receivedAs, filled] at outstanding
      · rename_i other
        rw [if_neg other]
        obtain ⟨first, found, enough⟩ := covered old before outstanding
        refine ⟨first, ?_, enough⟩
        have product : offer.productID ≠ old.productID := by
          intro same
          have identical : old = item :=
            List.inj_on_of_nodup_map distinct before taken.line (same.symm.trans taken.product.symm)
          exact other (congrArg _ identical)
        unfold firstOffer at found ⊢
        rwa [List.find?_cons_of_neg (by simp [product])] at found
    · simp [filled]
    · rintro _ _ same
      cases same
      exact whole

/-- A request that covers every open line at once fills all of them, each in one turn. -/
theorem offers_covered (ids : (state.orderItems.map PurchaseOrderItem.id).Nodup)
    (distinct : DistinctProducts state.orderItems) (covered : CoveredAtOnce state.orderItems offers) :
    Full (offers.foldl takeOffer state).orderItems ∧
      (offers.foldl takeOffer state).allReceived = state.allReceived := by
  induction offers generalizing state with
  | nil =>
    refine ⟨?_, rfl⟩
    intro line member
    by_contra short
    have outstanding : 0 < remainingQty line := by
      have := not_le.mp short
      simp only [remainingQty]
      linarith
    obtain ⟨first, found, _⟩ := covered line member outstanding
    simp [firstOffer] at found
  | cons offer offers ih =>
    have same := takeOffer_same state offer
    obtain ⟨rest, flag, _⟩ := takeOffer_covered ids distinct covered
    obtain ⟨full, flags⟩ := ih (same.ids ▸ ids) (by unfold DistinctProducts; rw [same.products]; exact distinct) rest
    exact ⟨full, flags.trans flag⟩

end Loop

end BeidarPos
