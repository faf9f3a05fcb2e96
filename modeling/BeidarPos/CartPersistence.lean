import BeidarPos.Models
import BeidarPos.Runs

/-! The cart of the sales page and what of it a reload brings back. The page renders what was set,
runs its effects on what it rendered, and what the effects set is rendered next; the storage is
written by an effect, and read by the first one after the page is opened. -/
namespace BeidarPos

/-- `CartItem`: a product with what is sold of it. -/
structure CartLine where
  product : Product
  qty : ℚ
  itemDiscount : ℚ
  saleId : String
  deriving DecidableEq

/-- `Customer`. -/
structure CartCustomer where
  id : String
  name : String
  phone : String
  totalPurchases : ℚ
  debt : ℚ
  installmentDebt : ℚ
  lastVisit : String
  points : ℚ
  deriving DecidableEq

structure CartState where
  cart : List CartLine
  selectedCustomer : Option CartCustomer
  discount : ℚ
  paymentMethod : PaymentMethod
  isZenMode : Bool
  receivedAmount : ℚ
  deriving DecidableEq

def CartState.initial : CartState := ⟨[], none, 0, .cash, false, 0⟩

/-- The four keys of the cart; of the customer only the id and the name are written. -/
structure CartStorage where
  cart : Option (List CartLine)
  discount : Option ℚ
  customer : Option (String × String)
  paymentMethod : Option PaymentMethod

inductive CartAction where
  | addToCart (product : Product)
  | updateQty (id : String) (delta : ℚ)
  | setItemQuantity (id : String) (qty : ℚ)
  | removeFromCart (id : String)
  | clearCart
  | setDiscount (amount : ℚ)
  | setPaymentMethod (method : PaymentMethod)
  | setIsZenMode (isZen : Bool)
  | setSelectedCustomer (customer : Option CartCustomer)
  | setReceivedAmount (amount : ℚ)
  | setCart (change : List CartLine → List CartLine)

namespace UseCart

def addToCart (product : Product) (prev : List CartLine) : List CartLine :=
  if prev.any (fun item => item.product.id = product.id) then
    prev.map fun item => if item.product.id = product.id then { item with qty := item.qty + 1 } else item
  else prev ++ [⟨product, 1, 0, ""⟩]

/-- What is left of no line is dropped, whichever product the call was about. -/
def updateQty (id : String) (delta : ℚ) (prev : List CartLine) : List CartLine :=
  (prev.map fun item => if item.product.id = id then { item with qty := item.qty + delta } else item).filter
    fun item => 1/1000 < item.qty

def removeFromCart (id : String) (prev : List CartLine) : List CartLine := prev.filter fun item => item.product.id ≠ id

def setItemQuantity (id : String) (qty : ℚ) (prev : List CartLine) : List CartLine :=
  if qty ≤ 0 then removeFromCart id prev
  else prev.map fun item => if item.product.id = id then { item with qty } else item

end UseCart

def CartAction.apply (s : CartState) : CartAction → CartState
  | .addToCart product => { s with cart := UseCart.addToCart product s.cart }
  | .updateQty id delta => { s with cart := UseCart.updateQty id delta s.cart }
  | .setItemQuantity id qty => { s with cart := UseCart.setItemQuantity id qty s.cart }
  | .removeFromCart id => { s with cart := UseCart.removeFromCart id s.cart }
  | .clearCart =>
    { s with cart := [], discount := 0, paymentMethod := .cash, selectedCustomer := none, receivedAmount := 0 }
  | .setDiscount amount => { s with discount := amount }
  | .setPaymentMethod method => { s with paymentMethod := method }
  | .setIsZenMode isZen => { s with isZenMode := isZen }
  | .setSelectedCustomer customer => { s with selectedCustomer := customer }
  | .setReceivedAmount amount => { s with receivedAmount := amount }
  | .setCart change => { s with cart := change s.cart }

section Effects

/-- A stored customer without an id or a name is none. -/
def restoredCustomer (saved : String × String) : Option CartCustomer :=
  if saved.1 ≠ "" ∧ saved.2 ≠ "" then some ⟨saved.1, saved.2, "", 0, 0, 0, "", 0⟩ else none

/-- What the first effect sets. -/
def restoreCart (storage : CartStorage) (s : CartState) : CartState :=
  let restored := storage.cart.any fun cart => cart ≠ []
  { s with
    cart := if restored then storage.cart.getD s.cart else s.cart
    discount := if restored then storage.discount.getD s.discount else s.discount
    selectedCustomer := ((storage.customer.bind restoredCustomer).map some).getD s.selectedCustomer
    paymentMethod := storage.paymentMethod.getD s.paymentMethod
    isZenMode := false }

/-- What the second effect writes for the state it sees. -/
def saveCart (seen : CartState) (storage : CartStorage) : CartStorage :=
  if seen.cart ≠ [] then
    { cart := some seen.cart
      discount := some seen.discount
      customer := (seen.selectedCustomer.map fun customer => some (customer.id, customer.name)).getD storage.customer
      paymentMethod := some seen.paymentMethod }
  else ⟨none, none, none, none⟩

/-- What it sets besides. -/
def resetChoices (seen s : CartState) : CartState :=
  if seen.cart ≠ [] then s else { s with paymentMethod := .cash, discount := 0, isZenMode := false }

def resetReceived (seen s : CartState) : CartState :=
  if seen.cart.length = 0 then { s with receivedAmount := 0 } else s

/-- What the second effect depends on. -/
def CartState.saved (s : CartState) : List CartLine × ℚ × Option CartCustomer × PaymentMethod :=
  (s.cart, s.discount, s.selectedCustomer, s.paymentMethod)

end Effects

/-- The page: what was set, what the last render saw, whether the effects of that render are still to run,
and what the effects saw the last time, if they ran since the page was opened. -/
structure CartPage where
  state : CartState
  rendered : CartState
  pending : Bool
  seen : Option CartState
  storage : CartStorage

inductive CartStep where
  | act (action : CartAction)
  | render
  | effects (renewed : Bool)
  | reload

namespace CartPage

/-- A page just opened: it is rendered, and no effect ran. -/
def opened (storage : CartStorage) : CartPage := ⟨.initial, .initial, true, none, storage⟩

/-- Whether the second effect runs: a value it depends on changed, or is another object of the same value. -/
def Saves (renewed : Bool) (page : CartPage) : Prop :=
  page.pending = true ∧ (renewed = true ∨ page.seen.map CartState.saved ≠ some page.rendered.saved)

instance (renewed : Bool) (page : CartPage) : Decidable (page.Saves renewed) := instDecidableAnd

/-- The effects of the last render. -/
def runEffects (renewed : Bool) (page : CartPage) : CartPage :=
  let first := if page.seen = none then restoreCart page.storage page.state else page.state
  let second := if page.Saves renewed then resetChoices page.rendered first else first
  let third := if page.seen.map (·.cart.length) ≠ some page.rendered.cart.length then resetReceived page.rendered second else second
  { page with
    state := third
    pending := false
    seen := some page.rendered
    storage := if page.Saves renewed then saveCart page.rendered page.storage else page.storage }

/-- No render begins before the effects of the one before it ran. -/
def next (page : CartPage) : CartStep → CartPage
  | .act action => { page with state := action.apply page.state }
  | .render => if page.pending then page else { page with rendered := page.state, pending := true }
  | .effects renewed => if page.pending then page.runEffects renewed else page
  | .reload => opened page.storage

def run (steps : List CartStep) (page : CartPage) : CartPage := steps.foldl next page

/-- What the second effect sees in a step, if it runs. -/
def saw (page : CartPage) : CartStep → List CartState
  | .effects renewed => if page.Saves renewed then [page.rendered] else []
  | _ => []

def passes : List CartStep → CartPage → List CartState
  | [], _ => []
  | step :: rest, page => page.saw step ++ passes rest (page.next step)

/-- All that was set is rendered, and the effects saw it. -/
structure Settled (page : CartPage) : Prop where
  state : page.state = page.rendered
  pending : page.pending = false
  seen : page.seen = some page.rendered

end CartPage

def nothingStored : CartStorage := ⟨none, none, none, none⟩

/-- The customer selected last since the second effect saw an empty cart. -/
def lastCustomer (passes : List CartState) : Option CartCustomer :=
  (passes.reverse.takeWhile fun seen => seen.cart ≠ []).findSome? CartState.selectedCustomer

section Runs

variable {page : CartPage} {steps : List CartStep}

theorem passes_snoc (front : List CartStep) (step : CartStep) (page : CartPage) :
    page.passes (front ++ [step]) = page.passes front ++ (page.run front).saw step := by
  induction front generalizing page with
  | nil => simp [CartPage.passes, CartPage.run]
  | cons first rest ih =>
    rw [List.cons_append, CartPage.passes, ih, CartPage.passes, List.append_assoc]
    rfl

/-- What the second effect leaves in the storage, seeing these states one after the other. -/
def stored (passes : List CartState) (storage : CartStorage) : CartStorage :=
  passes.foldl (fun storage seen => saveCart seen storage) storage

theorem next_storage (page : CartPage) (step : CartStep) : (page.next step).storage = stored (page.saw step) page.storage := by
  cases step with
  | act action => rfl
  | render =>
    simp only [CartPage.next]
    split <;> rfl
  | reload => rfl
  | effects renewed =>
    simp only [CartPage.next, CartPage.saw]
    split
    · simp only [CartPage.runEffects]
      split <;> rfl
    · rename_i idle
      rw [if_neg fun saves => idle saves.1]
      rfl

theorem run_storage (steps : List CartStep) (page : CartPage) :
    (page.run steps).storage = stored (page.passes steps) page.storage := by
  induction steps using List.reverseRecOn with
  | nil => rfl
  | append_singleton front step ih =>
    rw [CartPage.run, Runs.foldl_snoc, next_storage, passes_snoc, ← CartPage.run, ih, stored, stored, stored, List.foldl_append]

/-- What the effects saw last was saved. -/
theorem next_seen (page : CartPage) (step : CartStep) {seen : CartState} (after : (page.next step).seen = some seen) :
    ((page.saw step).getLast?.map CartState.saved = some seen.saved) ∨
      page.saw step = [] ∧ page.seen.map CartState.saved = some seen.saved := by
  cases step with
  | act action => exact .inr ⟨rfl, congrArg (Option.map CartState.saved) after⟩
  | reload => simp [CartPage.next, CartPage.opened] at after
  | render =>
    simp only [CartPage.next] at after
    split at after <;> exact .inr ⟨rfl, congrArg (Option.map CartState.saved) after⟩
  | effects renewed =>
    simp only [CartPage.next, CartPage.saw] at after ⊢
    by_cases saves : page.Saves renewed
    · rw [if_pos saves.1] at after
      rw [if_pos saves]
      exact .inl (congrArg (Option.map CartState.saved) after)
    · rw [if_neg saves]
      refine .inr ⟨rfl, ?_⟩
      split at after
      · rename_i pending
        have same : page.seen.map CartState.saved = some page.rendered.saved := by
          by_contra changed
          exact saves ⟨pending, .inr changed⟩
        rw [same, ← Option.some.inj after]
      · exact congrArg (Option.map CartState.saved) after

theorem run_seen (steps : List CartStep) (unseen : page.seen = none) {seen : CartState}
    (after : (page.run steps).seen = some seen) :
    (page.passes steps).getLast?.map CartState.saved = some seen.saved := by
  induction steps using List.reverseRecOn generalizing seen with
  | nil => simp [CartPage.run, unseen] at after
  | append_singleton front step ih =>
    rw [CartPage.run, Runs.foldl_snoc, ← CartPage.run] at after
    rw [passes_snoc]
    rcases next_seen _ step after with now | ⟨nothing, before⟩
    · obtain ⟨last, found, same⟩ := Option.map_eq_some_iff.mp now
      rw [List.getLast?_append, found]
      exact congrArg some same
    · obtain ⟨last, found, same⟩ := Option.map_eq_some_iff.mp before
      rw [nothing, List.append_nil, ih found, same]

theorem stored_last {passes : List CartState} {last : CartState} (found : passes.getLast? = some last) :
    (stored passes nothingStored).cart = if last.cart ≠ [] then some last.cart else none := by
  obtain ⟨front, rfl⟩ := List.getLast?_eq_some_iff.mp found
  rw [stored, Runs.foldl_snoc, saveCart]
  split <;> rfl

theorem stored_customer (passes : List CartState) : (stored passes nothingStored).customer =
    (lastCustomer passes).map fun customer => (customer.id, customer.name) := by
  induction passes using List.reverseRecOn with
  | nil => rfl
  | append_singleton front seen ih =>
    rw [stored, Runs.foldl_snoc, saveCart, lastCustomer, List.reverse_append]
    by_cases cart : seen.cart ≠ []
    · rw [if_pos cart, List.reverse_singleton, List.singleton_append, List.takeWhile_cons_of_pos (by simpa using cart),
        List.findSome?_cons]
      cases seen.selectedCustomer with
      | none => exact ih
      | some customer => rfl
    · rw [if_neg cart, List.reverse_singleton, List.singleton_append, List.takeWhile_cons_of_neg (by simpa using cart)]
      rfl

end Runs

/-- A reload, until the page stands still. -/
def reloading (first second : Bool) : List CartStep := [.reload, .effects first, .render, .effects second]

/-- The state a reload ends in: no discount and no payment method is among what comes back. -/
def CartState.restored (cart : List CartLine) (customer : Option CartCustomer) : CartState :=
  { CartState.initial with cart, selectedCustomer := customer }

/-- What the first effects set on a page just opened: the second one takes back the discount and the method. -/
theorem opened_effects (storage : CartStorage) (renewed : Bool) :
    ((CartPage.opened storage).next (.effects renewed)).state =
      CartState.restored (storage.cart.getD []) (storage.customer.bind restoredCustomer) := by
  have saves : (CartPage.opened storage).Saves renewed := ⟨rfl, .inr (by simp [CartPage.opened])⟩
  have lengths : (CartPage.opened storage).seen.map (·.cart.length) ≠
      some (CartPage.opened storage).rendered.cart.length := by simp [CartPage.opened]
  have choices (s : CartState) : resetReceived CartState.initial (resetChoices CartState.initial s) =
      CartState.restored s.cart s.selectedCustomer := rfl
  change (CartPage.runEffects renewed (CartPage.opened storage)).state = _
  simp only [CartPage.runEffects, if_pos saves, if_pos lengths]
  rw [show (CartPage.opened storage).rendered = CartState.initial from rfl, choices,
    if_pos (show (CartPage.opened storage).seen = none from rfl)]
  rcases storage with ⟨cart, discount, customer, method⟩
  congr 1
  · cases cart with
    | none => rfl
    | some lines => cases lines <;> rfl
  · change ((customer.bind restoredCustomer).map some).getD none = _
    cases customer.bind restoredCustomer <;> rfl

/-- Effects that see such a state set nothing. -/
theorem restored_settles {page : CartPage} {cart : List CartLine} {customer : Option CartCustomer} (renewed : Bool)
    (pending : page.pending = true) (mounted : page.seen ≠ none) (same : page.state = page.rendered)
    (restored : page.rendered = CartState.restored cart customer) : (page.next (.effects renewed)).Settled := by
  have choices : resetChoices page.rendered page.rendered = page.rendered := by
    rw [restored, resetChoices]
    split <;> rfl
  have received : resetReceived page.rendered page.rendered = page.rendered := by
    rw [restored, resetReceived]
    split <;> rfl
  have effects : page.next (.effects renewed) = page.runEffects renewed := if_pos pending
  rw [effects]
  refine ⟨?_, rfl, rfl⟩
  simp only [CartPage.runEffects, if_neg mounted, same, choices, ite_self, received]

theorem opened_settles (storage : CartStorage) (first second : Bool) :
    ((CartPage.opened storage).run [.effects first, .render, .effects second]).Settled ∧
    ((CartPage.opened storage).run [.effects first, .render, .effects second]).rendered =
      CartState.restored (storage.cart.getD []) (storage.customer.bind restoredCustomer) := by
  have set := opened_effects storage first
  change (((((CartPage.opened storage).next (.effects first)).next .render).next (.effects second)).Settled) ∧
    ((((CartPage.opened storage).next (.effects first)).next .render).next (.effects second)).rendered = _
  refine ⟨restored_settles second rfl (by simp [CartPage.next, CartPage.runEffects, CartPage.opened]) rfl set, ?_⟩
  exact set

/-- The page after these steps, opened when nothing was stored yet. -/
def CartPage.used (steps : List CartStep) : CartPage := (CartPage.opened nothingStored).run steps

/-- What the second effect saw in them. -/
def CartPage.savings (steps : List CartStep) : List CartState := (CartPage.opened nothingStored).passes steps

variable {steps : List CartStep}

theorem last_saving (settled : (CartPage.used steps).Settled) : ∃ seen, (CartPage.savings steps).getLast? = some seen ∧
    seen.cart = (CartPage.used steps).state.cart ∧ seen.selectedCustomer = (CartPage.used steps).state.selectedCustomer := by
  have last := run_seen steps (show (CartPage.opened nothingStored).seen = none from rfl) settled.seen
  obtain ⟨seen, found, same⟩ := Option.map_eq_some_iff.mp last
  refine ⟨seen, found, ?_, ?_⟩
  · rw [settled.state]
    exact congrArg Prod.fst same
  · rw [settled.state]
    exact congrArg (fun saved => saved.2.2.1) same

/-- What a page that stands still has in its storage. -/
theorem settled_storage (settled : (CartPage.used steps).Settled) :
    (CartPage.used steps).storage.cart.getD [] = (CartPage.used steps).state.cart ∧
    (CartPage.used steps).storage.customer =
      (lastCustomer (CartPage.savings steps)).map fun customer => (customer.id, customer.name) := by
  obtain ⟨seen, found, cart, _⟩ := last_saving settled
  have storage : (CartPage.used steps).storage = stored (CartPage.savings steps) nothingStored := run_storage steps _
  rw [storage]
  refine ⟨?_, stored_customer _⟩
  rw [stored_last found, ← cart]
  split
  · rfl
  · rename_i empty
    exact (not_not.mp empty).symm

theorem used_reloading (steps : List CartStep) (first second : Bool) : CartPage.used (steps ++ reloading first second) =
    (CartPage.opened (CartPage.used steps).storage).run [.effects first, .render, .effects second] := by
  rw [CartPage.used, CartPage.run, List.foldl_append]
  rfl

theorem reloaded_state (settled : (CartPage.used steps).Settled) (first second : Bool) :
    (CartPage.used (steps ++ reloading first second)).Settled ∧
    (CartPage.used (steps ++ reloading first second)).state = CartState.restored (CartPage.used steps).state.cart
      ((lastCustomer (CartPage.savings steps)).bind fun customer => restoredCustomer (customer.id, customer.name)) := by
  obtain ⟨cart, customer⟩ := settled_storage settled
  obtain ⟨calm, rendered⟩ := opened_settles (CartPage.used steps).storage first second
  rw [used_reloading]
  refine ⟨calm, ?_⟩
  rw [calm.state, rendered, cart, customer, Option.bind_map]
  rfl

/-- A tea for a customer, with a discount and by card; then no customer. -/
def teaForNobody : List CartStep :=
  [.effects false, .act (.addToCart ⟨"tea", "Tea", "100", 300, 200, 5, 1, "drinks", "", "", 0, "", none⟩),
    .act (.setDiscount 50), .act (.setPaymentMethod .card),
    .act (.setSelectedCustomer (some ⟨"c1", "Ali", "0770", 10, 5, 0, "2026-01-01", 3⟩)), .render, .effects false,
    .act (.setSelectedCustomer none), .render, .effects false]

theorem teaForNobody_settled : (CartPage.used teaForNobody).Settled :=
  ⟨by decide +kernel, by decide +kernel, by decide +kernel⟩

/-- The id and the name of the customer. -/
def CartState.customerKey (s : CartState) : Option (String × String) :=
  s.selectedCustomer.map fun customer => (customer.id, customer.name)

/-- A customer whose name and id are not empty. -/
def CartCustomer.Named (customer : CartCustomer) : Prop := customer.id ≠ "" ∧ customer.name ≠ ""

instance (customer : CartCustomer) : Decidable customer.Named := instDecidableAnd

theorem restored_key (customer : Option CartCustomer) :
    ((customer.bind fun c => restoredCustomer (c.id, c.name)).map fun c => (c.id, c.name)) =
      (customer.filter fun c => c.Named).map fun c => (c.id, c.name) := by
  cases customer with
  | none => rfl
  | some c =>
    by_cases named : c.Named
    · rw [Option.bind_some, restoredCustomer, if_pos (c := (c.id, c.name).1 ≠ "" ∧ (c.id, c.name).2 ≠ "") named,
        Option.filter_some, if_pos (decide_eq_true named)]
      rfl
    · rw [Option.bind_some, restoredCustomer, if_neg (c := (c.id, c.name).1 ≠ "" ∧ (c.id, c.name).2 ≠ "") named,
        Option.filter_some, if_neg (by simpa using named)]

theorem lastCustomer_last {passes : List CartState} {last : CartState} (found : passes.getLast? = some last) :
    (last.cart = [] → lastCustomer passes = none) ∧
    ∀ customer, last.cart ≠ [] → last.selectedCustomer = some customer → lastCustomer passes = some customer := by
  obtain ⟨front, rfl⟩ := List.getLast?_eq_some_iff.mp found
  rw [lastCustomer, List.reverse_append, List.reverse_singleton, List.singleton_append]
  constructor
  · intro empty
    rw [List.takeWhile_cons_of_neg (by simpa using empty)]
    rfl
  · intro customer cart selected
    rw [List.takeWhile_cons_of_pos (by simpa using cart), List.findSome?_cons, selected]

/-- The customer is the same after a reload exactly if one is selected who has a name and the cart is not empty, or
none is selected and none who has a name was selected since the cart was empty. -/
theorem customer_reloaded_iff (settled : (CartPage.used steps).Settled) (first second : Bool) :
    (CartPage.used (steps ++ reloading first second)).state.customerKey = (CartPage.used steps).state.customerKey ↔
      ((∃ customer, (CartPage.used steps).state.selectedCustomer = some customer ∧ customer.Named) ∧
        (CartPage.used steps).state.cart ≠ []) ∨
      (CartPage.used steps).state.selectedCustomer = none ∧
        ∀ customer, lastCustomer (CartPage.savings steps) = some customer → ¬customer.Named := by
  obtain ⟨seen, found, cart, selected⟩ := last_saving settled
  obtain ⟨emptied, kept⟩ := lastCustomer_last found
  rw [(reloaded_state settled first second).2, CartState.customerKey, CartState.customerKey]
  change (Option.map _ (Option.bind _ _)) = _ ↔ _
  rw [restored_key, ← cart, ← selected]
  cases now : seen.selectedCustomer with
  | none =>
    rw [Option.map_none, Option.map_eq_none_iff, Option.filter_eq_none_iff]
    simp
  | some customer =>
    by_cases empty : seen.cart = []
    · simp [emptied empty, empty]
    · rw [kept customer empty now, Option.filter_some]
      by_cases named : customer.Named
      · rw [if_pos (decide_eq_true named)]
        simp [named, empty]
      · rw [if_neg (by simpa using named)]
        simp [named]

theorem customer_reloaded_iff_tea :
    ¬(CartPage.used (teaForNobody ++ reloading false false)).state.customerKey = (CartPage.used teaForNobody).state.customerKey := by
  rw [customer_reloaded_iff teaForNobody_settled]
  decide +kernel

section Lines

/-- A line for each product at most, and something of it on every line. -/
structure SoundLines (cart : List CartLine) : Prop where
  distinct : (cart.map fun item => item.product.id).Nodup
  positive : ∀ item ∈ cart, 0 < item.qty

variable {cart : List CartLine}

theorem SoundLines.nil : SoundLines [] := ⟨List.nodup_nil, fun _ member => absurd member List.not_mem_nil⟩

theorem SoundLines.filter (sound : SoundLines cart) (keep : CartLine → Bool) : SoundLines (cart.filter keep) where
  distinct := sound.distinct.sublist (List.filter_sublist.map _)
  positive item member := sound.positive item (List.mem_of_mem_filter member)

/-- The quantities change, the products stay. -/
theorem map_products {change : CartLine → CartLine} (same : ∀ item, (change item).product = item.product) :
    (cart.map change).map (fun item => item.product.id) = cart.map fun item => item.product.id := by
  rw [List.map_map]
  exact List.map_congr_left fun item _ => congrArg Product.id (same item)

theorem addToCart_sound (product : Product) (sound : SoundLines cart) : SoundLines (UseCart.addToCart product cart) := by
  unfold UseCart.addToCart
  split
  · constructor
    · rw [map_products fun item => by split <;> rfl]
      exact sound.distinct
    · intro item member
      obtain ⟨before, listed, rfl⟩ := List.mem_map.mp member
      have positive := sound.positive before listed
      split
      · exact add_pos positive one_pos
      · exact positive
  · rename_i absent
    constructor
    · rw [List.map_append, List.map_singleton, List.nodup_append]
      refine ⟨sound.distinct, List.nodup_singleton _, fun id member other added => ?_⟩
      obtain ⟨item, listed, rfl⟩ := List.mem_map.mp member
      rw [List.mem_singleton.mp added]
      exact fun same => absent (List.any_eq_true.mpr ⟨item, listed, decide_eq_true same⟩)
    · intro item member
      rcases List.mem_append.mp member with listed | added
      · exact sound.positive item listed
      · rw [List.mem_singleton.mp added]
        exact one_pos

theorem updateQty_sound (id : String) (delta : ℚ) (sound : SoundLines cart) : SoundLines (UseCart.updateQty id delta cart) where
  distinct := by
    refine List.Nodup.sublist (List.filter_sublist.map _) ?_
    rw [map_products fun item => by split <;> rfl]
    exact sound.distinct
  positive item member := by
    have left := of_decide_eq_true (List.mem_filter.mp member).2
    exact lt_trans (by norm_num) left

theorem setItemQuantity_sound (id : String) (qty : ℚ) (sound : SoundLines cart) :
    SoundLines (UseCart.setItemQuantity id qty cart) := by
  unfold UseCart.setItemQuantity
  split
  · exact sound.filter _
  · rename_i positive
    constructor
    · rw [map_products fun item => by split <;> rfl]
      exact sound.distinct
    · intro item member
      obtain ⟨before, listed, rfl⟩ := List.mem_map.mp member
      split
      · exact not_le.mp positive
      · exact sound.positive before listed

/-- The action takes sound lines to sound ones. -/
def CartAction.KeepsSound : CartAction → Prop
  | .setCart change => ∀ cart, SoundLines cart → SoundLines (change cart)
  | _ => True

theorem apply_sound {s : CartState} {action : CartAction} (sound : SoundLines s.cart) (keeps : action.KeepsSound) :
    SoundLines (action.apply s).cart := by
  cases action with
  | addToCart product => exact addToCart_sound product sound
  | updateQty id delta => exact updateQty_sound id delta sound
  | setItemQuantity id qty => exact setItemQuantity_sound id qty sound
  | removeFromCart id => exact sound.filter _
  | clearCart => exact .nil
  | setCart change => exact keeps s.cart sound
  | setDiscount | setPaymentMethod | setIsZenMode | setSelectedCustomer | setReceivedAmount => exact sound

/-- Sound are the lines that are set, those rendered and those stored. -/
structure CartPage.SoundPage (page : CartPage) : Prop where
  state : SoundLines page.state.cart
  rendered : SoundLines page.rendered.cart
  storage : ∀ cart, page.storage.cart = some cart → SoundLines cart

theorem opened_sound {storage : CartStorage} (sound : ∀ cart, storage.cart = some cart → SoundLines cart) :
    (CartPage.opened storage).SoundPage := ⟨.nil, .nil, sound⟩

theorem runEffects_cart (renewed : Bool) (page : CartPage) :
    (page.runEffects renewed).state.cart = page.state.cart ∨
      page.storage.cart = some (page.runEffects renewed).state.cart := by
  have choices (seen s : CartState) : (resetChoices seen s).cart = s.cart := by
    unfold resetChoices
    split <;> rfl
  have received (seen s : CartState) : (resetReceived seen s).cart = s.cart := by
    unfold resetReceived
    split <;> rfl
  have first : (page.runEffects renewed).state.cart =
      (if page.seen = none then restoreCart page.storage page.state else page.state).cart := by
    unfold CartPage.runEffects
    simp only [apply_ite CartState.cart, received, choices, ite_self]
  rw [first]
  split
  · rw [restoreCart]
    cases stored : page.storage.cart with
    | none => exact .inl rfl
    | some lines => cases lines <;> simp
  · exact .inl rfl

theorem next_sound {page : CartPage} {step : CartStep} (sound : page.SoundPage)
    (keeps : ∀ action, step = .act action → action.KeepsSound) : (page.next step).SoundPage := by
  cases step with
  | act action => exact ⟨apply_sound sound.state (keeps action rfl), sound.rendered, sound.storage⟩
  | render =>
    unfold CartPage.next
    dsimp only
    split
    · exact sound
    · exact ⟨sound.state, sound.state, sound.storage⟩
  | reload => exact opened_sound sound.storage
  | effects renewed =>
    simp only [CartPage.next]
    split
    · refine ⟨?_, sound.rendered, fun cart found => ?_⟩
      · rcases runEffects_cart renewed page with same | restored
        · rw [same]
          exact sound.state
        · exact sound.storage _ restored
      · change (if page.Saves renewed then saveCart page.rendered page.storage else page.storage).cart = some cart at found
        split at found
        · unfold saveCart at found
          split at found
          · exact Option.some.inj found ▸ sound.rendered
          · exact absurd found (by simp)
        · exact sound.storage cart found
    · exact sound

/-- Through every use of the page and every reload, no product has two lines and none has nothing on it, as long
as what is set as a whole is so. -/
theorem cart_lines_sound (keeps : ∀ action, CartStep.act action ∈ steps → action.KeepsSound) :
    SoundLines (CartPage.used steps).state.cart := by
  have sound : (CartPage.used steps).SoundPage := by
    induction steps using List.reverseRecOn with
    | nil => exact opened_sound (fun _ found => absurd found (by simp [nothingStored]))
    | append_singleton front step ih =>
      rw [CartPage.used, CartPage.run, Runs.foldl_snoc]
      exact next_sound (ih fun action member => keeps action (List.mem_append_left _ member))
        fun action same => keeps action (by simp [same])
  exact sound.state

theorem cart_lines_sound_tea : SoundLines (CartPage.used (teaForNobody ++ reloading false true)).state.cart :=
  cart_lines_sound fun action member => by
    simp only [teaForNobody, reloading, List.cons_append, List.nil_append, List.mem_cons, CartStep.act.injEq,
      List.not_mem_nil, or_false, reduceCtorEq, false_or] at member
    rcases member with rfl | rfl | rfl | rfl | rfl <;> trivial

end Lines

end BeidarPos
