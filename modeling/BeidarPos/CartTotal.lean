import BeidarPos.Accounting
import BeidarPos.Backup
import BeidarPos.ProductsCsv

/-! The total of a cart, as the front end shows it and as the server charges it. The
front end counts in dinars and rounds to whole ones three times on the way; the server
counts in hundredths and rounds each line and the tax. -/
namespace BeidarPos

open Machine Relational Journal Tx Rounding

/-- `price` and `cost` are in hundredths; quantity and discount are what was typed. -/
structure CartItem where
  id : String
  name : String
  price : Int
  qty : ℚ
  cost : Int
  itemDiscount : ℚ

/-- `Math.round`. -/
def mathRound (x : ℚ) : Int := ⌊x + 1/2⌋

/-- The sum of the lines in dinars, before any rounding. -/
def cartSum (cart : List CartItem) : ℚ :=
  (cart.map fun item => Amount.float item.price * item.qty - item.itemDiscount).sum

namespace UseCart

variable (cart : List CartItem) (discount taxRate : ℚ)

def subtotal : Int := mathRound (cartSum cart)

/-- The discount never takes off more than the subtotal. -/
def effectiveDiscount : ℚ := min discount (subtotal cart)

def taxableTotal : ℚ := max 0 (subtotal cart - effectiveDiscount cart discount)

def vat : Int := mathRound (taxableTotal cart discount * (taxRate / 100))

def total : Int := mathRound (taxableTotal cart discount + vat cart discount taxRate)

end UseCart

/-- The rest of a sale the page sends: who, when, and how it is paid. -/
structure Checkout where
  id : String
  customerID : String
  customerName : String
  staffID : String
  staffName : String
  date : String
  timestamp : Int
  paymentMethod : PaymentMethod
  splitDetails : Option SplitDetails
  installmentPlan : Option InstallmentPlan

def CartItem.toSaleItem (item : CartItem) : SaleItem where
  id := 0
  saleID := ""
  productID := item.id
  name := item.name
  price := newAmount (Amount.float item.price)
  quantity := item.qty
  total := newAmount (Amount.float item.price * item.qty - item.itemDiscount)
  cost := newAmount (Amount.float item.cost)
  discount := newAmount item.itemDiscount
  returnedQty := 0

/-- The request of a checkout, as the server reads it. -/
def handleCheckout (form : Checkout) (cart : List CartItem) (discount taxRate : ℚ) : Sale where
  id := form.id
  customerID := form.customerID
  customerName := if form.customerName = "" then "زبون عام" else form.customerName
  staffID := form.staffID
  staffName := form.staffName
  date := form.date
  timestamp := form.timestamp
  subtotal := newAmount (UseCart.subtotal cart)
  discount := newAmount discount
  vat := newAmount (UseCart.vat cart discount taxRate)
  total := newAmount (UseCart.total cart discount taxRate)
  paymentMethod := form.paymentMethod
  status := if form.paymentMethod = .credit then .pending else .completed
  itemsCount := (cart.map CartItem.qty).sum
  splitDetails := form.splitDetails
  installmentPlan := form.installmentPlan
  note := ""
  pointsAwarded := 0
  zohoSynced := false
  items := cart.map CartItem.toSaleItem

def Store.taxRate (db : Store) : ℚ := (db.preferences.map AppPreferences.taxRate).getD 0

/-- What the server is left with in hundredths before tax. -/
def netHundredths (cart : List CartItem) (discount : ℚ) : Int :=
  (cart.map fun item => roundHalfAway (item.price * item.qty) - newAmount item.itemDiscount).sum - newAmount discount

/-- The roundings meet: the lines come to `s` dinars, the tax on what the discount leaves
of them to `v`, the two together to `t`, and what the server is left with, taxed, is
exactly these `t` dinars to the hundredth. -/
structure WholeDinars (cart : List CartItem) (discount taxRate : ℚ) (s v t : Int) : Prop where
  lines : Rounds (cartSum cart) s
  tax : Rounds ((s - discount) * (taxRate / 100)) v
  shown : Rounds (s - discount + v) t
  charged : Rounds (netHundredths cart discount * (1 + max taxRate 0 / 100)) (100 * t)

theorem mathRound_iff {x : ℚ} {n : Int} : mathRound x = n ↔ Rounds x n := floor_half_iff

theorem mathRound_nonneg {x : ℚ} (h : 0 ≤ x) : 0 ≤ mathRound x := Int.floor_nonneg.mpr (by linarith)

/-- The server's net with its tax, against a number of hundredths. -/
theorem taxed_iff {net cents : Int} {rate : ℚ} (covered : 0 < rate → 0 ≤ cents) :
    net + (if 0 < rate then Amount.percentage .exact net rate else 0) = cents ↔
      Rounds (net * (1 + max rate 0 / 100)) cents := by
  by_cases taxed : 0 < rate
  · rw [if_pos taxed, max_eq_left taxed.le]
    have split : (net : ℚ) * (1 + rate / 100) = net + net * (rate / 100) := by ring
    rw [split, rounds_add, Amount.percentage, Word.exact_wrap]
    by_cases credit : 0 ≤ net
    · have share : 0 ≤ (net : ℚ) * (rate / 100) := mul_nonneg (by exact_mod_cast credit) (by linarith)
      rw [← roundHalfAway_iff share]
      constructor <;> intro _ <;> omega
    · -- a net below zero stays below zero with its tax
      have below : (net : ℚ) ≤ -1 := by exact_mod_cast (by omega : net ≤ -1)
      have share : (net : ℚ) * (rate / 100) ≤ 0 := mul_nonpos_of_nonpos_of_nonneg (by linarith) (by linarith)
      have rounded := roundHalfAway_nonpos share
      have nonneg := covered taxed
      refine ⟨fun same => by omega, fun rounds => ?_⟩
      have low := rounds.1
      push_cast at low
      have : (0 : ℚ) ≤ cents := by exact_mod_cast nonneg
      linarith
  · rw [if_neg taxed, max_eq_right (by linarith), add_zero, zero_div, add_zero, mul_one, rounds_intCast]

theorem taxableTotal_eq {cart : List CartItem} {discount : ℚ} (bounded : discount ≤ UseCart.subtotal cart) :
    UseCart.taxableTotal cart discount = UseCart.subtotal cart - discount := by
  unfold UseCart.taxableTotal UseCart.effectiveDiscount
  rw [min_eq_left bounded, max_eq_right (by linarith)]

theorem total_nonneg {cart : List CartItem} {discount rate : ℚ} (taxed : 0 < rate) :
    0 ≤ UseCart.total cart discount rate := by
  have taxable : 0 ≤ UseCart.taxableTotal cart discount := le_max_left _ _
  have vat : 0 ≤ UseCart.vat cart discount rate := mathRound_nonneg (mul_nonneg taxable (by linarith))
  exact mathRound_nonneg (add_nonneg taxable (by exact_mod_cast vat))

/-- The amount the server charges for the request of a cart. -/
theorem checkout_total {env : Env} {db : Store} {form : Checkout} {cart : List CartItem} {discount : ℚ}
    (stocked : ∀ item ∈ cart, Available .exact db.products item.toSaleItem) :
    (pricedSale .exact env db (handleCheckout form cart discount db.taxRate)).total =
      netHundredths cart discount +
        if 0 < db.taxRate then Amount.percentage .exact (netHundredths cart discount) db.taxRate else 0 := by
  have available : ∀ item ∈ (handleCheckout form cart discount db.taxRate).items, Available .exact db.products item := by
    intro item member
    obtain ⟨source, inside, rfl⟩ := List.mem_map.mp member
    exact stocked source inside
  have lines : ((handleCheckout form cart discount db.taxRate).items.map (lineTotal .exact)).sum =
      (cart.map fun item => roundHalfAway (item.price * item.qty) - newAmount item.itemDiscount).sum := by
    rw [handleCheckout, List.map_map]
    refine congrArg List.sum (List.map_congr_left fun item _ => ?_)
    simp [CartItem.toSaleItem, lineTotal, Amount.mulFloat, newAmount_float]
  have net : (soldCart .exact db.products (handleCheckout form cart discount db.taxRate).items).total -
      (handleCheckout form cart discount db.taxRate).discount = netHundredths cart discount := by
    rw [(soldCart_exact available).2, lines]
    rfl
  rw [saleTotal_exact, net]
  have vat : (pricedSale .exact env db (handleCheckout form cart discount db.taxRate)).vat =
      if 0 < db.taxRate then Amount.percentage .exact ((soldCart .exact db.products
        (handleCheckout form cart discount db.taxRate).items).total -
          (handleCheckout form cart discount db.taxRate).discount) db.taxRate else 0 := rfl
  rw [vat, net]

theorem totals_agree_iff {env : Env} {db : Store} {form : Checkout} {cart : List CartItem} {discount : ℚ}
    (bounded : discount ≤ UseCart.subtotal cart)
    (stocked : ∀ item ∈ cart, Available .exact db.products item.toSaleItem) :
    (pricedSale .exact env db (handleCheckout form cart discount db.taxRate)).total =
        100 * UseCart.total cart discount db.taxRate ↔
      ∃ s v t, WholeDinars cart discount db.taxRate s v t := by
  have taxable := taxableTotal_eq bounded
  have lines : Rounds (cartSum cart) (UseCart.subtotal cart) := mathRound_iff.mp rfl
  have tax : Rounds ((UseCart.subtotal cart - discount) * (db.taxRate / 100)) (UseCart.vat cart discount db.taxRate) := by
    rw [← taxable]
    exact mathRound_iff.mp rfl
  have shown : Rounds (UseCart.subtotal cart - discount + UseCart.vat cart discount db.taxRate)
      (UseCart.total cart discount db.taxRate) := by
    rw [← taxable]
    exact mathRound_iff.mp rfl
  have covered : 0 < db.taxRate → 0 ≤ 100 * UseCart.total cart discount db.taxRate := by
    intro taxed
    have := @total_nonneg cart discount db.taxRate taxed
    omega
  rw [checkout_total stocked, taxed_iff covered]
  constructor
  · intro charged
    exact ⟨_, _, _, lines, tax, shown, charged⟩
  · rintro ⟨s, v, t, whole⟩
    obtain rfl : UseCart.subtotal cart = s := mathRound_iff.mpr whole.lines
    have vat : UseCart.vat cart discount db.taxRate = v := by
      rw [UseCart.vat, taxable]
      exact mathRound_iff.mpr whole.tax
    have total : UseCart.total cart discount db.taxRate = t := by
      rw [UseCart.total, taxable, vat]
      exact mathRound_iff.mpr whole.shown
    rw [total]
    exact whole.charged

/-- The common case: lines, item discounts and the discount are exact, and the subtotal
and its tax come out in whole dinars. -/
theorem WholeDinars.of_whole {cart : List CartItem} {taxRate : ℚ} {s d v : Int} (rate : 0 ≤ taxRate)
    (lines : ∀ item ∈ cart, ∃ gross off : Int, (item.price : ℚ) * item.qty = gross ∧ item.itemDiscount * 100 = off)
    (sum : cartSum cart = s) (tax : ((s - d : Int) : ℚ) * (taxRate / 100) = v) :
    WholeDinars cart d taxRate s v (s - d + v) := by
  have unrounded : ((cart.map fun item => roundHalfAway (item.price * item.qty) - newAmount item.itemDiscount).sum : ℚ) =
      100 * cartSum cart := by
    clear sum tax
    induction cart with
    | nil => simp [cartSum]
    | cons item cart ih =>
      obtain ⟨gross, off, amount, discount⟩ := lines item (by simp)
      have rest := ih fun other member => lines other (by simp [member])
      simp only [cartSum, List.map_cons, List.sum_cons, Int.cast_add, Int.cast_sub] at rest ⊢
      rw [rest, newAmount, amount, discount, roundHalfAway_intCast, roundHalfAway_intCast, Amount.float, ← amount,
        ← discount]
      ring
  have off : newAmount (d : ℚ) = d * 100 := by
    have scaled : (d : ℚ) * 100 = ((d * 100 : Int) : ℚ) := by push_cast; ring
    rw [newAmount, scaled, roundHalfAway_intCast]
  have net : netHundredths cart d = 100 * (s - d) := by
    have cast : (netHundredths cart d : ℚ) = ((100 * (s - d) : Int) : ℚ) := by
      rw [netHundredths, off, Int.cast_sub, unrounded, sum]
      push_cast
      ring
    exact_mod_cast cast
  have due : (netHundredths cart d : ℚ) * (1 + max taxRate 0 / 100) = ((100 * (s - d + v) : Int) : ℚ) := by
    rw [net, max_eq_left rate]
    push_cast at tax ⊢
    rw [← tax]
    ring
  refine ⟨?_, ?_, ?_, ?_⟩
  · rw [sum, rounds_intCast]
  · rw [← Int.cast_sub, tax, rounds_intCast]
  · rw [← Int.cast_sub, ← Int.cast_add, rounds_intCast]
  · rw [due, rounds_intCast]

section Parts

/-- Legs that make up the total of a sale are accepted in whatever order. -/
theorem recordSplit_accepts {env : Env} {sale : SaleRow} {split : SplitDetails}
    (nonneg : ∀ leg ∈ split.legs, 0 ≤ leg.2) (complete : split.total = sale.total) (db : Store) :
    (recordSplit .exact env sale split).accepts db := by
  have checks : ∀ leg ∈ (env.order 0).visit split.legs, Unfailing (checkLeg sale leg) := by
    intro leg visited
    have member := ((env.order 0).perm split.legs).mem_iff.mp visited
    have small : leg.2 ≤ sale.total := by
      rw [← complete]
      exact List.single_le_sum (fun amount inside => by
        obtain ⟨other, listed, rfl⟩ := List.mem_map.mp inside
        exact nonneg other listed) _ (List.mem_map_of_mem member)
    exact (unfailing_ensure (nonneg leg member)).bind fun _ => unfailing_ensure small
  have sum : ((env.order 1).visit split.legs).foldl (fun sum leg => Word.exact.add sum leg.2) 0 = sale.total := by
    rw [Word.exact_foldl, ← complete, Int.zero_add]
    exact (((env.order 1).perm split.legs).map Prod.snd).sum_eq
  refine (Unfailing.each checks).bind (fun _ => (unfailing_ensure sum).bind fun _ => ?_) db
  exact Unfailing.each fun leg _ => (unfailing_payment _ rfl).mapError.when

theorem checkPlan_accepts {w : Word} {sale : Sale} {plan : InstallmentPlan} (fits : w.fits sale.total)
    (planned : sale.installmentPlan = some plan) (down : 0 ≤ plan.downPayment) (nonneg : ∀ inst ∈ plan.entries, 0 ≤ inst.amount)
    (complete : plan.downPayment + (plan.entries.map Installment.amount).sum = sale.total) (db : Store) :
    (checkPlan w sale).accepts db := by
  have rest : 0 ≤ (plan.entries.map Installment.amount).sum :=
    List.sum_nonneg fun amount inside => by
      obtain ⟨inst, listed, rfl⟩ := List.mem_map.mp inside
      exact nonneg inst listed
  have bounded : plan.downPayment ≤ sale.total := by omega
  unfold checkPlan
  by_cases kind : sale.paymentMethod = .installment
  · rw [when, if_pos kind, planned]
    simp only
    rw [accepts_ensure_bind, accepts_ensure_bind]
    refine ⟨down, bounded, ?_⟩
    cases scheduled : plan.schedule with
    | none => exact ⟨(), [], db, does_pure.mpr ⟨rfl, rfl, rfl⟩⟩
    | some schedule =>
      have entries : plan.entries = schedule := by simp [InstallmentPlan.entries, scheduled]
      rw [entries] at nonneg complete rest
      have sum : schedule.foldl (fun sum inst => w.add sum inst.amount) 0 = 0 + (schedule.map Installment.amount).sum :=
        w.foldl_of_fits _ _ nonneg le_rfl (w.fits_of_le fits (by omega) (by omega))
      simp only
      rw [accepts_ensure_bind]
      refine ⟨nonneg, (), [], db, does_ensure.mpr ⟨?_, rfl, rfl⟩⟩
      rw [sum, w.sub_of_le fits down bounded]
      omega
  · exact ⟨(), [], db, does_when.mpr (.inr ⟨kind, rfl, rfl⟩)⟩

end Parts

/-- The displayed total is the charged one, and parts that sum to it are accepted. -/
structure CheckoutAgrees (env : Env) (db : Store) (form : Checkout) (cart : List CartItem) (discount : ℚ) : Prop where
  total : (pricedSale .exact env db (handleCheckout form cart discount db.taxRate)).total =
    100 * UseCart.total cart discount db.taxRate
  split : ∀ split : SplitDetails, (∀ leg ∈ split.legs, 0 ≤ leg.2) →
    split.total = 100 * UseCart.total cart discount db.taxRate → ∀ env' db', (recordSplit .exact env'
      (pricedSale .exact env db (handleCheckout form cart discount db.taxRate)).toSaleRow split).accepts db'
  plan : ∀ plan : InstallmentPlan, 0 ≤ plan.downPayment → (∀ inst ∈ plan.entries, 0 ≤ inst.amount) →
    plan.downPayment + (plan.entries.map Installment.amount).sum = 100 * UseCart.total cart discount db.taxRate →
    form.installmentPlan = some plan → ∀ db', (checkPlan .exact
      (pricedSale .exact env db (handleCheckout form cart discount db.taxRate))).accepts db'

/-- The two totals agree exactly for carts whose roundings meet. -/
theorem cart_total (env : Env) (db : Store) (form : Checkout) (cart : List CartItem) (discount : ℚ)
    (bounded : discount ≤ UseCart.subtotal cart)
    (stocked : ∀ item ∈ cart, Available .exact db.products item.toSaleItem) :
    CheckoutAgrees env db form cart discount ↔ ∃ s v t, WholeDinars cart discount db.taxRate s v t := by
  rw [← @totals_agree_iff env db form cart discount bounded stocked]
  constructor
  · exact fun agrees => agrees.total
  · intro total
    refine ⟨total, ?_, ?_⟩
    · intro split nonneg complete env' db'
      exact recordSplit_accepts nonneg (complete.trans total.symm) db'
    · intro plan down nonneg complete planned db'
      exact checkPlan_accepts trivial planned down nonneg (complete.trans total.symm) db'

section Tea

/-- Ali at Sara's counter. -/
def aliAtCounter (method : PaymentMethod) (details : Option SplitDetails) : Checkout :=
  ⟨"s1", "ali", "Ali", "sara", "Sara", "2026-01-01", 0, method, details, none⟩

def teas (qty : ℚ) : List CartItem := [⟨"tea", "Tea", 1000, qty, 600, 0⟩]

/-- Thirteen dinars, in cash and by card. -/
def thirteen : SplitDetails := ⟨[(.cash, 600), (.card, 700)], by decide⟩

theorem teas_available {qty : ℚ} (few : qty ≤ 10) : ∀ item ∈ teas qty, Available .exact shop.products item.toSaleItem := by
  intro item member
  rw [List.mem_singleton.mp member]
  refine ⟨⟨"tea", "Tea", "100", 1000, 600, 10, 0, "drinks", "", "", 0, "", none⟩, rfl, few, .inl ?_⟩
  simp [CartItem.toSaleItem, newAmount_float, Amount.abs]

end Tea

/-- Five quarters of a tea cost 12.50; the page shows 13, and 13 cannot be paid in two parts. -/
theorem cart_total_quarters : UseCart.total (teas (5/4)) 0 0 = 13 ∧
    (pricedSale .exact till shop (handleCheckout (aliAtCounter .cash none) (teas (5/4)) 0 0)).total = 1250 ∧
    (processSaleAs .exact till sara (handleCheckout (aliAtCounter .cash none) (teas (5/4)) 0 0)).accepts shop ∧
    ¬ (processSaleAs .exact till sara
      (handleCheckout (aliAtCounter .split (some thirteen)) (teas (5/4)) 0 0)).accepts shop ∧
    ¬ CheckoutAgrees till shop (aliAtCounter .cash none) (teas (5/4)) 0 := by
  have shown : UseCart.total (teas (5/4)) 0 0 = 13 := by decide +kernel
  have charged : (pricedSale .exact till shop (handleCheckout (aliAtCounter .cash none) (teas (5/4)) 0 0)).total =
    1250 := by decide +kernel
  refine ⟨shown, charged, by decide +kernel, by decide +kernel, fun agrees => ?_⟩
  have same := agrees.total
  change (pricedSale .exact till shop (handleCheckout (aliAtCounter .cash none) (teas (5/4)) 0 0)).total =
    100 * UseCart.total (teas (5/4)) 0 0 at same
  rw [shown, charged] at same
  exact absurd same (by decide)

theorem cart_total_teas : CheckoutAgrees till shop (aliAtCounter .cash none) (teas 2) 5 := by
  refine (cart_total till shop (aliAtCounter .cash none) (teas 2) 5 (by decide +kernel)
    (teas_available (by norm_num))).mpr ⟨20, 0, 15, ?_⟩
  have whole := @WholeDinars.of_whole (teas 2) 0 20 5 0 le_rfl (by
    intro item member
    rw [List.mem_singleton.mp member]
    exact ⟨2000, 0, by norm_num, by norm_num⟩) (by norm_num [teas, cartSum, Amount.float]) (by norm_num)
  exact_mod_cast whole

end BeidarPos
