import BeidarPos.CartTotal
import BeidarPos.ReturnsPossible

/-! The installment plan the server calculates: equal months on a step of 250 dinars where
that leaves something, and the rest in the last one. -/
namespace BeidarPos

open Machine Relational Journal Tx

/-- `RoundToNearest`, which rounds down. -/
def Amount.roundToNearest (w : Word) (a unit : Int) : Int :=
  if unit ≤ 0 then a
  else if a < 0 then w.mul (w.quot (w.add (w.sub a unit) 1) unit) unit
  else w.mul (w.quot a unit) unit

/-- The amount of a month before the last one. -/
def roundedBase (w : Word) (remaining months : Int) : Int :=
  let rawPerMonth := w.quot remaining months
  let rounded := Amount.roundToNearest w rawPerMonth 25000
  if rounded ≤ 0 then rawPerMonth else rounded

/-- Entry `i` of the schedule, counted from nought; the last one takes what is left. -/
def scheduledEntry (w : Word) (dueDate : Nat → String) (remaining base months : Int) (i : Nat) : Installment where
  number := i + 1
  dueDate := dueDate i
  amount := if (i : Int) = w.sub months 1 then w.sub remaining (w.mul base (w.sub months 1)) else base
  status := .pending
  paidAt := 0

/-- `today` and `dueDate` are what the clock gives, `dueDate i` for the date `i + 1` months on. -/
def calculateInstallmentPlan (w : Word) (today : String) (dueDate : Nat → String) (total downPayment months : Int) :
    Except Failure InstallmentPlan :=
  if months ≤ 0 then .error (.plain (.plain "عدد الأشهر يجب أن يكون أكبر من صفر"))
  else if total < downPayment then .error (.plain (.plain "الدفعة المقدمة أكبر من الإجمالي"))
  else
    let remaining := w.sub total downPayment
    if remaining ≤ 0 then .error (AppError.texts .payment "NO_INSTALLMENT_NEEDED"
      (.plain "الدفعة الأولى تساوي إجمالي الفاتورة ولا حاجة لتقسيط")
      "ادفع الفاتورة كاملة أو قلل الدفعة الأولى" "installment")
    else if roundedBase w remaining months ≤ 0 then .error (AppError.texts .payment "INSTALLMENT_BELOW_MINIMUM"
      (.plain "مبلغ القسط أقل من الحد الأدنى") "قلل عدد الأشهر أو ادفع الفاتورة كاملة" "installment")
    else .ok {
      totalAmount := total
      downPayment := downPayment
      months := months
      startDate := today
      schedule := some ((List.range months.toNat).map
        (scheduledEntry w dueDate remaining (roundedBase w remaining months) months)) }

section Amounts

variable {w : Word} {remaining months : Int}

/-- The base is what a month could bear, cut down to the step when that leaves something. -/
theorem roundedBase_bounds (fits : w.fits remaining) (nonneg : 0 ≤ remaining) (positive : 0 < months) :
    (0 < roundedBase w remaining months ↔ months ≤ remaining) ∧ 0 ≤ roundedBase w remaining months ∧
      roundedBase w remaining months * months ≤ remaining := by
  have raw : w.quot remaining months = remaining / months := by
    rw [w.quot_of_nonneg fits nonneg positive.le]
    exact Int.tdiv_eq_ediv_of_nonneg nonneg
  have low : 0 ≤ remaining / months := Int.ediv_nonneg nonneg positive.le
  have share : remaining / months * months ≤ remaining := Int.ediv_mul_le _ positive.ne'
  have some_left : 0 < remaining / months ↔ months ≤ remaining := by
    rw [Int.lt_iff_add_one_le, Int.zero_add, Int.le_ediv_iff_mul_le positive, Int.one_mul]
  have fitting : w.fits (remaining / months) := w.fits_of_le fits low (Int.ediv_le_self _ nonneg)
  have step : Amount.roundToNearest w (remaining / months) 25000 = remaining / months / 25000 * 25000 := by
    have cut : remaining / months / 25000 * 25000 ≤ remaining / months := Int.ediv_mul_le _ (by decide)
    have floor : 0 ≤ remaining / months / 25000 := Int.ediv_nonneg low (by decide)
    unfold Amount.roundToNearest
    rw [if_neg (by decide), if_neg (not_lt.mpr low), w.quot_of_nonneg fitting low (by decide),
      Int.tdiv_eq_ediv_of_nonneg low]
    exact w.wrap_of_fits _ (w.fits_of_le fitting (by omega) cut)
  have cut : remaining / months / 25000 * 25000 ≤ remaining / months := Int.ediv_mul_le _ (by decide)
  have smaller := Int.mul_le_mul_of_nonneg_right cut positive.le
  unfold roundedBase
  simp only [raw, step]
  split
  · exact ⟨some_left, low, share⟩
  · rename_i rounded
    refine ⟨⟨fun _ => some_left.mp (by omega), fun _ => not_le.mp rounded⟩, by omega, smaller.trans share⟩

/-- The amounts of the schedule. -/
theorem scheduled_amounts (dueDate : Nat → String) (fits : w.fits remaining) (size : w.fits months)
    (positive : 0 < months) {base : Int} (low : 0 ≤ base) (within : base * months ≤ remaining) :
    ((List.range months.toNat).map (scheduledEntry w dueDate remaining base months)).map Installment.amount =
      List.replicate (months.toNat - 1) base ++ [remaining - base * (months - 1)] := by
  have before : w.sub months 1 = months - 1 := w.sub_of_le size (by decide) (by omega)
  have parts : base * months = base * (months - 1) + base := by rw [Int.mul_sub]; omega
  have taken : 0 ≤ base * (months - 1) := Int.mul_nonneg low (by omega)
  have product : w.mul base (months - 1) = base * (months - 1) :=
    w.wrap_of_fits _ (w.fits_of_le fits taken (by omega))
  have rest : w.sub remaining (base * (months - 1)) = remaining - base * (months - 1) :=
    w.sub_of_le fits taken (by omega)
  obtain ⟨k, count⟩ : ∃ k : Nat, months = k + 1 := ⟨(months - 1).toNat, by omega⟩
  have length : months.toNat = k + 1 := by omega
  rw [length, List.range_succ, List.map_map, List.map_append, List.map_singleton, Nat.add_sub_cancel]
  congr 1
  · rw [← List.length_range (n := k), ← List.map_const, List.length_range]
    refine List.map_congr_left fun i member => ?_
    have early : ¬ (i : Int) = w.sub months 1 := by
      have := List.mem_range.mp member
      omega
    exact if_neg early
  · have last : (k : Int) = months - 1 := by omega
    simp only [Function.comp_apply, scheduledEntry, before, if_pos last, product, rest]

end Amounts

/-- A plan that adds up: as many entries as months, numbered from one, with positive
amounts that make up what is financed, all but the last one equal and the last no smaller. -/
structure AddsUp (total financed months : Int) (plan : InstallmentPlan) : Prop where
  whole : plan.totalAmount = total ∧ plan.downPayment = total - financed ∧ plan.months = months
  scheduled : plan.schedule.isSome
  length : (plan.entries.length : Int) = months
  numbers : ∀ i (h : i < plan.entries.length), plan.entries[i].number = i + 1
  positive : ∀ inst ∈ plan.entries, 0 < inst.amount
  sum : (plan.entries.map Installment.amount).sum = financed
  equal : ∃ base last, plan.entries.map Installment.amount = List.replicate (months.toNat - 1) base ++ [last] ∧ base ≤ last

section Plans

variable {w : Word} {today : String} {dueDate : Nat → String} {total downPayment months : Int} {plan : InstallmentPlan}

/-- A plan is calculated when every month gets something to pay. -/
theorem calculateInstallmentPlan_ok (fits : w.fits total) (low : 0 ≤ downPayment) :
    (∃ plan, calculateInstallmentPlan w today dueDate total downPayment months = .ok plan) ↔
      0 < months ∧ downPayment < total ∧ months ≤ total - downPayment := by
  unfold calculateInstallmentPlan
  split
  · simp only [reduceCtorEq, exists_false, false_iff]
    omega
  · split
    · simp only [reduceCtorEq, exists_false, false_iff]
      omega
    · have financed : w.sub total downPayment = total - downPayment := w.sub_of_le fits low (by omega)
      have remains : w.fits (total - downPayment) := w.fits_of_le fits (by omega) (by omega)
      have base := (@roundedBase_bounds w (total - downPayment) months remains (by omega) (by omega)).1
      simp only [financed]
      split
      · simp only [reduceCtorEq, exists_false, false_iff]
        omega
      · split
        · simp only [reduceCtorEq, exists_false, false_iff]
          omega
        · simp only [Except.ok.injEq, exists_eq', true_iff]
          omega

theorem calculateInstallmentPlan_addsUp (fits : w.fits total) (size : w.fits months) (low : 0 ≤ downPayment)
    (calculated : calculateInstallmentPlan w today dueDate total downPayment months = .ok plan) :
    AddsUp total (total - downPayment) months plan := by
  obtain ⟨positive, less, enough⟩ := (calculateInstallmentPlan_ok fits low).mp ⟨plan, calculated⟩
  have financed : w.sub total downPayment = total - downPayment := w.sub_of_le fits low less.le
  have remains : w.fits (total - downPayment) := w.fits_of_le fits (by omega) (by omega)
  obtain ⟨above, nonneg, within⟩ := @roundedBase_bounds w (total - downPayment) months remains (by omega) positive
  have base := above.mpr enough
  have amounts := scheduled_amounts dueDate remains size positive nonneg within
  unfold calculateInstallmentPlan at calculated
  simp only [financed] at calculated
  rw [if_neg (by omega), if_neg (by omega), if_neg (by omega), if_neg (by omega)] at calculated
  cases calculated
  have parts : roundedBase w (total - downPayment) months * months =
      roundedBase w (total - downPayment) months * (months - 1) + roundedBase w (total - downPayment) months := by
    rw [Int.mul_sub]
    omega
  refine ⟨⟨rfl, by simp, rfl⟩, rfl, ?_, ?_, ?_, ?_, _, _, amounts, by omega⟩
  · simp only [InstallmentPlan.entries, Option.getD_some, List.length_map, List.length_range]
    omega
  · intro i h
    simp [InstallmentPlan.entries, scheduledEntry]
  · intro inst member
    have listed : inst.amount ∈ List.replicate (months.toNat - 1) (roundedBase w (total - downPayment) months) ++
        [total - downPayment - roundedBase w (total - downPayment) months * (months - 1)] := by
      rw [← amounts]
      exact List.mem_map_of_mem member
    rcases List.mem_append.mp listed with early | last
    · rw [List.eq_of_mem_replicate early]
      exact base
    · rw [List.mem_singleton.mp last]
      omega
  · have length : ((months.toNat - 1 : ℕ) : Int) = months - 1 := by omega
    change (List.map Installment.amount (List.map _ _)).sum = _
    rw [amounts, List.sum_append, List.sum_replicate, List.sum_singleton, nsmul_eq_mul, length, mul_comm]
    omega

end Plans

section Acceptance

variable {w : Word} {env : Env} {db final : Store}

theorem recordSingle_unfailing (w : Word) (env : Env) (sale : SaleRow) : Unfailing (recordSingle w env sale) :=
  Unfailing.bind (unfailing_payment _ rfl).mapError.when fun _ => (unfailing_payment _ rfl).mapError.when

theorem chargeCustomer_accepts (sale : SaleRow) : (chargeCustomer w env sale).accepts db ↔
    (sale.customerID ≠ "" → ∃ c, db.customers.find? sale.customerID = some c) := by
  constructor
  · rintro ⟨u, ws, final, h⟩
    exact (chargeCustomer_does h).2
  · intro known
    by_cases named : sale.customerID = ""
    · exact ⟨(), [], db, does_when.mpr (.inr ⟨not_not.mpr named, rfl, rfl⟩)⟩
    · obtain ⟨c, found⟩ := known named
      rw [chargeCustomer, when, if_pos named, accepts_ask_bind, accepts_require_bind]
      exact ⟨c, found, unfailing_customer _ rfl db⟩

/-- The last writes of a sale need the open shift, if anything. -/
theorem closing_accepts (need : Bool) (sale : Sale) :
    (mapError (.wrapped (.message "SALE_PROCESS_FAILED" [.text ""]))
        (write (.updateShiftSales sale.total (saleCash sale.toSaleRow) true need)) >>= fun _ =>
      when (0 < sale.discount) (write (.log (discountLog sale.toSaleRow)) : DbTx Unit)).accepts db ↔
    (need = true → db.openShiftID.isSome) := by
  have logged : Unfailing (when (0 < sale.discount) (write (.log (discountLog sale.toSaleRow)) : DbTx Unit)) :=
    (unfailing_write fun db => ⟨_, rfl⟩).when
  rw [accepts_wrapped_bind]
  cases opened : db.openShiftID with
  | none => cases need <;> simp [Write.apply, Store.updateShiftSales, opened, logged _]
  | some id => simp [Write.apply, Store.updateShiftSales, opened, logged _]

/-- An installment sale is stored when it is new, its customer is known and a shift is
open if one is required; its plan does not matter. -/
theorem commitSale_accepts {need : Bool} {sale : Sale} (kind : sale.paymentMethod = .installment) :
    (commitSale w env need sale).accepts db ↔ db.sales.find? sale.id = none ∧
      (sale.customerID ≠ "" → ∃ c, db.customers.find? sale.customerID = some c) ∧
      (need = true → db.openShiftID.isSome) := by
  have recorded : ∀ db, (recordPayments w env sale.toSaleRow).accepts db := by
    have single : recordPayments w env sale.toSaleRow = recordSingle w env sale.toSaleRow := by
      simp [recordPayments, kind]
    rw [single]
    exact recordSingle_unfailing w env sale.toSaleRow
  unfold commitSale
  rw [accepts_wrapped_bind]
  constructor
  · rintro ⟨stored, created, accepted⟩
    obtain ⟨sales, inserted, rfl⟩ := createSale_ok created
    obtain ⟨_, ws, charged, charge, accepted⟩ := accepts_bind.mp accepted
    obtain ⟨_, ws', paid, payments, accepted⟩ := accepts_bind.mp accepted
    obtain ⟨rfl, known⟩ := chargeCustomer_does charge
    obtain ⟨rfl, _⟩ := recordPayments_does payments
    have opened := (openShiftID_kept payments.replays (confined_payments w env _) (by decide)).trans
      (openShiftID_kept charge.replays (confined_charge w env _) (by decide))
    refine ⟨(Table.insert?_rows inserted).2, known, fun required => ?_⟩
    have there := (closing_accepts need sale).mp accepted required
    rw [opened] at there
    exact there
  · rintro ⟨fresh, known, required⟩
    obtain ⟨stored, created⟩ : ∃ stored, (Write.createSale sale).apply db = .ok stored := by
      have inserted : db.sales.insert? sale.toSaleRow ≠ none := by
        intro refused
        obtain ⟨old, taken⟩ := Table.insert?_none.mp refused
        exact absurd (fresh.symm.trans taken) (by simp)
      obtain ⟨sales, inserted⟩ := Option.ne_none_iff_exists'.mp inserted
      refine ⟨{ db with sales := sales, saleItems := saveItems sale.id db.saleItems sale.items }, ?_⟩
      simp only [Write.apply, Store.createSale, inserted]
    refine ⟨stored, created, ?_⟩
    obtain ⟨sales, inserted, rfl⟩ := createSale_ok created
    have charges : (chargeCustomer w env sale.toSaleRow).accepts
        { db with sales := sales, saleItems := saveItems sale.id db.saleItems sale.items } :=
      (chargeCustomer_accepts sale.toSaleRow).mpr known
    obtain ⟨u, ws, charged, charge⟩ := charges
    refine accepts_bind.mpr ⟨u, ws, charged, charge, ?_⟩
    obtain ⟨u', ws', paid, payments⟩ := recorded charged
    refine accepts_bind.mpr ⟨u', ws', paid, payments, (closing_accepts need sale).mpr fun wanted => ?_⟩
    obtain ⟨rfl, _⟩ := chargeCustomer_does charge
    obtain ⟨rfl, _⟩ := recordPayments_does payments
    rw [openShiftID_kept payments.replays (confined_payments w env _) (by decide),
      openShiftID_kept charge.replays (confined_charge w env _) (by decide)]
    exact required wanted

theorem checkPlan_bind {sale : Sale} {k : Unit → DbTx β} (checked : (checkPlan w sale).accepts db) :
    (checkPlan w sale >>= k).accepts db ↔ (k ()).accepts db := by
  rw [accepts_bind]
  constructor
  · rintro ⟨u, ws, middle, does, accepted⟩
    obtain ⟨-, rfl, -⟩ := checkPlan_does does
    exact accepted
  · intro accepted
    obtain ⟨u, ws, middle, does⟩ := checked
    obtain ⟨-, rfl, -⟩ := checkPlan_does does
    exact ⟨u, ws, middle, does, accepted⟩

/-- A plan that passes its check decides nothing about the sale. -/
theorem plan_decides_nothing {actor : Actor} {request : Sale} {plan : InstallmentPlan}
    (kind : request.paymentMethod = .installment)
    (checked : ∀ middle, (checkPlan w (pricedSale w env db { request with installmentPlan := some plan })).accepts middle) :
    (processSaleAs w env actor { request with installmentPlan := some plan }).accepts db ↔
      (processSaleAs w env actor { request with installmentPlan := none }).accepts db := by
  unfold processSaleAs
  refine accepts_congr fun _ _ start admitted => ?_
  obtain ⟨rfl, rfl, -⟩ := admitSale_does admitted
  simp only [accepts_ask_bind]
  refine accepts_congr fun cart _ ready sell => ?_
  obtain ⟨rfl, -, -⟩ := foldEach_journal (g := addToCart w start.products)
    (fun _ _ _ _ _ _ _ body => sellItem_does body) sell
  refine accepts_congr fun _ _ middle _ => ?_
  have bare : (checkPlan w (pricedSale w env start { request with installmentPlan := none })).accepts middle := by
    have none : checkPlan w (pricedSale w env start { request with installmentPlan := none }) = pure () := by
      simp [checkPlan, pricedSale, priceSale, stampSale, kind, Tx.when]
    rw [none]
    exact ⟨(), [], middle, does_pure.mpr ⟨rfl, rfl, rfl⟩⟩
  refine (checkPlan_bind (checked middle)).trans (Iff.trans ?_ (checkPlan_bind bare).symm)
  have planned := @commitSale_accepts w env middle (shiftNeeded start)
    (pricedSale w env start { request with installmentPlan := some plan }) kind
  have unplanned := @commitSale_accepts w env middle (shiftNeeded start)
    (pricedSale w env start { request with installmentPlan := none }) kind
  exact planned.trans unplanned.symm

end Acceptance

/-- A plan is calculated just when every month has something to pay; it adds up, and a sale
of that total is never refused on its account. -/
theorem installment_plans {w : Word} {total downPayment months : Int} (today : String) (dueDate : Nat → String)
    (fits : w.fits total) (size : w.fits months) (low : 0 ≤ downPayment) :
    ((∃ plan, calculateInstallmentPlan w today dueDate total downPayment months = .ok plan) ↔
      0 < months ∧ downPayment < total ∧ months ≤ total - downPayment) ∧
    ∀ plan, calculateInstallmentPlan w today dueDate total downPayment months = .ok plan →
      AddsUp total (total - downPayment) months plan ∧
      ∀ env actor request db, request.paymentMethod = .installment → (pricedSale w env db request).total = total →
        ((processSaleAs w env actor { request with installmentPlan := some plan }).accepts db ↔
          (processSaleAs w env actor { request with installmentPlan := none }).accepts db) := by
  refine ⟨calculateInstallmentPlan_ok fits low, fun plan calculated => ?_⟩
  have adds := calculateInstallmentPlan_addsUp fits size low calculated
  refine ⟨adds, fun env actor request db kind due => plan_decides_nothing kind fun middle => ?_⟩
  have total : (pricedSale w env db { request with installmentPlan := some plan }).total = total := due
  obtain ⟨-, down, -⟩ := adds.whole
  have sum := adds.sum
  refine checkPlan_accepts (by rw [total]; exact fits) rfl (by omega) (fun inst member => (adds.positive inst member).le)
    ?_ middle
  rw [total]
  omega

/-- The first of each month. -/
def firstOfMonth (i : Nat) : String := if i = 0 then "2026-02-01" else if i = 1 then "2026-03-01" else "2026-04-01"

def teasPlan : InstallmentPlan := ⟨2000, 400, 3, "2026-01-01", some [⟨1, "2026-02-01", 533, .pending, 0⟩,
  ⟨2, "2026-03-01", 533, .pending, 0⟩, ⟨3, "2026-04-01", 534, .pending, 0⟩]⟩

/-- Two teas in three months. -/
theorem installment_plans_teas :
    calculateInstallmentPlan .int64 "2026-01-01" firstOfMonth 2000 400 3 = .ok teasPlan ∧
      AddsUp 2000 (2000 - 400) 3 teasPlan ∧
      (processSaleAs .int64 till sara (teaSale "s1" "ali" .installment none (some teasPlan) 2)).accepts shop := by
  have calculated : calculateInstallmentPlan .int64 "2026-01-01" firstOfMonth 2000 400 3 = .ok teasPlan := by
    decide +kernel
  have bare : (processSaleAs .int64 till sara (teaSale "s1" "ali" .installment none none 2)).accepts shop := by
    decide +kernel
  have due : (pricedSale .int64 till shop (teaSale "s1" "ali" .installment none none 2)).total = 2000 := by
    decide +kernel
  have fits : Word.int64.fits 2000 := ⟨by decide, by decide⟩
  have size : Word.int64.fits 3 := ⟨by decide, by decide⟩
  obtain ⟨adds, accepted⟩ := (installment_plans "2026-01-01" firstOfMonth fits size (by decide)).2 teasPlan calculated
  exact ⟨calculated, adds, (accepted till sara (teaSale "s1" "ali" .installment none none 2) shop rfl due).mpr bare⟩

end BeidarPos
