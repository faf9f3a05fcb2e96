import BeidarPos.InstallmentPlans
import BeidarPos.DateTexts

/-! The due dates of an installment plan: today with one month more for each entry, a day that
the month does not have carried over to the month after it. -/
namespace BeidarPos

open Calendar Machine

/-- `time.Now().AddDate(0, n, 0)`. -/
def monthsOn (today : Date) (n : Nat) : Date := today.addDate n 0

def calculateInstallmentPlanOn (w : Word) (today : Date) (total downPayment months : Int) :
    Except Failure InstallmentPlan :=
  calculateInstallmentPlan w today.format (fun i => (monthsOn today (i + 1)).format) total downPayment months

/-- The entries fall due on later and later dates, each in the month after the last. -/
def MonthByMonth (today : Date) (plan : InstallmentPlan) : Prop :=
  ∃ dates : List Date, plan.entries.map Installment.dueDate = dates.map Date.format ∧
    dates.Pairwise (fun a b => a.number < b.number) ∧
    ∀ (i : Nat) (date : Date), dates[i]? = some date → date.month = today.month + (i + 1)

section Schedule

variable {w : Word} {today : Date} {total downPayment months : Int} {plan : InstallmentPlan}

theorem calculated_months (calculated : calculateInstallmentPlanOn w today total downPayment months = .ok plan) :
    plan.entries.map Installment.dueDate =
      ((List.range months.toNat).map fun i => monthsOn today (i + 1)).map Date.format := by
  unfold calculateInstallmentPlanOn calculateInstallmentPlan at calculated
  split at calculated
  · cases calculated
  · split at calculated
    · cases calculated
    · dsimp only at calculated
      split at calculated
      · cases calculated
      · split at calculated
        · cases calculated
        · cases calculated
          simp [InstallmentPlan.entries, scheduledEntry]

theorem monthsOn_increasing (n : Nat) :
    ((List.range n).map fun i => monthsOn today (i + 1)).Pairwise fun a b => a.number < b.number := by
  rw [List.pairwise_map]
  refine List.pairwise_lt_range.imp fun less => ?_
  exact today.addMonths_lt (by omega)

theorem monthsOn_month (n : Nat) :
    (monthsOn today n).month = today.month + n ↔ today.day ≤ monthLength (today.month + n) := by
  rw [monthsOn, Date.addMonths_month]
  split <;> simp_all

theorem monthByMonth_iff (calculated : calculateInstallmentPlanOn w today total downPayment months = .ok plan) :
    MonthByMonth today plan ↔ ∀ i : Nat, 1 ≤ i → i ≤ months → today.day ≤ monthLength (today.month + i) := by
  have texts := calculated_months calculated
  have nth (i : Nat) : ((List.range months.toNat).map fun i => monthsOn today (i + 1))[i]? =
      if i < months then some (monthsOn today (i + 1)) else none := by
    rw [List.getElem?_map]
    split
    · rw [List.getElem?_range (by omega), Option.map_some]
    · rw [List.getElem?_eq_none (by rw [List.length_range]; omega), Option.map_none]
  constructor
  · rintro ⟨dates, shown, -, each⟩ i first last
    have same : dates = (List.range months.toNat).map fun i => monthsOn today (i + 1) :=
      List.map_injective_iff.mpr (fun _ _ => Date.format_injective) (shown.symm.trans texts)
    have here := each (i - 1) (monthsOn today i) (by rw [same, nth, if_pos (by omega), Nat.sub_add_cancel first])
    exact (monthsOn_month i).mp (by omega)
  · refine fun every => ⟨_, texts, monthsOn_increasing _, fun i date here => ?_⟩
    rw [nth] at here
    split at here
    · rename_i inside
      cases here
      have month := (monthsOn_month (i + 1)).mpr (every (i + 1) (by omega) (by omega))
      push_cast at month
      omega
    · cases here

end Schedule

/-- The dates always increase; each is in its own month when every month of the plan has today's
day, and only then. -/
theorem due_months {w : Word} {today : Date} {total downPayment months : Int} {plan : InstallmentPlan}
    (calculated : calculateInstallmentPlanOn w today total downPayment months = .ok plan) :
    (∃ dates : List Date, plan.entries.map Installment.dueDate = dates.map Date.format ∧
      dates.Pairwise fun a b => a.number < b.number) ∧
    (MonthByMonth today plan ↔ ∀ i : Nat, 1 ≤ i → i ≤ months → today.day ≤ monthLength (today.month + i)) :=
  ⟨⟨_, calculated_months calculated, monthsOn_increasing _⟩, monthByMonth_iff calculated⟩

/-- The last of a January. -/
def endOfJanuary : Date := ⟨12 * 2026, 31, by decide⟩

def januaryPlan : InstallmentPlan := ⟨200000, 0, 2, "2026-01-31", some [⟨1, "2026-03-03", 100000, .pending, 0⟩,
  ⟨2, "2026-03-31", 100000, .pending, 0⟩]⟩

/-- Two entries asked for on the last of January fall due in March, none in February. -/
theorem due_months_january :
    calculateInstallmentPlanOn .int64 endOfJanuary 200000 0 2 = .ok januaryPlan ∧
      ¬MonthByMonth endOfJanuary januaryPlan := by
  have calculated : calculateInstallmentPlanOn .int64 endOfJanuary 200000 0 2 = .ok januaryPlan := by
    decide +kernel
  refine ⟨calculated, fun monthly => ?_⟩
  have february := (monthByMonth_iff calculated).mp monthly 1 (by decide) (by decide)
  exact absurd february (by decide)

/-- The first of that January. -/
def firstOfJanuary : Date := ⟨12 * 2026, 1, by decide⟩

def firstPlan : InstallmentPlan := ⟨200000, 0, 2, "2026-01-01", some [⟨1, "2026-02-01", 100000, .pending, 0⟩,
  ⟨2, "2026-03-01", 100000, .pending, 0⟩]⟩

theorem due_months_first :
    calculateInstallmentPlanOn .int64 firstOfJanuary 200000 0 2 = .ok firstPlan ∧
      MonthByMonth firstOfJanuary firstPlan := by
  have calculated : calculateInstallmentPlanOn .int64 firstOfJanuary 200000 0 2 = .ok firstPlan := by
    decide +kernel
  refine ⟨calculated, (due_months calculated).2.mpr fun i _ _ => ?_⟩
  exact le_trans (by decide) (monthLength_bounds _).1

end BeidarPos
