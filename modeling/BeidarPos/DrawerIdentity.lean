import BeidarPos.ShiftLifecycle

/-! The expected cash of a shift over its whole day. The counter of cash sales is cut off
at zero by each refund in turn, so what a refund exceeds it by stays in the drawer of the
books, and the order of sales and refunds can matter. -/
namespace BeidarPos

open Machine Relational Journal Tx

section Counter

/-- A cash amount passed to the open shift, by a sale or by a refund. -/
inductive Passed where
  | sold (amount : Int)
  | refunded (amount : Int)
  deriving DecidableEq

def Passed.sale : Passed → Int
  | .sold amount => amount
  | .refunded _ => 0

def Passed.refund : Passed → Int
  | .sold _ => 0
  | .refunded amount => amount

def soldCash (amounts : List Passed) : Int := (amounts.map Passed.sale).sum

def refundedCash (amounts : List Passed) : Int := (amounts.map Passed.refund).sum

/-- The counter of cash sales, one amount after the other. -/
def cashCounter : List Passed → Int → Int
  | [], cash => cash
  | .sold amount :: later, cash => cashCounter later (cash + amount)
  | .refunded amount :: later, cash => cashCounter later (clampSub cash amount)

/-- What the refunds exceed the counter by, each at its turn. -/
def excess : List Passed → Int → Int
  | [], _ => 0
  | .sold amount :: later, cash => excess later (cash + amount)
  | .refunded amount :: later, cash => max 0 (amount - cash) + excess later (clampSub cash amount)

/-- No refund is larger than the cash sold less the cash refunded before it. -/
def WithinCash (amounts : List Passed) (cash : Int) : Prop :=
  ∀ front amount back, amounts = front ++ .refunded amount :: back → amount ≤ cash + soldCash front - refundedCash front

theorem clampSub_excess (cash amount : Int) : clampSub cash amount = cash - amount + max 0 (amount - cash) := by
  unfold clampSub
  split <;> omega

@[simp] theorem cashCounter_append (front back : List Passed) (cash : Int) :
    cashCounter (front ++ back) cash = cashCounter back (cashCounter front cash) := by
  induction front generalizing cash with
  | nil => rfl
  | cons passed front ih => cases passed <;> exact ih _

theorem soldCash_cons (passed : Passed) (later : List Passed) :
    soldCash (passed :: later) = passed.sale + soldCash later := List.sum_cons

theorem refundedCash_cons (passed : Passed) (later : List Passed) :
    refundedCash (passed :: later) = passed.refund + refundedCash later := List.sum_cons

theorem cashCounter_eq (amounts : List Passed) (cash : Int) :
    cashCounter amounts cash = cash + soldCash amounts - refundedCash amounts + excess amounts cash := by
  induction amounts generalizing cash with
  | nil => simp [cashCounter, excess, soldCash, refundedCash]
  | cons passed later ih =>
    rw [soldCash_cons, refundedCash_cons]
    cases passed with
    | sold amount =>
      simp only [cashCounter, excess, Passed.sale, Passed.refund, ih]
      omega
    | refunded amount =>
      simp only [cashCounter, excess, Passed.sale, Passed.refund, ih]
      have cut := clampSub_excess cash amount
      omega

theorem excess_nonneg (amounts : List Passed) (cash : Int) : 0 ≤ excess amounts cash := by
  induction amounts generalizing cash with
  | nil => exact le_rfl
  | cons passed later ih =>
    cases passed with
    | sold amount => exact ih _
    | refunded amount =>
      have rest := ih (clampSub cash amount)
      simp only [excess]
      omega

theorem withinCash_cons {passed : Passed} {later : List Passed} {cash : Int} :
    WithinCash (passed :: later) cash ↔
      (∀ amount, passed = .refunded amount → amount ≤ cash) ∧ WithinCash later (cash + passed.sale - passed.refund) := by
  constructor
  · intro within
    refine ⟨?_, ?_⟩
    · rintro amount rfl
      simpa [soldCash, refundedCash] using within [] amount later rfl
    · rintro front amount back rfl
      have fits := within (passed :: front) amount back rfl
      rw [soldCash_cons, refundedCash_cons] at fits
      omega
  · rintro ⟨first, rest⟩ front amount back parts
    cases front with
    | nil =>
      obtain ⟨rfl, rfl⟩ := List.cons.inj parts
      simpa [soldCash, refundedCash] using first amount rfl
    | cons head front =>
      obtain ⟨rfl, rfl⟩ := List.cons.inj parts
      have fits := rest front amount back rfl
      rw [soldCash_cons, refundedCash_cons]
      omega

theorem excess_zero {amounts : List Passed} {cash : Int} : excess amounts cash = 0 ↔ WithinCash amounts cash := by
  induction amounts generalizing cash with
  | nil => exact ⟨fun _ front amount back parts => absurd parts (by simp), fun _ => rfl⟩
  | cons passed later ih =>
    rw [withinCash_cons]
    cases passed with
    | sold amount => simpa [excess, Passed.sale, Passed.refund] using ih
    | refunded amount =>
      have rest := excess_nonneg later (clampSub cash amount)
      have cut := clampSub_excess cash amount
      simp only [excess, Passed.sale, Passed.refund, Int.add_zero, Passed.refunded.injEq, forall_eq']
      constructor
      · intro none
        have fits : amount ≤ cash := by omega
        have same : clampSub cash amount = cash - amount := by omega
        rw [← same]
        exact ⟨fits, ih.mp (by omega)⟩
      · rintro ⟨fits, within⟩
        have same : clampSub cash amount = cash - amount := by omega
        rw [same, ih.mpr within]
        omega

end Counter

section Journals

/-- The cash amounts a journal passes to the open shift, in order. -/
def passedCash (ws : List Write) : List Passed :=
  ws.filterMap fun v => match v with
    | .updateShiftSales _ cash _ _ => some (.sold cash)
    | .updateShiftRefunds _ cash _ => some (.refunded cash)
    | _ => none

@[simp] theorem passedCash_append (front back : List Write) :
    passedCash (front ++ back) = passedCash front ++ passedCash back := List.filterMap_append

/-- The kind and the amount of the cash movements a journal writes for a shift. -/
def movedCash (shiftID : String) (ws : List Write) : List (MoveType × Int) :=
  ws.filterMap fun v => match v with
    | .createCashMovement move => if move.shiftID = shiftID then some (move.type, move.amount) else none
    | _ => none

@[simp] theorem movedCash_append (shiftID : String) (front back : List Write) :
    movedCash shiftID (front ++ back) = movedCash shiftID front ++ movedCash shiftID back := List.filterMap_append

def cashOf (type : MoveType) (moves : List (MoveType × Int)) : Int :=
  ((moves.filter fun move => move.1 = type).map Prod.snd).sum

/-- The named open shift after a journal that neither opens nor closes one. -/
theorem drawer_after (ws : List Write) {shift : Shift} (named : shift.id ≠ "") :
    ∃ now, drawerSteps ws (some shift) = some now ∧ now.id = shift.id ∧ now.openingBalance = shift.openingBalance ∧
      now.cashSales = cashCounter (passedCash ws) shift.cashSales := by
  induction ws generalizing shift with
  | nil => exact ⟨shift, rfl, rfl, rfl, rfl⟩
  | cons v ws ih =>
    have kept : ∀ next, drawerStep v (some shift) = some next → next.id = shift.id →
        next.openingBalance = shift.openingBalance → next.cashSales = cashCounter (passedCash [v]) shift.cashSales →
        ∃ now, drawerSteps (v :: ws) (some shift) = some now ∧ now.id = shift.id ∧
          now.openingBalance = shift.openingBalance ∧ now.cashSales = cashCounter (passedCash (v :: ws)) shift.cashSales := by
      intro next stepped same opening cash
      obtain ⟨now, later, id, balance, sales⟩ := @ih next (by rwa [same])
      refine ⟨now, ?_, id.trans same, balance.trans opening, ?_⟩
      · rw [drawerSteps, List.foldl_cons, stepped]
        exact later
      · rw [sales, cash, ← cashCounter_append, ← passedCash_append]
        rfl
    cases v with
    | updateShiftSales total cash isNew need =>
      exact kept (shift.addSale total cash isNew) (by simp [drawerStep, named]) rfl rfl rfl
    | updateShiftRefunds total cash full =>
      exact kept (shift.subRefund total cash full) (by simp [drawerStep, named]) rfl rfl rfl
    | _ => exact kept shift rfl rfl rfl rfl

/-- The kind and the amount of the stored cash movements of a shift. -/
def movesCell (shiftID : String) : Cell Write.apply (List (MoveType × Int)) where
  read := fun db => (db.movementsOf shiftID).map fun move => (move.type, move.amount)
  step := fun v moves => moves ++ movedCash shiftID [v]
  law := by
    intro v db final h
    cases v with
    | createCashMovement move =>
      obtain ⟨moves, inserted, rfl⟩ := createCashMovement_ok h
      simp only [Store.movementsOf, (Table.insert?_rows inserted).1, movedCash, List.filter_append, List.map_append,
        List.filter_cons, List.filterMap_cons, List.filter_nil, List.filterMap_nil]
      by_cases here : move.shiftID = shiftID <;> simp [here]
    | saveShift shift =>
      cases h
      simp [movementsOf_saveShift, movedCash]
    | _ => first
      | (obtain ⟨_, rfl⟩ := apply_tables h; exact (List.append_nil _).symm)
      | (obtain ⟨_, _, rfl⟩ := apply_tables h; exact (List.append_nil _).symm)

theorem moves_after (shiftID : String) (ws : List Write) (moves : List (MoveType × Int)) :
    (movesCell shiftID).steps ws moves = moves ++ movedCash shiftID ws := by
  induction ws generalizing moves with
  | nil => exact (List.append_nil _).symm
  | cons v ws ih =>
    rw [Cell.steps_cons, ih]
    simp only [movesCell, List.append_assoc, ← movedCash_append]
    rfl

theorem getCashInAndOut_moves (db : Store) (shiftID : String) :
    db.getCashInAndOut shiftID =
      (cashOf .cashIn ((movesCell shiftID).read db), cashOf .cashOut ((movesCell shiftID).read db)) := by
  have turn : ∀ type : MoveType,
      ((db.cashMovements.rows.filter fun m => m.shiftID = shiftID ∧ m.type = type).map CashMovement.amount).sum =
        cashOf type ((movesCell shiftID).read db) := by
    intro type
    simp only [cashOf, movesCell, Store.movementsOf, List.filter_map, List.map_map, List.filter_filter, Bool.decide_and]
    congr 2
    exact List.filter_congr fun m _ => Bool.and_comm _ _
  simp only [Store.getCashInAndOut, turn]

theorem call_saves_no_shift {w : Word} {c : Call} {db final : Store} (h : Does (c.body w env) db () ws final) :
    ∀ v ∈ ws, ∀ shift, v ≠ .saveShift shift := by
  by_cases cash : ∃ shiftID moveType reason staffID staffName amount,
      c = .addCashMovement shiftID moveType reason staffID staffName amount
  · obtain ⟨shiftID, moveType, reason, staffID, staffName, amount, rfl⟩ := cash
    obtain ⟨_, _, rfl⟩ := addCashMovement_does h
    simp
  · have calm := counter_calm h fun _ _ _ _ _ _ same => cash ⟨_, _, _, _, _, _, same⟩
    rintro v member shift rfl
    exact calm _ member

end Journals

/-- The same shifts and cash movements. -/
def SameShifts (db later : Store) : Prop := later.shifts = db.shifts ∧ later.cashMovements = db.cashMovements

abbrev DrawerStep := CounterStep SameShifts

/-- The open shift of a store, by its cash counter and its cash movements. -/
structure DrawerHolds (shiftID : String) (opening cash : Int) (moves : List (MoveType × Int)) (db : Store) : Prop where
  active : ∃ shift, db.activeShift = some shift ∧ shift.id = shiftID ∧ shift.openingBalance = opening ∧
    shift.cashSales = cash
  movements : (movesCell shiftID).read db = moves

theorem DrawerHolds.replayed {shiftID : String} {db final : Store} (holds : DrawerHolds shiftID opening cash moves db)
    (named : shiftID ≠ "") (unsaved : ∀ v ∈ ws, ∀ shift, v ≠ .saveShift shift)
    (h : replay Write.apply ws db = .ok final) :
    DrawerHolds shiftID opening (cashCounter (passedCash ws) cash) (moves ++ movedCash shiftID ws) final where
  active := by
    obtain ⟨shift, active, rfl, rfl, rfl⟩ := holds.active
    obtain ⟨now, later, rest⟩ := drawer_after ws named
    exact ⟨now, by rw [drawer_replayed h unsaved, active, later], rest⟩
  movements := by rw [(movesCell shiftID).replay_read h, holds.movements, moves_after]

theorem drawer_step {shiftID : String} {db : Store} (step : DrawerStep) (named : shiftID ≠ "")
    (holds : DrawerHolds shiftID opening cash moves db) :
    DrawerHolds shiftID opening (cashCounter (passedCash (step.written db)) cash)
      (moves ++ movedCash shiftID (step.written db)) (step.next db) := by
  cases step with
  | call env c =>
    by_cases accepted : (c.body .exact env).accepts db
    · have does := does_accepted accepted
      exact holds.replayed named (call_saves_no_shift does) does.replays
    · simp only [CounterStep.next, CounterStep.written, commit_rejected accepted]
      simpa [passedCash, movedCash, cashCounter] using holds
  | elsewhere change keeps =>
    obtain ⟨shifts, moved⟩ := keeps db
    refine ⟨?_, ?_⟩
    · have same : (change db).activeShift = db.activeShift := by rw [Store.activeShift, shifts, Store.activeShift]
      exact same ▸ holds.active
    · have same : (movesCell shiftID).read (change db) = (movesCell shiftID).read db := by
        simp only [movesCell, Store.movementsOf, moved]
      simpa [CounterStep.next, CounterStep.written, movedCash] using same.trans holds.movements

theorem drawer_run {shiftID : String} {db : Store} (steps : List DrawerStep) (named : shiftID ≠ "")
    (holds : DrawerHolds shiftID opening cash moves db) :
    DrawerHolds shiftID opening (cashCounter (passedCash (CounterStep.journal steps db)) cash)
      (moves ++ movedCash shiftID (CounterStep.journal steps db)) (CounterStep.run steps db) := by
  induction steps generalizing db cash moves with
  | nil => simpa [CounterStep.journal, CounterStep.run, passedCash, movedCash, cashCounter] using holds
  | cons step later ih =>
    have rest := ih (drawer_step step named holds)
    simp only [CounterStep.journal, passedCash_append, movedCash_append, cashCounter_append]
    rw [← List.append_assoc]
    exact rest

/-- The drawer after the opening of a shift under a new identifier. -/
theorem drawer_opened {env : Env} {db start : Store} (opens : Does (openShift env staffID staffName opening) db u ws start)
    (fresh : db.shifts.find? env.freshID = none) (unmoved : db.movementsOf env.freshID = []) :
    DrawerHolds env.freshID opening 0 [] start := by
  obtain ⟨closed, shift, drawn, live, rfl, balance, sales⟩ := openShift_does opens
  have added : (db.saveShift shift).activeShift = some shift := by
    unfold Store.saveShift
    cases inserted : db.shifts.insert? shift with
    | some shifts =>
      simp only [Store.activeShift] at closed ⊢
      simp [(Table.insert?_rows inserted).1, List.find?_append, closed, live]
    | none =>
      obtain ⟨old, stored⟩ := Table.insert?_none.mp inserted
      rw [drawn, fresh] at stored
      cases stored
  exact ⟨⟨shift, added, drawn, balance, sales⟩, by simp [movesCell, movementsOf_saveShift, unmoved]⟩

/-- Opening balance, cash sold less cash refunded, and the cash moved by hand. -/
def drawerBalance (opening : Int) (passed : List Passed) (moved : List (MoveType × Int)) : Int :=
  opening + soldCash passed - refundedCash passed + cashOf .cashIn moved - cashOf .cashOut moved

theorem DrawerHolds.expected {shiftID : String} {db : Store} {shift : Shift}
    (holds : DrawerHolds shiftID opening (cashCounter passed 0) moved db) (key : shift.id = shiftID)
    (balance : shift.openingBalance = opening) (sales : shift.cashSales = cashCounter passed 0) :
    expectedBalance .exact db shift = drawerBalance opening passed moved + excess passed 0 := by
  subst key
  simp only [expectedBalance, getCashInAndOut_moves, holds.movements, Word.exact_sub, Word.exact_add, balance, sales,
    cashCounter_eq, drawerBalance]
  omega

/-- What a shift's reader and its closing see, after a run from its opening on. -/
structure DrawerSeen (shiftID : String) (expected : Int) (db : Store) : Prop where
  reported : ∃ now, getActiveShift .exact db = some now ∧ now.id = shiftID ∧ now.expectedBalance = expected
  stored : ∀ (env : Env) session closingBalance note ws final,
    Does (closeShift .exact env session shiftID closingBalance note) db () ws final →
      ∃ closed, final.shifts.find? shiftID = some closed ∧ closed.status = .closed ∧ closed.expectedBalance = expected ∧
        closed.variance = closingBalance - expected

theorem DrawerHolds.seen {shiftID : String} {db : Store}
    (holds : DrawerHolds shiftID opening (cashCounter passed 0) moved db) :
    DrawerSeen shiftID (drawerBalance opening passed moved + excess passed 0) db := by
  obtain ⟨shift, active, key, balance, sales⟩ := holds.active
  refine ⟨?_, ?_⟩
  · have reported : getActiveShift .exact db = some { shift with expectedBalance := expectedBalance .exact db shift } := by
      rw [getActiveShift, active, Option.map_some]
    exact ⟨_, reported, key, holds.expected key balance sales⟩
  · intro env session closingBalance note ws final does
    obtain ⟨found, closed, rfl, stored, _, rfl, done, settled, opening, cash, closing⟩ := closeShift_does does
    have same : found = shift := by
      have here := Table.find?_of_mem (List.mem_of_find?_eq_some active)
      rw [key, stored] at here
      exact Option.some.inj here
    subst same
    have expected := settled.expected.trans (holds.expected rfl (opening.trans balance) (cash.trans sales))
    refine ⟨closed, by rw [find?_saveShift, if_pos rfl], done, expected, ?_⟩
    rw [settled.variance, closing, expected, Word.exact_sub]

theorem drawerBalance_perm {passed other : List Passed} {moved shifted : List (MoveType × Int)}
    (amounts : passed.Perm other) (moves : moved.Perm shifted) (opening : Int) :
    drawerBalance opening passed moved = drawerBalance opening other shifted := by
  have kinds : ∀ type, cashOf type moved = cashOf type shifted := fun type => ((moves.filter _).map _).sum_eq
  simp only [drawerBalance, soldCash, refundedCash, (amounts.map _).sum_eq, kinds]

/-- A shift's expected balance is the drawer's, and what the refunds exceed the cash counter
by, each at its turn. Nothing is exceeded when each refund is within the cash sold less the
cash refunded before it, and then the order of the amounts is of no matter. -/
theorem drawer_identity {env : Env} {db start : Store} {staffID staffName : String} {opening : Int} {ws : List Write}
    (opens : Does (openShift env staffID staffName opening) db () ws start)
    (fresh : db.shifts.find? env.freshID = none) (unmoved : db.movementsOf env.freshID = [])
    (named : env.freshID ≠ "") :
    (∀ steps : List DrawerStep,
      let passed := passedCash (CounterStep.journal steps start)
      DrawerSeen env.freshID
        (drawerBalance opening passed (movedCash env.freshID (CounterStep.journal steps start)) + excess passed 0)
        (CounterStep.run steps start) ∧
      0 ≤ excess passed 0 ∧ (excess passed 0 = 0 ↔ WithinCash passed 0)) ∧
    ∀ steps other : List DrawerStep,
      (passedCash (CounterStep.journal steps start)).Perm (passedCash (CounterStep.journal other start)) →
      (movedCash env.freshID (CounterStep.journal steps start)).Perm
        (movedCash env.freshID (CounterStep.journal other start)) →
      WithinCash (passedCash (CounterStep.journal steps start)) 0 →
      WithinCash (passedCash (CounterStep.journal other start)) 0 →
      ∃ expected, DrawerSeen env.freshID expected (CounterStep.run steps start) ∧
        DrawerSeen env.freshID expected (CounterStep.run other start) := by
  have begun := drawer_opened opens fresh unmoved
  have held := fun steps => drawer_run steps named begun
  simp only [List.nil_append] at held
  refine ⟨fun steps => ⟨(held steps).seen, excess_nonneg _ _, excess_zero⟩, ?_⟩
  intro steps other amounts moves within same
  have seen := (held steps).seen
  have again := (held other).seen
  rw [excess_zero.mpr within, drawerBalance_perm amounts moves] at seen
  rw [excess_zero.mpr same] at again
  exact ⟨_, seen, again⟩

section Evening

/-- Sara's second shift of the day, after the teas of the first. -/
def evening : Env := { till with freshID := "evening" }

def reopened : Store := (openShift evening "sara" "Sara" 5000).commit counted

def teasBack : DrawerStep := .call evening (.returnSale "s1")

def twoTeas : DrawerStep := .call evening (.processSale sara (teaSale "s2" "" .cash none none 2))

end Evening

/-- The teas of the first shift come back in the second: before its first sale the drawer
keeps their cash in the books, after it the books and the drawer agree. -/
theorem drawer_identity_evening :
    let early := [teasBack, twoTeas]
    let late := [twoTeas, teasBack]
    passedCash (CounterStep.journal [teasBack] reopened) = [.refunded 2000] ∧
      (getActiveShift .exact (CounterStep.run [teasBack] reopened)).map Shift.expectedBalance = some 5000 ∧
      drawerBalance 5000 [.refunded 2000] (movedCash "evening" (CounterStep.journal [teasBack] reopened)) = 3000 ∧
      passedCash (CounterStep.journal early reopened) = [.refunded 2000, .sold 2000] ∧
      passedCash (CounterStep.journal late reopened) = [.sold 2000, .refunded 2000] ∧
      (getActiveShift .exact (CounterStep.run early reopened)).map Shift.expectedBalance = some 7000 ∧
      (getActiveShift .exact (CounterStep.run late reopened)).map Shift.expectedBalance = some 5000 := by
  refine ⟨?_, ?_, ?_, ?_, ?_, ?_, ?_⟩ <;> decide +kernel

theorem drawer_identity_late : DrawerSeen "evening" 5000 (CounterStep.run [twoTeas, teasBack] reopened) ∧
    WithinCash (passedCash (CounterStep.journal [twoTeas, teasBack] reopened)) 0 := by
  have accepted : (openShift evening "sara" "Sara" 5000).accepts counted := by decide +kernel
  have opens : Does (openShift evening "sara" "Sara" 5000) counted () _ reopened := does_accepted accepted
  obtain ⟨all, _⟩ := drawer_identity opens (by decide +kernel) (by decide +kernel) (by decide)
  obtain ⟨seen, _, within⟩ := all [twoTeas, teasBack]
  have nothing : excess (passedCash (CounterStep.journal [twoTeas, teasBack] reopened)) 0 = 0 := by decide +kernel
  have balance : drawerBalance 5000 (passedCash (CounterStep.journal [twoTeas, teasBack] reopened))
      (movedCash evening.freshID (CounterStep.journal [twoTeas, teasBack] reopened)) = 5000 := by
    decide +kernel
  rw [nothing, balance] at seen
  exact ⟨seen, within.mp nothing⟩

end BeidarPos
