import BeidarPos.Store

/-! The cash drawer: opening, closing and reading a shift, and moving cash by hand. -/
namespace BeidarPos

open Machine Relational Journal Tx

def openShift (env : Env) (staffID staffName : String) (openingBalance : Int) : DbTx Unit := do
  let existing ← ask Store.activeShift
  ensure (existing = none) (.plain (.format "يوجد شفت مفتوح بالفعل للموظف %s"
    [.text ((existing.map Shift.staffName).getD "")]))
  write (.saveShift ⟨env.freshID, staffID, staffName, env.millis, 0, openingBalance, 0, openingBalance, 0,
    .open, 0, 0, 0, ""⟩)

/-- Opening balance, cash sales and cash movements; the stored column is not read. -/
def expectedBalance (w : Word) (db : Store) (shift : Shift) : Int :=
  let (cashIn, cashOut) := db.getCashInAndOut shift.id
  w.sub (w.add (w.add shift.openingBalance shift.cashSales) cashIn) cashOut

/-- `session` is the staff member of the desktop session and his role, if one is active. -/
def closeShift (w : Word) (env : Env) (session : Option (String × Role)) (shiftID : String)
    (closingBalance : Int) (note : String) : DbTx Unit := do
  let found ← ask (fun db => db.shifts.find? shiftID)
  let shift ← require found (.plain (.plain "الشفت غير موجود"))
  ensure (shift.status = .open) (.plain (.plain "الشفت مغلق بالفعل"))
  ensure (∀ s ∈ session, shift.staffID = s.1 ∨ s.2 = .admin)
    (.plain (.plain "لا تملك صلاحية لإغلاق شفت موظف آخر"))
  let expected ← ask (fun db => expectedBalance w db shift)
  write (.saveShift { shift with
    closeTime := env.millis
    closingBalance := closingBalance
    expectedBalance := expected
    variance := w.sub closingBalance expected
    status := .closed
    note := note })

def getActiveShift (w : Word) (db : Store) : Option Shift :=
  db.activeShift.map fun shift => { shift with expectedBalance := expectedBalance w db shift }

def addCashMovement (env : Env) (shiftID : String) (moveType : MoveType) (reason staffID staffName : String)
    (amount : Int) : DbTx Unit := do
  ensure (0 < amount) (.plain (.plain "مبلغ حركة الصندوق يجب أن يكون أكبر من الصفر"))
  ensure (moveType = .cashIn ∨ moveType = .cashOut)
    (.plain (.plain "نوع حركة الصندوق غير صالح (يجب أن يكون إيداع أو سحب)"))
  let found ← ask (fun db => db.shifts.find? shiftID)
  let shift ← require found (.plain (.plain "الشفت غير موجود"))
  ensure (shift.status = .open) (.plain (.plain "لا يمكن إضافة حركة لشفت مغلق"))
  write (.createCashMovement ⟨env.freshID, shiftID, moveType, amount, reason, staffID, staffName, env.millis⟩)

theorem addCashMovement_does {db final : Store} {shiftID reason staffID staffName : String} {amount : Int}
    (h : Does (addCashMovement env shiftID moveType reason staffID staffName amount) db u ws final) :
    0 < amount ∧ (moveType = .cashIn ∨ moveType = .cashOut) ∧
      ws = [.createCashMovement ⟨env.freshID, shiftID, moveType, amount, reason, staffID, staffName, env.millis⟩] := by
  simp only [addCashMovement, does_bind, does_ensure, does_ask, does_require, does_write] at h
  obtain ⟨_, _, _, _, ⟨positive, rfl, rfl⟩, ⟨_, _, _, _, ⟨kind, rfl, rfl⟩, ⟨_, _, _, _, ⟨rfl, rfl, rfl⟩,
    ⟨_, _, _, _, ⟨_, rfl, rfl⟩, ⟨_, _, _, _, ⟨_, rfl, rfl⟩, ⟨rfl, _⟩, rfl⟩, rfl⟩, rfl⟩, rfl⟩, rfl⟩ := h
  exact ⟨positive, kind, rfl⟩

end BeidarPos
