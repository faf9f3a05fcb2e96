import BeidarPos.StaffPins

/-! Logins beside the calls that manage accounts. A login reads the row of an account,
compares the password and saves the whole row with the time of the login; each call that
manages accounts may make its repository calls in between. -/
namespace BeidarPos

open Relational Journal Tx Interleaving

/-- What an administrator decides about an account. -/
structure Authority where
  active : Bool
  role : Role
  permissions : List String
  passwordHash : String
  deriving DecidableEq

def Staff.authority (s : Staff) : Authority := ⟨s.active, s.role, s.permissions, s.passwordHash⟩

def Staff.loggedIn (now : Int) (s : Staff) : Staff := { s with lastLogin := now }

def Roster.authorityOf (t : Roster) (id : String) : Option Authority := (t.find? id).map Staff.authority

/-- The tables, and a record the program does not have: what the last completed change of
each account by a call that manages accounts left of it. -/
structure StaffOffice where
  desk : LoginDesk
  store : Store
  decided : String → Option Authority

def StaffOffice.tables (o : StaffOffice) : StaffStore := ⟨o.desk.staff, o.store⟩

def StaffOffice.waited (elapsed : Nat) (o : StaffOffice) : StaffOffice :=
  { o with desk := { o.desk with now := o.desk.now + elapsed } }

/-- Time that passes, and the environment of a call. -/
structure OfficeEnv where
  elapsed : Nat
  env : StaffEnv

section Stages

def loadAccount (id : String) (missing : Failure) : StaffTx Staff := do
  let found ← ask (fun db => db.staff.find? id)
  require found missing

def checkAdminCount (field : String) : StaffTx Unit := do
  let admins ← ask (fun db => db.staff.countByRole .admin)
  ensure (1 < admins) (ErrLastAdmin field)

/-- The checks of an edit before it loads the account. -/
def checkStaffRequest (p : Platform) (request : Staff) : StaffTx Unit := do
  ensure (request.id ≠ "") (staffError "MISSING_STAFF_ID" "id" [])
  checkName request.name
  checkUsername request.username
  let existing ← ask (fun db => db.staff.findUsername request.username)
  ensure (∀ other ∈ existing, other.id = request.id)
    (staffError "DUPLICATE_USERNAME" "username" [.text request.username])
  checkContact p request

def checkPrivilege (p : Platform) (env : StaffEnv) (current request : Staff) : StaffTx Staff := do
  ensure (current.role = .admin ∨ request.role = .admin → env.currentRole = "" ∨ env.currentRole = "admin")
    (unauthorizedAdminModification "فقط مسؤول النظام يمكنه تعديل بيانات حساب المسؤول أو الترقية لرتبة مسؤول" "role")
  pure (editedStaff p current request)

/-- The account whose password is changed, when the caller may and the password will do. -/
def loadForPassword (env : StaffEnv) (id newPassword : String) : StaffTx Staff := do
  let staff ← loadAccount id ErrStaffNotFound
  ensure (staff.role = .admin → env.currentStaffID = "" ∨ env.currentStaffID = staff.id ∨ env.currentRole = "admin")
    (unauthorizedAdminModification "غير مصرح لك بتعديل كلمة مرور حساب المسؤول" "id")
  checkPassword staff.role newPassword
  pure staff

def hashNewPassword (p : Platform) (env : StaffEnv) (staff : Staff) (id newPassword : String) : StaffTx Staff := do
  checkPin p newPassword id
  let hash ← match p.hashPassword env.salt newPassword with
    | .ok hash => pure hash
    | .error cause => fail (.plain (.plain cause))
  pure { staff with passwordHash := hash, mustChangePin := false }

end Stages

/-- A call where it stands, between two of its repository calls. -/
inductive OfficeTask where
  | authenticateByUsername (call : LoginCall)
  | authenticateByPIN (pin : String)
  | stampingPIN (pin : String) (staff : Staff)
  | authenticated (result : AuthResult)
  | toggleStaffStatus (id : String)
  | togglingAdmin (staff : Staff)
  | updateStaff (request : Staff)
  | updateChecked (request : Staff)
  | updateCounting (current request : Staff)
  | updateStaffPassword (id newPassword : String)
  | passwordChecked (staff : Staff) (id newPassword : String)
  | deleteStaff (id : String) (force : Bool)
  | deletingAdmin (staff : Staff) (force : Bool)
  | countingSales (staff : Staff) (force : Bool)
  | countingPayments (staff : Staff) (force : Bool) (sales : Nat)
  | saving (row : Staff) (failure : Option String)
  | deleting (id : String)
  | answered (result : Except Failure Unit)

/-- Active accounts in the order of their names. -/
def getActive (t : Roster) : List Staff :=
  (t.rows.filter (fun s => s.active = true)).insertionSort (fun a b => a.name ≤ b.name)

/-- A repository call that reads, and where the call stands after it. -/
def reads (o : StaffOffice) (x : StaffTx α) (next : α → OfficeTask) : OfficeTask × StaffOffice :=
  match x.run o.tables with
  | .error e => (.answered (.error e), o)
  | .ok (a, _) => (next a, o)

def toggled (staff : Staff) : OfficeTask := .saving { staff with active := !staff.active } none

/-- A save by a call that manages accounts; what it leaves is what is decided. -/
def StaffOffice.saveStaff (o : StaffOffice) (row : Staff) (failure : Option String) : OfficeTask × StaffOffice :=
  match o.desk.staff.save? row with
  | none => (.answered (.error (match failure with
      | none => .constraint "staffs"
      | some key => .wrapped (.message key []) (.constraint "staffs"))), o)
  | some staff => (.answered (.ok ()), { o with
      desk := { o.desk with staff := staff }
      decided := fun id => if id = row.id then some row.authority else o.decided id })

def StaffOffice.deleteStaff (o : StaffOffice) (id : String) : StaffOffice := { o with
  desk := { o.desk with staff := o.desk.staff.delete id }
  decided := fun other => if other = id then none else o.decided other }

/-- The next repository call of a task. -/
def OfficeTask.act (p : Platform) (env : StaffEnv) (task : OfficeTask) (o : StaffOffice) : OfficeTask × StaffOffice :=
  match task with
  | .authenticateByUsername call =>
    (.authenticateByUsername (call.act p o.desk).1, { o with desk := (call.act p o.desk).2 })
  | .authenticateByPIN pin =>
    match pinOwner p (getActive o.desk.staff) pin with
    | none => (.authenticated (refusal (.message "INVALID_PIN" [])), o)
    | some staff => (.stampingPIN pin staff, o)
  | .stampingPIN pin staff =>
    let stamped := staff.loggedIn o.desk.now
    (.authenticated ⟨true, some stamped, staff.permissions, none, staff.mustChangePin || checkUsingDefaultPassword pin⟩,
      { o with desk := o.desk.updateStaff stamped })
  | .authenticated result => (.authenticated result, o)
  | .toggleStaffStatus id =>
    -- the administrators are counted only when one of them is switched off
    reads o (loadAccount id .recordNotFound) fun staff =>
      if staff.active = true ∧ staff.role = .admin then .togglingAdmin staff else toggled staff
  | .togglingAdmin staff => reads o (checkAdminCount "active") fun _ => toggled staff
  | .updateStaff request => reads o (checkStaffRequest p request) fun _ => .updateChecked request
  | .updateChecked request =>
    match (loadAccount request.id ErrStaffNotFound).run o.tables with
    | .error e => (.answered (.error e), o)
    | .ok (current, _) =>
      if current.role = .admin ∧ request.role ≠ .admin then (.updateCounting current request, o)
      else reads o (checkPrivilege p env current request) fun row => .saving row none
  | .updateCounting current request =>
    reads o (checkAdminCount "role" >>= fun _ => checkPrivilege p env current request) fun row => .saving row none
  | .updateStaffPassword id newPassword =>
    reads o (loadForPassword env id newPassword) fun staff => .passwordChecked staff id newPassword
  | .passwordChecked staff id newPassword =>
    reads o (hashNewPassword p env staff id newPassword) fun row => .saving row none
  | .deleteStaff id force =>
    reads o (loadAccount id ErrStaffNotFound) fun staff =>
      if staff.role = .admin then .deletingAdmin staff force else .countingSales staff force
  | .deletingAdmin staff force => reads o (checkAdminCount "role") fun _ => .countingSales staff force
  | .countingSales staff force => (.countingPayments staff force (salesCount o.tables staff.id), o)
  | .countingPayments staff force sales =>
    (if (0 < sales ∨ 0 < paymentsCount o.tables staff.id) ∧ force = false then
      .saving { staff with active := false } (some "DISABLE_STAFF_FAILED") else .deleting staff.id, o)
  | .saving row failure => o.saveStaff row failure
  | .deleting id => (.answered (.ok ()), o.deleteStaff id)
  | .answered result => (.answered result, o)

/-- Time passes, and then the task makes its next repository call. -/
def OfficeTask.step (p : Platform) (e : OfficeEnv) (task : OfficeTask) (o : StaffOffice) : OfficeTask × StaffOffice :=
  task.act p e.env (o.waited e.elapsed)

abbrev OfficeWorld := World StaffOffice OfficeTask

/-- A save of an account that is not refused writes the authority that is stored. -/
def SavesStored (t : Roster) (staff : Staff) : Prop :=
  (∀ other ∈ t.rows, other.id ≠ staff.id → other.username ≠ staff.username) →
    t.authorityOf staff.id = some staff.authority

instance (t : Roster) (staff : Staff) : Decidable (SavesStored t staff) := inferInstanceAs (Decidable (_ → _))

/-- A login that is about to save its account saves what is stored of it. -/
def OfficeTask.savesStored (task : OfficeTask) (t : Roster) : Prop :=
  match task with
  | .authenticateByUsername call =>
    match call.stage with
    | .stamping staff => SavesStored t staff
    | _ => True
  | .stampingPIN _ staff => SavesStored t staff
  | _ => True

def LoginsCurrent (_ : Turn OfficeEnv) (task : OfficeTask) (w : OfficeWorld) : Prop :=
  task.savesStored w.state.desk.staff

/-- Every account is as the last completed change left it. -/
def StaffOffice.Respected (o : StaffOffice) : Prop := ∀ id, o.desk.staff.authorityOf id = o.decided id

/-- An office as its tables are, before the tasks begin. -/
def officeWorld (desk : LoginDesk) (store : Store) (tasks : List OfficeTask) : OfficeWorld :=
  ⟨⟨desk, store, desk.staff.authorityOf⟩, tasks⟩

section Alone

variable {p : Platform} {env : StaffEnv} {id newPassword : String} {force : Bool} {request row : Staff}
  {db final : StaffStore} {ws : List StaffWrite}

/-! The repository calls of a task in a row, with no other task between them, are the call
in one transaction. -/

theorem loadAccount_does {missing : Failure} {staff : Staff} :
    Does (loadAccount id missing) db staff ws final ↔ db.staff.find? id = some staff ∧ ws = [] ∧ final = db := by
  unfold loadAccount
  rw [does_ask_bind, does_require]

theorem checkAdminCount_does {field : String} {u : Unit} :
    Does (checkAdminCount field) db u ws final ↔ 1 < db.staff.countByRole .admin ∧ ws = [] ∧ final = db := by
  unfold checkAdminCount
  rw [does_ask_bind, does_ensure]

theorem prepareToggle_stages : Does (prepareToggle id) db row [] db ↔
    ∃ staff, Does (loadAccount id .recordNotFound) db staff [] db ∧
      (staff.active = true ∧ staff.role = .admin → Does (checkAdminCount "active") db () [] db) ∧
      row = { staff with active := !staff.active } := by
  unfold prepareToggle
  simp only [does_ask_bind, does_require_bind, does_ensure_bind, does_pure, loadAccount_does, checkAdminCount_does,
    and_true, and_imp]

theorem prepareDelete_stages {saved : Option Staff} : Does (prepareDelete id force) db saved [] db ↔
    ∃ staff, Does (loadAccount id ErrStaffNotFound) db staff [] db ∧
      (staff.role = .admin → Does (checkAdminCount "role") db () [] db) ∧
      saved = if (0 < salesCount db id ∨ 0 < paymentsCount db id) ∧ force = false then
        some { staff with active := false } else none := by
  unfold prepareDelete
  simp only [does_ask_bind, does_require_bind, does_ensure_bind, does_pure, loadAccount_does, checkAdminCount_does,
    and_true]

theorem prepareUpdate_stages : Does (prepareUpdate p env request) db row [] db ↔
    Does (checkStaffRequest p request) db () [] db ∧
      ∃ current, Does (loadAccount request.id ErrStaffNotFound) db current [] db ∧
        (current.role = .admin ∧ request.role ≠ .admin → Does (checkAdminCount "role") db () [] db) ∧
        Does (checkPrivilege p env current request) db row [] db := by
  unfold prepareUpdate checkStaffRequest checkPrivilege checkName checkUsername
  simp only [does_ask_bind, does_require_bind, does_ensure_bind, does_pure, loadAccount_does, checkAdminCount_does,
    and_true, and_imp, (checkContact_readOnly p request).does_bind_iff, Unique.exists_iff, and_assoc]

theorem loadForPassword_does {staff : Staff} : Does (loadForPassword env id newPassword) db staff [] db ↔
    db.staff.find? id = some staff ∧ (staff.role = .admin →
      env.currentStaffID = "" ∨ env.currentStaffID = staff.id ∨ env.currentRole = "admin") ∧
      Does (checkPassword staff.role newPassword) db () [] db := by
  have loaded : ReadOnly (loadAccount id ErrStaffNotFound) := readOnly_ask.bind fun _ => readOnly_require
  have checked := fun role => checkPassword_readOnly role newPassword
  unfold loadForPassword
  simp only [loaded.does_bind_iff, loadAccount_does, does_ensure_bind, (checked _).does_bind_iff, does_pure,
    Unique.exists_iff, and_true]
  constructor
  · rintro ⟨_, found, caller, sound, rfl⟩
    exact ⟨found, caller, sound⟩
  · rintro ⟨found, caller, sound⟩
    exact ⟨staff, found, caller, sound, rfl⟩

theorem preparePassword_stages : Does (preparePassword p env id newPassword) db row [] db ↔
    ∃ staff, Does (loadForPassword env id newPassword) db staff [] db ∧
      Does (hashNewPassword p env staff id newPassword) db row [] db := by
  have checked := fun role => checkPassword_readOnly role newPassword
  have regrouped : preparePassword p env id newPassword = (do
      let found ← ask (fun db => db.staff.find? id)
      let staff ← require found ErrStaffNotFound
      ensure (staff.role = .admin → env.currentStaffID = "" ∨ env.currentStaffID = staff.id ∨ env.currentRole = "admin")
        (unauthorizedAdminModification "غير مصرح لك بتعديل كلمة مرور حساب المسؤول" "id")
      checkPassword staff.role newPassword
      hashNewPassword p env staff id newPassword) := rfl
  simp only [regrouped, does_ask_bind, does_require_bind, does_ensure_bind, (checked _).does_bind_iff,
    loadForPassword_does, Unique.exists_iff, and_assoc]

end Alone

section Saves

variable {t next : Roster} {row : Staff}

theorem create?_find (created : t.create? row = some next) (id : String) :
    next.find? id = if id = row.id then some row else t.find? id := by
  unfold Roster.create? at created
  split at created
  · split at created
    · cases created
    · rename_i inserted
      cases created
      exact Table.find?_insert inserted id
  · cases created

/-- A save that is not refused leaves its row and every other account. -/
theorem save?_find (saved : t.save? row = some next) (id : String) :
    next.find? id = if id = row.id then some row else t.find? id := by
  unfold Roster.save? at saved
  split at saved
  · exact create?_find saved id
  · rename_i there
    split at saved
    · cases saved
      obtain ⟨old, found⟩ := Option.ne_none_iff_exists'.mp there
      refine Table.find?_put.trans ?_
      split
      · next same => rw [same, found, Option.map_some]
      · rfl
    · cases saved

/-- A save is refused only for its user name. -/
theorem save?_isSome : (t.save? row).isSome ↔ ∀ other ∈ t.rows, other.id ≠ row.id → other.username ≠ row.username := by
  unfold Roster.save?
  split
  · next absent =>
    have fresh := Table.find?_none.mp absent
    constructor
    · intro created other member _
      obtain ⟨next, created⟩ := Option.isSome_iff_exists.mp created
      unfold Roster.create? at created
      split at created
      · next free => exact free other member
      · cases created
    · intro free
      obtain ⟨next, created, _⟩ := Roster.create?_free t row fun old member =>
        ⟨fresh old member, free old member (fresh old member)⟩
      rw [created]
      rfl
  · split
    · next free => exact iff_of_true rfl free
    · next taken => exact iff_of_false (by simp) taken

theorem authorityOf_saved (saved : t.save? row = some next) (id : String) :
    next.authorityOf id = if id = row.id then some row.authority else t.authorityOf id := by
  rw [Roster.authorityOf, save?_find saved]
  split <;> rfl

theorem authorityOf_delete (t : Roster) (id other : String) :
    (t.delete id).authorityOf other = if other = id then none else t.authorityOf other := by
  have found : (t.delete id).find? other = (t.find? other).filter (fun s => s.id ≠ id) := Table.find?_filter
  rw [Roster.authorityOf, found, Roster.authorityOf]
  cases stored : t.find? other with
  | none => simp
  | some s =>
    have named : s.id = other := Table.find?_key stored
    by_cases same : other = id
    · simp [named, same]
    · simp [named, same]

end Saves

section Steps

variable {p : Platform} {o : StaffOffice}

theorem reads_office (x : StaffTx α) (next : α → OfficeTask) : (reads o x next).2 = o := by
  unfold reads
  split <;> rfl

/-- The save of a login keeps what is decided when and only when it writes what is stored. -/
theorem updateStaff_respected (staff : Staff) (now : Int) (respected : o.Respected) :
    StaffOffice.Respected { o with desk := o.desk.updateStaff (staff.loggedIn now) } ↔
      SavesStored o.desk.staff staff := by
  have accepted : (o.desk.staff.save? (staff.loggedIn now)).isSome ↔
      ∀ other ∈ o.desk.staff.rows, other.id ≠ staff.id → other.username ≠ staff.username := save?_isSome
  cases saved : o.desk.staff.save? (staff.loggedIn now) with
  | none =>
    have refused : ¬ ∀ other ∈ o.desk.staff.rows, other.id ≠ staff.id → other.username ≠ staff.username := by
      rw [← accepted, saved]
      simp
    refine iff_of_true ?_ fun free => absurd free refused
    simp only [LoginDesk.updateStaff, saved, Option.getD_none]
    exact respected
  | some next =>
    have free := accepted.mp (by rw [saved]; rfl)
    have after : ∀ id, (o.desk.updateStaff (staff.loggedIn now)).staff.authorityOf id =
        if id = staff.id then some staff.authority else o.desk.staff.authorityOf id := by
      intro id
      simp only [LoginDesk.updateStaff, saved, Option.getD_some]
      exact authorityOf_saved saved id
    constructor
    · intro kept _
      have here := kept staff.id
      rw [after, if_pos rfl, ← respected] at here
      exact here.symm
    · intro stored id
      rw [after]
      split
      · next same => rw [same, ← stored free, respected]
      · exact respected id

/-- Until its save a login leaves the accounts alone. -/
theorem act_staff (call : LoginCall) (d : LoginDesk) (reading : ∀ staff, call.stage ≠ .stamping staff) :
    (call.act p d).2.staff = d.staff := by
  unfold LoginCall.act
  cases stage : call.stage with
  | stamping staff => exact absurd stage (reading staff)
  | begins =>
    simp only
    split <;> rfl
  | admitted =>
    simp only
    split
    · rfl
    · split <;> rfl
  | failing compared =>
    simp only [LoginDesk.recordFailedAttempt]
    split
    · rfl
    · split <;> rfl
  | found | advising | matched | answered => rfl

/-- One repository call of a task, a case for each. -/
theorem act_respected (env : StaffEnv) (task : OfficeTask) (respected : o.Respected) :
    StaffOffice.Respected (task.act p env o).2 ↔ task.savesStored o.desk.staff := by
  have unchanged : ∀ {α : Type} (x : StaffTx α) (next : α → OfficeTask), (reads o x next).2.Respected := by
    intro α x next
    rw [reads_office]
    exact respected
  cases task with
  | authenticateByUsername call =>
    cases stage : call.stage with
    | stamping staff =>
      simp only [OfficeTask.act, OfficeTask.savesStored, LoginCall.act, stage]
      exact updateStaff_respected staff o.desk.now respected
    | begins | admitted | found | failing | advising | matched | answered =>
      simp only [OfficeTask.savesStored, stage, iff_true]
      intro id
      simp only [OfficeTask.act]
      have unsaved : ∀ staff, call.stage ≠ .stamping staff := by simp [stage]
      rw [act_staff call o.desk unsaved]
      exact respected id
  | stampingPIN pin staff => exact updateStaff_respected staff o.desk.now respected
  | authenticateByPIN pin =>
    refine iff_of_true ?_ trivial
    simp only [OfficeTask.act]
    split <;> exact respected
  | updateChecked request =>
    refine iff_of_true ?_ trivial
    simp only [OfficeTask.act]
    split
    · exact respected
    · split
      · exact respected
      · exact unchanged _ _
  | saving row failure =>
    refine iff_of_true ?_ trivial
    simp only [OfficeTask.act, StaffOffice.saveStaff]
    split
    · exact respected
    · next saved =>
      intro id
      simp only [authorityOf_saved saved]
      split
      · rfl
      · exact respected id
  | deleting gone =>
    refine iff_of_true (fun id => ?_) trivial
    simp only [OfficeTask.act, StaffOffice.deleteStaff, authorityOf_delete]
    split
    · rfl
    · exact respected id
  | toggleStaffStatus | togglingAdmin | updateStaff | updateCounting | updateStaffPassword | passwordChecked
  | deleteStaff | deletingAdmin => exact iff_of_true (unchanged _ _) trivial
  | authenticated | countingSales | countingPayments | answered => exact iff_of_true respected trivial

theorem step_respected (e : OfficeEnv) (task : OfficeTask) (respected : o.Respected) :
    (task.step p e o).2.Respected ↔ task.savesStored o.desk.staff := by
  have waited : (o.waited e.elapsed).Respected := respected
  exact act_respected e.env task waited

end Steps

/-- After every part of every interleaving each account is as the last completed change by
a call that manages accounts left it, when and only when every login that saves an account
writes the role, permissions, password and activity that are stored at that moment. -/
theorem logins_respect_changes (p : Platform) (desk : LoginDesk) (store : Store) (tasks : List OfficeTask)
    (schedule : List (Turn OfficeEnv)) :
    (∀ front back, schedule = front ++ back →
        (run (OfficeTask.step p) front (officeWorld desk store tasks)).state.Respected) ↔
      Meets (OfficeTask.step p) LoginsCurrent schedule (officeWorld desk store tasks) :=
  invariant_iff_meets (fun now : OfficeWorld => now.state.Respected)
    (fun _ turn task respected _ => step_respected turn.env task respected) fun _ => rfl

section Mona

/-- Mona logs in while the administrator switches her account off. -/
def monaLogsIn : OfficeWorld :=
  officeWorld ⟨0, .empty, office.staff, []⟩ .empty
    [.authenticateByUsername ⟨"mona", "mona", .begins⟩, .toggleStaffStatus "mona"]

def officeTurns (turns : List Nat) : List (Turn OfficeEnv) :=
  turns.map fun task => ⟨task, 0, session "root" .admin⟩

def monaOff : OfficeWorld := run (OfficeTask.step host) (officeTurns [0, 0, 1, 1]) monaLogsIn

end Mona

/-- The login read her account before it was switched off, and switches it on again. -/
theorem logins_respect_changes_mona :
    (monaOff.state.desk.staff.authorityOf "mona").map Authority.active = some false ∧
      ¬ (run (OfficeTask.step host) (officeTurns [0, 0, 0]) monaOff).state.Respected := by
  refine ⟨by decide +kernel, fun respected => ?_⟩
  have on : ((run (OfficeTask.step host) (officeTurns [0, 0, 0]) monaOff).state.desk.staff.authorityOf
      "mona").map Authority.active = some true := by decide +kernel
  have decided : ((run (OfficeTask.step host) (officeTurns [0, 0, 0]) monaOff).state.decided "mona").map
      Authority.active = some false := by decide +kernel
  have same := congrArg (Option.map Authority.active) (respected "mona")
  rw [on, decided] at same
  cases same

end BeidarPos
