import BeidarPos.Store

/-! Staff accounts and the services that manage them. Every service call checks first
and then writes one row at most; the checks of a call are a transaction of their own
that answers with the row to be written. -/
namespace BeidarPos

open Relational Journal Tx

/-- What the service takes from packages outside the repository: the case mapping of
a character, and password hashing with its salt. -/
structure Platform where
  lower : Char → Char
  hashPassword : String → String → Except String String
  verifies : String → String → Bool

structure Staff where
  id : String
  name : String
  username : String
  passwordHash : String
  mustChangePin : Bool
  role : Role
  phone : String
  email : String
  active : Bool
  permissions : List String
  lastLogin : Int
  createdAt : Int
  supabaseUserID : String
  fastPIN : String
  deriving DecidableEq

/-- The staff table: identifiers and user names are both unique. -/
structure Roster extends Table Staff.id where
  usernames : (rows.map Staff.username).Nodup

namespace Roster

@[ext] theorem ext {a b : Roster} (h : a.rows = b.rows) : a = b := by
  cases a with | mk ta _ =>
  cases b with | mk tb _ =>
  cases Table.ext (a := ta) (b := tb) h
  rfl

instance : DecidableEq Roster := fun a b => decidable_of_iff (a.rows = b.rows) ⟨ext, fun h => h ▸ rfl⟩

def empty : Roster := ⟨.empty, List.nodup_nil⟩

def findUsername (t : Roster) (username : String) : Option Staff := t.rows.find? (fun s => s.username = username)

def countByRole (t : Roster) (role : Role) : Nat := (t.rows.filter (fun s => s.role = role)).length

/-- Adds a row, or refuses because its identifier or user name is taken. -/
def create? (t : Roster) (row : Staff) : Option Roster :=
  if free : ∀ old ∈ t.rows, old.username ≠ row.username then
    match inserted : t.toTable.insert? row with
    | none => none
    | some next => some ⟨next, by
        rw [(Table.insert?_rows inserted).1, List.map_append, List.nodup_append]
        refine ⟨t.usernames, by simp, ?_⟩
        intro a ha b hb
        simp only [List.map_cons, List.map_nil, List.mem_singleton] at hb
        obtain ⟨old, member, rfl⟩ := List.mem_map.mp ha
        rw [hb]
        exact free old member⟩
  else none

/-- A save rewrites the row with the identifier, or inserts it when there is none. -/
def save? (t : Roster) (row : Staff) : Option Roster :=
  if t.find? row.id = none then t.create? row
  else if free : ∀ old ∈ t.rows, old.id ≠ row.id → old.username ≠ row.username then
    some ⟨t.toTable.put row, by
      refine List.Nodup.map_on ?_ (List.Nodup.of_map _ (t.toTable.put row).distinct)
      intro a ha b hb same
      have kept : ∀ x ∈ (t.toTable.put row).rows, x = row ∨ (x ∈ t.rows ∧ x.id ≠ row.id) := by
        intro x member
        obtain ⟨old, before, rfl⟩ := List.mem_map.mp member
        by_cases own : old.id = row.id
        · simp [own]
        · simp [own, before]
      rcases kept a ha with rfl | ⟨oldA, otherA⟩ <;> rcases kept b hb with rfl | ⟨oldB, otherB⟩
      · rfl
      · exact absurd same.symm (free b oldB otherB)
      · exact absurd same (free a oldA otherA)
      · exact List.inj_on_of_nodup_map t.usernames oldA oldB same⟩
  else none

def delete (t : Roster) (id : String) : Roster where
  rows := t.rows.filter (fun s => s.id ≠ id)
  distinct := t.distinct.sublist ((List.filter_sublist).map Staff.id)
  usernames := t.usernames.sublist ((List.filter_sublist).map Staff.username)

theorem create?_rows {t next : Roster} {row : Staff} (h : t.create? row = some next) :
    next.rows = t.rows ++ [row] := by
  unfold create? at h
  split at h
  · split at h
    · cases h
    · rename_i inserted
      cases h
      exact (Table.insert?_rows inserted).1
  · cases h

/-- A row whose identifier and user name are free is added. -/
theorem create?_free (t : Roster) (row : Staff)
    (free : ∀ old ∈ t.rows, old.id ≠ row.id ∧ old.username ≠ row.username) :
    ∃ next, t.create? row = some next ∧ next.rows = t.rows ++ [row] := by
  obtain ⟨next, inserted, _⟩ := Table.insert?_free t.toTable row (fun old member => (free old member).1)
  unfold create?
  rw [dif_pos (fun old member => (free old member).2)]
  split
  · rename_i refused
    rw [refused] at inserted
    cases inserted
  · rename_i found
    exact ⟨_, rfl, (Table.insert?_rows found).1⟩

/-- Saving a row that is there rewrites it in place. -/
theorem save?_rows {t next : Roster} {row old : Staff} (found : t.find? row.id = some old)
    (h : t.save? row = some next) : next.rows = t.rows.map fun s => if s.id = row.id then row else s := by
  unfold save? at h
  rw [if_neg (by simp [found])] at h
  split at h
  · cases h
    rfl
  · cases h

end Roster

/-- The tables the staff service reads and writes; sales and payments are only read. -/
structure StaffStore where
  staff : Roster
  store : Store
  deriving DecidableEq

inductive StaffWrite where
  | create (row : Staff)
  | update (row : Staff)
  | delete (id : String)
  deriving DecidableEq

def StaffWrite.apply : StaffWrite → StaffStore → Except Failure StaffStore
  | .create row, db =>
    match db.staff.create? row with
    | some staff => .ok { db with staff := staff }
    | none => .error (.constraint "staffs")
  | .update row, db =>
    match db.staff.save? row with
    | some staff => .ok { db with staff := staff }
    | none => .error (.constraint "staffs")
  | .delete id, db => .ok { db with staff := db.staff.delete id }

abbrev StaffTx := Tx StaffWrite.apply

def Role.name : Role → String
  | .admin => "admin"
  | .manager => "manager"
  | .cashier => "cashier"
  | .viewer => "viewer"
  | .other name _ => name

def RolePermissions : Role → List String
  | .admin => ["sales", "products", "inventory", "customers", "invoices", "reports", "finance", "settings",
      "staff_manage", "discounts", "delete_sales", "edit_prices", "export_data"]
  | .manager => ["sales", "products", "inventory", "customers", "invoices", "reports", "finance", "discounts",
      "delete_sales", "edit_prices"]
  | .cashier => ["sales", "customers", "invoices", "discounts"]
  | .viewer | .other _ _ => []

/-- The session a call is made in, the clock, a fresh identifier and a fresh salt. -/
structure StaffEnv where
  session : Option (String × Role)
  unix : Int
  freshID : String
  salt : String

def StaffEnv.currentStaffID (env : StaffEnv) : String := (env.session.map Prod.fst).getD ""

def StaffEnv.currentRole (env : StaffEnv) : String := (env.session.map fun s => s.2.name).getD ""

def whiteSpace : List Char :=
  ['\t', '\n', '\x0b', '\x0c', '\r', ' ', '\u0085', '\u00a0', '\u1680', '\u2000', '\u2001', '\u2002', '\u2003',
    '\u2004', '\u2005', '\u2006', '\u2007', '\u2008', '\u2009', '\u200a', '\u2028', '\u2029', '\u202f', '\u205f',
    '\u3000']

def trimSpace (s : String) : String :=
  let front := s.toList.dropWhile (· ∈ whiteSpace)
  String.ofList (front.reverse.dropWhile (· ∈ whiteSpace)).reverse

def toLower (p : Platform) (s : String) : String := s.map p.lower

def inRange (low high c : Char) : Bool := low ≤ c && c ≤ high

def isLocal (c : Char) : Bool := inRange 'a' 'z' c || inRange '0' '9' c || "._%+-".toList.contains c

def isDomain (c : Char) : Bool := inRange 'a' 'z' c || inRange '0' '9' c || ".-".toList.contains c

/-- A local part, an at sign, a domain, and after the last dot two to four letters. -/
def isValidEmail (p : Platform) (email : String) : Bool :=
  let text := (toLower p email).toList
  let user := text.takeWhile (· ≠ '@')
  let rest := (text.dropWhile (· ≠ '@')).drop 1
  let top := (rest.reverse.takeWhile (· ≠ '.')).reverse
  let domain := rest.take (rest.length - top.length - 1)
  !user.isEmpty && user.all isLocal && rest.contains '.' && !domain.isEmpty && domain.all isDomain &&
    decide (2 ≤ top.length) && decide (top.length ≤ 4) && top.all (inRange 'a' 'z')

def isValidIraqiPhone (phone : String) : Bool :=
  let cleaned := phone.toList.filter (inRange '0' '9')
  decide (cleaned.length = 11) && decide (cleaned.head? = some '0') && decide (cleaned[1]? = some '7')

def checkUsingDefaultPassword (password : String) : Bool :=
  ["0000", "admin123", "password", "123456", "1234", "1111"].contains password

def staffError (code field : String) (args : List Arg) : Failure := AppError.keyed .staff code code args field

def ErrStaffNotFound : Failure := staffError "STAFF_NOT_FOUND" "id" []

def ErrLastAdmin (field : String) : Failure := staffError "LAST_ADMIN" field []

def unauthorizedAdminModification (message field : String) : Failure :=
  AppError.texts .staff "UNAUTHORIZED_ADMIN_MODIFICATION" (.plain message) "" field

def checkName (name : String) : StaffTx Unit :=
  ensure (2 ≤ name.utf8ByteSize) (staffError "STAFF_INVALID_NAME" "name" [])

def checkUsername (username : String) : StaffTx Unit :=
  ensure (3 ≤ username.utf8ByteSize ∧ username.utf8ByteSize ≤ 20) (staffError "INVALID_USERNAME" "username" [])

/-- An administrator has a password, everyone else a PIN of four digits. -/
def checkPassword (role : Role) (password : String) : StaffTx Unit :=
  if role = .admin then
    ensure (4 ≤ password.utf8ByteSize) (staffError "WEAK_PASSWORD" "password" [])
  else do
    ensure (password.utf8ByteSize = 4) (staffError "PIN_TOO_SHORT" "password" [])
    ensure (password.toList.all (inRange '0' '9') = true) (staffError "PIN_NOT_NUMERIC" "password" [])
    ensure (checkUsingDefaultPassword password = false) (staffError "WEAK_PIN" "password" [])

def checkContact (p : Platform) (staff : Staff) : StaffTx Unit := do
  ensure (staff.email ≠ "" → isValidEmail p staff.email = true)
    (staffError "INVALID_EMAIL" "email" [.text staff.email])
  ensure (staff.phone ≠ "" → isValidIraqiPhone staff.phone = true)
    (staffError "STAFF_INVALID_PHONE" "phone" [.text staff.phone])

/-- Whether another account's stored hash verifies the PIN. -/
def pinAlreadyUsed (p : Platform) (t : Roster) (pin excludeID : String) : Bool :=
  t.rows.any fun s => decide (s.passwordHash ≠ "" ∧ s.id ≠ excludeID) && p.verifies s.passwordHash pin

def checkPin (p : Platform) (pin excludeID : String) : StaffTx Unit := do
  let used ← ask (fun db => pinAlreadyUsed p db.staff pin excludeID)
  ensure (used = false) (staffError "DUPLICATE_PIN" "password" [])

def withDefaults (role : Role) (permissions : List String) : List String :=
  if permissions = [] then RolePermissions role else permissions

/-- The checks of `createStaff`: no session is looked at, whatever the role. -/
def prepareStaff (p : Platform) (env : StaffEnv) (request : Staff) (password : String) : StaffTx Staff := do
  checkName request.name
  let username := toLower p (trimSpace request.username)
  checkUsername username
  let existing ← ask (fun db => db.staff.findUsername username)
  ensure (existing = none) (staffError "DUPLICATE_USERNAME" "username" [.text username])
  ensure (password ≠ "") (staffError "PASSWORD_REQUIRED" "password" [])
  checkPassword request.role password
  checkContact p request
  checkPin p password ""
  let hash ← match p.hashPassword env.salt password with
    | .ok hash => pure hash
    | .error cause => fail (AppError.texts .staff "DATABASE_ERROR" (.message "DATABASE_ERROR" []) cause "")
  pure { request with
    id := if request.id = "" then env.freshID else request.id
    username := username
    createdAt := env.unix
    active := true
    passwordHash := hash
    permissions := withDefaults request.role request.permissions }

def createStaff (p : Platform) (env : StaffEnv) (request : Staff) (password : String) : StaffTx Unit := do
  let row ← prepareStaff p env request password
  write (.create row)

/-- The row an edit writes: what the request may change, over the stored row. -/
def editedStaff (p : Platform) (current request : Staff) : Staff :=
  { current with
    name := request.name
    username := toLower p (trimSpace request.username)
    role := request.role
    phone := request.phone
    email := request.email
    active := request.active
    mustChangePin := request.mustChangePin
    permissions := withDefaults request.role request.permissions }

def prepareUpdate (p : Platform) (env : StaffEnv) (request : Staff) : StaffTx Staff := do
  ensure (request.id ≠ "") (staffError "MISSING_STAFF_ID" "id" [])
  checkName request.name
  checkUsername request.username
  let existing ← ask (fun db => db.staff.findUsername request.username)
  ensure (∀ other ∈ existing, other.id = request.id)
    (staffError "DUPLICATE_USERNAME" "username" [.text request.username])
  checkContact p request
  let found ← ask (fun db => db.staff.find? request.id)
  let current ← require found ErrStaffNotFound
  let admins ← ask (fun db => db.staff.countByRole .admin)
  -- a change of role is counted, a deactivation is not
  ensure (current.role = .admin → request.role ≠ .admin → 1 < admins) (ErrLastAdmin "role")
  ensure (current.role = .admin ∨ request.role = .admin → env.currentRole = "" ∨ env.currentRole = "admin")
    (unauthorizedAdminModification "فقط مسؤول النظام يمكنه تعديل بيانات حساب المسؤول أو الترقية لرتبة مسؤول" "role")
  pure (editedStaff p current request)

def updateStaff (p : Platform) (env : StaffEnv) (request : Staff) : StaffTx Unit := do
  let row ← prepareUpdate p env request
  write (.update row)

def preparePassword (p : Platform) (env : StaffEnv) (id newPassword : String) : StaffTx Staff := do
  let found ← ask (fun db => db.staff.find? id)
  let staff ← require found ErrStaffNotFound
  ensure (staff.role = .admin → env.currentStaffID = "" ∨ env.currentStaffID = staff.id ∨ env.currentRole = "admin")
    (unauthorizedAdminModification "غير مصرح لك بتعديل كلمة مرور حساب المسؤول" "id")
  checkPassword staff.role newPassword
  checkPin p newPassword id
  let hash ← match p.hashPassword env.salt newPassword with
    | .ok hash => pure hash
    | .error cause => fail (.plain (.plain cause))
  pure { staff with passwordHash := hash, mustChangePin := false }

def updateStaffPassword (p : Platform) (env : StaffEnv) (id newPassword : String) : StaffTx Unit := do
  let row ← preparePassword p env id newPassword
  write (.update row)

def salesCount (db : StaffStore) (staffID : String) : Nat :=
  (db.store.sales.rows.filter (fun sale => sale.staffID = staffID)).length

def paymentsCount (db : StaffStore) (staffID : String) : Nat :=
  (db.store.payments.rows.filter (fun p => p.staffID = staffID)).length

/-- An account with sales or payments is only deactivated, unless it is forced. -/
def deleteStaff (id : String) (force : Bool) : StaffTx Unit := do
  let found ← ask (fun db => db.staff.find? id)
  let staff ← require found ErrStaffNotFound
  let admins ← ask (fun db => db.staff.countByRole .admin)
  ensure (staff.role = .admin → 1 < admins) (ErrLastAdmin "role")
  let sales ← ask (fun db => salesCount db id)
  let payments ← ask (fun db => paymentsCount db id)
  if (0 < sales ∨ 0 < payments) ∧ force = false then
    mapError (.wrapped (.message "DISABLE_STAFF_FAILED" [])) (write (.update { staff with active := false }))
  else mapError (.wrapped (.message "DELETE_STAFF_FAILED" [])) (write (.delete id))

def toggleStaffStatus (id : String) : StaffTx Unit := do
  let found ← ask (fun db => db.staff.find? id)
  let staff ← require found .recordNotFound
  let admins ← ask (fun db => db.staff.countByRole .admin)
  ensure (staff.active = true → staff.role = .admin → 1 < admins) (ErrLastAdmin "active")
  write (.update { staff with active := !staff.active })

inductive StaffCall where
  | create (request : Staff) (password : String)
  | update (request : Staff)
  | updatePassword (id newPassword : String)
  | toggle (id : String)
  | delete (id : String) (force : Bool)

def StaffCall.body (p : Platform) (env : StaffEnv) : StaffCall → StaffTx Unit
  | .create request password => createStaff p env request password
  | .update request => updateStaff p env request
  | .updatePassword id newPassword => updateStaffPassword p env id newPassword
  | .toggle id => toggleStaffStatus id
  | .delete id force => deleteStaff id force

end BeidarPos
