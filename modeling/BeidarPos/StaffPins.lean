import BeidarPos.StaffAdmins
import BeidarPos.LoginLockout

/-! PINs: nobody's password is another's. The stored hashes are salted, so each call that
sets a password first compares it with every stored hash, and writes its row in a later
step; a call that only switches an account on or off writes back the row it read. -/
namespace BeidarPos

open Relational Journal Tx Interleaving

/-- A call where it stands; between its check and its write it holds the row to write. -/
inductive StaffTask where
  | createStaff (request : Staff) (password : String)
  | creating (row : Staff) (password : String)
  | updateStaffPassword (id newPassword : String)
  | savingPassword (row : Staff) (newPassword : String)
  | seedDefaultAdmin
  | healing
  | savingHealed (row : Staff)
  | toggleStaffStatus (id : String)
  | deleteStaff (id : String) (force : Bool)
  | savingRow (row : Staff) (failure : Option String)
  | deleting (id : String)
  | answered (result : Except Failure Unit)

/-- The row a switch of an account saves. -/
def prepareToggle (id : String) : StaffTx Staff := do
  let found ← ask (fun db => db.staff.find? id)
  let staff ← require found .recordNotFound
  let admins ← ask (fun db => db.staff.countByRole .admin)
  ensure (staff.active = true → staff.role = .admin → 1 < admins) (ErrLastAdmin "active")
  pure { staff with active := !staff.active }

/-- The row a deletion saves instead, for an account with sales or payments. -/
def prepareDelete (id : String) (force : Bool) : StaffTx (Option Staff) := do
  let found ← ask (fun db => db.staff.find? id)
  let staff ← require found ErrStaffNotFound
  let admins ← ask (fun db => db.staff.countByRole .admin)
  ensure (staff.role = .admin → 1 < admins) (ErrLastAdmin "role")
  let sales ← ask (fun db => salesCount db id)
  let payments ← ask (fun db => paymentsCount db id)
  pure (if (0 < sales ∨ 0 < payments) ∧ force = false then some { staff with active := false } else none)

section Halves

variable {id : String} {force : Bool} {db final : StaffStore} {u : Unit} {ws : List StaffWrite}

/-- The check and the write of a switch in a row are the switch in one transaction. -/
theorem toggleStaffStatus_halves : Does (toggleStaffStatus id) db u ws final ↔
    ∃ row, Does (prepareToggle id) db row [] db ∧ Does (write (.update row) : StaffTx Unit) db u ws final := by
  unfold toggleStaffStatus prepareToggle
  simp only [does_ask_bind, does_require_bind, does_ensure_bind, does_pure]
  constructor
  · rintro ⟨staff, found, counted, saved⟩
    exact ⟨_, ⟨staff, found, counted, rfl, trivial, trivial⟩, saved⟩
  · rintro ⟨row, ⟨staff, found, counted, rfl, -, -⟩, saved⟩
    exact ⟨staff, found, counted, saved⟩

/-- The same for a deletion. -/
theorem deleteStaff_halves : Does (deleteStaff id force) db u ws final ↔
    ∃ row, Does (prepareDelete id force) db row [] db ∧
      Does (write (row.elim (.delete id) .update) : StaffTx Unit) db u ws final := by
  unfold deleteStaff prepareDelete
  simp only [does_ask_bind, does_require_bind, does_ensure_bind, does_pure]
  constructor
  · rintro ⟨staff, found, counted, saved⟩
    refine ⟨_, ⟨staff, found, counted, rfl, trivial, trivial⟩, ?_⟩
    split at saved
    · next soft => simpa [if_pos soft] using saved
    · next hard => simpa [if_neg hard] using saved
  · rintro ⟨row, ⟨staff, found, counted, rfl, -, -⟩, saved⟩
    refine ⟨staff, found, counted, ?_⟩
    split
    · next soft => simpa [if_pos soft] using saved
    · next hard => simpa [if_neg hard] using saved

end Halves

/-- The administrator a first start creates. -/
def defaultAdmin : Staff :=
  ⟨"", "المدير", "admin", "", true, .admin, "", "", true, [], 0, 0, "", ""⟩

/-- A seeded administrator who never logged in. -/
def healable (admin : Staff) : Prop := admin.lastLogin = 0 ∧ admin.mustChangePin = true ∧ admin.role = .admin

instance (admin : Staff) : Decidable (healable admin) := inferInstanceAs (Decidable (_ ∧ _))

/-- The last step of a call: one write. -/
def written (write : StaffWrite) (report : Failure → Except Failure Unit) (db : StaffStore) : StaffTask × StaffStore :=
  match write.apply db with
  | .error e => (.answered (report e), db)
  | .ok next => (.answered (.ok ()), next)

def StaffTask.step (p : Platform) (env : StaffEnv) (task : StaffTask) (db : StaffStore) : StaffTask × StaffStore :=
  match task with
  | .createStaff request password =>
    match (prepareStaff p env request password).run db with
    | .error e => (.answered (.error e), db)
    | .ok (row, _) => (.creating row password, db)
  | .creating row _ => written (.create row) .error db
  | .updateStaffPassword id newPassword =>
    match (preparePassword p env id newPassword).run db with
    | .error e => (.answered (.error e), db)
    | .ok (row, _) => (.savingPassword row newPassword, db)
  | .savingPassword row _ => written (.update row) .error db
  | .seedDefaultAdmin =>
    (if db.staff.rows.length = 0 then .createStaff defaultAdmin "0000" else .healing, db)
  | .healing =>
    match db.staff.findUsername "admin" with
    | none => (.answered (.ok ()), db)
    | some admin =>
      if healable admin then
        match p.hashPassword env.salt "0000" with
        | .error _ => (.answered (.ok ()), db)
        | .ok hash => (.savingHealed { admin with passwordHash := hash }, db)
      else (.answered (.ok ()), db)
  | .savingHealed row => written (.update row) (fun _ => .ok ()) db
  | .toggleStaffStatus id =>
    match (prepareToggle id).run db with
    | .error e => (.answered (.error e), db)
    | .ok (row, _) => (.savingRow row none, db)
  | .deleteStaff id force =>
    match (prepareDelete id force).run db with
    | .error e => (.answered (.error e), db)
    | .ok (some row, _) => (.savingRow row (some "DISABLE_STAFF_FAILED"), db)
    | .ok (none, _) => (.deleting id, db)
  | .savingRow row failure =>
    let report := fun e => match failure with
      | none => .error e
      | some key => .error (.wrapped (.message key []) e)
    written (.update row) report db
  | .deleting id => written (.delete id) (fun e => .error (.wrapped (.message "DELETE_STAFF_FAILED" []) e)) db
  | .answered result => (.answered result, db)

abbrev StaffWorld := World StaffStore StaffTask

/-- Two rows whose hashes verify one password are one row. -/
def UniquePasswords (p : Platform) (rows : List Staff) : Prop :=
  ∀ a ∈ rows, ∀ b ∈ rows, a.passwordHash ≠ "" → b.passwordHash ≠ "" →
    ∀ q, p.verifies a.passwordHash q = true → p.verifies b.passwordHash q = true → a.id = b.id

/-- The account `AuthenticateByPIN` finds, in the order the accounts are visited. -/
def pinOwner (p : Platform) (visited : List Staff) (pin : String) : Option Staff :=
  visited.find? fun s => decide (s.passwordHash ≠ "") && p.verifies s.passwordHash pin

/-- What the check of a call asked holds when it writes: nobody else has the password it
sets, and a row that is written back still has the hash that was read. -/
def StaffTask.writesUnique (p : Platform) (task : StaffTask) (t : Roster) : Prop :=
  match task with
  | .creating _ password => pinAlreadyUsed p t password "" = false
  | .savingPassword row newPassword => pinAlreadyUsed p t newPassword row.id = false
  | .savingHealed row => pinAlreadyUsed p t "0000" row.id = false
  | .savingRow row _ => (t.find? row.id).map Staff.passwordHash = some row.passwordHash
  | _ => True

instance (p : Platform) (task : StaffTask) (t : Roster) : Decidable (task.writesUnique p t) :=
  match task with
  | .creating _ _ | .savingPassword _ _ | .savingHealed _ | .savingRow _ _ => inferInstanceAs (Decidable (_ = _))
  | .createStaff _ _ | .updateStaffPassword _ _ | .seedDefaultAdmin | .healing | .toggleStaffStatus _
  | .deleteStaff _ _ | .deleting _ | .answered _ => isTrue trivial

def WritesUnique (p : Platform) (_ : Turn StaffEnv) (task : StaffTask) (w : StaffWorld) : Prop :=
  task.writesUnique p w.state.staff

instance (p : Platform) (turn : Turn StaffEnv) (task : StaffTask) (w : StaffWorld) : Decidable (WritesUnique p turn task w) :=
  inferInstanceAs (Decidable (task.writesUnique p w.state.staff))

section Hashes

variable {p : Platform} {env : StaffEnv} {db final : StaffStore} {ws : List StaffWrite} {request row : Staff}
  {id password newPassword : String}

/-- A row after a save is the saved one, or another's from before. -/
theorem save?_mem {t next : Roster} (saved : t.save? row = some next) {s : Staff} (member : s ∈ next.rows) :
    s = row ∨ s ∈ t.rows ∧ s.id ≠ row.id := by
  cases found : t.find? row.id with
  | none =>
    unfold Roster.save? at saved
    rw [if_pos found] at saved
    rw [Roster.create?_rows saved] at member
    rcases List.mem_append.mp member with old | new
    · exact .inr ⟨old, Table.find?_none.mp found s old⟩
    · exact .inl (List.mem_singleton.mp new)
  | some old =>
    rw [Roster.save?_rows found saved] at member
    obtain ⟨before, inside, rfl⟩ := List.mem_map.mp member
    split
    · exact .inl rfl
    · next other => exact .inr ⟨inside, other⟩

theorem pinAlreadyUsed_false {t : Roster} {pin excludeID : String} (unused : pinAlreadyUsed p t pin excludeID = false) :
    ∀ s ∈ t.rows, s.passwordHash ≠ "" → s.id ≠ excludeID → p.verifies s.passwordHash pin = false := by
  intro s member stored other
  have refused := List.any_eq_false.mp unused s member
  simpa [stored, other] using refused

/-- One more row, or one row rewritten, whose password nobody else has. -/
theorem unique_with {rows next : List Staff} (unique : UniquePasswords p rows)
    (origin : ∀ s ∈ next, s = row ∨ s ∈ rows ∧ s.id ≠ row.id)
    (free : row.passwordHash ≠ "" → ∀ s ∈ rows, s.id ≠ row.id → s.passwordHash ≠ "" →
      ∀ q, p.verifies row.passwordHash q = true → p.verifies s.passwordHash q = false) : UniquePasswords p next := by
  intro a ha b hb storedA storedB q verifiesA verifiesB
  rcases origin a ha with rfl | ⟨oldA, otherA⟩ <;> rcases origin b hb with rfl | ⟨oldB, otherB⟩
  · rfl
  · rw [free storedA b oldB otherB storedB q verifiesA] at verifiesB
    cases verifiesB
  · rw [free storedB a oldA otherA storedA q verifiesB] at verifiesA
    cases verifiesA
  · exact unique a oldA b oldB storedA storedB q verifiesA verifiesB

end Hashes

/-- What a call between its check and its write knows of the row it holds. -/
def StaffTask.holds (p : Platform) (task : StaffTask) : Prop :=
  match task with
  | .creating row password | .savingPassword row password =>
    row.id ≠ "" ∧ ∀ q, p.verifies row.passwordHash q = true ↔ q = password
  | .savingHealed row => row.id ≠ "" ∧ ∀ q, p.verifies row.passwordHash q = true ↔ q = "0000"
  | _ => True

/-- Nobody's password is another's, and every account has an identifier. -/
def StaffStore.Distinct (p : Platform) (db : StaffStore) : Prop :=
  UniquePasswords p db.staff.rows ∧ ∀ s ∈ db.staff.rows, s.id ≠ ""

/-- The rows a step leaves: nothing new, or what one write leaves. -/
theorem written_rows {write : StaffWrite} {report : Failure → Except Failure Unit} {db : StaffStore} {p : Platform}
    {good : StaffStore → Prop} (before : good db) (after : ∀ next, write.apply db = .ok next → good next) :
    good (written write report db).2 ∧ (written write report db).1.holds p := by
  unfold written
  split
  · exact ⟨before, trivial⟩
  · next next applied => exact ⟨after next applied, trivial⟩

section Steps

variable {p : Platform} {env : StaffEnv} {db next : StaffStore} {row : Staff} {password : String}

/-- A write of a row with a new password that nobody else has. -/
theorem rows_distinct (distinct : db.Distinct p) (named : row.id ≠ "")
    (verifies : ∀ q, p.verifies row.passwordHash q = true ↔ q = password)
    (unused : ∀ s ∈ db.staff.rows, s.passwordHash ≠ "" → s.id ≠ row.id → p.verifies s.passwordHash password = false)
    (origin : ∀ s ∈ next.staff.rows, s = row ∨ s ∈ db.staff.rows ∧ s.id ≠ row.id) : next.Distinct p := by
  refine ⟨unique_with distinct.1 origin fun _ s member other stored q verified => ?_, fun s member => ?_⟩
  · rw [(verifies q).mp verified]
    exact unused s member stored other
  · rcases origin s member with rfl | ⟨old, -⟩
    · exact named
    · exact distinct.2 s old

theorem createWrite_mem (created : StaffWrite.apply (.create row) db = .ok next) :
    ∀ s ∈ next.staff.rows, s = row ∨ s ∈ db.staff.rows ∧ s.id ≠ row.id := by
  intro s member
  have rows := createWrite_rows created
  have distinct := next.staff.distinct
  rw [rows] at member
  rcases List.mem_append.mp member with old | new
  · refine .inr ⟨old, ?_⟩
    rw [rows, List.map_append, List.nodup_append] at distinct
    exact distinct.2.2 s.id (List.mem_map_of_mem old) row.id (by simp)
  · exact .inl (List.mem_singleton.mp new)

theorem updateWrite_mem (saved : StaffWrite.apply (.update row) db = .ok next) :
    ∀ s ∈ next.staff.rows, s = row ∨ s ∈ db.staff.rows ∧ s.id ≠ row.id := by
  intro s member
  simp only [StaffWrite.apply] at saved
  split at saved
  · next staff rewritten =>
    cases saved
    exact save?_mem rewritten member
  · cases saved

/-- A row written back with the hash that is stored. -/
theorem switched_distinct (distinct : db.Distinct p)
    (stored : (db.staff.find? row.id).map Staff.passwordHash = some row.passwordHash)
    (saved : StaffWrite.apply (.update row) db = .ok next) : next.Distinct p := by
  obtain ⟨old, found, same⟩ := Option.map_eq_some_iff.mp stored
  have inside := Table.find?_mem found
  have key := Table.find?_key found
  have origin := updateWrite_mem saved
  refine ⟨unique_with distinct.1 origin fun hashed s member other held q verified => ?_, fun s member => ?_⟩
  · rw [Bool.eq_false_iff]
    intro also
    exact other ((distinct.1 old inside s member (same ▸ hashed) held q (same ▸ verified) also).symm.trans key)
  · rcases origin s member with rfl | ⟨before, -⟩
    · exact key ▸ distinct.2 old inside
    · exact distinct.2 s before

theorem deleteWrite_distinct {id : String} (distinct : db.Distinct p)
    (deleted : StaffWrite.apply (.delete id) db = .ok next) : next.Distinct p := by
  cases deleted
  have kept : ∀ s ∈ (db.staff.delete id).rows, s ∈ db.staff.rows := fun s member => (List.mem_filter.mp member).1
  exact ⟨fun a ha b hb => distinct.1 a (kept a ha) b (kept b hb), fun s member => distinct.2 s (kept s member)⟩

/-- One step, a case for each call: what the table keeps, and what the call then holds. -/
theorem staffStep_distinct {task : StaffTask}
    (bcrypt : ∀ salt password hash, p.hashPassword salt password = .ok hash → ∀ q, p.verifies hash q = true ↔ q = password)
    (fresh : env.freshID ≠ "") (distinct : db.Distinct p) (holds : task.holds p) (unused : task.writesUnique p db.staff) :
    (task.step p env db).2.Distinct p ∧ (task.step p env db).1.holds p := by
  cases task with
  | createStaff request password =>
    simp only [StaffTask.step]
    split
    · exact ⟨distinct, trivial⟩
    · next row rest prepared =>
      obtain ⟨ws, final⟩ := rest
      have does : Does (prepareStaff p env request password) db row ws final := prepared
      obtain ⟨_, _, _, _, hashed, named, _⟩ := prepareStaff_does does
      refine ⟨distinct, ?_, bcrypt _ _ _ hashed⟩
      rw [named]
      split
      · exact fresh
      · next given => exact given
  | creating row password =>
    refine written_rows distinct fun next created => ?_
    refine rows_distinct distinct holds.1 holds.2 (fun s member stored _ => ?_) (createWrite_mem created)
    exact pinAlreadyUsed_false unused s member stored (distinct.2 s member)
  | updateStaffPassword id newPassword =>
    simp only [StaffTask.step]
    split
    · exact ⟨distinct, trivial⟩
    · next row rest prepared =>
      obtain ⟨ws, final⟩ := rest
      have does : Does (preparePassword p env id newPassword) db row ws final := prepared
      obtain ⟨_, _, hashed, current, facts⟩ := preparePassword_does does
      obtain ⟨_, changed⟩ := facts.changed
      have same : current.id = row.id := by rw [changed]
      exact ⟨distinct, same ▸ distinct.2 current (Table.find?_mem facts.found), bcrypt _ _ _ hashed⟩
  | savingPassword row newPassword =>
    exact written_rows distinct fun next saved =>
      rows_distinct distinct holds.1 holds.2 (pinAlreadyUsed_false unused) (updateWrite_mem saved)
  | seedDefaultAdmin =>
    simp only [StaffTask.step]
    split <;> exact ⟨distinct, trivial⟩
  | healing =>
    simp only [StaffTask.step]
    split
    · exact ⟨distinct, trivial⟩
    · next admin found =>
      split
      · split
        · exact ⟨distinct, trivial⟩
        · next hash hashed =>
          exact ⟨distinct, distinct.2 admin (List.mem_of_find?_eq_some found), bcrypt _ _ _ hashed⟩
      · exact ⟨distinct, trivial⟩
  | savingHealed row =>
    exact written_rows distinct fun next saved =>
      rows_distinct distinct holds.1 holds.2 (pinAlreadyUsed_false unused) (updateWrite_mem saved)
  | toggleStaffStatus id =>
    simp only [StaffTask.step]
    split <;> exact ⟨distinct, trivial⟩
  | deleteStaff id force =>
    simp only [StaffTask.step]
    split <;> exact ⟨distinct, trivial⟩
  | savingRow row failure =>
    exact written_rows distinct fun next saved => switched_distinct distinct unused saved
  | deleting id =>
    exact written_rows distinct fun next deleted => deleteWrite_distinct distinct deleted
  | answered result => exact ⟨distinct, trivial⟩

end Steps

def StaffTask.begins : StaffTask → Bool
  | .createStaff _ _ | .updateStaffPassword _ _ | .seedDefaultAdmin | .toggleStaffStatus _ | .deleteStaff _ _ => true
  | _ => false

structure StaffWorld.Starting (p : Platform) (w : StaffWorld) : Prop where
  distinct : w.state.Distinct p
  calls : ∀ task ∈ w.calls, task.begins = true

def StaffWorld.Sound (p : Platform) (w : StaffWorld) : Prop := w.state.Distinct p ∧ ∀ task ∈ w.calls, task.holds p

theorem StaffWorld.Starting.sound {p : Platform} {w : StaffWorld} (starting : w.Starting p) : w.Sound p := by
  refine ⟨starting.distinct, fun task member => ?_⟩
  have begins := starting.calls task member
  cases task <;> first | exact trivial | cases begins

/-- However they are visited, the accounts of a table without a shared password give one
owner of a PIN. -/
theorem pinOwner_unique {p : Platform} {t : Roster} (unique : UniquePasswords p t.rows) {pin : String}
    {visited visited' : List Staff} (order : visited.Perm (t.rows.filter Staff.active))
    (order' : visited'.Perm (t.rows.filter Staff.active)) : pinOwner p visited pin = pinOwner p visited' pin := by
  have one : ∀ {a b : Staff}, pinOwner p visited pin = some a → pinOwner p visited' pin = some b → a = b := by
    intro a b foundA foundB
    have insideA := List.mem_of_mem_filter (order.mem_iff.mp (List.mem_of_find?_eq_some foundA))
    have insideB := List.mem_of_mem_filter (order'.mem_iff.mp (List.mem_of_find?_eq_some foundB))
    have verifiesA := List.find?_some foundA
    have verifiesB := List.find?_some foundB
    simp only [Bool.and_eq_true, decide_eq_true_eq] at verifiesA verifiesB
    exact Table.unique_row insideA insideB
      (unique a insideA b insideB verifiesA.1 verifiesB.1 pin verifiesA.2 verifiesB.2)
  have someone : ∀ {v v' : List Staff}, v.Perm v' → pinOwner p v pin = none → pinOwner p v' pin = none := by
    intro v v' perm nobody
    refine List.find?_eq_none.mpr fun s member => ?_
    exact List.find?_eq_none.mp nobody s (perm.mem_iff.mpr member)
  have same := order.trans order'.symm
  cases found : pinOwner p visited pin with
  | none => exact (someone same found).symm
  | some a =>
    cases found' : pinOwner p visited' pin with
    | none => rw [someone same.symm found'] at found; cases found
    | some b => rw [one found found']

/-- In every interleaving of the calls in which what a call checked still holds when it
writes, no two accounts have one password, and a PIN is one person's. -/
theorem pins_identify (p : Platform)
    (bcrypt : ∀ salt password hash, p.hashPassword salt password = .ok hash → ∀ q, p.verifies hash q = true ↔ q = password)
    (w : StaffWorld) (starting : w.Starting p) (schedule : List (Turn StaffEnv))
    (fresh : ∀ turn ∈ schedule, turn.env.freshID ≠ "")
    (unused : Meets (StaffTask.step p) (WritesUnique p) schedule w) :
    let t := (run (StaffTask.step p) schedule w).state.staff
    UniquePasswords p t.rows ∧
      ∀ pin visited visited', visited.Perm (t.rows.filter Staff.active) → visited'.Perm (t.rows.filter Staff.active) →
        pinOwner p visited pin = pinOwner p visited' pin := by
  have sound : StaffWorld.Sound p (run (StaffTask.step p) schedule w) := by
    refine run_keeps (StaffWorld.Sound p) ?_ starting.sound (unused.with fresh)
    intro now turn task sound here allowed
    obtain ⟨distinct, holds⟩ :=
      staffStep_distinct bcrypt allowed.1 sound.1 (sound.2 task (List.mem_of_getElem? here)) allowed.2
    refine ⟨distinct, fun other member => ?_⟩
    rcases List.mem_or_eq_of_mem_set member with old | rfl
    · exact sound.2 other old
    · exact holds
  exact ⟨sound.1.1, fun _ _ _ order order' => pinOwner_unique sound.1.1 order order'⟩

section Desk

theorem saltedOnce_verifies : ∀ salt password hash, saltedOnce.hashPassword salt password = .ok hash →
    ∀ q, saltedOnce.verifies hash q = true ↔ q = password := by
  intro _ password hash hashed q
  cases hashed
  simp [saltedOnce, eq_comm]

def newcomer (name username : String) : Staff :=
  ⟨"", name, username, "", false, .cashier, "", "", true, [], 0, 0, "", ""⟩

def staffTurn (task : Nat) (freshID : String) : Turn StaffEnv := ⟨task, ⟨none, 60, freshID, "s"⟩⟩

/-- No accounts yet, and two that are to be created with one PIN. -/
def samePin : StaffWorld :=
  ⟨⟨.empty, .empty⟩, [.createStaff (newcomer "Omar" "omar") "4831", .createStaff (newcomer "Mona" "mona") "4831"]⟩

theorem samePin_starting : samePin.Starting saltedOnce where
  distinct := ⟨fun _ member => (nomatch member), fun _ member => (nomatch member)⟩
  calls := by decide

/-- The account a newcomer gets. -/
def accountOf (request : Staff) (id : String) : Staff :=
  { request with id := id, createdAt := 60, passwordHash := "s$4831", permissions := RolePermissions .cashier }

/-- A second administrator has the password the first one is given when it is healed. -/
def seededTwice : StaffWorld :=
  ⟨⟨⟨⟨[⟨"A", "المدير", "admin", "s$1357", true, .admin, "", "", true, [], 0, 0, "", ""⟩,
      ⟨"B", "Badr", "badr", "s$0000", false, .admin, "", "", true, [], 0, 0, "", ""⟩], by decide⟩, by decide⟩, .empty⟩,
    [.seedDefaultAdmin]⟩

theorem seededTwice_starting : seededTwice.Starting saltedOnce where
  distinct := by
    refine ⟨fun a ha b hb _ _ q verifiesA verifiesB => ?_, by decide⟩
    have hashes : a.passwordHash = b.passwordHash :=
      (of_decide_eq_true verifiesA).trans (of_decide_eq_true verifiesB).symm
    rcases List.mem_pair.mp ha with rfl | rfl <;> rcases List.mem_pair.mp hb with rfl | rfl
    · rfl
    · exact absurd hashes (by decide)
    · exact absurd hashes (by decide)
    · rfl
  calls := by decide

end Desk

theorem pins_checked_in_turn :
    UniquePasswords saltedOnce (run (StaffTask.step saltedOnce)
      [staffTurn 0 "S1", staffTurn 0 "S2", staffTurn 1 "S3"] samePin).state.staff.rows :=
  (pins_identify saltedOnce saltedOnce_verifies samePin samePin_starting
    [staffTurn 0 "S1", staffTurn 0 "S2", staffTurn 1 "S3"] (by decide) (by decide +kernel)).1

/-- Both creations compare the PIN before either writes; and a healed administrator gets
a password that is taken. -/
theorem pins_shared :
    samePin.Starting saltedOnce ∧ seededTwice.Starting saltedOnce ∧
      ¬ UniquePasswords saltedOnce (run (StaffTask.step saltedOnce)
        [staffTurn 0 "S1", staffTurn 1 "S2", staffTurn 0 "S3", staffTurn 1 "S4"] samePin).state.staff.rows ∧
      ¬ UniquePasswords saltedOnce (run (StaffTask.step saltedOnce)
        [staffTurn 0 "S1", staffTurn 0 "S2", staffTurn 0 "S3"] seededTwice).state.staff.rows := by
  refine ⟨samePin_starting, seededTwice_starting, fun unique => ?_, fun unique => ?_⟩
  · have same := unique (accountOf (newcomer "Omar" "omar") "S1") (by decide +kernel)
      (accountOf (newcomer "Mona" "mona") "S2") (by decide +kernel) (by decide) (by decide) "4831" (by decide) (by decide)
    exact absurd same (by decide)
  · have same := unique ⟨"A", "المدير", "admin", "s$0000", true, .admin, "", "", true, [], 0, 0, "", ""⟩
      (by decide +kernel) ⟨"B", "Badr", "badr", "s$0000", false, .admin, "", "", true, [], 0, 0, "", ""⟩
      (by decide +kernel) (by decide) (by decide) "0000" (by decide) (by decide)
    exact absurd same (by decide)

end BeidarPos
