import BeidarPos.Staff

/-! What runs of staff calls do to the administrators: one active administrator
remains as long as nobody takes the last one away in a way the guards do not count,
and sessions of other roles leave the administrators alone except where the guards
do not look at the session. -/
namespace BeidarPos

open Relational Journal Tx

variable {p : Platform} {env : StaffEnv} {db final : StaffStore} {ws : List StaffWrite} {request row : Staff}
  {id password newPassword : String} {force : Bool}

theorem checkPassword_readOnly (role : Role) (password : String) : ReadOnly (checkPassword role password) := by
  unfold checkPassword
  split
  · exact readOnly_ensure
  · exact readOnly_ensure.bind fun _ => readOnly_ensure.bind fun _ => readOnly_ensure

theorem checkContact_readOnly (p : Platform) (staff : Staff) : ReadOnly (checkContact p staff) :=
  readOnly_ensure.bind fun _ => readOnly_ensure

theorem checkPin_readOnly (p : Platform) (pin excludeID : String) : ReadOnly (checkPin p pin excludeID) :=
  readOnly_ask.bind fun _ => readOnly_ensure

/-- A new account has the role the request names, and is active; its password is hashed, and
its name was checked as it is stored. -/
theorem prepareStaff_does (h : Does (prepareStaff p env request password) db row ws final) :
    ws = [] ∧ final = db ∧ row.role = request.role ∧ row.active = true ∧
      p.hashPassword env.salt password = .ok row.passwordHash ∧
      row.id = (if request.id = "" then env.freshID else request.id) ∧
      row.username = toLower p (trimSpace request.username) ∧ 3 ≤ row.username.utf8ByteSize ∧
      row.username.utf8ByteSize ≤ 20 := by
  unfold prepareStaff checkName checkUsername at h
  rw [does_ensure_bind, does_ensure_bind, does_ask_bind, does_ensure_bind, does_ensure_bind] at h
  obtain ⟨_, sized, _, _, h⟩ := h
  obtain ⟨_, _, h⟩ := (checkPassword_readOnly _ _).does_bind h
  obtain ⟨_, _, h⟩ := (checkContact_readOnly _ _).does_bind h
  obtain ⟨_, _, h⟩ := (checkPin_readOnly _ _ _).does_bind h
  cases hashed : p.hashPassword env.salt password with
  | error cause => simp [hashed] at h
  | ok hash =>
    simp only [hashed, does_bind, does_pure] at h
    obtain ⟨_, _, _, _, ⟨rfl, rfl, rfl⟩, ⟨rfl, rfl, rfl⟩, rfl⟩ := h
    exact ⟨rfl, rfl, rfl, rfl, rfl, rfl, rfl, sized⟩

/-- What an accepted edit found: the stored row, and the guards on administrators. -/
structure UpdateFacts (p : Platform) (env : StaffEnv) (t : Roster) (request row current : Staff) : Prop where
  found : t.find? request.id = some current
  edited : row = editedStaff p current request
  counted : current.role = .admin → request.role ≠ .admin → 1 < t.countByRole .admin
  caller : current.role = .admin ∨ request.role = .admin → env.currentRole = "" ∨ env.currentRole = "admin"

theorem prepareUpdate_does (h : Does (prepareUpdate p env request) db row ws final) :
    ws = [] ∧ final = db ∧ ∃ current, UpdateFacts p env db.staff request row current := by
  unfold prepareUpdate checkName checkUsername at h
  rw [does_ensure_bind, does_ensure_bind, does_ensure_bind, does_ask_bind, does_ensure_bind] at h
  obtain ⟨_, _, _, _, h⟩ := h
  obtain ⟨_, _, h⟩ := (checkContact_readOnly _ _).does_bind h
  rw [does_ask_bind, does_require_bind] at h
  obtain ⟨current, found, h⟩ := h
  rw [does_ask_bind, does_ensure_bind, does_ensure_bind] at h
  obtain ⟨counted, caller, h⟩ := h
  obtain ⟨rfl, rfl, rfl⟩ := does_pure.mp h
  exact ⟨rfl, rfl, current, found, rfl, counted, caller⟩

/-- What an accepted change of password found, and the row it writes. -/
structure PasswordFacts (env : StaffEnv) (t : Roster) (id : String) (row current : Staff) : Prop where
  found : t.find? id = some current
  changed : ∃ hash, row = { current with passwordHash := hash, mustChangePin := false }
  caller : current.role = .admin →
    env.currentStaffID = "" ∨ env.currentStaffID = current.id ∨ env.currentRole = "admin"

theorem preparePassword_does (h : Does (preparePassword p env id newPassword) db row ws final) :
    ws = [] ∧ final = db ∧ p.hashPassword env.salt newPassword = .ok row.passwordHash ∧
      ∃ current, PasswordFacts env db.staff id row current := by
  unfold preparePassword at h
  rw [does_ask_bind, does_require_bind] at h
  obtain ⟨current, found, h⟩ := h
  rw [does_ensure_bind] at h
  obtain ⟨caller, h⟩ := h
  obtain ⟨_, _, h⟩ := (checkPassword_readOnly _ _).does_bind h
  obtain ⟨_, _, h⟩ := (checkPin_readOnly _ _ _).does_bind h
  cases hashed : p.hashPassword env.salt newPassword with
  | error cause => simp [hashed] at h
  | ok hash =>
    simp only [hashed, does_bind, does_pure] at h
    obtain ⟨_, _, _, _, ⟨rfl, rfl, rfl⟩, ⟨rfl, rfl, rfl⟩, rfl⟩ := h
    exact ⟨rfl, rfl, rfl, current, found, ⟨_, rfl⟩, caller⟩

theorem createWrite_rows (h : StaffWrite.apply (.create row) db = .ok final) :
    final.staff.rows = db.staff.rows ++ [row] := by
  unfold StaffWrite.apply at h
  cases created : db.staff.create? row with
  | none => simp [created] at h
  | some next =>
    simp only [created, Except.ok.injEq] at h
    subst h
    exact Roster.create?_rows created

/-- The rows after the row of an account is rewritten. -/
def rewritten (t : Roster) (row : Staff) : List Staff := t.rows.map fun s => if s.id = row.id then row else s

theorem updateWrite_rows {current : Staff} (found : db.staff.find? row.id = some current)
    (h : StaffWrite.apply (.update row) db = .ok final) : final.staff.rows = rewritten db.staff row := by
  unfold StaffWrite.apply at h
  cases saved : db.staff.save? row with
  | none => simp [saved] at h
  | some next =>
    simp only [saved, Except.ok.injEq] at h
    subst h
    exact Roster.save?_rows found saved

/-- The rows of the table after an accepted call. -/
inductive Effect (p : Platform) (env : StaffEnv) (db : StaffStore) (rows : List Staff) : StaffCall → Prop
  | create {request row : Staff} {password : String} : Does (prepareStaff p env request password) db row [] db →
    rows = db.staff.rows ++ [row] → Effect p env db rows (.create request password)
  | update {request row : Staff} : Does (prepareUpdate p env request) db row [] db →
    rows = rewritten db.staff row → Effect p env db rows (.update request)
  | updatePassword {row : Staff} {id newPassword : String} : Does (preparePassword p env id newPassword) db row [] db →
    rows = rewritten db.staff row → Effect p env db rows (.updatePassword id newPassword)
  | toggle {row : Staff} {id : String} : db.staff.find? id = some row →
    (row.active = true → row.role = .admin → 1 < db.staff.countByRole .admin) →
    rows = rewritten db.staff { row with active := !row.active } → Effect p env db rows (.toggle id)
  | disable {row : Staff} {id : String} {force : Bool} : db.staff.find? id = some row →
    (row.role = .admin → 1 < db.staff.countByRole .admin) →
    rows = rewritten db.staff { row with active := false } → Effect p env db rows (.delete id force)
  | delete {row : Staff} {id : String} {force : Bool} : db.staff.find? id = some row →
    (row.role = .admin → 1 < db.staff.countByRole .admin) →
    rows = db.staff.rows.filter (fun s => s.id ≠ id) → Effect p env db rows (.delete id force)

theorem staffCall_does {c : StaffCall} (h : Does (c.body p env) db u ws final) :
    Effect p env db final.staff.rows c := by
  cases c with
  | create request password =>
    obtain ⟨row, front, middle, _, prepared, written, _⟩ := does_bind.mp h
    obtain ⟨rfl, rfl, _⟩ := prepareStaff_does prepared
    exact .create prepared (createWrite_rows (does_write.mp written).2)
  | update request =>
    obtain ⟨row, front, middle, _, prepared, written, _⟩ := does_bind.mp h
    obtain ⟨rfl, rfl, current, facts⟩ := prepareUpdate_does prepared
    have key := Table.find?_key facts.found
    have same : row.id = request.id := by rw [facts.edited]; exact key
    exact .update prepared (updateWrite_rows (same ▸ facts.found) (does_write.mp written).2)
  | updatePassword id newPassword =>
    obtain ⟨row, front, middle, _, prepared, written, _⟩ := does_bind.mp h
    obtain ⟨rfl, rfl, _, current, facts⟩ := preparePassword_does prepared
    obtain ⟨hash, changed⟩ := facts.changed
    have key := Table.find?_key facts.found
    have same : row.id = id := by rw [changed]; exact key
    exact .updatePassword prepared (updateWrite_rows (same ▸ facts.found) (does_write.mp written).2)
  | toggle id =>
    unfold StaffCall.body toggleStaffStatus at h
    rw [does_ask_bind, does_require_bind] at h
    obtain ⟨staff, found, h⟩ := h
    rw [does_ask_bind, does_ensure_bind] at h
    obtain ⟨guarded, written⟩ := h
    have same := Table.find?_key found
    have rows := @updateWrite_rows _ _ { staff with active := !staff.active } _ (by rw [same]; exact found)
      (does_write.mp written).2
    exact .toggle found guarded rows
  | delete id force =>
    unfold StaffCall.body deleteStaff at h
    rw [does_ask_bind, does_require_bind] at h
    obtain ⟨staff, found, h⟩ := h
    rw [does_ask_bind, does_ensure_bind, does_ask_bind, does_ask_bind] at h
    obtain ⟨guarded, h⟩ := h
    split at h
    · have written := (does_write.mp (does_mapError.mp h)).2
      have same := Table.find?_key found
      have rows := @updateWrite_rows _ _ { staff with active := false } _ (by rw [same]; exact found) written
      exact .disable found guarded rows
    · have written := (does_write.mp (does_mapError.mp h)).2
      cases written
      exact .delete found guarded rfl

/-- One step of a run of staff calls. -/
def staffStep (p : Platform) (step : StaffEnv × StaffCall) : StaffTx Unit := step.2.body p step.1

theorem single_step {α : Type} {first step : α} {front back : List α} (parts : [first] = front ++ step :: back) :
    front = [] ∧ step = first := by
  cases front with
  | nil => exact ⟨rfl, (List.cons.inj parts).1.symm⟩
  | cons head tail =>
    have lengths := congrArg List.length parts
    simp at lengths

section LastAdmin

def ActiveAdmin (s : Staff) : Prop := s.role = .admin ∧ s.active = true

def HasActiveAdmin (rows : List Staff) : Prop := ∃ s ∈ rows, ActiveAdmin s

instance (s : Staff) : Decidable (ActiveAdmin s) := inferInstanceAs (Decidable (_ ∧ _))

instance (rows : List Staff) : Decidable (HasActiveAdmin rows) := inferInstanceAs (Decidable (∃ s ∈ rows, _))

/-- The account is an active administrator, and there is no other. -/
def OnlyActiveAdmin (t : Roster) (id : String) : Prop :=
  (∃ s ∈ t.rows, s.id = id ∧ ActiveAdmin s) ∧ ∀ s ∈ t.rows, ActiveAdmin s → s.id = id

instance (t : Roster) (id : String) : Decidable (OnlyActiveAdmin t id) := inferInstanceAs (Decidable (_ ∧ _))

/-- A call that takes the only active administrator away past the guards: an edit that
deactivates or demotes him, or a deletion or deactivation while inactive
administrators are still counted. -/
def LocksOut (p : Platform) (env : StaffEnv) (db : StaffStore) : StaffCall → Prop
  | .create _ _ | .updatePassword _ _ => False
  | .update request => OnlyActiveAdmin db.staff request.id ∧ ¬ (request.role = .admin ∧ request.active = true) ∧
      (prepareUpdate p env request).accepts db
  | .toggle id | .delete id _ => OnlyActiveAdmin db.staff id ∧ 1 < db.staff.countByRole .admin

/-- Rewriting a row keeps an active administrator, unless it was the only one. -/
theorem rewritten_keeps {t : Roster} (initial : HasActiveAdmin t.rows)
    (safe : OnlyActiveAdmin t row.id → ActiveAdmin row) (present : ∃ s ∈ t.rows, s.id = row.id) :
    HasActiveAdmin (rewritten t row) := by
  obtain ⟨old, inside, own⟩ := present
  by_cases other : ∃ s ∈ t.rows, ActiveAdmin s ∧ s.id ≠ row.id
  · obtain ⟨s, member, active, apart⟩ := other
    exact ⟨s, List.mem_map.mpr ⟨s, member, if_neg apart⟩, active⟩
  · have alone : ∀ s ∈ t.rows, ActiveAdmin s → s.id = row.id := by
      intro s member active
      by_contra apart
      exact other ⟨s, member, active, apart⟩
    obtain ⟨s, member, active⟩ := initial
    have only : OnlyActiveAdmin t row.id := ⟨⟨s, member, alone s member active, active⟩, alone⟩
    exact ⟨row, List.mem_map.mpr ⟨old, inside, if_pos own⟩, safe only⟩

theorem found_present {t : Roster} {id : String} (found : t.find? id = some row) : ∃ s ∈ t.rows, s.id = id :=
  ⟨row, Table.find?_mem found, Table.find?_key found⟩

/-- The only active administrator is the row found under his identifier. -/
theorem OnlyActiveAdmin.found {t : Roster} {id : String} (only : OnlyActiveAdmin t id)
    (found : t.find? id = some row) : ActiveAdmin row := by
  obtain ⟨s, member, own, active⟩ := only.1
  have same : s = row := Table.unique_row member (Table.find?_mem found) (own.trans (Table.find?_key found).symm)
  exact same ▸ active

theorem staffCall_keeps_admin {c : StaffCall} (initial : HasActiveAdmin db.staff.rows)
    (safe : ¬ LocksOut p env db c) (h : Does (c.body p env) db u ws final) : HasActiveAdmin final.staff.rows := by
  have effect := staffCall_does h
  generalize final.staff.rows = rows at effect
  cases effect with
  | create prepared appended =>
    obtain ⟨s, member, active⟩ := initial
    exact ⟨s, by rw [appended]; exact List.mem_append_left _ member, active⟩
  | update prepared result =>
    rw [result]
    obtain ⟨_, _, current, facts⟩ := prepareUpdate_does prepared
    have same := Table.find?_key facts.found
    have edited := facts.edited
    subst edited
    refine rewritten_keeps initial ?_ ?_
    · intro only
      by_contra lost
      exact safe ⟨same ▸ only, fun kept => lost kept, ⟨_, _, _, prepared⟩⟩
    · exact same ▸ found_present facts.found
  | updatePassword prepared result =>
    rw [result]
    obtain ⟨_, _, _, current, facts⟩ := preparePassword_does prepared
    obtain ⟨hash, changed⟩ := facts.changed
    have same := Table.find?_key facts.found
    subst changed
    refine rewritten_keeps initial ?_ ?_
    · intro only
      have active : ActiveAdmin current := only.found (same ▸ facts.found)
      exact active
    · exact same ▸ found_present facts.found
  | toggle found guarded result =>
    rw [result]
    have same := Table.find?_key found
    refine rewritten_keeps initial ?_ (same ▸ found_present found)
    intro only
    have active := OnlyActiveAdmin.found only (by rw [same]; exact found)
    exact absurd ⟨same ▸ only, guarded active.2 active.1⟩ safe
  | disable found guarded result =>
    rw [result]
    have same := Table.find?_key found
    refine rewritten_keeps initial ?_ (same ▸ found_present found)
    intro only
    have active := OnlyActiveAdmin.found only (by rw [same]; exact found)
    exact absurd ⟨same ▸ only, guarded active.1⟩ safe
  | @delete row id force found guarded result =>
    rw [result]
    by_contra none
    have alone : ∀ s ∈ db.staff.rows, ActiveAdmin s → s.id = id := by
      intro s member active
      by_contra apart
      exact none ⟨s, List.mem_filter.mpr ⟨member, by simpa using apart⟩, active⟩
    obtain ⟨s, member, active⟩ := initial
    have only : OnlyActiveAdmin db.staff id := ⟨⟨s, member, alone s member active, active⟩, alone⟩
    have target := only.found found
    exact safe ⟨only, guarded target.1⟩

/-- An active administrator remains in every state of every run in which no call takes
the only one away past the guards. -/
theorem admin_remains (p : Platform) (steps : List (StaffEnv × StaffCall)) (db : StaffStore)
    (initial : HasActiveAdmin db.staff.rows)
    (safe : ∀ front step back, steps = front ++ step :: back →
      ¬ LocksOut p step.1 (after (staffStep p) front db) step.2) :
    HasActiveAdmin (after (staffStep p) steps db).staff.rows := by
  have kept : ∀ (step : StaffEnv × StaffCall) s u ws final, HasActiveAdmin s.staff.rows →
      ¬ LocksOut p step.1 s step.2 → Does (staffStep p step) s u ws final → HasActiveAdmin final.staff.rows := by
    intro step s u ws final initial good does
    exact staffCall_keeps_admin initial good does
  exact after_invariant (staffStep p) kept steps db initial safe

section Office

/-- An office with one administrator, one manager and one cashier. -/
def host : Platform := ⟨Char.toLower, fun salt password => .ok (salt ++ "$" ++ password),
  fun hash password => hash.endsWith ("$" ++ password)⟩

def account (id name username : String) (role : Role) : Staff :=
  ⟨id, name, username, "s$" ++ id, false, role, "", "", true, RolePermissions role, 0, 0, "", ""⟩

def root : Staff := account "root" "Root" "root" .admin

def office : StaffStore :=
  ⟨⟨⟨[root, account "mona" "Mona" "mona" .manager], by decide⟩, by decide⟩, Store.empty⟩

def session (id : String) (role : Role) : StaffEnv := ⟨some (id, role), 0, "fresh", "s"⟩

/-- The administrator saves his own account as inactive: nobody counts. -/
def resign : StaffEnv × StaffCall := (session "root" .admin, .update { root with active := false })

end Office

theorem admin_locked_out : ¬ ∀ p steps db, HasActiveAdmin db.staff.rows →
    HasActiveAdmin (after (staffStep p) steps db).staff.rows := by
  intro remains
  have present : HasActiveAdmin office.staff.rows := by decide +kernel
  have gone : ¬ HasActiveAdmin (after (staffStep host) [resign] office).staff.rows := by decide +kernel
  exact gone (remains host [resign] office present)

/-- Deactivating the manager leaves the administrator. -/
theorem admin_remains_mona : HasActiveAdmin
    (after (staffStep host) [(session "root" .admin, .toggle "mona")] office).staff.rows := by
  refine admin_remains host [(session "root" .admin, .toggle "mona")] office (by decide +kernel) ?_
  intro front step back parts
  obtain ⟨rfl, rfl⟩ := single_step parts
  have other : ¬ OnlyActiveAdmin office.staff "mona" := by decide +kernel
  exact fun locked => other locked.1

end LastAdmin

section Escalation

def admins (rows : List Staff) : List Staff := rows.filter (fun s => s.role = .admin)

def IsAdmin (t : Roster) (id : String) : Prop := ∃ s, t.find? id = some s ∧ s.role = .admin

/-- A call of a session that is not an administrator's, and that the guards on
administrators let through: creating one, any edit by a session whose role has no
name, a session that changes the password of an administrator of its own identifier,
and deactivating, activating or deleting an administrator who is not the last. -/
def Escalates (p : Platform) (env : StaffEnv) (db : StaffStore) : StaffCall → Prop
  | .create request password => request.role = .admin ∧ (prepareStaff p env request password).accepts db
  | .update request => env.currentRole = "" ∧ (request.role = .admin ∨ IsAdmin db.staff request.id) ∧
      (prepareUpdate p env request).accepts db
  | .updatePassword id newPassword => IsAdmin db.staff id ∧ (env.currentStaffID = "" ∨ env.currentStaffID = id) ∧
      (preparePassword p env id newPassword).accepts db
  | .toggle id => ∃ s, db.staff.find? id = some s ∧ s.role = .admin ∧
      (s.active = true → 1 < db.staff.countByRole .admin)
  | .delete id _ => IsAdmin db.staff id ∧ 1 < db.staff.countByRole .admin

theorem role_name_admin {role : Role} (h : role.name = "admin") : role = .admin := by
  cases role with
  | admin => rfl
  | other name unlisted =>
    have same : name = "admin" := h
    simp [same] at unlisted
  | manager | cashier | viewer => simp [Role.name] at h

theorem currentRole_other (other : ∀ s ∈ env.session, s.2 ≠ .admin) : env.currentRole ≠ "admin" := by
  unfold StaffEnv.currentRole
  cases active : env.session with
  | none => simp
  | some s =>
    intro named
    exact other s active (role_name_admin named)

/-- Rewriting an account that is no administrator into one that is none. -/
theorem rewritten_admins {t : Roster} {old : Staff} (found : t.find? row.id = some old) (before : old.role ≠ .admin)
    (now : row.role ≠ .admin) : admins (rewritten t row) = admins t.rows := by
  have rows : ∀ s ∈ t.rows, s.id = row.id → s.role ≠ .admin := by
    intro s member own
    have same := Table.unique_row member (Table.find?_mem found) (own.trans (Table.find?_key found).symm)
    exact same ▸ before
  unfold admins rewritten
  generalize t.rows = accounts at rows
  induction accounts with
  | nil => rfl
  | cons s accounts ih =>
    have tail := ih fun other member => rows other (by simp [member])
    rw [List.map_cons, List.filter_cons, List.filter_cons, tail]
    by_cases own : s.id = row.id
    · have none := rows s (by simp) own
      simp [own, now, none]
    · simp [own]

theorem staffCall_keeps_admins {c : StaffCall} (other : ∀ s ∈ env.session, s.2 ≠ .admin)
    (safe : ¬ Escalates p env db c) (h : Does (c.body p env) db u ws final) :
    admins final.staff.rows = admins db.staff.rows := by
  have stranger := currentRole_other other
  have effect := staffCall_does h
  generalize final.staff.rows = rows at effect
  cases effect with
  | create prepared appended =>
    obtain ⟨_, _, role, _⟩ := prepareStaff_does prepared
    have plain : ¬ _ = Role.admin := fun admin => safe ⟨role ▸ admin, ⟨_, _, _, prepared⟩⟩
    rw [appended, admins, List.filter_append]
    simp [admins, plain]
  | @update request row prepared result =>
    obtain ⟨_, _, current, facts⟩ := prepareUpdate_does prepared
    have same := Table.find?_key facts.found
    have nameless : ∀ admin : current.role = .admin ∨ request.role = .admin, env.currentRole = "" := by
      intro admin
      rcases facts.caller admin with none | named
      · exact none
      · exact absurd named stranger
    have before : current.role ≠ .admin := fun admin =>
      safe ⟨nameless (.inl admin), .inr ⟨current, facts.found, admin⟩, ⟨_, _, _, prepared⟩⟩
    have edited := facts.edited
    subst edited
    rw [result]
    refine rewritten_admins (same.symm ▸ facts.found) before ?_
    intro admin
    exact safe ⟨nameless (.inr admin), .inl admin, ⟨_, _, _, prepared⟩⟩
  | updatePassword prepared result =>
    obtain ⟨_, _, _, current, facts⟩ := preparePassword_does prepared
    have same := Table.find?_key facts.found
    obtain ⟨hash, changed⟩ := facts.changed
    subst changed
    have before : current.role ≠ .admin := by
      intro admin
      refine safe ⟨⟨current, facts.found, admin⟩, ?_, ⟨_, _, _, prepared⟩⟩
      rcases facts.caller admin with none | own | named
      · exact .inl none
      · exact .inr (own.trans same)
      · exact absurd named stranger
    rw [result]
    exact rewritten_admins (same.symm ▸ facts.found) before before
  | toggle found guarded result =>
    have same := Table.find?_key found
    have before : ¬ _ = Role.admin := fun admin => safe ⟨_, found, admin, fun active => guarded active admin⟩
    rw [result]
    exact rewritten_admins (by rw [same]; exact found) before before
  | disable found guarded result =>
    have same := Table.find?_key found
    have before : ¬ _ = Role.admin := fun admin => safe ⟨⟨_, found, admin⟩, guarded admin⟩
    rw [result]
    exact rewritten_admins (by rw [same]; exact found) before before
  | @delete row id force found guarded result =>
    have before : ¬ row.role = .admin := fun admin => safe ⟨⟨row, found, admin⟩, guarded admin⟩
    rw [result, admins, admins, List.filter_filter]
    refine List.filter_congr ?_
    intro s member
    by_cases own : s.id = id
    · have same := Table.unique_row member (Table.find?_mem found) (own.trans (Table.find?_key found).symm)
      simp [same, before]
    · simp [own]

/-- Sessions that are not an administrator's leave the administrators as they were, in
every run in which no call gets past the guards. -/
theorem admins_unchanged (p : Platform) (steps : List (StaffEnv × StaffCall)) (db : StaffStore)
    (sessions : ∀ step ∈ steps, ∀ s ∈ step.1.session, s.2 ≠ .admin)
    (safe : ∀ front step back, steps = front ++ step :: back →
      ¬ Escalates p step.1 (after (staffStep p) front db) step.2) :
    admins (after (staffStep p) steps db).staff.rows = admins db.staff.rows := by
  have kept : ∀ (step : StaffEnv × StaffCall) s u ws final, admins s.staff.rows = admins db.staff.rows →
      ((∀ s ∈ step.1.session, s.2 ≠ .admin) ∧ ¬ Escalates p step.1 s step.2) →
      Does (staffStep p step) s u ws final → admins final.staff.rows = admins db.staff.rows := by
    intro step s u ws final same good does
    exact (staffCall_keeps_admins good.1 good.2 does).trans same
  refine after_invariant (staffStep p) kept steps db rfl ?_
  intro front step back parts
  exact ⟨sessions step (by rw [parts]; simp), safe front step back parts⟩

/-- A manager who may manage staff makes himself an administrator. -/
theorem admins_escalated : ¬ ∀ p steps db, (∀ step ∈ steps, ∀ s ∈ step.1.session, s.2 ≠ Role.admin) →
    admins (after (staffStep p) steps db).staff.rows = admins db.staff.rows := by
  intro unchanged
  have more : admins (after (staffStep host) [(session "mona" .manager,
      .create (account "" "Boss" "boss" .admin) "secret")] office).staff.rows ≠ admins office.staff.rows := by
    decide +kernel
  refine more (unchanged host _ office ?_)
  intro step member s active
  rw [List.mem_singleton.mp member] at active
  cases active
  simp

/-- A manager renames himself, and the administrator stays as he was. -/
theorem admins_unchanged_mona : admins (after (staffStep host) [(session "mona" .manager,
    .update (account "mona" "Mona K" "mona" .manager))] office).staff.rows = admins office.staff.rows := by
  refine admins_unchanged host [(session "mona" .manager, .update (account "mona" "Mona K" "mona" .manager))] office
    ?_ ?_
  · intro step member s active
    rw [List.mem_singleton.mp member] at active
    cases active
    simp
  · intro front step back parts
    obtain ⟨rfl, rfl⟩ := single_step parts
    rintro ⟨nameless, -⟩
    exact absurd nameless (by decide)

end Escalation

end BeidarPos
