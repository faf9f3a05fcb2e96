import BeidarPos.CloudSession
import BeidarPos.Runs
import BeidarPos.Table

/-! The licence server: its table of licences, the functions that bind a licence to an account,
check it and delete the account, what an administrator does to a licence, and the trigger that
copies the features of a written licence to its user. An activation reads the licence in one
statement and binds it in another; other statements may run in between. -/
namespace BeidarPos

open Relational

inductive LicenseStatus where
  | active | banned | suspended
  deriving DecidableEq

/-- A row of `licenses`; the columns about the customer and the payment are left out. -/
structure ServerLicense where
  id : Nat
  licenseKey : String
  status : LicenseStatus
  userID : Option String
  boundAt : Option Int
  expiresAt : Option Int
  features : List (String × Bool)
  lastCheckIn : Option Int
  deriving DecidableEq

/-- A user with what the trigger wrote to his metadata. -/
structure AuthUser where
  id : String
  features : Option UserFeatures
  deriving DecidableEq

/-- An activation between its two statements, with the licence as it was read. -/
structure Activation where
  license : ServerLicense
  userID : String
  deriving DecidableEq

structure LicenseServer where
  licenses : Serial ServerLicense.id
  users : Table AuthUser.id
  activations : List Activation

structure ServerAnswer where
  status : Nat
  licensed : Bool
  message : String
  expiryDate : Option Int
  features : List (String × Bool)
  deriving DecidableEq

def ServerAnswer.refused (status : Nat) (message : String) : ServerAnswer := ⟨status, false, message, none, []⟩

def ServerAnswer.granted (message : String) (license : ServerLicense) : ServerAnswer :=
  ⟨200, true, message, license.expiresAt, license.features⟩

/-- What the trigger finds the licence to enable. -/
def ServerLicense.enabled (row : ServerLicense) : UserFeatures :=
  if row.status = .active ∧ row.userID.isSome then
    ⟨row.features.lookup "ai_features" = some true, row.features.lookup "cloud_sync" = some true,
      row.features.lookup "whatsapp_integration" = some true⟩
  else ⟨false, false, false⟩

/-- What an update of one licence sets. -/
inductive LicenseUpdate where
  | bound (userID : String) (now : Int)
  | status (status : LicenseStatus)
  | renewed (expiresAt : Int)
  | features (features : List (String × Bool))

def LicenseUpdate.set : LicenseUpdate → ServerLicense → ServerLicense
  | .bound userID now, row => { row with userID := some userID, boundAt := some now, lastCheckIn := some now }
  | .status other, row => { row with status := other }
  | .renewed expiresAt, row => { row with expiresAt := some expiresAt, status := .active }
  | .features other, row => { row with features := other }

@[simp] theorem LicenseUpdate.set_id (update : LicenseUpdate) (row : ServerLicense) : (update.set row).id = row.id := by
  cases update <;> rfl

def ServerLicense.checkedIn (now : Int) (row : ServerLicense) : ServerLicense := { row with lastCheckIn := some now }

/-- What the deletion of an account sets on its licences. -/
def ServerLicense.released (userID : String) (row : ServerLicense) : ServerLicense :=
  if row.userID = some userID then { row with userID := none, boundAt := none, status := .suspended } else row

/-- What the foreign key sets when the user is gone. -/
def ServerLicense.orphaned (userID : String) (row : ServerLicense) : ServerLicense :=
  if row.userID = some userID then { row with userID := none } else row

theorem ServerLicense.released_id (userID : String) (row : ServerLicense) : (row.released userID).id = row.id := by
  unfold released
  split <;> rfl

theorem ServerLicense.orphaned_id (userID : String) (row : ServerLicense) : (row.orphaned userID).id = row.id := by
  unfold orphaned
  split <;> rfl

/-- The trigger, on a licence that was just written. -/
def syncUserFeatures (row : ServerLicense) (users : Table AuthUser.id) : Table AuthUser.id :=
  match row.userID with
  | none => users
  | some userID => users.modify userID (fun user => { user with features := some row.enabled }) (fun _ => rfl)

namespace LicenseServer

variable (s : LicenseServer)

/-- An update of a licence that sets one of the columns the trigger listens to. -/
def update (id : Nat) (change : LicenseUpdate) : LicenseServer :=
  match s.licenses.find? id with
  | none => s
  | some row =>
    { s with
      licenses := s.licenses.modify id change.set change.set_id
      users := syncUserFeatures (change.set row) s.users }

/-- `activate_license` up to its update: the licence it read, or its answer. -/
def fetchLicense (upper : String → String) (licenseKey userID : String) : Except ServerAnswer ServerLicense :=
  if licenseKey = "" ∨ userID = "" then .error (.refused 400 "مفتاح الترخيص ومعرف المستخدم مطلوبان")
  else
    match s.licenses.rows.filter fun row => row.licenseKey = upper licenseKey with
    | [license] =>
      if license.status ≠ .active then .error (.refused 200 "الترخيص غير نشط أو تم حظره")
      else if license.userID.any (fun owner => owner ≠ userID) = true then
        .error (.refused 200 "هذا الترخيص مرتبط بحساب آخر بالفعل")
      else .ok license
    | _ => .error (.refused 200 "مفتاح الترخيص غير موجود")

/-- The update that ends an activation, and its answer. An update of no row is no error; a user who
is gone is one. -/
def bindLicense (activation : Activation) (now : Int) : ServerAnswer × LicenseServer :=
  if (s.licenses.find? activation.license.id).isSome ∧ s.users.find? activation.userID = none then
    (.refused 500 "فشل تفعيل الترخيص في قاعدة البيانات", s)
  else (.granted "تم تفعيل الترخيص بنجاح" activation.license, s.update activation.license.id (.bound activation.userID now))

def activeLicenses (userID : String) : List ServerLicense :=
  s.licenses.rows.filter fun row => row.userID = some userID ∧ row.status = .active

/-- `verify_license`: its check-in changes no answer. Two rows are an error to `maybeSingle`. -/
def verifyLicense (now : Int) (userID : String) : ServerAnswer :=
  if userID = "" then .refused 400 "معرف المستخدم مطلوب"
  else
    match s.activeLicenses userID with
    | [license] =>
      if license.expiresAt.any (fun expiry => expiry < now) = true then .refused 200 "انتهت صلاحية الترخيص الخاص بك"
      else .granted "الترخيص نشط وصالح" license
    | _ => .refused 200 "لا يوجد ترخيص نشط مرتبط بحسابك"

end LicenseServer

/-- One statement of the server, or the end of an activation that does not get to its update. The
deletion of an account is `unbindUser` and then `deleteUser`. -/
inductive ServerStep where
  | signUp (userID : String)
  | activate (licenseKey userID : String)
  | bind (index : Nat) (now : Int)
  | drop (index : Nat)
  | checkIn (id : Nat) (now : Int)
  | unbindUser (userID : String)
  | deleteUser (userID : String)
  | createLicense (licenseKey : String) (expiresAt : Int) (features : List (String × Bool))
  | updateStatus (id : Nat) (status : LicenseStatus)
  | renew (id : Nat) (expiresAt : Int)
  | toggleFeature (id : Nat) (features : List (String × Bool))
  | deleteLicense (id : Nat)

variable (upper : String → String)

def ServerStep.next : ServerStep → LicenseServer → LicenseServer
  | .signUp userID, s => { s with users := (s.users.insert? ⟨userID, none⟩).getD s.users }
  | .activate licenseKey userID, s =>
    match s.fetchLicense upper licenseKey userID with
    | .error _ => s
    | .ok license => { s with activations := s.activations ++ [⟨license, userID⟩] }
  | .bind index now, s =>
    match s.activations[index]? with
    | none => s
    | some activation => { (s.bindLicense activation now).2 with activations := s.activations.eraseIdx index }
  | .drop index, s => { s with activations := s.activations.eraseIdx index }
  | .checkIn id now, s => { s with licenses := s.licenses.modify id (ServerLicense.checkedIn now) (fun _ => rfl) }
  | .unbindUser userID, s =>
    { s with licenses := s.licenses.mapRows (ServerLicense.released userID) (ServerLicense.released_id userID) }
  | .deleteUser userID, s =>
    { s with
      licenses := s.licenses.mapRows (ServerLicense.orphaned userID) (ServerLicense.orphaned_id userID)
      users := s.users.filter fun user => user.id ≠ userID }
  | .createLicense licenseKey expiresAt features, s =>
    if ∃ row ∈ s.licenses.rows, row.licenseKey = licenseKey then s
    else { s with
      licenses := s.licenses.append
        (fun id => ⟨id, licenseKey, .active, none, none, some expiresAt, features, none⟩) (fun _ => rfl) }
  | .updateStatus id status, s => s.update id (.status status)
  | .renew id expiresAt, s => s.update id (.renewed expiresAt)
  | .toggleFeature id features, s => s.update id (.features features)
  | .deleteLicense id, s => { s with licenses := s.licenses.filter fun row => row.id ≠ id }

def LicenseServer.run (steps : List ServerStep) (s : LicenseServer) : LicenseServer :=
  steps.foldl (fun s step => step.next upper s) s

/-- What a step makes of a stored licence. -/
def ServerStep.row (s : LicenseServer) : ServerStep → ServerLicense → Option ServerLicense
  | .bind index now, row =>
    match s.activations[index]? with
    | none => some row
    | some activation =>
      if row.id = activation.license.id ∧ (s.users.find? activation.userID).isSome then
        some ((LicenseUpdate.bound activation.userID now).set row)
      else some row
  | .checkIn id now, row => some (if row.id = id then row.checkedIn now else row)
  | .unbindUser userID, row => some (row.released userID)
  | .deleteUser userID, row => some (row.orphaned userID)
  | .updateStatus id status, row => some (if row.id = id then (LicenseUpdate.status status).set row else row)
  | .renew id expiresAt, row => some (if row.id = id then (LicenseUpdate.renewed expiresAt).set row else row)
  | .toggleFeature id features, row => some (if row.id = id then (LicenseUpdate.features features).set row else row)
  | .deleteLicense id, row => if row.id = id then none else some row
  | .signUp _, row | .activate _ _, row | .drop _, row | .createLicense _ _ _, row => some row

section Steps

variable {s : LicenseServer} {step : ServerStep}

theorem update_rows (id : Nat) (change : LicenseUpdate) :
    (s.update id change).licenses.rows = s.licenses.rows.map fun row => if row.id = id then change.set row else row := by
  unfold LicenseServer.update
  cases found : s.licenses.find? id with
  | none =>
    have absent : s.licenses.rows.map (fun row => if row.id = id then change.set row else row) = s.licenses.rows.map fun row => row :=
      List.map_congr_left fun row member => if_neg (Table.find?_none.mp found row member)
    rw [absent, List.map_id']
  | some row => rfl

/-- A step does to each stored licence what `row` says, and adds licences of nobody. -/
theorem next_rows (upper : String → String) (s : LicenseServer) (step : ServerStep) :
    ∃ added, (step.next upper s).licenses.rows = s.licenses.rows.filterMap (step.row s) ++ added ∧
      ∀ row ∈ added, row.userID = none := by
  have mapped : ∀ {next : LicenseServer} {f : ServerLicense → ServerLicense},
      next.licenses.rows = s.licenses.rows.map f → (∀ row, step.row s row = some (f row)) →
        ∃ added, next.licenses.rows = s.licenses.rows.filterMap (step.row s) ++ added ∧
          ∀ row ∈ added, row.userID = none := by
    intro next f rows same
    refine ⟨[], ?_, by simp⟩
    rw [rows, List.append_nil, funext same, List.filterMap_eq_map']
  have kept : ∀ {next : LicenseServer}, next.licenses = s.licenses → (∀ row, step.row s row = some row) →
      ∃ added, next.licenses.rows = s.licenses.rows.filterMap (step.row s) ++ added ∧
        ∀ row ∈ added, row.userID = none := by
    intro next licenses same
    exact mapped (by rw [licenses, List.map_id']) same
  cases step with
  | signUp userID => exact kept rfl fun _ => rfl
  | activate licenseKey userID =>
    refine kept ?_ fun _ => rfl
    cases fetched : s.fetchLicense upper licenseKey userID <;> simp only [ServerStep.next, fetched]
  | drop index => exact kept rfl fun _ => rfl
  | bind index now =>
    cases waiting : s.activations[index]? with
    | none => exact kept (by simp only [ServerStep.next, waiting]) fun _ => by simp only [ServerStep.row, waiting]
    | some activation =>
      have licenses : ((ServerStep.bind index now).next upper s).licenses = (s.bindLicense activation now).2.licenses := by
        simp only [ServerStep.next, waiting]
      by_cases known : (s.users.find? activation.userID).isSome
      · have user : s.users.find? activation.userID ≠ none := Option.isSome_iff_ne_none.mp known
        have bound : (s.bindLicense activation now).2 = s.update activation.license.id (.bound activation.userID now) := by
          unfold LicenseServer.bindLicense
          rw [if_neg (by simp [user])]
        refine mapped (f := fun row => if row.id = activation.license.id then
          (LicenseUpdate.bound activation.userID now).set row else row) ?_ fun row => ?_
        · rw [licenses, bound, update_rows]
        · simp only [ServerStep.row, waiting, known, and_true]
          split <;> rfl
      · have nobody : s.users.find? activation.userID = none := by simpa using known
        refine kept ?_ fun row => by simp [ServerStep.row, waiting, nobody]
        rw [licenses]
        unfold LicenseServer.bindLicense
        by_cases stored : (s.licenses.find? activation.license.id).isSome
        · rw [if_pos ⟨stored, nobody⟩]
        · have absent : s.licenses.find? activation.license.id = none := by simpa using stored
          rw [if_neg (by simp [absent])]
          simp only [LicenseServer.update, absent]
  | checkIn id now => exact mapped rfl fun _ => rfl
  | unbindUser userID => exact mapped rfl fun _ => rfl
  | deleteUser userID => exact mapped rfl fun _ => rfl
  | createLicense licenseKey expiresAt features =>
    by_cases taken : ∃ row ∈ s.licenses.rows, row.licenseKey = licenseKey
    · exact kept (by simp only [ServerStep.next, if_pos taken]) fun _ => rfl
    · refine ⟨[⟨s.licenses.seq + 1, licenseKey, .active, none, none, some expiresAt, features, none⟩], ?_, by simp⟩
      have same : s.licenses.rows.filterMap ((ServerStep.createLicense licenseKey expiresAt features).row s) =
          s.licenses.rows := List.filterMap_some
      rw [same]
      simp only [ServerStep.next, if_neg taken]
      rfl
  | updateStatus id status => exact mapped (update_rows _ _) fun _ => rfl
  | renew id expiresAt => exact mapped (update_rows _ _) fun _ => rfl
  | toggleFeature id features => exact mapped (update_rows _ _) fun _ => rfl
  | deleteLicense id =>
    refine ⟨[], ?_, by simp⟩
    rw [List.append_nil]
    change s.licenses.rows.filter _ = _
    rw [← List.filterMap_eq_filter]
    refine List.filterMap_congr fun row _ => ?_
    by_cases same : row.id = id <;> simp [ServerStep.row, same, Option.guard]

theorem row_id {row after : ServerLicense} (same : step.row s row = some after) : after.id = row.id := by
  cases step with
  | signUp | activate | drop | createLicense => exact congrArg ServerLicense.id (Option.some.inj same).symm
  | bind index now =>
    cases waiting : s.activations[index]? with
    | none =>
      simp only [ServerStep.row, waiting, Option.some.injEq] at same
      rw [same]
    | some activation =>
      simp only [ServerStep.row, waiting] at same
      split at same
      · obtain rfl := Option.some.inj same
        exact LicenseUpdate.set_id _ _
      · exact congrArg ServerLicense.id (Option.some.inj same).symm
  | checkIn | updateStatus | renew | toggleFeature =>
    obtain rfl := Option.some.inj same
    split <;> rfl
  | unbindUser userID =>
    obtain rfl := Option.some.inj same
    exact ServerLicense.released_id userID row
  | deleteUser userID =>
    obtain rfl := Option.some.inj same
    exact ServerLicense.orphaned_id userID row
  | deleteLicense id =>
    change (if row.id = id then none else some row) = some after at same
    split at same
    · cases same
    · exact congrArg ServerLicense.id (Option.some.inj same).symm

theorem row_stored {upper : String → String} {row after : ServerLicense} (member : row ∈ s.licenses.rows)
    (same : step.row s row = some after) : after ∈ (step.next upper s).licenses.rows := by
  obtain ⟨added, rows, _⟩ := next_rows upper s step
  rw [rows]
  exact List.mem_append_left _ (List.mem_filterMap.mpr ⟨row, member, same⟩)

/-- A licence an activation goes on with is stored and active, and nobody else's. -/
theorem fetchLicense_ok {upper : String → String} {licenseKey userID : String} {license : ServerLicense}
    (fetched : s.fetchLicense upper licenseKey userID = .ok license) :
    license ∈ s.licenses.rows ∧ license.status = .active ∧ ∀ owner, license.userID = some owner → owner = userID := by
  unfold LicenseServer.fetchLicense at fetched
  split at fetched
  · cases fetched
  · split at fetched
    · rename_i found single
      have member : found ∈ s.licenses.rows :=
        List.mem_of_mem_filter (by rw [single]; exact List.mem_singleton_self _)
      split at fetched
      · cases fetched
      · rename_i active
        split at fetched
        · cases fetched
        · rename_i free
          cases fetched
          refine ⟨member, not_not.mp active, fun owner owned => ?_⟩
          by_contra other
          exact free (by simpa [owned] using other)
    · cases fetched

/-- Activations come from what was just read. -/
theorem next_activations {upper : String → String} {activation : Activation}
    (member : activation ∈ (step.next upper s).activations) :
    activation ∈ s.activations ∨ ∃ licenseKey, s.fetchLicense upper licenseKey activation.userID = .ok activation.license := by
  have unchanged : ∀ id change, (s.update id change).activations = s.activations := by
    intro id change
    unfold LicenseServer.update
    split <;> rfl
  cases step with
  | activate licenseKey userID =>
    cases fetched : s.fetchLicense upper licenseKey userID with
    | error answer =>
      simp only [ServerStep.next, fetched] at member
      exact .inl member
    | ok license =>
      simp only [ServerStep.next, fetched] at member
      rcases List.mem_append.mp member with old | new
      · exact .inl old
      · obtain rfl := List.mem_singleton.mp new
        exact .inr ⟨licenseKey, fetched⟩
  | bind index now =>
    cases waiting : s.activations[index]? with
    | none =>
      simp only [ServerStep.next, waiting] at member
      exact .inl member
    | some found =>
      simp only [ServerStep.next, waiting] at member
      exact .inl (List.mem_of_mem_eraseIdx member)
  | drop index => exact .inl (List.mem_of_mem_eraseIdx member)
  | createLicense licenseKey expiresAt features =>
    by_cases taken : ∃ row ∈ s.licenses.rows, row.licenseKey = licenseKey
    · simp only [ServerStep.next, if_pos taken] at member
      exact .inl member
    · simp only [ServerStep.next, if_neg taken] at member
      exact .inl member
  | updateStatus id status => exact .inl (unchanged id _ ▸ member)
  | renew id expiresAt => exact .inl (unchanged id _ ▸ member)
  | toggleFeature id features => exact .inl (unchanged id _ ▸ member)
  | signUp | checkIn | unbindUser | deleteUser | deleteLicense => exact .inl member

end Steps

section Ownership

/-- The step deletes the licence or the account it is bound to. -/
def ServerStep.Releases (id : Nat) (s : LicenseServer) : ServerStep → Prop
  | .deleteLicense other => other = id
  | .unbindUser userID | .deleteUser userID => ∃ row ∈ s.licenses.rows, row.id = id ∧ row.userID = some userID
  | _ => False

/-- The users whose activations of the licence are under way. -/
def LicenseServer.rivals (id : Nat) (s : LicenseServer) : List String :=
  (s.activations.filter fun activation => activation.license.id = id).map Activation.userID

/-- The licence is bound to one of the users, and nobody else is about to bind it. -/
structure BoundAmong (id : Nat) (users : List String) (s : LicenseServer) : Prop where
  bound : ∃ row ∈ s.licenses.rows, row.id = id ∧ ∃ user ∈ users, row.userID = some user
  awaited : ∀ activation ∈ s.activations, activation.license.id = id → activation.userID ∈ users

variable {upper : String → String} {s : LicenseServer} {step : ServerStep} {id : Nat} {users : List String}

/-- What a step makes of the licence, when it does not release it. -/
theorem row_bound {row : ServerLicense} (among : BoundAmong id users s) (kept : ¬step.Releases id s)
    (member : row ∈ s.licenses.rows) (same : row.id = id) {user : String} (owned : row.userID = some user)
    (listed : user ∈ users) : ∃ after, step.row s row = some after ∧ ∃ next ∈ users, after.userID = some next := by
  cases step with
  | signUp | activate | drop | createLicense => exact ⟨row, rfl, user, listed, owned⟩
  | bind index now =>
    cases waiting : s.activations[index]? with
    | none => exact ⟨row, by simp only [ServerStep.row, waiting], user, listed, owned⟩
    | some activation =>
      simp only [ServerStep.row, waiting]
      split
      · rename_i here
        exact ⟨_, rfl, activation.userID,
          among.awaited activation (List.mem_of_getElem? waiting) (here.1.symm.trans same), rfl⟩
      · exact ⟨row, rfl, user, listed, owned⟩
  | checkIn | updateStatus | renew | toggleFeature =>
    refine ⟨_, rfl, user, listed, ?_⟩
    split <;> exact owned
  | unbindUser other =>
    have elsewhere : row.userID ≠ some other := fun own => kept ⟨row, member, same, own⟩
    refine ⟨_, rfl, user, listed, ?_⟩
    rw [ServerLicense.released, if_neg elsewhere]
    exact owned
  | deleteUser other =>
    have elsewhere : row.userID ≠ some other := fun own => kept ⟨row, member, same, own⟩
    refine ⟨_, rfl, user, listed, ?_⟩
    rw [ServerLicense.orphaned, if_neg elsewhere]
    exact owned
  | deleteLicense other =>
    have elsewhere : row.id ≠ other := fun own => kept (own.symm.trans same)
    exact ⟨row, if_neg elsewhere, user, listed, owned⟩

theorem BoundAmong.next (upper : String → String) (among : BoundAmong id users s) (kept : ¬step.Releases id s) :
    BoundAmong id users (step.next upper s) := by
  obtain ⟨row, member, same, user, listed, owned⟩ := among.bound
  constructor
  · obtain ⟨after, becomes, next, also, now⟩ := row_bound among kept member same owned listed
    exact ⟨after, row_stored member becomes, (row_id becomes).trans same, next, also, now⟩
  · intro activation there on
    rcases next_activations there with before | ⟨licenseKey, fetched⟩
    · exact among.awaited activation before on
    · obtain ⟨stored, _, free⟩ := fetchLicense_ok fetched
      obtain rfl := Table.unique_row stored member (on.trans same.symm)
      rw [← free user owned]
      exact listed

theorem run_bound {steps : List ServerStep} (among : BoundAmong id users s)
    (kept : ∀ front step back, steps = front ++ step :: back → ¬step.Releases id (s.run upper front)) :
    BoundAmong id users (s.run upper steps) := by
  induction steps generalizing s with
  | nil => exact among
  | cons step steps ih =>
    refine ih (among.next upper (kept [] step steps rfl)) fun front other back parts => ?_
    exact kept (step :: front) other back (by rw [parts, List.cons_append])

end Ownership

/-- While neither it nor the account it is bound to is deleted, a licence stays bound, to its owner
or to somebody whose activation had read the licence before: no activation that begins once it
is bound takes it over. -/
theorem license_stays_bound (upper : String → String) (start : LicenseServer) (steps : List ServerStep) (id : Nat)
    (owner : String) (owned : ∃ row ∈ start.licenses.find? id, row.userID = some owner)
    (kept : ∀ front step back, steps = front ++ step :: back → ¬step.Releases id (start.run upper front)) :
    ∃ row ∈ (start.run upper steps).licenses.find? id,
      ∃ user, row.userID = some user ∧ (user = owner ∨ user ∈ start.rivals id) := by
  obtain ⟨row, found, bound⟩ := owned
  have among : BoundAmong id (owner :: start.rivals id) start :=
    ⟨⟨row, Table.find?_mem found, Table.find?_key found, owner, List.mem_cons_self, bound⟩, fun activation member on =>
      List.mem_cons_of_mem _ (List.mem_map.mpr ⟨activation, List.mem_filter.mpr ⟨member, by simpa using on⟩, rfl⟩)⟩
  obtain ⟨now, member, same, user, listed, owns⟩ := (run_bound among kept).bound
  refine ⟨now, ?_, user, owns, List.mem_cons.mp listed⟩
  rw [← same]
  exact Table.find?_of_mem member

section Contest

/-- Two users and two unbound licences. -/
def openServer : LicenseServer :=
  LicenseServer.run id [.signUp "ali", .signUp "sara", .createLicense "K" 5000 [("ai_features", true)],
    .createLicense "L" 5000 []] ⟨Serial.empty, Table.empty, []⟩

/-- Both users activate one licence, and Ali's activation binds it first. -/
def contestedServer : LicenseServer := openServer.run id [.activate "K" "ali", .activate "K" "sara", .bind 0 10]

end Contest

/-- Sara's activation had read the licence before Ali's bound it, and takes it. -/
theorem license_stays_bound_contested :
    (∃ row ∈ (contestedServer.run id [.bind 0 20]).licenses.find? 1, row.userID = some "sara") ∧
      ∃ row ∈ (contestedServer.run id [.bind 0 20]).licenses.find? 1,
        ∃ user, row.userID = some user ∧ (user = "ali" ∨ user ∈ contestedServer.rivals 1) := by
  refine ⟨by decide +kernel, license_stays_bound id contestedServer [.bind 0 20] 1 "ali" (by decide +kernel) ?_⟩
  intro front step back parts releases
  cases front with
  | nil =>
    obtain ⟨rfl, _⟩ := List.cons.inj parts
    exact releases
  | cons first front => simp at parts

section Counting

variable {upper : String → String} {s : LicenseServer} {step : ServerStep} {userID : String} {p : ServerLicense → Bool}

/-- The licences of a user that a step leaves, counted before it. -/
theorem count_next (own : ∀ row, p row = true → row.userID = some userID) :
    (step.next upper s).licenses.rows.countP p = s.licenses.rows.countP fun row => (step.row s row).any p := by
  obtain ⟨added, rows, nobody⟩ := next_rows upper s step
  have unowned : added.countP p = 0 := List.countP_eq_zero.mpr fun row member yes => by
    have owned := own row yes
    rw [nobody row member] at owned
    cases owned
  rw [rows, List.countP_append, unowned, List.countP_filterMap, Nat.add_zero]
  refine List.countP_congr fun row _ => ?_
  cases step.row s row <;> rfl

/-- The licence a step may write or delete, when it is about one. -/
def ServerStep.target (s : LicenseServer) : ServerStep → Option Nat
  | .bind index _ => (s.activations[index]?).map fun activation => activation.license.id
  | .checkIn id _ | .updateStatus id _ | .renew id _ | .toggleFeature id _ | .deleteLicense id => some id
  | _ => none

theorem row_elsewhere {row : ServerLicense} (single : ∀ userID, step ≠ .unbindUser userID ∧ step ≠ .deleteUser userID)
    (other : step.target s ≠ some row.id) : step.row s row = some row := by
  cases step with
  | signUp | activate | drop | createLicense => rfl
  | bind index now =>
    cases waiting : s.activations[index]? with
    | none => simp only [ServerStep.row, waiting]
    | some activation =>
      have apart : row.id ≠ activation.license.id := fun same => other (by simp [ServerStep.target, waiting, same])
      simp [ServerStep.row, waiting, apart]
  | checkIn id | updateStatus id | renew id | toggleFeature id =>
    have apart : row.id ≠ id := fun same => other (congrArg some same.symm)
    exact congrArg some (if_neg apart)
  | unbindUser user => exact absurd rfl (single user).1
  | deleteUser user => exact absurd rfl (single user).2
  | deleteLicense id =>
    have apart : row.id ≠ id := fun same => other (congrArg some same.symm)
    exact if_neg apart

theorem account_shrinks (own : ∀ row, p row = true → row.userID = some userID)
    (account : ∃ user, step = .unbindUser user ∨ step = .deleteUser user) (row : ServerLicense)
    (after : (step.row s row).any p = true) : p row = true := by
  obtain ⟨user, rfl | rfl⟩ := account
  · change p (row.released user) = true at after
    by_cases his : row.userID = some user
    · have owned := own _ after
      rw [ServerLicense.released, if_pos his] at owned
      cases owned
    · rwa [ServerLicense.released, if_neg his] at after
  · change p (row.orphaned user) = true at after
    by_cases his : row.userID = some user
    · have owned := own _ after
      rw [ServerLicense.orphaned, if_pos his] at owned
      cases owned
    · rwa [ServerLicense.orphaned, if_neg his] at after

/-- One licence counts before a step: one does after it exactly when each counts as before. No step
takes a licence and gives another. -/
theorem one_next_iff (own : ∀ row, p row = true → row.userID = some userID) (one : s.licenses.rows.countP p = 1) :
    (step.next upper s).licenses.rows.countP p = 1 ↔
      ∀ row ∈ s.licenses.rows, (step.row s row).any p = p row := by
  rw [count_next own]
  have distinct : s.licenses.rows.Nodup := List.Nodup.of_map _ s.licenses.distinct
  constructor
  · intro still row member
    by_cases account : ∃ user, step = .unbindUser user ∨ step = .deleteUser user
    · obtain ⟨only, counted⟩ := List.length_eq_one_iff.mp (List.countP_eq_length_filter ▸ one)
      obtain ⟨kept, inside, yes⟩ := List.countP_pos_iff.mp (still ▸ Nat.one_pos)
      have unique : ∀ other ∈ s.licenses.rows, p other = true → other = only := fun other there counts =>
        List.mem_singleton.mp (counted ▸ List.mem_filter.mpr ⟨there, counts⟩)
      have shrinks := @account_shrinks s step userID p own account
      cases before : p row with
      | true => rw [unique row member before, ← unique kept inside (shrinks kept yes), yes]
      | false =>
        by_contra after
        rw [shrinks row (by simpa using after)] at before
        cases before
    · have single : ∀ user, step ≠ .unbindUser user ∧ step ≠ .deleteUser user := by
        intro user
        exact ⟨fun same => account ⟨user, .inl same⟩, fun same => account ⟨user, .inr same⟩⟩
      by_cases here : step.target s = some row.id
      · have counted := countP_replaced (p := p) (q := fun row => (step.row s row).any p) distinct member
          fun other inside apart => by
            have elsewhere : step.target s ≠ some other.id := fun same => by
              rw [here] at same
              exact apart (Table.unique_row inside member (Option.some.inj same).symm)
            rw [row_elsewhere single elsewhere]
            rfl
        rw [still, one] at counted
        cases before : p row <;> cases after : (step.row s row).any p <;> simp_all
      · rw [row_elsewhere single here]
        rfl
  · intro same
    rw [← one]
    exact List.countP_congr fun row member => by rw [same row member]

/-- What holds of the licences elsewhere holds of all when it holds of the one with the number. -/
theorem all_rows_iff {P : ServerLicense → Prop} (id : Nat) (elsewhere : ∀ row, row.id ≠ id → P row) :
    (∀ row ∈ s.licenses.rows, P row) ↔ ∀ row ∈ s.licenses.find? id, P row := by
  constructor
  · exact fun all row found => all row (Table.find?_mem found)
  · intro here row member
    by_cases same : row.id = id
    · exact here row (same ▸ Table.find?_of_mem member)
    · exact elsewhere row same

/-- The deletion of an account counts against its user alone. -/
theorem account_iff (own : ∀ row, p row = true → row.userID = some userID) (some_ : ∃ row ∈ s.licenses.rows, p row = true)
    {user : String} (account : step = .unbindUser user ∨ step = .deleteUser user) :
    (∀ row ∈ s.licenses.rows, (step.row s row).any p = p row) ↔ user ≠ userID := by
  have taken : ∀ row, row.userID = some user → (step.row s row).any p = false := by
    intro row his
    have free : ∀ after, step.row s row = some after → after.userID = none := by
      intro after same
      rcases account with rfl | rfl <;> obtain rfl := Option.some.inj same
      · rw [ServerLicense.released, if_pos his]
      · rw [ServerLicense.orphaned, if_pos his]
    cases same : step.row s row with
    | none => rfl
    | some after =>
      by_contra counts
      have owned := own after (by simpa using counts)
      rw [free after same] at owned
      cases owned
  have left : ∀ row, row.userID ≠ some user → step.row s row = some row := by
    intro row other
    rcases account with rfl | rfl
    · exact congrArg some (if_neg other)
    · exact congrArg some (if_neg other)
  constructor
  · rintro all rfl
    obtain ⟨row, member, counts⟩ := some_
    have before := all row member
    rw [taken row (own row counts), counts] at before
    cases before
  · intro apart row _
    by_cases his : row.userID = some user
    · rw [taken row his]
      cases counts : p row with
      | false => rfl
      | true => exact absurd (Option.some.inj (his.symm.trans (own row counts))) apart
    · rw [left row his]
      rfl

end Counting

section Serving

/-- The licence is active and the user's. -/
def ServerLicense.serves (userID : String) (row : ServerLicense) : Bool := row.userID = some userID && row.status = .active

/-- The step gives the user an active licence more or less. -/
def ServerStep.Upsets (userID : String) (s : LicenseServer) : ServerStep → Prop
  | .bind index _ => ∃ activation ∈ s.activations[index]?, (s.users.find? activation.userID).isSome ∧
      ∃ row ∈ s.licenses.find? activation.license.id,
        row.status = .active ∧ (row.userID = some userID ↔ activation.userID ≠ userID)
  | .updateStatus id status => ∃ row ∈ s.licenses.find? id,
      row.userID = some userID ∧ (row.status = .active ↔ status ≠ .active)
  | .renew id _ => ∃ row ∈ s.licenses.find? id, row.userID = some userID ∧ row.status ≠ .active
  | .deleteLicense id => ∃ row ∈ s.licenses.find? id, row.userID = some userID ∧ row.status = .active
  | .unbindUser user | .deleteUser user => user = userID
  | _ => False

variable {upper : String → String} {s : LicenseServer} {step : ServerStep} {userID : String}

theorem serves_own (row : ServerLicense) (serves : row.serves userID = true) : row.userID = some userID := by
  simp only [ServerLicense.serves, Bool.and_eq_true, decide_eq_true_eq] at serves
  exact serves.1

theorem serves_next_iff (one : s.licenses.rows.countP (ServerLicense.serves userID) = 1) :
    (step.next upper s).licenses.rows.countP (ServerLicense.serves userID) = 1 ↔ ¬step.Upsets userID s := by
  rw [one_next_iff serves_own one]
  have served : ∃ row ∈ s.licenses.rows, row.serves userID = true := List.countP_pos_iff.mp (one ▸ Nat.one_pos)
  cases step with
  | signUp | activate | drop | createLicense => exact iff_of_true (fun row _ => rfl) (fun upset => upset)
  | checkIn id now =>
    refine iff_of_true (fun row _ => ?_) (fun upset => upset)
    change ServerLicense.serves userID (if row.id = id then row.checkedIn now else row) = _
    split <;> rfl
  | toggleFeature id features =>
    refine iff_of_true (fun row _ => ?_) (fun upset => upset)
    change ServerLicense.serves userID (if row.id = id then (LicenseUpdate.features features).set row else row) = _
    split <;> rfl
  | unbindUser user => exact account_iff serves_own served (.inl rfl)
  | deleteUser user => exact account_iff serves_own served (.inr rfl)
  | updateStatus id status =>
    rw [all_rows_iff id fun row apart => by simp [ServerStep.row, apart]]
    change _ ↔ ¬∃ row ∈ s.licenses.find? id, _
    simp only [not_exists, not_and]
    refine forall₂_congr fun row found => ?_
    simp only [ServerStep.row, Table.find?_key found, if_true, Option.any_some, ServerLicense.serves, LicenseUpdate.set]
    by_cases own : row.userID = some userID <;> by_cases before : row.status = .active <;>
      by_cases after : status = .active <;> simp [own, before, after]
  | renew id expiresAt =>
    rw [all_rows_iff id fun row apart => by simp [ServerStep.row, apart]]
    change _ ↔ ¬∃ row ∈ s.licenses.find? id, _
    simp only [not_exists, not_and]
    refine forall₂_congr fun row found => ?_
    simp only [ServerStep.row, Table.find?_key found, if_true, Option.any_some, ServerLicense.serves, LicenseUpdate.set]
    by_cases own : row.userID = some userID <;> by_cases before : row.status = .active <;> simp [own, before]
  | deleteLicense id =>
    rw [all_rows_iff id fun row apart => by simp [ServerStep.row, apart]]
    change _ ↔ ¬∃ row ∈ s.licenses.find? id, _
    simp only [not_exists, not_and]
    refine forall₂_congr fun row found => ?_
    simp only [ServerStep.row, Table.find?_key found, if_true, Option.any_none, ServerLicense.serves]
    by_cases own : row.userID = some userID <;> by_cases before : row.status = .active <;> simp [own, before]
  | bind index now =>
    cases waiting : s.activations[index]? with
    | none =>
      refine iff_of_true (fun row _ => by simp only [ServerStep.row, waiting, Option.any_some]) ?_
      rintro ⟨activation, there, _⟩
      rw [waiting] at there
      cases there
    | some activation =>
      have upsets : (ServerStep.bind index now).Upsets userID s ↔ (s.users.find? activation.userID).isSome ∧
          ∃ row ∈ s.licenses.find? activation.license.id,
            row.status = .active ∧ (row.userID = some userID ↔ activation.userID ≠ userID) := by
        simp only [ServerStep.Upsets, waiting, Option.mem_some_iff, exists_eq_left']
      rw [upsets]
      by_cases known : (s.users.find? activation.userID).isSome
      · rw [all_rows_iff activation.license.id fun row apart => by simp [ServerStep.row, waiting, apart]]
        simp only [known, true_and, not_exists, not_and]
        refine forall₂_congr fun row found => ?_
        simp only [ServerStep.row, waiting, Table.find?_key found, known, and_true, if_true, Option.any_some,
          ServerLicense.serves, LicenseUpdate.set]
        by_cases own : row.userID = some userID <;> by_cases before : row.status = .active <;>
          by_cases after : activation.userID = userID <;> simp [own, before, after]
      · exact iff_of_true (fun row _ => by simp [ServerStep.row, waiting, known]) fun upset => known upset.1

/-- A check says licensed exactly when one licence serves the user and it has not expired. -/
theorem verifyLicense_iff (now : Int) : (s.verifyLicense now userID).licensed = true ↔ userID ≠ "" ∧
    ∃ row, s.activeLicenses userID = [row] ∧ ¬row.expiresAt.any (fun expiry => expiry < now) = true := by
  unfold LicenseServer.verifyLicense
  split
  · rename_i unnamed
    simp [ServerAnswer.refused, unnamed]
  · rename_i named
    split
    · rename_i license only
      split
      · rename_i expired
        simp [ServerAnswer.refused, only, expired]
      · rename_i valid
        simp [ServerAnswer.granted, only, valid, named]
    · rename_i several
      refine iff_of_false (by simp [ServerAnswer.refused]) ?_
      rintro ⟨_, row, only, _⟩
      exact several row only

theorem one_active_iff : (∃ row, s.activeLicenses userID = [row]) ↔
    s.licenses.rows.countP (ServerLicense.serves userID) = 1 := by
  have same : s.activeLicenses userID = s.licenses.rows.filter (ServerLicense.serves userID) := by
    refine List.filter_congr fun row _ => ?_
    simp [ServerLicense.serves]
  rw [same, List.countP_eq_length_filter, List.length_eq_one_iff]

/-- The checks of the user are answered licensed until some time, or for ever. -/
def LicenseServer.Serves (userID : String) (s : LicenseServer) : Prop :=
  ∃ expiresAt : Option Int, ∀ now, (s.verifyLicense now userID).licensed = true ↔
    ¬expiresAt.any (fun expiry => expiry < now) = true

theorem serves_iff : s.Serves userID ↔ userID ≠ "" ∧ s.licenses.rows.countP (ServerLicense.serves userID) = 1 := by
  rw [← one_active_iff]
  constructor
  · rintro ⟨expiresAt, answers⟩
    have valid : ∃ now, ¬expiresAt.any (fun expiry => expiry < now) = true := by
      cases expiresAt with
      | none => exact ⟨0, by simp⟩
      | some expiry => exact ⟨expiry, by simp⟩
    obtain ⟨now, valid⟩ := valid
    obtain ⟨named, row, only, _⟩ := (verifyLicense_iff now).mp ((answers now).mpr valid)
    exact ⟨named, row, only⟩
  · rintro ⟨named, row, only⟩
    refine ⟨row.expiresAt, fun now => (verifyLicense_iff now).trans ⟨?_, fun valid => ⟨named, row, only, valid⟩⟩⟩
    rintro ⟨_, other, also, valid⟩
    obtain rfl : row = other := by simpa [only] using also
    exact valid

end Serving

/-- A user whose checks are answered licensed keeps that answer, up to the expiry of his licence, in
every run exactly as long as no step takes his licence from him, makes it inactive or gives him a
second active one: two active licences are as good as none. -/
theorem license_serves_iff (upper : String → String) (start : LicenseServer) (userID : String)
    (serves : start.Serves userID) (steps : List ServerStep) :
    (∀ front back, steps = front ++ back → (start.run upper front).Serves userID) ↔
      ∀ front step back, steps = front ++ step :: back → ¬step.Upsets userID (start.run upper front) := by
  refine @Runs.kept_iff _ _ (fun s step => ServerStep.next upper step s) steps start
    (LicenseServer.Serves userID) (fun step s => ¬step.Upsets userID s) serves fun front step back _ held => ?_
  obtain ⟨named, one⟩ := serves_iff.mp held
  rw [serves_iff, and_iff_right named]
  exact serves_next_iff one

section Second

/-- Ali has a licence. -/
def aliServer : LicenseServer := openServer.run id [.activate "K" "ali", .bind 0 10]

/-- He activates another one. -/
def secondLicense : List ServerStep := [.activate "L" "ali", .bind 0 20]

end Second

/-- With the second licence the checks find none. -/
theorem license_serves_iff_second :
    (¬∀ front back, secondLicense = front ++ back → (aliServer.run id front).Serves "ali") ∧
      ((aliServer.run id secondLicense).verifyLicense 30 "ali").licensed = false := by
  refine ⟨fun always => ?_, by decide +kernel⟩
  have served : aliServer.Serves "ali" := serves_iff.mpr ⟨by decide, by decide +kernel⟩
  refine (license_serves_iff id aliServer "ali" served secondLicense).mp always [.activate "L" "ali"] (.bind 0 20) [] rfl ?_
  change ∃ activation ∈ (aliServer.run id [.activate "L" "ali"]).activations[0]?, _
  decide +kernel

section Features

/-- What the trigger wrote for a user. -/
def LicenseServer.featuresOf (userID : String) (s : LicenseServer) : Option UserFeatures :=
  (s.users.find? userID).bind AuthUser.features

def ServerLicense.names (userID : String) (row : ServerLicense) : Bool := row.userID = some userID

/-- The user has one licence, and his metadata enable what it does. -/
def LicenseServer.Matches (userID : String) (s : LicenseServer) : Prop :=
  ∃ row, s.licenses.rows.filter (ServerLicense.names userID) = [row] ∧ s.featuresOf userID = some row.enabled

/-- The step takes the licence of the user or binds a second one to him. -/
def ServerStep.Rebinds (userID : String) (s : LicenseServer) : ServerStep → Prop
  | .bind index _ => ∃ activation ∈ s.activations[index]?, (s.users.find? activation.userID).isSome ∧
      ∃ row ∈ s.licenses.find? activation.license.id, row.userID = some userID ↔ activation.userID ≠ userID
  | .deleteLicense id => ∃ row ∈ s.licenses.find? id, row.userID = some userID
  | .unbindUser user | .deleteUser user => user = userID
  | _ => False

variable {upper : String → String} {s : LicenseServer} {step : ServerStep} {userID : String}

theorem names_own (row : ServerLicense) (names : row.names userID = true) : row.userID = some userID :=
  of_decide_eq_true names

theorem names_next_iff (one : s.licenses.rows.countP (ServerLicense.names userID) = 1) :
    (step.next upper s).licenses.rows.countP (ServerLicense.names userID) = 1 ↔ ¬step.Rebinds userID s := by
  rw [one_next_iff names_own one]
  have named : ∃ row ∈ s.licenses.rows, row.names userID = true := List.countP_pos_iff.mp (one ▸ Nat.one_pos)
  cases step with
  | signUp | activate | drop | createLicense => exact iff_of_true (fun row _ => rfl) (fun rebound => rebound)
  | checkIn id | updateStatus id | renew id | toggleFeature id =>
    refine iff_of_true (fun row _ => ?_) (fun rebound => rebound)
    change ServerLicense.names userID (if row.id = id then _ else row) = _
    split <;> rfl
  | unbindUser user => exact account_iff names_own named (.inl rfl)
  | deleteUser user => exact account_iff names_own named (.inr rfl)
  | deleteLicense id =>
    rw [all_rows_iff id fun row apart => by simp [ServerStep.row, apart]]
    change _ ↔ ¬∃ row ∈ s.licenses.find? id, _
    simp only [not_exists, not_and]
    refine forall₂_congr fun row found => ?_
    simp only [ServerStep.row, Table.find?_key found, if_true, Option.any_none, ServerLicense.names]
    by_cases own : row.userID = some userID <;> simp [own]
  | bind index now =>
    cases waiting : s.activations[index]? with
    | none =>
      refine iff_of_true (fun row _ => by simp only [ServerStep.row, waiting, Option.any_some]) ?_
      rintro ⟨activation, there, _⟩
      rw [waiting] at there
      cases there
    | some activation =>
      have rebinds : (ServerStep.bind index now).Rebinds userID s ↔ (s.users.find? activation.userID).isSome ∧
          ∃ row ∈ s.licenses.find? activation.license.id, row.userID = some userID ↔ activation.userID ≠ userID := by
        simp only [ServerStep.Rebinds, waiting, Option.mem_some_iff, exists_eq_left']
      rw [rebinds]
      by_cases known : (s.users.find? activation.userID).isSome
      · rw [all_rows_iff activation.license.id fun row apart => by simp [ServerStep.row, waiting, apart]]
        simp only [known, true_and, not_exists, not_and]
        refine forall₂_congr fun row found => ?_
        simp only [ServerStep.row, waiting, Table.find?_key found, known, and_true, if_true, Option.any_some,
          ServerLicense.names, LicenseUpdate.set]
        by_cases own : row.userID = some userID <;> by_cases after : activation.userID = userID <;> simp [own, after]
      · exact iff_of_true (fun row _ => by simp [ServerStep.row, waiting, known]) fun rebound => known rebound.1

theorem update_features {id : Nat} {change : LicenseUpdate} {row : ServerLicense} (found : s.licenses.find? id = some row) :
    (s.update id change).featuresOf userID =
      if (change.set row).userID = some userID then (s.users.find? userID).map fun _ => (change.set row).enabled
      else s.featuresOf userID := by
  have users : (s.update id change).users = syncUserFeatures (change.set row) s.users := by
    simp only [LicenseServer.update, found]
  rw [LicenseServer.featuresOf, users, syncUserFeatures]
  cases owner : (change.set row).userID with
  | none => rfl
  | some other =>
    simp only [Table.find?_modify, Option.some.injEq]
    by_cases same : userID = other
    · rw [if_pos same, if_pos same.symm]
      cases s.users.find? userID <;> rfl
    · rw [if_neg same, if_neg (Ne.symm same)]
      rfl

theorem update_absent {id : Nat} {change : LicenseUpdate} (absent : s.licenses.find? id = none) : s.update id change = s := by
  simp only [LicenseServer.update, absent]

/-- What a step that leaves a user his one licence makes of it and of his metadata. -/
theorem features_next {row : ServerLicense} (only : ∀ other ∈ s.licenses.rows, other.userID = some userID → other = row)
    (member : row ∈ s.licenses.rows) (his : row.userID = some userID) (matching : s.featuresOf userID = some row.enabled)
    (kept : ¬step.Rebinds userID s) :
    ∃ after, step.row s row = some after ∧ (step.next upper s).featuresOf userID = some after.enabled := by
  obtain ⟨user, known, written⟩ := Option.bind_eq_some_iff.mp matching
  have updated : ∀ (id : Nat) (change : LicenseUpdate), (∀ other, (change.set other).userID = other.userID) →
      (s.update id change).featuresOf userID = some (if row.id = id then change.set row else row).enabled := by
    intro id change keeps
    cases found : s.licenses.find? id with
    | none =>
      have elsewhere : row.id ≠ id := Table.find?_none.mp found row member
      rw [update_absent found, if_neg elsewhere, matching]
    | some other =>
      rw [update_features found, keeps]
      by_cases own : other.userID = some userID
      · obtain rfl := only other (Table.find?_mem found) own
        rw [if_pos own, if_pos (Table.find?_key found), known]
        rfl
      · have elsewhere : row.id ≠ id := by
          rintro rfl
          rw [Table.find?_of_mem member] at found
          obtain rfl := Option.some.inj found
          exact own his
        rw [if_neg own, if_neg elsewhere, matching]
  cases step with
  | signUp other =>
    refine ⟨row, rfl, ?_⟩
    change (((s.users.insert? ⟨other, none⟩).getD s.users).find? userID).bind AuthUser.features = _
    cases inserted : s.users.insert? ⟨other, none⟩ with
    | none => exact matching
    | some users =>
      have free : userID ≠ other := by
        rintro rfl
        have taken : s.users.insert? (⟨userID, none⟩ : AuthUser) = none := Table.insert?_none.mpr ⟨user, known⟩
        rw [taken] at inserted
        cases inserted
      rw [Option.getD_some, Table.find?_insert inserted, if_neg free]
      exact matching
  | activate licenseKey other =>
    refine ⟨row, rfl, ?_⟩
    cases fetched : s.fetchLicense upper licenseKey other <;> simp only [ServerStep.next, fetched] <;> exact matching
  | drop index => exact ⟨row, rfl, matching⟩
  | createLicense licenseKey expiresAt features =>
    refine ⟨row, rfl, ?_⟩
    by_cases taken : ∃ row ∈ s.licenses.rows, row.licenseKey = licenseKey
    · simpa only [ServerStep.next, if_pos taken] using matching
    · simp only [ServerStep.next, if_neg taken]
      exact matching
  | checkIn id now =>
    refine ⟨_, rfl, ?_⟩
    change s.featuresOf userID = _
    rw [matching]
    split <;> rfl
  | updateStatus id status => exact ⟨_, rfl, updated id _ fun _ => rfl⟩
  | renew id expiresAt => exact ⟨_, rfl, updated id _ fun _ => rfl⟩
  | toggleFeature id features => exact ⟨_, rfl, updated id _ fun _ => rfl⟩
  | unbindUser other =>
    have apart : row.userID ≠ some other := fun same => kept (Option.some.inj (same.symm.trans his))
    exact ⟨row, congrArg some (if_neg apart), matching⟩
  | deleteUser other =>
    have apart : row.userID ≠ some other := fun same => kept (Option.some.inj (same.symm.trans his))
    refine ⟨row, congrArg some (if_neg apart), ?_⟩
    change ((s.users.filter fun user => user.id ≠ other).find? userID).bind AuthUser.features = _
    have different : user.id ≠ other := fun same => kept (same.symm.trans (Table.find?_key known))
    rw [Table.find?_filter, known, Option.filter_some, if_pos (by simpa using different)]
    exact written
  | deleteLicense id =>
    have apart : row.id ≠ id := by
      rintro rfl
      exact kept ⟨row, Table.find?_of_mem member, his⟩
    exact ⟨row, if_neg apart, matching⟩
  | bind index now =>
    cases waiting : s.activations[index]? with
    | none =>
      refine ⟨row, by simp only [ServerStep.row, waiting], ?_⟩
      simp only [ServerStep.next, waiting]
      exact matching
    | some activation =>
      have features : ((ServerStep.bind index now).next upper s).featuresOf userID =
          (s.bindLicense activation now).2.featuresOf userID := by
        simp only [ServerStep.next, waiting]
        rfl
      rw [features]
      by_cases stored : (s.licenses.find? activation.license.id).isSome ∧ s.users.find? activation.userID = none
      · refine ⟨row, by simp [ServerStep.row, waiting, stored.2], ?_⟩
        unfold LicenseServer.bindLicense
        rw [if_pos stored]
        exact matching
      · have bound : (s.bindLicense activation now).2 = s.update activation.license.id (.bound activation.userID now) := by
          unfold LicenseServer.bindLicense
          rw [if_neg stored]
        rw [bound]
        cases found : s.licenses.find? activation.license.id with
        | none =>
          have elsewhere : row.id ≠ activation.license.id := Table.find?_none.mp found row member
          refine ⟨row, by simp [ServerStep.row, waiting, elsewhere], ?_⟩
          rw [update_absent found, matching]
        | some other =>
          have present : (s.users.find? activation.userID).isSome := by
            rw [found] at stored
            simpa [Option.isSome_iff_ne_none] using stored
          have owner : ((LicenseUpdate.bound activation.userID now).set other).userID = some activation.userID := rfl
          rw [update_features found, owner]
          by_cases own : activation.userID = userID
          · have same : other.userID = some userID := by
              by_contra not_his
              exact kept ⟨activation, waiting, present, other, found, iff_of_false not_his (not_not.mpr own)⟩
            obtain rfl := only other (Table.find?_mem found) same
            refine ⟨(LicenseUpdate.bound activation.userID now).set other, ?_, ?_⟩
            · simp only [ServerStep.row, waiting, Table.find?_key found, present, and_self, if_true]
            · rw [if_pos (congrArg some own), known]
              rfl
          · have elsewhere : row.id ≠ activation.license.id := by
              intro same
              rw [← same, Table.find?_of_mem member] at found
              obtain rfl := Option.some.inj found
              exact kept ⟨activation, waiting, present, row, by rw [← same]; exact Table.find?_of_mem member,
                iff_of_true his own⟩
            refine ⟨row, by simp [ServerStep.row, waiting, elsewhere], ?_⟩
            rw [if_neg fun same => own (Option.some.inj same), matching]

theorem matches_iff : s.Matches userID ↔ s.licenses.rows.countP (ServerLicense.names userID) = 1 ∧
    ∃ row ∈ s.licenses.rows, row.names userID = true ∧ s.featuresOf userID = some row.enabled := by
  rw [List.countP_eq_length_filter, List.length_eq_one_iff]
  constructor
  · rintro ⟨row, only, matching⟩
    have inside : row ∈ s.licenses.rows.filter (ServerLicense.names userID) := only ▸ List.mem_singleton_self row
    obtain ⟨member, his⟩ := List.mem_filter.mp inside
    exact ⟨⟨row, only⟩, row, member, his, matching⟩
  · rintro ⟨⟨row, only⟩, other, member, his, matching⟩
    have inside : other ∈ s.licenses.rows.filter (ServerLicense.names userID) := List.mem_filter.mpr ⟨member, his⟩
    obtain rfl := List.mem_singleton.mp (only ▸ inside)
    exact ⟨other, only, matching⟩

theorem matches_next_iff (held : s.Matches userID) : (step.next upper s).Matches userID ↔ ¬step.Rebinds userID s := by
  obtain ⟨one, row, member, names, now⟩ := matches_iff.mp held
  have rebinds := @names_next_iff upper s step userID one
  rw [matches_iff, rebinds, and_iff_left_iff_imp]
  intro kept
  have single : ∀ other ∈ s.licenses.rows, other.userID = some userID → other = row := by
    obtain ⟨only, counted⟩ := List.length_eq_one_iff.mp (List.countP_eq_length_filter ▸ one)
    have the : ∀ other ∈ s.licenses.rows, other.userID = some userID → other = only := fun other there his =>
      List.mem_singleton.mp (counted ▸ List.mem_filter.mpr ⟨there, decide_eq_true his⟩)
    exact fun other there his => (the other there his).trans (the row member (names_own row names)).symm
  obtain ⟨after, becomes, features⟩ := @features_next upper s step userID row single member (names_own row names) now kept
  have still := (one_next_iff names_own one).mp (rebinds.mpr kept) row member
  rw [becomes, names] at still
  exact ⟨after, row_stored member becomes, still, features⟩

end Features

/-- A user with one licence whose metadata match it keeps both in every run exactly as long as no
step takes the licence from him or binds him another: the trigger follows each change of the
licence, and nothing takes back what it enabled when the licence goes. -/
theorem features_match_iff (upper : String → String) (start : LicenseServer) (userID : String)
    (matching : start.Matches userID) (steps : List ServerStep) :
    (∀ front back, steps = front ++ back → (start.run upper front).Matches userID) ↔
      ∀ front step back, steps = front ++ step :: back → ¬step.Rebinds userID (start.run upper front) :=
  @Runs.kept_iff _ _ (fun s step => ServerStep.next upper step s) steps start (LicenseServer.Matches userID)
    (fun step s => ¬step.Rebinds userID s) matching fun _ _ _ _ held => matches_next_iff held

/-- A ban switches the features off, and the deletion of the licence leaves them on. -/
theorem features_match_iff_banned :
    (aliServer.run id [.updateStatus 1 .banned]).Matches "ali" ∧
      ¬(aliServer.run id [.deleteLicense 1]).Matches "ali" ∧
      (aliServer.run id [.deleteLicense 1]).featuresOf "ali" = some ⟨true, false, false⟩ := by
  have matching : aliServer.Matches "ali" := matches_iff.mpr (by decide +kernel)
  refine ⟨?_, fun still => ?_, by decide +kernel⟩
  · refine (features_match_iff id aliServer "ali" matching [.updateStatus 1 .banned]).mpr ?_ _ [] rfl
    intro front step back parts rebinds
    cases front with
    | nil =>
      obtain ⟨rfl, _⟩ := List.cons.inj parts
      exact rebinds
    | cons first front => simp at parts
  · obtain ⟨one, _⟩ := matches_iff.mp still
    revert one
    decide +kernel

end BeidarPos
