import BeidarPos.License
import BeidarPos.CloudBackup

/-! A licence through an outage. The calls that talk to the server decide for themselves
what a failed answer means; this is what has to hold of the answers for a licensed device to
stay signed in and licensed. -/
namespace BeidarPos

section Checks

variable {d : Device} {env : BackupEnv} {user : String} {turn : Nat}

/-- The token lasts five minutes more, or its refresh is answered with a status under 400. -/
def TokenHolds (now : Int) (answer : Answer TokenBody) (d : Device) : Prop :=
  ∀ session, d.loadSessionFromCache.currentSession = some session →
    unixOf now ≤ session.expiresAt - 300 ∨
      (session.refreshToken ≠ "" ∧ ∃ reply, answer = .ok reply ∧ reply.status < 400)

/-- The lock is not answered, or with the token of the device first. -/
def LockHolds (answer : Answer (List String)) (d : Device) : Prop :=
  ∀ session reply, d.loadSessionFromCache.currentSession = some session → answer = .ok reply →
    reply.body.head? = some session.sessionToken

/-- The device is signed in as the user, in its file too. -/
structure SignedInAs (user : String) (d : Device) : Prop where
  user : d.user = some user
  file : d.sessionFile.isSome

theorem SignedInAs.session (signed : SignedInAs user d) :
    ∃ session, d.loadSessionFromCache.currentSession = some session ∧ session.userID = user :=
  Option.map_eq_some_iff.mp signed.user

theorem refreshSession_holds {now : Int} {answer : Answer TokenBody} {session : UserSession}
    (current : d.currentSession = some session) (some : session.refreshToken ≠ "") {reply : HttpReply TokenBody}
    (answered : answer = .ok reply) (fine : reply.status < 400) : ∃ d', d.refreshSession now answer = (.ok (), d') := by
  unfold Device.refreshSession
  simp only [current, some, answered, if_false, if_neg (not_le.mpr fine)]
  exact ⟨_, rfl⟩

theorem isLoggedIn_holds {now : Int} {answer : Answer TokenBody} (signed : SignedInAs user d)
    (token : TokenHolds now answer d) :
    ∃ d', d.isLoggedIn now answer = (true, d') ∧ SignedInAs user d' ∧
      ∀ old new, d.loadSessionFromCache.currentSession = some old → d'.loadSessionFromCache.currentSession = some new →
        new.sessionToken = old.sessionToken := by
  obtain ⟨session, loaded, mine⟩ := signed.session
  have passed : ∃ d', d.isLoggedIn now answer = (true, d') := by
    unfold Device.isLoggedIn
    simp only [loaded]
    split
    · rename_i expiring
      rcases token session loaded with lasting | ⟨some, reply, answered, fine⟩
      · omega
      · obtain ⟨d', refreshed⟩ := @refreshSession_holds d.loadSessionFromCache now answer session loaded some reply
          answered fine
        exact ⟨d', by rw [refreshed]⟩
    · exact ⟨_, rfl⟩
  obtain ⟨d', logged⟩ := passed
  obtain ⟨old, new, loaded', current, owner, kept, file⟩ := isLoggedIn_true logged
  refine ⟨d', logged, ⟨?_, file signed.file⟩, ?_⟩
  · rw [user_of_current current, owner]
    rw [loaded] at loaded'
    cases loaded'
    rw [mine]
  · intro old' new' first last
    rw [loaded'] at first
    rw [loaded_of_current current] at last
    cases first
    cases last
    exact kept

theorem verifySessionLock_holds {answer : Answer (List String)} (signed : SignedInAs user d)
    (lock : LockHolds answer d) : d.verifySessionLock answer = (.ok (), d.loadSessionFromCache) := by
  obtain ⟨session, loaded, _⟩ := signed.session
  unfold Device.verifySessionLock
  simp only [loaded]
  cases answer with
  | error e => rfl
  | ok reply =>
    have first := lock session reply loaded rfl
    cases listed : reply.body with
    | nil => simp [listed] at first
    | cons token rest =>
      rw [listed, List.head?_cons] at first
      cases first
      simp only [listed, if_true]

/-- One session check of a backup call passes. -/
structure CheckHolds (env : BackupEnv) (turn : Nat) (d : Device) : Prop where
  token : TokenHolds env.now (env.refresh turn) d
  lock : LockHolds (env.lock turn) d

theorem signedIn_holds (signed : SignedInAs user d) (holds : CheckHolds env turn d) :
    ∃ session d', signedIn env turn d = (.ok session, d') ∧ SignedInAs user d' := by
  obtain ⟨d', logged, signed', token⟩ := isLoggedIn_holds signed holds.token
  obtain ⟨session, loaded, _⟩ := signed'.session
  obtain ⟨old, loaded', _⟩ := signed.session
  have lock : LockHolds (env.lock turn) d' := by
    intro session' reply current answered
    rw [token old session' loaded' current]
    exact holds.lock old reply loaded' answered
  have locked := verifySessionLock_holds signed' lock
  have again : d'.loadSessionFromCache.loadSessionFromCache = d'.loadSessionFromCache := by
    simp [Device.loadSessionFromCache, Option.or_assoc]
  refine ⟨session, d'.loadSessionFromCache, ?_, ⟨load_user.trans signed'.user, signed'.file⟩⟩
  simp only [signedIn, logged, locked, Device.getLocalSession, again, loaded]

end Checks

section Backups

variable {env : BackupEnv} {user : String} {c : Cloud}

/-- All session checks of a backup call pass, and the listing is not refused for them. -/
structure BackupHolds (env : BackupEnv) (c : Cloud) : Prop where
  entry : CheckHolds env 0 c.device
  listing : ∀ session d, signedIn env 0 c.device = (.ok session, d) → CheckHolds env 1 d
  list : ∀ reply, env.list = .ok reply → reply.status ≠ 401
  deletion : ∀ session d backups c', signedIn env 0 c.device = (.ok session, d) →
    listCloudBackupsForUser env { c with device := d } = (.ok backups, c') →
      session.limitCount ≤ backups.length → backups ≠ [] → CheckHolds env 2 c'.device

theorem list_holds (signed : SignedInAs user c.device) (holds : CheckHolds env 1 c.device)
    (list : ∀ reply, env.list = .ok reply → reply.status ≠ 401) :
    SignedInAs user (listCloudBackupsForUser env c).2.device := by
  obtain ⟨session, d, passed, signed'⟩ := signedIn_holds signed holds
  simp only [listCloudBackupsForUser, passed]
  split
  · exact signed'
  · rename_i reply answered
    rw [if_neg (list reply answered)]
    split <;> exact signed'

theorem delete_holds (id : String) (signed : SignedInAs user c.device) (holds : CheckHolds env 2 c.device) :
    SignedInAs user (deleteCloudBackup env id c).2.device := by
  obtain ⟨session, d, passed, signed'⟩ := signedIn_holds signed holds
  simp only [deleteCloudBackup, passed]
  exact signed'

theorem backup_holds (signed : SignedInAs user c.device) (holds : BackupHolds env c) :
    SignedInAs user (cloudBackupNow env c).2.device := by
  obtain ⟨session, d, passed, signed'⟩ := signedIn_holds signed holds.entry
  have listed := @list_holds env user { c with device := d } signed' (holds.listing session d passed) holds.list
  simp only [cloudBackupNow, passed, makeRoom]
  cases listing : listCloudBackupsForUser env { c with device := d } with
  | mk answer c' =>
    rw [listing] at listed
    cases answer with
    | error e => exact listed
    | ok backups =>
      dsimp only
      split
      · rename_i full
        cases last : backups.getLast? with
        | none => exact listed
        | some oldest =>
          have some : backups ≠ [] := by
            rintro rfl
            cases last
          exact delete_holds oldest.id listed (holds.deletion session d backups c' passed listing full some)
      · exact listed

theorem verifySessionLock_license (d : Device) (answer : Answer (List String)) :
    (d.verifySessionLock answer).2.licenseFile = d.licenseFile ∧
      (d.verifySessionLock answer).2.licenseKeyFile = d.licenseKeyFile := by
  unfold Device.verifySessionLock
  split
  · exact ⟨rfl, rfl⟩
  · split
    · exact ⟨rfl, rfl⟩
    · split
      · exact ⟨rfl, rfl⟩
      · split <;> exact ⟨rfl, rfl⟩

theorem signedIn_license (turn : Nat) (d : Device) :
    (signedIn env turn d).2.licenseFile = d.licenseFile ∧ (signedIn env turn d).2.licenseKeyFile = d.licenseKeyFile := by
  have logged := @isLoggedIn_license d env.now (env.refresh turn)
  unfold signedIn
  split
  · rename_i failed
    rw [failed] at logged
    exact logged
  · rename_i d' passed
    rw [passed] at logged
    have locked := verifySessionLock_license d' (env.lock turn)
    split
    · rename_i failed
      rw [failed] at locked
      exact ⟨locked.1.trans logged.1, locked.2.trans logged.2⟩
    · rename_i done
      rw [done] at locked
      split <;> (rename_i shown; obtain ⟨-, rfl⟩ := Prod.mk.inj shown; exact ⟨locked.1.trans logged.1, locked.2.trans logged.2⟩)

theorem list_license (c : Cloud) : (listCloudBackupsForUser env c).2.device.licenseFile = c.device.licenseFile ∧
    (listCloudBackupsForUser env c).2.device.licenseKeyFile = c.device.licenseKeyFile := by
  have kept := @signedIn_license env 1 c.device
  unfold listCloudBackupsForUser
  split
  · rename_i failed
    rw [failed] at kept
    exact kept
  · rename_i passed
    rw [passed] at kept
    split
    · exact kept
    · split
      · exact kept
      · split <;> exact kept

theorem delete_license (id : String) (c : Cloud) : (deleteCloudBackup env id c).2.device.licenseFile = c.device.licenseFile ∧
    (deleteCloudBackup env id c).2.device.licenseKeyFile = c.device.licenseKeyFile := by
  have kept := @signedIn_license env 2 c.device
  unfold deleteCloudBackup
  split <;> rename_i result <;> rw [result] at kept <;> exact kept

theorem backup_license (c : Cloud) : (cloudBackupNow env c).2.device.licenseFile = c.device.licenseFile ∧
    (cloudBackupNow env c).2.device.licenseKeyFile = c.device.licenseKeyFile := by
  have kept := @signedIn_license env 0 c.device
  unfold cloudBackupNow
  split
  · rename_i failed
    rw [failed] at kept
    exact kept
  · rename_i session d passed
    rw [passed] at kept
    have listed := @list_license env { c with device := d }
    dsimp only [makeRoom]
    cases listing : listCloudBackupsForUser env { c with device := d } with
    | mk answer c' =>
      rw [listing] at listed
      cases answer with
      | error e => exact ⟨listed.1.trans kept.1, listed.2.trans kept.2⟩
      | ok backups =>
        dsimp only
        split
        · cases backups.getLast? with
          | none => exact ⟨listed.1.trans kept.1, listed.2.trans kept.2⟩
          | some oldest =>
            have deleted := @delete_license env oldest.id c'
            exact ⟨deleted.1.trans (listed.1.trans kept.1), deleted.2.trans (listed.2.trans kept.2)⟩
        · exact ⟨listed.1.trans kept.1, listed.2.trans kept.2⟩

end Backups

section Outages

variable (text : GoText)

/-- The calls of an outage, with what each meets. -/
inductive OutageStep where
  | verifyLicense (env : LicenseEnv) (licenseKey : String)
  | getUserLicenseStatus (env : LicenseEnv)
  | isLoggedIn (now : Int) (answer : Answer TokenBody)
  | cloudBackupNow (env : BackupEnv)

def OutageStep.next : OutageStep → Cloud → Cloud
  | .verifyLicense env key, c => { c with device := (BeidarPos.verifyLicense text env key c.device).device }
  | .getUserLicenseStatus env, c => { c with device := (BeidarPos.getUserLicenseStatus text env c.device).device }
  | .isLoggedIn now answer, c => { c with device := (c.device.isLoggedIn now answer).2 }
  | .cloudBackupNow env, c => (BeidarPos.cloudBackupNow env c).2

def outageRun (steps : List OutageStep) (c : Cloud) : Cloud := steps.foldl (fun c step => step.next text c) c

/-- Signed in, with a cached licence that a status call looks up by the key it is under. -/
structure Licensed (user : String) (d : Device) : Prop where
  signed : SignedInAs user d
  found : d.cacheKey user ≠ ""
  cached : ∃ cache, d.licenseFile = .ok cache ∧ cache.userID = user ∧ cache.result.licensed = true ∧
    cache.licenseKey = d.cacheKey user

/-- The cached licence is within its offline period and its expiry. -/
def WithinPeriod (now : Int) (d : Device) : Prop :=
  ∀ cache, d.licenseFile = .ok cache →
    unixOf now - cache.cachedAt ≤ cacheDuration ∧ cache.result.expired text now = false

/-- The clock was not set back behind what the cache was written at. -/
def ClockHolds (now : Int) (d : Device) : Prop :=
  ∀ cache, d.licenseFile = .ok cache → -300 ≤ unixOf now - cache.cachedAt ∧ cache.lastServerTime ≤ unixOf now

/-- What the answers to a call must be like for the device to stay licensed: no body of a
failed licence request reads as a denial, and the session checks pass. -/
def OutageStep.Spared (user : String) : OutageStep → Cloud → Prop
  | .verifyLicense env key, c => text.upperTrim key ≠ "" → TokenHolds env.now env.refresh c.device ∧
      ∀ result, env.online = .ok result → result.licensed = true ∧ text.upperTrim key = c.device.cacheKey user
  | .getUserLicenseStatus env, c => (∀ result, env.online = .ok result → result.licensed = true) ∧
      ∀ e, env.online = .error e → ClockHolds env.now c.device
  | .isLoggedIn now answer, c => TokenHolds now answer c.device
  | .cloudBackupNow env, c => BackupHolds env c

variable {text} {user : String} {d d' : Device} {c : Cloud}

theorem cacheKey_kept (key : d'.licenseKeyFile = d.licenseKeyFile) : d'.cacheKey user = d.cacheKey user := by
  unfold Device.cacheKey
  rw [key]

/-- The licence stays where the cache file and the key do. -/
theorem Licensed.kept (licensed : Licensed user d) (signed : SignedInAs user d')
    (files : d'.licenseFile = d.licenseFile ∧ d'.licenseKeyFile = d.licenseKeyFile) : Licensed user d' := by
  have key := @cacheKey_kept user d d' files.2
  refine ⟨signed, key ▸ licensed.found, ?_⟩
  rw [files.1, key]
  exact licensed.cached

theorem SignedInAs.saved (signed : SignedInAs user d) : SignedInAs user d.saveSessionToCache := by
  cases current : d.currentSession with
  | none => simpa only [Device.saveSessionToCache, current] using signed
  | some session =>
    refine ⟨?_, by simp [Device.saveSessionToCache, current]⟩
    rw [user_of_current (save_session.trans current), ← user_of_current current]
    exact signed.user

/-- A licensed answer renews the licence, under the key it is looked up by. -/
theorem Licensed.renewed (licensed : Licensed user d) (signed : SignedInAs user d')
    (key : d'.licenseKeyFile = d.licenseKeyFile) (now : Int) {result : LicenseResult}
    (granted : result.licensed = true) :
    Licensed user (d'.cacheResult now (d.cacheKey user) user result).saveSessionToCache := by
  have same : (d'.cacheResult now (d.cacheKey user) user result).saveSessionToCache.cacheKey user = d.cacheKey user :=
    cacheKey_kept (save_key.trans key)
  have stored : SignedInAs user (d'.cacheResult now (d.cacheKey user) user result) := ⟨signed.user, signed.file⟩
  exact ⟨stored.saved, by rw [same]; exact licensed.found, ⟨_, save_license, rfl, granted, same.symm⟩⟩

theorem getCurrentUser_holds {now : Int} {answer : Answer TokenBody} (signed : SignedInAs user d)
    (token : TokenHolds now answer d) :
    ∃ session d', d.getCurrentUser now answer = (some session, d') ∧ session.userID = user ∧ SignedInAs user d' := by
  obtain ⟨d', logged, signed', _⟩ := isLoggedIn_holds signed token
  obtain ⟨_, session, _, current, _⟩ := isLoggedIn_true logged
  refine ⟨session, d', by simp only [Device.getCurrentUser, logged, current], ?_, signed'⟩
  exact Option.some_inj.mp ((user_of_current current).symm.trans signed'.user)

theorem verifyLicense_licensed {env : LicenseEnv} {key : String} (licensed : Licensed user d)
    (spared : text.upperTrim key ≠ "" → TokenHolds env.now env.refresh d ∧
      ∀ result, env.online = .ok result → result.licensed = true ∧ text.upperTrim key = d.cacheKey user) :
    Licensed user (verifyLicense text env key d).device := by
  by_cases blank : text.upperTrim key = ""
  · simp only [verifyLicense, blank, if_true]
    exact licensed
  · obtain ⟨token, answers⟩ := spared blank
    obtain ⟨session, d', current, mine, signed⟩ := getCurrentUser_holds licensed.signed token
    have files := @getCurrentUser_license d env.now env.refresh
    rw [current] at files
    simp only [verifyLicense, blank, if_false, current]
    split
    · rename_i result answered
      obtain ⟨granted, own⟩ := answers result answered
      rw [own, mine]
      exact licensed.renewed signed files.2 env.now granted
    · split
      · split
        · exact licensed.kept signed.saved ⟨save_license.trans files.1, save_key.trans files.2⟩
        · exact licensed.kept signed files
      · exact licensed.kept signed files

/-- A licence that is in force is found, and stays. -/
theorem status_licensed {env : LicenseEnv} (licensed : Licensed user d)
    (answers : ∀ result, env.online = .ok result → result.licensed = true) :
    Licensed user (getUserLicenseStatus text env d).device ∧
      ((∀ e, env.online = .error e → ClockHolds env.now d) → WithinPeriod text env.now d →
        ∃ result, (getUserLicenseStatus text env d).result = some result ∧ result.licensed = true) := by
  obtain ⟨session, loaded, mine⟩ := licensed.signed.session
  have signed : SignedInAs user d.loadSessionFromCache := ⟨load_user.trans licensed.signed.user, licensed.signed.file⟩
  have key : d.loadSessionFromCache.cacheKey user = d.cacheKey user := rfl
  simp only [getUserLicenseStatus, Device.getLocalSession, loaded, mine, key]
  cases answered : env.online with
  | ok result =>
    have granted := answers result answered
    simp only [granted, if_true]
    exact ⟨licensed.renewed signed load_key env.now granted, fun _ _ => ⟨result, rfl, granted⟩⟩
  | error e =>
    simp only [licensed.found, if_false]
    obtain ⟨cache, file, owner, valid, own⟩ := licensed.cached
    refine ⟨?_, fun clock period => ?_⟩
    · split
      · split <;> exact licensed.kept signed ⟨rfl, rfl⟩
      · exact licensed.kept signed ⟨rfl, rfl⟩
    · obtain ⟨recent, server⟩ := clock e rfl cache file
      obtain ⟨young, current⟩ := period cache file
      have read : d.loadSessionFromCache.readLicense text env.now (d.cacheKey user) user =
          .ok { cache.result with message := cachedMessage (unixOf env.now - cache.cachedAt) } := by
        simp only [Device.readLicense, load_license, file]
        rw [if_neg (not_lt.mpr recent), if_neg (not_lt.mpr server), if_neg (not_lt.mpr young),
          if_neg (by simp [current]), if_neg (not_not.mpr owner), if_neg (fun other => other.2 own)]
      simp only [read, valid, if_true]
      exact ⟨_, rfl, rfl⟩

theorem step_licensed {step : OutageStep} (licensed : Licensed user c.device) (spared : step.Spared text user c) :
    Licensed user (step.next text c).device := by
  cases step with
  | verifyLicense env key => exact verifyLicense_licensed licensed spared
  | getUserLicenseStatus env => exact (status_licensed licensed spared.1).1
  | isLoggedIn now answer =>
    obtain ⟨d', logged, signed, _⟩ := isLoggedIn_holds licensed.signed spared
    have files := @isLoggedIn_license c.device now answer
    change Licensed user (c.device.isLoggedIn now answer).2
    rw [logged] at files ⊢
    exact licensed.kept signed files
  | cloudBackupNow env => exact licensed.kept (backup_holds licensed.signed spared) (backup_license c)

theorem run_licensed {steps : List OutageStep} (licensed : Licensed user c.device)
    (spared : ∀ front step back, steps = front ++ step :: back → step.Spared text user (outageRun text front c)) :
    Licensed user (outageRun text steps c).device := by
  induction steps generalizing c with
  | nil => exact licensed
  | cons step steps ih =>
    refine ih (step_licensed licensed (spared [] step steps rfl)) ?_
    intro front other back parts
    exact spared (step :: front) other back (by rw [parts]; rfl)

end Outages

/-- Through any run whose answers spare it, a licensed device stays signed in as its user,
keeps its session file, and every status call within the licence's period finds it licensed. -/
theorem outage_keeps_licence (text : GoText) (user : String) (c : Cloud) (steps : List OutageStep)
    (licensed : Licensed user c.device)
    (spared : ∀ front step back, steps = front ++ step :: back → step.Spared text user (outageRun text front c)) :
    (outageRun text steps c).device.sessionFile.isSome ∧ (outageRun text steps c).device.user = some user ∧
      ∀ front env back, steps = front ++ .getUserLicenseStatus env :: back →
        WithinPeriod text env.now (outageRun text front c).device →
          ∃ result, (getUserLicenseStatus text env (outageRun text front c).device).result = some result ∧
            result.licensed = true := by
  have final := run_licensed licensed spared
  refine ⟨final.signed.file, final.signed.user, ?_⟩
  intro front env back parts period
  have before : Licensed user (outageRun text front c).device := by
    refine run_licensed licensed fun early step late parts' => ?_
    exact spared early step (late ++ .getUserLicenseStatus env :: back) (by rw [parts, parts']; simp)
  obtain ⟨answers, clock⟩ := spared front (.getUserLicenseStatus env) back parts
  exact (status_licensed before answers).2 clock period

section Ali

def aliCloud : Cloud := ⟨aliDevice, ⟨.empty, 0, by simp [Relational.Table.empty]⟩⟩

theorem ali_licensed : Licensed "ali" aliCloud.device :=
  ⟨⟨rfl, rfl⟩, by decide, ⟨_, rfl, rfl, rfl, rfl⟩⟩

end Ali

/-- A server error whose body is an empty object takes the licence, and a token that cannot
be refreshed without a network takes the session. -/
theorem outage_takes_licence :
    Licensed "ali" aliCloud.device ∧ WithinPeriod plainText 1000000000 aliCloud.device ∧
      (getUserLicenseStatus plainText (licenseAnswer (.ok ⟨500, .ok (unlicensed "")⟩)) aliDevice).result =
        some (unlicensed "") ∧
      (getUserLicenseStatus plainText (licenseAnswer (.error "offline"))
        (getUserLicenseStatus plainText (licenseAnswer (.ok ⟨500, .ok (unlicensed "")⟩)) aliDevice).device).result =
          some (unlicensed "لا يوجد ترخيص مرتبط بحسابك") ∧
      (aliDevice.isLoggedIn (100000 * 1000000000) (.error "offline")).2.sessionFile = none := by
  refine ⟨ali_licensed, ?_, rfl, rfl, rfl⟩
  rintro cache ⟨⟩
  exact ⟨by decide, rfl⟩

theorem outage_keeps_licence_ali :
    ∃ result, (getUserLicenseStatus plainText (licenseAnswer (.error "offline")) aliDevice).result = some result ∧
      result.licensed = true := by
  have spared : ∀ front step back, [OutageStep.getUserLicenseStatus (licenseAnswer (.error "offline"))] =
      front ++ step :: back → step.Spared plainText "ali" (outageRun plainText front aliCloud) := by
    intro front step back parts
    obtain ⟨rfl, same⟩ : front = [] ∧ step = .getUserLicenseStatus (licenseAnswer (.error "offline")) := by
      cases front with
      | nil => exact ⟨rfl, (List.cons_eq_cons.mp parts).1.symm⟩
      | cons _ front => exact absurd (congrArg List.length parts) (by simp)
    rw [same]
    refine ⟨by rintro _ ⟨⟩, ?_⟩
    rintro _ _ cache ⟨⟩
    exact ⟨by decide, by decide⟩
  refine (outage_keeps_licence plainText "ali" aliCloud _ ali_licensed spared).2.2 [] _ [] rfl ?_
  rintro cache ⟨⟩
  exact ⟨by decide, rfl⟩

end BeidarPos
