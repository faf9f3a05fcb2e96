import BeidarPos.CloudSession

/-! Licences. The last answer of the licence server is cached in one file, for one user and
under one key, and stands in for the server while it cannot be reached. -/
namespace BeidarPos

/-- What the source takes from the standard library: upper case of a trimmed text, and the
nanosecond an RFC 3339 text names. -/
structure GoText where
  upperTrim : String → String
  parseTime : String → Option Int

/-- What a licence call meets: the clock, and the answers to the token refresh and to the
verify or activate request. A body that does not decode is an error. -/
structure LicenseEnv where
  now : Int
  refresh : Answer TokenBody
  license : Answer (Except String LicenseResult)

def unlicensed (message : String) : LicenseResult :=
  ⟨false, false, message, "", "", "", [], "", 0, 0⟩

/-- `verifyOnline` and `activateOnline`; the status is not looked at. -/
def LicenseEnv.online (env : LicenseEnv) : Except String LicenseResult :=
  match env.license with
  | .error e => .error e
  | .ok reply => reply.body

def Device.cacheResult (d : Device) (now : Int) (licenseKey userID : String) (result : LicenseResult) : Device :=
  { d with licenseFile := .ok ⟨licenseKey, userID, result, unixOf now, result.lastServerTime⟩ }

def cacheDuration : Int := 30 * 24 * 60 * 60

def gracePeriodWarning : Int := 7 * 24 * 60 * 60

def offlineMessage : String := "تم التحقق من النسخة المحلية (وضع عدم الاتصال)"

def cachedMessage (timeSinceLastCheck : Int) : String :=
  if gracePeriodWarning < timeSinceLastCheck then
    "⚠️ تحذير: لم تتصل بالإنترنت منذ فترة طويلة. سيتوقف البرنامج خلال " ++
      toString (max 0 (30 - timeSinceLastCheck / 86400)) ++ " يوم."
  else offlineMessage

/-- The licence has an expiry that is over. -/
def LicenseResult.expired (text : GoText) (now : Int) (result : LicenseResult) : Bool :=
  if result.expiresAt = "" then false
  else
    match text.parseTime result.expiresAt with
    | none => false
    | some expiry => expiry < now

/-- What the cache file gives a user at a time. -/
def Device.readLicense (text : GoText) (d : Device) (now : Int) (licenseKey userID : String) :
    Except String LicenseResult :=
  match d.licenseFile with
  | .error e => .error e
  | .ok cache =>
    if unixOf now - cache.cachedAt < -300 then .error "time tampered"
    else if unixOf now < cache.lastServerTime then .error "time tampered"
    else if cacheDuration < unixOf now - cache.cachedAt then .error "cache expired"
    else if cache.result.expired text now = true then .error "license expired"
    else if cache.userID ≠ userID then .error "user mismatch"
    else if licenseKey ≠ "" ∧ cache.licenseKey ≠ licenseKey then .error "license key mismatch"
    else .ok { cache.result with message := cachedMessage (unixOf now - cache.cachedAt) }

/-- The key a user's status is cached under. -/
def Device.cacheKey (d : Device) (userID : String) : String :=
  if d.licenseKeyFile = "" then (if userID = "" then "" else "USER_" ++ userID) else d.licenseKeyFile

/-- The outcome of a licence call: the result and the error it returns, for which user it
was made, and what the server answered it, where it asked. -/
structure LicenseOutcome where
  result : Option LicenseResult
  error : Option String
  user : Option String
  answer : Option LicenseResult
  device : Device

/-- The answer of the server, when it was usable. -/
def usable (answer : Except String LicenseResult) : Option LicenseResult :=
  match answer with
  | .error _ => none
  | .ok result => some result

variable (text : GoText)

def verifyLicense (env : LicenseEnv) (licenseKey : String) (d : Device) : LicenseOutcome :=
  if text.upperTrim licenseKey = "" then ⟨some (unlicensed "مفتاح الترخيص مطلوب"), none, none, none, d⟩
  else
    match d.getCurrentUser env.now env.refresh with
    | (none, d) => ⟨some (unlicensed "يجب تسجيل الدخول أولاً"), none, none, none, d⟩
    | (some user, d) =>
      match env.online with
      | .ok result =>
        ⟨some result, none, some user.userID, some result,
          (d.cacheResult env.now (text.upperTrim licenseKey) user.userID result).saveSessionToCache⟩
      | .error _ =>
        match d.readLicense text env.now (text.upperTrim licenseKey) user.userID with
        | .ok cached =>
          if cached.licensed = true then
            ⟨some { cached with message := offlineMessage }, none, some user.userID, none, d.saveSessionToCache⟩
          else ⟨some (unlicensed "فشل التحقق من الترخيص"), none, some user.userID, none, d⟩
        | .error _ => ⟨some (unlicensed "فشل التحقق من الترخيص"), none, some user.userID, none, d⟩

def activateLicense (env : LicenseEnv) (licenseKey : String) (d : Device) : LicenseOutcome :=
  if text.upperTrim licenseKey = "" then ⟨some (unlicensed "مفتاح الترخيص مطلوب"), none, none, none, d⟩
  else
    match d.getCurrentUser env.now env.refresh with
    | (none, d) => ⟨some (unlicensed "يجب تسجيل الدخول أولاً لتفعيل الترخيص"), none, none, none, d⟩
    | (some user, d) =>
      match env.online with
      | .error e => ⟨some (unlicensed "تعذر الاتصال بخادم التراخيص"), some e, some user.userID, none, d⟩
      | .ok result =>
        if result.licensed = true then
          ⟨some result, none, some user.userID, some result,
            ({ d with licenseKeyFile := text.upperTrim licenseKey }.cacheResult env.now (text.upperTrim licenseKey)
              user.userID result).saveSessionToCache⟩
        else ⟨some result, none, some user.userID, some result, d⟩

def getCachedLicense (env : LicenseEnv) (d : Device) : LicenseOutcome :=
  if d.licenseKeyFile = "" then ⟨some (unlicensed "لا يوجد ترخيص مخزن"), none, none, none, d⟩
  else
    match d.getCurrentUser env.now env.refresh with
    | (none, d) => ⟨some (unlicensed "يجب تسجيل الدخول أولاً"), none, none, none, d⟩
    | (some user, after) =>
      match after.readLicense text env.now d.licenseKeyFile user.userID with
      | .ok cached => ⟨some cached, none, some user.userID, none, after⟩
      | .error e => ⟨none, some e, some user.userID, none, after⟩

def getUserLicenseStatus (env : LicenseEnv) (d : Device) : LicenseOutcome :=
  match d.getLocalSession with
  | (none, d) => ⟨some (unlicensed "يجب تسجيل الدخول أولاً"), none, none, none, d⟩
  | (some user, d) =>
    match env.online with
    | .ok result =>
      if result.licensed = true then
        ⟨some result, none, some user.userID, some result,
          (d.cacheResult env.now (d.cacheKey user.userID) user.userID result).saveSessionToCache⟩
      else
        ⟨some result, none, some user.userID, some result, { d with licenseFile := .error "no such file or directory" }⟩
    | .error _ =>
      if d.cacheKey user.userID = "" then
        ⟨some (unlicensed "لا يوجد ترخيص مرتبط بحسابك"), none, some user.userID, none, d⟩
      else
        match d.readLicense text env.now (d.cacheKey user.userID) user.userID with
        | .ok cached =>
          if cached.licensed = true then
            ⟨some { cached with message := offlineMessage }, none, some user.userID, none, d⟩
          else ⟨some (unlicensed "لا يوجد ترخيص مرتبط بحسابك"), none, some user.userID, none, d⟩
        | .error _ => ⟨some (unlicensed "لا يوجد ترخيص مرتبط بحسابك"), none, some user.userID, none, d⟩

/-- The calls that ask for or about a licence. -/
inductive LicenseCall where
  | verifyLicense (licenseKey : String)
  | activateLicense (licenseKey : String)
  | getCachedLicense
  | getUserLicenseStatus
  deriving DecidableEq

def LicenseCall.body (env : LicenseEnv) : LicenseCall → Device → LicenseOutcome
  | .verifyLicense key => BeidarPos.verifyLicense text env key
  | .activateLicense key => BeidarPos.activateLicense text env key
  | .getCachedLicense => BeidarPos.getCachedLicense text env
  | .getUserLicenseStatus => BeidarPos.getUserLicenseStatus text env

/-- What happens to a device between two of its states: a licence call, a change of user,
or a new start, which forgets what is in memory. -/
inductive LicenseStep where
  | call (env : LicenseEnv) (c : LicenseCall)
  | isLoggedIn (now : Int) (answer : Answer TokenBody)
  | signIn (session : UserSession)
  | logout
  | restart

def LicenseStep.next : LicenseStep → Device → Device
  | .call env c, d => (c.body text env d).device
  | .isLoggedIn now answer, d => (d.isLoggedIn now answer).2
  | .signIn session, d => d.signIn session
  | .logout, d => d.logout
  | .restart, d => { d with currentSession := none }

def licenseRun (steps : List LicenseStep) (d : Device) : Device := steps.foldl (fun d step => step.next text d) d

variable {text} {d : Device} {env : LicenseEnv} {c : LicenseCall}

section Effects

/-- What is read from the cache file was stored for the user. -/
theorem readLicense_stored {now : Int} {key user : String} {result : LicenseResult}
    (read : d.readLicense text now key user = .ok result) :
    ∃ cache, d.licenseFile = .ok cache ∧ cache.userID = user ∧ result.licensed = cache.result.licensed := by
  unfold Device.readLicense at read
  split at read
  · cases read
  · rename_i cache stored
    split at read
    · cases read
    · split at read
      · cases read
      · split at read
        · cases read
        · split at read
          · cases read
          · split at read
            · cases read
            · split at read
              · cases read
              · rename_i owner _
                cases read
                exact ⟨cache, stored, not_not.mp owner, rfl⟩

/-- What a call does to the cache file: nothing, or it stores or drops the server's answer
for the user it was made for. Only an activation leaves the file when it was answered. -/
inductive CacheEffect (d : Device) (c : LicenseCall) (outcome : LicenseOutcome) : Prop where
  | kept (same : outcome.device.licenseFile = d.licenseFile)
      (unheard : outcome.answer = none ∨ ∃ key, c = .activateLicense key)
  | stored (user : String) (cache : LicenseCache) (asked : outcome.user = some user)
      (answered : outcome.answer = some cache.result) (owner : cache.userID = user)
      (file : outcome.device.licenseFile = .ok cache)
  | dropped (user : String) (result : LicenseResult) (asked : outcome.user = some user)
      (answered : outcome.answer = some result) (denied : result.licensed = false)
      (file : ∃ e, outcome.device.licenseFile = .error e)

/-- Without an answer of the server a call finds its user licensed only in the cache file. -/
def FromCache (d : Device) (outcome : LicenseOutcome) : Prop :=
  outcome.answer = none → ∀ user result, outcome.user = some user → outcome.result = some result →
    result.licensed = true →
      ∃ cache, d.licenseFile = .ok cache ∧ cache.userID = user ∧ cache.result.licensed = true

theorem fromCache_unlicensed (message : String) (error user : Option String) (after : Device) :
    FromCache d ⟨some (unlicensed message), error, user, none, after⟩ := by
  rintro - user result - same licensed
  cases same
  cases licensed

theorem fromCache_read {now : Int} {key user : String} {cached : LicenseResult} {after : Device}
    (kept : after.licenseFile = d.licenseFile) (read : after.readLicense text now key user = .ok cached)
    (result : LicenseResult) (same : result.licensed = cached.licensed) (final : Device) :
    FromCache d ⟨some result, none, some user, none, final⟩ := by
  rintro - user' result' owner shown licensed
  cases owner
  cases shown
  obtain ⟨cache, stored, mine, from_cache⟩ := readLicense_stored read
  exact ⟨cache, kept ▸ stored, mine, by rw [← from_cache, ← same]; exact licensed⟩

theorem fromCache_answered {outcome : LicenseOutcome} {result : LicenseResult} (answered : outcome.answer = some result) :
    FromCache d outcome := by
  intro unheard
  rw [answered] at unheard
  cases unheard

theorem verifyLicense_effect (key : String) : CacheEffect d (.verifyLicense key) (verifyLicense text env key d) ∧
    FromCache d (verifyLicense text env key d) := by
  have session := @getCurrentUser_license d env.now env.refresh
  unfold verifyLicense
  split
  · exact ⟨.kept rfl (.inl rfl), fromCache_unlicensed _ _ _ _⟩
  · split
    · rename_i absent
      rw [absent] at session
      exact ⟨.kept session.1 (.inl rfl), fromCache_unlicensed _ _ _ _⟩
    · rename_i user after signedIn
      rw [signedIn] at session
      split
      · rename_i result _
        exact ⟨.stored user.userID ⟨_, user.userID, result, _, _⟩ rfl rfl rfl (by rw [save_license]; rfl),
          fromCache_answered rfl⟩
      · split
        · rename_i cached read
          split
          · exact ⟨.kept (by simpa using session.1) (.inl rfl),
              fromCache_read session.1 read { cached with message := offlineMessage } rfl _⟩
          · exact ⟨.kept session.1 (.inl rfl), fromCache_unlicensed _ _ _ _⟩
        · exact ⟨.kept session.1 (.inl rfl), fromCache_unlicensed _ _ _ _⟩

theorem activateLicense_effect (key : String) :
    CacheEffect d (.activateLicense key) (activateLicense text env key d) ∧
      FromCache d (activateLicense text env key d) := by
  have session := @getCurrentUser_license d env.now env.refresh
  unfold activateLicense
  split
  · exact ⟨.kept rfl (.inl rfl), fromCache_unlicensed _ _ _ _⟩
  · split
    · rename_i absent
      rw [absent] at session
      exact ⟨.kept session.1 (.inl rfl), fromCache_unlicensed _ _ _ _⟩
    · rename_i user after signedIn
      rw [signedIn] at session
      split
      · exact ⟨.kept session.1 (.inl rfl), fromCache_unlicensed _ _ _ _⟩
      · split
        · rename_i result _ _
          exact ⟨.stored user.userID ⟨_, user.userID, result, _, _⟩ rfl rfl rfl (by rw [save_license]; rfl),
            fromCache_answered rfl⟩
        · exact ⟨.kept session.1 (.inr ⟨key, rfl⟩), fromCache_answered rfl⟩

theorem getCachedLicense_effect : CacheEffect d .getCachedLicense (getCachedLicense text env d) ∧
    FromCache d (getCachedLicense text env d) := by
  have session := @getCurrentUser_license d env.now env.refresh
  unfold getCachedLicense
  split
  · exact ⟨.kept rfl (.inl rfl), fromCache_unlicensed _ _ _ _⟩
  · split
    · rename_i absent
      rw [absent] at session
      exact ⟨.kept session.1 (.inl rfl), fromCache_unlicensed _ _ _ _⟩
    · rename_i user after signedIn
      rw [signedIn] at session
      split
      · rename_i read
        exact ⟨.kept session.1 (.inl rfl), fromCache_read session.1 read _ rfl _⟩
      · refine ⟨.kept session.1 (.inl rfl), ?_⟩
        rintro - _ _ _ shown
        cases shown

theorem getUserLicenseStatus_effect : CacheEffect d .getUserLicenseStatus (getUserLicenseStatus text env d) ∧
    FromCache d (getUserLicenseStatus text env d) := by
  unfold getUserLicenseStatus Device.getLocalSession
  split
  · rename_i absent
    obtain ⟨-, rfl⟩ := Prod.mk.inj absent
    exact ⟨.kept rfl (.inl rfl), fromCache_unlicensed _ _ _ _⟩
  · rename_i user after signedIn
    obtain ⟨-, rfl⟩ := Prod.mk.inj signedIn
    split
    · split
      · rename_i result _ _
        exact ⟨.stored user.userID ⟨_, user.userID, result, _, _⟩ rfl rfl rfl (by rw [save_license]; rfl),
          fromCache_answered rfl⟩
      · rename_i result _ denied
        exact ⟨.dropped user.userID result rfl rfl (by simpa using denied) ⟨_, rfl⟩, fromCache_answered rfl⟩
    · split
      · exact ⟨.kept rfl (.inl rfl), fromCache_unlicensed _ _ _ _⟩
      · split
        · rename_i cached read
          split
          · exact ⟨.kept rfl (.inl rfl), fromCache_read load_license read { cached with message := offlineMessage } rfl _⟩
          · exact ⟨.kept rfl (.inl rfl), fromCache_unlicensed _ _ _ _⟩
        · exact ⟨.kept rfl (.inl rfl), fromCache_unlicensed _ _ _ _⟩

theorem call_effect (c : LicenseCall) : CacheEffect d c (c.body text env d) ∧ FromCache d (c.body text env d) := by
  cases c with
  | verifyLicense key => exact verifyLicense_effect key
  | activateLicense key => exact activateLicense_effect key
  | getCachedLicense => exact getCachedLicense_effect
  | getUserLicenseStatus => exact getUserLicenseStatus_effect

end Effects

section Revocation

/-- The cache file does not say that the user is licensed. -/
def Revoked (user : String) (d : Device) : Prop :=
  ∀ cache, d.licenseFile = .ok cache → cache.userID = user → cache.result.licensed = false

/-- The call verifies the licence and hears that the user has none. -/
structure Denies (text : GoText) (env : LicenseEnv) (c : LicenseCall) (user : String) (d : Device) : Prop where
  verifies : (∃ key, c = .verifyLicense key) ∨ c = .getUserLicenseStatus
  asked : (c.body text env d).user = some user
  answered : ∃ result, (c.body text env d).answer = some result ∧ result.licensed = false

/-- A step in which the server says, to a verify or an activate request, that the user is licensed. -/
def LicenseStep.Grants (text : GoText) (user : String) (d : Device) : LicenseStep → Prop
  | .call env c => (c.body text env d).user = some user ∧
      ∃ result, (c.body text env d).answer = some result ∧ result.licensed = true
  | _ => False

/-- A denial is in the cache file, or the file is gone. -/
theorem denied_revoked {user : String} (denial : Denies text env c user d) :
    Revoked user (c.body text env d).device := by
  obtain ⟨said, answered, denied⟩ := denial.answered
  intro cache file mine
  rcases (@call_effect text d env c).1 with ⟨_, unheard⟩ | ⟨_, stored, _, heard, _, file'⟩ | ⟨_, _, _, _, _, _, file'⟩
  · rcases unheard with unheard | ⟨key, activation⟩
    · rw [answered] at unheard
      cases unheard
    · rcases denial.verifies with ⟨_, verification⟩ | status
      · rw [activation] at verification
        cases verification
      · rw [activation] at status
        cases status
  · rw [file'] at file
    cases file
    rw [answered] at heard
    cases heard
    exact denied
  · rw [file'] at file
    cases file

/-- Until the server says otherwise, no step brings the licence back. -/
theorem step_revoked {user : String} {step : LicenseStep} (revoked : Revoked user d)
    (ungranted : ¬ step.Grants text user d) : Revoked user (step.next text d) := by
  cases step with
  | call env c =>
    intro cache file mine
    rcases (@call_effect text d env c).1 with ⟨same, _⟩ | ⟨owner, stored, asked, heard, own, file'⟩ | ⟨_, _, _, _, _, _, file'⟩
    · exact revoked cache (same.symm.trans file) mine
    · have one : stored = cache := Except.ok.inj (file'.symm.trans file)
      subst one
      rw [mine] at own
      cases licensed : stored.result.licensed with
      | false => rfl
      | true => exact absurd ⟨own ▸ asked, stored.result, heard, licensed⟩ ungranted
    · cases file'.symm.trans file
  | isLoggedIn now answer =>
    intro cache file mine
    exact revoked cache ((isLoggedIn_license now answer).1.symm.trans file) mine
  | signIn session =>
    intro cache file mine
    have kept : (d.signIn session).licenseFile = d.licenseFile := save_license
    exact revoked cache (kept.symm.trans file) mine
  | logout => exact revoked
  | restart => exact revoked

theorem run_revoked {user : String} {steps : List LicenseStep} (revoked : Revoked user d)
    (ungranted : ∀ front step back, steps = front ++ step :: back → ¬ step.Grants text user (licenseRun text front d)) :
    Revoked user (licenseRun text steps d) := by
  induction steps generalizing d with
  | nil => exact revoked
  | cons step steps ih =>
    refine ih (step_revoked revoked (ungranted [] step steps rfl)) ?_
    intro front other back parts
    exact ungranted (step :: front) other back (by rw [parts]; rfl)

end Revocation

/-- After the server told a verification that the user has no licence, and until it tells
a verification or an activation that he has one, no call made for him without its answer
finds him licensed. -/
theorem license_stays_revoked (text : GoText) (d : Device) (front between : List LicenseStep) (user : String)
    (denialEnv env : LicenseEnv) (denial c : LicenseCall)
    (denied : Denies text denialEnv denial user (licenseRun text front d))
    (ungranted : ∀ before step after, between = before ++ step :: after →
      ¬ step.Grants text user (licenseRun text (front ++ .call denialEnv denial :: before) d))
    (asked : (c.body text env (licenseRun text (front ++ .call denialEnv denial :: between) d)).user = some user)
    (offline : (c.body text env (licenseRun text (front ++ .call denialEnv denial :: between) d)).answer = none) :
    ∀ result, (c.body text env (licenseRun text (front ++ .call denialEnv denial :: between) d)).result = some result →
      result.licensed = false := by
  have runs : ∀ steps, licenseRun text (front ++ .call denialEnv denial :: steps) d =
      licenseRun text steps (denial.body text denialEnv (licenseRun text front d)).device := by
    intro steps
    simp [licenseRun, List.foldl_append, LicenseStep.next]
  simp only [runs] at ungranted asked offline ⊢
  have revoked := run_revoked (denied_revoked denied) ungranted
  intro result shown
  cases licensed : result.licensed with
  | false => rfl
  | true =>
    obtain ⟨cache, file, mine, cached⟩ := (call_effect c).2 offline user result asked shown licensed
    rw [revoked cache file mine] at cached
    cases cached

section Ali

/-- Texts that are trimmed and in capitals already, and no expiry. -/
def plainText : GoText := ⟨id, fun _ => none⟩

def aliSession : UserSession := ⟨"ali", "", "", "token", "again", "lock", 100000, 0, 0, ⟨false, false, false⟩⟩

/-- Ali's device, with a licence cached under its key. -/
def aliDevice : Device where
  currentSession := some aliSession
  sessionFile := some aliSession
  licenseFile := .ok ⟨"KEY", "ali", { unlicensed "" with licensed := true }, 0, 0⟩
  licenseKeyFile := "KEY"

/-- A call at the first second, with the given answer of the licence server. -/
def licenseAnswer (answer : Answer (Except String LicenseResult)) : LicenseEnv :=
  ⟨1000000000, .error "offline", answer⟩

end Ali

theorem license_stays_revoked_ali :
    (verifyLicense plainText (licenseAnswer (.error "offline")) "KEY"
      (getUserLicenseStatus plainText (licenseAnswer (.ok ⟨200, .ok (unlicensed "")⟩)) aliDevice).device).result =
        some (unlicensed "فشل التحقق من الترخيص") ∧
      (unlicensed "فشل التحقق من الترخيص").licensed = false := by
  refine ⟨rfl, ?_⟩
  exact license_stays_revoked plainText aliDevice [] [] "ali" (licenseAnswer (.ok ⟨200, .ok (unlicensed "")⟩))
    (licenseAnswer (.error "offline")) .getUserLicenseStatus (.verifyLicense "KEY")
    ⟨.inr rfl, rfl, unlicensed "", rfl, rfl⟩ (by simp) rfl rfl _ rfl

end BeidarPos
