import Mathlib.Tactic

/-! The account of a device at the cloud: the session, held in memory and in a file, and
the licence cache. An HTTP answer is what the code reads of it, or the failure to get one;
the status is looked at only where the source looks at it. -/
namespace BeidarPos

structure HttpReply (β : Type) where
  status : Int
  body : β
  deriving DecidableEq

/-- The answer to a request; the error is the transport's. -/
abbrev Answer (β : Type) := Except String (HttpReply β)

structure UserFeatures where
  enableAI : Bool
  enableLAN : Bool
  enableWhatsApp : Bool
  deriving DecidableEq

structure UserSession where
  userID : String
  email : String
  storeName : String
  accessToken : String
  refreshToken : String
  sessionToken : String
  expiresAt : Int
  backupLimitMB : Int
  maxBackups : Int
  features : UserFeatures
  deriving DecidableEq

structure LicenseResult where
  licensed : Bool
  success : Bool
  message : String
  customerName : String
  customerPhone : String
  storeName : String
  features : List (String × Bool)
  expiresAt : String
  cachedAt : Int
  lastServerTime : Int
  deriving DecidableEq

structure LicenseCache where
  licenseKey : String
  userID : String
  result : LicenseResult
  cachedAt : Int
  lastServerTime : Int
  deriving DecidableEq

/-- What a device keeps. `licenseFile` is what reading, decrypting and checking the cache
file gives; `licenseKeyFile` is empty where the source reads no key. -/
structure Device where
  currentSession : Option UserSession
  sessionFile : Option UserSession
  licenseFile : Except String LicenseCache
  licenseKeyFile : String

/-- The body of a token answer; what is missing or of another type is empty or 0. -/
structure TokenBody where
  errorDescription : String
  accessToken : String
  refreshToken : String
  expiresIn : Int
  deriving DecidableEq

/-- Seconds of a clock reading in nanoseconds. -/
def unixOf (now : Int) : Int := now / 1000000000

namespace Device

variable (d : Device)

def loadSessionFromCache : Device := { d with currentSession := d.currentSession.or d.sessionFile }

def saveSessionToCache : Device :=
  match d.currentSession with
  | none => d
  | some session => { d with sessionFile := some session }

def clearSessionCache : Device := { d with currentSession := none, sessionFile := none }

def refreshSession (now : Int) (answer : Answer TokenBody) : Except String Unit × Device :=
  match d.currentSession with
  | none => (.error "no refresh token available", d)
  | some session =>
    if session.refreshToken = "" then (.error "no refresh token available", d)
    else
      match answer with
      | .error e => (.error ("network error: " ++ e), d)
      | .ok reply =>
        if 400 ≤ reply.status then (.error ("refresh failed: " ++ reply.body.errorDescription), d)
        else (.ok (), { d with
          currentSession := some { session with
            accessToken := reply.body.accessToken
            refreshToken := if reply.body.refreshToken = "" then session.refreshToken else reply.body.refreshToken
            expiresAt := unixOf now + reply.body.expiresIn } }.saveSessionToCache)

/-- Signed in, with a token that lasts five minutes more or can be refreshed. -/
def isLoggedIn (now : Int) (answer : Answer TokenBody) : Bool × Device :=
  match d.loadSessionFromCache.currentSession with
  | none => (false, d.loadSessionFromCache)
  | some session =>
    if session.expiresAt - 300 < unixOf now then
      match d.loadSessionFromCache.refreshSession now answer with
      | (.error _, d') => (false, d'.clearSessionCache)
      | (.ok _, d') => (true, d')
    else (true, d.loadSessionFromCache)

def getCurrentUser (now : Int) (answer : Answer TokenBody) : Option UserSession × Device :=
  match d.isLoggedIn now answer with
  | (false, d') => (none, d')
  | (true, d') => (d'.currentSession, d')

def getLocalSession : Option UserSession × Device := (d.loadSessionFromCache.currentSession, d.loadSessionFromCache)

/-- The session is the one the server has for the user. The body is the list of session
tokens the answer decodes to. -/
def verifySessionLock (answer : Answer (List String)) : Except String Unit × Device :=
  match d.loadSessionFromCache.currentSession with
  | none => (.error "not logged in", d.loadSessionFromCache)
  | some session =>
    match answer with
    | .error _ => (.ok (), d.loadSessionFromCache)
    | .ok reply =>
      match reply.body with
      | [] => (.error "الجلسة غير صحيحة، يرجى تسجيل الدخول مرة أخرى", d.loadSessionFromCache.clearSessionCache)
      | remoteToken :: _ =>
        if remoteToken = session.sessionToken then (.ok (), d.loadSessionFromCache)
        else (.error "تم تسجيل الدخول من جهاز آخر. تم إنهاء الجلسة هنا.", d.loadSessionFromCache.clearSessionCache)

/-- A successful sign-in, by password, registration or provider. -/
def signIn (session : UserSession) : Device :=
  { d with currentSession := some session }.saveSessionToCache

def logout : Device := d.clearSessionCache

end Device

section Sessions

variable {d : Device}

/-- A device is signed in as a user when its session, in memory or else in the file, is his. -/
def Device.user (d : Device) : Option String := (d.loadSessionFromCache.currentSession).map UserSession.userID

@[simp] theorem load_license : d.loadSessionFromCache.licenseFile = d.licenseFile := rfl

@[simp] theorem load_key : d.loadSessionFromCache.licenseKeyFile = d.licenseKeyFile := rfl

@[simp] theorem load_file : d.loadSessionFromCache.sessionFile = d.sessionFile := rfl

@[simp] theorem load_user : d.loadSessionFromCache.user = d.user := by
  cases memory : d.currentSession <;> simp [Device.user, Device.loadSessionFromCache, memory]

@[simp] theorem save_license : d.saveSessionToCache.licenseFile = d.licenseFile := by
  unfold Device.saveSessionToCache
  split <;> rfl

@[simp] theorem save_key : d.saveSessionToCache.licenseKeyFile = d.licenseKeyFile := by
  unfold Device.saveSessionToCache
  split <;> rfl

@[simp] theorem save_session : d.saveSessionToCache.currentSession = d.currentSession := by
  unfold Device.saveSessionToCache
  split <;> rfl

@[simp] theorem clear_license : d.clearSessionCache.licenseFile = d.licenseFile := rfl

@[simp] theorem clear_key : d.clearSessionCache.licenseKeyFile = d.licenseKeyFile := rfl

/-- Neither the licence cache nor the stored key is the session's business. -/
theorem refreshSession_license (now : Int) (answer : Answer TokenBody) :
    (d.refreshSession now answer).2.licenseFile = d.licenseFile ∧
      (d.refreshSession now answer).2.licenseKeyFile = d.licenseKeyFile := by
  unfold Device.refreshSession
  split
  · exact ⟨rfl, rfl⟩
  · split
    · exact ⟨rfl, rfl⟩
    · split
      · exact ⟨rfl, rfl⟩
      · split
        · exact ⟨rfl, rfl⟩
        · simp

theorem isLoggedIn_license (now : Int) (answer : Answer TokenBody) :
    (d.isLoggedIn now answer).2.licenseFile = d.licenseFile ∧
      (d.isLoggedIn now answer).2.licenseKeyFile = d.licenseKeyFile := by
  have refreshed := @refreshSession_license d.loadSessionFromCache now answer
  unfold Device.isLoggedIn
  split
  · exact ⟨rfl, rfl⟩
  · split
    · split
      · rename_i failed
        rw [failed] at refreshed
        simpa using refreshed
      · rename_i done
        rw [done] at refreshed
        simpa using refreshed
    · exact ⟨rfl, rfl⟩

theorem getCurrentUser_license (now : Int) (answer : Answer TokenBody) :
    (d.getCurrentUser now answer).2.licenseFile = d.licenseFile ∧
      (d.getCurrentUser now answer).2.licenseKeyFile = d.licenseKeyFile := by
  have kept := @isLoggedIn_license d now answer
  unfold Device.getCurrentUser
  split <;> rename_i result <;> rw [result] at kept <;> exact kept

theorem refreshSession_ok {d' : Device} {now : Int} {answer : Answer TokenBody}
    (done : d.refreshSession now answer = (.ok (), d')) :
    ∃ old new, d.currentSession = some old ∧ d'.currentSession = some new ∧ d'.sessionFile = some new ∧
      new.userID = old.userID ∧ new.sessionToken = old.sessionToken := by
  unfold Device.refreshSession at done
  split at done
  · cases done
  · rename_i old current
    split at done
    · cases done
    · split at done
      · cases done
      · split at done
        · cases done
        · obtain ⟨-, rfl⟩ := Prod.mk.inj done
          exact ⟨old, _, current, save_session, rfl, rfl, rfl⟩

/-- A signed-in device stays its user's, and keeps the token the server checks. -/
theorem isLoggedIn_true {d' : Device} {now : Int} {answer : Answer TokenBody} (done : d.isLoggedIn now answer = (true, d')) :
    ∃ old new, d.loadSessionFromCache.currentSession = some old ∧ d'.currentSession = some new ∧
      new.userID = old.userID ∧ new.sessionToken = old.sessionToken ∧
      (d.sessionFile.isSome → d'.sessionFile.isSome) := by
  unfold Device.isLoggedIn at done
  split at done
  · cases done
  · rename_i session loaded
    split at done
    · split at done
      · cases done
      · rename_i refreshed
        obtain ⟨-, rfl⟩ := Prod.mk.inj done
        obtain ⟨old, new, current, current', file, user, token⟩ := refreshSession_ok refreshed
        exact ⟨old, new, current, current', user, token, fun _ => by simp [file]⟩
    · obtain ⟨-, rfl⟩ := Prod.mk.inj done
      exact ⟨session, session, loaded, loaded, rfl, rfl, fun kept => kept⟩

theorem user_of_current {session : UserSession} (current : d.currentSession = some session) :
    d.user = some session.userID := by
  simp [Device.user, Device.loadSessionFromCache, current]

theorem loaded_of_current {session : UserSession} (current : d.currentSession = some session) :
    d.loadSessionFromCache.currentSession = some session := by
  simp [Device.loadSessionFromCache, current]

theorem verifySessionLock_ok {d' : Device} {answer : Answer (List String)} (done : d.verifySessionLock answer = (.ok (), d')) :
    d' = d.loadSessionFromCache := by
  unfold Device.verifySessionLock at done
  split at done
  · cases done
  · split at done
    · exact (Prod.mk.inj done).2.symm
    · split at done
      · cases done
      · split at done
        · exact (Prod.mk.inj done).2.symm
        · cases done

end Sessions

end BeidarPos
