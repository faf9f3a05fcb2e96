import BeidarPos.CloudSession
import BeidarPos.Runs
import Mathlib.Logic.Function.Basic

/-! One account on several devices. A login writes a fresh token into the account's row at the
server and keeps it in its session; a device is checked by comparing the two. A request may be
lost, and so may its answer, after the server acted on it. -/
namespace BeidarPos

/-- A row of `active_sessions`, whose key is the account. -/
structure ActiveSession where
  sessionToken : String
  deviceName : String
  lastSeen : Int

/-- What the calls of a device that wait for the server left there: logins that are locked and not stored yet, and
checks with what they were answered. -/
structure LockDevice where
  device : Device
  locked : List UserSession
  asked : List (UserSession × Answer (List String))

/-- The devices and the server; `admits` says whether its policies let a signed-in user at the rows. The last field
is no part of the program: the tokens made so far, and where. -/
structure SessionNet where
  admits : Bool
  rows : String → Option ActiveSession
  devices : Nat → LockDevice
  issued : List (String × Nat)

inductive Delivery where
  | answered | replyLost | lost
  deriving DecidableEq

inductive LockStep where
  | lockSession (i : Nat) (session : UserSession) (deviceName : String) (lastSeen : Int) (delivery : Delivery)
  | signIn (i k : Nat)
  | ask (i : Nat) (reached : Bool)
  | judge (i k : Nat)
  | isLoggedIn (i : Nat) (now : Int) (answer : Answer TokenBody)
  | logout (i : Nat)
  | restart (i : Nat)
  | deleteUser (userID : String)

namespace Device

/-- What a check does with the session it began with, once it is answered. -/
def settle (d : Device) (session : UserSession) (answer : Answer (List String)) : Except String Unit × Device :=
  match answer with
  | .error _ => (.ok (), d)
  | .ok reply =>
    match reply.body with
    | [] => (.error "الجلسة غير صحيحة، يرجى تسجيل الدخول مرة أخرى", d.clearSessionCache)
    | remoteToken :: _ =>
      if remoteToken = session.sessionToken then (.ok (), d)
      else (.error "تم تسجيل الدخول من جهاز آخر. تم إنهاء الجلسة هنا.", d.clearSessionCache)

/-- A check that nothing comes between. -/
theorem verifySessionLock_settle {d : Device} {session : UserSession} (answer : Answer (List String))
    (current : d.loadSessionFromCache.currentSession = some session) :
    d.verifySessionLock answer = d.loadSessionFromCache.settle session answer := by
  unfold verifySessionLock settle
  generalize d.loadSessionFromCache.currentSession = held at current ⊢
  subst current
  rfl

end Device

namespace SessionNet

variable (net : SessionNet)

def change (i : Nat) (f : LockDevice → LockDevice) : SessionNet :=
  { net with devices := Function.update net.devices i (f (net.devices i)) }

/-- What the server answers a check of the account, if it is reached. -/
def tokens (userID : String) : Answer (List String) :=
  .ok ⟨200, if net.admits then ((net.rows userID).map ActiveSession.sessionToken).toList else []⟩

/-- The row that a login asks for. -/
def activeSession (session : UserSession) (deviceName : String) (lastSeen : Int) : ActiveSession :=
  ⟨session.sessionToken, if deviceName = "" then "Unknown Device" else deviceName, lastSeen⟩

/-- `lockSession`, up to where its answer is stored. -/
def lockSession (i : Nat) (session : UserSession) (deviceName : String) (lastSeen : Int) (delivery : Delivery) : SessionNet :=
  let made := { net with issued := (session.sessionToken, i) :: net.issued }
  if net.admits = false ∨ delivery = .lost then made
  else
    let written := { made with
      rows := Function.update net.rows session.userID (some (activeSession session deviceName lastSeen)) }
    if delivery = .answered then written.change i fun d => { d with locked := session :: d.locked } else written

def next : LockStep → SessionNet
  | .lockSession i session deviceName lastSeen delivery => net.lockSession i session deviceName lastSeen delivery
  | .signIn i k => net.change i fun d =>
    match d.locked[k]? with
    | none => d
    | some session => { d with device := d.device.signIn session, locked := d.locked.eraseIdx k }
  | .ask i reached => net.change i fun d =>
    match d.device.loadSessionFromCache.currentSession with
    | none => { d with device := d.device.loadSessionFromCache }
    | some session => { d with
        device := d.device.loadSessionFromCache
        asked := (session, if reached then net.tokens session.userID else .error "unreachable") :: d.asked }
  | .judge i k => net.change i fun d =>
    match d.asked[k]? with
    | none => d
    | some (session, answer) => { d with device := (d.device.settle session answer).2, asked := d.asked.eraseIdx k }
  | .isLoggedIn i now answer => net.change i fun d => { d with device := (d.device.isLoggedIn now answer).2 }
  | .logout i => net.change i fun d => { d with device := d.device.logout }
  | .restart i => net.change i fun d =>
    { device := { d.device with currentSession := none }, locked := [], asked := [] }
  | .deleteUser userID => { net with rows := Function.update net.rows userID none }

def run (steps : List LockStep) : SessionNet := steps.foldl next net

end SessionNet

def emptyDevice : Device := ⟨none, none, .error "", ""⟩

/-- Nobody is signed in, and no token was made yet. -/
def SessionNet.initial (admits : Bool) : SessionNet := ⟨admits, fun _ => none, fun _ => ⟨emptyDevice, [], []⟩, []⟩

/-- The token a step makes. -/
def LockStep.makes : LockStep → Option String
  | .lockSession _ session _ _ _ => some session.sessionToken
  | _ => none

/-- No login makes a token that was made before. -/
def FreshTokens : List LockStep → SessionNet → Prop
  | [], _ => True
  | step :: rest, net => (∀ token ∈ step.makes, ∀ made ∈ net.issued, made.1 ≠ token) ∧ FreshTokens rest (net.next step)

instance FreshTokens.decidable : (steps : List LockStep) → (net : SessionNet) → Decidable (FreshTokens steps net)
  | [], _ => isTrue trivial
  | step :: rest, net => @instDecidableAnd _ _ inferInstance (FreshTokens.decidable rest (net.next step))

section Tokens

/-- The token of the session in memory or in the file. -/
def Device.Keeps (d : Device) (token : String) : Prop :=
  (∃ session ∈ d.currentSession, session.sessionToken = token) ∨ ∃ session ∈ d.sessionFile, session.sessionToken = token

/-- The token is one the device keeps, or waits with. -/
def LockDevice.HasToken (d : LockDevice) (token : String) : Prop :=
  d.device.Keeps token ∨ (∃ session ∈ d.locked, session.sessionToken = token) ∨
    ∃ asked ∈ d.asked, asked.1.sessionToken = token

variable {d : Device} {token : String}

theorem keeps_loaded {session : UserSession} (loaded : d.loadSessionFromCache.currentSession = some session) :
    d.Keeps session.sessionToken := by
  unfold Device.loadSessionFromCache at loaded
  rcases Option.or_eq_some_iff.mp loaded with memory | ⟨_, file⟩
  · exact .inl ⟨session, memory, rfl⟩
  · exact .inr ⟨session, file, rfl⟩

theorem loadSession_keeps (keeps : d.loadSessionFromCache.Keeps token) : d.Keeps token := by
  rcases keeps with ⟨session, loaded, rfl⟩ | file
  · exact keeps_loaded loaded
  · exact .inr file

theorem clear_keeps : ¬d.clearSessionCache.Keeps token := by
  rintro (⟨session, absent, _⟩ | ⟨session, absent, _⟩) <;> cases absent

theorem settle_keeps {session : UserSession} {answer : Answer (List String)} (keeps : (d.settle session answer).2.Keeps token) :
    d.Keeps token := by
  unfold Device.settle at keeps
  split at keeps
  · exact keeps
  · split at keeps
    · exact absurd keeps clear_keeps
    · split at keeps
      · exact keeps
      · exact absurd keeps clear_keeps

theorem signIn_keeps {session : UserSession} (keeps : (d.signIn session).Keeps token) : token = session.sessionToken := by
  rcases keeps with ⟨_, same, rfl⟩ | ⟨_, same, rfl⟩ <;> exact congrArg UserSession.sessionToken (Option.some.inj same).symm

theorem isLoggedIn_keeps {now : Int} {answer : Answer TokenBody} (keeps : (d.isLoggedIn now answer).2.Keeps token) :
    d.Keeps token := by
  unfold Device.isLoggedIn at keeps
  split at keeps
  · exact loadSession_keeps keeps
  · split at keeps
    · split at keeps
      · exact absurd keeps clear_keeps
      · next refreshed =>
        obtain ⟨old, new, current, current', file, _, same⟩ := refreshSession_ok refreshed
        have kept : token = old.sessionToken := by
          rcases keeps with ⟨session, found, rfl⟩ | ⟨session, found, rfl⟩
          · rw [← same, Option.some.inj (current'.symm.trans found)]
          · rw [← same, Option.some.inj (file.symm.trans found)]
        exact kept ▸ keeps_loaded current
    · exact loadSession_keeps keeps

/-- Every token was made where it is, and no two devices made the same. -/
structure SessionNet.Sound (net : SessionNet) : Prop where
  origin : ∀ i token, (net.devices i).HasToken token → (token, i) ∈ net.issued
  unique : ∀ token i j, (token, i) ∈ net.issued → (token, j) ∈ net.issued → i = j

variable {net : SessionNet}

@[simp] theorem change_self (i : Nat) (f : LockDevice → LockDevice) : (net.change i f).devices i = f (net.devices i) :=
  Function.update_self i _ _

theorem change_other {i j : Nat} (other : j ≠ i) (f : LockDevice → LockDevice) :
    (net.change i f).devices j = net.devices j := Function.update_of_ne other _ _

/-- A change of one device that brings it no token but ones it made. -/
theorem change_sound {i : Nat} {f : LockDevice → LockDevice} (sound : net.Sound)
    (brings : ∀ token, (f (net.devices i)).HasToken token → (token, i) ∈ net.issued) : (net.change i f).Sound where
  origin j token has := by
    rcases eq_or_ne j i with rfl | other
    · rw [change_self] at has
      exact brings token has
    · rw [change_other other] at has
      exact sound.origin j token has
  unique := sound.unique

theorem made_sound {i : Nat} {session : UserSession} (sound : net.Sound)
    (fresh : ∀ made ∈ net.issued, made.1 ≠ session.sessionToken) :
    { net with issued := (session.sessionToken, i) :: net.issued }.Sound where
  origin j token has := List.mem_cons_of_mem _ (sound.origin j token has)
  unique token j k first second := by
    rcases List.mem_cons.mp first with same | before <;> rcases List.mem_cons.mp second with same' | before'
    · rw [(Prod.mk.inj same).2, (Prod.mk.inj same').2]
    · exact absurd (Prod.mk.inj same).1 (fresh _ before')
    · exact absurd (Prod.mk.inj same').1 (fresh _ before)
    · exact sound.unique token j k before before'

theorem next_sound_lock {i : Nat} {session : UserSession} {deviceName : String} {lastSeen : Int} {delivery : Delivery}
    (sound : net.Sound) (fresh : ∀ made ∈ net.issued, made.1 ≠ session.sessionToken) :
    (net.lockSession i session deviceName lastSeen delivery).Sound := by
  have made := made_sound (i := i) sound fresh
  unfold SessionNet.lockSession
  dsimp only
  split
  · exact made
  · split
    · refine change_sound ⟨made.origin, made.unique⟩ fun token has => ?_
      rcases has with keeps | ⟨other, member, rfl⟩ | asked
      · exact made.origin i token (.inl keeps)
      · rcases List.mem_cons.mp member with rfl | before
        · exact List.mem_cons_self
        · exact made.origin i _ (.inr (.inl ⟨other, before, rfl⟩))
      · exact made.origin i token (.inr (.inr asked))
    · exact ⟨made.origin, made.unique⟩

theorem net_next_sound {step : LockStep} (sound : net.Sound)
    (fresh : ∀ token ∈ step.makes, ∀ made ∈ net.issued, made.1 ≠ token) : (net.next step).Sound := by
  unfold SessionNet.next
  cases step with
  | lockSession i session deviceName lastSeen delivery => exact next_sound_lock sound (fresh _ rfl)
  | signIn i k =>
    refine change_sound sound fun token has => ?_
    split at has
    · exact sound.origin i token has
    · next session found =>
      rcases has with keeps | ⟨other, member, rfl⟩ | asked
      · rw [signIn_keeps keeps]
        exact sound.origin i _ (.inr (.inl ⟨session, List.mem_of_getElem? found, rfl⟩))
      · exact sound.origin i _ (.inr (.inl ⟨other, List.mem_of_mem_eraseIdx member, rfl⟩))
      · exact sound.origin i token (.inr (.inr asked))
  | ask i reached =>
    refine change_sound sound fun token has => ?_
    split at has
    · rcases has with keeps | waiting
      · exact sound.origin i token (.inl (loadSession_keeps keeps))
      · exact sound.origin i token (.inr waiting)
    · next session loaded =>
      rcases has with keeps | locked | ⟨asked, member, rfl⟩
      · exact sound.origin i token (.inl (loadSession_keeps keeps))
      · exact sound.origin i token (.inr (.inl locked))
      · rcases List.mem_cons.mp member with rfl | before
        · exact sound.origin i _ (.inl (keeps_loaded loaded))
        · exact sound.origin i _ (.inr (.inr ⟨asked, before, rfl⟩))
  | judge i k =>
    refine change_sound sound fun token has => ?_
    split at has
    · exact sound.origin i token has
    · rcases has with keeps | locked | ⟨asked, member, rfl⟩
      · exact sound.origin i token (.inl (settle_keeps keeps))
      · exact sound.origin i token (.inr (.inl locked))
      · exact sound.origin i _ (.inr (.inr ⟨asked, List.mem_of_mem_eraseIdx member, rfl⟩))
  | isLoggedIn i now answer =>
    refine change_sound sound fun token has => ?_
    rcases has with keeps | waiting
    · exact sound.origin i token (.inl (isLoggedIn_keeps keeps))
    · exact sound.origin i token (.inr waiting)
  | logout i =>
    refine change_sound sound fun token has => ?_
    rcases has with keeps | waiting
    · exact absurd keeps clear_keeps
    · exact sound.origin i token (.inr waiting)
  | restart i =>
    refine change_sound sound fun token has => ?_
    rcases has with (⟨session, absent, _⟩ | file) | ⟨session, absent, _⟩ | ⟨asked, absent, _⟩
    · cases absent
    · exact sound.origin i token (.inl (.inr file))
    · exact absurd absent List.not_mem_nil
    · exact absurd absent List.not_mem_nil
  | deleteUser userID => exact ⟨sound.origin, sound.unique⟩

theorem net_run_sound {steps : List LockStep} (sound : net.Sound) (fresh : FreshTokens steps net) : (net.run steps).Sound := by
  induction steps generalizing net with
  | nil => exact sound
  | cons step rest ih => exact ih (net_next_sound sound fresh.1) fresh.2

theorem initial_sound (admits : Bool) : (SessionNet.initial admits).Sound where
  origin i token has := by
    rcases has with (⟨_, absent, _⟩ | ⟨_, absent, _⟩) | ⟨_, absent, _⟩ | ⟨_, absent, _⟩ <;> cases absent
  unique token i j absent := absurd absent List.not_mem_nil

end Tokens

section Confirmed

variable {net : SessionNet} {steps : List LockStep}

/-- The device is signed in, and a check that the server answers now leaves it so. -/
def SessionNet.Confirmed (net : SessionNet) (i : Nat) (session : UserSession) : Prop :=
  (net.devices i).device.loadSessionFromCache.currentSession = some session ∧
    ((net.devices i).device.verifySessionLock (net.tokens session.userID)).1 = .ok ()

/-- A check that is answered is passed by the session whose token is in the row, and ends any other. -/
theorem verify_tokens {d : Device} {session : UserSession} (loaded : d.loadSessionFromCache.currentSession = some session) :
    ((d.verifySessionLock (net.tokens session.userID)).1 = .ok () ↔
      net.admits = true ∧ (net.rows session.userID).map ActiveSession.sessionToken = some session.sessionToken) ∧
    ((d.verifySessionLock (net.tokens session.userID)).1 ≠ .ok () →
      (d.verifySessionLock (net.tokens session.userID)).2.user = none) := by
  rw [Device.verifySessionLock_settle _ loaded, SessionNet.tokens, Device.settle]
  dsimp only
  cases admits : net.admits with
  | false => exact ⟨by simp, fun _ => rfl⟩
  | true =>
    cases row : net.rows session.userID with
    | none => exact ⟨by simp, fun _ => rfl⟩
    | some active =>
      by_cases same : active.sessionToken = session.sessionToken
      · simp [same]
      · simp [same, Device.clearSessionCache, Device.user, Device.loadSessionFromCache]

theorem confirmed_keeps {i : Nat} {session : UserSession} (confirmed : net.Confirmed i session) :
    (net.devices i).HasToken session.sessionToken ∧
      (net.rows session.userID).map ActiveSession.sessionToken = some session.sessionToken :=
  ⟨.inl (keeps_loaded confirmed.1), ((verify_tokens confirmed.1).1.mp confirmed.2).2⟩

/-- However logins, checks, lost requests and restarts interleave over any number of devices: of those signed in to an
account at most one is confirmed by the server, and a check it answers signs every other one out. -/
theorem one_device_confirmed (admits : Bool) (fresh : FreshTokens steps (SessionNet.initial admits)) {i j : Nat}
    {session : UserSession} (other : UserSession) (confirmed : ((SessionNet.initial admits).run steps).Confirmed i session)
    (signedIn : (((SessionNet.initial admits).run steps).devices j).device.loadSessionFromCache.currentSession = some other)
    (account : other.userID = session.userID) (different : i ≠ j) :
    ((((SessionNet.initial admits).run steps).devices j).device.verifySessionLock
      (((SessionNet.initial admits).run steps).tokens other.userID)).2.user = none := by
  have sound := net_run_sound (initial_sound admits) fresh
  refine (verify_tokens signedIn).2 fun passed => different ?_
  obtain ⟨has, row⟩ := confirmed_keeps confirmed
  have other_row := ((verify_tokens signedIn).1.mp passed).2
  rw [account, row] at other_row
  have token := Option.some.inj other_row
  refine sound.unique session.sessionToken i j (sound.origin i _ has) ?_
  rw [token]
  exact sound.origin j _ (.inl (keeps_loaded signedIn))

/-- The step writes the row of the account at the server. -/
def LockStep.Writes (userID : String) : LockStep → Prop
  | .lockSession _ session _ _ delivery => session.userID = userID ∧ delivery ≠ .lost
  | .deleteUser other => other = userID
  | _ => False

instance (userID : String) : DecidablePred (LockStep.Writes userID)
  | .lockSession _ session _ _ delivery => inferInstanceAs (Decidable (session.userID = userID ∧ delivery ≠ .lost))
  | .deleteUser other => inferInstanceAs (Decidable (other = userID))
  | .signIn _ _ | .ask _ _ | .judge _ _ | .isLoggedIn _ _ _ | .logout _ | .restart _ => isFalse not_false

theorem next_admits (net : SessionNet) (step : LockStep) : (net.next step).admits = net.admits := by
  cases step with
  | lockSession i session deviceName lastSeen delivery =>
    simp only [SessionNet.next, SessionNet.lockSession]
    split
    · rfl
    · split <;> rfl
  | signIn | ask | judge | isLoggedIn | logout | restart | deleteUser => rfl

theorem next_issued (net : SessionNet) (step : LockStep) {made : String × Nat} (before : made ∈ net.issued) :
    made ∈ (net.next step).issued := by
  cases step with
  | lockSession i session deviceName lastSeen delivery =>
    simp only [SessionNet.next, SessionNet.lockSession]
    split
    · exact List.mem_cons_of_mem _ before
    · split <;> exact List.mem_cons_of_mem _ before
  | signIn | ask | judge | isLoggedIn | logout | restart | deleteUser => exact before

theorem lockSession_rows (i : Nat) (session : UserSession) (deviceName : String) (lastSeen : Int) {delivery : Delivery}
    (admits : net.admits = true) (arrives : delivery ≠ .lost) : (net.lockSession i session deviceName lastSeen delivery).rows =
      Function.update net.rows session.userID (some (SessionNet.activeSession session deviceName lastSeen)) := by
  unfold SessionNet.lockSession
  dsimp only
  rw [if_neg (by simp [admits, arrives])]
  split <;> rfl

theorem lockSession_lost (i : Nat) (session : UserSession) (deviceName : String) (lastSeen : Int) :
    (net.lockSession i session deviceName lastSeen .lost).rows = net.rows := by
  unfold SessionNet.lockSession
  dsimp only
  rw [if_pos (.inr rfl)]

theorem next_row_kept {step : LockStep} {userID : String} (admits : net.admits = true) (apart : ¬step.Writes userID) :
    (net.next step).rows userID = net.rows userID := by
  cases step with
  | lockSession i session deviceName lastSeen delivery =>
    rw [SessionNet.next]
    by_cases lost : delivery = .lost
    · rw [lost, lockSession_lost]
    · rw [lockSession_rows i session deviceName lastSeen admits lost]
      exact Function.update_of_ne (fun same => apart ⟨same.symm, lost⟩) _ _
  | deleteUser other => exact Function.update_of_ne (fun same => apart same.symm) _ _
  | signIn | ask | judge | isLoggedIn | logout | restart => rfl

/-- A step that writes the row leaves none, or one with the token of a login. -/
theorem next_row_written {step : LockStep} {userID : String} (admits : net.admits = true) (writes : step.Writes userID) :
    (net.next step).rows userID = none ∨ ∃ i session deviceName lastSeen delivery,
      step = .lockSession i session deviceName lastSeen delivery ∧
        (net.next step).rows userID = some (SessionNet.activeSession session deviceName lastSeen) := by
  cases step with
  | lockSession i session deviceName lastSeen delivery =>
    obtain ⟨rfl, arrives⟩ := writes
    refine .inr ⟨i, session, deviceName, lastSeen, delivery, rfl, ?_⟩
    rw [SessionNet.next, lockSession_rows i session deviceName lastSeen admits arrives]
    exact Function.update_self _ _ _
  | deleteUser other =>
    obtain rfl := writes
    exact .inl (Function.update_self _ _ _)
  | signIn | ask | judge | isLoggedIn | logout | restart => exact writes.elim

/-- The row has the token. -/
def SessionNet.HoldsToken (net : SessionNet) (userID token : String) : Prop :=
  (net.rows userID).map ActiveSession.sessionToken = some token

/-- A token that is out of the row does not come back, and one in it stays until the row is written. -/
theorem run_holds {userID token : String} {owner : Nat} (admits : net.admits = true) (made : (token, owner) ∈ net.issued)
    (fresh : FreshTokens steps net) :
    (net.run steps).HoldsToken userID token ↔ net.HoldsToken userID token ∧ ∀ step ∈ steps, ¬step.Writes userID := by
  induction steps generalizing net with
  | nil => simp [SessionNet.run]
  | cons step rest ih =>
    have later := ih ((next_admits net step).trans admits) (next_issued net step made) fresh.2
    change ((net.next step).run rest).HoldsToken userID token ↔ _
    rw [later, List.forall_mem_cons]
    by_cases writes : step.Writes userID
    · refine iff_of_false (fun held => ?_) (fun kept => kept.2.1 writes)
      have row := held.1
      unfold SessionNet.HoldsToken at row
      rcases next_row_written admits writes with none | ⟨i, session, deviceName, lastSeen, delivery, same, written⟩
      · rw [none] at row
        cases row
      · rw [written, Option.map_some] at row
        exact fresh.1 _ (by rw [same]; rfl) _ made (Option.some.inj row).symm
    · have row : (net.next step).HoldsToken userID token ↔ net.HoldsToken userID token := by
        unfold SessionNet.HoldsToken
        rw [next_row_kept admits writes]
      rw [row]
      exact ⟨fun held => ⟨held.1, writes, held.2⟩, fun held => ⟨held.1, held.2.2⟩⟩

theorem fresh_append {front back : List LockStep} :
    FreshTokens (front ++ back) net ↔ FreshTokens front net ∧ FreshTokens back (net.run front) := by
  induction front generalizing net with
  | nil => exact (true_and _).to_iff.symm
  | cons step rest ih =>
    rw [List.cons_append, FreshTokens, FreshTokens, ih, and_assoc]
    rfl

/-- A device that logged in is confirmed later exactly if nothing wrote the account's row since its own request did:
no other login of the account that reached the server, even one that was told it failed, and no deletion. -/
theorem confirmed_since_iff {front back : List LockStep} {i j : Nat} {session later : UserSession} {deviceName : String}
    {lastSeen : Int} {delivery : Delivery} (arrives : delivery ≠ .lost)
    (fresh : FreshTokens (front ++ .lockSession i session deviceName lastSeen delivery :: back) (SessionNet.initial true))
    (signedIn : (((SessionNet.initial true).run
      (front ++ .lockSession i session deviceName lastSeen delivery :: back)).devices j).device.loadSessionFromCache.currentSession =
        some later) (account : later.userID = session.userID) (own : later.sessionToken = session.sessionToken) :
    ((SessionNet.initial true).run (front ++ .lockSession i session deviceName lastSeen delivery :: back)).Confirmed j later ↔
      ∀ step ∈ back, ¬step.Writes session.userID := by
  have start : ∀ steps, ((SessionNet.initial true).run steps).admits = true := by
    intro steps
    induction steps using List.reverseRecOn with
    | nil => rfl
    | append_singleton before step ih =>
      rw [SessionNet.run, Runs.foldl_snoc, next_admits]
      exact ih
  obtain ⟨_, _, freshBack⟩ := fresh_append.mp fresh
  unfold SessionNet.Confirmed
  rw [and_iff_right signedIn, (verify_tokens signedIn).1, and_iff_right (start _), account, own]
  change SessionNet.HoldsToken _ _ _ ↔ _
  rw [SessionNet.run, List.foldl_append, List.foldl_cons]
  change ((((SessionNet.initial true).run front).next (.lockSession i session deviceName lastSeen delivery)).run
    back).HoldsToken _ _ ↔ _
  have made : (session.sessionToken, i) ∈
      (((SessionNet.initial true).run front).next (.lockSession i session deviceName lastSeen delivery)).issued := by
    simp only [SessionNet.next, SessionNet.lockSession]
    split
    · exact List.mem_cons_self
    · split <;> exact List.mem_cons_self
  rw [run_holds ((next_admits _ _).trans (start front)) made freshBack]
  refine and_iff_right ?_
  unfold SessionNet.HoldsToken
  rw [SessionNet.next, lockSession_rows i session deviceName lastSeen (start front) arrives, Function.update_self]
  rfl

end Confirmed

section Refused

/-- What `supabase_setup.sql` grants signed-in users on `active_sessions`: both of its policies are for the service
role. -/
def setupAdmits : Bool := false

/-- Nobody is signed in, and nobody is about to be. -/
structure LockDevice.Idle (d : LockDevice) : Prop where
  memory : d.device.currentSession = none
  file : d.device.sessionFile = none
  locked : d.locked = []

structure SessionNet.Refusing (net : SessionNet) : Prop where
  refuses : net.admits = false
  idle : ∀ i, (net.devices i).Idle

variable {net : SessionNet} {d : Device}

theorem change_refusing {i : Nat} {f : LockDevice → LockDevice} (refusing : net.Refusing)
    (idle : (f (net.devices i)).Idle) : (net.change i f).Refusing := by
  refine ⟨refusing.refuses, fun j => ?_⟩
  rcases eq_or_ne j i with rfl | other
  · rw [change_self]
    exact idle
  · rw [change_other other]
    exact refusing.idle j

theorem loaded_idle (memory : d.currentSession = none) (file : d.sessionFile = none) :
    d.loadSessionFromCache = d := by
  unfold Device.loadSessionFromCache
  rw [memory, file]
  obtain ⟨_, _, _, _⟩ := d
  simp_all

theorem next_refusing (step : LockStep) (refusing : net.Refusing) : (net.next step).Refusing := by
  unfold SessionNet.next
  cases step with
  | lockSession i session deviceName lastSeen delivery =>
    dsimp only
    unfold SessionNet.lockSession
    dsimp only
    rw [if_pos (.inl refusing.refuses)]
    exact ⟨refusing.refuses, refusing.idle⟩
  | signIn i k =>
    refine change_refusing refusing ?_
    rw [(refusing.idle i).locked]
    exact refusing.idle i
  | ask i reached =>
    obtain ⟨memory, file, locked⟩ := refusing.idle i
    refine change_refusing refusing ?_
    rw [loaded_idle memory file, memory]
    exact ⟨memory, file, locked⟩
  | judge i k =>
    obtain ⟨memory, file, locked⟩ := refusing.idle i
    refine change_refusing refusing ?_
    split
    · exact ⟨memory, file, locked⟩
    · next session answer found =>
      unfold Device.settle
      split
      · exact ⟨memory, file, locked⟩
      · split
        · exact ⟨rfl, rfl, locked⟩
        · split
          · exact ⟨memory, file, locked⟩
          · exact ⟨rfl, rfl, locked⟩
  | isLoggedIn i now answer =>
    obtain ⟨memory, file, locked⟩ := refusing.idle i
    refine change_refusing refusing ?_
    unfold Device.isLoggedIn
    rw [loaded_idle memory file, memory]
    exact ⟨memory, file, locked⟩
  | logout i => exact change_refusing refusing ⟨rfl, rfl, (refusing.idle i).locked⟩
  | restart i => exact change_refusing refusing ⟨rfl, (refusing.idle i).file, rfl⟩
  | deleteUser userID => exact ⟨refusing.refuses, refusing.idle⟩

end Refused

section Shop

/-- A session of the shop's account with the token. -/
def shopSession (token : String) : UserSession :=
  { userID := "u1", email := "", storeName := "", accessToken := "", refreshToken := "", sessionToken := token,
    expiresAt := 0, backupLimitMB := 0, maxBackups := 0, features := ⟨false, false, false⟩ }

/-- The office signs in, then the till. -/
def officeThenTill : List LockStep :=
  [.lockSession 0 (shopSession "aa") "Office" 0 .answered, .signIn 0 0, .lockSession 1 (shopSession "bb") "" 1 .answered,
    .signIn 1 0]

theorem officeThenTill_fresh : FreshTokens officeThenTill (SessionNet.initial true) := by decide +kernel

theorem till_confirmed : ((SessionNet.initial true).run officeThenTill).Confirmed 1 (shopSession "bb") :=
  ⟨by decide +kernel, by decide +kernel⟩

theorem one_device_confirmed_till :
    ((((SessionNet.initial true).run officeThenTill).devices 0).device.verifySessionLock
      (((SessionNet.initial true).run officeThenTill).tokens "u1")).2.user = none :=
  one_device_confirmed true officeThenTill_fresh (shopSession "aa") till_confirmed (by decide +kernel) rfl (by decide)

/-- The till's login, told that it failed, signs the office out all the same. -/
theorem confirmed_since_iff_office : ¬((SessionNet.initial true).run
    [.lockSession 0 (shopSession "aa") "Office" 0 .answered, .signIn 0 0,
      .lockSession 1 (shopSession "bb") "" 1 .replyLost]).Confirmed 0 (shopSession "aa") := by
  have since := @confirmed_since_iff [] [.signIn 0 0, .lockSession 1 (shopSession "bb") "" 1 .replyLost] 0 0
    (shopSession "aa") (shopSession "aa") "Office" 0 .answered (by decide) (by decide +kernel) (by decide +kernel) rfl rfl
  exact fun confirmed => absurd (since.mp confirmed) (by decide)

end Shop

end BeidarPos
