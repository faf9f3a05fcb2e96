import BeidarPos.Backup
import BeidarPos.Interleaving

/-! Logging in by user name, any number of calls at a time. A call checks the lock, looks
the account up, compares the password and records the outcome, and every other call may
move between two of these steps. -/
namespace BeidarPos

open Relational Interleaving

def MaxLoginAttempts : Int := 5

/-- Fifteen minutes, in seconds. -/
def LockoutDuration : Int := 15 * 60

structure AuthResult where
  success : Bool
  staff : Option Staff
  permissions : List String
  message : Option Text
  requirePINChange : Bool

/-- What happened to a user name; a comparison says whether it found the password right
and whether a lock was in force. -/
inductive LoginEvent where
  | compared (username : String) (right locked : Bool)
  | refused (username : String)
  | locked (username : String)
  | cleared (username : String)
  deriving DecidableEq

/-- The clock, the tables a login reads and writes, and what happened, the latest first. -/
structure LoginDesk where
  now : Int
  loginAttempts : Table LoginAttempt.identifier
  staff : Roster
  trail : List LoginEvent
  deriving DecidableEq

namespace LoginDesk

variable (d : LoginDesk)

def note (e : LoginEvent) : LoginDesk := { d with trail := e :: d.trail }

/-- The message of a lock in force, or nothing. -/
def checkRateLimit (identifier : String) : Option Text :=
  match d.loginAttempts.find? identifier with
  | none => none
  | some attempt =>
    if d.now < attempt.lockedUntil then
      let mins := (attempt.lockedUntil - d.now).tdiv 60
      if mins < 1 then some (.message "ACCOUNT_LOCKED_SHORT" [])
      else some (.message "ACCOUNT_LOCKED_MINUTES" [.number mins])
    else none

def lockInForce (identifier : String) : Bool := (d.checkRateLimit identifier).isSome

def saveLoginAttempt (attempt : LoginAttempt) : LoginDesk :=
  { d with loginAttempts := d.loginAttempts.set attempt }

def recordFailedAttempt (identifier : String) (maxAttempts : Int) : LoginDesk :=
  match d.loginAttempts.find? identifier with
  | none => d.saveLoginAttempt ⟨identifier, 1, d.now, 0⟩
  | some attempt =>
    if maxAttempts ≤ attempt.attempts + 1 then
      (d.saveLoginAttempt ⟨attempt.identifier, attempt.attempts + 1, d.now, d.now + LockoutDuration⟩).note
        (.locked identifier)
    else d.saveLoginAttempt { attempt with attempts := attempt.attempts + 1, lastAttempt := d.now }

def clearLoginAttempts (identifier : String) : LoginDesk :=
  { d with loginAttempts := d.loginAttempts.filter (fun row => row.identifier ≠ identifier) }.note
    (.cleared identifier)

/-- A save of the account that was read; the call does not look at its error. -/
def updateStaff (staff : Staff) : LoginDesk := { d with staff := (d.staff.save? staff).getD d.staff }

end LoginDesk

/-- Where a call of `AuthenticateByUsername` stands. -/
inductive LoginStage where
  | begins
  | admitted
  | found (staff : Staff)
  | failing (compared : Bool)
  | advising
  | matched (staff : Staff)
  | stamping (staff : Staff)
  | answered (result : AuthResult)

structure LoginCall where
  username : String
  password : String
  stage : LoginStage

/-- The user name a call is for, as the service spells it. -/
def LoginCall.name (p : Platform) (call : LoginCall) : String := toLower p (trimSpace call.username)

def LoginCall.at (call : LoginCall) (stage : LoginStage) : LoginCall := { call with stage := stage }

@[simp] theorem LoginCall.at_stage (call : LoginCall) (stage : LoginStage) : (call.at stage).stage = stage := rfl

@[simp] theorem LoginCall.at_name (call : LoginCall) (stage : LoginStage) : (call.at stage).name p = call.name p := rfl

def refusal (message : Text) : AuthResult := ⟨false, none, [], some message, false⟩

/-- The attempts left, read again after the failure was recorded. -/
def remainingAdvice (d : LoginDesk) (username : String) : Text :=
  match d.loginAttempts.find? username with
  | none => .message "INVALID_CREDENTIALS" []
  | some attempt =>
    let remaining := MaxLoginAttempts - attempt.attempts
    if 0 < remaining then .message "INVALID_CREDENTIALS_REMAINING" [.number remaining]
    else .message "INVALID_CREDENTIALS" []

/-- The next step of a call, at the time the desk's clock shows. -/
def LoginCall.act (p : Platform) (call : LoginCall) (d : LoginDesk) : LoginCall × LoginDesk :=
  let username := call.name p
  match call.stage with
  | .begins =>
    match d.checkRateLimit username with
    | some message => (call.at (.answered (refusal message)), d)
    | none => (call.at .admitted, d)
  | .admitted =>
    match d.staff.findUsername username with
    | none => (call.at (.failing false), d.note (.refused username))
    | some staff =>
      if staff.active then (call.at (.found staff), d)
      else (call.at (.failing false), d.note (.refused username))
  | .found staff =>
    let right := p.verifies staff.passwordHash call.password
    (call.at (if right then .matched staff else .failing true),
      d.note (.compared username right (d.lockInForce username)))
  | .failing compared =>
    (call.at (if compared then .advising else .answered (refusal (.message "INVALID_CREDENTIALS" []))),
      d.recordFailedAttempt username MaxLoginAttempts)
  | .advising => (call.at (.answered (refusal (remainingAdvice d username))), d)
  | .matched staff => (call.at (.stamping staff), d.clearLoginAttempts username)
  | .stamping staff =>
    let stamped := { staff with lastLogin := d.now }
    (call.at (.answered ⟨true, some stamped, staff.permissions, none,
      staff.mustChangePin || checkUsingDefaultPassword call.password⟩), d.updateStaff stamped)
  | .answered _ => (call, d)

/-- Time passes, and then the call takes its next step. -/
def LoginCall.step (p : Platform) (elapsed : Nat) (call : LoginCall) (d : LoginDesk) : LoginCall × LoginDesk :=
  call.act p { d with now := d.now + elapsed }

abbrev LoginWorld := World LoginDesk LoginCall

/-- Between its check of the lock and the record of its outcome. -/
def LoginCall.underWay (call : LoginCall) : Bool :=
  match call.stage with
  | .admitted | .found _ | .failing _ | .matched _ => true
  | _ => false

/-- The lock is checked only when no other call for the name is under way. -/
def ChecksAlone (p : Platform) (_ : Turn Nat) (call : LoginCall) (w : LoginWorld) : Prop :=
  call.stage matches .begins → ∀ other ∈ w.calls, other.name p = call.name p → other.underWay = false

instance (p : Platform) (turn : Turn Nat) (call : LoginCall) (w : LoginWorld) : Decidable (ChecksAlone p turn call w) :=
  inferInstanceAs (Decidable (call.stage matches .begins →
    ∀ other ∈ w.calls, other.name p = call.name p → other.underWay = false))

/-- Wrong passwords compared for a name since its last lock or its last success. -/
def wrongSinceLock (n : String) : List LoginEvent → Nat
  | [] => 0
  | .compared u right _ :: earlier => wrongSinceLock n earlier + if u = n ∧ right = false then 1 else 0
  | .refused _ :: earlier => wrongSinceLock n earlier
  | .locked u :: earlier | .cleared u :: earlier => if u = n then 0 else wrongSinceLock n earlier

/-- Failed logins of a name since its last success, over those counted at the start:
a wrong password, or a name that has no active account. -/
def failuresSince (start : Int) (n : String) : List LoginEvent → Int
  | [] => start
  | .compared u right _ :: earlier => failuresSince start n earlier + if u = n ∧ right = false then 1 else 0
  | .refused u :: earlier => failuresSince start n earlier + if u = n then 1 else 0
  | .locked _ :: earlier => failuresSince start n earlier
  | .cleared u :: earlier => if u = n then 0 else failuresSince start n earlier

namespace LoginDesk

/-- The failures counted for a name. -/
def attempts (d : LoginDesk) (n : String) : Int := ((d.loginAttempts.find? n).map LoginAttempt.attempts).getD 0

variable {d : LoginDesk} {n u : String}

@[simp] theorem note_trail (e : LoginEvent) : (d.note e).trail = e :: d.trail := rfl

@[simp] theorem note_attempts (e : LoginEvent) : (d.note e).attempts n = d.attempts n := rfl

@[simp] theorem note_lockInForce (e : LoginEvent) : (d.note e).lockInForce n = d.lockInForce n := rfl

theorem lockInForce_congr {d' : LoginDesk} (row : d'.loginAttempts.find? n = d.loginAttempts.find? n)
    (now : d'.now = d.now) : d'.lockInForce n = d.lockInForce n := by
  simp only [lockInForce, checkRateLimit, row, now]

theorem lockInForce_iff : d.lockInForce n = true ↔ ∃ a, d.loginAttempts.find? n = some a ∧ d.now < a.lockedUntil := by
  unfold lockInForce checkRateLimit
  cases d.loginAttempts.find? n with
  | none => simp
  | some attempt =>
    rcases lt_or_ge d.now attempt.lockedUntil with running | ended
    · simp only [if_pos running]
      split <;> simpa using running
    · simpa [if_neg (not_lt.mpr ended)] using ended

/-- A lock that is not in force does not come into force by waiting. -/
theorem lockInForce_later {elapsed : Nat} (free : d.lockInForce n = false) :
    lockInForce { d with now := d.now + elapsed } n = false := by
  rw [Bool.eq_false_iff] at free ⊢
  intro later
  obtain ⟨attempt, stored, running⟩ := lockInForce_iff.mp later
  have running : d.now + elapsed < attempt.lockedUntil := running
  exact free (lockInForce_iff.mpr ⟨attempt, stored, by omega⟩)

theorem recordFailedAttempt_other (different : n ≠ u) :
    (d.recordFailedAttempt u m).loginAttempts.find? n = d.loginAttempts.find? n := by
  unfold recordFailedAttempt
  split
  · rw [saveLoginAttempt, Table.find?_set, if_neg different]
  · next attempt stored =>
    have named : attempt.identifier = u := Table.find?_key stored
    split
    · show Table.find? (d.loginAttempts.set _) n = _
      rw [Table.find?_set, if_neg (named ▸ different)]
    · show Table.find? (d.loginAttempts.set _) n = _
      rw [Table.find?_set, if_neg (named ▸ different)]

theorem recordFailedAttempt_attempts : (d.recordFailedAttempt n m).attempts n = d.attempts n + 1 := by
  unfold recordFailedAttempt
  cases stored : d.loginAttempts.find? n with
  | none => simp [attempts, saveLoginAttempt, Table.find?_set, stored]
  | some attempt =>
    have named : attempt.identifier = n := Table.find?_key stored
    simp only
    split <;> simp [attempts, saveLoginAttempt, note, Table.find?_set, stored, named]

theorem recordFailedAttempt_trail (bound : 1 < m) :
    (d.recordFailedAttempt n m).trail = if m ≤ d.attempts n + 1 then .locked n :: d.trail else d.trail := by
  unfold recordFailedAttempt attempts
  cases stored : d.loginAttempts.find? n with
  | none => simp [saveLoginAttempt, not_le.mpr bound]
  | some attempt =>
    simp only [Option.map_some, Option.getD_some]
    split <;> rfl

theorem recordFailedAttempt_now : (d.recordFailedAttempt u m).now = d.now := by
  unfold recordFailedAttempt
  split
  · rfl
  · split <;> rfl

theorem clearLoginAttempts_find :
    (d.clearLoginAttempts u).loginAttempts.find? n =
      (d.loginAttempts.find? n).filter (fun row => row.identifier ≠ u) := Table.find?_filter

theorem clearLoginAttempts_other (different : n ≠ u) :
    (d.clearLoginAttempts u).loginAttempts.find? n = d.loginAttempts.find? n := by
  rw [clearLoginAttempts_find]
  cases stored : d.loginAttempts.find? n with
  | none => rfl
  | some attempt =>
    have named : attempt.identifier = n := Table.find?_key stored
    simp [named, different]

theorem clearLoginAttempts_attempts : (d.clearLoginAttempts n).attempts n = 0 := by
  unfold attempts
  rw [clearLoginAttempts_find]
  cases stored : d.loginAttempts.find? n with
  | none => rfl
  | some attempt =>
    have named : attempt.identifier = n := Table.find?_key stored
    simp [Option.filter_some, named]

end LoginDesk

namespace LoginCall

variable (p : Platform) (n : String)

/-- 1 for a call for the name that is under way, 0 for any other. -/
def busy (call : LoginCall) : Nat := if call.name p = n ∧ call.underWay = true then 1 else 0

/-- 1 for a call for the name that has failed and not recorded it yet. -/
def waiting (call : LoginCall) : Nat :=
  match call.stage with
  | .failing _ => if call.name p = n then 1 else 0
  | _ => 0

/-- 1 for such a call whose password was compared. -/
def mistaken (call : LoginCall) : Nat :=
  match call.stage with
  | .failing true => if call.name p = n then 1 else 0
  | _ => 0

variable {p n}

theorem mistaken_le (call : LoginCall) : call.mistaken p n ≤ call.waiting p n := by
  unfold mistaken waiting
  cases call.stage with
  | failing compared => cases compared <;> simp
  | _ => exact le_refl _

theorem waiting_le (call : LoginCall) : call.waiting p n ≤ call.busy p n := by
  unfold waiting busy underWay
  cases call.stage <;> simp

theorem idle_counts {call : LoginCall} (idle : call.busy p n = 0) :
    call.waiting p n = 0 ∧ call.mistaken p n = 0 := by
  have := call.waiting_le (p := p) (n := n)
  have := call.mistaken_le (p := p) (n := n)
  omega

theorem foreign_idle {call : LoginCall} (foreign : call.name p ≠ n) : call.busy p n = 0 := by simp [busy, foreign]

theorem busy_le (call : LoginCall) : call.busy p n ≤ 1 := by
  unfold busy
  split <;> omega

theorem act_name (call : LoginCall) (d : LoginDesk) : (call.act p d).1.name p = call.name p := by
  unfold act
  cases call.stage <;> simp only <;> repeat' split
  all_goals rfl

end LoginCall

/-- The most wrong passwords since the last lock that a count can stand for. -/
def sinceLock (attempts : Int) : Int := if attempts < MaxLoginAttempts then attempts else 0

/-- What holds of a name at every moment: at most one call for it is under way, and then
no lock is in force; every failure is counted once or is about to be; and fewer wrong
passwords than the limit were compared since the last lock, before the one under way. -/
structure LoginWorld.Sound (p : Platform) (n : String) (start : Int) (w : LoginWorld) : Prop where
  alone : total (LoginCall.busy p n) w.calls ≤ 1
  unlocked : 0 < total (LoginCall.busy p n) w.calls → w.state.lockInForce n = false
  counted : w.state.attempts n + total (LoginCall.waiting p n) w.calls = failuresSince start n w.state.trail
  positive : 0 ≤ w.state.attempts n
  few : wrongSinceLock n w.state.trail ≤
    sinceLock (w.state.attempts n) + total (LoginCall.mistaken p n) w.calls
  never : ∀ right, .compared n right true ∉ w.state.trail

namespace LoginWorld

variable {p : Platform} {n : String} {start : Int}

theorem wait_sound {w : LoginWorld} (elapsed : Nat) (sound : w.Sound p n start) :
    Sound p n start ⟨{ w.state with now := w.state.now + elapsed }, w.calls⟩ where
  alone := sound.alone
  unlocked := fun busy => LoginDesk.lockInForce_later (sound.unlocked busy)
  counted := sound.counted
  positive := sound.positive
  few := sound.few
  never := sound.never

/-- A step of a call for another name leaves what is known of this one. -/
theorem foreign_effect {call : LoginCall} (start : Int) (foreign : call.name p ≠ n) (d : LoginDesk) :
    (call.act p d).2.loginAttempts.find? n = d.loginAttempts.find? n ∧ (call.act p d).2.now = d.now ∧
      failuresSince start n (call.act p d).2.trail = failuresSince start n d.trail ∧
      wrongSinceLock n (call.act p d).2.trail = wrongSinceLock n d.trail ∧
      ∀ right, .compared n right true ∈ (call.act p d).2.trail → .compared n right true ∈ d.trail := by
  unfold LoginCall.act
  cases call.stage with
  | begins =>
    simp only
    split <;> exact ⟨rfl, rfl, rfl, rfl, fun _ member => member⟩
  | admitted =>
    simp only
    repeat' split
    all_goals simp [LoginDesk.note, failuresSince, wrongSinceLock, foreign]
  | found staff => simp [LoginDesk.note, failuresSince, wrongSinceLock, foreign, Ne.symm foreign]
  | failing compared =>
    have trail := LoginDesk.recordFailedAttempt_trail (d := d) (n := call.name p) (m := MaxLoginAttempts) (by decide)
    refine ⟨LoginDesk.recordFailedAttempt_other (Ne.symm foreign), LoginDesk.recordFailedAttempt_now, ?_, ?_, ?_⟩
    all_goals
      simp only [trail]
      split <;> simp [failuresSince, wrongSinceLock, foreign]
  | matched staff =>
    refine ⟨LoginDesk.clearLoginAttempts_other (Ne.symm foreign), rfl, ?_⟩
    simp [LoginDesk.clearLoginAttempts, LoginDesk.note, failuresSince, wrongSinceLock, foreign]
  | advising => exact ⟨rfl, rfl, rfl, rfl, fun _ member => member⟩
  | stamping staff => exact ⟨rfl, rfl, rfl, rfl, fun _ member => member⟩
  | answered result => exact ⟨rfl, rfl, rfl, rfl, fun _ member => member⟩

/-- A step of a call that is not under way for the name, before or after it, and that
leaves what is known of the name. -/
theorem idle_sound {w : LoginWorld} {i : Nat} {call next : LoginCall} {d : LoginDesk} (sound : w.Sound p n start)
    (here : w.calls[i]? = some call) (idle : call.busy p n = 0) (idle' : next.busy p n = 0)
    (row : d.loginAttempts.find? n = w.state.loginAttempts.find? n) (now : d.now = w.state.now)
    (failures : failuresSince start n d.trail = failuresSince start n w.state.trail)
    (wrong : wrongSinceLock n d.trail = wrongSinceLock n w.state.trail)
    (compared : ∀ right, .compared n right true ∈ d.trail → .compared n right true ∈ w.state.trail) :
    Sound p n start ⟨d, w.calls.set i next⟩ := by
  obtain ⟨rest, split⟩ := others here
  have same : ∀ count : LoginCall → Nat, count call = 0 → count next = 0 →
      total count (w.calls.set i next) = total count w.calls := by
    intro count none none'
    obtain ⟨before, after⟩ := split count
    rw [before, after, none, none']
  obtain ⟨unfailed, unmistaken⟩ := LoginCall.idle_counts idle
  obtain ⟨unfailed', unmistaken'⟩ := LoginCall.idle_counts idle'
  have attempts : d.attempts n = w.state.attempts n := by simp only [LoginDesk.attempts, row]
  constructor
  · simpa only [same _ idle idle'] using sound.alone
  · simpa only [same _ idle idle', LoginDesk.lockInForce_congr row now] using sound.unlocked
  · simpa only [same _ unfailed unfailed', attempts, failures] using sound.counted
  · exact attempts ▸ sound.positive
  · simpa only [same _ unmistaken unmistaken', attempts, wrong] using sound.few
  · exact fun right member => sound.never right (compared right member)

/-- The calls of a name when every call but one is idle: only that one is counted. -/
theorem alone_sound {w : LoginWorld} {i : Nat} {call next : LoginCall} {d : LoginDesk}
    (here : w.calls[i]? = some call) (alone : total (LoginCall.busy p n) w.calls = call.busy p n)
    (unlocked : next.busy p n = 0 ∨ d.lockInForce n = false)
    (counted : d.attempts n + next.waiting p n = failuresSince start n d.trail) (positive : 0 ≤ d.attempts n)
    (few : wrongSinceLock n d.trail ≤
      sinceLock (d.attempts n) + next.mistaken p n)
    (never : ∀ right, .compared n right true ∉ d.trail) :
    Sound p n start ⟨d, w.calls.set i next⟩ := by
  obtain ⟨rest, split⟩ := others here
  have fewerMistaken : total (LoginCall.mistaken p n) rest ≤ _ := total_le LoginCall.mistaken_le
  have fewerWaiting : total (LoginCall.waiting p n) rest ≤ _ := total_le LoginCall.waiting_le
  obtain ⟨busy, busyAfter⟩ := split (LoginCall.busy p n)
  obtain ⟨-, waitingAfter⟩ := split (LoginCall.waiting p n)
  obtain ⟨-, mistakenAfter⟩ := split (LoginCall.mistaken p n)
  have nobody : total (LoginCall.busy p n) rest = 0 := by omega
  have unfailed : total (LoginCall.waiting p n) rest = 0 := by omega
  have unmistaken : total (LoginCall.mistaken p n) rest = 0 := by omega
  have one := next.busy_le (p := p) (n := n)
  refine ⟨?_, fun under => ?_, ?_, positive, ?_, never⟩
  · rw [busyAfter, nobody]
    exact one
  · rw [busyAfter, nobody] at under
    exact unlocked.resolve_left (by omega)
  · rw [waitingAfter, unfailed]
    exact counted
  · rw [mistakenAfter, unmistaken]
    exact few

/-- While a call is under way for the name it is the only one, and what is known of the
name is told by that call alone. -/
theorem sound_alone {w : LoginWorld} {i : Nat} {call : LoginCall} (sound : w.Sound p n start)
    (here : w.calls[i]? = some call) (own : call.name p = n) (under : call.underWay = true) :
    total (LoginCall.busy p n) w.calls = call.busy p n ∧ w.state.lockInForce n = false ∧
      w.state.attempts n + call.waiting p n = failuresSince start n w.state.trail ∧
      wrongSinceLock n w.state.trail ≤ sinceLock (w.state.attempts n) + call.mistaken p n := by
  obtain ⟨rest, split⟩ := others here
  have fewerMistaken : total (LoginCall.mistaken p n) rest ≤ _ := total_le LoginCall.mistaken_le
  have fewerWaiting : total (LoginCall.waiting p n) rest ≤ _ := total_le LoginCall.waiting_le
  have one : call.busy p n = 1 := if_pos ⟨own, under⟩
  have busy := (split (LoginCall.busy p n)).1
  have waiting := (split (LoginCall.waiting p n)).1
  have mistaken := (split (LoginCall.mistaken p n)).1
  have nobody : total (LoginCall.busy p n) rest = 0 := by have := sound.alone; omega
  refine ⟨by omega, sound.unlocked (by omega), ?_, ?_⟩
  · have := sound.counted
    omega
  · have := sound.few
    rwa [show total (LoginCall.mistaken p n) w.calls = call.mistaken p n by omega] at this

/-- The failure of the one call under way is recorded: it is counted, and the lock is set
when it is the last one allowed. -/
theorem failing_sound {w : LoginWorld} {i : Nat} {call : LoginCall} {compared : Bool} (sound : w.Sound p n start)
    (here : w.calls[i]? = some call) (own : call.name p = n) (stage : call.stage = .failing compared) :
    Sound p n start ⟨(call.act p w.state).2, w.calls.set i (call.act p w.state).1⟩ := by
  obtain ⟨alone, -, counted, few⟩ := sound_alone sound here own (by simp [LoginCall.underWay, stage])
  have failed : call.waiting p n = 1 := by simp [LoginCall.waiting, stage, own]
  have atMost : call.mistaken p n ≤ 1 := failed ▸ call.mistaken_le
  have trail := LoginDesk.recordFailedAttempt_trail (d := w.state) (n := n) (m := MaxLoginAttempts) (by decide)
  have attempts := LoginDesk.recordFailedAttempt_attempts (d := w.state) (n := n) (m := MaxLoginAttempts)
  have positive := sound.positive
  simp only [LoginCall.act, stage, own]
  generalize after : call.at (if compared = true then _ else _) = next
  have idle : next.busy p n = 0 := by
    rw [← after]
    cases compared <;> simp [LoginCall.busy, LoginCall.underWay]
  obtain ⟨unfailed', unmistaken'⟩ := LoginCall.idle_counts idle
  refine alone_sound here alone (.inl idle) ?_ ?_ ?_ fun right => ?_
  · rw [unfailed', attempts, trail]
    split
    · simp only [failuresSince]
      omega
    · omega
  · omega
  · rw [unmistaken', attempts, trail]
    rcases le_or_gt MaxLoginAttempts (w.state.attempts n + 1) with locks | below
    · simp [if_pos locks, wrongSinceLock, sinceLock, not_lt.mpr locks]
    · rw [sinceLock, if_pos (by omega)] at few
      rw [if_neg (not_le.mpr below), sinceLock, if_pos below]
      omega
  · rw [trail]
    split <;> simpa using sound.never right

/-- A step of the one call that is under way for the name. -/
theorem own_sound {w : LoginWorld} {i : Nat} {call : LoginCall} (sound : w.Sound p n start)
    (here : w.calls[i]? = some call) (own : call.name p = n) (under : call.underWay = true) :
    Sound p n start ⟨(call.act p w.state).2, w.calls.set i (call.act p w.state).1⟩ := by
  obtain ⟨alone, free, counted, few⟩ := sound_alone sound here own under
  cases stage : call.stage with
  | admitted =>
    simp only [LoginCall.waiting, LoginCall.mistaken, stage] at counted few
    have refused : Sound p n start ⟨w.state.note (.refused n), w.calls.set i (call.at (.failing false))⟩ := by
      refine alone_sound here alone (.inr free) ?_ sound.positive ?_ (by simpa using sound.never)
      · simpa [failuresSince, LoginCall.waiting, own] using counted
      · simpa [wrongSinceLock, LoginCall.mistaken] using few
    simp only [LoginCall.act, stage, own]
    split
    · exact refused
    · next staff _ =>
      split
      · exact alone_sound here alone (.inr free) (by simpa [LoginCall.waiting] using counted) sound.positive
          (by simpa [LoginCall.mistaken] using few) sound.never
      · exact refused
  | found staff =>
    simp only [LoginCall.waiting, LoginCall.mistaken, stage] at counted few
    simp only [LoginCall.act, stage, own, free]
    refine alone_sound here alone (.inr free) ?_ sound.positive ?_ (by simpa using sound.never)
    · cases p.verifies staff.passwordHash call.password <;> simpa [failuresSince, LoginCall.waiting, own] using counted
    · cases p.verifies staff.passwordHash call.password <;> simpa [wrongSinceLock, LoginCall.mistaken, own] using few
  | failing compared => exact failing_sound sound here own stage
  | matched staff =>
    simp only [LoginCall.act, stage, own]
    have idle : (call.at (.stamping staff)).busy p n = 0 := by simp [LoginCall.busy, LoginCall.underWay]
    obtain ⟨unfailed', unmistaken'⟩ := LoginCall.idle_counts idle
    have cleared := LoginDesk.clearLoginAttempts_attempts (d := w.state) (n := n)
    refine alone_sound here alone (.inl idle) ?_ ?_ ?_ ?_
    · rw [unfailed', cleared]
      simp [LoginDesk.clearLoginAttempts, failuresSince]
    · rw [cleared]
    · rw [unmistaken', cleared]
      simp [LoginDesk.clearLoginAttempts, wrongSinceLock, sinceLock, MaxLoginAttempts]
    · simpa [LoginDesk.clearLoginAttempts] using sound.never
  | _ => simp [LoginCall.underWay, stage] at under

theorem act_sound {w : LoginWorld} {turn : Turn Nat} {call : LoginCall} (sound : w.Sound p n start)
    (here : w.calls[turn.call]? = some call) (alone : ChecksAlone p turn call w) :
    Sound p n start ⟨(call.act p w.state).2, w.calls.set turn.call (call.act p w.state).1⟩ := by
  rcases eq_or_ne (call.name p) n with own | foreign
  · cases under : call.underWay with
    | true => exact own_sound sound here own under
    | false =>
      have idle : call.busy p n = 0 := by simp [LoginCall.busy, under]
      cases stage : call.stage with
      | begins =>
        have nobody : total (LoginCall.busy p n) w.calls = 0 := by
          refine List.sum_eq_zero fun count member => ?_
          obtain ⟨other, among, rfl⟩ := List.mem_map.mp member
          by_cases same : other.name p = n
          · simp [LoginCall.busy, alone (by simp [stage]) other among (same.trans own.symm)]
          · exact LoginCall.foreign_idle same
        simp only [LoginCall.act, stage]
        split
        · exact idle_sound sound here idle (by simp [LoginCall.busy, LoginCall.underWay]) rfl rfl rfl rfl fun _ member => member
        · next unlocked =>
          have free : w.state.lockInForce n = false := by simp [LoginDesk.lockInForce, ← own, unlocked]
          obtain ⟨unfailed, unmistaken⟩ := LoginCall.idle_counts idle
          have fewerWaiting : total (LoginCall.waiting p n) w.calls ≤ _ := total_le LoginCall.waiting_le
          have fewerMistaken : total (LoginCall.mistaken p n) w.calls ≤ _ := total_le LoginCall.mistaken_le
          have counted := sound.counted
          have few := sound.few
          rw [show total (LoginCall.waiting p n) w.calls = 0 by omega] at counted
          rw [show total (LoginCall.mistaken p n) w.calls = 0 by omega] at few
          exact alone_sound here (by omega) (.inr free) (by simpa [LoginCall.waiting] using counted) sound.positive
            (by simpa [LoginCall.mistaken] using few) sound.never
      | advising =>
        simp only [LoginCall.act, stage]
        exact idle_sound sound here idle (by simp [LoginCall.busy, LoginCall.underWay]) rfl rfl rfl rfl fun _ member => member
      | stamping staff =>
        simp only [LoginCall.act, stage]
        exact idle_sound sound here idle (by simp [LoginCall.busy, LoginCall.underWay]) rfl rfl rfl rfl fun _ member => member
      | answered result =>
        simp only [LoginCall.act, stage]
        exact idle_sound sound here idle idle rfl rfl rfl rfl fun _ member => member
      | _ => simp [LoginCall.underWay, stage] at under
  · obtain ⟨row, now, failures, wrong, compared⟩ := foreign_effect start foreign w.state
    exact idle_sound sound here (LoginCall.foreign_idle foreign)
      (LoginCall.foreign_idle ((call.act_name w.state).trans_ne foreign)) row now failures wrong compared

theorem step_sound {w : LoginWorld} {turn : Turn Nat} {call : LoginCall} (sound : w.Sound p n start)
    (here : w.calls[turn.call]? = some call) (alone : ChecksAlone p turn call w) :
    Sound p n start ⟨(call.step p turn.env w.state).2, w.calls.set turn.call (call.step p turn.env w.state).1⟩ :=
  act_sound (wait_sound turn.env sound) here alone

/-- A world at its start: no call has moved and nothing has happened. -/
structure Starting (w : LoginWorld) : Prop where
  calls : ∀ call ∈ w.calls, call.stage = .begins
  trail : w.state.trail = []
  counts : ∀ attempt ∈ w.state.loginAttempts.rows, 0 ≤ attempt.attempts

theorem starting_sound {w : LoginWorld} (starting : w.Starting) : w.Sound p n (w.state.attempts n) := by
  have idle : total (LoginCall.busy p n) w.calls = 0 := by
    refine List.sum_eq_zero fun count member => ?_
    obtain ⟨call, among, rfl⟩ := List.mem_map.mp member
    simp [LoginCall.busy, LoginCall.underWay, starting.calls call among]
  have fewerWaiting : total (LoginCall.waiting p n) w.calls ≤ _ := total_le LoginCall.waiting_le
  have fewerMistaken : total (LoginCall.mistaken p n) w.calls ≤ _ := total_le LoginCall.mistaken_le
  have positive : 0 ≤ w.state.attempts n := by
    unfold LoginDesk.attempts
    cases stored : w.state.loginAttempts.find? n with
    | none => exact le_refl _
    | some attempt => exact starting.counts attempt (Table.find?_mem stored)
  refine ⟨by omega, fun under => by omega, ?_, positive, ?_, ?_⟩
  · rw [starting.trail, failuresSince]
    omega
  · rw [starting.trail, wrongSinceLock, sinceLock]
    split <;> omega
  · simp [starting.trail]

end LoginWorld

/-- In every schedule in which a lock is checked only while no other call for the name is
under way: at most five wrong passwords are compared from one lock to the next, every
failure is counted once, and no password is compared while a lock is in force. -/
theorem login_lockout (p : Platform) (n : String) (w : LoginWorld) (starting : w.Starting) (schedule : List (Turn Nat))
    (checks : Meets (LoginCall.step p) (ChecksAlone p) schedule w) :
    let after := run (LoginCall.step p) schedule w
    wrongSinceLock n after.state.trail ≤ MaxLoginAttempts ∧
      after.state.attempts n + total (LoginCall.waiting p n) after.calls =
        failuresSince (w.state.attempts n) n after.state.trail ∧
      ∀ right, .compared n right true ∉ after.state.trail := by
  have sound : LoginWorld.Sound p n (w.state.attempts n) (run (LoginCall.step p) schedule w) :=
    run_keeps _ (fun _ _ _ before here allowed => LoginWorld.step_sound before here allowed)
      (LoginWorld.starting_sound starting) checks
  refine ⟨?_, sound.counted, sound.never⟩
  have few := sound.few
  have alone := sound.alone
  have fewerMistaken : total (LoginCall.mistaken p n) (run (LoginCall.step p) schedule w).calls ≤ _ :=
    total_le LoginCall.mistaken_le
  have fewerWaiting : total (LoginCall.waiting p n) (run (LoginCall.step p) schedule w).calls ≤ _ :=
    total_le LoginCall.waiting_le
  unfold sinceLock MaxLoginAttempts at *
  split at few <;> omega

/-- A hash is the salt and the password, and the salt is always the same. -/
def saltedOnce : Platform :=
  ⟨Char.toLower, fun _ password => .ok ("s$" ++ password), fun hash password => hash = "s$" ++ password⟩

def saraAccount : Staff := ⟨"S1", "Sara", "sara", "s$4831", false, .cashier, "", "", true, [], 0, 0, "", ""⟩

/-- One account, and calls that try a wrong password. -/
def guessing (calls : Nat) : LoginWorld :=
  ⟨⟨1000, .empty, ⟨⟨[saraAccount], by simp⟩, by simp⟩, []⟩, List.replicate calls ⟨"sara", "0000", .begins⟩⟩

theorem guessing_starting (calls : Nat) : (guessing calls).Starting :=
  ⟨fun _ member => (List.eq_of_mem_replicate member) ▸ rfl, rfl, fun _ member => nomatch member⟩

/-- Each of the calls takes so many turns, the first call first. -/
def inTurn (calls turns : Nat) : List (Turn Nat) :=
  (List.range calls).flatMap fun call => List.replicate turns ⟨call, 0⟩

theorem guessed_in_turn : wrongSinceLock "sara" (run (LoginCall.step saltedOnce) (inTurn 6 5) (guessing 6)).state.trail ≤
    MaxLoginAttempts :=
  (login_lockout saltedOnce "sara" (guessing 6) (guessing_starting 6) (inTurn 6 5) (by decide +kernel)).1

/-- Six calls check the lock before any of them records its failure: six wrong passwords
are compared; and where five of them record first, the sixth compares under the lock. -/
theorem guesses_past_the_lock :
    (guessing 6).Starting ∧
      MaxLoginAttempts < wrongSinceLock "sara"
        (run (LoginCall.step saltedOnce) (inTurn 6 3) (guessing 6)).state.trail ∧
      .compared "sara" false true ∈
        (run (LoginCall.step saltedOnce) (⟨5, 0⟩ :: ⟨5, 0⟩ :: inTurn 5 4 ++ [⟨5, 0⟩]) (guessing 6)).state.trail :=
  ⟨guessing_starting 6, by decide +kernel⟩

end BeidarPos
