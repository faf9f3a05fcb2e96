import BeidarPos.Handlers
import BeidarPos.StaffLogins
import BeidarPos.Runs

/-! The session of the desktop: who is logged in, since when it was last used, and the calls of the
staff handler that set it and take it away while others are under way. -/
namespace BeidarPos

open Relational Interleaving

/-- Twelve hours, in nanoseconds. -/
def defaultIdleSessionTimeout : Int := 12 * 60 * 60 * 1000000000

/-- The process-wide session; no activity is the zero time. -/
structure DesktopSession where
  staff : Option Staff
  perms : List String
  lastActivity : Option Int
  deriving DecidableEq

namespace DesktopSession

def none : DesktopSession := ⟨.none, [], .none⟩

variable (s : DesktopSession) (now : Int)

/-- `checkExpiryLocked`: whether the session is alive; if it is, it was used now. -/
def checkExpiry : Bool × DesktopSession :=
  if s.staff.isNone then (false, s)
  else if s.lastActivity.any (fun last => defaultIdleSessionTimeout < now - last) then (false, none)
  else (true, { s with lastActivity := some now })

def set (staff : Staff) (permissions : List String) : DesktopSession := ⟨some staff, permissions, some now⟩

def clear : DesktopSession := none

def isActive : Bool × DesktopSession := s.checkExpiry now

def snapshot : Session × DesktopSession :=
  ((if (s.checkExpiry now).1 then s.staff.map fun staff => ⟨staff, s.perms⟩ else .none), (s.checkExpiry now).2)

/-- No expiry is looked at. -/
def currentStaffID : String := (s.staff.map Staff.id).getD ""

/-- The identifier and the role a service finds without looking at the expiry. -/
def current : Option (String × Role) := s.staff.map fun staff => (staff.id, staff.role)

end DesktopSession

inductive SessionCall where
  | set (staff : Staff) (permissions : List String)
  | clear
  | isActive
  | snapshot
  | currentStaffID

def SessionCall.next (s : DesktopSession) (call : Int × SessionCall) : DesktopSession :=
  match call.2 with
  | .set staff permissions => DesktopSession.set call.1 staff permissions
  | .clear => DesktopSession.clear
  | .isActive => (s.isActive call.1).2
  | .snapshot => (s.snapshot call.1).2
  | .currentStaffID => s

def sessionAfter (calls : List (Int × SessionCall)) : DesktopSession := calls.foldl SessionCall.next .none

section Idle

/-- The calls that count as use of the session. -/
def SessionCall.Uses : SessionCall → Prop
  | .isActive | .snapshot => True
  | _ => False

def SessionCall.Changes : SessionCall → Prop
  | .set _ _ | .clear => True
  | _ => False

instance : DecidablePred SessionCall.Uses
  | .isActive | .snapshot => isTrue trivial
  | .set _ _ | .clear | .currentStaffID => isFalse not_false

instance : DecidablePred SessionCall.Changes
  | .set _ _ | .clear => isTrue trivial
  | .isActive | .snapshot | .currentStaffID => isFalse not_false

/-- None of the times is later than the one before it by more than the timeout. -/
def Awake : Int → List Int → Prop
  | _, [] => True
  | last, now :: rest => now - last ≤ defaultIdleSessionTimeout ∧ Awake now rest

instance Awake.decidable : (last : Int) → (times : List Int) → Decidable (Awake last times)
  | _, [] => isTrue trivial
  | _, now :: rest => @instDecidableAnd _ _ inferInstance (Awake.decidable now rest)

def usesOf (calls : List (Int × SessionCall)) : List Int := (calls.filter fun call => call.2.Uses).map Prod.fst

/-- The session was set to this, was not set or cleared since, and was used often enough, the last time then. -/
def HeldSince (calls : List (Int × SessionCall)) (snap : SessionSnapshot) (last : Int) : Prop :=
  ∃ front since back, calls = front ++ (since, .set snap.staff snap.permissions) :: back ∧
    (∀ call ∈ back, ¬call.2.Changes) ∧ Awake since (usesOf back) ∧ last = (usesOf back).getLastD since

theorem awake_snoc {since now : Int} {times : List Int} :
    Awake since (times ++ [now]) ↔ Awake since times ∧ now - times.getLastD since ≤ defaultIdleSessionTimeout := by
  induction times generalizing since with
  | nil => exact and_comm
  | cons first rest ih => rw [List.cons_append, Awake, Awake, ih, and_assoc, List.getLastD_cons]

theorem usesOf_snoc (calls : List (Int × SessionCall)) (call : Int × SessionCall) :
    usesOf (calls ++ [call]) = usesOf calls ++ if call.2.Uses then [call.1] else [] := by
  rw [usesOf, List.filter_append, List.map_append]
  by_cases uses : call.2.Uses
  · rw [if_pos uses, List.filter_cons_of_pos (by simpa using uses)]
    rfl
  · rw [if_neg uses, List.filter_cons_of_neg (by simpa using uses)]
    rfl

variable {calls : List (Int × SessionCall)} {call : Int × SessionCall} {snap : SessionSnapshot} {last : Int}

theorem snoc_parts {α : Type} {xs front back : List α} {x y : α} (parts : xs ++ [y] = front ++ x :: back) :
    (back = [] ∧ xs = front ∧ y = x) ∨ ∃ earlier, back = earlier ++ [y] ∧ xs = front ++ x :: earlier := by
  rcases List.eq_nil_or_concat' back with rfl | ⟨earlier, final, rfl⟩
  · obtain ⟨same, last⟩ := List.append_inj' parts rfl
    exact .inl ⟨rfl, same, (List.cons.inj last).1⟩
  · rw [← List.cons_append, ← List.append_assoc] at parts
    obtain ⟨same, last⟩ := List.append_inj' parts rfl
    obtain ⟨rfl, _⟩ := List.cons.inj last
    exact .inr ⟨earlier, rfl, same⟩

variable {calls : List (Int × SessionCall)} {call : Int × SessionCall} {snap : SessionSnapshot} {last : Int}

/-- A call that neither sets nor clears leaves what the session was set to; one that uses it must not come too late. -/
theorem held_kept (keeps : ¬call.2.Changes) : HeldSince (calls ++ [call]) snap last ↔
    ∃ before, HeldSince calls snap before ∧
      if call.2.Uses then call.1 - before ≤ defaultIdleSessionTimeout ∧ last = call.1 else last = before := by
  constructor
  · rintro ⟨front, since, back, parts, quiet, awake, rfl⟩
    rcases snoc_parts parts with ⟨_, _, rfl⟩ | ⟨earlier, rfl, rfl⟩
    · exact absurd trivial keeps
    · refine ⟨_, ⟨front, since, earlier, rfl, fun other member => quiet other (List.mem_append_left _ member), ?_, rfl⟩, ?_⟩
      · rw [usesOf_snoc] at awake
        split at awake
        · exact (awake_snoc.mp awake).1
        · rwa [List.append_nil] at awake
      · rw [usesOf_snoc] at awake ⊢
        split
        · next uses =>
          rw [if_pos uses] at awake
          exact ⟨(awake_snoc.mp awake).2, List.getLastD_concat⟩
        · rw [List.append_nil]
  · rintro ⟨before, ⟨front, since, back, rfl, quiet, awake, rfl⟩, used⟩
    refine ⟨front, since, back ++ [call], List.append_assoc _ _ _, ?_, ?_, ?_⟩
    · intro other member
      rcases List.mem_append.mp member with earlier | final
      · exact quiet other earlier
      · exact List.mem_singleton.mp final ▸ keeps
    · rw [usesOf_snoc]
      split at used
      · next uses =>
        rw [if_pos uses]
        exact awake_snoc.mpr ⟨awake, used.1⟩
      · next idle => rwa [if_neg idle, List.append_nil]
    · rw [usesOf_snoc]
      split at used
      · next uses => rw [if_pos uses, used.2, List.getLastD_concat]
      · next idle => rw [if_neg idle, used, List.append_nil]

theorem held_set {staff : Staff} {permissions : List String} {now : Int} :
    HeldSince (calls ++ [(now, .set staff permissions)]) snap last ↔ snap = ⟨staff, permissions⟩ ∧ last = now := by
  constructor
  · rintro ⟨front, since, back, parts, quiet, _, rfl⟩
    rcases snoc_parts parts with ⟨rfl, _, same⟩ | ⟨earlier, rfl, _⟩
    · obtain ⟨rfl, set⟩ := Prod.mk.inj same
      obtain ⟨rfl, rfl⟩ := SessionCall.set.inj set
      exact ⟨rfl, rfl⟩
    · exact absurd trivial (quiet _ (List.mem_append_right _ (List.mem_singleton_self _)))
  · rintro ⟨rfl, rfl⟩
    exact ⟨calls, last, [], rfl, fun _ member => absurd member List.not_mem_nil, trivial, rfl⟩

theorem held_clear {now : Int} : ¬HeldSince (calls ++ [(now, .clear)]) snap last := by
  rintro ⟨front, since, back, parts, quiet, _, _⟩
  rcases snoc_parts parts with ⟨_, _, same⟩ | ⟨earlier, rfl, _⟩
  · exact absurd (Prod.mk.inj same).2 (by simp)
  · exact absurd trivial (quiet _ (List.mem_append_right _ (List.mem_singleton_self _)))

/-- What a session holds: what it was set to, and the time of its last use. -/
def DesktopSession.Holds (s : DesktopSession) (snap : SessionSnapshot) (last : Int) : Prop :=
  s.staff = some snap.staff ∧ s.perms = snap.permissions ∧ s.lastActivity = some last

theorem checkExpiry_late {s : DesktopSession} {now used : Int} (used_at : s.lastActivity = some used)
    (late : defaultIdleSessionTimeout < now - used) : s.staff = .none ∨ s.checkExpiry now = (false, .none) := by
  unfold DesktopSession.checkExpiry
  cases staff : s.staff with
  | none => exact .inl rfl
  | some row =>
    rw [if_neg (by simp), used_at, Option.any_some, if_pos (decide_eq_true late)]
    exact .inr rfl

theorem checkExpiry_early {s : DesktopSession} {row : Staff} {now used : Int} (staff : s.staff = some row)
    (used_at : s.lastActivity = some used) (early : now - used ≤ defaultIdleSessionTimeout) :
    s.checkExpiry now = (true, { s with lastActivity := some now }) := by
  unfold DesktopSession.checkExpiry
  rw [if_neg (by simp [staff]), used_at, Option.any_some, if_neg (by simpa using early)]

theorem checkExpiry_nobody {s : DesktopSession} {now : Int} (nobody : s.staff = .none) : s.checkExpiry now = (false, s) := by
  unfold DesktopSession.checkExpiry
  rw [if_pos (by rw [nobody]; rfl)]

/-- Whoever is asked for, the session is alive if its last use is not too old. -/
theorem checkExpiry_holds {s : DesktopSession} {now : Int} (dated : s.staff.isSome → s.lastActivity.isSome) :
    ((s.checkExpiry now).2.Holds snap last ↔
      ∃ before, s.Holds snap before ∧ now - before ≤ defaultIdleSessionTimeout ∧ last = now) ∧
    ((s.snapshot now).1 = some snap ↔ ∃ before, s.Holds snap before ∧ now - before ≤ defaultIdleSessionTimeout) := by
  cases staff : s.staff with
  | none =>
    have nobody (used : Int) : ¬s.Holds snap used := fun held => by cases staff.symm.trans held.1
    rw [DesktopSession.snapshot, checkExpiry_nobody staff]
    exact ⟨iff_of_false (nobody last) fun ⟨used, held, _⟩ => nobody used held,
      iff_of_false (by simp) fun ⟨used, held, _⟩ => nobody used held⟩
  | some row =>
    obtain ⟨used, found⟩ := Option.isSome_iff_exists.mp (dated (by rw [staff]; rfl))
    rcases lt_or_ge defaultIdleSessionTimeout (now - used) with late | early
    · have expired := (checkExpiry_late found late).resolve_left (by simp [staff])
      have tooLate (before : Int) : s.Holds snap before → ¬now - before ≤ defaultIdleSessionTimeout := by
        rintro ⟨_, _, same⟩
        rw [← Option.some.inj (found.symm.trans same)]
        exact not_le.mpr late
      rw [DesktopSession.snapshot, expired]
      exact ⟨iff_of_false (fun held => by cases held.1) fun ⟨used, held, near, _⟩ => tooLate used held near,
        iff_of_false (by simp) fun ⟨used, held, near⟩ => tooLate used held near⟩
    · rw [DesktopSession.snapshot, checkExpiry_early staff found early]
      constructor
      · constructor
        · rintro ⟨who, perms, same⟩
          exact ⟨used, ⟨who, perms, found⟩, early, (Option.some.inj same).symm⟩
        · rintro ⟨before, ⟨who, perms, _⟩, _, rfl⟩
          exact ⟨who, perms, rfl⟩
      · rw [if_pos rfl, staff, Option.map_some]
        constructor
        · intro same
          obtain rfl := Option.some.inj same
          exact ⟨used, ⟨staff, rfl, found⟩, early⟩
        · rintro ⟨before, ⟨who, perms, _⟩, _⟩
          rw [Option.some.inj (staff.symm.trans who), perms]

theorem next_holds {s : DesktopSession} (dated : s.staff.isSome → s.lastActivity.isSome)
    (holds : ∀ snap last, s.Holds snap last ↔ HeldSince calls snap last) (call : Int × SessionCall) :
    ∀ snap last, (SessionCall.next s call).Holds snap last ↔ HeldSince (calls ++ [call]) snap last := by
  intro snap last
  obtain ⟨now, call⟩ := call
  cases call with
  | set staff permissions =>
    rw [held_set]
    constructor
    · rintro ⟨row, perms, used⟩
      obtain ⟨who, rights⟩ := snap
      exact ⟨congrArg₂ SessionSnapshot.mk (Option.some.inj row).symm perms.symm, (Option.some.inj used).symm⟩
    · rintro ⟨rfl, rfl⟩
      exact ⟨rfl, rfl, rfl⟩
  | clear => exact iff_of_false (fun held => by cases held.1) held_clear
  | isActive | snapshot =>
    rw [held_kept (by exact not_false)]
    refine (checkExpiry_holds dated).1.trans (exists_congr fun before => ?_)
    rw [holds, if_pos (by exact trivial)]
  | currentStaffID =>
    rw [held_kept (by exact not_false)]
    change s.Holds snap last ↔ _
    simp [holds, SessionCall.Uses]

theorem checkExpiry_dated {s : DesktopSession} {now : Int} (dated : s.staff.isSome → s.lastActivity.isSome) :
    (s.checkExpiry now).2.staff.isSome → (s.checkExpiry now).2.lastActivity.isSome := by
  unfold DesktopSession.checkExpiry
  split
  · exact dated
  · split
    · exact fun absent => absurd absent (by simp [DesktopSession.none])
    · exact fun _ => rfl

theorem sessionAfter_holds (calls : List (Int × SessionCall)) :
    ((sessionAfter calls).staff.isSome → (sessionAfter calls).lastActivity.isSome) ∧
    ∀ snap last, (sessionAfter calls).Holds snap last ↔ HeldSince calls snap last := by
  induction calls using List.reverseRecOn with
  | nil =>
    refine ⟨fun absent => absurd absent (by simp [sessionAfter, DesktopSession.none]), fun snap last => ?_⟩
    exact iff_of_false (fun held => by cases held.1) fun ⟨front, since, back, parts, _⟩ => absurd parts (by simp)
  | append_singleton front call ih =>
    rw [sessionAfter, Runs.foldl_snoc]
    refine ⟨?_, next_holds ih.1 ih.2 call⟩
    obtain ⟨now, call⟩ := call
    cases call with
    | set | clear => exact fun _ => by simp_all [SessionCall.next, DesktopSession.set, DesktopSession.clear, DesktopSession.none]
    | isActive | snapshot => exact checkExpiry_dated ih.1
    | currentStaffID => exact ih.1

/-- After any calls, a snapshot is what the session was set to last, if it was not cleared since and no two uses of
it lie more than twelve hours apart. -/
theorem snapshot_iff (calls : List (Int × SessionCall)) (now : Int) (snap : SessionSnapshot) :
    ((sessionAfter calls).snapshot now).1 = some snap ↔
      ∃ front since back, calls = front ++ (since, .set snap.staff snap.permissions) :: back ∧
        (∀ call ∈ back, ¬call.2.Changes) ∧ Awake since (usesOf back ++ [now]) := by
  obtain ⟨dated, holds⟩ := sessionAfter_holds calls
  rw [(@checkExpiry_holds _ now _ _ dated).2]
  constructor
  · rintro ⟨before, held, near⟩
    obtain ⟨front, since, back, rfl, quiet, awake, rfl⟩ := (holds snap before).mp held
    exact ⟨front, since, back, rfl, quiet, awake_snoc.mpr ⟨awake, near⟩⟩
  · rintro ⟨front, since, back, rfl, quiet, awake⟩
    obtain ⟨before, near⟩ := awake_snoc.mp awake
    exact ⟨_, (holds snap _).mpr ⟨front, since, back, rfl, quiet, before, rfl⟩, near⟩

end Idle

/-- The accounts, the session, and a record the program does not have: who logged in last, if nobody logged out
since. -/
structure SignedDesk where
  office : StaffOffice
  session : DesktopSession
  entitled : Option String

/-- What a step finds: the environment of the services, and the time. -/
structure SignedEnv where
  office : OfficeEnv
  now : Int

/-- A call of the staff handler, or one of another handler that asks for a permission, where it stands. -/
inductive SignedTask where
  | authenticate (task : OfficeTask)
  | restoreSession (staffID : String)
  | comparing (staffID : String)
  | loading (staffID : String)
  | restoring (staff : Staff) (permissions : List String)
  | logout
  | manage (task : OfficeTask)
  | managing (task : OfficeTask)
  | guarded (perm : String)
  | passed (snap : SessionSnapshot)
  | returned

/-- The answer of a login that is done. -/
def OfficeTask.answer : OfficeTask → Option AuthResult
  | .authenticated result => some result
  | .authenticateByUsername call =>
    match call.stage with
    | .answered result => some result
    | _ => none
  | _ => none

/-- The account a successful answer names. -/
def AuthResult.account (result : AuthResult) : Option Staff :=
  if result.success then result.staff.filter fun staff => staff.id ≠ "" else none

namespace SignedDesk

variable (s : SignedDesk)

def login (now : Int) (result : AuthResult) : SignedDesk :=
  match result.account with
  | none => s
  | some staff => { s with session := .set now staff result.permissions, entitled := some staff.id }

def restore (now : Int) (staff : Staff) (permissions : List String) : SignedDesk :=
  if staff.id = "" then s else { s with session := .set now staff permissions }

def work (p : Platform) (e : OfficeEnv) (task : OfficeTask) : OfficeTask × SignedDesk :=
  let env : OfficeEnv := { e with env := { e.env with session := s.session.current } }
  ((task.step p env s.office).1, { s with office := (task.step p env s.office).2 })

end SignedDesk

def PermStaffManage : String := "staff_manage"

def SignedTask.step (p : Platform) (e : SignedEnv) (task : SignedTask) (s : SignedDesk) : SignedTask × SignedDesk :=
  match task with
  | .authenticate task =>
    match task.answer with
    | some result => (.returned, s.login e.now result)
    | none => (.authenticate (s.work p e.office task).1, (s.work p e.office task).2)
  | .restoreSession staffID =>
    (if (s.session.isActive e.now).1 then .comparing staffID else .returned,
      { s with session := (s.session.isActive e.now).2 })
  | .comparing staffID => (if s.session.currentStaffID = staffID then .loading staffID else .returned, s)
  | .loading staffID =>
    match s.office.desk.staff.find? staffID with
    | none => (.returned, s)
    | some staff =>
      (if staff.active then .restoring staff (withDefaults staff.role staff.permissions) else .returned, s)
  | .restoring staff permissions => (.returned, s.restore e.now staff permissions)
  | .logout => (.returned, { s with session := DesktopSession.clear, entitled := none })
  | .manage task =>
    (if (requirePermission PermStaffManage (s.session.snapshot e.now).1).isOk then .managing task else .returned,
      { s with session := (s.session.snapshot e.now).2 })
  | .managing task => (.managing (s.work p e.office task).1, (s.work p e.office task).2)
  | .guarded perm =>
    (match (s.session.snapshot e.now).1 with
      | none => .returned
      | some snap => if snap.hasPermission perm then .passed snap else .returned,
      { s with session := (s.session.snapshot e.now).2 })
  | .passed snap => (.passed snap, s)
  | .returned => (.returned, s)

abbrev SignedWorld := World SignedDesk SignedTask

section Entitled

/-- The account a restoration is for, once it found the session to be of that account. -/
def SignedTask.restores : SignedTask → Option String
  | .loading staffID => some staffID
  | .restoring staff _ => some staff.id
  | _ => none

/-- The account a login is about to give the session to. -/
def SignedTask.logsIn : SignedTask → Option String
  | .authenticate task => (task.answer.bind AuthResult.account).map Staff.id
  | _ => none

/-- Nobody logs out, and nobody else logs in, while a restoration is between its check and its end. -/
def Undisturbed (_ : Turn SignedEnv) (task : SignedTask) (w : SignedWorld) : Prop :=
  (task matches .logout → ∀ other ∈ w.calls, other.restores = none) ∧
  ∀ id ∈ task.logsIn, ∀ other ∈ w.calls, ∀ restored ∈ other.restores, restored = id

instance (turn : Turn SignedEnv) (task : SignedTask) (w : SignedWorld) : Decidable (Undisturbed turn task w) :=
  inferInstanceAs (Decidable ((_ → ∀ other ∈ w.calls, other.restores = none) ∧
    ∀ id ∈ task.logsIn, ∀ other ∈ w.calls, ∀ restored ∈ other.restores, restored = id))

/-- The session is of who logged in last, and so is every restoration under way. -/
structure SignedWorld.Owned (w : SignedWorld) : Prop where
  session : ∀ staff, w.state.session.staff = some staff → w.state.entitled = some staff.id
  restores : ∀ task ∈ w.calls, ∀ id ∈ task.restores, id ≠ "" → w.state.entitled = some id

variable {p : Platform} {e : SignedEnv} {s : SignedDesk} {task : SignedTask}

theorem checkExpiry_staff (session : DesktopSession) (now : Int) {staff : Staff}
    (left : (session.checkExpiry now).2.staff = some staff) : session.staff = some staff := by
  unfold DesktopSession.checkExpiry at left
  split at left
  · exact left
  · split at left
    · exact absurd left (by simp [DesktopSession.none])
    · exact left

/-- What a step keeps of the session and of the restoration it is itself, if it leaves who is entitled. -/
theorem step_owned (owned : ∀ staff, s.session.staff = some staff → s.entitled = some staff.id)
    (own : ∀ id ∈ task.restores, id ≠ "" → s.entitled = some id) :
    (∀ staff, (task.step p e s).2.session.staff = some staff → (task.step p e s).2.entitled = some staff.id) ∧
    (∀ id ∈ (task.step p e s).1.restores, id ≠ "" → (task.step p e s).2.entitled = some id) := by
  have none (id : String) (impossible : id ∈ (.none : Option String)) : False := by cases impossible
  cases task with
  | authenticate task =>
    simp only [SignedTask.step]
    split
    · next result answered =>
      refine ⟨?_, fun id member => (none id member).elim⟩
      unfold SignedDesk.login
      split
      · exact owned
      · next staff named => exact fun row same => by rw [Option.some.inj same]
    · exact ⟨owned, fun id member => (none id member).elim⟩
  | restoreSession staffID =>
    refine ⟨fun staff left => owned staff (checkExpiry_staff _ _ left), fun id member => ?_⟩
    simp only [SignedTask.step] at member
    split at member <;> exact (none id member).elim
  | comparing staffID =>
    refine ⟨owned, fun id member nonempty => ?_⟩
    simp only [SignedTask.step] at member
    split at member
    · next same =>
      obtain rfl := Option.some.inj member
      unfold DesktopSession.currentStaffID at same
      cases staff : s.session.staff with
      | none => exact absurd (by rw [← same, staff]; rfl) nonempty
      | some row =>
        rw [staff] at same
        exact same ▸ owned row staff
    · exact (none id member).elim
  | loading staffID =>
    simp only [SignedTask.step]
    split
    · exact ⟨owned, fun id member => (none id member).elim⟩
    · next staff found =>
      refine ⟨owned, fun id member nonempty => ?_⟩
      split at member
      · obtain rfl := Option.some.inj member
        exact own _ (by rw [Table.find?_key found]; rfl) nonempty
      · exact (none id member).elim
  | restoring staff permissions =>
    refine ⟨fun row => ?_, fun id member => (none id member).elim⟩
    simp only [SignedTask.step, SignedDesk.restore]
    split
    · exact owned row
    · next nonempty =>
      intro same
      obtain rfl := Option.some.inj same
      exact own _ rfl nonempty
  | logout => exact ⟨fun staff left => (by cases left), fun id member => (none id member).elim⟩
  | manage task =>
    refine ⟨fun staff left => owned staff (checkExpiry_staff _ _ left), fun id member => ?_⟩
    simp only [SignedTask.step] at member
    split at member <;> exact (none id member).elim
  | managing task => exact ⟨owned, fun id member => (none id member).elim⟩
  | guarded perm =>
    refine ⟨fun staff left => owned staff (checkExpiry_staff _ _ left), fun id member => ?_⟩
    simp only [SignedTask.step] at member
    split at member
    · exact (none id member).elim
    · split at member <;> exact (none id member).elim
  | passed snap => exact ⟨owned, fun id member => (none id member).elim⟩
  | returned => exact ⟨owned, fun id member => (none id member).elim⟩

/-- Who is entitled changes at a logout, and where a login gives the session away. -/
theorem step_entitled : (task.step p e s).2.entitled = s.entitled ∨ task matches .logout ∨
    ∃ id ∈ task.logsIn, (task.step p e s).2.entitled = some id := by
  cases task with
  | authenticate task =>
    simp only [SignedTask.step, SignedTask.logsIn]
    split
    · next result answered =>
      rw [answered, Option.bind_some]
      unfold SignedDesk.login
      split
      · exact .inl rfl
      · next staff named => exact .inr (.inr ⟨staff.id, by rw [named]; rfl, rfl⟩)
    · exact .inl rfl
  | logout => exact .inr (.inl rfl)
  | loading staffID =>
    simp only [SignedTask.step]
    split <;> exact .inl rfl
  | restoring staff permissions =>
    simp only [SignedTask.step, SignedDesk.restore]
    split <;> exact .inl rfl
  | restoreSession | comparing | manage | managing | guarded | passed | returned => exact .inl rfl

theorem turn_owned {w : SignedWorld} {turn : Turn SignedEnv} {task : SignedTask} (owned : w.Owned)
    (here : w.calls[turn.call]? = some task) (undisturbed : Undisturbed turn task w) :
    SignedWorld.Owned ⟨(task.step p turn.env w.state).2, w.calls.set turn.call (task.step p turn.env w.state).1⟩ := by
  have member := List.mem_of_getElem? here
  obtain ⟨session, own⟩ := step_owned (p := p) (e := turn.env) owned.session (owned.restores task member)
  refine ⟨session, fun other among id restores nonempty => ?_⟩
  rcases List.mem_or_eq_of_mem_set among with before | rfl
  · have entitled := owned.restores other before id restores nonempty
    rcases @step_entitled p turn.env w.state task with same | logout | ⟨login, logsIn, named⟩
    · exact same.trans entitled
    · exact absurd restores (by simp [undisturbed.1 logout other before])
    · exact named.trans (congrArg some (undisturbed.2 login logsIn other before id restores).symm)
  · exact own id restores nonempty

/-- No restoration is under way, and nobody is logged in. -/
structure SignedWorld.Fresh (w : SignedWorld) : Prop where
  session : w.state.session = .none
  restores : ∀ task ∈ w.calls, task.restores = none

/-- However the calls interleave, the session is of who logged in last since the last logout, as long as nobody logs
out or in while a restoration is under way. -/
theorem session_owned {w : SignedWorld} (fresh : w.Fresh) (schedule : List (Turn SignedEnv))
    (undisturbed : Meets (SignedTask.step p) Undisturbed schedule w) {front back : List (Turn SignedEnv)}
    (parts : schedule = front ++ back) (staff : Staff)
    (signed : (run (SignedTask.step p) front w).state.session.staff = some staff) :
    (run (SignedTask.step p) front w).state.entitled = some staff.id := by
  have start : w.Owned := by
    refine ⟨fun staff found => ?_, fun task member id restores => ?_⟩
    · rw [fresh.session] at found
      cases found
    · rw [fresh.restores task member] at restores
      cases restores
  subst parts
  exact (run_keeps SignedWorld.Owned (fun w turn call owned here => turn_owned owned here) start undisturbed.front).session
    staff signed

/-- Mona logs in, opens the page again and logs out. -/
def monaSigned : SignedWorld :=
  ⟨⟨monaLogsIn.state, .none, none⟩,
    [.authenticate (.authenticateByUsername ⟨"mona", "mona", .begins⟩), .restoreSession "mona", .logout]⟩

def signedTurns (turns : List Nat) : List (Turn SignedEnv) := turns.map fun task => ⟨task, ⟨0, session "" .cashier⟩, 0⟩

/-- Her session is hers; a logout before the restoration ends leaves a session of nobody's. -/
theorem session_owned_mona :
    (run (SignedTask.step host) (signedTurns [0, 0, 0, 0, 0, 0, 1, 1, 1, 1]) monaSigned).state.entitled = some "mona" ∧
    ((run (SignedTask.step host) (signedTurns [0, 0, 0, 0, 0, 0, 1, 1, 1, 2, 1]) monaSigned).state.session.staff.isSome ∧
      (run (SignedTask.step host) (signedTurns [0, 0, 0, 0, 0, 0, 1, 1, 1, 2, 1]) monaSigned).state.entitled = none) := by
  refine ⟨?_, by decide +kernel⟩
  exact session_owned ⟨rfl, by decide⟩ (signedTurns [0, 0, 0, 0, 0, 0, 1, 1, 1, 1, 2]) (by decide +kernel)
    (show _ = _ ++ signedTurns [2] from rfl) { account "mona" "Mona" "mona" .manager with lastLogin := 0 } (by decide +kernel)

end Entitled

end BeidarPos
