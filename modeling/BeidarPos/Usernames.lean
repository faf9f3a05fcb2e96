import BeidarPos.StaffPins
import Mathlib.Data.List.DropRight

/-! User names as they are stored. Every writer of the staff table spells a name in lower
case and without the spaces around it, and a login looks for the name it is given spelt the
same way; how long a name may be is asked of the spelling by one writer and of what was
typed by another. -/
namespace BeidarPos

open Relational Journal Tx Interleaving

section Trimming

variable {blank : Char → Bool} {f : Char → Char} {l front back : List Char}

/-- What is left of a text without the blanks around it. -/
def trimmed (blank : Char → Bool) (l : List Char) : List Char := (l.dropWhile blank).rdropWhile blank

theorem trimmed_map (same : ∀ c, blank (f c) = blank c) (l : List Char) :
    trimmed blank (l.map f) = (trimmed blank l).map f := by
  have after : blank ∘ f = blank := funext same
  simp only [trimmed, List.rdropWhile, List.dropWhile_map, after, ← List.map_reverse]

/-- A text that neither begins nor ends with a blank is left as it is. -/
theorem trimmed_trimmed (blank : Char → Bool) (l : List Char) : trimmed blank (trimmed blank l) = trimmed blank l := by
  have first : (trimmed blank l).dropWhile blank = trimmed blank l := by
    cases left : trimmed blank l with
    | nil => rfl
    | cons c text =>
      have front : trimmed blank l <+: l.dropWhile blank := List.rdropWhile_prefix blank _
      obtain ⟨rest, whole⟩ := left ▸ front
      have head := List.head?_dropWhile_not blank l
      rw [← whole] at head
      exact List.dropWhile_cons_of_neg (by simpa using head)
  rw [trimmed, first]
  exact List.rdropWhile_idempotent blank _

theorem trimmed_surrounded (before : ∀ c ∈ front, blank c = true) (after : ∀ c ∈ back, blank c = true) (l : List Char) :
    trimmed blank (front ++ l ++ back) = trimmed blank l := by
  have start : front.dropWhile blank = [] := List.dropWhile_eq_nil_iff.mpr before
  have none : back.dropWhile blank = [] := List.dropWhile_eq_nil_iff.mpr after
  have last : back.reverse.dropWhile blank = [] :=
    List.dropWhile_eq_nil_iff.mpr fun c member => after c (List.mem_reverse.mp member)
  rw [trimmed, List.append_assoc, List.dropWhile_append, start, List.isEmpty_nil, if_pos rfl, List.dropWhile_append]
  split
  · next empty =>
    rw [none, trimmed, List.isEmpty_iff.mp empty]
  · rw [trimmed, List.rdropWhile, List.reverse_append, List.dropWhile_append, last, List.isEmpty_nil, if_pos rfl]
    rfl

end Trimming

/-- What the case mapping promises: a letter made lower case is lower case, and no letter
becomes a space or a space a letter. -/
structure Casing (p : Platform) : Prop where
  idempotent : ∀ c, p.lower (p.lower c) = p.lower c
  blank : ∀ c, p.lower c ∈ whiteSpace ↔ c ∈ whiteSpace

/-- How the service spells a name. -/
def spelt (p : Platform) (name : String) : String := toLower p (trimSpace name)

/-- The name as it is spelt, of three to twenty bytes. -/
structure Canonical (p : Platform) (name : String) : Prop where
  spelt : spelt p name = name
  least : 3 ≤ name.utf8ByteSize
  most : name.utf8ByteSize ≤ 20

/-- The name in some casing, with some space around it. -/
def Variant (p : Platform) (name typed : String) : Prop :=
  ∃ front cased back : List Char, typed.toList = front ++ cased ++ back ∧ (∀ c ∈ front, c ∈ whiteSpace) ∧
    (∀ c ∈ back, c ∈ whiteSpace) ∧ cased.map p.lower = name.toList.map p.lower

section Spelling

variable {p : Platform} {name typed : String}

def isBlank (c : Char) : Bool := decide (c ∈ whiteSpace)

theorem Casing.isBlank (casing : Casing p) (c : Char) : isBlank (p.lower c) = isBlank c :=
  decide_eq_decide.mpr (casing.blank c)

theorem spelt_toList (p : Platform) (name : String) : (spelt p name).toList = (trimmed isBlank name.toList).map p.lower := by
  rw [spelt, toLower, String.toList_map, trimSpace, String.toList_ofList]
  rfl

theorem spelt_lower (casing : Casing p) (name : String) :
    (spelt p name).toList = trimmed isBlank (name.toList.map p.lower) := by
  rw [spelt_toList, trimmed_map casing.isBlank]

theorem spelt_spelt (casing : Casing p) (name : String) : spelt p (spelt p name) = spelt p name := by
  apply String.toList_injective
  have twice : p.lower ∘ p.lower = p.lower := funext casing.idempotent
  rw [spelt_toList p (spelt p name), spelt_toList p name, trimmed_map casing.isBlank, trimmed_trimmed, List.map_map, twice]

/-- Every variant of a name is spelt like the name. -/
theorem Variant.spelt (casing : Casing p) (typed' : Variant p name typed) : spelt p typed = spelt p name := by
  obtain ⟨front, cased, back, parts, before, after, same⟩ := typed'
  have around (part : List Char) (spaces : ∀ c ∈ part, c ∈ whiteSpace) : ∀ c ∈ part.map p.lower, isBlank c = true := by
    intro c member
    obtain ⟨space, inside, rfl⟩ := List.mem_map.mp member
    exact decide_eq_true ((casing.blank space).mpr (spaces space inside))
  apply String.toList_injective
  rw [spelt_lower casing, spelt_lower casing, parts, List.map_append, List.map_append, same,
    trimmed_surrounded (around front before) (around back after)]

end Spelling

/-- A call on the staff where it stands; the ones of the other services keep to the names
they read. -/
inductive NameTask where
  | staff (task : StaffTask)
  | updateStaff (request : Staff)
  | updating (row : Staff)

def NameTask.step (p : Platform) (env : StaffEnv) (task : NameTask) (db : StaffStore) : NameTask × StaffStore :=
  match task with
  | .staff task => ((task.step p env db).1 |> .staff, (task.step p env db).2)
  | .updateStaff request =>
    match (prepareUpdate p env request).run db with
    | .error e => (.staff (.answered (.error e)), db)
    | .ok (row, _) => (.updating row, db)
  | .updating row => ((written (.update row) .error db).1 |> .staff, (written (.update row) .error db).2)

/-- The row a call is about to write. -/
def StaffTask.pending : StaffTask → Option Staff
  | .creating row _ | .savingPassword row _ | .savingHealed row | .savingRow row _ => some row
  | _ => none

def NameTask.pending : NameTask → Option Staff
  | .staff task => task.pending
  | .updating row => some row
  | .updateStaff _ => none

abbrev NameWorld := World StaffStore NameTask

/-- The stored names and the ones about to be written. -/
def NamesCanonical (p : Platform) (w : NameWorld) : Prop :=
  (∀ s ∈ w.state.staff.rows, Canonical p s.username) ∧
    ∀ task ∈ w.calls, ∀ row ∈ task.pending, Canonical p row.username

/-- An edit that is let through has a name that is long enough and short enough as it is
spelt, and not only as it was typed. -/
def SpeltInRange (p : Platform) (turn : Turn StaffEnv) (task : NameTask) (w : NameWorld) : Prop :=
  match task with
  | .updateStaff request => (prepareUpdate p turn.env request).accepts w.state →
      3 ≤ (spelt p request.username).utf8ByteSize ∧ (spelt p request.username).utf8ByteSize ≤ 20
  | .staff _ | .updating _ => True

instance (p : Platform) (turn : Turn StaffEnv) (task : NameTask) (w : NameWorld) : Decidable (SpeltInRange p turn task w) :=
  match task with
  | .updateStaff _ => inferInstanceAs (Decidable (_ → _ ∧ _))
  | .staff _ | .updating _ => isTrue trivial

section Writers

variable {p : Platform} {env : StaffEnv} {db final : StaffStore} {ws : List StaffWrite} {request row : Staff}
  {id password newPassword : String}

theorem prepareStaff_named (h : Does (prepareStaff p env request password) db row ws final) :
    row.username = spelt p request.username ∧ 3 ≤ row.username.utf8ByteSize ∧ row.username.utf8ByteSize ≤ 20 := by
  obtain ⟨-, -, -, -, -, -, named⟩ := prepareStaff_does h
  exact named

theorem prepareToggle_named (h : Does (prepareToggle id) db row ws final) :
    ∃ stored ∈ db.staff.rows, row.username = stored.username := by
  unfold prepareToggle at h
  rw [does_ask_bind, does_require_bind] at h
  obtain ⟨stored, found, h⟩ := h
  rw [does_ask_bind, does_ensure_bind] at h
  obtain ⟨rfl, -, -⟩ := does_pure.mp h.2
  exact ⟨stored, Table.find?_mem found, rfl⟩

theorem prepareDelete_named {force : Bool} {kept : Option Staff} (h : Does (prepareDelete id force) db kept ws final) :
    ∀ row ∈ kept, ∃ stored ∈ db.staff.rows, row.username = stored.username := by
  unfold prepareDelete at h
  rw [does_ask_bind, does_require_bind] at h
  obtain ⟨stored, found, h⟩ := h
  rw [does_ask_bind, does_ensure_bind, does_ask_bind, does_ask_bind] at h
  obtain ⟨rfl, -, -⟩ := does_pure.mp h.2
  intro row member
  rw [Option.mem_def, Option.ite_none_right_eq_some] at member
  obtain rfl := Option.some.inj member.2
  exact ⟨stored, Table.find?_mem found, rfl⟩

theorem preparePassword_named (h : Does (preparePassword p env id newPassword) db row ws final) :
    ∃ stored ∈ db.staff.rows, row.username = stored.username := by
  obtain ⟨-, -, -, current, facts⟩ := preparePassword_does h
  obtain ⟨hash, rfl⟩ := facts.changed
  exact ⟨current, Table.find?_mem facts.found, rfl⟩

theorem prepareUpdate_named (h : Does (prepareUpdate p env request) db row ws final) :
    row.username = spelt p request.username := by
  obtain ⟨-, -, current, facts⟩ := prepareUpdate_does h
  rw [facts.edited]
  rfl

/-- The row a write puts into the table, if any. -/
def row? : StaffWrite → Option Staff
  | .create row | .update row => some row
  | .delete _ => none

theorem written_named (change : StaffWrite) (report : Failure → Except Failure Unit) (db : StaffStore) :
    (written change report db).1.pending = none ∧
      ∀ s ∈ (written change report db).2.staff.rows, s ∈ db.staff.rows ∨ s ∈ row? change := by
  unfold written
  cases applied : change.apply db with
  | error e => exact ⟨rfl, fun s member => .inl member⟩
  | ok next =>
    refine ⟨rfl, fun s member => ?_⟩
    cases change with
    | create row =>
      rw [createWrite_rows applied] at member
      rcases List.mem_append.mp member with old | new
      · exact .inl old
      · exact .inr (List.mem_singleton.mp new ▸ rfl)
    | update row =>
      unfold StaffWrite.apply at applied
      cases saved : db.staff.save? row with
      | none => simp [saved] at applied
      | some staff =>
        simp only [saved, Except.ok.injEq] at applied
        subst applied
        rcases save?_mem saved member with rfl | ⟨old, -⟩
        · exact .inr rfl
        · exact .inl old
    | delete id =>
      cases applied
      exact .inl (List.mem_of_mem_filter member)

/-- A row whose name is a stored one, or was spelt from a request and found in range. -/
def Named (p : Platform) (db : StaffStore) (row : Staff) : Prop :=
  (∃ stored ∈ db.staff.rows, row.username = stored.username) ∨
    ∃ typed, row.username = spelt p typed ∧ 3 ≤ row.username.utf8ByteSize ∧ row.username.utf8ByteSize ≤ 20

/-- A step of a creation or of another call on the staff: it writes the row that is pending,
or reads the one that will be. -/
theorem staffTask_named {task : StaffTask} :
    (∀ s ∈ (task.step p env db).2.staff.rows, s ∈ db.staff.rows ∨ s ∈ task.pending) ∧
      ∀ row ∈ (task.step p env db).1.pending, Named p db row := by
  have still : ∀ s ∈ db.staff.rows, s ∈ db.staff.rows ∨ s ∈ task.pending := fun s member => .inl member
  have idle {next : StaffTask} (none : next.pending = none) : ∀ row ∈ next.pending, Named p db row := by
    intro row member
    rw [none] at member
    contradiction
  have done (change : StaffWrite) (report : Failure → Except Failure Unit)
      (pending : ∀ s ∈ row? change, s ∈ task.pending) :
      (∀ s ∈ (written change report db).2.staff.rows, s ∈ db.staff.rows ∨ s ∈ task.pending) ∧
        ∀ row ∈ (written change report db).1.pending, Named p db row := by
    obtain ⟨none, rows⟩ := written_named change report db
    exact ⟨fun s member => (rows s member).imp_right (pending s), idle none⟩
  have reads {next : StaffTask} {row : Staff} (pending : next.pending = some row) (named : Named p db row) :
      ∀ other ∈ next.pending, Named p db other := by
    intro other member
    rw [pending] at member
    obtain rfl : row = other := Option.some.inj member
    exact named
  cases task with
  | createStaff request password =>
    simp only [StaffTask.step]
    split
    · exact ⟨still, idle rfl⟩
    · next row rest run =>
      have prepared : Does (prepareStaff p env request password) db row rest.1 rest.2 := run
      exact ⟨still, reads rfl (.inr ⟨request.username, prepareStaff_named prepared⟩)⟩
  | creating row password => exact done _ _ fun s same => same
  | updateStaffPassword id newPassword =>
    simp only [StaffTask.step]
    split
    · exact ⟨still, idle rfl⟩
    · next row rest run =>
      have prepared : Does (preparePassword p env id newPassword) db row rest.1 rest.2 := run
      exact ⟨still, reads rfl (.inl (preparePassword_named prepared))⟩
  | savingPassword row newPassword => exact done _ _ fun s same => same
  | seedDefaultAdmin =>
    simp only [StaffTask.step]
    split <;> exact ⟨still, idle rfl⟩
  | healing =>
    simp only [StaffTask.step]
    split
    · exact ⟨still, idle rfl⟩
    · next admin found =>
      split
      · split
        · exact ⟨still, idle rfl⟩
        · exact ⟨still, reads rfl (.inl ⟨admin, List.mem_of_find?_eq_some found, rfl⟩)⟩
      · exact ⟨still, idle rfl⟩
  | savingHealed row => exact done _ _ fun s same => same
  | toggleStaffStatus id =>
    simp only [StaffTask.step]
    split
    · exact ⟨still, idle rfl⟩
    · next row rest run =>
      have prepared : Does (prepareToggle id) db row rest.1 rest.2 := run
      exact ⟨still, reads rfl (.inl (prepareToggle_named prepared))⟩
  | deleteStaff id force =>
    simp only [StaffTask.step]
    split
    · exact ⟨still, idle rfl⟩
    · next row rest run =>
      have prepared : Does (prepareDelete id force) db (some row) rest.1 rest.2 := run
      exact ⟨still, reads rfl (.inl (prepareDelete_named prepared row rfl))⟩
    · exact ⟨still, idle rfl⟩
  | savingRow row failure => exact done _ _ fun s same => same
  | deleting id => exact done _ _ fun s absent => by simp [row?] at absent
  | answered result => exact ⟨still, idle rfl⟩

/-- One step of a call keeps the names canonical, the stored and the pending. -/
theorem step_canonical {w : NameWorld} {turn : Turn StaffEnv} {task : NameTask} (casing : Casing p)
    (names : NamesCanonical p w) (here : w.calls[turn.call]? = some task) (inRange : SpeltInRange p turn task w) :
    NamesCanonical p ⟨(task.step p turn.env w.state).2, w.calls.set turn.call (task.step p turn.env w.state).1⟩ := by
  obtain ⟨stored, pending⟩ := names
  have own := pending task (List.mem_of_getElem? here)
  have named {row : Staff} (from' : Named p w.state row) : Canonical p row.username := by
    rcases from' with ⟨old, member, same⟩ | ⟨typed, same, least, most⟩
    · rw [same]
      exact stored old member
    · exact ⟨by rw [same, spelt_spelt casing], least, most⟩
  suffices step : (∀ s ∈ (task.step p turn.env w.state).2.staff.rows, s ∈ w.state.staff.rows ∨ s ∈ task.pending) ∧
      ∀ row ∈ (task.step p turn.env w.state).1.pending, Named p w.state row by
    refine ⟨fun s member => ?_, fun other member row waits => ?_⟩
    · rcases step.1 s member with old | new
      · exact stored s old
      · exact own s new
    · rcases List.mem_or_eq_of_mem_set member with old | rfl
      · exact pending other old row waits
      · exact named (step.2 row waits)
  cases task with
  | staff task => exact staffTask_named
  | updateStaff request =>
    simp only [NameTask.step]
    split
    · exact ⟨fun s member => .inl member, fun row absent => by simp [NameTask.pending, StaffTask.pending] at absent⟩
    · next row rest run =>
      have prepared : Does (prepareUpdate p turn.env request) w.state row rest.1 rest.2 := run
      refine ⟨fun s member => .inl member, fun other same => ?_⟩
      obtain rfl : row = other := Option.some.inj same
      have name := prepareUpdate_named prepared
      obtain ⟨least, most⟩ := inRange ⟨_, _, _, prepared⟩
      exact .inr ⟨request.username, name, by rw [name]; exact least, by rw [name]; exact most⟩
  | updating row =>
    obtain ⟨none, rows⟩ := written_named (.update row) .error w.state
    refine ⟨rows, fun other waits => ?_⟩
    have absent : other ∈ (written (.update row) Except.error w.state).1.pending := waits
    rw [none] at absent
    contradiction

end Writers

/-- A login under any variant of the member's name looks up the member. -/
def LoginFinds (p : Platform) (t : Roster) (s : Staff) : Prop :=
  ∀ typed password (d : LoginDesk), Variant p s.username typed → d.staff = t →
    ((⟨typed, password, .admitted⟩ : LoginCall).act p d).1 = ⟨typed, password, .found s⟩

theorem findUsername_row {t : Roster} {s : Staff} (member : s ∈ t.rows) : t.findUsername s.username = some s := by
  cases found : t.findUsername s.username with
  | none =>
    have absent := List.find?_eq_none.mp found s member
    simp at absent
  | some other =>
    have same : other.username = s.username := by simpa using List.find?_some found
    rw [List.inj_on_of_nodup_map t.usernames (List.mem_of_find?_eq_some found) member same]

theorem loginFinds_canonical {p : Platform} {t : Roster} {s : Staff} (casing : Casing p) (member : s ∈ t.rows)
    (canonical : Canonical p s.username) (active : s.active = true) : LoginFinds p t s := by
  rintro typed password d variant rfl
  have name : (⟨typed, password, .admitted⟩ : LoginCall).name p = s.username :=
    (variant.spelt casing).trans canonical.spelt
  simp only [LoginCall.act, name, findUsername_row member, if_pos active, LoginCall.at]

/-- In every interleaving whose edits have names in range as they are spelt, every name
that is stored stays canonical, and a login finds every active member. -/
theorem usernames_canonical (p : Platform) (casing : Casing p) (world : NameWorld) (start : NamesCanonical p world)
    (front back : List (Turn StaffEnv)) (inRange : Meets (NameTask.step p) (SpeltInRange p) (front ++ back) world) :
    ∀ s ∈ (run (NameTask.step p) front world).state.staff.rows, Canonical p s.username ∧
      (s.active = true → LoginFinds p (run (NameTask.step p) front world).state.staff s) := by
  have names : NamesCanonical p (run (NameTask.step p) front world) :=
    run_keeps (NamesCanonical p) (fun _ _ _ names here allowed => step_canonical casing names here allowed) start
      inRange.front
  intro s member
  exact ⟨names.1 s member, loginFinds_canonical casing member (names.1 s member)⟩

/-- Calls that have not begun, on a table without accounts. -/
theorem names_start (p : Platform) (db : StaffStore) (empty : db.staff.rows = []) (tasks : List NameTask)
    (fresh : ∀ task ∈ tasks, task.pending = none) : NamesCanonical p ⟨db, tasks⟩ := by
  refine ⟨fun s member => ?_, fun task member row waits => ?_⟩
  · rw [empty] at member
    contradiction
  · rw [fresh task member] at waits
    contradiction

section Office

/-- A new shop: its first start, and then an edit of the administrator's name. -/
def opening (username : String) : NameWorld :=
  ⟨⟨.empty, Store.empty⟩,
    [.staff .seedDefaultAdmin, .updateStaff { defaultAdmin with id := "fresh", username := username }]⟩

def openingTurns (turns : List Nat) : List (Turn StaffEnv) := turns.map fun call => ⟨call, session "fresh" .admin⟩

theorem opening_start (username : String) : NamesCanonical host (opening username) := by
  refine names_start host _ rfl _ fun task member => ?_
  rcases List.mem_cons.mp member with rfl | member
  · rfl
  · rw [List.mem_singleton.mp member]
    rfl

theorem toLower_toNat (c : Char) :
    c.toLower.toNat = if 65 ≤ c.toNat ∧ c.toNat ≤ 90 then c.toNat + 32 else c.toNat := by
  have bounds : (c.val ≥ 'A'.val ∧ c.val ≤ 'Z'.val) ↔ 65 ≤ c.toNat ∧ c.toNat ≤ 90 := by
    rw [ge_iff_le, UInt32.le_iff_toNat_le, UInt32.le_iff_toNat_le]
    exact Iff.rfl
  unfold Char.toLower
  split
  · next upper =>
    obtain ⟨low, high⟩ := bounds.mp upper
    rw [if_pos ⟨low, high⟩]
    have sum : (c.val + ('a'.val - 'A'.val)).toNat = (c.toNat + 32) % 2^32 := UInt32.toNat_add _ _
    exact sum.trans (Nat.mod_eq_of_lt (by omega))
  · next other => rw [if_neg fun upper => other (bounds.mpr upper)]

theorem host_casing : Casing host := by
  have checked : whiteSpace.all (fun c =>
      ¬ (97 ≤ c.toNat ∧ c.toNat ≤ 122) ∧ ¬ (65 ≤ c.toNat ∧ c.toNat ≤ 90)) = true := by decide
  have letters : ∀ c ∈ whiteSpace, ¬ (97 ≤ c.toNat ∧ c.toNat ≤ 122) ∧ ¬ (65 ≤ c.toNat ∧ c.toNat ≤ 90) :=
    fun c member => of_decide_eq_true (List.all_eq_true.mp checked c member)
  have other {c : Char} (capital : ¬ (65 ≤ c.toNat ∧ c.toNat ≤ 90)) : c.toLower = c := by
    apply Char.toNat_inj.mp
    rw [toLower_toNat, if_neg capital]
  have lowered (c : Char) : ¬ (65 ≤ c.toLower.toNat ∧ c.toLower.toNat ≤ 90) := by
    rw [toLower_toNat]
    split <;> omega
  refine ⟨fun c => other (lowered c), fun c => ?_⟩
  change c.toLower ∈ whiteSpace ↔ c ∈ whiteSpace
  by_cases capital : 65 ≤ c.toNat ∧ c.toNat ≤ 90
  · refine iff_of_false (fun blank => (letters _ blank).1 ?_) fun blank => (letters c blank).2 capital
    rw [toLower_toNat, if_pos capital]
    omega
  · rw [other capital]

end Office

/-- The administrator of a new shop, renamed, is found. -/
theorem usernames_canonical_opening : LoginFinds host
    (run (NameTask.step host) (openingTurns [0, 0, 0, 1, 1]) (opening " Root ")).state.staff
    { defaultAdmin with id := "fresh", username := "root", passwordHash := "s$0000", permissions := RolePermissions .admin } := by
  refine (usernames_canonical host host_casing (opening " Root ") (opening_start _) (openingTurns [0, 0, 0, 1, 1]) []
    ?_ _ ?_).2 rfl <;> decide +kernel

/-- Three characters as they are typed, and one as it is stored. -/
theorem usernames_shortened : ¬ ∀ (p : Platform) (world : NameWorld), Casing p → NamesCanonical p world →
    ∀ schedule, ∀ s ∈ (run (NameTask.step p) schedule world).state.staff.rows, Canonical p s.username := by
  intro canonical
  have stored : { defaultAdmin with id := "fresh", username := "x", passwordHash := "s$0000", permissions := RolePermissions .admin } ∈
      (run (NameTask.step host) (openingTurns [0, 0, 0, 1, 1]) (opening " X ")).state.staff.rows := by decide +kernel
  have short := (canonical host (opening " X ") host_casing (opening_start _) _ _ stored).least
  exact absurd short (by decide)

end BeidarPos
