import BeidarPos.CloudSession
import BeidarPos.Table

/-! Backups in the cloud. A backup is a set of rows, one for each chunk, under one id; the
newest one makes room by deleting the oldest, and is uploaded with its first chunk last, so
that it is not listed before it is whole. -/
namespace BeidarPos

open Relational

/-- A row of `user_backups`. The server stamps it with the time of its insertion. -/
structure BackupRow where
  id : String
  backupID : String
  userID : String
  storeName : String
  chunkIndex : Nat
  totalChunks : Nat
  totalSize : Nat
  data : String
  createdAt : Nat
  deriving DecidableEq

/-- The table at the server, whose clock is ahead of every row. -/
structure BackupStore where
  table : Table BackupRow.id
  clock : Nat
  past : ∀ row ∈ table.rows, row.createdAt < clock

/-- What became of a request: whether the server carried it out, and the status or the
failure its sender saw. -/
structure Fate where
  applied : Bool
  answer : Except String Int

structure CloudBackup where
  id : String
  userID : String
  storeName : String
  sizeBytes : Nat
  chunks : Nat
  createdAt : Nat
  deriving DecidableEq

/-- What a listing decodes to: the rows that were asked for, or something else. -/
inductive ListBody where
  | rows
  | other (backups : List CloudBackup)

/-- The packed database: its size, and its text in base 64. -/
structure Package where
  size : Nat
  encoded : String

/-- What a backup call meets. `refresh` and `lock` are the answers in the order of the
checks that ask for them, `upload` is the fate of each chunk. -/
structure BackupEnv where
  now : Int
  stamp : String
  refresh : Nat → Answer TokenBody
  lock : Nat → Answer (List String)
  list : Answer ListBody
  delete : Fate
  compressed : Except String Package
  upload : Nat → Fate

structure Cloud where
  device : Device
  store : BackupStore

inductive BackupOutcome where
  | ok
  | error (message : String)
  | crashed
  deriving DecidableEq

def MaxBackupSizeMB : Int := 1

def MaxBackupsPerUser : Int := 1

def MaxChunkSize : Nat := 700 * 1024

namespace BackupStore

variable (s : BackupStore)

/-- Inserts a row under the time of the clock, or refuses because its id is taken. -/
def insert? (row : Nat → BackupRow) (stamped : ∀ n, (row n).createdAt = n) : Option BackupStore :=
  match inserted : s.table.insert? (row s.clock) with
  | none => none
  | some table => some {
      table := table
      clock := s.clock + 1
      past := by
        intro r member
        rw [(Table.insert?_rows inserted).1] at member
        rcases List.mem_append.mp member with old | new
        · exact Nat.lt_succ_of_lt (s.past r old)
        · rw [List.mem_singleton.mp new, stamped]
          exact Nat.lt_succ_self _ }

def delete (backupID userID : String) : BackupStore where
  table := s.table.filter (fun row => ¬ (row.backupID = backupID ∧ row.userID = userID))
  clock := s.clock
  past := fun row member => s.past row (List.mem_filter.mp member).1

/-- The rows of one backup. -/
def rowsOf (userID backupID : String) : List BackupRow :=
  s.table.rows.filter (fun row => row.userID = userID ∧ row.backupID = backupID)

/-- The first chunks of a user's backups, newest first. -/
def listed (userID : String) : List CloudBackup :=
  ((s.table.rows.filter (fun row => row.userID = userID ∧ row.chunkIndex = 0)).insertionSort
    (fun a b => b.createdAt ≤ a.createdAt)).map
      fun row => ⟨row.backupID, row.userID, row.storeName, row.totalSize, row.totalChunks, row.createdAt⟩

end BackupStore

section Calls

variable (env : BackupEnv)

/-- The session checks every backup call starts with; `turn` counts them. -/
def signedIn (turn : Nat) (d : Device) : Except String UserSession × Device :=
  match d.isLoggedIn env.now (env.refresh turn) with
  | (false, d) => (.error "يجب تسجيل الدخول أولاً", d)
  | (true, d) =>
    match d.verifySessionLock (env.lock turn) with
    | (.error e, d) => (.error e, d)
    | (.ok _, d) =>
      match d.getLocalSession with
      | (some session, d) => (.ok session, d)
      | (none, d) => (.error "not logged in", d) -- the lock was checked on a session

def listCloudBackupsForUser (c : Cloud) : Except String (List CloudBackup) × Cloud :=
  match signedIn env 1 c.device with
  | (.error e, d) => (.error e, { c with device := d })
  | (.ok session, d) =>
    match env.list with
    | .error e => (.error e, { c with device := d })
    | .ok reply =>
      if reply.status = 401 then (.error "انتهت صلاحية الجلسة", { c with device := d.logout })
      else
        match reply.body with
        | .rows => (.ok (c.store.listed session.userID), { c with device := d })
        | .other backups => (.ok backups, { c with device := d })

/-- The status of the answer is not looked at. -/
def deleteCloudBackup (backupID : String) (c : Cloud) : Except String Unit × Cloud :=
  match signedIn env 2 c.device with
  | (.error e, d) => (.error e, { c with device := d })
  | (.ok session, d) =>
    (env.delete.answer.map fun _ => (),
      ⟨d, if env.delete.applied = true then c.store.delete backupID session.userID else c.store⟩)

def UserSession.limitCount (session : UserSession) : Int :=
  if 0 < session.maxBackups then session.maxBackups else MaxBackupsPerUser

def UserSession.limitMB (session : UserSession) : Int :=
  if 0 < session.backupLimitMB then session.backupLimitMB else MaxBackupSizeMB

/-- Deletes the last one listed when there are as many as allowed. -/
def makeRoom (session : UserSession) (c : Cloud) : Cloud :=
  match listCloudBackupsForUser env c with
  | (.error _, c) => c
  | (.ok backups, c) =>
    if session.limitCount ≤ backups.length then
      match backups.getLast? with
      | none => c
      | some oldest => (deleteCloudBackup env oldest.id c).2
    else c

def splitChars (chunkSize : Nat) : Nat → List Char → List String
  | 0, _ => []
  | fuel + 1, s =>
    if s = [] then [] else String.ofList (s.take chunkSize) :: splitChars chunkSize fuel (s.drop chunkSize)

/-- Pieces of the given size, and what is left. Every piece is a character or more, so the
length is fuel enough. -/
def splitStringIntoChunks (s : String) (chunkSize : Nat) : List String :=
  splitChars chunkSize s.toList.length s.toList

/-- Chunks 1, 2, … and chunk 0 last. -/
def uploadOrder (count : Nat) : List Nat := if 1 < count then List.range' 1 (count - 1) ++ [0] else [0]

def UserSession.backupID (session : UserSession) (stamp : String) : String :=
  String.ofList (session.userID.toList.take 8) ++ "_" ++ stamp

def chunkRow (session : UserSession) (stamp : String) (package : Package) (chunks : List String) (i created : Nat) :
    BackupRow :=
  ⟨session.backupID stamp ++ "_chunk_" ++ toString i, session.backupID stamp, session.userID, session.storeName, i,
    chunks.length, package.size, chunks.getD i "", created⟩

/-- A request to insert; an id that is taken is answered with 409. -/
def post (fate : Fate) (row : Nat → BackupRow) (stamped : ∀ n, (row n).createdAt = n) (s : BackupStore) :
    Except String Int × BackupStore :=
  if fate.applied = true then
    match s.insert? row stamped with
    | none => (fate.answer.map fun _ => 409, s)
    | some s' => (fate.answer, s')
  else (fate.answer, s)

def uploadChunks (row : Nat → Nat → BackupRow) (stamped : ∀ i n, (row i n).createdAt = n) :
    List Nat → BackupStore → BackupOutcome × BackupStore
  | [], s => (.ok, s)
  | i :: rest, s =>
    match post (env.upload i) (row i) (stamped i) s with
    | (.error e, s') => (.error ("فشل رفع الجزء " ++ toString (i + 1) ++ ": " ++ e), s')
    | (.ok status, s') =>
      if 400 ≤ status then
        (.error ("فشل رفع الجزء " ++ toString (i + 1) ++ " (HTTP " ++ toString status ++ ")"), s')
      else uploadChunks row stamped rest s'

def uploadBackup (session : UserSession) (s : BackupStore) : BackupOutcome × BackupStore :=
  match env.compressed with
  | .error e => (.error ("فشل ضغط قاعدة البيانات: " ++ e), s)
  | .ok package =>
    if session.limitMB * (1024 * 1024) < package.size then
      (.error ("حجم النسخة تجاوز الحد المسموح (" ++ toString session.limitMB ++
        " ميجابايت). يرجى التواصل مع الإدارة لتمديد الاشتراك"), s)
    else if session.userID.utf8ByteSize < 8 then (.crashed, s)
    else
      match splitStringIntoChunks package.encoded MaxChunkSize with
      | [] => (.crashed, s)
      | chunk :: chunks =>
        uploadChunks env (chunkRow session env.stamp package (chunk :: chunks)) (fun _ _ => rfl)
          (uploadOrder (chunks.length + 1)) s

def cloudBackupNow (c : Cloud) : BackupOutcome × Cloud :=
  match signedIn env 0 c.device with
  | (.error e, d) => (.error e, { c with device := d })
  | (.ok session, d) =>
    let room := makeRoom env session { c with device := d }
    let uploaded := uploadBackup env session room.store
    (uploaded.1, { room with store := uploaded.2 })

end Calls

section Sessions

variable {env : BackupEnv} {d d' : Device} {session : UserSession} {turn : Nat}

/-- A passed check leaves the device with the session it passed for. -/
theorem signedIn_ok (passed : signedIn env turn d = (.ok session, d')) :
    d.user = some session.userID ∧ d'.currentSession = some session := by
  unfold signedIn at passed
  split at passed
  · cases passed
  · rename_i logged
    obtain ⟨old, new, loaded, current, user, _, _⟩ := isLoggedIn_true logged
    split at passed
    · cases passed
    · rename_i locked
      obtain rfl := verifySessionLock_ok locked
      unfold Device.getLocalSession at passed
      have shown := loaded_of_current (loaded_of_current current)
      rw [shown] at passed
      obtain ⟨ok, rfl⟩ := Prod.mk.inj passed
      cases ok
      refine ⟨?_, shown⟩
      rw [Device.user, loaded]
      simp [user]

end Sessions

section Stores

variable {s s' : BackupStore} {user id : String}

theorem insert?_rows {row : Nat → BackupRow} {stamped : ∀ n, (row n).createdAt = n}
    (inserted : s.insert? row stamped = some s') :
    s'.table.rows = s.table.rows ++ [row s.clock] ∧ s'.clock = s.clock + 1 := by
  unfold BackupStore.insert? at inserted
  split at inserted
  · cases inserted
  · rename_i table found
    cases inserted
    exact ⟨(Table.insert?_rows found).1, rfl⟩

theorem insert?_refused {row : Nat → BackupRow} {stamped : ∀ n, (row n).createdAt = n} :
    s.insert? row stamped = none ↔ s.table.find? (row s.clock).id ≠ none := by
  unfold BackupStore.insert?
  split
  · rename_i refused
    obtain ⟨old, taken⟩ := Table.insert?_none.mp refused
    simp [taken]
  · rename_i table inserted
    simp [(Table.insert?_rows inserted).2]

theorem rowsOf_delete (backupID owner : String) :
    (s.delete backupID owner).rowsOf user id =
      if user = owner ∧ id = backupID then [] else s.rowsOf user id := by
  unfold BackupStore.rowsOf BackupStore.delete Table.filter
  rw [List.filter_filter]
  split
  · rename_i same
    obtain ⟨rfl, rfl⟩ := same
    rw [List.filter_eq_nil_iff]
    intro row _ both
    simp only [Bool.and_eq_true, decide_eq_true_eq] at both
    exact both.2 ⟨both.1.2, both.1.1⟩
  · rename_i other
    refine List.filter_congr fun row _ => ?_
    rw [Bool.eq_iff_iff]
    simp only [Bool.and_eq_true, decide_eq_true_eq]
    constructor
    · exact fun both => both.1
    · rintro ⟨rfl, rfl⟩
      exact ⟨⟨rfl, rfl⟩, fun deleted => other ⟨deleted.2, deleted.1⟩⟩

theorem rowsOf_append {extra : List BackupRow} (rows : s'.table.rows = s.table.rows ++ extra) :
    s'.rowsOf user id = s.rowsOf user id ++ extra.filter (fun row => row.userID = user ∧ row.backupID = id) := by
  unfold BackupStore.rowsOf
  rw [rows, List.filter_append]

end Stores

section Uploads

variable {env : BackupEnv} {s s' : BackupStore} {row : Nat → Nat → BackupRow}
  {stamped : ∀ i n, (row i n).createdAt = n}

/-- A chunk gets to the server: of those sent in this order, the first that is carried out
finds its id free, and the ones before it were answered as if they had been. -/
def Lands (env : BackupEnv) (row : Nat → Nat → BackupRow) (s : BackupStore) : List Nat → Prop
  | [] => False
  | i :: rest =>
    if (env.upload i).applied = true then s.table.find? (row i s.clock).id = none
    else ∃ status, (env.upload i).answer = .ok status ∧ status < 400 ∧ Lands env row s rest

/-- A request that is not carried out, or whose id is taken, leaves the table. -/
theorem post_unapplied {fate : Fate} (unapplied : ¬ fate.applied = true) :
    post fate (row i) (stamped i) s = (fate.answer, s) := by
  rw [post, if_neg unapplied]

theorem post_taken {fate : Fate} (applied : fate.applied = true) (taken : s.table.find? (row i s.clock).id ≠ none) :
    post fate (row i) (stamped i) s = (fate.answer.map fun _ => 409, s) := by
  rw [post, if_pos applied, insert?_refused.mpr taken]

theorem post_inserted {fate : Fate} (applied : fate.applied = true)
    (free : s.table.find? (row i s.clock).id = none) :
    ∃ next, post fate (row i) (stamped i) s = (fate.answer, next) ∧
      next.table.rows = s.table.rows ++ [row i s.clock] ∧ next.clock = s.clock + 1 := by
  cases inserted : s.insert? (row i) (stamped i) with
  | none => exact absurd free (insert?_refused.mp inserted)
  | some next => exact ⟨next, by rw [post, if_pos applied, inserted], insert?_rows inserted⟩

/-- An upload only adds rows of its own, younger than every other. -/
theorem uploadChunks_rows (order : List Nat) :
    ∃ extra, (uploadChunks env row stamped order s).2.table.rows = s.table.rows ++ extra ∧
      ∀ r ∈ extra, s.clock ≤ r.createdAt ∧ ∃ i n, r = row i n := by
  induction order generalizing s with
  | nil => exact ⟨[], by simp [uploadChunks], by simp⟩
  | cons i rest ih =>
    have goesOn : ∀ (answer : Except String Int) (next : BackupStore) (extra : List BackupRow),
        post (env.upload i) (row i) (stamped i) s = (answer, next) →
        next.table.rows = s.table.rows ++ extra → s.clock ≤ next.clock →
        (∀ r ∈ extra, s.clock ≤ r.createdAt ∧ ∃ i n, r = row i n) →
        ∃ extra, (uploadChunks env row stamped (i :: rest) s).2.table.rows = s.table.rows ++ extra ∧
          ∀ r ∈ extra, s.clock ≤ r.createdAt ∧ ∃ i n, r = row i n := by
      intro answer next extra posted rows later own
      rw [uploadChunks, posted]
      cases answer with
      | error e => exact ⟨extra, rows, own⟩
      | ok status =>
        by_cases refused : 400 ≤ status
        · simp only [refused, if_true]
          exact ⟨extra, rows, own⟩
        · simp only [refused, if_false]
          obtain ⟨more, rows', own'⟩ := @ih next
          refine ⟨extra ++ more, by rw [rows', rows, List.append_assoc], ?_⟩
          intro r member
          rcases List.mem_append.mp member with early | late
          · exact own r early
          · exact ⟨later.trans (own' r late).1, (own' r late).2⟩
    by_cases applied : (env.upload i).applied = true
    · cases found : s.table.find? (row i s.clock).id with
      | none =>
        obtain ⟨next, posted, rows, clock⟩ := @post_inserted s row stamped i _ applied found
        refine goesOn _ next [row i s.clock] posted rows (by omega) ?_
        intro r member
        rw [List.mem_singleton.mp member]
        exact ⟨(stamped i s.clock).ge, i, s.clock, rfl⟩
      | some old =>
        exact goesOn _ s [] (post_taken applied (by simp [found])) (by simp) le_rfl (by simp)
    · exact goesOn _ s [] (post_unapplied applied) (by simp) le_rfl (by simp)

/-- An upload leaves the table exactly when none of its chunks gets there. -/
theorem uploadChunks_unchanged (order : List Nat) :
    (uploadChunks env row stamped order s).2.table.rows = s.table.rows ↔ ¬ Lands env row s order := by
  induction order generalizing s with
  | nil => simp [uploadChunks, Lands]
  | cons i rest ih =>
    by_cases applied : (env.upload i).applied = true
    · rw [Lands, if_pos applied]
      cases found : s.table.find? (row i s.clock).id with
      | none =>
        obtain ⟨next, posted, rows, _⟩ := @post_inserted s row stamped i _ applied found
        have grows : ∃ more, (uploadChunks env row stamped (i :: rest) s).2.table.rows =
            s.table.rows ++ row i s.clock :: more := by
          rw [uploadChunks, posted]
          cases (env.upload i).answer with
          | error e => exact ⟨[], rows⟩
          | ok status =>
            by_cases refused : 400 ≤ status
            · simp only [refused, if_true]
              exact ⟨[], rows⟩
            · simp only [refused, if_false]
              obtain ⟨more, rows', _⟩ := @uploadChunks_rows env next row stamped rest
              exact ⟨more, by rw [rows', rows]; simp⟩
        obtain ⟨more, longer⟩ := grows
        rw [longer]
        simp
      | some old =>
        rw [uploadChunks, post_taken applied (by simp [found])]
        cases (env.upload i).answer <;> simp [Except.map]
    · rw [Lands, if_neg applied, uploadChunks, post_unapplied applied]
      cases (env.upload i).answer with
      | error e => simp
      | ok status =>
        by_cases refused : 400 ≤ status
        · simp only [refused, if_true]
          simp only [Except.ok.injEq, exists_eq_left', not_and, true_iff]
          intro passed
          omega
        · have passed : status < 400 := not_le.mp refused
          simp only [refused, if_false, ih]
          simp [passed]

end Uploads

section Kept

/-- All chunks of a backup are there, and nothing else under its id. -/
def Complete (rows : List BackupRow) : Prop :=
  rows ≠ [] ∧ (∀ row ∈ rows, row.totalChunks = rows.length) ∧
    (rows.map BackupRow.chunkIndex).Perm (List.range rows.length)

/-- Every backup that could be restored can be, from the same rows. -/
def BackupsKept (before after : BackupStore) : Prop :=
  ∀ user id, Complete (before.rowsOf user id) → after.rowsOf user id = before.rowsOf user id

variable (env : BackupEnv)

/-- The backup whose rows the server deletes to make room, when it does. -/
def oldestDeleted (session : UserSession) (c : Cloud) : Option String :=
  match listCloudBackupsForUser env c with
  | (.error _, _) => none
  | (.ok backups, c) =>
    if session.limitCount ≤ backups.length ∧ env.delete.applied = true ∧ (signedIn env 2 c.device).1.isOk = true then
      backups.getLast?.map CloudBackup.id
    else none

/-- The upload gets under way and one of its chunks gets to the server. -/
def ChunkLands (session : UserSession) (s : BackupStore) : Prop :=
  ∃ package chunk chunks, env.compressed = .ok package ∧
    ¬ session.limitMB * (1024 * 1024) < package.size ∧ ¬ session.userID.utf8ByteSize < 8 ∧
    splitStringIntoChunks package.encoded MaxChunkSize = chunk :: chunks ∧
    Lands env (chunkRow session env.stamp package (chunk :: chunks)) s (uploadOrder (chunks.length + 1))

/-- The call deletes no whole backup and adds nothing to one. -/
structure SparesBackups (c : Cloud) : Prop where
  deletion : ∀ session d id, signedIn env 0 c.device = (.ok session, d) →
    oldestDeleted env session { c with device := d } = some id → ¬ Complete (c.store.rowsOf session.userID id)
  upload : ∀ session d, signedIn env 0 c.device = (.ok session, d) →
    Complete (c.store.rowsOf session.userID (session.backupID env.stamp)) →
      ¬ ChunkLands env session (makeRoom env session { c with device := d }).store

variable {env} {c : Cloud} {session : UserSession}

theorem uploadBackup_rows (s : BackupStore) :
    ∃ extra, (uploadBackup env session s).2.table.rows = s.table.rows ++ extra ∧
      (∀ r ∈ extra, s.clock ≤ r.createdAt ∧ r.userID = session.userID ∧ r.backupID = session.backupID env.stamp) ∧
      (extra = [] ↔ ¬ ChunkLands env session s) := by
  have quiet : ¬ ChunkLands env session s → (uploadBackup env session s).2.table.rows = s.table.rows →
      ∃ extra, (uploadBackup env session s).2.table.rows = s.table.rows ++ extra ∧
        (∀ r ∈ extra, s.clock ≤ r.createdAt ∧ r.userID = session.userID ∧ r.backupID = session.backupID env.stamp) ∧
        (extra = [] ↔ ¬ ChunkLands env session s) :=
    fun idle same => ⟨[], by simpa using same, by simp, by simpa using idle⟩
  cases packed : env.compressed with
  | error e =>
    refine quiet ?_ (by simp only [uploadBackup, packed])
    rintro ⟨package, _, _, same, _⟩
    rw [packed] at same
    cases same
  | ok package =>
    by_cases large : session.limitMB * (1024 * 1024) < package.size
    · refine quiet ?_ (by simp only [uploadBackup, packed, large, if_true])
      rintro ⟨package', _, _, same, fits, _⟩
      rw [packed] at same
      cases same
      exact fits large
    · by_cases short : session.userID.utf8ByteSize < 8
      · refine quiet ?_ (by simp only [uploadBackup, packed, large, short, if_false, if_true])
        rintro ⟨_, _, _, _, _, long, _⟩
        exact long short
      · cases split : splitStringIntoChunks package.encoded MaxChunkSize with
        | nil =>
          refine quiet ?_ (by simp only [uploadBackup, packed, large, short, if_false, split])
          rintro ⟨package', _, _, same, _, _, some, _⟩
          rw [packed] at same
          cases same
          rw [split] at some
          cases some
        | cons chunk chunks =>
          have lands : ChunkLands env session s ↔
              Lands env (chunkRow session env.stamp package (chunk :: chunks)) s (uploadOrder (chunks.length + 1)) := by
            constructor
            · rintro ⟨package', chunk', chunks', same, _, _, parts, lands⟩
              rw [packed] at same
              cases same
              rw [split] at parts
              cases parts
              exact lands
            · exact fun lands => ⟨package, chunk, chunks, packed, large, short, split, lands⟩
          have runs : uploadBackup env session s = uploadChunks env
              (chunkRow session env.stamp package (chunk :: chunks)) (fun _ _ => rfl)
              (uploadOrder (chunks.length + 1)) s := by
            simp only [uploadBackup, packed, large, short, if_false, split]
          rw [runs, lands]
          obtain ⟨extra, rows, own⟩ := @uploadChunks_rows env s
            (chunkRow session env.stamp package (chunk :: chunks)) (fun _ _ => rfl) (uploadOrder (chunks.length + 1))
          refine ⟨extra, rows, ?_, ?_⟩
          · intro r member
            obtain ⟨later, i, n, rfl⟩ := own r member
            exact ⟨later, rfl, rfl⟩
          · have unchanged := @uploadChunks_unchanged env s (chunkRow session env.stamp package (chunk :: chunks))
              (fun _ _ => rfl) (uploadOrder (chunks.length + 1))
            rw [← unchanged, rows]
            simp

/-- Listing leaves the table, and the device with its user where it goes on. -/
theorem list_store : (listCloudBackupsForUser env c).2.store = c.store := by
  unfold listCloudBackupsForUser
  split
  · rfl
  · split
    · rfl
    · split
      · rfl
      · split <;> rfl

theorem list_user {backups : List CloudBackup} {c' : Cloud} (listed : listCloudBackupsForUser env c = (.ok backups, c')) :
    c'.device.user = c.device.user := by
  unfold listCloudBackupsForUser at listed
  split at listed
  · cases listed
  · rename_i other d passed
    obtain ⟨user, current⟩ := signedIn_ok passed
    have same : d.user = c.device.user := (user_of_current current).trans user.symm
    split at listed
    · cases listed
    · split at listed
      · cases listed
      · split at listed <;> (obtain ⟨-, rfl⟩ := Prod.mk.inj listed; exact same)

/-- Making room is the deletion of the oldest backup, or nothing. -/
theorem makeRoom_store (owner : c.device.user = some session.userID) :
    (makeRoom env session c).store =
      match oldestDeleted env session c with
      | none => c.store
      | some id => c.store.delete id session.userID := by
  have kept := @list_store env c
  unfold makeRoom oldestDeleted
  cases listing : listCloudBackupsForUser env c with
  | mk listed c' =>
    rw [listing] at kept
    cases listed with
    | error e => exact kept
    | ok backups =>
      have user : c'.device.user = some session.userID := (list_user listing).trans owner
      dsimp only at kept ⊢
      by_cases full : session.limitCount ≤ backups.length
      · rw [if_pos full]
        cases last : backups.getLast? with
        | none =>
          simp only [Option.map_none, ite_self]
          exact kept
        | some oldest =>
          dsimp only [deleteCloudBackup]
          cases passed : signedIn env 2 c'.device with
          | mk checked d =>
            cases checked with
            | error e =>
              rw [if_neg (fun all => by simpa [Except.isOk, Except.toBool] using all.2.2)]
              exact kept
            | ok again =>
              have same : again.userID = session.userID :=
                Option.some_inj.mp ((signedIn_ok passed).1.symm.trans user)
              by_cases applied : env.delete.applied = true
              · rw [if_pos ⟨full, applied, rfl⟩]
                simp only [applied, if_true, Option.map_some, same, kept]
              · rw [if_neg (fun all => applied all.2.1)]
                simp only [applied, Bool.false_eq_true, if_false, kept]
      · rw [if_neg full, if_neg (fun all => full all.1)]
        exact kept

/-- A row of a whole backup is older than the clock. -/
theorem rowsOf_past {s : BackupStore} {user id : String} {row : BackupRow} (member : row ∈ s.rowsOf user id) :
    row.createdAt < s.clock :=
  s.past row (List.mem_filter.mp member).1

/-- From the state a call found to the one it left: what it deleted, and what it added. -/
theorem backup_rows {d : Device} (passed : signedIn env 0 c.device = (.ok session, d)) :
    ∃ extra, (∀ user id, (cloudBackupNow env c).2.store.rowsOf user id =
        (if user = session.userID ∧ oldestDeleted env session { c with device := d } = some id then []
          else c.store.rowsOf user id) ++ extra.filter (fun row => row.userID = user ∧ row.backupID = id)) ∧
      (∀ r ∈ extra, c.store.clock ≤ r.createdAt ∧ r.userID = session.userID ∧
        r.backupID = session.backupID env.stamp) ∧
      (extra = [] ↔ ¬ ChunkLands env session (makeRoom env session { c with device := d }).store) := by
  have room := @makeRoom_store env { c with device := d } session (user_of_current (signedIn_ok passed).2)
  obtain ⟨extra, rows, own, idle⟩ := @uploadBackup_rows env session (makeRoom env session { c with device := d }).store
  have clock : (makeRoom env session { c with device := d }).store.clock = c.store.clock := by
    rw [room]
    cases oldestDeleted env session { c with device := d } <;> rfl
  refine ⟨extra, ?_, ?_, idle⟩
  · intro user id
    have next : (cloudBackupNow env c).2.store =
        (uploadBackup env session (makeRoom env session { c with device := d }).store).2 := by
      simp only [cloudBackupNow, passed]
    rw [next, rowsOf_append rows, room]
    congr 1
    cases deleted : oldestDeleted env session { c with device := d } with
    | none => simp
    | some oldest =>
      dsimp only
      rw [rowsOf_delete]
      by_cases same : user = session.userID ∧ id = oldest
      · rw [if_pos same, if_pos ⟨same.1, by rw [same.2]⟩]
      · rw [if_neg same, if_neg (fun both => same ⟨both.1, (Option.some_inj.mp both.2).symm⟩)]
  · intro r member
    obtain ⟨later, owner, name⟩ := own r member
    exact ⟨clock ▸ later, owner, name⟩

end Kept

/-- A backup call leaves every whole backup exactly when it deletes none of them and adds
nothing to one. -/
theorem backup_kept (env : BackupEnv) (c : Cloud) :
    BackupsKept c.store (cloudBackupNow env c).2.store ↔ SparesBackups env c := by
  cases passed : signedIn env 0 c.device with
  | mk checked d =>
    cases checked with
    | error e =>
      have same : (cloudBackupNow env c).2.store = c.store := by simp only [cloudBackupNow, passed]
      rw [same]
      exact ⟨fun _ => ⟨by simp [passed], by simp [passed]⟩, fun _ _ _ _ => rfl⟩
    | ok session =>
      obtain ⟨extra, rows, own, idle⟩ := backup_rows passed
      have mine : ∀ session' d', signedIn env 0 c.device = (.ok session', d') → session' = session ∧ d' = d := by
        intro session' d' passed'
        rw [passed] at passed'
        cases passed'
        exact ⟨rfl, rfl⟩
      constructor
      · intro kept
        refine ⟨?_, ?_⟩
        · intro session' d' id passed' deleted complete
          obtain ⟨rfl, rfl⟩ := mine session' d' passed'
          have same := kept session'.userID id complete
          rw [rows, if_pos ⟨rfl, deleted⟩, List.nil_append] at same
          obtain ⟨row, member⟩ := List.exists_mem_of_ne_nil _ complete.1
          have old := rowsOf_past member
          rw [← same] at member
          have new := (own row (List.mem_filter.mp member).1).1
          omega
        · intro session' d' passed' complete lands
          obtain ⟨rfl, rfl⟩ := mine session' d' passed'
          have some : extra ≠ [] := fun none => idle.mp none lands
          have all : extra.filter (fun row => row.userID = session'.userID ∧ row.backupID = session'.backupID env.stamp) =
              extra := by
            refine List.filter_eq_self.mpr fun row member => ?_
            simpa using (own row member).2
          have same := kept session'.userID (session'.backupID env.stamp) complete
          rw [rows, all] at same
          split at same
          · obtain ⟨row, member⟩ := List.exists_mem_of_ne_nil _ some
            have new := (own row member).1
            have old := rowsOf_past (same ▸ List.mem_append_right _ member)
            omega
          · exact some (List.append_cancel_left (same.trans (List.append_nil _).symm))
      · intro spares user id complete
        rw [rows]
        have undeleted : ¬ (user = session.userID ∧ oldestDeleted env session { c with device := d } = some id) := by
          rintro ⟨rfl, deleted⟩
          exact spares.deletion session d id passed deleted complete
        rw [if_neg undeleted]
        have nothing : extra.filter (fun row => row.userID = user ∧ row.backupID = id) = [] := by
          refine List.filter_eq_nil_iff.mpr fun row member other => ?_
          simp only [decide_eq_true_eq] at other
          obtain ⟨_, owner, name⟩ := own row member
          obtain rfl : user = session.userID := other.1.symm.trans owner
          obtain rfl : id = session.backupID env.stamp := other.2.symm.trans name
          have none := idle.mpr (spares.upload session d passed complete)
          rw [none] at member
          cases member
        rw [nothing, List.append_nil]

section Tea

/-- The account of a tea shop, which may keep one backup. -/
def teaAccount : UserSession :=
  ⟨"tea-shop-1", "", "Tea", "token", "again", "lock", 100000, 0, 0, ⟨false, false, false⟩⟩

def lastNight : BackupRow := ⟨"night_chunk_0", "night", "tea-shop-1", "Tea", 0, 1, 3, "AAAA", 0⟩

def teaCloud : Cloud where
  device := ⟨some teaAccount, some teaAccount, .error "no such file or directory", ""⟩
  store := ⟨⟨[lastNight], by decide⟩, 1, by simp [lastNight]⟩

/-- Everything is answered, but the database cannot be packed. -/
def packingFails : BackupEnv where
  now := 1000000000
  stamp := "1970-01-01_00-00-01"
  refresh := fun _ => .error "offline"
  lock := fun _ => .ok ⟨200, ["lock"]⟩
  list := .ok ⟨200, .rows⟩
  delete := ⟨true, .ok 204⟩
  compressed := .error "disk full"
  upload := fun _ => ⟨true, .ok 201⟩

end Tea

/-- The only backup is deleted before the new one is packed. -/
theorem backup_kept_packing :
    (cloudBackupNow packingFails teaCloud).1 = .error "فشل ضغط قاعدة البيانات: disk full" ∧
      Complete (teaCloud.store.rowsOf "tea-shop-1" "night") ∧
      (cloudBackupNow packingFails teaCloud).2.store.rowsOf "tea-shop-1" "night" = [] := by
  refine ⟨rfl, ?_, rfl⟩
  refine ⟨by decide, by decide, by decide⟩

end BeidarPos
