import Mathlib.Data.List.Basic

/-! Putting a downloaded backup in the place of the database. The database is closed and moved
aside, the entry of the archive is written in its place, and the result is opened; where a
step reports a failure, what was moved aside is moved back. -/
namespace BeidarPos

abbrev Bytes := List UInt8

structure ZipEntry where
  name : String
  content : Bytes

/-- What opening a file as the database does: the failure of the connection or of the
migrations, if there is one, and what is in the file afterwards. -/
structure Engine where
  refusal : Bytes → Option String
  upgraded : Bytes → Bytes

/-- The files a restore works on, and whether a connection to the first one is held. -/
structure DatabaseFiles where
  live : Option Bytes
  backup : Option Bytes
  legacy : Option Bytes
  isOpen : Bool

inductive Closing where
  | closed
  | handle (e : String)
  | connections (e : String)

/-- What an opening of the database meets: the failure to make its directory, how much of the
legacy file could be copied, and the failure to connect. -/
structure Opening where
  directory : Option String
  legacyCopied : Option Nat
  connection : Option String

/-- What a restore meets. The renames and the removal are not checked by the code. -/
structure RestoreEnv where
  closing : Closing
  configDir : Option String
  setAside : Bool
  openEntry : Option String
  createFile : Option String
  copied : Nat
  removed : Bool
  movedBack : Bool
  opening : Opening

section Steps

variable (engine : Engine) (env : RestoreEnv)

def closeDB (files : DatabaseFiles) : Option String × DatabaseFiles :=
  if files.isOpen then
    match env.closing with
    | .closed => (none, { files with isOpen := false })
    | .handle e => (some e, files)
    | .connections e => (some e, { files with isOpen := false })
  else (none, files)

/-- The file there is to open; a legacy database is copied where there is none. -/
def fileToOpen (opening : Opening) (files : DatabaseFiles) : Option Bytes :=
  match files.live, files.legacy, opening.legacyCopied with
  | some content, _, _ => some content
  | none, some old, some n => some (old.take n)
  | _, _, _ => none

def initDB (files : DatabaseFiles) : Option String × DatabaseFiles :=
  match env.configDir, env.opening.directory, env.opening.connection with
  | some e, _, _ => (some e, files)
  | none, some e, _ => (some e, files)
  | none, none, some e => (some e, { files with live := fileToOpen env.opening files })
  | none, none, none =>
    let found := (fileToOpen env.opening files).getD [] -- opening a file that is missing makes an empty one
    match engine.refusal found with
    | some e => (some e, { files with live := some (engine.upgraded found) })
    | none => (none, { files with live := some (engine.upgraded found), isOpen := true })

/-- The database is moved over an older backup, if there is one. -/
def backupPath (files : DatabaseFiles) : Option String × DatabaseFiles :=
  match env.configDir with
  | some e => (some e, files)
  | none =>
    match files.live with
    | some content =>
      (none, if env.setAside then { files with live := none, backup := some content } else files)
    | none => (none, files)

def moveBack (files : DatabaseFiles) : DatabaseFiles :=
  match files.backup with
  | some content => if env.movedBack then { files with live := some content, backup := none } else files
  | none => files

def restoreBackup (files : DatabaseFiles) : Option String × DatabaseFiles :=
  match env.configDir with
  | some e => (some e, files)
  | none => initDB engine env (moveBack env files)

/-- The error of the copy is not looked at, so this much of the entry is what is opened. -/
def writeEntry (entry : ZipEntry) (files : DatabaseFiles) : DatabaseFiles :=
  { files with
    live := some (entry.content.take env.copied)
    backup := if env.removed then none else files.backup }

def databaseEntry (entries : List ZipEntry) : Option ZipEntry := entries.find? fun file => file.name = "beidar_v3.db"

def restoreEntry (entries : List ZipEntry) (files : DatabaseFiles) : Except String Unit × DatabaseFiles :=
  match databaseEntry entries with
  | none =>
    (.error "لم يتم العثور على ملف قاعدة البيانات في النسخة الاحتياطية", (restoreBackup engine env files).2)
  | some entry =>
    match env.openEntry, env.createFile with
    | some e, _ => (.error e, (restoreBackup engine env files).2)
    | none, some e => (.error e, (restoreBackup engine env files).2)
    | none, none =>
      match initDB engine env (writeEntry env entry files) with
      | (some e, files) => (.error ("فشل إعادة تهيئة قاعدة البيانات: " ++ e), files)
      | (none, files) => (.ok (), files)

def restoreFromCompressed (unzip : Bytes → Except String (List ZipEntry)) (data : Bytes) (files : DatabaseFiles) :
    Except String Unit × DatabaseFiles :=
  match unzip data with
  | .error e => (.error e, files)
  | .ok entries =>
    match closeDB env files with
    | (some e, files) => (.error e, files)
    | (none, files) =>
      match backupPath env files with
      | (some e, files) => (.error e, files)
      | (none, files) => restoreEntry engine env entries files

end Steps

section Atomicity

variable (engine : Engine) (env : RestoreEnv) (unzip : Bytes → Except String (List ZipEntry)) (data : Bytes)
  (files : DatabaseFiles)

/-- Done, and the database of the archive is open, or failed, and the one there was is. Opening
a database brings it to the present schema. -/
def RestoredWhole (after : Except String Unit × DatabaseFiles) : Prop :=
  match after.1 with
  | .ok _ => ∃ entries entry, unzip data = .ok entries ∧ databaseEntry entries = some entry ∧
      after.2.live = some (engine.upgraded entry.content) ∧ after.2.isOpen = true
  | .error _ => after.2.live = files.live ∧ after.2.isOpen = true

/-- This file can be opened, and holds these bytes once it is. -/
structure OpensAs (found content : Bytes) : Prop where
  directory : env.opening.directory = none
  connection : env.opening.connection = none
  accepted : engine.refusal found = none
  same : engine.upgraded found = content

/-- The file that is in place once the database was moved aside and back. -/
def safetyCopy (previous : Bytes) : Bytes :=
  match env.setAside, env.movedBack with
  | true, true => previous
  | true, false => (fileToOpen env.opening { files with live := none }).getD []
  | false, true => files.backup.getD previous
  | false, false => previous

/-- The archive is not touched, or the database stays open, or all of the entry is written
and opens, or the copy that was set aside comes back and opens. -/
def RestoresSafely (previous : Bytes) : Prop :=
  match unzip data, env.closing with
  | .error _, _ => True
  | .ok _, .handle _ => True
  | .ok _, .connections _ => False
  | .ok entries, .closed =>
    env.configDir = none ∧
      match databaseEntry entries, env.openEntry, env.createFile with
      | some entry, none, none =>
        OpensAs engine env (entry.content.take env.copied) (engine.upgraded entry.content)
      | _, _, _ => OpensAs engine env (safetyCopy env files previous) previous

variable {engine env unzip data files} {previous : Bytes}

/-- The database is open after an opening that succeeded, and only then. -/
theorem initDB_open (closed : files.isOpen = false) :
    (initDB engine env files).2.isOpen = true ↔ (initDB engine env files).1 = none := by
  unfold initDB
  split
  · simp [closed]
  · simp [closed]
  · simp [closed]
  · dsimp only
    split <;> simp [closed]

theorem initDB_opens {content : Bytes} (closed : files.isOpen = false) (configured : env.configDir = none) :
    (initDB engine env files).2.live = some content ∧ (initDB engine env files).2.isOpen = true ↔
      OpensAs engine env ((fileToOpen env.opening files).getD []) content := by
  unfold initDB
  rw [configured]
  cases directory : env.opening.directory with
  | some e => exact ⟨fun both => by simp [closed] at both, fun opens => by simp [opens.directory] at directory⟩
  | none =>
    cases connection : env.opening.connection with
    | some e => exact ⟨fun both => by simp [closed] at both, fun opens => by simp [opens.connection] at connection⟩
    | none =>
      dsimp only
      cases refused : engine.refusal ((fileToOpen env.opening files).getD []) with
      | some e => exact ⟨fun both => by simp [closed] at both, fun opens => by simp [opens.accepted] at refused⟩
      | none =>
        constructor
        · exact fun both => ⟨directory, connection, refused, Option.some_inj.mp both.1⟩
        · exact fun opens => ⟨congrArg some opens.same, rfl⟩

/-- What is in place after the database was closed and moved aside. -/
def aside (env : RestoreEnv) (files : DatabaseFiles) (previous : Bytes) : DatabaseFiles :=
  if env.setAside then { files with live := none, backup := some previous, isOpen := false }
  else { files with live := some previous, isOpen := false }

theorem restoreBackup_opens (configured : env.configDir = none) :
    (restoreBackup engine env (aside env files previous)).2.live = some previous ∧
        (restoreBackup engine env (aside env files previous)).2.isOpen = true ↔
      OpensAs engine env (safetyCopy env files previous) previous := by
  have found : (fileToOpen env.opening (moveBack env (aside env files previous))).getD [] = safetyCopy env files previous := by
    unfold safetyCopy moveBack aside fileToOpen
    cases env.setAside <;> cases env.movedBack <;> cases files.backup <;> rfl
  have closed : (moveBack env (aside env files previous)).isOpen = false := by
    unfold moveBack aside
    cases env.setAside <;> cases env.movedBack <;> cases files.backup <;> rfl
  unfold restoreBackup
  rw [configured, ← found]
  exact initDB_opens closed configured

theorem restoreFromCompressed_closed {entries : List ZipEntry} (isOpen : files.isOpen = true)
    (stored : files.live = some previous) (unzipped : unzip data = .ok entries) (closing : env.closing = .closed)
    (configured : env.configDir = none) :
    restoreFromCompressed engine env unzip data files = restoreEntry engine env entries (aside env files previous) := by
  simp only [restoreFromCompressed, unzipped, closeDB, isOpen, if_true, closing, backupPath, configured, stored, aside]

/-- Once the entry is written, the restore is whole when what was written opens as the entry. -/
theorem writeEntry_whole {entries : List ZipEntry} {entry : ZipEntry} (unzipped : unzip data = .ok entries)
    (found : databaseEntry entries = some entry) (configured : env.configDir = none) :
    RestoredWhole engine unzip data files
        (match initDB engine env (writeEntry env entry (aside env files previous)) with
        | (some e, files) => (.error ("فشل إعادة تهيئة قاعدة البيانات: " ++ e), files)
        | (none, files) => (.ok (), files)) ↔
      OpensAs engine env (entry.content.take env.copied) (engine.upgraded entry.content) := by
  have closed : (writeEntry env entry (aside env files previous)).isOpen = false := by
    unfold writeEntry aside
    cases env.setAside <;> rfl
  have opens := @initDB_opens engine env _ (engine.upgraded entry.content) closed configured
  have running := @initDB_open engine env _ closed
  change _ ↔ OpensAs engine env (entry.content.take env.copied) (engine.upgraded entry.content) at opens
  rw [← opens]
  cases initialised : initDB engine env (writeEntry env entry (aside env files previous)) with
  | mk failure after =>
    rw [initialised] at running
    cases failure with
    | some e =>
      have stopped : after.isOpen ≠ true := fun open_ => by simpa using running.mp open_
      exact ⟨fun both => absurd both.2 stopped, fun both => absurd both.2 stopped⟩
    | none =>
      constructor
      · rintro ⟨entries', entry', unzipped', found', live, isOpen⟩
        obtain rfl := Except.ok.inj (unzipped.symm.trans unzipped')
        obtain rfl := Option.some_inj.mp (found.symm.trans found')
        exact ⟨live, isOpen⟩
      · exact fun both => ⟨entries, entry, unzipped, found, both.1, both.2⟩

end Atomicity

/-- A restore is atomic exactly when it restores safely. -/
theorem restore_atomic (engine : Engine) (env : RestoreEnv) (unzip : Bytes → Except String (List ZipEntry))
    (data previous : Bytes) (files : DatabaseFiles) (isOpen : files.isOpen = true)
    (stored : files.live = some previous) :
    RestoredWhole engine unzip data files (restoreFromCompressed engine env unzip data files) ↔
      RestoresSafely engine env unzip data files previous := by
  cases unzipped : unzip data with
  | error e => simp [RestoredWhole, RestoresSafely, restoreFromCompressed, unzipped, isOpen]
  | ok entries =>
    cases closing : env.closing with
    | handle e => simp [RestoredWhole, RestoresSafely, restoreFromCompressed, unzipped, closeDB, closing, isOpen]
    | connections e => simp [RestoredWhole, RestoresSafely, restoreFromCompressed, unzipped, closeDB, closing, isOpen]
    | closed =>
      cases configured : env.configDir with
      | some e =>
        simp [RestoredWhole, RestoresSafely, restoreFromCompressed, unzipped, closeDB, backupPath, closing, isOpen,
          configured]
      | none =>
        have back := @restoreBackup_opens engine env files previous configured
        rw [restoreFromCompressed_closed isOpen stored unzipped closing configured]
        simp only [RestoresSafely, unzipped, closing, configured, true_and]
        unfold restoreEntry
        cases found : databaseEntry entries with
        | none =>
          dsimp only [RestoredWhole]
          rw [stored]
          exact back
        | some entry =>
          cases openEntry : env.openEntry with
          | some e =>
            dsimp only [RestoredWhole]
            rw [stored]
            exact back
          | none =>
            cases createFile : env.createFile with
            | some e =>
              dsimp only [RestoredWhole]
              rw [stored]
              exact back
            | none => exact writeEntry_whole unzipped found configured


section Tea

/-- The database of the tea shop, in place of its pages. -/
def teaDatabase : Bytes := [83, 81, 76, 105, 116, 101, 2]

/-- The same database a night earlier. -/
def earlierDatabase : Bytes := [83, 81, 76, 105, 116, 101, 1]

/-- An empty file opens, and the migrations make the tables of a new shop in it. -/
def sqlite : Engine where
  refusal := fun content => if content.length = 0 ∨ content.length = 7 then none else some "file is not a database"
  upgraded := fun content => if content.length = 0 then [83, 81, 76, 105, 116, 101, 0] else content

/-- The download, in place of an archive of that database. -/
def nightArchive : Bytes := [80, 75, 1]

def unzipNight (data : Bytes) : Except String (List ZipEntry) :=
  if data = nightArchive then .ok [⟨"beidar_v3.db", earlierDatabase⟩] else .error "zip: not a valid zip file"

def teaFiles : DatabaseFiles := ⟨some teaDatabase, none, none, true⟩

/-- The disk is full when the entry is to be written. -/
def diskFull : RestoreEnv where
  closing := .closed
  configDir := none
  setAside := true
  openEntry := none
  createFile := none
  copied := 0
  removed := true
  movedBack := true
  opening := ⟨none, none, none⟩

end Tea

/-- A restore that had everything it asked for is whole. -/
theorem restore_atomic_tea :
    RestoredWhole sqlite unzipNight nightArchive teaFiles
      (restoreFromCompressed sqlite { diskFull with copied := 7 } unzipNight nightArchive teaFiles) :=
  (restore_atomic sqlite { diskFull with copied := 7 } unzipNight nightArchive teaDatabase teaFiles rfl rfl).mpr
    ⟨rfl, rfl, rfl, rfl, rfl⟩

/-- Nothing of the entry is written, which the restore does not report: the shop is new. -/
theorem restore_not_atomic :
    restoreFromCompressed sqlite diskFull unzipNight nightArchive teaFiles =
        (.ok (), ⟨some [83, 81, 76, 105, 116, 101, 0], none, none, true⟩) ∧
      ¬ RestoredWhole sqlite unzipNight nightArchive teaFiles
        (restoreFromCompressed sqlite diskFull unzipNight nightArchive teaFiles) := by
  refine ⟨rfl, ?_⟩
  rintro ⟨entries, entry, unzipped, found, live, -⟩
  obtain rfl := Except.ok.inj unzipped
  obtain rfl := Option.some_inj.mp found
  exact absurd live (by decide)

end BeidarPos
