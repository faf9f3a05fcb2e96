import BeidarPos.DateTexts
import BeidarPos.LexicalPath
import BeidarPos.Runs
import BeidarPos.Table

/-! The directory of the local backups: which paths the calls for a backup accept, and what the
daily worker leaves of the files. The worker backs up and cleans in one turn, and cleans
whether or not it could back up. -/
namespace BeidarPos

open Relational LexicalPath Calendar

/-- A file of the directory; times are milliseconds. -/
structure BackupFile where
  name : String
  isDir : Bool
  modTime : Int
deriving DecidableEq

abbrev BackupFiles := Table BackupFile.name

/-- The directory of the backups, the one the program runs in, and what separates names on the host. -/
structure BackupHost where
  separator : Char → Bool
  listed : ∀ c, separator c = true → c ∈ ['/', '\\']
  slash : Char
  cut : separator slash = true
  cwd : Path
  dir : Path
  proper : ∀ name ∈ cwd ++ dir, Proper name
  whole : ∀ name ∈ dir, ∀ c ∈ name, separator c = false

/-- `15-04-05.000`. -/
def clockText (now : Int) : List Char :=
  let ms := (now % 86400000).toNat
  padded 2 (ms / 3600000) ++ '-' :: padded 2 (ms / 60000 % 60) ++ '-' :: padded 2 (ms / 1000 % 60) ++ '.' :: padded 3 (ms % 1000)

/-- `beidar_backup_2006-01-02_15-04-05.000.json`, of the local time. -/
def backupName (now : Int) : String :=
  String.ofList ("beidar_backup_".toList ++ (normalize (12 * 1970) (1 + now / 86400000)).text ++ '_' :: clockText now ++
    ".json".toList)

namespace BackupFile

/-- The listing gives the time in whole seconds. -/
def createdAt (f : BackupFile) : Int := f.modTime / 1000

def isBackup (f : BackupFile) : Bool := !f.isDir && ".json".toList.isSuffixOf f.name.toList

end BackupFile

def listBackups (files : BackupFiles) : List BackupFile :=
  (files.rows.filter BackupFile.isBackup).mergeSort fun a b => b.createdAt ≤ a.createdAt

/-- Where a file is written and renamed. The answer is the same, and no error, where it is not. -/
def createBackup (stamp written : Int) (done : Bool) (files : BackupFiles) : BackupFiles :=
  if done then files.set ⟨backupName stamp, false, written⟩ else files

/-- Milliseconds, of a zone without changes of its clock. -/
def cutoff (now retainDays : Int) : Int := now - (if retainDays ≤ 0 then 30 else retainDays) * 86400000

namespace BackupHost

variable (host : BackupHost)

def abs (backupPath : List Char) : Path :=
  if backupPath.head?.any host.separator then join host.separator [] backupPath else join host.separator host.cwd backupPath

def validateBackupPath (backupPath : String) : Option Path :=
  let absBackupPath := host.abs backupPath.toList
  let rel := spelled host.slash (between host.dir absBackupPath)
  if ['.', '.'].isPrefixOf rel then none else some absBackupPath

/-- `os.Remove` of a path in the directory; `removable` says what the host lets go. -/
def remove (removable : Path → Bool) (path : Path) (files : BackupFiles) : Option BackupFiles :=
  match path.drop host.dir.length with
  | [] => if files.rows = [] ∧ removable path then some files else none
  | [name] =>
    if files.find? (String.ofList name) = none ∨ removable path = false then none
    else some (files.filter fun f => f.name ≠ String.ofList name)
  | _ => if removable path then some files else none

def deleteBackup (removable : Path → Bool) (backupPath : String) (files : BackupFiles) : Option BackupFiles :=
  match host.validateBackupPath backupPath with
  | none => none
  | some validatedPath => host.remove removable validatedPath files

/-- The path that the listing gives. -/
def pathOf (f : BackupFile) : String := String.ofList (rooted host.slash (host.dir ++ [f.name.toList]))

def cleanOne (now retainDays : Int) (removable : Path → Bool) (state : Nat × BackupFiles) (backup : BackupFile) :
    Nat × BackupFiles :=
  if backup.createdAt * 1000 < cutoff now retainDays then
    match host.deleteBackup removable (host.pathOf backup) state.2 with
    | some files => (state.1 + 1, files)
    | none => state
  else state

def cleanOldBackups (now retainDays : Int) (removable : Path → Bool) (files : BackupFiles) : Nat × BackupFiles :=
  (listBackups files).foldl (host.cleanOne now retainDays removable) (0, files)

end BackupHost

/-- What happens to the directory: a backup, a restoration with the backup it takes first, a turn
of the worker, and the calls that clean and delete. `stamp` names the file, which is `written`
then, if it is `done`. -/
inductive BackupStep where
  | create (stamp written : Int) (done : Bool)
  | restore (backupPath : String) (readable : Bool) (stamp written : Int) (done : Bool)
  | automated (stamp written now : Int) (done : Bool) (removable : Path → Bool)
  | clean (now retainDays : Int) (removable : Path → Bool)
  | delete (now : Int) (backupPath : String) (removable : Path → Bool)

namespace BackupStep

def next (host : BackupHost) (files : BackupFiles) : BackupStep → BackupFiles
  | .create stamp written done => createBackup stamp written done files
  | .restore backupPath readable stamp written done =>
    if (host.validateBackupPath backupPath).isSome ∧ readable then createBackup stamp written done files else files
  | .automated stamp written now done removable =>
    (host.cleanOldBackups now 7 removable (createBackup stamp written done files)).2
  | .clean now retainDays removable => (host.cleanOldBackups now retainDays removable files).2
  | .delete _ backupPath removable => (host.deleteBackup removable backupPath files).getD files

/-- When a step writes a backup. -/
def wrote (host : BackupHost) : BackupStep → Option Int
  | .create _ written done => if done then some written else none
  | .restore backupPath readable _ written done =>
    if ((host.validateBackupPath backupPath).isSome ∧ readable) ∧ done then some written else none
  | .automated _ written _ done _ => if done then some written else none
  | .clean .. => none
  | .delete .. => none

def begun : BackupStep → Int
  | .create _ written _ | .restore _ _ _ written _ | .automated _ written _ _ _ => written
  | .clean now _ _ | .delete now _ _ => now

def ended : BackupStep → Int
  | .create _ written _ | .restore _ _ _ written _ => written
  | .automated _ _ now _ _ | .clean now _ _ | .delete now _ _ => now

/-- Nobody deletes a backup by hand, or cleans by hand what the worker leaves. -/
def Spares : BackupStep → Prop
  | .clean _ retainDays _ => retainDays ≤ 0 ∨ 7 ≤ retainDays
  | .delete .. => False
  | _ => True

end BackupStep

/-- The directory of a new installation after the steps. -/
def backupsAfter (host : BackupHost) (steps : List BackupStep) : BackupFiles := steps.foldl (BackupStep.next host) Table.empty

def Chronological (steps : List BackupStep) : Prop :=
  (∀ step ∈ steps, step.begun ≤ step.ended) ∧ steps.Pairwise fun earlier later => earlier.ended ≤ later.begun

section Paths

variable (host : BackupHost)

theorem abs_proper (backupPath : List Char) : ∀ name ∈ host.abs backupPath, Proper name := by
  rw [BackupHost.abs]
  split
  · exact join_proper backupPath (fun name member => absurd member List.not_mem_nil)
  · exact join_proper backupPath fun name member => host.proper name (List.mem_append_left _ member)

theorem abs_path (f : BackupFile) (named : Proper f.name.toList) (whole : ∀ c ∈ f.name.toList, host.separator c = false) :
    host.abs (host.pathOf f).toList = host.dir ++ [f.name.toList] := by
  have begins : (rooted host.slash (host.dir ++ [f.name.toList])).head?.any host.separator = true := by
    cases host.dir with
    | nil => simp [rooted, host.cut]
    | cons name dir => simp [rooted, host.cut]
  rw [BackupHost.abs, BackupHost.pathOf, String.toList_ofList, if_pos begins]
  refine join_rooted host.cut (fun name member => ?_) fun name member => ?_
  · rcases List.mem_append.mp member with member | member
    · exact host.whole name member
    · rwa [List.mem_singleton.mp member]
  · rcases List.mem_append.mp member with member | member
    · exact host.proper name (List.mem_append_right _ member)
    · rwa [List.mem_singleton.mp member]

/-- Into the directory, the way between is what is below it; elsewhere it climbs. -/
theorem spelled_between {names : Path} {backupPath : List Char} (whole : host.abs backupPath = host.dir ++ names) :
    ['.', '.'] <+: spelled host.slash (between host.dir (host.abs backupPath)) ↔ ∃ first ∈ names.head?, ['.', '.'] <+: first := by
  have proper := abs_proper host backupPath
  rw [whole] at proper ⊢
  rw [between_within]
  exact spelled_climbs fun name member => proper name (List.mem_append_right _ member)

theorem validates_inside {names : Path} {backupPath : String} (whole : host.abs backupPath.toList = host.dir ++ names)
    (plain : ∀ first ∈ names.head?, ¬ ['.', '.'] <+: first) :
    host.validateBackupPath backupPath = some (host.abs backupPath.toList) := by
  simp only [BackupHost.validateBackupPath, List.isPrefixOf_iff_prefix]
  refine if_neg fun climbs => ?_
  obtain ⟨first, head, dots⟩ := (spelled_between host whole).mp climbs
  exact plain first head dots

theorem validates_only {backupPath : String} {path : Path} (passes : host.validateBackupPath backupPath = some path) :
    path = host.abs backupPath.toList ∧ ∃ names, path = host.dir ++ names ∧ ∀ first ∈ names.head?, ¬ ['.', '.'] <+: first := by
  simp only [BackupHost.validateBackupPath, List.isPrefixOf_iff_prefix] at passes
  by_cases inside : host.dir <+: host.abs backupPath.toList
  · obtain ⟨names, whole⟩ := inside
    split at passes
    · cases passes
    · next plain =>
      cases passes
      exact ⟨rfl, names, whole.symm, fun first head dots =>
        plain ((spelled_between host whole.symm).mpr ⟨first, head, dots⟩)⟩
  · obtain ⟨rest, out⟩ := between_outside inside
    have climbs : ['.', '.'] <+: spelled host.slash (between host.dir (host.abs backupPath.toList)) := by
      rw [out]
      cases rest with
      | nil => simp [spelled, List.intercalate]
      | cons second rest => simp [spelled, List.intercalate]
    rw [if_pos climbs] at passes
    cases passes

/-- A path passes exactly if it leads into the directory or to it, and not to a name in it that begins with two dots. -/
theorem validateBackupPath_iff (backupPath : String) (path : Path) :
    host.validateBackupPath backupPath = some path ↔
      path = host.abs backupPath.toList ∧ ∃ names, path = host.dir ++ names ∧ ∀ first ∈ names.head?, ¬ ['.', '.'] <+: first := by
  refine ⟨fun passes => validates_only host passes, ?_⟩
  rintro ⟨rfl, names, whole, plain⟩
  exact validates_inside host whole plain

end Paths

section Names

/-- Text without separators. -/
def Unseparated (text : List Char) : Prop := ∀ c ∈ text, c ≠ '/' ∧ c ≠ '\\'

instance (text : List Char) : Decidable (Unseparated text) := List.decidableBAll _ text

theorem unseparated_append {a b : List Char} (left : Unseparated a) (right : Unseparated b) : Unseparated (a ++ b) := fun c member =>
  (List.mem_append.mp member).elim (left c) (right c)

theorem unseparated_cons {c : Char} {text : List Char} (plain : Unseparated [c]) (rest : Unseparated text) :
    Unseparated (c :: text) :=
  unseparated_append plain rest

theorem unseparated_padded (width n : Nat) : Unseparated (padded width n) := by
  intro c member
  have digit := padded_digit c member
  constructor
  · rintro rfl
    cases digit
  · rintro rfl
    cases digit

theorem unseparated_date (date : Date) : Unseparated date.text := by
  have sign : Unseparated (if date.month / 12 < 0 then ['-'] else []) := by
    split <;> decide
  exact unseparated_append
    (unseparated_append (unseparated_append sign (unseparated_padded _ _)) (unseparated_cons (by decide) (unseparated_padded _ _)))
    (unseparated_cons (by decide) (unseparated_padded _ _))

theorem unseparated_clock (now : Int) : Unseparated (clockText now) :=
  unseparated_append
    (unseparated_append
      (unseparated_append (unseparated_padded _ _) (unseparated_cons (by decide) (unseparated_padded _ _)))
      (unseparated_cons (by decide) (unseparated_padded _ _)))
    (unseparated_cons (by decide) (unseparated_padded _ _))

theorem backupName_toList (now : Int) : ∃ middle, Unseparated middle ∧
    (backupName now).toList = "beidar_backup_".toList ++ middle ++ ".json".toList := by
  have plain : Unseparated ((normalize (12 * 1970) (1 + now / 86400000)).text ++ '_' :: clockText now) :=
    unseparated_append (unseparated_date _) (unseparated_cons (by decide) (unseparated_clock now))
  refine ⟨_, plain, ?_⟩
  unfold backupName
  rw [String.toList_ofList]
  exact congrArg (· ++ _) (List.append_assoc _ _ _)

end Names

section Cleaning

variable (host : BackupHost)

/-- A file the program wrote. -/
def BackupFile.Made (f : BackupFile) : Prop := (∃ stamp, f.name = backupName stamp) ∧ f.isDir = false

theorem made_isBackup {f : BackupFile} (made : f.Made) : f.isBackup = true := by
  obtain ⟨⟨stamp, name⟩, file⟩ := made
  obtain ⟨middle, -, text⟩ := backupName_toList stamp
  rw [BackupFile.isBackup, file, name, text, Bool.not_false, Bool.true_and]
  exact List.isSuffixOf_iff_suffix.mpr (List.suffix_append _ _)

/-- Its path in the listing passes the check, and leads to it. -/
theorem made_validates {f : BackupFile} (made : f.Made) :
    host.validateBackupPath (host.pathOf f) = some (host.dir ++ [f.name.toList]) := by
  obtain ⟨⟨stamp, name⟩, -⟩ := made
  obtain ⟨middle, plain, text⟩ := backupName_toList stamp
  rw [← name] at text
  have unseparated : Unseparated f.name.toList := by
    rw [text]
    exact unseparated_append (unseparated_append (by decide) plain) (by decide)
  have whole : ∀ c ∈ f.name.toList, host.separator c = false := by
    intro c member
    cases separates : host.separator c with
    | false => rfl
    | true =>
      have kind := host.listed c separates
      simp [unseparated c member] at kind
  have named : Proper f.name.toList := by
    rw [text]
    exact ⟨by simp, by simp, by simp⟩
  rw [← abs_path host f named whole]
  refine validates_inside host (abs_path host f named whole) fun first head climbs => ?_
  cases head
  rw [text] at climbs
  simp at climbs

theorem made_deleted {files : BackupFiles} {f : BackupFile} (made : f.Made) (removable : Path → Bool) :
    (host.deleteBackup removable (host.pathOf f) files).getD files =
      if removable (host.dir ++ [f.name.toList]) then files.filter fun g => g.name ≠ f.name else files := by
  have down : (host.dir ++ [f.name.toList]).drop host.dir.length = [f.name.toList] := List.drop_left' rfl
  rw [BackupHost.deleteBackup, made_validates host made]
  simp only [BackupHost.remove, down, String.ofList_toList]
  by_cases removes : removable (host.dir ++ [f.name.toList]) = true
  · cases found : files.find? f.name with
    | none =>
      rw [if_pos (.inl rfl), if_pos removes]
      refine Table.ext (List.filter_eq_self.mpr fun g member => ?_).symm
      simpa using Table.find?_none.mp found g member
    | some g => rw [if_neg (by simp [removes]), if_pos removes, Option.getD_some]
  · rw [if_pos (.inr (by simpa using removes)), if_neg removes, Option.getD_none]

theorem cleanOne_rows {files : BackupFiles} {f : BackupFile} (made : f.Made) (now retainDays : Int) (removable : Path → Bool)
    (deleted : Nat) :
    (host.cleanOne now retainDays removable (deleted, files) f).2 =
      if f.createdAt * 1000 < cutoff now retainDays ∧ removable (host.dir ++ [f.name.toList]) then
        files.filter fun g => g.name ≠ f.name
      else files := by
  have gone := @made_deleted host files f made removable
  rw [BackupHost.cleanOne]
  by_cases old : f.createdAt * 1000 < cutoff now retainDays
  · simp only [old, if_true, true_and]
    rw [← gone]
    split
    · next removed => rw [removed, Option.getD_some]
    · next kept => rw [kept, Option.getD_none]
  · rw [if_neg old, if_neg (fun both => old both.1)]

/-- Of files the program wrote, those stay that are young enough, or that the host does not let go. -/
theorem clean_mem {files : BackupFiles} (made : ∀ f ∈ files.rows, f.Made) (now retainDays : Int) (removable : Path → Bool)
    (f : BackupFile) :
    f ∈ (host.cleanOldBackups now retainDays removable files).2.rows ↔
      f ∈ files.rows ∧ ¬(f.createdAt * 1000 < cutoff now retainDays ∧ removable (host.dir ++ [f.name.toList])) := by
  have along (backups : List BackupFile) (made : ∀ g ∈ backups, g.Made) (state : Nat × BackupFiles) :
      f ∈ (backups.foldl (host.cleanOne now retainDays removable) state).2.rows ↔ f ∈ state.2.rows ∧
        ∀ g ∈ backups, g.createdAt * 1000 < cutoff now retainDays ∧ removable (host.dir ++ [g.name.toList]) → f.name ≠ g.name := by
    induction backups generalizing state with
    | nil => simp
    | cons g backups ih =>
      rw [List.foldl_cons, ih (fun g' member => made g' (List.mem_cons_of_mem _ member)),
        cleanOne_rows host (made g List.mem_cons_self), List.forall_mem_cons]
      split
      · next old => rw [Table.filter_mem, and_assoc, forall_prop_of_true old]
      · next young => simp only [forall_prop_of_false young, true_and]
  have listing : ∀ g, g ∈ listBackups files ↔ g ∈ files.rows := by
    intro g
    rw [listBackups, List.mem_mergeSort, List.mem_filter]
    exact ⟨And.left, fun member => ⟨member, made_isBackup (made g member)⟩⟩
  rw [BackupHost.cleanOldBackups, along _ fun g member => made g ((listing g).mp member)]
  refine and_congr_right fun member => ⟨fun others old => others f ((listing f).mpr member) old rfl, fun young g listed old same => ?_⟩
  rw [Table.unique_row member ((listing g).mp listed) same] at young
  exact young old

end Cleaning

section Worker

variable (host : BackupHost) {files : BackupFiles} {c : Int}

theorem create_mem {stamp written : Int} {done : Bool} {f : BackupFile}
    (member : f ∈ (createBackup stamp written done files).rows) :
    f ∈ files.rows ∨ done = true ∧ f = ⟨backupName stamp, false, written⟩ := by
  rw [createBackup] at member
  split at member
  · next created => exact (Table.set_mem member).symm.imp And.left fun new => ⟨created, new⟩
  · exact .inl member

theorem create_done (stamp written : Int) (files : BackupFiles) :
    (⟨backupName stamp, false, written⟩ : BackupFile) ∈ (createBackup stamp written true files).rows := by
  rw [createBackup, if_pos rfl]
  exact Table.find?_mem (Table.find?_set.trans (if_pos rfl))

/-- A backup never takes the place of one that is younger. -/
theorem create_fresh (stamp : Int) {written : Int} (done : Bool) (older : ∀ f ∈ files.rows, f.modTime ≤ written)
    (fresh : ∃ f ∈ files.rows, c ≤ f.createdAt * 1000) :
    ∃ f ∈ (createBackup stamp written done files).rows, c ≤ f.createdAt * 1000 := by
  obtain ⟨f, member, young⟩ := fresh
  cases done with
  | false => exact ⟨f, member, young⟩
  | true =>
    by_cases same : f.name = backupName stamp
    · refine ⟨_, create_done stamp written files, young.trans ?_⟩
      have later := Int.ediv_le_ediv (show (0 : Int) < 1000 by decide) (older f member)
      simp only [BackupFile.createdAt]
      omega
    · refine ⟨f, Table.find?_mem (k := f.name) ?_, young⟩
      rw [createBackup, if_pos rfl, Table.find?_set, if_neg same]
      exact Table.find?_of_mem member

/-- A step backs up, or tries to, or does not; and then it cleans, or does not. -/
theorem next_does (files : BackupFiles) {step : BackupStep} (spares : step.Spares) :
    ∃ stamp done, step.wrote host = (if done then some step.begun else none) ∧
      (step.next host files = createBackup stamp step.begun done files ∨
        ∃ retainDays removable, (retainDays ≤ 0 ∨ 7 ≤ retainDays) ∧
          step.next host files = (host.cleanOldBackups step.ended retainDays removable
            (createBackup stamp step.begun done files)).2) := by
  cases step with
  | create stamp written done => exact ⟨stamp, done, rfl, .inl rfl⟩
  | restore backupPath readable stamp written done =>
    refine ⟨stamp, decide ((host.validateBackupPath backupPath).isSome ∧ readable) && done, ?_, .inl ?_⟩
    · simp only [BackupStep.wrote, Bool.and_eq_true, decide_eq_true_eq, BackupStep.begun]
    · simp only [BackupStep.next, createBackup, BackupStep.begun, Bool.and_eq_true, decide_eq_true_eq]
      split
      · next passes => simp [passes]
      · next refused => rw [if_neg fun both => refused both.1]
  | automated stamp written now done removable => exact ⟨stamp, done, rfl, .inr ⟨7, removable, .inr (by decide), rfl⟩⟩
  | clean now retainDays removable => exact ⟨0, false, rfl, .inr ⟨retainDays, removable, spares, rfl⟩⟩
  | delete now backupPath removable => exact spares.elim

/-- What the steps leave, for a time that none of them cleans beyond: files of theirs, of which one is younger if
they wrote one that is. -/
structure Leaves (c : Int) (steps : List BackupStep) (files : BackupFiles) : Prop where
  made : ∀ f ∈ files.rows, f.Made
  written : ∀ f ∈ files.rows, ∃ step ∈ steps, step.wrote host = some f.modTime
  fresh : ∀ step ∈ steps, ∀ w, step.wrote host = some w → c ≤ w / 1000 * 1000 → ∃ f ∈ files.rows, c ≤ f.createdAt * 1000

theorem wrote_begun {step : BackupStep} {w : Int} (spares : step.Spares) (wrote : step.wrote host = some w) :
    w = step.begun := by
  obtain ⟨_, done, writes, -⟩ := next_does host Table.empty spares
  rw [wrote] at writes
  cases done with
  | true => exact Option.some.inj writes
  | false => cases writes

theorem leaves_created {steps : List BackupStep} {step : BackupStep} (leaves : Leaves host c steps files)
    (older : ∀ f ∈ files.rows, f.modTime ≤ step.begun) (stamp : Int) {done : Bool}
    (wrote : step.wrote host = if done then some step.begun else none) :
    Leaves host c (steps ++ [step]) (createBackup stamp step.begun done files) where
  made := by
    intro f member
    rcases create_mem member with old | ⟨-, rfl⟩
    · exact leaves.made f old
    · exact ⟨⟨stamp, rfl⟩, rfl⟩
  written := by
    intro f member
    rcases create_mem member with old | ⟨created, rfl⟩
    · obtain ⟨earlier, before, writes⟩ := leaves.written f old
      exact ⟨earlier, List.mem_append_left _ before, writes⟩
    · exact ⟨step, List.mem_append_right _ List.mem_cons_self, by rw [wrote, if_pos created]⟩
  fresh := by
    intro earlier member w writes young
    rcases List.mem_append.mp member with before | now
    · exact create_fresh stamp done older (leaves.fresh earlier before w writes young)
    · rw [List.mem_singleton.mp now, wrote] at writes
      split at writes
      · next created =>
        cases writes
        subst created
        exact ⟨_, create_done stamp _ files, young⟩
      · cases writes

theorem leaves_next {steps : List BackupStep} {step : BackupStep} (leaves : Leaves host c steps files)
    (spares : step.Spares) (older : ∀ f ∈ files.rows, f.modTime ≤ step.begun) (cuts : cutoff step.ended 7 ≤ c) :
    Leaves host c (steps ++ [step]) (step.next host files) := by
  obtain ⟨stamp, done, wrote, next⟩ := next_does host files spares
  have created := leaves_created host leaves older stamp wrote
  rcases next with next | ⟨retainDays, removable, long, next⟩
  · rwa [next]
  · have longer : cutoff step.ended retainDays ≤ c := by
      refine le_trans ?_ cuts
      unfold cutoff
      split <;> omega
    have member := clean_mem host created.made step.ended retainDays removable
    rw [next]
    refine ⟨fun f left => created.made f ((member f).mp left).1, fun f left => created.written f ((member f).mp left).1, ?_⟩
    intro earlier before w writes young
    obtain ⟨f, there, fresh⟩ := created.fresh earlier before w writes young
    exact ⟨f, (member f).mpr ⟨there, fun old => by omega⟩, fresh⟩

theorem run_leaves {steps : List BackupStep} (chronological : Chronological steps) (spared : ∀ step ∈ steps, step.Spares)
    (cuts : ∀ step ∈ steps, cutoff step.ended 7 ≤ c) : Leaves host c steps (backupsAfter host steps) := by
  induction steps using List.reverseRecOn with
  | nil => exact ⟨by simp [backupsAfter, Table.empty], by simp [backupsAfter, Table.empty], by simp⟩
  | append_singleton steps step ih =>
    obtain ⟨onward, ordered⟩ := chronological
    obtain ⟨before, -, between⟩ := List.pairwise_append.mp ordered
    have front := fun earlier (member : earlier ∈ steps) => List.mem_append_left [step] member
    have leaves := ih ⟨fun earlier member => onward earlier (front earlier member), before⟩
      (fun earlier member => spared earlier (front earlier member)) fun earlier member => cuts earlier (front earlier member)
    have last : step ∈ steps ++ [step] := List.mem_append_right _ List.mem_cons_self
    rw [backupsAfter, Runs.foldl_snoc]
    refine leaves_next host leaves (spared step last) (fun f member => ?_) (cuts step last)
    obtain ⟨earlier, member, wrote⟩ := leaves.written f member
    rw [wrote_begun host (spared earlier (front earlier member)) wrote]
    exact (onward earlier (front earlier member)).trans (between earlier member step List.mem_cons_self)

/-- Nothing the worker could delete is older than it keeps. -/
theorem automated_young (made : ∀ f ∈ files.rows, f.Made) {stamp written now : Int} {done : Bool} {f : BackupFile}
    (left : f ∈ (BackupStep.next host files (.automated stamp written now done fun _ => true)).rows) :
    cutoff now 7 ≤ f.createdAt * 1000 := by
  have created : ∀ f ∈ (createBackup stamp written done files).rows, f.Made := by
    intro f member
    rcases create_mem member with old | ⟨-, rfl⟩
    · exact made f old
    · exact ⟨⟨stamp, rfl⟩, rfl⟩
  exact not_lt.mp fun old => ((clean_mem host created now 7 (fun _ => true) f).mp left).2 ⟨old, rfl⟩

/-- After a turn of the worker there is a backup exactly if one was written in the last seven days: turns that fail to
back up delete the others all the same, the last one too. -/
theorem backups_left_iff (steps : List BackupStep) (stamp written now : Int) (done : Bool)
    (chronological : Chronological (steps ++ [.automated stamp written now done fun _ => true]))
    (spared : ∀ step ∈ steps, step.Spares) :
    listBackups (backupsAfter host (steps ++ [.automated stamp written now done fun _ => true])) ≠ [] ↔
      ∃ step ∈ steps ++ [.automated stamp written now done fun _ => true], ∃ w ∈ step.wrote host,
        cutoff now 7 ≤ w / 1000 * 1000 := by
  have all : ∀ step ∈ steps ++ [.automated stamp written now done fun _ => true], step.Spares := by
    intro step member
    rcases List.mem_append.mp member with before | last
    · exact spared step before
    · rw [List.mem_singleton.mp last]
      exact trivial
  obtain ⟨onward, ordered⟩ := chronological
  have cuts : ∀ step ∈ steps ++ [.automated stamp written now done fun _ => true], cutoff step.ended 7 ≤ cutoff now 7 := by
    intro step member
    have later : step.ended ≤ now := by
      rcases List.mem_append.mp member with before | last
      · exact ((List.pairwise_append.mp ordered).2.2 step before _ List.mem_cons_self).trans
          (onward (.automated stamp written now done fun _ => true) (List.mem_append_right _ List.mem_cons_self))
      · rw [List.mem_singleton.mp last]
        exact le_refl now
    unfold cutoff
    omega
  have leaves := run_leaves host ⟨onward, ordered⟩ all cuts
  have before := @run_leaves host (cutoff now 7) steps
    ⟨fun step member => onward step (List.mem_append_left _ member), (List.pairwise_append.mp ordered).1⟩ spared
    fun step member => cuts step (List.mem_append_left _ member)
  constructor
  · intro left
    obtain ⟨f, listing⟩ := List.exists_mem_of_ne_nil _ left
    rw [listBackups, List.mem_mergeSort, List.mem_filter] at listing
    obtain ⟨step, member, wrote⟩ := leaves.written f listing.1
    rw [backupsAfter, Runs.foldl_snoc] at listing
    exact ⟨step, member, f.modTime, wrote, automated_young host before.made listing.1⟩
  · rintro ⟨step, member, w, wrote, young⟩
    obtain ⟨f, there, -⟩ := leaves.fresh step member w wrote young
    refine List.ne_nil_of_mem (a := f) ?_
    rw [listBackups, List.mem_mergeSort, List.mem_filter]
    exact ⟨there, made_isBackup (leaves.made f there)⟩

/-- The directory of the backups on a host of slashes. -/
def homeBackups : BackupHost where
  separator c := c == '/'
  listed c separates := by simp [beq_iff_eq.mp separates]
  slash := '/'
  cut := rfl
  cwd := ["home".toList]
  dir := ["home".toList, "BeidarPOS_V3".toList, "backups".toList]
  proper := by decide
  whole := by
    have plain : ["home".toList, "BeidarPOS_V3".toList, "backups".toList].all (·.all (· != '/')) = true := by decide
    intro name member c inside
    have other := List.all_eq_true.mp (List.all_eq_true.mp plain name member) c inside
    simpa using other

/-- A backup, and eight days later a turn that cannot write: none is left. -/
theorem backups_left_iff_full :
    listBackups (backupsAfter homeBackups [.create 0 0 true, .automated 691200000 691200000 691200000 false fun _ => true]) = [] := by
  have left := backups_left_iff homeBackups [.create 0 0 true] 691200000 691200000 691200000 false
    ⟨by decide, by decide⟩ (by simp [BackupStep.Spares])
  refine not_not.mp fun some => ?_
  obtain ⟨step, member, w, wrote, young⟩ := left.mp some
  rcases List.mem_cons.mp member with rfl | member
  · cases wrote
    exact absurd young (by decide)
  · rw [List.mem_singleton.mp member] at wrote
    cases wrote

end Worker

end BeidarPos
