import BeidarPos.PinnedCertificate
import BeidarPos.Runs
import BeidarPos.Staff

/-! Updates of the desktop program. A check reads a release from one of two servers; its notes may
state a checksum, which a download and the start of an installer are held to. Versions are
compared by three numbers. -/
namespace BeidarPos

/-- `fmt.Sscanf` with `%d`: blanks but no newline, a sign, digits; 0 for what is none or too large. -/
def sscanfInt (text : List Char) : Int :=
  let rest := text.dropWhile fun c => decide (c ∈ whiteSpace ∧ c ≠ '\n')
  let negative := rest.head? = some '-'
  let digits := (if rest.head? = some '-' ∨ rest.head? = some '+' then rest.tail else rest).takeWhile Char.isDigit
  let value : Int := digits.foldl (fun n c => 10 * n + (c.toNat - '0'.toNat)) 0
  let signed := if negative then -value else value
  if -2^63 ≤ signed ∧ signed < 2^63 then signed else 0

def trimPrefixV (version : String) : List Char :=
  match version.toList with
  | 'v' :: rest => rest
  | text => text

def versionParts (version : String) : List (List Char) := (trimPrefixV version).splitOn '.'

/-- The number of a part, 0 where there is none. -/
def partNumber (parts : List (List Char)) (i : Nat) : Int := ((parts[i]?).map sscanfInt).getD 0

def compareVersions (v1 v2 : String) : Int :=
  let parts1 := versionParts v1
  let parts2 := versionParts v2
  ([0, 1, 2].findSome? fun i =>
    let n1 := partNumber parts1 i
    let n2 := partNumber parts2 i
    if n1 > n2 then some 1 else if n1 < n2 then some (-1) else none).getD 0

structure GitHubAsset where
  name : String
  size : Int
  browserDownloadURL : String

structure GitHubRelease where
  tagName : String
  body : String
  publishedAt : String
  prerelease : Bool
  assets : List GitHubAsset

structure UpdateInfo where
  version : String
  downloadURL : String
  releaseNotes : String
  size : Int
  checksum : String
  releaseDate : String
  updateAvailable : Bool
  isPrerelease : Bool

structure UpdateConfig where
  skippedVersion : String
  allowPrerelease : Bool

section Release

/-- The first installer, else the first program with an address. -/
def pickAsset (p : Platform) : List GitHubAsset → String × Int → String × Int
  | [], found => found
  | asset :: rest, found =>
    let name := (toLower p asset.name).toList
    if ".exe".toList <:+ name then
      if "installer".toList <:+: name ∨ "setup".toList <:+: name then (asset.browserDownloadURL, asset.size)
      else pickAsset p rest (if found.1 = "" then (asset.browserDownloadURL, asset.size) else found)
    else pickAsset p rest found

def isHexDigit (c : Char) : Bool := inRange '0' '9' c || inRange 'a' 'f' c || inRange 'A' 'F' c

/-- The checksum that begins a line about an installer. -/
def checksumOfLine (line : List Char) : Option String :=
  let line := trimSpace (String.ofList line)
  if 64 < line.utf8ByteSize ∧ (".exe".toList <:+: line.toList ∨ "installer".toList <:+: line.toList) then
    match (line.toList.splitOnP fun c => decide (c ∈ whiteSpace)).filter (· ≠ []) with
    | first :: _ :: _ =>
      if (String.ofList first).utf8ByteSize = 64 ∧ first.all isHexDigit = true then some (String.ofList first) else none
    | _ => none
  else none

def statedChecksum (body : String) : String := ((body.toList.splitOn '\n').findSome? checksumOfLine).getD ""

def parseRelease (p : Platform) (currentVersion : String) (config : UpdateConfig) (release : GitHubRelease) : UpdateInfo :=
  let asset := pickAsset p release.assets ("", 0)
  let version := String.ofList (trimPrefixV release.tagName)
  { version := version
    downloadURL := asset.1
    releaseNotes := release.body
    size := asset.2
    checksum := statedChecksum release.body
    releaseDate := release.publishedAt
    updateAvailable := decide (0 < compareVersions version currentVersion) &&
      !(decide (config.skippedVersion = version) || (release.prerelease && !config.allowPrerelease))
    isPrerelease := release.prerelease }

/-- A server answers with a release, that there is none, or not in a way that counts. -/
inductive ReleaseAnswer where
  | release (release : GitHubRelease)
  | notFound
  | failed

/-- The second server is asked when the first one failed. -/
def releaseOf (primary fallback : ReleaseAnswer) : Option GitHubRelease :=
  match primary, fallback with
  | .release release, _ => some release
  | .failed, .release release => some release
  | _, _ => none

end Release

section Order

/-- The three numbers of a version. -/
def versionNumbers (version : String) : List Int := [0, 1, 2].map (partNumber (versionParts version))

/-- A version is above another when its numbers are, read from the left. -/
theorem compareVersions_pos (v1 v2 : String) : 0 < compareVersions v1 v2 ↔ versionNumbers v2 < versionNumbers v1 := by
  simp only [compareVersions, versionNumbers, List.map_cons, List.map_nil, List.findSome?_cons, List.findSome?_nil]
  generalize partNumber (versionParts v1) 0 = a₀
  generalize partNumber (versionParts v1) 1 = a₁
  generalize partNumber (versionParts v1) 2 = a₂
  generalize partNumber (versionParts v2) 0 = b₀
  generalize partNumber (versionParts v2) 1 = b₁
  generalize partNumber (versionParts v2) 2 = b₂
  simp only [List.cons_lt_cons_iff, List.not_lt_nil, and_false, or_false]
  rcases lt_trichotomy a₀ b₀ with first | rfl | first
  · have behind : ¬ b₀ < a₀ := by omega
    simp [first, behind, first.ne']
  · rcases lt_trichotomy a₁ b₁ with second | rfl | second
    · have behind : ¬ b₁ < a₁ := by omega
      simp [second, behind, second.ne']
    · rcases lt_trichotomy a₂ b₂ with third | rfl | third
      · have behind : ¬ b₂ < a₂ := by omega
        simp [third, behind]
      · simp
      · simp [third]
    · simp [second]
  · simp [first]

end Order

/-- Releases whose programs were each offered to the one before, and installed: a program has
the version of its release. -/
def UpdatesFrom (p : Platform) : List String → Prop :=
  List.IsChain fun current next => ∃ config release,
    (parseRelease p current config release).updateAvailable = true ∧ (parseRelease p current config release).version = next

theorem offered_above {p : Platform} {current : String} {config : UpdateConfig} {release : GitHubRelease}
    (offered : (parseRelease p current config release).updateAvailable = true) :
    versionNumbers current < versionNumbers (parseRelease p current config release).version := by
  obtain ⟨above, -⟩ := Bool.and_eq_true_iff.mp offered
  exact (compareVersions_pos _ _).mp (of_decide_eq_true above)

/-- Updates only go up, however releases come, are skipped or allowed: none is offered to a
program that has been it before. -/
theorem updates_ascend (p : Platform) (versions : List String) (updates : UpdatesFrom p versions) :
    (versions.Pairwise fun earlier later => versionNumbers earlier < versionNumbers later) ∧
    ∀ current ∈ versions.getLast?, ∀ config release,
      (parseRelease p current config release).version ∈ versions →
      (parseRelease p current config release).updateAvailable = false := by
  have ascending : versions.Pairwise fun earlier later => versionNumbers earlier < versionNumbers later := by
    refine List.IsChain.pairwise (updates.imp ?_)
    rintro current next ⟨config, release, offered, rfl⟩
    exact offered_above offered
  refine ⟨ascending, fun current last config release known => ?_⟩
  by_contra offered
  have above := offered_above (Bool.not_eq_false _ ▸ offered)
  obtain ⟨front, rfl⟩ := List.getLast?_eq_some_iff.mp last
  rcases List.mem_append.mp known with before | same
  · have below := (List.pairwise_append.mp ascending).2.2 _ before current (List.mem_singleton_self _)
    exact absurd above (lt_asymm below)
  · rw [List.mem_singleton.mp same] at above
    exact lt_irrefl _ above

def plainRelease (tagName : String) : GitHubRelease := ⟨tagName, "", "", false, []⟩

/-- From a development build over 1.9 to 1.10. -/
theorem updates_ascend_ten :
    (["dev", "1.9.0", "1.10.0"].Pairwise fun earlier later => versionNumbers earlier < versionNumbers later) ∧
    ∀ current ∈ ["dev", "1.9.0", "1.10.0"].getLast?, ∀ config release,
      (parseRelease ⟨id, fun _ _ => .error "", fun _ _ => false⟩ current config release).version ∈ ["dev", "1.9.0", "1.10.0"] →
      (parseRelease ⟨id, fun _ _ => .error "", fun _ _ => false⟩ current config release).updateAvailable = false := by
  refine updates_ascend _ _ (List.isChain_cons_cons.mpr ⟨?_, List.isChain_cons_cons.mpr ⟨?_, List.isChain_singleton _⟩⟩)
  · exact ⟨⟨"", false⟩, plainRelease "v1.9.0", by decide +kernel, by decide +kernel⟩
  · exact ⟨⟨"", false⟩, plainRelease "v1.10.0", by decide +kernel, by decide +kernel⟩

/-- How one attempt at a download ends: before the file is opened, on the way, or at its end. -/
inductive DownloadAttempt (γ : Type) where
  | refused
  | broken (part : γ)
  | whole (content : γ)

/-- The contents of files, as the program sees them. -/
structure FileCalls (γ : Type) where
  size : γ → Nat
  sha256 : γ → String

/-- The program, the disk, and the installers it started. -/
structure UpdateWorld (γ : Type) where
  running : Bool
  currentVersion : String
  config : UpdateConfig
  info : Option UpdateInfo
  files : String → Option γ
  started : List (String × γ)

inductive UpdateCall (γ : Type) where
  | checkForUpdates (primary fallback : ReleaseAnswer)
  | downloadUpdate (removed : Bool) (first second third : DownloadAttempt γ)
  | installUpdate (installerPath : String) (launches : Bool)
  | setUpdateConfig (config : UpdateConfig)
  | skipVersion (version : String)

/-- A call of the program, a change that something else makes on the disk, or a new start. -/
inductive UpdateStep (γ : Type) where
  | call (call : UpdateCall γ)
  | disk (path : String) (content : Option γ)
  | restart (version : String)

section World

variable {γ : Type} (p : Platform) (calls : FileCalls γ) (tempPath : String)

/-- The attempts of `DownloadUpdate`, over what is at the path; a wrong checksum ends them. -/
def downloadAttempts (expectedChecksum : String) : Option γ → List (DownloadAttempt γ) → Option γ
  | file, [] => file
  | file, .refused :: rest => downloadAttempts expectedChecksum file rest
  | _, .broken part :: rest => downloadAttempts expectedChecksum (some part) rest
  | _, .whole content :: rest =>
    if calls.size content = 0 then downloadAttempts expectedChecksum (some content) rest
    else if expectedChecksum ≠ "" ∧ calls.sha256 content ≠ expectedChecksum then none
    else some content

/-- Whether the checksum of the last release that was read admits a file. -/
def admitsInstaller (info : Option UpdateInfo) (content : γ) : Bool :=
  info.all fun info => decide (info.checksum = "") || equalFold (calls.sha256 content) info.checksum

namespace UpdateWorld

variable (w : UpdateWorld γ)

def checkForUpdates (primary fallback : ReleaseAnswer) : UpdateWorld γ :=
  match releaseOf primary fallback with
  | some release => { w with info := some (parseRelease p w.currentVersion w.config release) }
  | none => w

/-- The handler passes on the checksum of the last release that was read. -/
def downloadUpdate (removed : Bool) (attempts : List (DownloadAttempt γ)) : UpdateWorld γ :=
  let file := if removed then none else w.files tempPath
  let left := downloadAttempts calls ((w.info.map UpdateInfo.checksum).getD "") file attempts
  { w with files := Function.update w.files tempPath left }

/-- An installer that starts ends the program. -/
def installUpdate (installerPath : String) (launches : Bool) : UpdateWorld γ :=
  match w.files installerPath with
  | none => w
  | some content =>
    if admitsInstaller calls w.info content && launches then
      { w with running := false, started := w.started ++ [(installerPath, content)] }
    else w

def called : UpdateCall γ → UpdateWorld γ
  | .checkForUpdates primary fallback => w.checkForUpdates p primary fallback
  | .downloadUpdate removed first second third => w.downloadUpdate calls tempPath removed [first, second, third]
  | .installUpdate installerPath launches => w.installUpdate calls installerPath launches
  | .setUpdateConfig config => { w with config := config }
  | .skipVersion version => { w with config := { w.config with skippedVersion := version } }

/-- A program that has ended does nothing. -/
def step (w : UpdateWorld γ) : UpdateStep γ → UpdateWorld γ
  | .call call => if w.running then w.called p calls tempPath call else w
  | .disk path content => { w with files := Function.update w.files path content }
  | .restart version => { w with running := true, currentVersion := version, info := none }

/-- A program that was just started. -/
def fresh (version : String) (config : UpdateConfig) (files : String → Option γ) : UpdateWorld γ :=
  ⟨true, version, config, none, files, []⟩

end UpdateWorld

/-- The last release that was read since the program started. -/
def lastRelease (steps : List (UpdateStep γ)) : Option GitHubRelease :=
  steps.foldl (fun last step =>
    match step with
    | .call (.checkForUpdates primary fallback) => (releaseOf primary fallback).or last
    | .restart _ => none
    | _ => last) none

/-- The notes of the last release state no checksum, or that of the content. -/
def Vouched (steps : List (UpdateStep γ)) (content : γ) : Prop :=
  ∀ release ∈ lastRelease steps, statedChecksum release.body ≠ "" →
    equalFold (calls.sha256 content) (statedChecksum release.body) = true

variable {p calls tempPath}

/-- A running program knows the last release it read, and no other. -/
def Knows (steps : List (UpdateStep γ)) (w : UpdateWorld γ) : Prop :=
  w.running = true → w.info.map UpdateInfo.checksum = (lastRelease steps).map fun release => statedChecksum release.body

theorem lastRelease_snoc (steps : List (UpdateStep γ)) (step : UpdateStep γ) : lastRelease (steps ++ [step]) =
    match step with
    | .call (.checkForUpdates primary fallback) => (releaseOf primary fallback).or (lastRelease steps)
    | .restart _ => none
    | _ => lastRelease steps := by
  rw [lastRelease, Runs.foldl_snoc]
  rfl

theorem called_knows {steps : List (UpdateStep γ)} {w : UpdateWorld γ} (knows : Knows steps w) (running : w.running = true)
    (call : UpdateCall γ) : Knows (steps ++ [.call call]) (w.called p calls tempPath call) := by
  have known := knows running
  intro runs
  rw [lastRelease_snoc]
  cases call with
  | checkForUpdates primary fallback =>
    simp only [UpdateWorld.called, UpdateWorld.checkForUpdates]
    cases releaseOf primary fallback with
    | none => exact known
    | some release => rfl
  | installUpdate installerPath launches =>
    simp only [UpdateWorld.called, UpdateWorld.installUpdate] at runs ⊢
    split at runs
    · exact known
    · split
      · exact known
      · exact known
  | downloadUpdate removed first second third => exact known
  | setUpdateConfig config => exact known
  | skipVersion version => exact known

theorem step_knows {steps : List (UpdateStep γ)} {w : UpdateWorld γ} (knows : Knows steps w) (step : UpdateStep γ) :
    Knows (steps ++ [step]) (w.step p calls tempPath step) := by
  cases step with
  | call call =>
    simp only [UpdateWorld.step]
    split
    · next running => exact called_knows knows running call
    · next ended => exact fun runs => absurd runs ended
  | disk path content =>
    intro runs
    rw [lastRelease_snoc]
    exact knows runs
  | restart version =>
    intro runs
    rw [lastRelease_snoc]
    rfl

theorem run_knows {start : UpdateWorld γ} (unread : start.info = none) (steps : List (UpdateStep γ)) :
    Knows steps (steps.foldl (UpdateWorld.step p calls tempPath) start) := by
  induction steps using List.reverseRecOn with
  | nil => exact fun _ => by rw [List.foldl_nil, unread]; rfl
  | append_singleton front step ih =>
    rw [Runs.foldl_snoc]
    exact step_knows ih step

theorem admits_iff {steps : List (UpdateStep γ)} {w : UpdateWorld γ} (knows : Knows steps w) (running : w.running = true)
    (content : γ) : admitsInstaller calls w.info content = true ↔ Vouched calls steps content := by
  have known := knows running
  unfold admitsInstaller Vouched
  cases released : lastRelease steps with
  | none =>
    rw [released, Option.map_none, Option.map_eq_none_iff] at known
    simp [known]
  | some release =>
    rw [released, Option.map_some] at known
    obtain ⟨info, read, same⟩ := Option.map_eq_some_iff.mp known
    simp only [read, same, Option.all_some, Option.mem_def, Option.some.injEq, forall_eq', Bool.or_eq_true, decide_eq_true_iff]
    exact or_iff_not_imp_left

/-- An installer is started exactly if there is one at the path that is admitted. -/
theorem installUpdate_started (w : UpdateWorld γ) (installerPath : String) (launches : Bool) (path : String) (content : γ) :
    (path, content) ∈ (w.installUpdate calls installerPath launches).started ↔ (path, content) ∈ w.started ∨
      (installerPath = path ∧ launches = true ∧ w.files path = some content ∧ admitsInstaller calls w.info content = true) := by
  unfold UpdateWorld.installUpdate
  cases found : w.files installerPath with
  | none =>
    refine (or_iff_left ?_).symm
    rintro ⟨rfl, -, there, -⟩
    rw [found] at there
    cases there
  | some stored =>
    simp only
    split
    · next starts =>
      obtain ⟨admitted, launched⟩ := Bool.and_eq_true_iff.mp starts
      rw [List.mem_append, List.mem_singleton]
      refine or_congr_right ⟨?_, ?_⟩
      · rintro ⟨⟩
        exact ⟨rfl, launched, found, admitted⟩
      · rintro ⟨rfl, -, there, -⟩
        cases found.symm.trans there
        rfl
    · next stays =>
      refine (or_iff_left ?_).symm
      rintro ⟨rfl, launched, there, admitted⟩
      cases found.symm.trans there
      exact stays (by rw [admitted, launched]; rfl)

/-- Nothing but such a call starts one. -/
theorem step_started (w : UpdateWorld γ) (step : UpdateStep γ) (path : String) (content : γ) :
    (path, content) ∈ (w.step p calls tempPath step).started ↔ (path, content) ∈ w.started ∨
      (step = .call (.installUpdate path true) ∧ w.running = true ∧ w.files path = some content ∧
        admitsInstaller calls w.info content = true) := by
  cases step with
  | call call =>
    cases running : w.running with
    | false => simp [UpdateWorld.step, running]
    | true =>
      simp only [UpdateWorld.step, running, if_true]
      cases call with
      | installUpdate installerPath launches =>
        rw [UpdateWorld.called, installUpdate_started]
        simp [and_assoc]
      | checkForUpdates primary fallback =>
        simp only [UpdateWorld.called, UpdateWorld.checkForUpdates]
        cases releaseOf primary fallback <;> simp
      | downloadUpdate removed first second third => simp [UpdateWorld.called, UpdateWorld.downloadUpdate]
      | setUpdateConfig config => simp [UpdateWorld.called]
      | skipVersion version => simp [UpdateWorld.called]
  | disk other content => simp [UpdateWorld.step]
  | restart version => simp [UpdateWorld.step]

end World

end BeidarPos
