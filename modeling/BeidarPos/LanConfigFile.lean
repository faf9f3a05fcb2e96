import BeidarPos.PinnedCertificate
import BeidarPos.Runs

/-! The configuration file of a client machine. Every pairing and every disconnect starts a save
of its own, which reads the memory in one step and writes the file in another; saves that
overlap write in any order. -/
namespace BeidarPos

/-- What is in the file when a configuration has been saved. -/
def savedFile (config : LanConfig) : Option LanConfig := if config.serverAddress = "" then none else some config

/-- The operator's calls, and the two steps of a save that succeeds. -/
def LanEvent.Saving : LanEvent → Prop
  | .connectToServer _ _ _ _ | .disconnectFromServer | .saveReads _ | .saveWrites _ true => True
  | _ => False

namespace LanDevice

/-- The file holds the state in memory, and a process that starts takes it up again. -/
structure Resumes (d : LanDevice) : Prop where
  file : d.file = savedFile d.client.config
  config : (launch d.file).client.config = d.client.config
  clientMode : (launch d.file).client.clientMode = d.client.clientMode

/-- No save is under way, and the file agrees. -/
def Settled (d : LanDevice) : Prop := d.saves = [] → d.Resumes

/-- The write that leaves no save under way puts what the memory would put now. -/
def WritesCurrent : LanEvent → LanDevice → Prop
  | .saveWrites 0 _, d => ∀ config, d.saves = [.writing config] → savedFile config = savedFile d.client.config
  | _, _ => True

/-- A client is paired with an address and a token, or not at all. -/
def Sound (c : LanClient) : Prop :=
  (c.clientMode = true ∧ c.config.usable = true) ∨ (c.clientMode = false ∧ c.config = ⟨"", "", "", ""⟩)

section Steps

variable {d : LanDevice} {parse : String → Option ParsedURL}

theorem usable_iff {config : LanConfig} :
    config.usable = true ↔ config.serverAddress ≠ "" ∧ config.sessionToken ≠ "" := by
  simp [LanConfig.usable]

theorem registered_sound {address secret fingerprint : String} {pin : HttpClient} {answer : PeerAnswer RegisterBody}
    {c : LanClient} (named : address ≠ "")
    (accepted : LanClient.registered address secret fingerprint pin answer = .ok c) : Sound c := by
  unfold LanClient.registered at accepted
  split at accepted
  · split at accepted <;> cases accepted
  · split at accepted
    · cases accepted
    · split at accepted
      · cases accepted
      · next token _ given =>
        cases accepted
        exact .inl ⟨rfl, usable_iff.mpr ⟨named, given⟩⟩

theorem connected_sound {met : PairingAnswers} {serverIP : String} {port : Int} {secret : String} {c : LanClient}
    (connected : (LanClient.connectToServer met serverIP port secret).1 = .ok c) : Sound c := by
  unfold LanClient.connectToServer at connected
  cases pinged : met.ping with
  | error cause => simp [pinged] at connected
  | ok ping =>
    cases answered : met.register with
    | error cause =>
      simp only [pinged, answered, handshake_first] at connected
      split at connected <;> cases connected
    | ok answer =>
      simp only [pinged, answered, handshake_first] at connected
      split at connected
      · cases connected
      · cases shaken : (HttpClient.secure ping.peer.fingerprint).handshake answer.peer with
        | error cause => simp [shaken] at connected
        | ok client =>
          simp only [shaken] at connected
          exact registered_sound (by simp) connected

theorem launch_resumes {config : LanConfig} (usable : config.usable = true) :
    (launch (some config)).client.config = config ∧ (launch (some config)).client.clientMode = true := by
  rw [launch_usable rfl usable]
  exact ⟨rfl, rfl⟩

/-- A file that cannot be used leaves the process unpaired. -/
theorem launch_ignores {config : LanConfig} (unusable : ¬config.usable = true) :
    (launch (some config)).client = LanClient.new := by
  simp [launch, LanClient.loadSavedLanConfig, unusable]

theorem launch_sound (file : Option LanConfig) : Sound (launch file).client := by
  cases file with
  | none => exact .inr ⟨rfl, rfl⟩
  | some config =>
    by_cases usable : config.usable = true
    · obtain ⟨same, paired⟩ := launch_resumes usable
      exact .inl ⟨paired, same.symm ▸ usable⟩
    · rw [launch_ignores usable]
      exact .inr ⟨rfl, rfl⟩

theorem savedFile_usable {config : LanConfig} (usable : config.usable = true) : savedFile config = some config :=
  if_neg (usable_iff.mp usable).1

/-- A sound state is resumed when the file holds it. -/
theorem resumes_iff (sound : Sound d.client) : d.Resumes ↔ d.file = savedFile d.client.config := by
  refine ⟨Resumes.file, fun same => ?_⟩
  obtain ⟨paired, usable⟩ | ⟨unpaired, blank⟩ := sound
  · rw [savedFile_usable usable] at same
    obtain ⟨config, mode⟩ := launch_resumes usable
    exact ⟨same.trans (savedFile_usable usable).symm, same ▸ config, same ▸ mode.trans paired.symm⟩
  · have empty : d.file = none := by rw [same, blank]; rfl
    exact ⟨same, by rw [empty, blank]; rfl, by rw [empty, unpaired]; rfl⟩

/-- The file a process starts with holds the state it takes up, if it can be used. -/
theorem launch_settled_iff (file : Option LanConfig) :
    (launch file).Settled ↔ ∀ config ∈ file, config.usable = true := by
  have idle : (launch file).saves = [] := rfl
  constructor
  · rintro settled config rfl
    have same := (settled idle).file
    by_contra unusable
    rw [launch_ignores unusable] at same
    cases same
  · intro usable _
    refine (resumes_iff (launch_sound file)).mpr ?_
    cases file with
    | none => rfl
    | some config =>
      rw [(launch_resumes (usable config rfl)).1]
      exact (savedFile_usable (usable config rfl)).symm

theorem paired_effect (outcome : Except Text LanClient) :
    d.paired outcome = d ∨
      ∃ c, outcome = .ok c ∧ (d.paired outcome).client = c ∧ (d.paired outcome).saves = d.saves ++ [.begins] := by
  cases outcome with
  | error cause => exact .inl rfl
  | ok c => exact .inr ⟨c, rfl, rfl, rfl⟩

theorem saveReads_frame (task : Nat) :
    (d.saveReads task).client = d.client ∧ (d.saveReads task).file = d.file ∧
      ((d.saveReads task).saves = [] ↔ d.saves = []) := by
  unfold saveReads
  split <;> simp

theorem saveWrites_effect (task : Nat) :
    (d.saveWrites task true = d ∧ ∀ config, d.saves[task]? ≠ some (.writing config)) ∨
      ∃ config, d.saves[task]? = some (.writing config) ∧ (d.saveWrites task true).client = d.client ∧
        (d.saveWrites task true).saves = d.saves.eraseIdx task ∧ (d.saveWrites task true).file = savedFile config := by
  unfold saveWrites
  split
  · next config held => exact .inr ⟨config, held, rfl, rfl, rfl⟩
  · next other => exact .inl ⟨rfl, other⟩

/-- No save is left after a write exactly when it was the only one. -/
theorem eraseIdx_nil_iff {saves : List SaveTask} {task : Nat} {pending : SaveTask} (held : saves[task]? = some pending) :
    saves.eraseIdx task = [] ↔ task = 0 ∧ saves = [pending] := by
  obtain ⟨bound, found⟩ := List.getElem?_eq_some_iff.mp held
  constructor
  · intro none
    have short : saves.length - 1 = 0 := by rw [← List.length_eraseIdx_of_lt bound, none]; rfl
    obtain ⟨only, rfl⟩ := List.length_eq_one_iff.mp (show saves.length = 1 by omega)
    obtain rfl : task = 0 := by simpa using bound
    simpa using found
  · rintro ⟨rfl, rfl⟩
    rfl

theorem writes_settled_iff {task : Nat} (sound : Sound d.client) (settled : d.Settled) :
    (d.saveWrites task true).Settled ↔ WritesCurrent (.saveWrites task true) d := by
  obtain ⟨same, idle⟩ | ⟨config, held, client, saves, file⟩ := d.saveWrites_effect task
  · rw [same]
    refine ⟨fun _ => ?_, fun _ => settled⟩
    cases task with
    | zero => exact fun config pending => absurd (by simp [pending]) (idle config)
    | succ task => trivial
  · have after : (d.saveWrites task true).Resumes ↔ savedFile config = savedFile d.client.config := by
      rw [resumes_iff (client ▸ sound), file, client]
    rw [Settled, saves, eraseIdx_nil_iff held, after]
    cases task with
    | zero =>
      constructor
      · intro agrees other pending
        obtain rfl : other = config := by simpa [pending] using held
        exact agrees ⟨rfl, pending⟩
      · exact fun current alone => current config alone.2
    | succ task => simp [WritesCurrent]

theorem step_settled_iff {e : LanEvent} (saving : e.Saving) (sound : Sound d.client) (settled : d.Settled) :
    Sound (d.step parse e).1.client ∧ ((d.step parse e).1.Settled ↔ WritesCurrent e d) := by
  cases e with
  | connectToServer serverIP port secret met =>
    obtain same | ⟨c, connected, client, saves⟩ :=
      d.paired_effect (LanClient.connectToServer met serverIP port secret).1
    · exact ⟨by simpa [step, same] using sound, by simpa [step, same, WritesCurrent] using settled⟩
    · have busy : (d.paired (LanClient.connectToServer met serverIP port secret).1).Settled := by
        simp [Settled, saves]
      exact ⟨by simpa [step, client] using connected_sound connected, iff_of_true busy trivial⟩
  | disconnectFromServer =>
    have busy : (d.step parse .disconnectFromServer).1.Settled := by simp [step, Settled]
    exact ⟨.inr ⟨rfl, rfl⟩, iff_of_true busy trivial⟩
  | saveReads task =>
    obtain ⟨client, file, idle⟩ := d.saveReads_frame task
    have sound' : Sound (d.saveReads task).client := client ▸ sound
    refine ⟨sound', iff_of_true (fun none => ?_) trivial⟩
    exact (resumes_iff sound').mpr (file.trans (client.symm ▸ (settled (idle.mp none)).file))
  | saveWrites task written =>
    cases written with
    | false => exact saving.elim
    | true =>
      refine ⟨?_, writes_settled_iff sound settled⟩
      obtain ⟨same, -⟩ | ⟨config, -, client, -, -⟩ := d.saveWrites_effect task
      · exact (congrArg (fun d => Sound (LanDevice.client d)) same).mpr sound
      · exact (congrArg Sound client).mpr sound
  | restart => exact saving.elim
  | reconnectReads => exact saving.elim
  | reconnectDials met => exact saving.elim
  | remoteReads => exact saving.elim
  | remoteSends call met => exact saving.elim

theorem run_settled_iff {events : List LanEvent} (saving : ∀ e ∈ events, e.Saving) {file : Option LanConfig}
    (usable : ∀ config ∈ file, config.usable = true) :
    (∀ front back, events = front ++ back → ((launch file).run parse front).Settled) ↔
      ∀ front e back, events = front ++ e :: back → WritesCurrent e ((launch file).run parse front) :=
  @Runs.always_iff _ _ (fun (d : LanDevice) e => (d.step parse e).1) events (launch file) (fun d => Sound d.client) Settled
    WritesCurrent (launch_sound file) ((launch_settled_iff file).mpr usable) fun front e back parts sound settled =>
      step_settled_iff (saving e (by simp [parts])) sound settled

end Steps

/-- In every run of pairings, disconnects and the two steps of the saves they start, the file
agrees with the memory whenever no save is under way, exactly when each write that leaves
none under way puts what is still in memory. -/
theorem config_settles (parse : String → Option ParsedURL) (file : Option LanConfig) (events : List LanEvent)
    (saving : ∀ e ∈ events, e.Saving) :
    (∀ front back, events = front ++ back → ((launch file).run parse front).Settled) ↔
      (∀ config ∈ file, config.usable = true) ∧
        ∀ front e back, events = front ++ e :: back → WritesCurrent e ((launch file).run parse front) := by
  constructor
  · intro always
    have usable := (launch_settled_iff file).mp (always [] events rfl)
    exact ⟨usable, (run_settled_iff saving usable).mp always⟩
  · rintro ⟨usable, current⟩
    exact (run_settled_iff saving usable).mpr current

section Office

/-- Two pairings in a row, the second save done before the first one writes. -/
def crossedSaves : List LanEvent :=
  [pairsWith "1" officeServer, .saveReads 0, pairsWith "2" officeImpostor, .saveReads 1, .saveWrites 1 true,
    .saveWrites 0 true]

end Office

/-- A pairing whose save runs to its end is in the file. -/
theorem config_settles_office :
    ((launch none).run parseOffice (pairsWith "1234" officeServer :: saved)).Settled := by
  refine (config_settles parseOffice none (pairsWith "1234" officeServer :: saved) ?_).mpr ⟨?_, ?_⟩ _ [] (by simp)
  · simp [saved, pairsWith, LanEvent.Saving]
  · rintro config ⟨⟩
  · intro front e back parts
    rcases front with _ | ⟨a, _ | ⟨b, _ | ⟨c, front⟩⟩⟩ <;> simp [saved] at parts
    · obtain ⟨rfl, -⟩ := parts
      trivial
    · obtain ⟨rfl, rfl, -⟩ := parts
      trivial
    · obtain ⟨rfl, rfl, rfl, -⟩ := parts
      intro config pending
      cases paired : (LanClient.connectToServer (answeredBy officeServer) "10.0.0.1" 8765 "1234").1 with
      | error cause =>
        have accepted : (LanClient.connectToServer (answeredBy officeServer) "10.0.0.1" 8765 "1234").1.isOk = true := by
          decide +kernel
        simp [paired, Except.isOk, Except.toBool] at accepted
      | ok c =>
        simp only [run, step, LanDevice.paired, launch, saveReads, pairsWith, List.foldl_cons, paired, List.nil_append,
          List.length_cons, List.length_nil, zero_add, Order.lt_one_iff, getElem?_pos, List.getElem_cons_zero,
          List.set_cons_zero, List.foldl_nil, List.cons.injEq, SaveTask.writing.injEq, and_true] at pending ⊢
        rw [pending]

/-- The save of the first pairing writes last, and the file keeps the first server. -/
theorem config_settles_crossed :
    (∀ e ∈ crossedSaves, e.Saving) ∧ ((launch none).run parseOffice crossedSaves).saves = [] ∧
      ((launch none).run parseOffice crossedSaves).client.serverFingerprintClient = "BB:02" ∧
      ((launch none).run parseOffice crossedSaves).file.map LanConfig.serverFingerprint = some "AA:01" ∧
      ¬((launch none).run parseOffice crossedSaves).Settled := by
  have idle : ((launch none).run parseOffice crossedSaves).saves = [] := by
    rw [← List.isEmpty_iff]
    decide +kernel
  refine ⟨?_, idle, by decide +kernel, by decide +kernel, fun settled => ?_⟩
  · simp [crossedSaves, pairsWith, LanEvent.Saving]
  · have same := congrArg (Option.map LanConfig.serverFingerprint) (settled idle).file
    revert same
    decide +kernel

end LanDevice

end BeidarPos
