import BeidarPos.Json

/-! The sealed file of secrets. A process reads it once, under a key that is derived from the
names of the machine, and writes all secrets back whenever it sets one: a process that cannot
open what it finds goes on with none, and its first save is the end of the others. -/
namespace BeidarPos

open Json

/-- `secureconfig.Secrets`. -/
structure MachineSecrets where
  supabaseURL : String
  supabaseAnonKey : String
  googleOAuthClientID : String
  googleOAuthClientSecret : String
  geminiAPIKey : String
  geminiAPIKeys : List String
  groqAPIKey : String
deriving DecidableEq

def MachineSecrets.none : MachineSecrets := ⟨"", "", "", "", "", [], ""⟩

/-- Every field is `omitempty`. -/
def secretFields : List (Field Unit MachineSecrets) := [
  Codec.omitZero .string rfl "supabase_url" MachineSecrets.supabaseURL fun v s => { s with supabaseURL := v },
  Codec.omitZero .string rfl "supabase_anon_key" MachineSecrets.supabaseAnonKey fun v s => { s with supabaseAnonKey := v },
  Codec.omitZero .string rfl "google_oauth_client_id" MachineSecrets.googleOAuthClientID
    fun v s => { s with googleOAuthClientID := v },
  Codec.omitZero .string rfl "google_oauth_client_secret" MachineSecrets.googleOAuthClientSecret
    fun v s => { s with googleOAuthClientSecret := v },
  Codec.omitZero .string rfl "gemini_api_key" MachineSecrets.geminiAPIKey fun v s => { s with geminiAPIKey := v },
  Codec.omitZero (.list .string) rfl "gemini_api_keys" MachineSecrets.geminiAPIKeys fun v s => { s with geminiAPIKeys := v },
  Codec.omitZero .string rfl "groq_api_key" MachineSecrets.groqAPIKey fun v s => { s with groqAPIKey := v }]

def secretsJson : Codec Unit MachineSecrets := record secretFields MachineSecrets.none (by decide)

theorem secrets_read_back (s : MachineSecrets) : secretsJson.decode (secretsJson.encode s) = some s := by
  rw [secretsJson.law]
  simp [secretsJson, record, secretFields, Codec.omitZero, Codec.string, Codec.list]

/-- What a process finds around it. -/
structure SecretHost where
  windows : Bool
  machineGuid : Option String
  /-- The contents of the files a Unix machine is identified by, in order. -/
  idFiles : List (Option String)
  hostname : String
  getenv : String → String
  /-- Whether there is a directory for configurations. -/
  configDir : Bool

namespace SecretHost

variable (host : SecretHost)

def readMachineID : String :=
  if host.windows then
    match host.machineGuid.filter (· ≠ "") with
    | some guid => guid
    | none => if host.hostname = "" then "windows-unknown" else host.hostname
  else
    match host.idFiles.findSome? id with
    | some data => data
    | none => if host.hostname = "" then "unix-unknown" else host.hostname

/-- Keys are told apart by the seeds they are derived from. -/
def deriveMachineKey : String := "beidar-v3-secure-" ++ host.hostname ++ "-" ++ host.readMachineID

def deriveLegacyMachineKey : String := "beidar-v3-secure-" ++ host.hostname ++ "-windows-default"

/-- The first of two variables that is set, else what there was. -/
def override (first second old : String) : String :=
  if host.getenv first ≠ "" then host.getenv first else if host.getenv second ≠ "" then host.getenv second else old

def overrides (s : MachineSecrets) : MachineSecrets := { s with
  supabaseURL := host.override "BEIDAR_SUPABASE_URL" "VITE_SUPABASE_URL" s.supabaseURL
  supabaseAnonKey := host.override "BEIDAR_SUPABASE_KEY" "VITE_SUPABASE_ANON_KEY" s.supabaseAnonKey }

end SecretHost

/-- Sealing under the key of a seed, with a nonce. -/
structure Sealing (σ : Type) where
  encrypt : String → Nat → Value Unit → σ
  decrypt : String → σ → Option (Value Unit)

/-- What is sealed is opened under its own key, and under no other. -/
structure Sealing.Authentic {σ : Type} (calls : Sealing σ) : Prop where
  opens : ∀ seed nonce v, calls.decrypt seed (calls.encrypt seed nonce v) = some v
  refuses : ∀ seed other nonce v, other ≠ seed → calls.decrypt other (calls.encrypt seed nonce v) = none

/-- How a write of the file ends: whole, before anything was changed, or with something else in the file. -/
inductive SecretWrite (σ : Type) where
  | whole (nonce : Nat)
  | refused
  | torn (content : σ)

/-- The file, and what the process has loaded. -/
structure SecretStore (σ : Type) where
  file : Option σ
  loadedSecrets : Option MachineSecrets

inductive SecretEdit where
  | setGeminiAPIKey (key : String)
  | setGoogleOAuthSecrets (clientID clientSecret : String)
  | setGroqAPIKey (key : String)
  | setGeminiAPIKeys (keys : List String)

def SecretEdit.apply : SecretEdit → MachineSecrets → MachineSecrets
  | .setGeminiAPIKey key, s => { s with geminiAPIKey := key }
  | .setGoogleOAuthSecrets clientID clientSecret, s =>
    { s with googleOAuthClientID := clientID, googleOAuthClientSecret := clientSecret }
  | .setGroqAPIKey key, s => { s with groqAPIKey := key }
  | .setGeminiAPIKeys keys, s => { s with geminiAPIKeys := keys }

/-- A use loads the secrets when they are not loaded, which may save them; setting one saves them. -/
inductive SecretOp (σ : Type) where
  | load (migration : SecretWrite σ)
  | set (edit : SecretEdit) (migration save : SecretWrite σ)
  | resetCache

section Code

variable {σ : Type} (calls : Sealing σ) (host : SecretHost)

def saveSecrets (write : SecretWrite σ) (s : MachineSecrets) (file : Option σ) : Option σ :=
  if host.configDir then
    match write with
    | .whole nonce => some (calls.encrypt host.deriveMachineKey nonce (secretsJson.encode s))
    | .refused => file
    | .torn content => some content
  else file

/-- The secrets in a content, and whether they have to be saved under the new key. -/
def readSecrets (content : σ) : MachineSecrets × Bool :=
  let decrypted := (calls.decrypt host.deriveMachineKey content).bind secretsJson.decode
  if ∃ s ∈ decrypted, s.supabaseURL ≠ "" then (decrypted.getD MachineSecrets.none, false)
  else
    match (calls.decrypt host.deriveLegacyMachineKey content).bind secretsJson.decode with
    | some legacy => if legacy.supabaseURL ≠ "" then (legacy, true) else (decrypted.getD MachineSecrets.none, false)
    | none => (decrypted.getD MachineSecrets.none, false)

namespace SecretStore

def load (migration : SecretWrite σ) (store : SecretStore σ) : SecretStore σ × MachineSecrets :=
  match store.loadedSecrets with
  | some s => (store, s)
  | none =>
    let (s, migrates) := if host.configDir then (store.file.elim (MachineSecrets.none, false) (readSecrets calls host)) else
      (MachineSecrets.none, false)
    let file := if migrates then saveSecrets calls host migration s store.file else store.file
    (⟨file, some (host.overrides s)⟩, host.overrides s)

def step (store : SecretStore σ) : SecretOp σ → SecretStore σ
  | .load migration => (store.load calls host migration).1
  | .set edit migration save =>
    let (loaded, s) := store.load calls host migration
    ⟨saveSecrets calls host save (edit.apply s) loaded.file, some (edit.apply s)⟩
  | .resetCache => { store with loadedSecrets := none }

end SecretStore

/-- The life of one process. -/
structure SecretSession (σ : Type) where
  host : SecretHost
  ops : List (SecretOp σ)

/-- What a session leaves in the file. -/
def SecretSession.run (file : Option σ) (session : SecretSession σ) : Option σ :=
  (session.ops.foldl (SecretStore.step calls session.host) ⟨file, none⟩).file

def secretFileAfter (file : Option σ) (sessions : List (SecretSession σ)) : Option σ :=
  sessions.foldl (SecretSession.run calls) file

/-- The secrets of a process that starts on a file. -/
def recalledSecrets (file : Option σ) : MachineSecrets := ((⟨file, none⟩ : SecretStore σ).load calls host .refused).2

end Code

/-- The secrets that belong to the machine; those of the server come from the environment. -/
inductive SecretName where
  | googleOAuthClientID | googleOAuthClientSecret | geminiAPIKey | geminiAPIKeys | groqAPIKey
deriving DecidableEq

/-- What is held under a name. -/
def MachineSecrets.held (s : MachineSecrets) : SecretName → List String
  | .googleOAuthClientID => [s.googleOAuthClientID].filter (· ≠ "")
  | .googleOAuthClientSecret => [s.googleOAuthClientSecret].filter (· ≠ "")
  | .geminiAPIKey => [s.geminiAPIKey].filter (· ≠ "")
  | .geminiAPIKeys => s.geminiAPIKeys
  | .groqAPIKey => [s.groqAPIKey].filter (· ≠ "")

def SecretEdit.names : SecretEdit → List SecretName
  | .setGeminiAPIKey _ => [.geminiAPIKey]
  | .setGoogleOAuthSecrets _ _ => [.googleOAuthClientID, .googleOAuthClientSecret]
  | .setGroqAPIKey _ => [.groqAPIKey]
  | .setGeminiAPIKeys _ => [.geminiAPIKeys]

theorem apply_held_other {edit : SecretEdit} {k : SecretName} (other : k ∉ edit.names) (s : MachineSecrets) :
    (edit.apply s).held k = s.held k := by
  cases edit <;> cases k <;> first | rfl | simp [SecretEdit.names] at other

/-- What is set does not depend on what was there. -/
theorem apply_held_set {edit : SecretEdit} {k : SecretName} (names : k ∈ edit.names) (s t : MachineSecrets) :
    (edit.apply s).held k = (edit.apply t).held k := by
  cases edit <;> cases k <;> first | rfl | simp [SecretEdit.names] at names

@[simp] theorem overrides_held (host : SecretHost) (s : MachineSecrets) (k : SecretName) : (host.overrides s).held k = s.held k := by
  cases k <;> rfl

@[simp] theorem none_held (k : SecretName) : MachineSecrets.none.held k = [] := by
  cases k <;> rfl

/-- Neither the secret is set nor is a write torn. -/
def SecretOp.Leaves {σ : Type} (k : SecretName) : SecretOp σ → Prop
  | .load migration => ∀ content, migration ≠ .torn content
  | .set edit migration save => k ∉ edit.names ∧ (∀ content, migration ≠ .torn content) ∧ ∀ content, save ≠ .torn content
  | .resetCache => True

/-- Whether a step writes the file when a secret is set. -/
def SecretOp.Writes {σ : Type} : SecretOp σ → Prop
  | .set _ _ (.whole _) => True
  | _ => False

/-- Whether a session saves the secrets. -/
def SecretSession.Saves {σ : Type} (session : SecretSession σ) : Prop :=
  session.host.configDir = true ∧ ∃ op ∈ session.ops, op.Writes

section Files

variable {σ : Type} {calls : Sealing σ} (authentic : calls.Authentic) {host : SecretHost} {k : SecretName}

/-- A file that was sealed under a seed with something under the name. -/
def SealedWith (calls : Sealing σ) (seed : String) (k : SecretName) (value : List String) (file : Option σ) : Prop :=
  ∃ nonce s, file = some (calls.encrypt seed nonce (secretsJson.encode s)) ∧ s.held k = value

include authentic

/-- Under its own seed a content is taken as it is. -/
theorem readSecrets_own (nonce : Nat) (s : MachineSecrets) :
    readSecrets calls host (calls.encrypt host.deriveMachineKey nonce (secretsJson.encode s)) = (s, false) := by
  have opened := authentic.opens host.deriveMachineKey nonce (secretsJson.encode s)
  simp only [readSecrets, opened, Option.bind_some, secrets_read_back, Option.getD_some]
  split
  · rfl
  · next blank =>
    have blank : s.supabaseURL = "" := by simpa using blank
    by_cases same : host.deriveLegacyMachineKey = host.deriveMachineKey
    · rw [same, opened, Option.bind_some, secrets_read_back]
      simp [blank]
    · rw [authentic.refuses _ _ _ _ same]
      rfl

/-- Under the legacy seed a content is taken when it has the address of the server, and else for nothing. -/
theorem readSecrets_legacy {seed : String} (foreign : host.deriveMachineKey ≠ seed) (legacy : host.deriveLegacyMachineKey = seed)
    (nonce : Nat) (s : MachineSecrets) : readSecrets calls host (calls.encrypt seed nonce (secretsJson.encode s)) =
      if s.supabaseURL ≠ "" then (s, true) else (MachineSecrets.none, false) := by
  have shut := authentic.refuses _ _ nonce (secretsJson.encode s) foreign
  have opened := authentic.opens seed nonce (secretsJson.encode s)
  simp [readSecrets, shut, legacy, opened, secrets_read_back]

theorem readSecrets_foreign {seed : String} (foreign : host.deriveMachineKey ≠ seed) (newer : host.deriveLegacyMachineKey ≠ seed)
    (nonce : Nat) (s : MachineSecrets) :
    readSecrets calls host (calls.encrypt seed nonce (secretsJson.encode s)) = (MachineSecrets.none, false) := by
  have shut := authentic.refuses _ _ nonce (secretsJson.encode s) foreign
  have closed := authentic.refuses _ _ nonce (secretsJson.encode s) newer
  simp [readSecrets, shut, closed]

omit authentic

theorem load_loaded {store : SecretStore σ} {s : MachineSecrets} (loaded : store.loadedSecrets = some s)
    (migration : SecretWrite σ) :
    store.load calls host migration = (store, s) := by
  simp only [SecretStore.load, loaded]

theorem load_unconfigured {store : SecretStore σ} (bare : host.configDir = false) (migration : SecretWrite σ) :
    (store.load calls host migration).1.file = store.file := by
  unfold SecretStore.load
  split
  · rfl
  · simp [bare]

theorem load_read {store : SecretStore σ} {content : σ} {s : MachineSecrets} {migrates : Bool} (configured : host.configDir = true)
    (fresh : store.loadedSecrets = none) (file : store.file = some content)
    (read : readSecrets calls host content = (s, migrates)) (migration : SecretWrite σ) :
    store.load calls host migration =
      (⟨if migrates then saveSecrets calls host migration s store.file else store.file, some (host.overrides s)⟩,
        host.overrides s) := by
  simp only [SecretStore.load, fresh, configured, file, if_true, Option.elim_some, read]

/-- Without a directory a session changes no file. -/
theorem step_unconfigured {store : SecretStore σ} (bare : host.configDir = false) (op : SecretOp σ) :
    (store.step calls host op).file = store.file := by
  cases op with
  | load migration => exact load_unconfigured bare migration
  | set edit migration save =>
    have saved : (store.step calls host (.set edit migration save)).file = (store.load calls host migration).1.file := by
      simp [SecretStore.step, saveSecrets, bare]
    rw [saved, load_unconfigured bare]
  | resetCache => rfl

/-- A write that is not torn seals the secrets or changes nothing. -/
theorem saveSecrets_cases (calls : Sealing σ) (host : SecretHost) {write : SecretWrite σ}
    (sound : ∀ content, write ≠ .torn content) (s : MachineSecrets) (file : Option σ) :
    (∃ nonce, write = .whole nonce ∧ host.configDir = true ∧
      saveSecrets calls host write s file = some (calls.encrypt host.deriveMachineKey nonce (secretsJson.encode s))) ∨
    ((host.configDir = false ∨ ∀ nonce, write ≠ .whole nonce) ∧ saveSecrets calls host write s file = file) := by
  unfold saveSecrets
  cases configured : host.configDir with
  | false => exact .inr ⟨.inl rfl, rfl⟩
  | true =>
    cases write with
    | whole nonce => exact .inl ⟨nonce, rfl, rfl, rfl⟩
    | refused => exact .inr ⟨.inr fun nonce same => (by cases same), rfl⟩
    | torn content => exact absurd rfl (sound content)

/-- Whatever the process has loaded has this under the name. -/
def Loaded (k : SecretName) (value : List String) (store : SecretStore σ) : Prop :=
  ∀ s, store.loadedSecrets = some s → s.held k = value

theorem loaded_fresh {value : List String} {file : Option σ} : Loaded k value (⟨file, none⟩ : SecretStore σ) :=
  fun _ none => by cases none

/-- What is set in a sound step stands in the file afterwards, or the file is as it was. -/
theorem step_set {store : SecretStore σ} {edit : SecretEdit} {migration save : SecretWrite σ} {value : List String}
    (leaves : (SecretOp.set edit migration save).Leaves k) (held : (store.load calls host migration).2.held k = value) :
    Loaded k value (store.step calls host (.set edit migration save)) ∧
    ((host.configDir = true ∧ (SecretOp.set edit migration save).Writes ∧
      SealedWith calls host.deriveMachineKey k value (store.step calls host (.set edit migration save)).file) ∨
    (¬(host.configDir = true ∧ (SecretOp.set edit migration save).Writes) ∧
      (store.step calls host (.set edit migration save)).file = (store.load calls host migration).1.file)) := by
  have after : (edit.apply (store.load calls host migration).2).held k = value :=
    (apply_held_other leaves.1 _).trans held
  refine ⟨fun s loaded => ?_, ?_⟩
  · cases loaded
    exact after
  · rcases saveSecrets_cases calls host leaves.2.2 (edit.apply (store.load calls host migration).2)
      (store.load calls host migration).1.file with ⟨nonce, rfl, configured, whole⟩ | ⟨not, same⟩
    · exact .inl ⟨configured, trivial, nonce, _, whole, after⟩
    · refine .inr ⟨fun ⟨configured, writes⟩ => ?_, same⟩
      cases save with
      | whole nonce => exact not.elim (fun bare => by simp [configured] at bare) fun never => never nonce rfl
      | refused => exact writes
      | torn content => exact writes

section Kept

include authentic

variable (configured : host.configDir = true)

include configured

/-- A process that can open the file, and has what is in it. -/
theorem keeps_load {store : SecretStore σ} {value : List String}
    (file : SealedWith calls host.deriveMachineKey k value store.file) (loaded : Loaded k value store)
    (migration : SecretWrite σ) :
    (store.load calls host migration).1.file = store.file ∧ Loaded k value (store.load calls host migration).1 ∧
      (store.load calls host migration).2.held k = value := by
  cases fresh : store.loadedSecrets with
  | some s =>
    rw [load_loaded fresh]
    exact ⟨rfl, loaded, loaded s fresh⟩
  | none =>
    obtain ⟨nonce, s, content, held⟩ := file
    rw [load_read configured fresh content (readSecrets_own authentic nonce s)]
    refine ⟨rfl, fun t same => ?_, (overrides_held host s k).trans held⟩
    cases same
    exact (overrides_held host s k).trans held

theorem keeps_step {store : SecretStore σ} {value : List String}
    (file : SealedWith calls host.deriveMachineKey k value store.file) (loaded : Loaded k value store) {op : SecretOp σ}
    (leaves : op.Leaves k) :
    SealedWith calls host.deriveMachineKey k value (store.step calls host op).file ∧ Loaded k value (store.step calls host op) := by
  cases op with
  | load migration =>
    obtain ⟨same, after, -⟩ := keeps_load authentic configured file loaded migration
    exact ⟨same ▸ file, after⟩
  | set edit migration save =>
    obtain ⟨same, -, held⟩ := keeps_load authentic configured file loaded migration
    obtain ⟨after, ⟨-, -, written⟩ | ⟨-, left⟩⟩ := step_set leaves held
    · exact ⟨written, after⟩
    · exact ⟨(left.trans same).symm ▸ file, after⟩
  | resetCache => exact ⟨file, loaded_fresh⟩

theorem keeps_steps {store : SecretStore σ} {value : List String}
    (file : SealedWith calls host.deriveMachineKey k value store.file) (loaded : Loaded k value store)
    {ops : List (SecretOp σ)} (leave : ∀ op ∈ ops, op.Leaves k) :
    SealedWith calls host.deriveMachineKey k value (ops.foldl (SecretStore.step calls host) store).file ∧
      Loaded k value (ops.foldl (SecretStore.step calls host) store) :=
  List.foldlRecOn (motive := fun store => SealedWith calls host.deriveMachineKey k value store.file ∧ Loaded k value store)
    ops (SecretStore.step calls host) ⟨file, loaded⟩ fun _ kept op member =>
      keeps_step authentic configured kept.1 kept.2 (leave op member)

end Kept

section Losing

include authentic

/-- From a file without the secret nothing comes, whoever sealed it. -/
theorem readSecrets_nothing (host : SecretHost) {seed : String} {file : Option σ} (nothing : SealedWith calls seed k [] file) :
    ∃ content s migrates, file = some content ∧ readSecrets calls host content = (s, migrates) ∧ s.held k = [] := by
  obtain ⟨nonce, s, rfl, held⟩ := nothing
  by_cases own : host.deriveMachineKey = seed
  · subst own
    exact ⟨_, s, false, rfl, readSecrets_own authentic nonce s, held⟩
  · by_cases legacy : host.deriveLegacyMachineKey = seed
    · have read := readSecrets_legacy authentic own legacy nonce s
      split at read
      · exact ⟨_, s, true, rfl, read, held⟩
      · exact ⟨_, MachineSecrets.none, false, rfl, read, none_held k⟩
    · exact ⟨_, MachineSecrets.none, false, rfl, readSecrets_foreign authentic own legacy nonce s, none_held k⟩

theorem lost_load (host : SecretHost) {store : SecretStore σ} (file : ∃ seed, SealedWith calls seed k [] store.file)
    (loaded : Loaded k [] store)
    {migration : SecretWrite σ} (sound : ∀ content, migration ≠ .torn content) :
    (∃ seed, SealedWith calls seed k [] (store.load calls host migration).1.file) ∧
      Loaded k [] (store.load calls host migration).1 ∧ (store.load calls host migration).2.held k = [] := by
  cases fresh : store.loadedSecrets with
  | some s =>
    rw [load_loaded fresh]
    exact ⟨file, loaded, loaded s fresh⟩
  | none =>
    cases configured : host.configDir with
    | false =>
      rw [load_unconfigured configured]
      simp only [SecretStore.load, fresh, configured, Bool.false_eq_true, if_false, overrides_held, none_held, and_true]
      exact ⟨file, fun s same => by cases same; simp⟩
    | true =>
      obtain ⟨seed, sealed⟩ := file
      obtain ⟨content, s, migrates, stored, read, held⟩ := readSecrets_nothing authentic host sealed
      have after : (host.overrides s).held k = [] := (overrides_held host s k).trans held
      rw [load_read configured fresh stored read]
      refine ⟨?_, fun t same => by cases same; exact after, after⟩
      split
      · rcases saveSecrets_cases calls host sound s store.file with ⟨nonce, -, -, written⟩ | ⟨-, same⟩
        · exact ⟨_, nonce, s, written, held⟩
        · exact ⟨seed, same.symm ▸ sealed⟩
      · exact ⟨seed, sealed⟩

theorem lost_step {store : SecretStore σ} (file : ∃ seed, SealedWith calls seed k [] store.file) (loaded : Loaded k [] store)
    {op : SecretOp σ} (leaves : op.Leaves k) :
    (∃ seed, SealedWith calls seed k [] (store.step calls host op).file) ∧ Loaded k [] (store.step calls host op) := by
  cases op with
  | load migration =>
    obtain ⟨after, kept, -⟩ := lost_load authentic host file loaded leaves
    exact ⟨after, kept⟩
  | set edit migration save =>
    obtain ⟨before, -, held⟩ := lost_load authentic host file loaded leaves.2.1
    obtain ⟨after, ⟨-, -, written⟩ | ⟨-, left⟩⟩ := step_set leaves held
    · exact ⟨⟨_, written⟩, after⟩
    · exact ⟨left.symm ▸ before, after⟩
  | resetCache => exact ⟨file, loaded_fresh⟩

theorem lost_steps {store : SecretStore σ} (file : ∃ seed, SealedWith calls seed k [] store.file) (loaded : Loaded k [] store)
    {ops : List (SecretOp σ)} (leave : ∀ op ∈ ops, op.Leaves k) :
    (∃ seed, SealedWith calls seed k [] (ops.foldl (SecretStore.step calls host) store).file) ∧
      Loaded k [] (ops.foldl (SecretStore.step calls host) store) :=
  List.foldlRecOn (motive := fun store => (∃ seed, SealedWith calls seed k [] store.file) ∧ Loaded k [] store)
    ops (SecretStore.step calls host) ⟨file, loaded⟩ fun _ lost op member =>
      lost_step authentic lost.1 lost.2 (leave op member)

end Losing

section Blindness

/-- Nothing is read from the file: it is shut, or holds no server's address under the legacy seed. -/
def Unread (calls : Sealing σ) (host : SecretHost) (file : Option σ) : Prop :=
  ∃ content, file = some content ∧ readSecrets calls host content = (MachineSecrets.none, false)

theorem blind_load {store : SecretStore σ} (unread : Unread calls host store.file) (loaded : Loaded k [] store)
    (migration : SecretWrite σ) :
    (store.load calls host migration).1.file = store.file ∧ Loaded k [] (store.load calls host migration).1 ∧
      (store.load calls host migration).2.held k = [] := by
  cases fresh : store.loadedSecrets with
  | some s =>
    rw [load_loaded fresh]
    exact ⟨rfl, loaded, loaded s fresh⟩
  | none =>
    have nothing : (host.overrides MachineSecrets.none).held k = [] := (overrides_held host _ k).trans (none_held k)
    cases configured : host.configDir with
    | false =>
      refine ⟨load_unconfigured configured migration, fun s same => ?_, ?_⟩
      · simp only [SecretStore.load, fresh, configured, Bool.false_eq_true, if_false, Option.some.injEq] at same
        rw [← same, nothing]
      · simp only [SecretStore.load, fresh, configured, Bool.false_eq_true, if_false, nothing]
    | true =>
      obtain ⟨content, stored, read⟩ := unread
      rw [load_read configured fresh stored read]
      exact ⟨rfl, fun s same => by cases same; exact nothing, nothing⟩

/-- A process that reads nothing leaves the file, until it saves: then nothing is left. -/
theorem blind_step {store : SecretStore σ} (unread : Unread calls host store.file) (loaded : Loaded k [] store)
    {op : SecretOp σ} (leaves : op.Leaves k) :
    Loaded k [] (store.step calls host op) ∧
    ((host.configDir = true ∧ op.Writes ∧ ∃ seed, SealedWith calls seed k [] (store.step calls host op).file) ∨
      (¬(host.configDir = true ∧ op.Writes) ∧ (store.step calls host op).file = store.file)) := by
  cases op with
  | load migration =>
    obtain ⟨same, after, -⟩ := blind_load unread loaded migration
    exact ⟨after, .inr ⟨fun writes => writes.2, same⟩⟩
  | set edit migration save =>
    obtain ⟨same, -, held⟩ := blind_load unread loaded migration
    obtain ⟨after, ⟨configured, writes, written⟩ | ⟨not, left⟩⟩ := step_set leaves held
    · exact ⟨after, .inl ⟨configured, writes, _, written⟩⟩
    · exact ⟨after, .inr ⟨not, left.trans same⟩⟩
  | resetCache => exact ⟨loaded_fresh, .inr ⟨fun writes => writes.2, rfl⟩⟩

include authentic

/-- Over a session: what it found stays in the file exactly if it saves nothing. -/
theorem blind_session {file : Option σ} (session : SecretSession σ) (unread : Unread calls session.host file)
    (leave : ∀ op ∈ session.ops, op.Leaves k) :
    (session.Saves ∧ ∃ seed, SealedWith calls seed k [] (session.run calls file)) ∨
      (¬session.Saves ∧ session.run calls file = file) := by
  have going : ∀ (ops : List (SecretOp σ)) (store : SecretStore σ), Unread calls session.host store.file → Loaded k [] store →
      (∀ op ∈ ops, op.Leaves k) →
      ((session.host.configDir = true ∧ ∃ op ∈ ops, op.Writes) ∧
        ∃ seed, SealedWith calls seed k [] (ops.foldl (SecretStore.step calls session.host) store).file) ∨
      (¬(session.host.configDir = true ∧ ∃ op ∈ ops, op.Writes) ∧
        (ops.foldl (SecretStore.step calls session.host) store).file = store.file) := by
    intro ops
    induction ops with
    | nil => exact fun _ _ _ _ => .inr ⟨by simp, rfl⟩
    | cons op ops ih =>
      intro store unread loaded leave
      have rest : ∀ op ∈ ops, op.Leaves k := fun op member => leave op (List.mem_cons_of_mem _ member)
      obtain ⟨after, ⟨configured, writes, lost⟩ | ⟨not, same⟩⟩ := blind_step unread loaded (leave op List.mem_cons_self)
      · exact .inl ⟨⟨configured, op, List.mem_cons_self, writes⟩, (lost_steps authentic lost after rest).1⟩
      · obtain ⟨⟨configured, later, member, writes⟩, lost⟩ | ⟨none, left⟩ :=
          ih (store.step calls session.host op) (same.symm ▸ unread) after rest
        · exact .inl ⟨⟨configured, later, List.mem_cons_of_mem _ member, writes⟩, lost⟩
        · refine .inr ⟨?_, left.trans same⟩
          rintro ⟨configured, later, member, writes⟩
          rcases List.mem_cons.mp member with rfl | member
          · exact not ⟨configured, writes⟩
          · exact none ⟨configured, later, member, writes⟩
  exact going session.ops ⟨file, none⟩ unread loaded_fresh leave

end Blindness

section Sessions

include authentic

theorem recalled_own {seed : String} {value : List String} {file : Option σ} (sealed : SealedWith calls seed k value file)
    (configured : host.configDir = true) (same : host.deriveMachineKey = seed) :
    (recalledSecrets calls host file).held k = value := by
  subst same
  exact (keeps_load authentic configured sealed loaded_fresh .refused).2.2

theorem recalled_lost {file : Option σ} (lost : ∃ seed, SealedWith calls seed k [] file) :
    (recalledSecrets calls host file).held k = [] :=
  (lost_load authentic host lost loaded_fresh fun content same => by cases same).2.2

omit authentic in
theorem recalled_unread {file : Option σ} (unread : Unread calls host file) : (recalledSecrets calls host file).held k = [] :=
  (blind_load unread loaded_fresh .refused).2.2

omit authentic in
theorem recalled_unconfigured {file : Option σ} (bare : host.configDir = false) :
    (recalledSecrets calls host file).held k = [] := by
  simp [recalledSecrets, SecretStore.load, bare]

omit authentic in
theorem run_unconfigured {session : SecretSession σ} (bare : session.host.configDir = false) (file : Option σ) :
    session.run calls file = file :=
  List.foldlRecOn (motive := fun store => store.file = file) session.ops (SecretStore.step calls session.host) rfl
    fun _ same op _ => (step_unconfigured bare op).trans same

theorem run_own {seed : String} {value : List String} {file : Option σ} {session : SecretSession σ}
    (sealed : SealedWith calls seed k value file) (same : session.host.deriveMachineKey = seed)
    (leave : ∀ op ∈ session.ops, op.Leaves k) : SealedWith calls seed k value (session.run calls file) := by
  cases configured : session.host.configDir with
  | false => rwa [run_unconfigured configured]
  | true =>
    subst same
    exact (keeps_steps authentic configured sealed loaded_fresh leave).1

theorem lost_sessions {file : Option σ} (lost : ∃ seed, SealedWith calls seed k [] file) {sessions : List (SecretSession σ)}
    (leave : ∀ session ∈ sessions, ∀ op ∈ session.ops, op.Leaves k) :
    ∃ seed, SealedWith calls seed k [] (secretFileAfter calls file sessions) :=
  List.foldlRecOn (motive := fun file => ∃ seed, SealedWith calls seed k [] file) sessions (SecretSession.run calls) lost
    fun _ lost session member => (lost_steps authentic lost loaded_fresh (leave session member)).1

/-- The secret stays in the file as long as nobody saves who derives another key. -/
theorem kept_sessions {seed : String} {value : List String} {file : Option σ} (sealed : SealedWith calls seed k value file)
    {sessions : List (SecretSession σ)} (leave : ∀ session ∈ sessions, ∀ op ∈ session.ops, op.Leaves k)
    (newer : ∀ session ∈ sessions, session.host.deriveLegacyMachineKey ≠ seed) :
    ((∀ session ∈ sessions, session.Saves → session.host.deriveMachineKey = seed) ∧
      SealedWith calls seed k value (secretFileAfter calls file sessions)) ∨
    (¬(∀ session ∈ sessions, session.Saves → session.host.deriveMachineKey = seed) ∧
      ∃ other, SealedWith calls other k [] (secretFileAfter calls file sessions)) := by
  induction sessions generalizing file with
  | nil => exact .inl ⟨fun _ none => (by cases none), sealed⟩
  | cons session sessions ih =>
    have first := leave session List.mem_cons_self
    have others : ∀ other ∈ sessions, ∀ op ∈ other.ops, op.Leaves k := fun other member =>
      leave other (List.mem_cons_of_mem _ member)
    have newers : ∀ other ∈ sessions, other.host.deriveLegacyMachineKey ≠ seed := fun other member =>
      newer other (List.mem_cons_of_mem _ member)
    -- a session that leaves the secret in the file leaves the question to the others
    have onward (next : SealedWith calls seed k value (session.run calls file))
        (harmless : session.Saves → session.host.deriveMachineKey = seed) :
        ((∀ other ∈ session :: sessions, other.Saves → other.host.deriveMachineKey = seed) ∧
          SealedWith calls seed k value (secretFileAfter calls file (session :: sessions))) ∨
        (¬(∀ other ∈ session :: sessions, other.Saves → other.host.deriveMachineKey = seed) ∧
          ∃ other, SealedWith calls other k [] (secretFileAfter calls file (session :: sessions))) := by
      rcases ih next others newers with ⟨every, kept⟩ | ⟨not, lost⟩
      · exact .inl ⟨List.forall_mem_cons.mpr ⟨harmless, every⟩, kept⟩
      · exact .inr ⟨fun every => not (List.forall_mem_cons.mp every).2, lost⟩
    by_cases own : session.host.deriveMachineKey = seed
    · exact onward (run_own authentic sealed own first) fun _ => own
    · have unread : Unread calls session.host file := by
        obtain ⟨nonce, s, rfl, -⟩ := sealed
        exact ⟨_, rfl, readSecrets_foreign authentic own (newer session List.mem_cons_self) nonce s⟩
      rcases blind_session authentic session unread first with ⟨saves, lost⟩ | ⟨none, same⟩
      · exact .inr ⟨fun every => own (every session List.mem_cons_self saves), lost_sessions authentic lost others⟩
      · exact onward (same.symm ▸ sealed) fun saves => absurd saves none

/-- What was set in a session, and not set again, is in the file when the session ends. -/
theorem set_sealed (file : Option σ) (before after : List (SecretOp σ)) {edit : SecretEdit} (names : k ∈ edit.names)
    (configured : host.configDir = true) (migration : SecretWrite σ) (nonce : Nat) (leave : ∀ op ∈ after, op.Leaves k) :
    SealedWith calls host.deriveMachineKey k ((edit.apply MachineSecrets.none).held k)
      (SecretSession.run calls file ⟨host, before ++ .set edit migration (.whole nonce) :: after⟩) := by
  rw [SecretSession.run, List.foldl_append, List.foldl_cons]
  generalize before.foldl (SecretStore.step calls host) ⟨file, none⟩ = store
  refine (keeps_steps authentic configured ⟨nonce, edit.apply (store.load calls host migration).2, ?_, ?_⟩ ?_ leave).1
  · simp [SecretStore.step, saveSecrets, configured]
  · exact apply_held_set names _ _
  · rintro s ⟨⟩
    exact apply_held_set names _ _

/-- A secret that was set is there in a later process exactly if that one derives the key it was
sealed under, and so did every process since that saved any secret. -/
theorem secret_recalled_iff (file : Option σ) (first : SecretHost) (before after : List (SecretOp σ)) (edit : SecretEdit)
    (names : k ∈ edit.names) (something : (edit.apply MachineSecrets.none).held k ≠ []) (configured : first.configDir = true)
    (migration : SecretWrite σ) (nonce : Nat) (leave : ∀ op ∈ after, op.Leaves k) (later : List (SecretSession σ))
    (leaves : ∀ session ∈ later, ∀ op ∈ session.ops, op.Leaves k) (last : SecretHost)
    (newer : ∀ other ∈ last :: later.map SecretSession.host, other.deriveLegacyMachineKey ≠ first.deriveMachineKey) :
    let left := secretFileAfter calls file (⟨first, before ++ .set edit migration (.whole nonce) :: after⟩ :: later)
    (recalledSecrets calls last left).held k = (edit.apply MachineSecrets.none).held k ↔
      last.configDir = true ∧ last.deriveMachineKey = first.deriveMachineKey ∧
        ∀ session ∈ later, session.Saves → session.host.deriveMachineKey = first.deriveMachineKey := by
  intro left
  have sealed := set_sealed authentic file before after names configured migration nonce leave
  have newers : ∀ session ∈ later, session.host.deriveLegacyMachineKey ≠ first.deriveMachineKey := fun session member =>
    newer _ (List.mem_cons_of_mem _ (List.mem_map_of_mem member))
  have gone (nothing : (recalledSecrets calls last left).held k = []) :
      (recalledSecrets calls last left).held k ≠ (edit.apply MachineSecrets.none).held k :=
    fun same => something (same.symm.trans nothing)
  rcases kept_sessions authentic sealed leaves newers with ⟨every, kept⟩ | ⟨not, lost⟩
  · have kept : SealedWith calls first.deriveMachineKey k ((edit.apply MachineSecrets.none).held k) left := kept
    constructor
    · intro recalled
      have there : last.configDir = true := by
        cases bare : last.configDir with
        | true => rfl
        | false => exact absurd recalled (gone (recalled_unconfigured bare))
      refine ⟨there, ?_, every⟩
      by_contra foreign
      obtain ⟨nonce, s, content, -⟩ := kept
      have shut := readSecrets_foreign authentic foreign (newer last List.mem_cons_self) nonce s
      exact gone (recalled_unread ⟨_, content, shut⟩) recalled
    · rintro ⟨there, same, -⟩
      exact recalled_own authentic kept there same
  · have lost : ∃ other, SealedWith calls other k [] left := lost
    exact iff_of_false (gone (recalled_lost authentic lost)) fun ⟨_, _, every⟩ => not every

/-- The file is as an older version left it, or has what it held under the new key. -/
def Older (calls : Sealing σ) (machine legacy : String) (k : SecretName) (nonce : Nat) (older : MachineSecrets) (file : Option σ) :
    Prop :=
  file = some (calls.encrypt legacy nonce (secretsJson.encode older)) ∨ SealedWith calls machine k (older.held k) file

section Migration

variable {machine legacy : String} (other : machine ≠ legacy) {nonce : Nat} {older : MachineSecrets}
  (addressed : older.supabaseURL ≠ "")
  (here : host.deriveMachineKey = machine ∧ host.deriveLegacyMachineKey = legacy)

include other addressed here

theorem older_load (configured : host.configDir = true) {store : SecretStore σ}
    (file : Older calls machine legacy k nonce older store.file)
    (loaded : Loaded k (older.held k) store) {migration : SecretWrite σ} (sound : ∀ content, migration ≠ .torn content) :
    Older calls machine legacy k nonce older (store.load calls host migration).1.file ∧
      Loaded k (older.held k) (store.load calls host migration).1 ∧
      (store.load calls host migration).2.held k = older.held k := by
  obtain ⟨rfl, rfl⟩ := here
  rcases file with untouched | sealed
  · cases fresh : store.loadedSecrets with
    | some s =>
      rw [load_loaded fresh]
      exact ⟨.inl untouched, loaded, loaded s fresh⟩
    | none =>
      have read := readSecrets_legacy authentic other rfl nonce older
      rw [if_pos addressed] at read
      rw [load_read configured fresh untouched read]
      refine ⟨?_, fun s same => by cases same; exact overrides_held host older k, overrides_held host older k⟩
      rcases saveSecrets_cases calls host sound older store.file with
        ⟨fresh, -, -, written⟩ | ⟨-, same⟩
      · exact .inr ⟨fresh, older, written, rfl⟩
      · exact .inl (same.trans untouched)
  · obtain ⟨same, after, held⟩ := keeps_load authentic configured sealed loaded migration
    exact ⟨.inr (same.symm ▸ sealed), after, held⟩

omit here in
theorem older_session {session : SecretSession σ}
    (here : session.host.deriveMachineKey = machine ∧ session.host.deriveLegacyMachineKey = legacy) {file : Option σ}
    (left : Older calls machine legacy k nonce older file) (leave : ∀ op ∈ session.ops, op.Leaves k) :
    Older calls machine legacy k nonce older (session.run calls file) := by
  cases configured : session.host.configDir with
  | false => rwa [run_unconfigured configured]
  | true =>
    refine (List.foldlRecOn (motive := fun store => Older calls machine legacy k nonce older store.file ∧
      Loaded k (older.held k) store) session.ops (SecretStore.step calls session.host)
      ⟨left, loaded_fresh⟩ fun store kept op member => ?_).1
    cases op with
    | load migration =>
      obtain ⟨file, loaded, -⟩ :=
        older_load authentic other addressed here configured kept.1 kept.2 (leave (.load migration) member)
      exact ⟨file, loaded⟩
    | set edit migration save =>
      have leaves := leave (.set edit migration save) member
      obtain ⟨file, -, held⟩ := older_load authentic other addressed here configured kept.1 kept.2 leaves.2.1
      obtain ⟨after, ⟨-, -, written⟩ | ⟨-, same⟩⟩ := step_set leaves held
      · exact ⟨.inr (here.1 ▸ written), after⟩
      · exact ⟨same.symm ▸ file, after⟩
    | resetCache => exact ⟨kept.1, loaded_fresh⟩

end Migration

/-- What an older version left under the legacy seed is taken over exactly if the server's address
is among it, on a machine with a key of its own. -/
theorem older_secret_recalled_iff (machine legacy : String) (other : machine ≠ legacy) (nonce : Nat) (older : MachineSecrets)
    (something : older.held k ≠ []) (sessions : List (SecretSession σ)) (last : SecretHost)
    (hosts : ∀ host ∈ last :: sessions.map SecretSession.host,
      host.deriveMachineKey = machine ∧ host.deriveLegacyMachineKey = legacy)
    (leaves : ∀ session ∈ sessions, ∀ op ∈ session.ops, op.Leaves k) :
    let left := secretFileAfter calls (some (calls.encrypt legacy nonce (secretsJson.encode older))) sessions
    (recalledSecrets calls last left).held k = older.held k ↔ last.configDir = true ∧ older.supabaseURL ≠ "" := by
  intro left
  have here := hosts last List.mem_cons_self
  have there : ∀ session ∈ sessions, session.host.deriveMachineKey = machine ∧ session.host.deriveLegacyMachineKey = legacy :=
    fun session member => hosts _ (List.mem_cons_of_mem _ (List.mem_map_of_mem member))
  have gone (nothing : (recalledSecrets calls last left).held k = []) :
      (recalledSecrets calls last left).held k ≠ older.held k := fun same => something (same.symm.trans nothing)
  cases configured : last.configDir with
  | false => exact iff_of_false (gone (recalled_unconfigured configured)) fun both => by simp at both
  | true =>
    by_cases addressed : older.supabaseURL ≠ ""
    · refine iff_of_true ?_ ⟨rfl, addressed⟩
      have kept : Older calls machine legacy k nonce older left :=
        List.foldlRecOn (motive := Older calls machine legacy k nonce older) sessions (SecretSession.run calls) (.inl rfl)
          fun _ kept session member => older_session authentic other addressed (there session member) kept (leaves session member)
      exact (older_load authentic other addressed here configured kept loaded_fresh fun content same => by cases same).2.2
    · refine iff_of_false (gone ?_) fun both => addressed both.2
      -- without an address the file is not read, and stays until somebody saves
      have unread (host : SecretHost) (keys : host.deriveMachineKey = machine ∧ host.deriveLegacyMachineKey = legacy) :
          Unread calls host (some (calls.encrypt legacy nonce (secretsJson.encode older))) := by
        have read := readSecrets_legacy authentic (fun same => other (keys.1.symm.trans same)) keys.2 nonce older
        rw [if_neg addressed] at read
        exact ⟨_, rfl, read⟩
      have kept : left = some (calls.encrypt legacy nonce (secretsJson.encode older)) ∨
          ∃ seed, SealedWith calls seed k [] left := by
        refine List.foldlRecOn (motive := fun file => file = some (calls.encrypt legacy nonce (secretsJson.encode older)) ∨
          ∃ seed, SealedWith calls seed k [] file) sessions (SecretSession.run calls) (.inl rfl) ?_
        rintro file (rfl | lost) session member
        · rcases blind_session authentic session (unread _ (there session member)) (leaves session member) with
            ⟨-, lost⟩ | ⟨-, same⟩
          · exact .inr lost
          · exact .inl same
        · exact .inr (lost_steps authentic lost loaded_fresh (leaves session member)).1
      rcases kept with untouched | lost
      · rw [untouched]
        exact recalled_unread (unread last here)
      · exact recalled_lost authentic lost

end Sessions

end Files

section Boxes

/-- Contents that name the seed they are sealed under. -/
def boxes : Sealing (String × Nat × Value Unit) where
  encrypt := fun seed nonce v => (seed, nonce, v)
  decrypt := fun seed content => if seed = content.1 then some content.2.2 else none

theorem boxes_authentic : boxes.Authentic :=
  ⟨fun _ _ _ => if_pos rfl, fun _ _ _ _ foreign => if_neg foreign⟩

def officeHost : SecretHost := ⟨true, some "3f2a", [], "OFFICE", fun _ => "", true⟩

/-- The machine under another name. -/
def renamedHost : SecretHost := { officeHost with hostname := "TILL-2" }

/-- The Gemini key is set in the office, then the machine is renamed and started, and named back. -/
def renamings (ops : List (SecretOp (String × Nat × Value Unit))) : Option (String × Nat × Value Unit) :=
  secretFileAfter boxes none [⟨officeHost, [] ++ .set (.setGeminiAPIKey "g1") .refused (.whole 0) :: []⟩, ⟨renamedHost, ops⟩]

/-- Under the other name the key is out of sight; it is lost when the Groq key is set there. -/
theorem secret_recalled_iff_renamed :
    (recalledSecrets boxes officeHost (renamings [.load .refused])).held .geminiAPIKey = ["g1"] ∧
    (recalledSecrets boxes renamedHost (renamings [.load .refused])).held .geminiAPIKey ≠ ["g1"] ∧
    (recalledSecrets boxes officeHost (renamings [.set (.setGroqAPIKey "q1") .refused (.whole 1)])).held .geminiAPIKey ≠ ["g1"] := by
  have recalled (last : SecretHost) (ops : List (SecretOp (String × Nat × Value Unit)))
      (leaves : ∀ op ∈ ops, op.Leaves .geminiAPIKey)
      (newer : ∀ other ∈ [last, renamedHost], other.deriveLegacyMachineKey ≠ officeHost.deriveMachineKey) :=
    secret_recalled_iff boxes_authentic none officeHost [] [] (.setGeminiAPIKey "g1") (k := .geminiAPIKey) (by decide)
      (by decide) rfl .refused 0 (by simp) [⟨renamedHost, ops⟩] (by simpa using leaves) last newer
  refine ⟨(recalled officeHost [.load .refused] ?_ (by decide)).mpr ⟨rfl, rfl, ?_⟩,
    fun same => ?_, fun same => ?_⟩
  · simp [SecretOp.Leaves]
  · rintro session member ⟨-, op, load, writes⟩
    simp only [List.mem_singleton] at member
    subst member
    simp only [List.mem_singleton] at load
    subst load
    exact writes.elim
  · have keys := ((recalled renamedHost [.load .refused] (by simp [SecretOp.Leaves]) (by decide)).mp same).2.1
    exact absurd keys (by decide)
  · have every := ((recalled officeHost [.set (.setGroqAPIKey "q1") .refused (.whole 1)]
      (by simp [SecretOp.Leaves, SecretEdit.names]) (by decide)).mp same).2.2
    exact absurd (every _ List.mem_cons_self ⟨rfl, _, List.mem_cons_self, trivial⟩) (by decide)

def olderSecrets (url : String) : MachineSecrets := { MachineSecrets.none with supabaseURL := url, groqAPIKey := "q1" }

/-- Without an address the old file is passed over, and the next key that is set replaces it. -/
theorem older_secret_recalled_iff_office :
    let left (url : String) := secretFileAfter boxes
      (some (boxes.encrypt officeHost.deriveLegacyMachineKey 0 (secretsJson.encode (olderSecrets url))))
      [⟨officeHost, [.set (.setGeminiAPIKey "g1") (.whole 1) (.whole 2)]⟩]
    (recalledSecrets boxes officeHost (left "https://test.supabase.co")).held .groqAPIKey = ["q1"] ∧
    (recalledSecrets boxes officeHost (left "")).held .groqAPIKey ≠ ["q1"] := by
  have recalled (url : String) := older_secret_recalled_iff boxes_authentic (k := .groqAPIKey) officeHost.deriveMachineKey
    officeHost.deriveLegacyMachineKey (by decide) 0 (olderSecrets url) (by simp [olderSecrets, MachineSecrets.held])
    [⟨officeHost, [.set (.setGeminiAPIKey "g1") (.whole 1) (.whole 2)]⟩] officeHost (by simp)
    (by simp [SecretOp.Leaves, SecretEdit.names])
  exact ⟨(recalled "https://test.supabase.co").mpr ⟨rfl, by decide⟩, fun same => ((recalled "").mp same).2 rfl⟩

end Boxes

end BeidarPos
