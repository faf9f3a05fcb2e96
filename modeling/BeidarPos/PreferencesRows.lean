import BeidarPos.Models
import BeidarPos.Table
import Mathlib.Data.List.MinMax

/-! The preferences and the services that read and write them. A read takes the row with the
smallest number, and a write saves under the number that the value brings; what a client sends
brings none. -/
namespace Relational.Numbered

variable {ρ : Type} {key : ρ → Nat} {number : Nat → ρ → ρ} {numbered : ∀ n r, key (number n r) = n} {t : Numbered key}

/-- A row without a number is added at the next one. -/
theorem create?_next {r : ρ} (bare : key r = 0) :
    ∃ next, create? number numbered t r = some next ∧ next.rows = t.rows ++ [number (t.seq + 1) r] := by
  rw [create?, dif_pos bare]
  exact ⟨_, rfl, rfl⟩

/-- A row takes the place of the one with its number, or is created as `fresh`. -/
def save? (number : Nat → ρ → ρ) (numbered : ∀ n r, key (number n r) = n) (fresh : ρ → ρ) (t : Numbered key) (r : ρ) :
    Option (Numbered key) :=
  match found : t.find? (key r) with
  | none => create? number numbered t (fresh r)
  | some old => some ⟨t.put r, by
      intro row member
      obtain ⟨before, stored, rfl⟩ := List.mem_map.mp member
      have positive := t.positive before stored
      split
      · next same => exact same ▸ positive
      · exact positive⟩

theorem save?_bare {fresh : ρ → ρ} {r : ρ} (bare : key r = 0) (kept : key (fresh r) = key r) :
    ∃ next, save? number numbered fresh t r = some next ∧ next.rows = t.rows ++ [number (t.seq + 1) (fresh r)] := by
  have absent : t.find? (key r) = none := Table.find?_none.mpr fun old member => bare ▸ t.positive old member
  unfold save?
  split
  · exact create?_next (kept.trans bare)
  · next old found => rw [absent] at found; cases found

theorem save?_stored {fresh : ρ → ρ} {r old : ρ} (stored : t.find? (key r) = some old) :
    ∃ next, save? number numbered fresh t r = some next ∧ next.toTable = t.toTable.put r := by
  unfold save?
  split
  · next absent => rw [stored] at absent; cases absent
  · exact ⟨_, rfl, rfl⟩

end Relational.Numbered

namespace BeidarPos

open Relational

def AppPreferences.withID (id : Nat) (prefs : AppPreferences) : AppPreferences := { prefs with id }

/-- What is stored for a new row: a column with a default takes it in place of a zero value. -/
def AppPreferences.defaulted (prefs : AppPreferences) : AppPreferences := { prefs with
  aiProvider := if prefs.aiProvider = "" then "gemini" else prefs.aiProvider
  aiModel := if prefs.aiModel = "" then "gemma-4-31b-it" else prefs.aiModel
  aiRotationMode := if prefs.aiRotationMode = "" then "failover" else prefs.aiRotationMode }

/-- The keys that `secureconfig` keeps. -/
structure Secrets where
  geminiAPIKey : String
  geminiAPIKeys : List String
  groqAPIKey : String

/-- AES, bcrypt and the write of the secrets' file. -/
structure SecretCalls where
  encrypt : String → Except String String
  decrypt : String → Except String String
  generateFromPassword : String → Except String String
  save : Secrets → Except String Unit

/-- The table, and the secrets in memory. -/
structure Settings where
  preferences : Numbered AppPreferences.id
  secrets : Secrets

def mask : String := "********"

section Repository

/-- The loop body of `encryptPrefs` and `decryptPrefs`. -/
def recodeItem (recode : String → Except String String) (item : String) (text : String) : Except Text String :=
  match recode text with
  | .ok out => .ok out
  | .error cause => .error (.format item [.text cause])

def recodeKey (recode : String → Except String String) (failure : String) (key : String) : Except Text String :=
  if key ≠ "" then recodeItem recode failure key else .ok key

def recodePrefs (recode : String → Except String String) (gemini groq item : String) (prefs : AppPreferences) :
    Except Text AppPreferences := do
  let geminiAPIKey ← recodeKey recode gemini prefs.geminiAPIKey
  let groqAPIKey ← recodeKey recode groq prefs.groqAPIKey
  let geminiAPIKeys ← prefs.geminiAPIKeys.mapM (recodeItem recode item)
  return { prefs with geminiAPIKey, groqAPIKey, geminiAPIKeys }

variable (calls : SecretCalls)

def encryptPrefs : AppPreferences → Except Text AppPreferences :=
  recodePrefs calls.encrypt "failed to encrypt Gemini API Key: %w" "failed to encrypt Groq API Key: %w"
    "failed to encrypt Gemini API Keys list item: %w"

def decryptPrefs : AppPreferences → Except Text AppPreferences :=
  recodePrefs calls.decrypt "failed to decrypt Gemini API Key: %w" "failed to decrypt Groq API Key: %w"
    "failed to decrypt Gemini API Keys list item: %w"

/-- `First` orders by the number. -/
def firstRow (t : Numbered AppPreferences.id) : Option AppPreferences := t.rows.argmin AppPreferences.id

/-- The repository's `Get`. -/
def storedPreferences (t : Numbered AppPreferences.id) : Except Text AppPreferences :=
  match firstRow t with
  | none => .error (.plain "record not found")
  | some row => decryptPrefs calls row

/-- The repository's `Save`. -/
def savePreferences (t : Numbered AppPreferences.id) (prefs : AppPreferences) :
    Except Text (Numbered AppPreferences.id) := do
  let encrypted ← encryptPrefs calls prefs
  match Numbered.save? AppPreferences.withID (fun _ _ => rfl) AppPreferences.defaulted t encrypted with
  | none => .error (.plain "UNIQUE constraint failed: app_preferences.id")
  | some next => .ok next

end Repository

section Services

variable (calls : SecretCalls)

def AppPreferences.masked (prefs : AppPreferences) : AppPreferences := { prefs with
  adminPin := if prefs.adminPin ≠ "" then mask else prefs.adminPin
  geminiAPIKey := if prefs.geminiAPIKey ≠ "" then mask else prefs.geminiAPIKey
  geminiAPIKeys := if prefs.geminiAPIKeys ≠ [] then [mask] else prefs.geminiAPIKeys
  groqAPIKey := if prefs.groqAPIKey ≠ "" then mask else prefs.groqAPIKey }

/-- `settingsService.GetPreferences`. -/
def getPreferences (t : Numbered AppPreferences.id) : Except Text AppPreferences :=
  (storedPreferences calls t).map AppPreferences.masked

/-- The PIN that both services store: a new one is hashed, and none or the mask keeps the old. -/
def keptPin (sent current : String) : Except String String :=
  if sent ≠ "" ∧ sent ≠ mask ∧ sent ≠ current then calls.generateFromPassword sent
  else if sent = "" ∨ sent = mask then .ok current
  else .ok sent

/-- The setters of `secureconfig`: the secrets in memory change, whether the file is written or not. -/
def keepKey (failure key : String) (set : Secrets → Secrets) (secrets : Secrets) : Except Text Unit × Secrets :=
  if key ≠ "" ∧ key ≠ mask then
    match calls.save (set secrets) with
    | .ok () => (.ok (), set secrets)
    | .error cause => (.error (.format failure [.text cause]), set secrets)
  else (.ok (), secrets)

def keepGeminiKeys (keys : List String) (secrets : Secrets) : Secrets :=
  match keys.head?, keys.filter (· ≠ "") with
  | some first, one :: more =>
    if first ≠ mask then { secrets with geminiAPIKeys := one :: more, geminiAPIKey := one } else secrets
  | _, _ => secrets

/-- `preferencesRepo.Save` as a step on the settings. -/
def Settings.saved (s : Settings) (prefs : AppPreferences) : Except Text Unit × Settings :=
  match savePreferences calls s.preferences prefs with
  | .error cause => (.error cause, s)
  | .ok next => (.ok (), { s with preferences := next })

/-- `settingsService.UpdatePreferences`. -/
def updatePreferences (s : Settings) (prefs : AppPreferences) : Except Text Unit × Settings :=
  match storedPreferences calls s.preferences with
  | .error _ => s.saved calls prefs
  | .ok current =>
    match keptPin calls prefs.adminPin current.adminPin with
    | .error cause => (.error (.format "failed to hash admin pin: %w" [.text cause]), s)
    | .ok adminPin =>
      match keepKey calls "failed to encrypt Gemini API key: %w" prefs.geminiAPIKey
          (fun secrets => { secrets with geminiAPIKey := prefs.geminiAPIKey }) s.secrets with
      | (.error cause, secrets) => (.error cause, { s with secrets })
      | (.ok (), secrets) =>
        match keepKey calls "failed to encrypt Groq API key: %w" prefs.groqAPIKey
            (fun secrets => { secrets with groqAPIKey := prefs.groqAPIKey })
            (keepGeminiKeys prefs.geminiAPIKeys secrets) with
        | (.error cause, secrets) => (.error cause, { s with secrets })
        | (.ok (), secrets) =>
          { s with secrets }.saved calls
            { prefs with adminPin, geminiAPIKey := mask, geminiAPIKeys := [mask], groqAPIKey := mask }

/-- `financeService.UpdatePreferences`. -/
def updateFinancePreferences (t : Numbered AppPreferences.id) (newPrefs : AppPreferences) :
    Except Text (Numbered AppPreferences.id) :=
  match storedPreferences calls t with
  | .error cause => .error cause
  | .ok current =>
    match keptPin calls newPrefs.adminPin current.adminPin with
    | .error cause => .error (.plain cause)
    | .ok adminPin => savePreferences calls t { newPrefs with id := current.id, adminPin }

end Services

/-- What is no secret. -/
def AppPreferences.shown (prefs : AppPreferences) : AppPreferences :=
  { prefs with id := 0, adminPin := "", geminiAPIKey := "", geminiAPIKeys := [], groqAPIKey := "" }

/-- What an update of preferences is to leave: one row, with what was sent, and no PIN to read. -/
structure Sticks (calls : SecretCalls) (prefs : AppPreferences) (t : Numbered AppPreferences.id) : Prop where
  shown : ∃ read, getPreferences calls t = .ok read ∧ read.shown = prefs.shown
  one : t.rows.length = 1
  hidden : prefs.adminPin ≠ "" → prefs.adminPin ≠ mask → ∀ row ∈ t.rows, row.adminPin ≠ prefs.adminPin

section Rows

variable {calls : SecretCalls} {t next : Numbered AppPreferences.id} {prefs : AppPreferences}

theorem recodePrefs_rest {recode : String → Except String String} {gemini groq item : String} {out : AppPreferences}
    (recoded : recodePrefs recode gemini groq item prefs = .ok out) :
    out.id = prefs.id ∧ out.adminPin = prefs.adminPin ∧ out.shown = prefs.shown := by
  unfold recodePrefs at recoded
  cases first : recodeKey recode gemini prefs.geminiAPIKey with
  | error cause => simp [first, bind, Except.bind] at recoded
  | ok geminiAPIKey =>
    cases second : recodeKey recode groq prefs.groqAPIKey with
    | error cause => simp [first, second, bind, Except.bind] at recoded
    | ok groqAPIKey =>
      cases third : prefs.geminiAPIKeys.mapM (recodeItem recode item) with
      | error cause => simp [first, second, third, bind, Except.bind] at recoded
      | ok geminiAPIKeys =>
        simp only [first, second, third, bind, Except.bind, pure, Except.pure] at recoded
        cases recoded
        exact ⟨rfl, rfl, rfl⟩

/-- A later number does not come first. -/
theorem firstRow_added {row : AppPreferences} (some : t.rows ≠ []) (later : t.seq < row.id)
    (added : next.rows = t.rows ++ [row]) : firstRow next = firstRow t := by
  unfold firstRow
  rw [added, List.argmin_concat]
  cases found : t.rows.argmin AppPreferences.id with
  | none => exact absurd (List.argmin_eq_none.mp found) some
  | some old =>
    have before := t.bounded old (List.argmin_mem found)
    exact if_neg (by omega)

theorem firstRow_only {row : AppPreferences} (only : t.rows = [row]) : firstRow t = some row := by
  rw [firstRow, only]
  rfl

/-- A value without a number is saved as one more row. -/
theorem savePreferences_bare (bare : prefs.id = 0) (saved : savePreferences calls t prefs = .ok next) :
    ∃ row, next.rows = t.rows ++ [row] ∧ t.seq < row.id ∧ row.adminPin = prefs.adminPin := by
  unfold savePreferences at saved
  cases sealed : encryptPrefs calls prefs with
  | error cause => simp [sealed, bind, Except.bind] at saved
  | ok encrypted =>
    obtain ⟨number, pin, -⟩ := recodePrefs_rest sealed
    obtain ⟨made, created, rows⟩ := @Numbered.save?_bare _ _ AppPreferences.withID (fun _ _ => rfl) t
      AppPreferences.defaulted encrypted (number.trans bare) rfl
    simp only [sealed, bind, Except.bind, created] at saved
    cases saved
    exact ⟨_, rows, Nat.lt_succ_self _, pin⟩

theorem savePreferences_ignored (some : t.rows ≠ []) (bare : prefs.id = 0)
    (saved : savePreferences calls t prefs = .ok next) :
    next.rows.length = t.rows.length + 1 ∧ firstRow next = firstRow t := by
  obtain ⟨row, added, later, -⟩ := savePreferences_bare bare saved
  exact ⟨by rw [added, List.length_append, List.length_singleton], firstRow_added some later added⟩

theorem getPreferences_first (same : firstRow next = firstRow t) : getPreferences calls next = getPreferences calls t := by
  simp only [getPreferences, storedPreferences, same]

end Rows

section Updates

variable {calls : SecretCalls} {s : Settings} {prefs : AppPreferences}

theorem saved_effect (s : Settings) (prefs : AppPreferences) :
    ((s.saved calls prefs).2.preferences = s.preferences ∧ ∃ cause, (s.saved calls prefs).1 = .error cause) ∨
      ∃ next, savePreferences calls s.preferences prefs = .ok next ∧
        s.saved calls prefs = (.ok (), { s with preferences := next }) := by
  unfold Settings.saved
  cases saved : savePreferences calls s.preferences prefs with
  | error cause => exact .inl ⟨rfl, _, rfl⟩
  | ok next => exact .inr ⟨next, rfl, rfl⟩

/-- The table after an update: as it was, or with a value saved that has the number sent; a
value that cannot be read is overwritten by what was sent as it is. -/
theorem updatePreferences_effect (s : Settings) (prefs : AppPreferences) :
    ((updatePreferences calls s prefs).2.preferences = s.preferences ∧
        ∃ cause, (updatePreferences calls s prefs).1 = .error cause) ∨
      ∃ value next, value.id = prefs.id ∧ savePreferences calls s.preferences value = .ok next ∧
        (updatePreferences calls s prefs).2.preferences = next ∧ (updatePreferences calls s prefs).1 = .ok () ∧
        ((∃ cause, storedPreferences calls s.preferences = .error cause) → value = prefs) := by
  unfold updatePreferences
  cases stored : storedPreferences calls s.preferences with
  | error cause =>
    obtain ⟨same, failed⟩ | ⟨next, saved, after⟩ := @saved_effect calls s prefs
    · exact .inl ⟨same, failed⟩
    · exact .inr ⟨prefs, next, rfl, saved, by rw [after], by rw [after], fun _ => rfl⟩
  | ok current =>
    simp only
    cases hashed : keptPin calls prefs.adminPin current.adminPin with
    | error cause => exact .inl ⟨rfl, _, rfl⟩
    | ok adminPin =>
      simp only
      split
      · exact .inl ⟨rfl, _, rfl⟩
      · split
        · exact .inl ⟨rfl, _, rfl⟩
        · next secrets _ =>
          obtain ⟨same, failed⟩ | ⟨next, saved, after⟩ := @saved_effect calls { s with secrets }
            { prefs with adminPin, geminiAPIKey := mask, geminiAPIKeys := [mask], groqAPIKey := mask }
          · exact .inl ⟨same, failed⟩
          · refine .inr ⟨{ prefs with adminPin, geminiAPIKey := mask, geminiAPIKeys := [mask], groqAPIKey := mask }, next,
              rfl, saved, by rw [after], by rw [after], ?_⟩
            rintro ⟨cause, ⟨⟩⟩

theorem updatePreferences_saved (bare : prefs.id = 0) (some : s.preferences.rows ≠ [])
    (saved : (updatePreferences calls s prefs).1 = .ok ()) :
    (updatePreferences calls s prefs).2.preferences.rows.length = s.preferences.rows.length + 1 ∧
      getPreferences calls (updatePreferences calls s prefs).2.preferences = getPreferences calls s.preferences := by
  obtain ⟨-, cause, failed⟩ | ⟨value, next, number, written, after, -⟩ := @updatePreferences_effect calls s prefs
  · rw [failed] at saved
    cases saved
  · obtain ⟨more, first⟩ := savePreferences_ignored some (number.trans bare) written
    exact ⟨after ▸ more, after ▸ getPreferences_first first⟩

/-- Where the stored row cannot be read, the PIN sent is stored as it is. -/
theorem updatePreferences_plain (bare : prefs.id = 0) {cause : Text}
    (unread : storedPreferences calls s.preferences = .error cause)
    (saved : (updatePreferences calls s prefs).1 = .ok ()) :
    ∃ row ∈ (updatePreferences calls s prefs).2.preferences.rows, row.adminPin = prefs.adminPin := by
  obtain ⟨-, cause, failed⟩ | ⟨value, next, number, written, after, -, plain⟩ :=
    @updatePreferences_effect calls s prefs
  · rw [failed] at saved
    cases saved
  · obtain ⟨row, added, -, pin⟩ := savePreferences_bare (number.trans bare) written
    exact ⟨row, by rw [after, added]; simp, pin.trans (congrArg AppPreferences.adminPin (plain ⟨_, unread⟩))⟩

/-- Whatever clients send one after another, what is read is what the first row holds. -/
theorem updates_ignored (some : s.preferences.rows ≠ []) (updates : List AppPreferences)
    (bare : ∀ prefs ∈ updates, prefs.id = 0) :
    getPreferences calls (updates.foldl (fun s prefs => (updatePreferences calls s prefs).2) s).preferences =
      getPreferences calls s.preferences := by
  induction updates generalizing s with
  | nil => rfl
  | cons prefs updates ih =>
    obtain ⟨bare, others⟩ := List.forall_mem_cons.mp bare
    have step : (updatePreferences calls s prefs).2.preferences.rows ≠ [] ∧
        getPreferences calls (updatePreferences calls s prefs).2.preferences = getPreferences calls s.preferences := by
      obtain ⟨same, -⟩ | ⟨value, next, -, -, -, saved, -⟩ := @updatePreferences_effect calls s prefs
      · exact ⟨same ▸ some, by rw [same]⟩
      · obtain ⟨more, read⟩ := updatePreferences_saved bare some saved
        exact ⟨List.ne_nil_of_length_pos (by omega), read⟩
    exact (ih step.1 others).trans step.2

end Updates

section Finance

variable {calls : SecretCalls} {t next : Numbered AppPreferences.id} {prefs : AppPreferences}

theorem recodeItem_back {failure back text out : String}
    (roundTrip : ∀ text out, calls.encrypt text = .ok out → out ≠ "" ∧ calls.decrypt out = .ok text)
    (recoded : recodeItem calls.encrypt failure text = .ok out) :
    out ≠ "" ∧ recodeItem calls.decrypt back out = .ok text := by
  unfold recodeItem at recoded
  cases sealed : calls.encrypt text with
  | error cause => simp [sealed] at recoded
  | ok other =>
    simp only [sealed] at recoded
    cases recoded
    obtain ⟨there, opened⟩ := roundTrip _ _ sealed
    exact ⟨there, by rw [recodeItem, opened]⟩

theorem recodeKey_back {failure back key out : String}
    (roundTrip : ∀ text out, calls.encrypt text = .ok out → out ≠ "" ∧ calls.decrypt out = .ok text)
    (recoded : recodeKey calls.encrypt failure key = .ok out) : recodeKey calls.decrypt back out = .ok key := by
  unfold recodeKey at recoded ⊢
  split at recoded
  · obtain ⟨there, opened⟩ := recodeItem_back roundTrip recoded
    rw [if_pos there]
    exact opened
  · next empty =>
    cases recoded
    exact if_neg empty

theorem recodeItems_back {failure back : String} {keys outs : List String}
    (roundTrip : ∀ text out, calls.encrypt text = .ok out → out ≠ "" ∧ calls.decrypt out = .ok text)
    (recoded : keys.mapM (recodeItem calls.encrypt failure) = .ok outs) :
    outs.mapM (recodeItem calls.decrypt back) = .ok keys := by
  induction keys generalizing outs with
  | nil => cases recoded; rfl
  | cons key keys ih =>
    rw [List.mapM_cons] at recoded
    cases first : recodeItem calls.encrypt failure key with
    | error cause => simp [first, bind, Except.bind] at recoded
    | ok out =>
      cases rest : keys.mapM (recodeItem calls.encrypt failure) with
      | error cause => simp [first, rest, bind, Except.bind] at recoded
      | ok others =>
        simp only [first, rest, bind, Except.bind, pure, Except.pure] at recoded
        cases recoded
        have opened : recodeItem calls.decrypt back out = .ok key := (recodeItem_back roundTrip first).2
        simp only [List.mapM_cons, opened, ih rest, bind, Except.bind, pure, Except.pure]

/-- What was encrypted is read back whole. -/
theorem decryptPrefs_encrypted {encrypted : AppPreferences}
    (roundTrip : ∀ text out, calls.encrypt text = .ok out → out ≠ "" ∧ calls.decrypt out = .ok text)
    (sealed : encryptPrefs calls prefs = .ok encrypted) : decryptPrefs calls encrypted = .ok prefs := by
  unfold encryptPrefs recodePrefs at sealed
  cases first : recodeKey calls.encrypt "failed to encrypt Gemini API Key: %w" prefs.geminiAPIKey with
  | error cause => simp [first, bind, Except.bind] at sealed
  | ok geminiAPIKey =>
    cases second : recodeKey calls.encrypt "failed to encrypt Groq API Key: %w" prefs.groqAPIKey with
    | error cause => simp [first, second, bind, Except.bind] at sealed
    | ok groqAPIKey =>
      cases third : prefs.geminiAPIKeys.mapM
          (recodeItem calls.encrypt "failed to encrypt Gemini API Keys list item: %w") with
      | error cause => simp [first, second, third, bind, Except.bind] at sealed
      | ok geminiAPIKeys =>
        simp only [first, second, third, bind, Except.bind, pure, Except.pure] at sealed
        cases sealed
        simp only [decryptPrefs, recodePrefs, recodeKey_back roundTrip first, recodeKey_back roundTrip second,
          recodeItems_back roundTrip third, bind, Except.bind, pure, Except.pure]

/-- A value with the number of the only row takes its place. -/
theorem savePreferences_only {old : AppPreferences} (only : t.rows = [old]) (same : prefs.id = old.id)
    (roundTrip : ∀ text out, calls.encrypt text = .ok out → out ≠ "" ∧ calls.decrypt out = .ok text)
    (saved : savePreferences calls t prefs = .ok next) :
    ∃ row, next.rows = [row] ∧ row.adminPin = prefs.adminPin ∧ storedPreferences calls next = .ok prefs := by
  unfold savePreferences at saved
  cases sealed : encryptPrefs calls prefs with
  | error cause => simp [sealed, bind, Except.bind] at saved
  | ok encrypted =>
    obtain ⟨number, pin, -⟩ := recodePrefs_rest sealed
    have stored : t.find? encrypted.id = some old := by
      rw [number, same]
      exact Table.find?_of_mem (only ▸ List.mem_singleton_self old)
    obtain ⟨made, replaced, rows⟩ := @Numbered.save?_stored _ _ AppPreferences.withID (fun _ _ => rfl) t
      AppPreferences.defaulted encrypted old stored
    simp only [sealed, bind, Except.bind, replaced] at saved
    cases saved
    have alone : next.rows = [encrypted] := by
      rw [rows, Table.put_rows, only, List.map_singleton, if_pos (number.trans same).symm]
    refine ⟨encrypted, alone, pin, ?_⟩
    rw [storedPreferences, firstRow_only alone]
    exact decryptPrefs_encrypted roundTrip sealed

theorem keptPin_hidden {sent current pin : String}
    (hashes : ∀ pin out, calls.generateFromPassword pin = .ok out → out ≠ pin) (unlike : sent ≠ current)
    (given : sent ≠ "") (open' : sent ≠ mask) (kept : keptPin calls sent current = .ok pin) : pin ≠ sent := by
  rw [keptPin, if_pos ⟨given, open', unlike⟩] at kept
  exact hashes _ _ kept

/-- The finance service saves under the number of the row it read, and its updates stick. -/
theorem updateFinancePreferences_sticks {old : AppPreferences} (only : t.rows = [old])
    (roundTrip : ∀ text out, calls.encrypt text = .ok out → out ≠ "" ∧ calls.decrypt out = .ok text)
    (hashes : ∀ pin out, calls.generateFromPassword pin = .ok out → out ≠ pin) (unlike : prefs.adminPin ≠ old.adminPin)
    (saved : updateFinancePreferences calls t prefs = .ok next) : Sticks calls prefs next := by
  unfold updateFinancePreferences at saved
  cases stored : storedPreferences calls t with
  | error cause => simp [stored] at saved
  | ok current =>
    simp only [stored] at saved
    rw [storedPreferences, firstRow_only only] at stored
    obtain ⟨number, pin, -⟩ := recodePrefs_rest stored
    cases hashed : keptPin calls prefs.adminPin current.adminPin with
    | error cause => simp [hashed] at saved
    | ok adminPin =>
      simp only [hashed] at saved
      have numbered : ({ prefs with id := current.id, adminPin } : AppPreferences).id = old.id := number
      obtain ⟨row, alone, same, read⟩ := savePreferences_only only numbered roundTrip saved
      refine ⟨⟨_, congrArg (Except.map AppPreferences.masked) read, rfl⟩, by rw [alone]; rfl, fun given masked => ?_⟩
      intro other member
      rw [alone, List.mem_singleton] at member
      rw [member, same]
      exact keptPin_hidden hashes (pin ▸ unlike) given masked hashed

end Finance

/-- No update of a client's sticks: it adds a row behind the one that is read. -/
theorem preferences_lost (calls : SecretCalls) (s : Settings) (prefs : AppPreferences)
    (one : s.preferences.rows.length = 1) (client : prefs.id = 0)
    (saved : (updatePreferences calls s prefs).1 = .ok ()) :
    ¬Sticks calls prefs (updatePreferences calls s prefs).2.preferences ∧
      (updatePreferences calls s prefs).2.preferences.rows.length = 2 ∧
      getPreferences calls (updatePreferences calls s prefs).2.preferences = getPreferences calls s.preferences := by
  obtain ⟨more, same⟩ := updatePreferences_saved client (List.ne_nil_of_length_pos (by omega)) saved
  exact ⟨fun sticks => by have := sticks.one; omega, by omega, same⟩

section Shop

def shopPreferences : AppPreferences where
  id := 1
  storeName := "متجر بيدر"
  storeAddress := ""
  storePhone := ""
  currency := "IQD"
  taxRate := 0
  theme := "dark"
  accentColor := "#306D29"
  enableSound := false
  language := "ar"
  lowStockTrigger := 5
  adminPin := ""
  geminiAPIKey := ""
  geminiAPIKeys := []
  fontSize := ""
  autoLockTime := 0
  quickSell := false
  autoPrint := false
  autoPrintFormat := ""
  thermalPaperSize := ""
  requireShift := false
  cloudAutoSync := false
  receiptPrinter := ""
  labelPrinter := ""
  aiProvider := "gemini"
  aiModel := "gemma-4-31b-it"
  aiRotationMode := "failover"
  groqAPIKey := ""

/-- The settings of a new database. -/
def newSettings : Settings :=
  ⟨⟨⟨⟨[shopPreferences], by simp⟩, 1, by simp [shopPreferences]⟩, by simp [shopPreferences]⟩, ⟨"", [], ""⟩⟩

def sealing : SecretCalls :=
  ⟨fun text => .ok ("AES " ++ text), fun text => .ok (text.drop 4).toString, fun pin => .ok ("$2a$" ++ pin), fun _ => .ok ()⟩

/-- A client changes the store's name. -/
def renamed : AppPreferences := { shopPreferences with id := 0, storeName := "بيدر الجديد" }

end Shop

/-- The name sent is not the one that is read afterwards. -/
theorem preferences_lost_renamed :
    getPreferences sealing (updatePreferences sealing newSettings renamed).2.preferences =
      getPreferences sealing newSettings.preferences :=
  (preferences_lost sealing newSettings renamed rfl rfl (by rfl)).2.2

theorem preferences_lost_name :
    (updatePreferences sealing newSettings renamed).1 = .ok () ∧
      ((updatePreferences sealing newSettings renamed).2.preferences.rows.map AppPreferences.storeName) =
        ["متجر بيدر", "بيدر الجديد"] ∧
      ((getPreferences sealing (updatePreferences sealing newSettings renamed).2.preferences).map AppPreferences.storeName) =
        .ok "متجر بيدر" ∧
      ¬Sticks sealing renamed (updatePreferences sealing newSettings renamed).2.preferences := by
  refine ⟨by rfl, by decide +kernel, by rfl, fun sticks => ?_⟩
  have one := sticks.one
  revert one
  decide +kernel

end BeidarPos
