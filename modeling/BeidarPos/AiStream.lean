import BeidarPos.Rotation
import Mathlib.Data.List.Basic
import Mathlib.Tactic.Ring

/-! A request to the language model: the models it is sent to one after the other, the key it
carries, and what of the answers is shown. The counter of the requests picks the model and the
key; each model is tried three times. -/
namespace BeidarPos

structure WeightedModel where
  name : String
  weight : Int

def groqWeightedModels : List WeightedModel :=
  [⟨"llama-3.1-8b-instant", 14⟩, ⟨"allam-2-7b", 7⟩, ⟨"llama-3.3-70b-versatile", 1⟩, ⟨"qwen/qwen3.6-27b", 1⟩]

def geminiWeightedModels : List WeightedModel := [⟨"gemma-4-31b-it", 1⟩]

structure AiPreferences where
  aiProvider : String
  aiModel : String
  aiRotationMode : String
  geminiAPIKey : String
  geminiAPIKeys : List String
  groqAPIKey : String

/-- What is found beside the preferences: the keys the server answers with, if it does, the key kept on the machine
and the two variables of the environment. -/
structure KeySources where
  globalKeys : Option (List String)
  secureKey : String
  groqVariable : String
  grokVariable : String

section Selection

def selectFrom : List WeightedModel → Int → Int → Option String
  | [], _, _ => none
  | m :: rest, val, current => if val < current + m.weight then some m.name else selectFrom rest val (current + m.weight)

/-- `count` is the counter of the requests. -/
def selectWeightedModel (models : List WeightedModel) (count : Nat) : String :=
  let first := (models.head?.map WeightedModel.name).getD ""
  let totalWeight := (models.map WeightedModel.weight).sum
  if totalWeight ≤ 0 then first else (selectFrom models (count % totalWeight.toNat : Nat) 0).getD first

def usableKey (key : String) : Bool := key ≠ "" && key ≠ "********"

/-- The keys of one place, where none was found in the places before. -/
def orElseKeys (active further : List String) : List String := if active = [] then further else active

def ownKeys (prefs : AiPreferences) (provider : String) : List String :=
  if provider = "groq" then [prefs.groqAPIKey].filter usableKey
  else (prefs.geminiAPIKey :: prefs.geminiAPIKeys).filter usableKey

def activeKeys (prefs : AiPreferences) (provider : String) (sources : KeySources) : List String :=
  let stored := orElseKeys (orElseKeys (ownKeys prefs provider) ((sources.globalKeys.getD []).filter usableKey))
    ([sources.secureKey].filter (· ≠ ""))
  if provider = "groq" then
    orElseKeys stored ([if sources.groqVariable = "" then sources.grokVariable else sources.groqVariable].filter (· ≠ ""))
  else stored

/-- `selectGeminiKey` and `selectGroqKey`. -/
def selectKey (prefs : AiPreferences) (provider : String) (count : Nat) (sources : KeySources) : String :=
  ((activeKeys prefs provider sources)[count % (activeKeys prefs provider sources).length]?).getD ""

def aiProviderOf (prefs : AiPreferences) : String := if prefs.aiProvider = "" then "gemini" else prefs.aiProvider

def weightedModels (provider : String) : List WeightedModel :=
  if provider = "groq" then groqWeightedModels else geminiWeightedModels

def selectedModel (prefs : AiPreferences) (count : Nat) : String :=
  let provider := aiProviderOf prefs
  if prefs.aiRotationMode = "weighted" then selectWeightedModel (weightedModels provider) count
  else if prefs.aiModel ≠ "" then prefs.aiModel
  else if provider = "groq" then "llama-3.3-70b-versatile" else "gemma-4-31b-it"

/-- The selected model first, then the others. -/
def fallbackModels (prefs : AiPreferences) (count : Nat) : List String :=
  selectedModel prefs count ::
    (((weightedModels (aiProviderOf prefs)).map WeightedModel.name).filter fun name => name ≠ selectedModel prefs count)

end Selection

section Shares

def shares (models : List WeightedModel) : List (String × Nat) := models.map fun m => (m.name, m.weight.toNat)

theorem selectFrom_pick (models : List WeightedModel) (weights : ∀ m ∈ models, 0 ≤ m.weight) (val current : Int)
    (within : current ≤ val) :
    selectFrom models val current = Rotation.pick (shares models) (val - current).toNat := by
  induction models generalizing current with
  | nil => rfl
  | cons m rest ih =>
    have own := weights m List.mem_cons_self
    have later := ih (fun m' member => weights m' (List.mem_cons_of_mem m member))
    rw [selectFrom, shares, List.map_cons, Rotation.pick, ← shares]
    by_cases below : val < current + m.weight
    · rw [if_pos below, if_pos (by omega)]
    · rw [if_neg below, if_neg (by omega), later (current + m.weight) (by omega)]
      congr 1
      omega

theorem total_shares (models : List WeightedModel) (weights : ∀ m ∈ models, 0 ≤ m.weight) :
    (Rotation.total (shares models) : Int) = (models.map WeightedModel.weight).sum := by
  induction models with
  | nil => rfl
  | cons m rest ih =>
    have own := weights m List.mem_cons_self
    have later := ih fun m' member => weights m' (List.mem_cons_of_mem m member)
    simp only [Rotation.total, shares, List.map_cons, List.sum_cons, Nat.cast_add] at later ⊢
    omega

/-- In as many requests as the models weigh together, each is selected as often as it weighs. -/
theorem models_share (models : List WeightedModel) (weights : ∀ m ∈ models, 0 ≤ m.weight)
    (positive : 0 < (models.map WeightedModel.weight).sum) (name : String) (n : Nat) :
    (((Finset.Ico n (n + (models.map WeightedModel.weight).sum.toNat)).filter
        fun count => selectWeightedModel models count = name).card : Int) =
      ((models.filter fun m => m.name = name).map WeightedModel.weight).sum := by
  have total := total_shares models weights
  have total' : (models.map WeightedModel.weight).sum.toNat = Rotation.total (shares models) := by omega
  have selects : ∀ count, selectWeightedModel models count = name ↔
      ∃ a ∈ Rotation.pick (shares models) (count % Rotation.total (shares models)), a = name := by
    intro count
    obtain ⟨picked, found⟩ := Rotation.pick_below (shares models) (count % Rotation.total (shares models)) (Nat.mod_lt _ (by omega))
    rw [selectWeightedModel, if_neg (by omega), selectFrom_pick models weights _ 0 (by omega), total', Int.sub_zero,
      Int.toNat_natCast, found]
    simp
  have kept : ∀ m ∈ models.filter fun m => m.name = name, 0 ≤ m.weight := fun m member =>
    weights m (List.mem_of_mem_filter member)
  rw [Finset.filter_congr fun count _ => selects count, total', Rotation.turns_shares, ← total_shares _ kept]
  simp only [Rotation.total, shares, List.filter_map, Function.comp_def]

theorem models_share_groq :
    (((Finset.Ico 5 28).filter fun count => selectWeightedModel groqWeightedModels count = "allam-2-7b").card : Int) = 7 :=
  models_share groqWeightedModels (by decide) (by decide) "allam-2-7b" 5

end Shares

section Orchestration

inductive CallOutcome where
  | succeeded
  | canceled
  | failed (error : String)
deriving DecidableEq

/-- A call of the provider: the texts it handed on as they came, and how it ended. -/
structure ProviderAnswer where
  chunks : List String
  outcome : CallOutcome
deriving DecidableEq

structure AiCall where
  model : String
  key : String
  answer : ProviderAnswer
deriving DecidableEq

/-- How the request ends: with `onComplete`, or with `onError` and the last error. -/
inductive StreamEnd where
  | completed
  | failed (lastErr : Option String)
deriving DecidableEq

/-- What is found when the turn of a model comes: whether the request was cancelled, and the keys. -/
structure Turnover where
  done : Bool
  sources : KeySources

def maxRetries : Nat := 3

def missingKey (provider : String) : String :=
  "مفتاح الـ API الخاص بـ " ++ provider ++ " غير متوفر أو غير مضبوط بشكل صحيح"

variable (answers : Nat → String → String → ProviderAnswer)

/-- Up to so many calls with one model, from the `n`th call of the request on, and the error of the last one. -/
def tryModel (model key : String) : Nat → Nat → Option String → List AiCall × Option String
  | 0, _, err => ([], err)
  | attempts + 1, n, _ =>
    let call : AiCall := ⟨model, key, answers n model key⟩
    match (answers n model key).outcome with
    | .failed e => (call :: (tryModel model key attempts (n + 1) (some e)).1, (tryModel model key attempts (n + 1) (some e)).2)
    | .succeeded => ([call], none)
    | .canceled => ([call], none)

/-- The loop over the models; `k` and `n` count the models and the calls before. -/
def tryModels (prefs : AiPreferences) (count : Nat) (turns : Nat → Turnover) :
    List String → Nat → Nat → Option String → List AiCall × StreamEnd
  | [], _, _, lastErr => ([], .failed lastErr)
  | model :: rest, k, n, _ =>
    if (turns k).done then ([], .completed)
    else
      let provider := aiProviderOf prefs
      let key := selectKey prefs provider count (turns k).sources
      if key = "" ∨ key = "********" then
        if prefs.aiRotationMode = "disabled" then ([], .failed (some (missingKey provider)))
        else tryModels prefs count turns rest (k + 1) n (some (missingKey provider))
      else
        let tried := tryModel answers model key maxRetries n none
        match tried.2 with
        | none => (tried.1, .completed)
        | some e =>
          if prefs.aiRotationMode = "disabled" then (tried.1, .failed (some e))
          else
            let later := tryModels prefs count turns rest (k + 1) (n + tried.1.length) (some e)
            (tried.1 ++ later.1, later.2)

/-- The request with that number. -/
def generateStream (prefs : AiPreferences) (count : Nat) (turns : Nat → Turnover) : List AiCall × StreamEnd :=
  tryModels answers prefs count turns (fallbackModels prefs count) 0 0 none

def AiCall.text (call : AiCall) : String := String.join call.answer.chunks

/-- What the window shows of it: the chunks of all calls, one after the other. -/
def shown (calls : List AiCall) : String := String.join (calls.flatMap fun call => call.answer.chunks)

end Orchestration

section Requests

def AiCall.failing (call : AiCall) : Prop := ∃ e, call.answer.outcome = .failed e

variable (answers : Nat → String → String → ProviderAnswer)

theorem tryModel_calls (model key : String) (attempts n : Nat) (err : Option String) :
    (tryModel answers model key attempts n err).1.length ≤ attempts ∧
      ∀ call ∈ (tryModel answers model key attempts n err).1, call.model = model ∧ call.key = key := by
  induction attempts generalizing n err with
  | zero => exact ⟨Nat.le_refl 0, by simp [tryModel]⟩
  | succ attempts ih =>
    rw [tryModel]
    split
    · next e _ =>
      obtain ⟨short, alike⟩ := ih (n + 1) (some e)
      refine ⟨Nat.succ_le_succ short, fun call member => ?_⟩
      rcases List.mem_cons.mp member with rfl | member
      · exact ⟨rfl, rfl⟩
      · exact alike call member
    all_goals
      refine ⟨Nat.succ_le_succ (Nat.zero_le attempts), fun call member => ?_⟩
      rw [List.mem_singleton.mp member]
      exact ⟨rfl, rfl⟩

/-- Where the last of the calls left an error, all of them failed. -/
theorem tryModel_failed (model key : String) (attempts n : Nat) (err : Option String) (e : String)
    (left : (tryModel answers model key attempts n err).2 = some e) :
    ∀ call ∈ (tryModel answers model key attempts n err).1, call.failing := by
  induction attempts generalizing n err with
  | zero => simp [tryModel]
  | succ attempts ih =>
    rw [tryModel] at left ⊢
    split at left
    · next e' outcome =>
      intro call member
      rcases List.mem_cons.mp member with rfl | member
      · exact ⟨e', outcome⟩
      · exact ih (n + 1) (some e') left call member
    all_goals cases left

/-- Where it left none, it alone did not fail. -/
theorem tryModel_ended (model key : String) (attempts n : Nat) (err : Option String)
    (left : (tryModel answers model key (attempts + 1) n err).2 = none) :
    ∃ earlier last, (tryModel answers model key (attempts + 1) n err).1 = earlier ++ [last] ∧
      (∀ call ∈ earlier, call.failing) ∧ ¬ last.failing := by
  induction attempts generalizing n err with
  | zero =>
    rw [tryModel] at left ⊢
    split at left
    · cases left
    all_goals
      next outcome => exact ⟨[], _, rfl, by simp, by simp [AiCall.failing, outcome]⟩
  | succ attempts ih =>
    rw [tryModel] at left ⊢
    split at left
    · next e outcome =>
      obtain ⟨earlier, last, calls, failing, ended⟩ := ih (n + 1) (some e) left
      refine ⟨_ :: earlier, last, by rw [calls, List.cons_append], fun call member => ?_, ended⟩
      rcases List.mem_cons.mp member with rfl | member
      · exact ⟨e, outcome⟩
      · exact failing call member
    all_goals
      next outcome => exact ⟨[], _, rfl, by simp, by simp [AiCall.failing, outcome]⟩

/-- Few calls, of which all failed but perhaps the last, which then completes the request. -/
def FailsToLast (most : Nat) (result : List AiCall × StreamEnd) : Prop :=
  result.1.length ≤ most ∧ ∃ earlier ending, result.1 = earlier ++ ending ∧ (∀ call ∈ earlier, call.failing) ∧
    ending.length ≤ 1 ∧ ∀ call ∈ ending, ¬ call.failing ∧ result.2 = .completed

theorem failsToLast_nil (most : Nat) (ended : StreamEnd) : FailsToLast most ([], ended) :=
  ⟨Nat.zero_le most, [], [], rfl, by simp, by simp, by simp⟩

theorem failsToLast_append {most fewer : Nat} (calls : List AiCall) {later : List AiCall × StreamEnd}
    (few : calls.length ≤ fewer) (failing : ∀ call ∈ calls, call.failing) (after : FailsToLast most later) :
    FailsToLast (fewer + most) (calls ++ later.1, later.2) := by
  obtain ⟨short, earlier, ending, found, failing', one, ended⟩ := after
  refine ⟨by rw [List.length_append]; omega, calls ++ earlier, ending, by rw [found, List.append_assoc], ?_, one, ended⟩
  intro call member
  rcases List.mem_append.mp member with member | member
  · exact failing call member
  · exact failing' call member

theorem tryModels_calls (prefs : AiPreferences) (count : Nat) (turns : Nat → Turnover) (models : List String) (k n : Nat)
    (lastErr : Option String) :
    FailsToLast (maxRetries * models.length) (tryModels answers prefs count turns models k n lastErr) := by
  induction models generalizing k n lastErr with
  | nil => exact failsToLast_nil _ _
  | cons model rest ih =>
    rw [tryModels, List.length_cons, Nat.mul_succ, Nat.add_comm]
    split
    · exact failsToLast_nil _ _
    dsimp only
    split
    · split
      · exact failsToLast_nil _ _
      · exact failsToLast_append [] (Nat.zero_le _) (fun _ member => absurd member List.not_mem_nil) (ih (k + 1) n _)
    · have few := (tryModel_calls answers model (selectKey prefs (aiProviderOf prefs) count (turns k).sources) maxRetries n none).1
      split
      · next left =>
        obtain ⟨earlier, last, calls, failing, ended⟩ := tryModel_ended answers _ _ 2 n none left
        refine ⟨Nat.le_add_right_of_le few, earlier, [last], calls, failing, by simp, fun call member => ?_⟩
        rw [List.mem_singleton.mp member]
        exact ⟨ended, rfl⟩
      · next e left =>
        have failing := tryModel_failed answers _ _ _ n none e left
        split
        · exact ⟨Nat.le_add_right_of_le few, _, [], (List.append_nil _).symm, failing, by simp, by simp⟩
        · exact failsToLast_append _ few failing (ih (k + 1) _ (some e))

theorem shown_append (earlier : List AiCall) (last : AiCall) :
    shown (earlier ++ [last]) = shown earlier ++ last.text := by
  simp [shown, AiCall.text, List.flatMap_append, String.join_append]

theorem shown_nothing (calls : List AiCall) : shown calls = "" ↔ ∀ call ∈ calls, call.text = "" := by
  induction calls with
  | nil => simp [shown]
  | cons call rest ih =>
    have split : shown (call :: rest) = call.text ++ shown rest := by
      simp [shown, AiCall.text, List.flatMap_cons, String.join_append]
    rw [split, String.append_eq_empty_iff, ih, List.forall_mem_cons]

/-- What is shown of a request that succeeds is the text of its last call just when no earlier one, which all failed,
had handed on any. -/
theorem stream_text_iff (prefs : AiPreferences) (count : Nat) (turns : Nat → Turnover) (earlier : List AiCall) (last : AiCall)
    (calls : (generateStream answers prefs count turns).1 = earlier ++ [last]) (success : last.answer.outcome = .succeeded) :
    (generateStream answers prefs count turns).2 = .completed ∧
      (∀ call ∈ earlier, ∃ e, call.answer.outcome = .failed e) ∧
      earlier.length < 3 * (fallbackModels prefs count).length ∧
      (shown (generateStream answers prefs count turns).1 = last.text ↔ ∀ call ∈ earlier, call.text = "") := by
  obtain ⟨short, failed, ending, found, failing, one, ended⟩ := tryModels_calls answers prefs count turns
    (fallbackModels prefs count) 0 0 none
  rw [← generateStream] at short found ended
  have unfailing : ¬ last.failing := by
    rintro ⟨e, outcome⟩
    simp [success] at outcome
  have last_ends : ending = [last] := by
    cases ending with
    | nil =>
      rw [found, List.append_nil] at calls
      exact absurd (failing last (by simp [calls])) unfailing
    | cons call rest =>
      cases @List.eq_nil_of_length_eq_zero _ rest (by simpa using one)
      rw [found] at calls
      rw [(List.append_inj' calls rfl).2]
  subst last_ends
  have same : failed = earlier := List.append_cancel_right (found.symm.trans calls)
  subst same
  rw [calls, List.length_append, List.length_singleton] at short
  refine ⟨(ended last List.mem_cons_self).2, failing, short, ?_⟩
  rw [calls, shown_append, ← shown_nothing, String.append_eq_right_iff]

/-- A first call hands on half an answer and fails; the second gives it whole. -/
theorem stream_text_iff_retried :
    let prefs : AiPreferences := ⟨"gemini", "gemma-4-31b-it", "weighted", "key", [], ""⟩
    let answers : Nat → String → String → ProviderAnswer := fun n _ _ =>
      if n = 0 then ⟨["half"], .failed "reset"⟩ else ⟨["half", " and half"], .succeeded⟩
    let request := generateStream answers prefs 1 fun _ => ⟨false, ⟨none, "", "", ""⟩⟩
    shown request.1 = "halfhalf and half" ∧ shown request.1 ≠ "half and half" ∧ request.2 = .completed := by
  intro prefs answers request
  have text := stream_text_iff answers prefs 1 (fun _ => ⟨false, ⟨none, "", "", ""⟩⟩)
    [⟨"gemma-4-31b-it", "key", ⟨["half"], .failed "reset"⟩⟩]
    ⟨"gemma-4-31b-it", "key", ⟨["half", " and half"], .succeeded⟩⟩ (by decide +kernel) rfl
  exact ⟨by decide +kernel, mt text.2.2.2.mp (by decide +kernel), text.1⟩

end Requests

section KeyRotation

theorem orElseKeys_found {active : List String} (found : active ≠ []) (further : List String) :
    orElseKeys active further = active :=
  if_neg found

/-- Keys of one's own are taken wherever others are. -/
theorem activeKeys_own (prefs : AiPreferences) (provider : String) (own : ownKeys prefs provider ≠ []) (sources : KeySources) :
    activeKeys prefs provider sources = ownKeys prefs provider := by
  simp only [activeKeys, orElseKeys_found own, ite_self]

theorem ownKeys_usable (prefs : AiPreferences) (provider key : String) (member : key ∈ ownKeys prefs provider) :
    usableKey key = true := by
  rw [ownKeys] at member
  split at member
  all_goals exact (List.mem_filter.mp member).2

/-- The key of a request, where there are keys of one's own. -/
theorem selectKey_own (prefs : AiPreferences) (provider : String) (own : ownKeys prefs provider ≠ []) (count : Nat)
    (sources : KeySources) :
    ∃ key ∈ ownKeys prefs provider, selectKey prefs provider count sources = key ∧
      (ownKeys prefs provider)[count % (ownKeys prefs provider).length]? = some key := by
  have within : count % (ownKeys prefs provider).length < (ownKeys prefs provider).length :=
    Nat.mod_lt _ (List.length_pos_of_ne_nil own)
  refine ⟨(ownKeys prefs provider)[count % (ownKeys prefs provider).length], List.getElem_mem within, ?_,
    List.getElem?_eq_getElem within⟩
  rw [selectKey, activeKeys_own prefs provider own, List.getElem?_eq_getElem within, Option.getD_some]

variable (answers : Nat → String → String → ProviderAnswer)

theorem tryModel_dead (model key : String) (attempts n : Nat) (err : Option String)
    (dead : ∀ n, ∃ e, (answers n model key).outcome = .failed e) :
    ∃ e, (tryModel answers model key (attempts + 1) n err).2 = some e := by
  induction attempts generalizing n err with
  | zero =>
    obtain ⟨e, outcome⟩ := dead n
    exact ⟨e, by rw [tryModel]; simp [outcome, tryModel]⟩
  | succ attempts ih =>
    obtain ⟨e, outcome⟩ := dead n
    rw [tryModel]
    simpa [outcome] using ih (n + 1) (some e)

theorem tryModel_living (model key : String) (attempts n : Nat) (err : Option String)
    (living : ∀ e, (answers n model key).outcome ≠ .failed e) :
    (tryModel answers model key (attempts + 1) n err).2 = none := by
  rw [tryModel]
  split
  · next e outcome => exact absurd outcome (living e)
  all_goals rfl

/-- With one key for all its models, a request fails just when that key's calls do. -/
theorem tryModels_failed_iff (prefs : AiPreferences) (count : Nat) (turns : Nat → Turnover) (key : String)
    (usable : usableKey key = true) (running : ∀ k, (turns k).done = false)
    (selects : ∀ k, selectKey prefs (aiProviderOf prefs) count (turns k).sources = key) (dead : Bool)
    (fails : ∀ n model, (∃ e, (answers n model key).outcome = .failed e) ↔ dead = true) (model : String) (rest : List String)
    (k n : Nat) (lastErr : Option String) :
    (tryModels answers prefs count turns (model :: rest) k n lastErr).2 ≠ .completed ↔ dead = true := by
  have present : ¬ (key = "" ∨ key = "********") := by
    simpa [usableKey] using usable
  induction rest generalizing model k n lastErr with
  | nil =>
    rw [tryModels, if_neg (by simp [running])]
    dsimp only
    rw [selects, if_neg present]
    cases dead with
    | true =>
      obtain ⟨e, left⟩ := tryModel_dead answers model key 2 n none fun n => (fails n model).mpr rfl
      simp only [maxRetries, left]
      split <;> simp [tryModels]
    | false =>
      have left := tryModel_living answers model key 2 n none fun e outcome => by simpa using (fails n model).mp ⟨e, outcome⟩
      simp [maxRetries, left]
  | cons next rest ih =>
    rw [tryModels, if_neg (by simp [running])]
    dsimp only
    rw [selects, if_neg present]
    cases dead with
    | true =>
      obtain ⟨e, left⟩ := tryModel_dead answers model key 2 n none fun n => (fails n model).mpr rfl
      simp only [maxRetries, left]
      split
      · simp
      · simpa using ih next (k + 1) _ (some e)
    | false =>
      have left := tryModel_living answers model key 2 n none fun e outcome => by simpa using (fails n model).mp ⟨e, outcome⟩
      simp [maxRetries, left]

/-- Every attempt of a request carries the same key: with keys whose calls fail and keys whose calls do not, as many
requests fail of as many as there are keys as there are failing keys. -/
theorem failed_share (prefs : AiPreferences) (own : ownKeys prefs (aiProviderOf prefs) ≠ [])
    (answers : Nat → Nat → String → String → ProviderAnswer) (turns : Nat → Nat → Turnover)
    (running : ∀ count k, (turns count k).done = false) (dead : String → Bool)
    (fails : ∀ count n model key, (∃ e, (answers count n model key).outcome = .failed e) ↔ dead key = true) (n : Nat) :
    ((Finset.Ico n (n + (ownKeys prefs (aiProviderOf prefs)).length)).filter fun count =>
        (generateStream (answers count) prefs count (turns count)).2 ≠ .completed).card =
      (ownKeys prefs (aiProviderOf prefs)).countP dead := by
  have request : ∀ count, (generateStream (answers count) prefs count (turns count)).2 ≠ .completed ↔
      ∃ key ∈ Rotation.pick ((ownKeys prefs (aiProviderOf prefs)).map fun key => (key, 1))
        (count % Rotation.total ((ownKeys prefs (aiProviderOf prefs)).map fun key => (key, 1))), dead key = true := by
    intro count
    obtain ⟨key, member, -, found⟩ := selectKey_own prefs (aiProviderOf prefs) own count ⟨none, "", "", ""⟩
    have selects : ∀ k, selectKey prefs (aiProviderOf prefs) count (turns count k).sources = key := by
      intro k
      obtain ⟨key', -, selected, found'⟩ := selectKey_own prefs (aiProviderOf prefs) own count (turns count k).sources
      rw [selected]
      exact Option.some.inj (found'.symm.trans found)
    rw [Rotation.total_even, Rotation.pick_even, found, generateStream, fallbackModels,
      tryModels_failed_iff (answers count) prefs count (turns count) key (ownKeys_usable prefs _ key member) (running count)
        selects (dead key) fun n model => fails count n model key]
    simp
  have shared := Rotation.turns_shares (fun key => dead key = true)
    ((ownKeys prefs (aiProviderOf prefs)).map fun key => (key, 1)) n
  rw [Finset.filter_congr fun count _ => request count, ← Rotation.total_even, shared, List.filter_map, List.map_map,
    List.countP_eq_length_filter]
  simp [Function.comp_def]

/-- Three keys, of which the second is revoked: every third request fails. -/
theorem failed_share_revoked :
    let prefs : AiPreferences := ⟨"", "", "weighted", "first", ["second", "third"], ""⟩
    let answers : Nat → Nat → String → String → ProviderAnswer := fun _ _ _ key =>
      if key = "second" then ⟨[], .failed "HTTP error 403"⟩ else ⟨["مرحبا"], .succeeded⟩
    ((Finset.Ico 7 10).filter fun count =>
      (generateStream (answers count) prefs count fun _ => ⟨false, ⟨none, "", "", ""⟩⟩).2 ≠ .completed).card = 1 := by
  intro prefs answers
  have share := failed_share prefs (by decide +kernel) answers (fun _ _ => ⟨false, ⟨none, "", "", ""⟩⟩) (fun _ _ => rfl)
    (fun key => key == "second") (fun _ _ _ key => by
      by_cases second : key = "second"
      · simp [answers, second]
      · simp [answers, second]) 7
  exact share

end KeyRotation

end BeidarPos
