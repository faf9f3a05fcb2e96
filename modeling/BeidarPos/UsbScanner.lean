import Mathlib.Algebra.GroupWithZero.Nat
import BeidarPos.Runs

/-! The keys of a barcode scanner, told from those of a person by how fast they come. The listener
sees every key pressed outside a field, and hands over what it collected at an Enter. -/
namespace BeidarPos

/-- A key whose name has one code unit is printable. -/
inductive ScannerKey where
  | enter
  | printable (c : Char)
  | other
  deriving DecidableEq

structure KeyDown where
  key : ScannerKey
  now : Int
  inField : Bool
  enabled : Bool
  deriving DecidableEq

/-- The state and the refs of the hook, the key it stores, the codes it handed over and how often it reported a
scanner. -/
structure UsbScanner where
  buffer : List Char
  lastKeyTime : Int
  consecutiveFastInputs : Nat
  isUsbDetected : Bool
  lastDetectionTime : Option Int
  scanCount : Nat
  isUsbDetectedRef : Bool
  stored : Bool
  scans : List String
  detections : Nat

inductive ScannerEvent where
  | keyDown (e : KeyDown)
  | rendered
  | resetDetection
  | markAsUsbConnected (now : Int)
  deriving DecidableEq

def detectionThreshold : Int := 50

def minBarcodeLength : Nat := 3

/-- The hook as the page mounts it. -/
def UsbScanner.mounted (stored : Bool) (now : Int) : UsbScanner :=
  ⟨[], 0, 0, stored, if stored then some now else none, 0, stored, stored, [], 0⟩

namespace UsbScanner

variable (s : UsbScanner)

/-- The flag is the one last rendered. -/
def detect (now : Int) : UsbScanner :=
  if minBarcodeLength - 1 ≤ s.consecutiveFastInputs then
    if s.isUsbDetectedRef then { s with scanCount := s.scanCount + 1 }
    else
      { s with
        stored := true, isUsbDetected := true, lastDetectionTime := some now
        scanCount := s.scanCount + 1, detections := s.detections + 1 }
  else { s with scanCount := s.scanCount + 1 }

def submit (now : Int) : UsbScanner :=
  if minBarcodeLength ≤ s.buffer.length then
    { s.detect now with scans := s.scans ++ [String.ofList s.buffer] }
  else s

/-- A key after too long a pause begins anew. -/
def collect (c : Char) (timeDiff : Int) : UsbScanner :=
  if detectionThreshold < timeDiff then { s with buffer := [c], consecutiveFastInputs := 0 }
  else { s with buffer := s.buffer ++ [c], consecutiveFastInputs := s.consecutiveFastInputs + 1 }

def handleKeyDown (e : KeyDown) : UsbScanner :=
  if !e.enabled || e.inField then s
  else
    match e.key with
    | .enter => { { s with lastKeyTime := e.now }.submit e.now with buffer := [], consecutiveFastInputs := 0 }
    | .printable c => { s with lastKeyTime := e.now }.collect c (e.now - s.lastKeyTime)
    | .other => { s with lastKeyTime := e.now }

def next : ScannerEvent → UsbScanner
  | .keyDown e => s.handleKeyDown e
  | .rendered => { s with isUsbDetectedRef := s.isUsbDetected }
  | .resetDetection => { s with stored := false, isUsbDetected := false, lastDetectionTime := none, scanCount := 0 }
  | .markAsUsbConnected now => { s with stored := true, isUsbDetected := true, lastDetectionTime := some now }

def run (events : List ScannerEvent) : UsbScanner := events.foldl next s

end UsbScanner

def ScannerEvent.isKey : ScannerEvent → Bool
  | .keyDown _ => true
  | _ => false

section Bursts

def KeyDown.heard (e : KeyDown) : Bool := e.enabled && !e.inField

/-- The keys the listener hears, each with the pause before it. -/
def heardKeys : Int → List ScannerEvent → List (ScannerKey × Int)
  | _, [] => []
  | last, .keyDown e :: rest => if e.heard then (e.key, e.now - last) :: heardKeys e.now rest else heardKeys last rest
  | last, .rendered :: rest => heardKeys last rest
  | last, .resetDetection :: rest => heardKeys last rest
  | last, .markAsUsbConnected _ :: rest => heardKeys last rest

/-- An Enter, or a printable key after too long a pause. -/
def Breaks : ScannerKey × Int → Prop
  | (.enter, _) => True
  | (.printable _, pause) => detectionThreshold < pause
  | (.other, _) => False

instance : DecidablePred Breaks
  | (.enter, _) => isTrue trivial
  | (.printable _, pause) => inferInstanceAs (Decidable (detectionThreshold < pause))
  | (.other, _) => isFalse not_false

def typed (keys : List (ScannerKey × Int)) : List Char :=
  keys.filterMap fun key => match key.1 with
    | .printable c => some c
    | _ => none

/-- What is typed from the last break on, or from the beginning where there is none. -/
def BurstOf (keys : List (ScannerKey × Int)) (code : List Char) : Prop :=
  ∃ before block, keys = before ++ block ∧ (∀ key ∈ block.tail, ¬Breaks key) ∧
    (before = [] ∨ ∃ key ∈ block.head?, Breaks key) ∧ code = typed block

end Bursts

section Collecting

variable {s : UsbScanner} {keys : List (ScannerKey × Int)} {code : List Char}

theorem collect_lastKeyTime (s : UsbScanner) (c : Char) (timeDiff : Int) : (s.collect c timeDiff).lastKeyTime = s.lastKeyTime := by
  unfold UsbScanner.collect
  split <;> rfl

theorem detect_keeps (s : UsbScanner) (now : Int) : (s.detect now).lastKeyTime = s.lastKeyTime ∧
    (s.detect now).isUsbDetectedRef = s.isUsbDetectedRef := by
  unfold UsbScanner.detect
  split
  · split <;> exact ⟨rfl, rfl⟩
  · exact ⟨rfl, rfl⟩

theorem submit_lastKeyTime (s : UsbScanner) (now : Int) : (s.submit now).lastKeyTime = s.lastKeyTime := by
  unfold UsbScanner.submit
  split
  · exact (detect_keeps s now).1
  · rfl

theorem handleKeyDown_heard {e : KeyDown} (heard : e.heard = true) : s.handleKeyDown e =
    match e.key with
    | .enter => { { s with lastKeyTime := e.now }.submit e.now with buffer := [], consecutiveFastInputs := 0 }
    | .printable c => { s with lastKeyTime := e.now }.collect c (e.now - s.lastKeyTime)
    | .other => { s with lastKeyTime := e.now } := by
  refine if_neg ?_
  unfold KeyDown.heard at heard
  revert heard
  cases e.enabled <;> cases e.inField <;> simp

theorem handleKeyDown_unheard {e : KeyDown} (unheard : ¬e.heard = true) : s.handleKeyDown e = s := by
  refine if_pos ?_
  unfold KeyDown.heard at unheard
  revert unheard
  cases e.enabled <;> cases e.inField <;> simp

theorem handleKeyDown_lastKeyTime (e : KeyDown) :
    (s.handleKeyDown e).lastKeyTime = if e.heard then e.now else s.lastKeyTime := by
  split
  · next heard =>
    rw [handleKeyDown_heard heard]
    cases e.key with
    | enter => exact submit_lastKeyTime _ _
    | printable c => exact collect_lastKeyTime _ _ _
    | other => rfl
  · next unheard => rw [handleKeyDown_unheard unheard]

theorem heardKeys_snoc (front : List ScannerEvent) (event : ScannerEvent) (s : UsbScanner) :
    heardKeys s.lastKeyTime (front ++ [event]) =
      heardKeys s.lastKeyTime front ++ heardKeys (s.run front).lastKeyTime [event] := by
  induction front generalizing s with
  | nil => rfl
  | cons first rest ih =>
    have later := ih (s.next first)
    change _ = _ ++ heardKeys ((s.next first).run rest).lastKeyTime [event]
    cases first with
    | keyDown e =>
      rw [UsbScanner.next, handleKeyDown_lastKeyTime] at later
      rw [List.cons_append, heardKeys, heardKeys]
      split
      · next heard =>
        rw [if_pos heard] at later
        rw [later]
        rfl
      · next unheard =>
        rw [if_neg unheard] at later
        exact later
    | rendered => exact later
    | resetDetection => exact later
    | markAsUsbConnected now => exact later

theorem burst_snoc (key : ScannerKey × Int) (burst : BurstOf keys code) (flows : ¬Breaks key) :
    BurstOf (keys ++ [key]) (code ++ typed [key]) := by
  obtain ⟨before, block, rfl, flow, first, rfl⟩ := burst
  refine ⟨before, block ++ [key], List.append_assoc _ _ _, ?_, first.imp_right ?_, List.filterMap_append.symm⟩
  · cases block with
    | nil => exact fun _ member => absurd member List.not_mem_nil
    | cons head tail =>
      intro other member
      rcases List.mem_append.mp member with earlier | last
      · exact flow other earlier
      · exact List.mem_singleton.mp last ▸ flows
  · rintro ⟨head, member, breaks⟩
    exact ⟨head, by rw [List.head?_append, Option.mem_def.mp member]; rfl, breaks⟩

theorem burst_anew (key : ScannerKey × Int) (keys : List (ScannerKey × Int)) (breaks : Breaks key) :
    BurstOf (keys ++ [key]) (typed [key]) :=
  ⟨keys, [key], rfl, fun _ member => absurd member List.not_mem_nil, .inr ⟨key, rfl, breaks⟩, rfl⟩

/-- There is one burst at the end of the keys. -/
theorem burst_unique {other : List Char} (burst : BurstOf keys code) (second : BurstOf keys other) : code = other := by
  have longer (before block mid rest : List (ScannerKey × Int)) (flow : ∀ key ∈ block.tail, ¬Breaks key)
      (first : before ++ mid = [] ∨ ∃ key ∈ rest.head?, Breaks key) (same : block = mid ++ rest) : block = rest := by
    cases mid with
    | nil => exact same
    | cons head tail =>
      rcases first with empty | ⟨key, member, breaks⟩
      · exact absurd empty (by simp)
      · refine absurd breaks (flow key ?_)
        rw [same, List.cons_append, List.tail_cons]
        exact List.mem_append_right _ (List.mem_of_mem_head? member)
  obtain ⟨before, block, rfl, flow, first, rfl⟩ := burst
  obtain ⟨before', block', same, flow', first', rfl⟩ := second
  rcases List.append_eq_append_iff.mp same with ⟨mid, rfl, parts⟩ | ⟨mid, rfl, parts⟩
  · rw [longer before block mid block' flow first' parts]
  · rw [longer before' block' mid block flow' first parts]

theorem next_burst (burst : BurstOf keys s.buffer) (event : ScannerEvent) :
    BurstOf (keys ++ heardKeys s.lastKeyTime [event]) (s.next event).buffer := by
  cases event with
  | keyDown e =>
    rw [UsbScanner.next, heardKeys]
    by_cases heard : e.heard = true
    · rw [if_pos heard, handleKeyDown_heard heard, heardKeys]
      cases key : e.key with
      | enter => exact burst_anew (.enter, _) keys trivial
      | printable c =>
        dsimp only
        unfold UsbScanner.collect
        split
        · next late => exact burst_anew (.printable c, _) keys late
        · next soon => exact burst_snoc (.printable c, _) burst soon
      | other =>
        have typing := burst_snoc (.other, e.now - s.lastKeyTime) burst not_false
        rwa [show typed [(.other, e.now - s.lastKeyTime)] = [] from rfl, List.append_nil] at typing
    · rw [if_neg heard, handleKeyDown_unheard heard, heardKeys, List.append_nil]
      exact burst
  | rendered | resetDetection | markAsUsbConnected =>
    rw [heardKeys, heardKeys, List.append_nil]
    exact burst

/-- What is collected is the burst at the end of the keys heard so far. -/
theorem run_burst (stored : Bool) (now : Int) (events : List ScannerEvent) :
    BurstOf (heardKeys 0 events) ((UsbScanner.mounted stored now).run events).buffer := by
  induction events using List.reverseRecOn with
  | nil => exact ⟨[], [], rfl, fun _ member => absurd member List.not_mem_nil, .inl rfl, rfl⟩
  | append_singleton front event ih =>
    have keys := heardKeys_snoc front event (UsbScanner.mounted stored now)
    change heardKeys 0 (front ++ [event]) = heardKeys 0 front ++ _ at keys
    rw [keys, show (UsbScanner.mounted stored now).run (front ++ [event]) = _ from Runs.foldl_snoc front event]
    exact next_burst ih event

end Collecting

section Scans

variable {s : UsbScanner} {events : List ScannerEvent}

theorem collect_scans (s : UsbScanner) (c : Char) (timeDiff : Int) : (s.collect c timeDiff).scans = s.scans := by
  unfold UsbScanner.collect
  split <;> rfl

/-- An Enter that is heard. -/
def ScannerEvent.Enters (event : ScannerEvent) : Prop := ∃ e, event = .keyDown e ∧ e.heard = true ∧ e.key = .enter

theorem next_scans_quiet {event : ScannerEvent} (quiet : ¬event.Enters) : (s.next event).scans = s.scans := by
  cases event with
  | keyDown e =>
    rw [UsbScanner.next]
    by_cases heard : e.heard = true
    · rw [handleKeyDown_heard heard]
      cases key : e.key with
      | enter => exact absurd ⟨e, rfl, heard, key⟩ quiet
      | printable c => exact collect_scans _ c _
      | other => rfl
    · rw [handleKeyDown_unheard heard]
  | rendered | resetDetection | markAsUsbConnected => rfl

theorem enter_scans {e : KeyDown} (heard : e.heard = true) (key : e.key = .enter) : (s.next (.keyDown e)).scans =
    s.scans ++ if minBarcodeLength ≤ s.buffer.length then [String.ofList s.buffer] else [] := by
  rw [UsbScanner.next, handleKeyDown_heard heard, key]
  change (UsbScanner.submit _ e.now).scans = _
  unfold UsbScanner.submit
  dsimp only
  split
  · rfl
  · rw [List.append_nil]

/-- A code is handed over at an Enter that finds enough collected, and nowhere else. -/
theorem next_scans (s : UsbScanner) (event : ScannerEvent) (code : String) : (s.next event).scans = s.scans ++ [code] ↔
    event.Enters ∧ minBarcodeLength ≤ s.buffer.length ∧ code = String.ofList s.buffer := by
  by_cases enters : event.Enters
  · obtain ⟨e, rfl, heard, key⟩ := enters
    rw [enter_scans heard key, List.append_cancel_left_eq]
    split
    · next enough =>
      rw [List.cons.injEq]
      exact ⟨fun same => ⟨⟨e, rfl, heard, key⟩, enough, same.1.symm⟩, fun given => ⟨given.2.2.symm, rfl⟩⟩
    · next few => exact ⟨fun none => absurd none (by simp), fun given => absurd given.2.1 few⟩
  · rw [next_scans_quiet enters]
    exact ⟨fun same => absurd (List.self_eq_append_right.mp same) (by simp), fun given => absurd given.1 enters⟩

/-- At whatever point of whatever events, a code is handed over exactly at an Enter, and it is what was typed since
the last Enter or the last printable key that came too late, if that is long enough; how late the Enter itself
comes does not matter. -/
theorem scan_iff (stored : Bool) (now : Int) (event : ScannerEvent) (code : String) :
    (((UsbScanner.mounted stored now).run events).next event).scans =
        ((UsbScanner.mounted stored now).run events).scans ++ [code] ↔
      event.Enters ∧ BurstOf (heardKeys 0 events) code.toList ∧
        minBarcodeLength ≤ code.length := by
  have burst := run_burst stored now events
  rw [next_scans]
  refine and_congr_right fun _ => ?_
  constructor
  · rintro ⟨enough, rfl⟩
    rw [String.toList_ofList, String.length_ofList]
    exact ⟨burst, enough⟩
  · rintro ⟨same, enough⟩
    have collected := burst_unique same burst
    rw [← String.length_toList, collected] at enough
    exact ⟨enough, by rw [← collected, String.ofList_toList]⟩

/-- Whenever a key is pressed, the flag last rendered is the flag. -/
def UsbScanner.InSync : UsbScanner → List ScannerEvent → Prop
  | _, [] => True
  | s, event :: rest => (event.isKey = true → s.isUsbDetectedRef = s.isUsbDetected) ∧ (s.next event).InSync rest

instance UsbScanner.decidableInSync : (s : UsbScanner) → (events : List ScannerEvent) → Decidable (s.InSync events)
  | _, [] => isTrue trivial
  | s, event :: rest => @instDecidableAnd _ _ inferInstance (UsbScanner.decidableInSync (s.next event) rest)

def isReset : ScannerEvent → Nat
  | .resetDetection => 1
  | _ => 0

/-- All but the first of the keys collected came fast; what is detected is stored; and a scan since the last reset
was detected, and reported once. -/
structure UsbScanner.Consistent (s : UsbScanner) (resets : Nat) : Prop where
  fast : s.buffer.length ≤ s.consecutiveFastInputs + 1
  stored : s.stored = s.isUsbDetected
  detected : 0 < s.scanCount → s.isUsbDetected = true
  reported : s.detections + (if s.isUsbDetected then 0 else 1) ≤ resets + 1

variable {resets : Nat}

theorem detect_consistent (sound : s.Consistent resets) (sync : s.isUsbDetectedRef = s.isUsbDetected) (now : Int)
    (fast : minBarcodeLength - 1 ≤ s.consecutiveFastInputs) : (s.detect now).Consistent resets := by
  unfold UsbScanner.detect
  rw [if_pos fast]
  split
  · next rendered => exact ⟨sound.fast, sound.stored, fun _ => sync.symm.trans rendered, sound.reported⟩
  · next unset =>
    have reported := sound.reported
    rw [if_neg (sync ▸ unset)] at reported
    exact ⟨sound.fast, rfl, fun _ => rfl, reported⟩

theorem submit_consistent (sound : s.Consistent resets) (sync : s.isUsbDetectedRef = s.isUsbDetected) (now : Int) :
    (s.submit now).Consistent resets := by
  unfold UsbScanner.submit
  split
  · next enough =>
    have fast : minBarcodeLength - 1 ≤ s.consecutiveFastInputs := by
      have collected := sound.fast
      omega
    obtain ⟨fast, stored, detected, reported⟩ := detect_consistent sound sync now fast
    exact ⟨fast, stored, detected, reported⟩
  · exact sound

theorem collect_consistent (sound : s.Consistent resets) (c : Char) (timeDiff : Int) : (s.collect c timeDiff).Consistent resets := by
  unfold UsbScanner.collect
  split
  · exact ⟨Nat.le_refl 1, sound.stored, sound.detected, sound.reported⟩
  · refine ⟨?_, sound.stored, sound.detected, sound.reported⟩
    rw [List.length_append]
    exact Nat.add_le_add_right sound.fast 1

theorem next_consistent (sound : s.Consistent resets) (event : ScannerEvent)
    (sync : event.isKey = true → s.isUsbDetectedRef = s.isUsbDetected) :
    (s.next event).Consistent (resets + isReset event) := by
  cases event with
  | keyDown e =>
    rw [UsbScanner.next]
    by_cases heard : e.heard = true
    · have later : { s with lastKeyTime := e.now }.Consistent resets :=
        ⟨sound.fast, sound.stored, sound.detected, sound.reported⟩
      rw [handleKeyDown_heard heard]
      cases e.key with
      | enter =>
        obtain ⟨_, stored, detected, reported⟩ := submit_consistent later (sync rfl) e.now
        exact ⟨Nat.zero_le _, stored, detected, reported⟩
      | printable c => exact collect_consistent later c _
      | other => exact later
    · rw [handleKeyDown_unheard heard]
      exact sound
  | rendered => exact ⟨sound.fast, sound.stored, sound.detected, sound.reported⟩
  | resetDetection =>
    have reported := sound.reported
    exact ⟨sound.fast, rfl, fun none => absurd none (Nat.lt_irrefl 0), by simp [UsbScanner.next, isReset]; omega⟩
  | markAsUsbConnected now =>
    have reported := sound.reported
    exact ⟨sound.fast, rfl, fun _ => rfl, by simp [UsbScanner.next, isReset]; omega⟩

theorem run_consistent (sound : s.Consistent resets) (sync : s.InSync events) :
    (s.run events).Consistent (resets + (events.map isReset).sum) := by
  induction events generalizing s resets with
  | nil => exact sound
  | cons event rest ih =>
    rw [List.map_cons, List.sum_cons, ← Nat.add_assoc]
    exact ih (next_consistent sound event sync.1) sync.2

/-- Three fast keys, an Enter after ten minutes, and three slow keys with an Enter. -/
def threeFastThreeSlow : List ScannerEvent :=
  [.keyDown ⟨.printable '1', 1000, false, true⟩, .keyDown ⟨.printable '2', 1010, false, true⟩,
    .keyDown ⟨.printable '3', 1020, false, true⟩, .keyDown ⟨.enter, 601020, false, true⟩, .rendered,
    .keyDown ⟨.printable '4', 602000, false, true⟩, .keyDown ⟨.printable '5', 602200, false, true⟩,
    .keyDown ⟨.printable '6', 602400, false, true⟩, .keyDown ⟨.enter, 602410, false, true⟩]

end Scans

end BeidarPos
