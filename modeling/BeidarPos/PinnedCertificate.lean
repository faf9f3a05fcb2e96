import BeidarPos.LanClient

/-! The certificate a client is paired with, over whole runs. The HTTP client a pairing
leaves behind refuses every other certificate, and a restart rebuilds it from the file; but
the registration at start-up takes the certificate of whoever answers, and a process that
stops before its pairing is saved goes back to an older file. -/
namespace BeidarPos

section Fold

theorem equalFold_iff {a b : String} : equalFold a b = true ↔ a.toLower = b.toLower := by
  simp [equalFold]

theorem equalFold_refl (a : String) : equalFold a a = true := equalFold_iff.mpr rfl

theorem equalFold_trans {a b c : String} (first : equalFold a b = true) (second : equalFold b c = true) :
    equalFold a c = true :=
  equalFold_iff.mpr ((equalFold_iff.mp first).trans (equalFold_iff.mp second))

theorem equalFold_empty {a : String} (same : equalFold "" a = true) : a = "" := by
  have lengths : (a.map Char.toLower).length = ("".map Char.toLower).length :=
    congrArg String.length (equalFold_iff.mp same).symm
  simpa using lengths

end Fold

section Handshake

variable {expected : String} {peer : Peer} {client : HttpClient}

/-- A pinned client goes on with the pinned certificate only. -/
theorem handshake_pinned (pinned : expected ≠ "") (met : (HttpClient.secure expected).handshake peer = .ok client) :
    equalFold peer.fingerprint expected = true ∧ client = .secure expected := by
  simp only [HttpClient.handshake, if_pos pinned] at met
  split at met
  · next same => exact ⟨same, (Except.ok.inj met).symm⟩
  · cases met

theorem handshake_first (peer : Peer) : (HttpClient.secure "").handshake peer = .ok (.secure peer.fingerprint) := by
  simp [HttpClient.handshake]

end Handshake

/-- The certificate behind a pairing, when the ping and the registration are both answered
with it. -/
def PairingAnswers.certificate (met : PairingAnswers) : Option String :=
  match met.ping, met.register with
  | .ok ping, .ok answer =>
    if ping.status = 200 ∧ equalFold answer.peer.fingerprint ping.peer.fingerprint = true then
      some ping.peer.fingerprint
    else none
  | _, _ => none

theorem registered_ok {address secret fingerprint : String} {pin : HttpClient} {answer : PeerAnswer RegisterBody}
    {client : LanClient} (accepted : LanClient.registered address secret fingerprint pin answer = .ok client) :
    client.clientMode = true ∧ client.serverFingerprintClient = fingerprint ∧ client.httpClient = pin := by
  unfold LanClient.registered at accepted
  split at accepted
  · split at accepted <;> cases accepted
  · split at accepted
    · cases accepted
    · split at accepted <;> cases accepted
      exact ⟨rfl, rfl, rfl⟩

/-- What a pairing does: nothing, or it sends the secret to the machine that answered the
ping, and then pins its certificate if the registration succeeds. -/
theorem connectToServer_effect (met : PairingAnswers) (serverIP : String) (port : Int) (secret : String) :
    (∃ cause, LanClient.connectToServer met serverIP port secret = (.error cause, [])) ∨
    ∃ fingerprint peer outcome, met.certificate = some fingerprint ∧ fingerprint ≠ "" ∧
      equalFold peer.fingerprint fingerprint = true ∧
      LanClient.connectToServer met serverIP port secret = (outcome, [⟨secret, peer⟩]) ∧
      ∀ client, outcome = .ok client → client.clientMode = true ∧ client.serverFingerprintClient = fingerprint ∧
        client.httpClient = .secure fingerprint := by
  unfold LanClient.connectToServer
  cases pinged : met.ping with
  | error cause => exact .inl ⟨_, rfl⟩
  | ok ping =>
    simp only [handshake_first]
    split
    · exact .inl ⟨_, rfl⟩
    · next reached =>
      cases answered : met.register with
      | error cause => exact .inl ⟨_, rfl⟩
      | ok answer =>
        simp only
        cases shaken : (HttpClient.secure ping.peer.fingerprint).handshake answer.peer with
        | error cause => exact .inl ⟨_, rfl⟩
        | ok client =>
          obtain ⟨same, rfl⟩ := handshake_pinned ping.peer.presented shaken
          have one : met.certificate = some ping.peer.fingerprint := by
            simp [PairingAnswers.certificate, pinged, answered, not_not.mp reached, same]
          exact .inr ⟨_, _, _, one, ping.peer.presented, same, rfl, fun client => registered_ok⟩

namespace LanDevice

section Runs

variable (parse : String → Option ParsedURL)

/-- The registration at start-up has an address to go to. -/
def dials (d : LanDevice) : Bool :=
  match d.reconnect with
  | .dialling address _ => ((parse address).map ParsedURL.hostname).getD "" ≠ ""
  | _ => false

/-- What keeps an unattended step from leaving the pairing: a process that starts reads the
pairing's certificate from the file, or nothing it can use, and a registration it then makes
is answered by the paired server or by nobody. -/
def Faithful (d : LanDevice) : LanEvent → Prop
  | .restart => d.client.clientMode = true → d.client.serverFingerprintClient ≠ "" →
      ∀ config ∈ d.file, config.usable = true → equalFold config.serverFingerprint d.client.serverFingerprintClient = true
  | .reconnectDials met => d.client.clientMode = true → d.client.serverFingerprintClient ≠ "" → d.dials parse = true →
      ∀ other ∈ met.certificate, equalFold other d.client.serverFingerprintClient = true
  | _ => True

instance (d : LanDevice) : (e : LanEvent) → Decidable (d.Faithful parse e)
  | .restart => inferInstanceAs (Decidable (_ → _ → ∀ config ∈ d.file, _ → _))
  | .reconnectDials met => inferInstanceAs (Decidable (_ → _ → _ → ∀ other ∈ met.certificate, _))
  | .connectToServer _ _ _ _ | .disconnectFromServer | .reconnectReads | .saveReads _ | .saveWrites _ _
  | .remoteReads | .remoteSends _ _ => isTrue trivial

def AllFaithful : List LanEvent → LanDevice → Prop
  | [], _ => True
  | e :: rest, d => d.Faithful parse e ∧ AllFaithful rest (d.step parse e).1

instance AllFaithful.decidable : (events : List LanEvent) → (d : LanDevice) → Decidable (AllFaithful parse events d)
  | [], _ => isTrue trivial
  | e :: rest, d => @instDecidableAnd _ _ inferInstance (AllFaithful.decidable rest (d.step parse e).1)

end Runs

/-- The certificate of a pairing is the one the HTTP client asks for. -/
def Pinned (d : LanDevice) : Prop :=
  d.client.serverFingerprintClient ≠ "" → d.client.httpClient = .secure d.client.serverFingerprintClient

/-- The device is paired, and its HTTP client asks for the certificate. -/
structure Holds (d : LanDevice) (fingerprint : String) : Prop where
  mode : d.client.clientMode = true
  present : d.client.serverFingerprintClient ≠ ""
  same : equalFold d.client.serverFingerprintClient fingerprint = true
  pinned : d.client.httpClient = .secure d.client.serverFingerprintClient

/-- Nothing of a pairing is left, in memory or in the file. -/
structure Bare (d : LanDevice) : Prop where
  mode : d.client.clientMode = false
  address : d.client.serverAddress = ""
  file : ∀ config, d.file = some config → config.usable = false
  saves : d.saves = []
  reconnect : ∀ address secret, d.reconnect ≠ .dialling address secret
  calls : d.calls = []

section Steps

variable {d next : LanDevice} {parse : String → Option ParsedURL} {fingerprint : String} {e : LanEvent}

theorem Holds.of_client (holds : d.Holds fingerprint) (same : next.client = d.client) : next.Holds fingerprint := by
  refine ⟨?_, ?_, ?_, ?_⟩ <;> rw [same]
  · exact holds.mode
  · exact holds.present
  · exact holds.same
  · exact holds.pinned

theorem launch_usable {file : Option LanConfig} {config : LanConfig} (found : file = some config)
    (usable : config.usable = true) :
    (launch file).client = ⟨true, config.serverAddress, config.sessionToken, config.pairingSecret,
      config.serverFingerprint, .secure config.serverFingerprint⟩ := by
  simp [launch, LanClient.loadSavedLanConfig, found, usable]

theorem launch_bare {file : Option LanConfig} (unusable : ∀ config, file = some config → config.usable = false) :
    (launch file).Bare := by
  have client : (launch file).client = LanClient.new := by
    cases file with
    | none => rfl
    | some config => simp [launch, LanClient.loadSavedLanConfig, unusable config rfl]
  exact ⟨by rw [client]; rfl, by rw [client]; rfl, unusable, rfl, fun _ _ => Reconnect.noConfusion, rfl⟩

theorem launch_pinned (file : Option LanConfig) : (launch file).Pinned := by
  intro present
  cases file with
  | none => exact absurd rfl present
  | some config =>
    by_cases usable : config.usable = true
    · rw [launch_usable rfl usable]
    · simp [launch, LanClient.loadSavedLanConfig, usable, LanClient.new] at present

/-- A pairing leaves the device as it was, or with the certificate it met. -/
theorem paired_client (d : LanDevice) (met : PairingAnswers) (serverIP : String) (port : Int) (secret : String) :
    (d.paired (LanClient.connectToServer met serverIP port secret).1).client = d.client ∨
    ∃ other, met.certificate = some other ∧
      (d.paired (LanClient.connectToServer met serverIP port secret).1).Holds other := by
  rcases connectToServer_effect met serverIP port secret with
    ⟨cause, failed⟩ | ⟨other, _, outcome, one, present, _, effect, pinned⟩
  · rw [failed]
    exact .inl rfl
  · rw [effect]
    cases outcome with
    | error cause => exact .inl rfl
    | ok client =>
      obtain ⟨mode, field, http⟩ := pinned client rfl
      refine .inr ⟨other, one, mode, ?_, ?_, ?_⟩
      · exact fun empty => present (field.symm.trans empty)
      · exact (congrArg (equalFold · other) field).trans (equalFold_refl other)
      · exact http.trans (congrArg HttpClient.secure field.symm)

theorem saveReads_client (d : LanDevice) (task : Nat) : (d.saveReads task).client = d.client := by
  unfold saveReads
  split <;> rfl

theorem saveWrites_client (d : LanDevice) (task : Nat) (written : Bool) : (d.saveWrites task written).client = d.client := by
  unfold saveWrites
  split <;> rfl

theorem remoteReads_client (d : LanDevice) : d.remoteReads.client = d.client := by
  unfold remoteReads
  split <;> rfl

/-- A call under way goes to a machine with the pinned certificate, or fails. -/
theorem remoteSends_pinned (pinned : d.client.httpClient = .secure fingerprint) (present : fingerprint ≠ "") (call : Nat)
    (met : Option Peer) : (d.remoteSends call met).1.client = d.client ∧
      ∀ request ∈ (d.remoteSends call met).2, equalFold request.peer.fingerprint fingerprint = true := by
  unfold remoteSends
  cases d.calls[call]? with
  | none => exact ⟨rfl, by simp⟩
  | some token =>
    cases met with
    | none => exact ⟨rfl, by simp⟩
    | some peer =>
      simp only
      cases shaken : d.client.httpClient.handshake peer with
      | error cause => exact ⟨rfl, by simp⟩
      | ok client =>
        obtain ⟨same, rfl⟩ := handshake_pinned present (pinned ▸ shaken)
        exact ⟨by rw [← pinned], by simpa using same⟩

theorem dial_effect (parse : String → Option ParsedURL) (d : LanDevice) (met : PairingAnswers) (address secret : String) :
    d.dial parse met address secret = (d, []) ∨
    ∃ serverIP port, ((parse address).map ParsedURL.hostname).getD "" ≠ "" ∧ d.dial parse met address secret =
      (d.paired (LanClient.connectToServer met serverIP port secret).1,
        (LanClient.connectToServer met serverIP port secret).2) := by
  unfold dial
  cases parsed : parse address with
  | none => exact .inl rfl
  | some u =>
    by_cases host : u.hostname = ""
    · exact .inl (if_pos host)
    · exact .inr ⟨_, _, host, if_neg host⟩

theorem step_pinned (pinned : d.Pinned) (e : LanEvent) : (d.step parse e).1.Pinned := by
  have moved : ∀ {next : LanDevice}, next.client = d.client → next.Pinned := fun {_} same present => by
    rw [same] at present ⊢
    exact pinned present
  have connected : ∀ (met : PairingAnswers) (serverIP : String) (port : Int) (secret : String) {before : LanDevice},
      before.client = d.client → (before.paired (LanClient.connectToServer met serverIP port secret).1).Pinned := by
    intro met serverIP port secret before same
    rcases paired_client before met serverIP port secret with kept | ⟨_, _, holds⟩
    · exact moved (kept.trans same)
    · exact fun _ => holds.pinned
  cases e with
  | connectToServer serverIP port secret met => exact connected met serverIP port secret rfl
  | disconnectFromServer => exact fun present => absurd rfl present
  | restart => exact launch_pinned d.file
  | reconnectReads =>
    simp only [step]
    split <;> exact moved rfl
  | reconnectDials met =>
    simp only [step]
    split
    · next address secret _ =>
      rcases dial_effect parse { d with reconnect := .done } met address secret with
        same | ⟨serverIP, port, _, same⟩
      · rw [same]
        exact moved rfl
      · rw [same]
        exact connected met serverIP port secret rfl
    · exact moved rfl
  | saveReads task => exact moved (saveReads_client d task)
  | saveWrites task written => exact moved (saveWrites_client d task written)
  | remoteReads => exact moved (remoteReads_client d)
  | remoteSends call met =>
    by_cases present : d.client.serverFingerprintClient = ""
    · intro still
      refine absurd ?_ still
      simp only [step, remoteSends]
      split
      · exact present
      · split
        · exact present
        · split <;> exact present
    · exact moved (remoteSends_pinned (pinned present) present call met).1

/-- A step of nobody's: the pairing holds, or nothing is left of it, and what was sent went
to the paired server. -/
theorem step_holds (holds : d.Holds fingerprint) (unattended : e.byOperator = false) (faithful : d.Faithful parse e) :
    ((d.step parse e).1.Holds fingerprint ∨ (d.step parse e).1.Bare) ∧
      ∀ request ∈ (d.step parse e).2, equalFold request.peer.fingerprint fingerprint = true := by
  cases e with
  | connectToServer => cases unattended
  | disconnectFromServer => cases unattended
  | restart =>
    refine ⟨?_, by simp [step]⟩
    by_cases usable : ∃ config, d.file = some config ∧ config.usable = true
    · obtain ⟨config, found, usable⟩ := usable
      have same := faithful holds.mode holds.present config found usable
      have client := launch_usable found usable
      refine .inl ⟨?_, ?_, ?_, ?_⟩ <;> simp only [step, client]
      · intro empty
        exact holds.present (equalFold_empty (empty ▸ same))
      · exact equalFold_trans same holds.same
    · refine .inr (launch_bare fun config found => ?_)
      by_contra usable'
      exact usable ⟨config, found, by simpa using usable'⟩
  | reconnectReads =>
    simp only [step]
    split <;> exact ⟨.inl (holds.of_client rfl), by simp⟩
  | reconnectDials met =>
    simp only [step]
    split
    · next address secret dialling =>
      rcases dial_effect parse { d with reconnect := .done } met address secret with
        same | ⟨serverIP, port, host, same⟩
      · rw [same]
        exact ⟨.inl (holds.of_client rfl), by simp⟩
      · rw [same]
        have dials : d.dials parse = true := by
          rw [LanDevice.dials, dialling]
          exact decide_eq_true host
        have paired : ∀ other, met.certificate = some other → equalFold other fingerprint = true := fun other one =>
          equalFold_trans (faithful holds.mode holds.present dials other one) holds.same
        constructor
        · rcases paired_client { d with reconnect := .done } met serverIP port secret with kept | ⟨other, one, now⟩
          · exact .inl (holds.of_client kept)
          · exact .inl ⟨now.mode, now.present, equalFold_trans now.same (paired other one), now.pinned⟩
        · rcases connectToServer_effect met serverIP port secret with
            ⟨cause, failed⟩ | ⟨other, peer, outcome, one, -, answers, effect, -⟩
          · simp [failed]
          · simpa [effect] using equalFold_trans answers (paired other one)
    · exact ⟨.inl holds, by simp⟩
  | saveReads task => exact ⟨.inl (holds.of_client (saveReads_client d task)), by simp [step]⟩
  | saveWrites task written => exact ⟨.inl (holds.of_client (saveWrites_client d task written)), by simp [step]⟩
  | remoteReads => exact ⟨.inl (holds.of_client (remoteReads_client d)), by simp [step]⟩
  | remoteSends call met =>
    obtain ⟨kept, met⟩ := remoteSends_pinned holds.pinned holds.present call met
    exact ⟨.inl (holds.of_client kept), fun request member => equalFold_trans (met request member) holds.same⟩

theorem step_bare (parse : String → Option ParsedURL) (bare : d.Bare) (unattended : e.byOperator = false) :
    (d.step parse e).1.Bare ∧ (d.step parse e).2 = [] := by
  cases e with
  | connectToServer => cases unattended
  | disconnectFromServer => cases unattended
  | restart => exact ⟨launch_bare bare.file, rfl⟩
  | reconnectReads =>
    have unsaved : d.client.savedServer = none := by simp [LanClient.savedServer, bare.mode]
    simp only [step, unsaved]
    split
    · next absurd => cases absurd
    · exact ⟨⟨bare.mode, bare.address, bare.file, bare.saves, fun _ _ => Reconnect.noConfusion, bare.calls⟩, rfl⟩
    · exact ⟨bare, rfl⟩
  | reconnectDials met =>
    simp only [step]
    split
    · next address secret dialling => exact absurd dialling (bare.reconnect address secret)
    · exact ⟨bare, rfl⟩
  | saveReads task => simpa [step, saveReads, bare.saves] using bare
  | saveWrites task written => simpa [step, saveWrites, bare.saves] using bare
  | remoteReads => simpa [step, remoteReads, bare.address] using bare
  | remoteSends call met => simpa [step, remoteSends, bare.calls] using bare

end Steps

section Runs

variable {d : LanDevice} {parse : String → Option ParsedURL} {fingerprint : String} {events : List LanEvent}

theorem run_pinned (pinned : d.Pinned) (events : List LanEvent) : (d.run parse events).Pinned := by
  induction events generalizing d with
  | nil => exact pinned
  | cons e rest ih => exact ih (step_pinned pinned e)

theorem bare_sent (bare : d.Bare) (unattended : ∀ e ∈ events, e.byOperator = false) : sent parse events d = [] := by
  induction events generalizing d with
  | nil => rfl
  | cons e rest ih =>
    obtain ⟨still, silent⟩ := step_bare parse bare (unattended e List.mem_cons_self)
    simp only [sent, silent, List.nil_append]
    exact ih still fun e member => unattended e (List.mem_cons_of_mem _ member)

theorem holds_sent (holds : d.Holds fingerprint) (unattended : ∀ e ∈ events, e.byOperator = false)
    (faithful : AllFaithful parse events d) :
    ∀ request ∈ sent parse events d, equalFold request.peer.fingerprint fingerprint = true := by
  induction events generalizing d with
  | nil => simp [sent]
  | cons e rest ih =>
    have later : ∀ e ∈ rest, e.byOperator = false := fun e member => unattended e (List.mem_cons_of_mem _ member)
    obtain ⟨after, first⟩ := step_holds holds (unattended e List.mem_cons_self) faithful.1
    intro request member
    rcases List.mem_append.mp member with now | afterwards
    · exact first request now
    · rcases after with held | bare
      · exact ih held later faithful.2 request afterwards
      · rw [bare_sent bare later] at afterwards
        cases afterwards

end Runs

end LanDevice

open LanDevice

/-- Once a device is paired with a certificate, whatever it sends with a secret or a token
goes to a machine with that certificate until its operator pairs it anew, as long as its
restarts read the pairing from the file and the registrations they make are answered by the
paired server. -/
theorem pinned_certificate_kept (parse : String → Option ParsedURL) (file : Option LanConfig)
    (before later : List LanEvent) (fingerprint : String)
    (paired : ((launch file).run parse before).PairedWith fingerprint)
    (unattended : ∀ e ∈ later, e.byOperator = false)
    (faithful : AllFaithful parse later ((launch file).run parse before)) :
    ∀ request ∈ sent parse later ((launch file).run parse before),
      equalFold request.peer.fingerprint fingerprint = true := by
  obtain ⟨mode, rfl, present⟩ := paired
  have pinned : ((launch file).run parse before).Pinned := run_pinned (launch_pinned file) before
  exact holds_sent ⟨mode, present, equalFold_refl _, pinned present⟩ unattended faithful

section Office

def officeServer : Peer := ⟨"AA:01", false, by decide⟩

def officeImpostor : Peer := ⟨"BB:02", false, by decide⟩

def parseOffice (address : String) : Option ParsedURL :=
  if address = "https://10.0.0.1:8765" then some ⟨"10.0.0.1", 8765⟩ else none

def answeredBy (peer : Peer) : PairingAnswers :=
  ⟨.ok ⟨peer, 200, ()⟩, .ok ⟨peer, 200, ⟨"", some "token"⟩⟩⟩

def pairsWith (secret : String) (peer : Peer) : LanEvent := .connectToServer "10.0.0.1" 8765 secret (answeredBy peer)

/-- A save that runs to its end. -/
def saved : List LanEvent := [.saveReads 0, .saveWrites 0 true]

/-- The machine starts anew and registers with whoever answers. -/
def startsWith (peer : Peer) : List LanEvent := [.restart, .reconnectReads, .reconnectDials (answeredBy peer)]

/-- A call of a handler. -/
def callTo (peer : Peer) : List LanEvent := [.remoteReads, .remoteSends 0 (some peer)]

/-- What was sent, and the certificate of who received it. -/
def reaching (events : List LanEvent) (d : LanDevice) : List (String × String) :=
  (sent parseOffice events d).map fun request => (request.credential, request.peer.fingerprint)

end Office

/-- After a restart the office's server gets the secret and the calls. -/
theorem pinned_certificate_kept_office :
    (sent parseOffice (saved ++ startsWith officeServer ++ callTo officeServer)
        ((launch none).run parseOffice [pairsWith "1234" officeServer])).all
      (fun request => equalFold request.peer.fingerprint "AA:01") = true := by
  refine List.all_eq_true.mpr (pinned_certificate_kept parseOffice none [pairsWith "1234" officeServer]
    (saved ++ startsWith officeServer ++ callTo officeServer) "AA:01" ⟨?_, ?_, ?_⟩ (by decide) ?_) <;> decide +kernel

/-- The machine that answers at start-up is sent the secret; and a start before the second
pairing was saved goes back to the first server. -/
theorem pinned_certificate_kept_impostor :
    (((launch none).run parseOffice ([pairsWith "1234" officeServer] ++ saved)).PairedWith "AA:01" ∧
      reaching (startsWith officeImpostor) ((launch none).run parseOffice ([pairsWith "1234" officeServer] ++ saved)) =
        [("1234", "BB:02")]) ∧
    (((launch none).run parseOffice ([pairsWith "1" officeImpostor] ++ saved ++ [pairsWith "2" officeServer])).PairedWith
        "AA:01" ∧
      reaching ([.restart] ++ callTo officeImpostor)
          ((launch none).run parseOffice ([pairsWith "1" officeImpostor] ++ saved ++ [pairsWith "2" officeServer])) =
        [("token", "BB:02")]) := by
  refine ⟨⟨⟨?_, ?_, ?_⟩, ?_⟩, ⟨?_, ?_, ?_⟩, ?_⟩ <;> decide +kernel

end BeidarPos
