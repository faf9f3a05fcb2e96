import BeidarPos.Models
import Mathlib.Data.List.Basic

/-! A machine that is a client of another one: how it pairs with a server, what it keeps of
the pairing in memory and in a file, and what it sends afterwards. The certificate of the
server is pinned in the HTTP client a pairing builds. The file is written in the background,
and a process that starts pairs again with the saved server in the background; other calls
may come between the steps of either. Any machine may answer at any address. -/
namespace BeidarPos

/-- Who answers a handshake: the fingerprint of its certificate, and whether the system
trusts the certificate. -/
structure Peer where
  fingerprint : String
  trusted : Bool
  presented : fingerprint ≠ ""

/-- `strings.EqualFold`; what it compares here is hexadecimal. -/
def equalFold (a b : String) : Bool := a.toLower = b.toLower

/-- The client of a new service, or one of `createSecureHTTPClient` with what its pointer
points to. -/
inductive HttpClient where
  | system
  | secure (expectedFingerprint : String)

/-- The handshake with a peer: an empty expectation takes the fingerprint it meets. -/
def HttpClient.handshake : HttpClient → Peer → Except Text HttpClient
  | .system, peer => if peer.trusted then .ok .system else .error (.plain "x509: certificate signed by unknown authority")
  | .secure expected, peer =>
    if expected ≠ "" then
      if equalFold peer.fingerprint expected then .ok (.secure expected)
      else .error (.format "بصمة شهادة الخادم غير مطابقة! (المتوقع: %s, المستلم: %s)"
        [.text expected, .text peer.fingerprint])
    else .ok (.secure peer.fingerprint)

structure LanConfig where
  serverAddress : String
  sessionToken : String
  serverFingerprint : String
  pairingSecret : String

def LanConfig.usable (config : LanConfig) : Bool := config.serverAddress ≠ "" && config.sessionToken ≠ ""

/-- The client's fields of `lanService`. -/
structure LanClient where
  clientMode : Bool
  serverAddress : String
  sessionToken : String
  savedSecret : String
  serverFingerprintClient : String
  httpClient : HttpClient

/-- A request that carried a pairing secret or a session token, and who received it. -/
structure Sent where
  credential : String
  peer : Peer

/-- What a request meets: who answers, or why nobody does. -/
structure PeerAnswer (β : Type) where
  peer : Peer
  status : Nat
  body : β

/-- The body of a registration's answer: its `error`, and the token unless the body is
malformed. -/
structure RegisterBody where
  error : String
  token : Option String

structure PairingAnswers where
  ping : Except String (PeerAnswer Unit)
  register : Except String (PeerAnswer RegisterBody)

/-- The host and the port in an address; the port is 0 where none can be read. -/
structure ParsedURL where
  hostname : String
  port : Int

def DefaultLanPort : Int := 8765

namespace LanClient

def new : LanClient := ⟨false, "", "", "", "", .system⟩

/-- `loadSavedLanConfig`, with what the file decodes to. -/
def loadSavedLanConfig (file : Option LanConfig) (c : LanClient) : LanClient :=
  match file with
  | none => c
  | some config =>
    if config.usable then
      ⟨true, config.serverAddress, config.sessionToken, config.pairingSecret, config.serverFingerprint,
        .secure config.serverFingerprint⟩
    else c

/-- The end of `ConnectToServer`: what the answer to the registration makes of the client. -/
def registered (address secret fingerprint : String) (client : HttpClient) (answer : PeerAnswer RegisterBody) :
    Except Text LanClient :=
  if answer.status ≠ 200 then
    if answer.body.error ≠ "" then .error (.plain answer.body.error)
    else .error (.format "فشل التسجيل (كود: %d)" [.number answer.status])
  else
    match answer.body.token with
    | none => .error (.plain "استجابة غير صالحة")
    | some token =>
      if token = "" then .error (.plain "لم يتم الحصول على توكن الجلسة")
      else .ok ⟨true, address, token, secret, fingerprint, client⟩

/-- `ConnectToServer`: the certificate is taken from the answer to the ping, and nothing of
the client as it was is looked at. -/
def connectToServer (met : PairingAnswers) (serverIP : String) (port : Int) (secret : String) :
    Except Text LanClient × List Sent :=
  let address := "https://" ++ serverIP ++ ":" ++ toString (if port = 0 then DefaultLanPort else port)
  match met.ping with
  | .error cause => (.error (.format "فشل الاتصال الآمن (HTTPS) بالخادم: %w" [.text cause]), [])
  | .ok ping =>
    match (HttpClient.secure "").handshake ping.peer with
    | .error cause => (.error cause, [])
    | .ok client =>
      if ping.status ≠ 200 then (.error (.format "الخادم غير متاح (كود: %d)" [.number ping.status]), [])
      else
        match met.register with
        | .error cause => (.error (.format "فشل التسجيل: %w" [.text cause]), [])
        | .ok answer =>
          match client.handshake answer.peer with
          | .error cause => (.error cause, [])
          | .ok client => (registered address secret ping.peer.fingerprint client answer, [⟨secret, answer.peer⟩])

/-- The HTTP client stays as it is. -/
def disconnectFromServer (c : LanClient) : LanClient := ⟨false, "", "", "", "", c.httpClient⟩

/-- What `saveLanConfig` reads. -/
def config (c : LanClient) : LanConfig := ⟨c.serverAddress, c.sessionToken, c.serverFingerprintClient, c.savedSecret⟩

/-- What `reconnectSavedServer` reads: the address and the secret it will use. -/
def savedServer (c : LanClient) : Option (String × String) :=
  if c.clientMode = false ∨ c.serverAddress = "" ∨ c.savedSecret = "" then none
  else some (c.serverAddress, c.savedSecret)

end LanClient

/-- A background save: not begun, or with the configuration it read. -/
inductive SaveTask where
  | begins
  | writing (config : LanConfig)

/-- The registration a process makes when it starts. -/
inductive Reconnect where
  | begins
  | dialling (address secret : String)
  | done

/-- A client machine: its memory, its file, and what is under way. A call under way has read
its token. -/
structure LanDevice where
  client : LanClient
  file : Option LanConfig
  saves : List SaveTask
  reconnect : Reconnect
  calls : List String

/-- `ConnectToServer` and `DisconnectFromServer` are the operator's; `restart` is a new
process. A save may fail to write. -/
inductive LanEvent where
  | connectToServer (serverIP : String) (port : Int) (secret : String) (met : PairingAnswers)
  | disconnectFromServer
  | restart
  | reconnectReads
  | reconnectDials (met : PairingAnswers)
  | saveReads (task : Nat)
  | saveWrites (task : Nat) (written : Bool)
  | remoteReads
  | remoteSends (call : Nat) (met : Option Peer)

def LanEvent.byOperator : LanEvent → Bool
  | .connectToServer _ _ _ _ | .disconnectFromServer => true
  | _ => false

namespace LanDevice

/-- `Startup` of a new process, with the file it finds. -/
def launch (file : Option LanConfig) : LanDevice :=
  ⟨LanClient.new.loadSavedLanConfig file, file, [], .begins, []⟩

variable (d : LanDevice)

/-- A pairing that succeeds starts a save. -/
def paired (outcome : Except Text LanClient) : LanDevice :=
  match outcome with
  | .error _ => d
  | .ok client => { d with client := client, saves := d.saves ++ [.begins] }

/-- The registration that `reconnectSavedServer` makes at the address it read; `parse` is
`url.Parse`. -/
def dial (parse : String → Option ParsedURL) (met : PairingAnswers) (address secret : String) : LanDevice × List Sent :=
  match parse address with
  | none => (d, [])
  | some u =>
    if u.hostname = "" then (d, [])
    else
      let out := LanClient.connectToServer met u.hostname u.port secret
      (d.paired out.1, out.2)

/-- `RemoteGet`, `RemotePost`, `RemoteDelete` and `TestConnection` all read the address and
the token first. -/
def remoteReads : LanDevice :=
  if d.client.serverAddress = "" ∨ d.client.sessionToken = "" then d
  else { d with calls := d.calls ++ [d.client.sessionToken] }

def remoteSends (call : Nat) (met : Option Peer) : LanDevice × List Sent :=
  match d.calls[call]? with
  | none => (d, [])
  | some token =>
    let answered := { d with calls := d.calls.eraseIdx call }
    match met with
    | none => (answered, [])
    | some peer =>
      match d.client.httpClient.handshake peer with
      | .error _ => (answered, [])
      | .ok client => ({ answered with client := { d.client with httpClient := client } }, [⟨token, peer⟩])

def saveReads (task : Nat) : LanDevice :=
  match d.saves[task]? with
  | some .begins => { d with saves := d.saves.set task (.writing d.client.config) }
  | _ => d

/-- A configuration without an address removes the file. -/
def saveWrites (task : Nat) (written : Bool) : LanDevice :=
  match d.saves[task]? with
  | some (.writing config) => { d with
      saves := d.saves.eraseIdx task
      file := if written then (if config.serverAddress = "" then none else some config) else d.file }
  | _ => d

/-- One step, with the requests it sends that carry a secret or a token. -/
def step (parse : String → Option ParsedURL) : LanEvent → LanDevice × List Sent
  | .connectToServer serverIP port secret met =>
    let out := LanClient.connectToServer met serverIP port secret
    (d.paired out.1, out.2)
  | .disconnectFromServer =>
    ({ d with client := d.client.disconnectFromServer, saves := d.saves ++ [.begins] }, [])
  | .restart => (launch d.file, [])
  | .reconnectReads =>
    match d.reconnect, d.client.savedServer with
    | .begins, some (address, secret) => ({ d with reconnect := .dialling address secret }, [])
    | .begins, none => ({ d with reconnect := .done }, [])
    | _, _ => (d, [])
  | .reconnectDials met =>
    match d.reconnect with
    | .dialling address secret => { d with reconnect := .done }.dial parse met address secret
    | _ => (d, [])
  | .saveReads task => (d.saveReads task, [])
  | .saveWrites task written => (d.saveWrites task written, [])
  | .remoteReads => (d.remoteReads, [])
  | .remoteSends call met => d.remoteSends call met

def run (parse : String → Option ParsedURL) (events : List LanEvent) : LanDevice :=
  events.foldl (fun d e => (d.step parse e).1) d

/-- The requests of a run that carry a secret or a token. -/
def sent (parse : String → Option ParsedURL) : List LanEvent → LanDevice → List Sent
  | [], _ => []
  | e :: rest, d => (d.step parse e).2 ++ sent parse rest (d.step parse e).1

/-- The device is paired with the server of a certificate. -/
def PairedWith (fingerprint : String) : Prop :=
  d.client.clientMode = true ∧ d.client.serverFingerprintClient = fingerprint ∧ fingerprint ≠ ""

end LanDevice

end BeidarPos
