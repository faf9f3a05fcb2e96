import BeidarPos.Models

/-! The server that other devices on the network use. A device presents the server's
secret once and gets a session token; every request behind `authMiddleware` carries the
token. The session table is a map keyed by the device, visited in an open order. -/
namespace BeidarPos

open Relational

inductive ClientStatus where
  | active | suspended
  deriving DecidableEq

structure ConnectedClient where
  deviceID : String
  deviceName : String
  ipAddress : String
  connectedAt : Int
  lastActivity : Int
  status : ClientStatus
  sessionToken : String
  role : Role
  deriving DecidableEq

structure BlockedDevice where
  id : Nat
  deviceID : String
  deviceName : String
  blockedAt : Int
  reason : String
  deriving DecidableEq

/-- `stored` is what the secret store answers, empty when it has nothing to read. -/
structure LanService where
  running : Bool
  secret : String
  stored : String
  connectedClients : Table ConnectedClient.deviceID
  blockedDevices : Serial BlockedDevice.id
  deriving DecidableEq

def NewLanService (stored : String) (blocked : Serial BlockedDevice.id) : LanService :=
  ⟨false, "", stored, .empty, blocked⟩

section Random

/-- Bytes drawn at random. -/
structure RandomBytes (size : Nat) where
  bytes : List UInt8
  length_eq : bytes.length = size

def hexDigit (n : Nat) : Char := if n < 10 then Char.ofNat (48 + n) else Char.ofNat (87 + n)

/-- `hex.EncodeToString`: two digits a byte. -/
def RandomBytes.hex (r : RandomBytes size) : String :=
  String.ofList (r.bytes.flatMap fun b => [hexDigit (b.toNat / 16), hexDigit (b.toNat % 16)])

theorem RandomBytes.hex_nonempty {r : RandomBytes size} (some : 0 < size) : r.hex ≠ "" := by
  obtain ⟨bytes, length⟩ := r
  cases bytes with
  | nil =>
    rw [← length] at some
    exact absurd some (lt_irrefl 0)
  | cons b bytes =>
    intro empty
    have chars := congrArg String.toList empty
    simp [RandomBytes.hex] at chars

end Random

section Addresses

/-- The host of `net.SplitHostPort`: what stands before the last colon, in brackets when
it has colons of its own; `none` where the address has no such form. -/
def splitHostPort (hostport : List Char) : Option (List Char) :=
  let front := (hostport.reverse.dropWhile (· ≠ ':')).drop 1 |>.reverse
  if ':' ∉ hostport then none
  else if hostport.head? = some '[' then
    let host := (hostport.drop 1).takeWhile (· ≠ ']')
    if front = '[' :: host ++ [']'] ∧ '[' ∉ hostport.drop 1 ∧ ']' ∉ hostport.drop (host.length + 2) then some host
    else none
  else if ':' ∈ front ∨ '[' ∈ hostport ∨ ']' ∈ hostport then none
  else some front

/-- The host part of a peer's address, or all of it where it does not split. -/
def hostOf (remoteAddr : String) : String :=
  match splitHostPort remoteAddr.toList with
  | some host => String.ofList host
  | none => remoteAddr

def isLoopback (ip : String) : Prop := ip = "127.0.0.1" ∨ ip = "::1" ∨ ip = "localhost"

instance (ip : String) : Decidable (isLoopback ip) := inferInstanceAs (Decidable (_ ∨ _))

end Addresses

/-- The body a device connects with. -/
structure ConnectBody where
  deviceID : String
  deviceName : String
  secret : String

/-- A request as a handler sees it. `RemoteAddr` is set by the HTTP server from the
peer's socket, so its host part is there; `body` is a connect body when it decodes as one. -/
structure Request where
  method : String
  path : String
  remoteAddr : String
  authorization : String
  xSessionToken : String
  body : Option ConnectBody
  addressed : hostOf remoteAddr ≠ ""

def Request.ip (r : Request) : String := hostOf r.remoteAddr

def readOnlyCashierPaths : List String :=
  ["/api/products", "/api/products/detail", "/api/products/search", "/api/sales", "/api/customers",
    "/api/suppliers", "/api/categories", "/api/preferences"]

def lanRoleAllows (role : Role) (method path : String) : Bool :=
  match role with
  | .admin => true
  | .cashier =>
    if method = "GET" then readOnlyCashierPaths.contains path
    else method = "POST" && (path = "/api/sales/process" || path = "/api/customers")
  | .manager =>
    if method = "DELETE" then path = "/api/sales" || path = "/api/products"
    else if method = "POST" then
      ["/api/products", "/api/sales/process", "/api/sales/return", "/api/sales/return-partial", "/api/customers",
        "/api/suppliers", "/api/categories", "/api/expenses", "/api/stock/movements"].contains path
    else method = "GET" && path != "/api/database/export"
  | _ => false

/-- How a handler is mounted: openly, as the connect handler, behind `authMiddleware`
(and perhaps `notifyDataChange`), or behind the server's secret. -/
inductive Mount where
  | «open» (handler : String)
  | connect
  | session (handler : String) (notifies : Bool)
  | secret (handler : String)
  deriving DecidableEq

def setupRoutes : List (String × Mount) := [
  ("/api/ping", .open "ping"),
  ("/api/connect", .connect),
  ("/api/admin/clients", .session "handleAdminClients" false),
  ("/api/admin/blocked", .session "handleAdminBlocked" false),
  ("/api/products", .session "handleProducts" true),
  ("/api/products/detail", .session "handleProductDetail" false),
  ("/api/products/search", .session "handleProductSearch" false),
  ("/api/sales", .session "handleSales" true),
  ("/api/sales/process", .session "handleProcessSale" true),
  ("/api/sales/return", .session "handleSalesReturn" true),
  ("/api/sales/return-partial", .session "handleSalesReturnPartial" true),
  ("/api/customers", .session "handleCustomers" true),
  ("/api/suppliers", .session "handleSuppliers" true),
  ("/api/categories", .session "handleCategories" true),
  ("/api/expenses", .session "handleExpenses" true),
  ("/api/stats/dashboard", .session "handleDashboardStats" false),
  ("/api/stats/comparison", .session "handleMonthlyComparisonStats" false),
  ("/api/preferences", .session "handlePreferences" true),
  ("/api/stock/movements", .session "handleStockMovements" false),
  ("/api/database/export", .session "handleDatabaseExport" false),
  ("/api/remote-scan", .secret "handleRemoteScan")]

/-- Twelve hours. -/
def inactivityTimeout : Int := 12 * 3600

/-- The session of a token, looked for in the order the map is visited. -/
def sessionOf (visited : List ConnectedClient) (token : String) : Option ConnectedClient :=
  visited.find? (fun client => client.sessionToken = token)

def validateSessionToken (visited : List ConnectedClient) (now : Int) (token requestIP : String) :
    Except String ConnectedClient :=
  match sessionOf visited token with
  | none => .error "جلسة غير صالحة"
  | some client =>
    if requestIP ≠ "" ∧ client.ipAddress ≠ requestIP ∧ ¬ (isLoopback client.ipAddress ∧ isLoopback requestIP) then
      .error "جلسة غير صالحة: تم رفض الوصول من عنوان IP مختلف"
    else if client.status = .suspended then .error "جلستك معلّقة من قبل المدير"
    else if inactivityTimeout < now - client.lastActivity then
      .error "انتهت صلاحية الجلسة بسبب الخمول، يرجى تسجيل الدخول مجدداً"
    else .ok client

/-- The header the token came in, a bearer prefix taken off. -/
def requestToken (r : Request) : String :=
  let token := if r.authorization = "" then r.xSessionToken else r.authorization
  if 7 < token.toList.length ∧ token.toList.take 7 = "Bearer ".toList then String.ofList (token.toList.drop 7) else token

inductive Outcome where
  | preflight
  | unauthorized (message : String)
  | forbidden (message : String)
  | runs (client : ConnectedClient)

/-- What the middleware does with a request: it runs the body for a client or refuses. -/
def authMiddleware (visited : List ConnectedClient) (now : Int) (r : Request) : Outcome :=
  if r.method = "OPTIONS" then .preflight
  else if r.authorization = "" ∧ r.xSessionToken = "" then .unauthorized "يجب تسجيل الدخول أولاً"
  else
    match validateSessionToken visited now (requestToken r) r.ip with
    | .error message => .unauthorized message
    | .ok client =>
      if lanRoleAllows client.role r.method r.path = true then .runs client else .forbidden "غير مصرح لك بهذه العملية"

/-- The body that runs behind the middleware for a request, if one does. -/
def serveBody (visited : List ConnectedClient) (now : Int) (r : Request) : Option (String × ConnectedClient) :=
  match setupRoutes.lookup r.path with
  | some (.session handler _) =>
    match authMiddleware visited now r with
    | .runs client => some (handler, client)
    | _ => none
  | _ => none

def ConnectedClient.touch (now : Int) (client : ConnectedClient) : ConnectedClient :=
  { client with lastActivity := if 10 < now - client.lastActivity then now else client.lastActivity }

def ConnectedClient.withStatus (status : ClientStatus) (client : ConnectedClient) : ConnectedClient :=
  { client with status := status }

namespace LanService

variable (s : LanService)

def clients : List ConnectedClient := s.connectedClients.rows

/-- Past validation the middleware notes the activity, before it asks for the role. -/
def updateClientActivity (visited : List ConnectedClient) (now : Int) (token : String) : LanService :=
  match sessionOf visited token with
  | none => s
  | some client =>
    { s with connectedClients := s.connectedClients.modify client.deviceID (ConnectedClient.touch now) (fun _ => rfl) }

def isDeviceBlocked (deviceID : String) : Prop := ∃ device ∈ s.blockedDevices.rows, device.deviceID = deviceID

instance (deviceID : String) : Decidable (s.isDeviceBlocked deviceID) :=
  inferInstanceAs (Decidable (∃ device ∈ s.blockedDevices.rows, _))

def maxClients : Nat := 30

def newClient (now : Int) (token deviceID deviceName ipAddress : String) : ConnectedClient :=
  ⟨deviceID, deviceName, ipAddress, now, now, .active, token, .cashier⟩

def registerClient (now : Int) (token deviceID deviceName ipAddress : String) : Except String LanService :=
  if deviceID = "" ∨ deviceName = "" then .error "معرف واسم الجهاز مطلوبان"
  else if s.isDeviceBlocked deviceID ∨ (ipAddress ≠ "" ∧ s.isDeviceBlocked ipAddress) then
    .error "هذا الجهاز محظور من الاتصال"
  else if ∃ existing ∈ s.connectedClients.find? deviceID, existing.status = .suspended then
    .error "هذا الجهاز معلّق من قبل المدير"
  else if maxClients ≤ s.clients.length ∧ s.connectedClients.find? deviceID = none then
    .error "تم الوصول للحد الأقصى لعدد الأجهزة المتصلة (30 جهازاً)"
  else .ok { s with connectedClients := s.connectedClients.set (newClient now token deviceID deviceName ipAddress) }

def validateServerSecret (secret : String) : Prop := s.secret ≠ "" ∧ secret ≠ "" ∧ secret = s.secret

instance (secret : String) : Decidable (s.validateServerSecret secret) := inferInstanceAs (Decidable (_ ∧ _))

/-- The part of `handleConnect` before the registration: the body that is let through. -/
def admitConnect (r : Request) : Except String ConnectBody :=
  if r.method ≠ "POST" then .error "Method not allowed"
  else
    match r.body with
    | none => .error "Invalid request"
    | some body =>
      if s.secret ≠ "" ∧ ¬ s.validateServerSecret body.secret then .error "سر الخادم غير صحيح" else .ok body

/-- `kept` says whether the store could be written; the secret is new in any case. -/
def generateServerSecret (random : Option (RandomBytes 16)) (kept : Bool) : LanService :=
  match random with
  | none => s
  | some r => { s with secret := r.hex, stored := if kept then r.hex else s.stored }

/-- The secret in memory, else the stored one, else a new one. -/
def ensureServerSecret (random : Option (RandomBytes 16)) (kept : Bool) : LanService :=
  if s.secret ≠ "" then s
  else if s.stored ≠ "" then { s with secret := s.stored }
  else s.generateServerSecret random kept

/-- `listening` and `certified` say whether a port was free and the certificate there. -/
def startServer (listening certified kept : Bool) (random : Option (RandomBytes 16)) : LanService :=
  if s.running = true ∨ listening = false then s
  else
    let ready := s.ensureServerSecret random kept
    if ready.secret = "" ∨ certified = false then ready else { ready with running := true }

def clearAllClients : LanService := { s with connectedClients := .empty }

def stopServer : LanService := if s.running = true then { s.clearAllClients with running := false } else s

def disconnectClient (deviceID : String) : LanService :=
  { s with connectedClients := s.connectedClients.filter (fun client => client.deviceID ≠ deviceID) }

def setStatus (status : ClientStatus) (deviceID : String) : LanService :=
  { s with connectedClients :=
      s.connectedClients.modify deviceID (ConnectedClient.withStatus status) (fun _ => rfl) }

def suspendClient (deviceID : String) : LanService := s.setStatus .suspended deviceID

def resumeClient (deviceID : String) : LanService := s.setStatus .active deviceID

/-- The device is disconnected first; blocking it twice fails after that. -/
def blockDevice (now : Int) (deviceID deviceName reason : String) : LanService :=
  let left := s.disconnectClient deviceID
  if left.isDeviceBlocked deviceID then left
  else { left with
    blockedDevices := left.blockedDevices.append (fun n => ⟨n, deviceID, deviceName, now, reason⟩) (fun _ => rfl) }

def unblockDevice (id : Nat) : LanService :=
  { s with blockedDevices := s.blockedDevices.filter (fun device => device.id ≠ id) }

def cleanupInactiveClients (now maxInactiveSeconds : Int) : LanService :=
  { s with connectedClients :=
      s.connectedClients.filter (fun client => now - client.lastActivity ≤ maxInactiveSeconds) }

end LanService

end BeidarPos
