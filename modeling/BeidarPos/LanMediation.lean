import BeidarPos.LanServer

/-! Runs of the server: devices connect and send requests while the operator starts and
stops it, suspends, resumes, blocks and disconnects devices and draws new secrets, in any
order. A connect is let through and registered in two steps, with anything in between. -/
namespace BeidarPos

open Relational

/-- A connect that was let through: what it presented, and the secret at that time. -/
structure Admission where
  body : ConnectBody
  ip : String
  current : String

/-- A registration: the session's token with the admission it comes from. -/
structure Registration where
  token : String
  admission : Admission

/-- The server with its clock, whether it has ever served, the connects let through so
far, the registrations made and the tokens whose session a reconnect replaced. -/
structure LanWorld where
  service : LanService
  clock : Int
  accepting : Bool
  admissions : List Admission
  registrations : List Registration
  replaced : List String

namespace LanWorld

variable (w : LanWorld)

def issued : List String := w.registrations.map Registration.token

def withService (service : LanService) : LanWorld := { w with service := service }

/-- The token a registration of the device replaces. -/
def replacedBy (deviceID : String) : List String :=
  ((w.service.connectedClients.find? deviceID).map ConnectedClient.sessionToken).toList

end LanWorld

/-- One step. Tokens drawn are fresh; `relaunch` is a new process, which has only what
the secret store and the block list kept. -/
inductive LanStep : LanWorld → LanWorld → Prop
  | startServer (w : LanWorld) (listening certified kept : Bool) (random : Option (RandomBytes 16)) :
    LanStep w { w with
      service := w.service.startServer listening certified kept random
      accepting := w.accepting || (w.service.startServer listening certified kept random).running }
  | stopServer (w : LanWorld) : LanStep w (w.withService w.service.stopServer)
  | relaunch (w : LanWorld) : LanStep w { w with
      service := NewLanService w.service.stored w.service.blockedDevices, accepting := false, admissions := [] }
  | generateServerSecret (w : LanWorld) (random : Option (RandomBytes 16)) (kept : Bool) :
    LanStep w (w.withService (w.service.generateServerSecret random kept))
  | storeChanged (w : LanWorld) (stored : String) : LanStep w (w.withService { w.service with stored := stored })
  | connect (w : LanWorld) (r : Request) (body : ConnectBody) (accepting : w.accepting = true)
    (admitted : w.service.admitConnect r = .ok body) :
    LanStep w { w with admissions := ⟨body, r.ip, w.service.secret⟩ :: w.admissions }
  | register (w : LanWorld) (a : Admission) (token : RandomBytes 32) (service : LanService)
    (inFlight : a ∈ w.admissions) (fresh : token.hex ∉ w.issued)
    (registered : w.service.registerClient w.clock token.hex a.body.deviceID a.body.deviceName a.ip = .ok service) :
    LanStep w { w with
      service := service
      registrations := ⟨token.hex, a⟩ :: w.registrations
      replaced := w.replacedBy a.body.deviceID ++ w.replaced }
  | request (w : LanWorld) (visited : List ConnectedClient) (r : Request) (client : ConnectedClient)
    (accepting : w.accepting = true) (order : visited.Perm w.service.clients)
    (valid : validateSessionToken visited w.clock (requestToken r) r.ip = .ok client) :
    LanStep w (w.withService (w.service.updateClientActivity visited w.clock (requestToken r)))
  | heartbeat (w : LanWorld) (visited : List ConnectedClient) (token : String)
    (order : visited.Perm w.service.clients) :
    LanStep w (w.withService (w.service.updateClientActivity visited w.clock token))
  | disconnect (w : LanWorld) (deviceID : String) : LanStep w (w.withService (w.service.disconnectClient deviceID))
  | suspend (w : LanWorld) (deviceID : String) : LanStep w (w.withService (w.service.suspendClient deviceID))
  | resume (w : LanWorld) (deviceID : String) : LanStep w (w.withService (w.service.resumeClient deviceID))
  | block (w : LanWorld) (deviceID deviceName reason : String) :
    LanStep w (w.withService (w.service.blockDevice w.clock deviceID deviceName reason))
  | unblock (w : LanWorld) (id : Nat) : LanStep w (w.withService (w.service.unblockDevice id))
  | cleanup (w : LanWorld) (maxInactiveSeconds : Int) :
    LanStep w (w.withService (w.service.cleanupInactiveClients w.clock maxInactiveSeconds))
  | tick (w : LanWorld) (now : Int) : LanStep w { w with clock := now }

/-- The worlds reached from a new process. -/
inductive LanRun : LanWorld → Prop
  | start (stored : String) (blocked : Serial BlockedDevice.id) (clock : Int) :
    LanRun ⟨NewLanService stored blocked, clock, false, [], [], []⟩
  | step {w next : LanWorld} : LanRun w → LanStep w next → LanRun next

/-- The connect presented the secret that was current. -/
def Admission.presented (a : Admission) : Prop := a.current ≠ "" ∧ a.body.secret = a.current

/-- A session comes from a registration of its device, address and token. -/
def Registered (registrations : List Registration) (client : ConnectedClient) : Prop :=
  ∃ reg ∈ registrations, reg.token = client.sessionToken ∧ reg.admission.body.deviceID = client.deviceID ∧
    reg.admission.ip = client.ipAddress

structure Mediated (w : LanWorld) : Prop where
  live : w.service.running = true → w.accepting = true
  secret : w.accepting = true → w.service.secret ≠ ""
  admitted : ∀ a ∈ w.admissions, a.presented
  presented : ∀ reg ∈ w.registrations, reg.admission.presented
  registered : ∀ client ∈ w.service.clients, Registered w.registrations client
  role : ∀ client ∈ w.service.clients, client.role = .cashier
  unique : ∀ a ∈ w.service.clients, ∀ b ∈ w.service.clients, a.sessionToken = b.sessionToken → a = b
  bounded : w.service.clients.length ≤ LanService.maxClients
  dead : ∀ token ∈ w.replaced, token ∈ w.issued ∧ ∀ client ∈ w.service.clients, client.sessionToken ≠ token

variable {w next : LanWorld}

/-- A step that keeps the secret and the histories, and whose sessions are sessions from
before with another activity or status. -/
theorem Mediated.fewer {service : LanService} (m : Mediated w)
    (live : service.running = true → w.service.running = true) (secret : w.service.secret ≠ "" → service.secret ≠ "")
    (bounded : service.clients.length ≤ w.service.clients.length)
    (kept : ∀ client ∈ service.clients, ∃ old ∈ w.service.clients, client.deviceID = old.deviceID ∧
      client.sessionToken = old.sessionToken ∧ client.ipAddress = old.ipAddress ∧ client.role = old.role) :
    Mediated (w.withService service) where
  live := fun running => m.live (live running)
  secret := fun accepting => secret (m.secret accepting)
  admitted := m.admitted
  presented := m.presented
  registered := by
    intro client member
    obtain ⟨old, before, device, token, ip, _⟩ := kept client member
    obtain ⟨reg, inside, tokens, devices, ips⟩ := m.registered old before
    exact ⟨reg, inside, tokens.trans token.symm, devices.trans device.symm, ips.trans ip.symm⟩
  role := by
    intro client member
    obtain ⟨old, before, _, _, _, role⟩ := kept client member
    exact role.trans (m.role old before)
  unique := by
    intro a ha b hb same
    obtain ⟨olda, beforea, devicea, tokena, _⟩ := kept a ha
    obtain ⟨oldb, beforeb, deviceb, tokenb, _⟩ := kept b hb
    have identical := m.unique olda beforea oldb beforeb (tokena.symm.trans (same.trans tokenb))
    have device : a.deviceID = b.deviceID := by rw [devicea, deviceb, identical]
    exact Table.unique_row (t := service.connectedClients) ha hb device
  bounded := bounded.trans m.bounded
  dead := by
    intro token gone
    obtain ⟨known, absent⟩ := m.dead token gone
    refine ⟨known, ?_⟩
    intro client member
    obtain ⟨old, before, _, same, _⟩ := kept client member
    rw [same]
    exact absent old before

/-- The same for a step that leaves the session table alone. -/
theorem Mediated.untouched {service : LanService} (m : Mediated w)
    (live : service.running = true → w.service.running = true) (secret : w.service.secret ≠ "" → service.secret ≠ "")
    (same : service.connectedClients = w.service.connectedClients) : Mediated (w.withService service) := by
  have clients : service.clients = w.service.clients := congrArg Table.rows same
  exact m.fewer live secret (by rw [clients]) fun client member => ⟨client, clients ▸ member, rfl, rfl, rfl, rfl⟩

/-- Sessions dropped from the table. -/
theorem Mediated.filtered {p : ConnectedClient → Prop} [DecidablePred p] (m : Mediated w) :
    Mediated (w.withService { w.service with connectedClients := w.service.connectedClients.filter p }) := by
  refine m.fewer id id (List.length_filter_le _ _) ?_
  intro client member
  exact ⟨client, (Table.filter_mem.mp member).1, rfl, rfl, rfl, rfl⟩

/-- One session changed in its activity or status. -/
theorem Mediated.modified {deviceID : String} {f : ConnectedClient → ConnectedClient}
    {keeps : ∀ c, (f c).deviceID = c.deviceID} (m : Mediated w)
    (same : ∀ c, (f c).sessionToken = c.sessionToken ∧ (f c).ipAddress = c.ipAddress ∧ (f c).role = c.role) :
    Mediated (w.withService { w.service with
      connectedClients := w.service.connectedClients.modify deviceID f keeps }) := by
  refine m.fewer id id (by simp [LanService.clients, Table.modify]) ?_
  intro client member
  rcases @Table.modify_mem _ _ _ _ _ f keeps deviceID client member with ⟨old, before, rfl, _⟩ | ⟨before, _⟩
  · obtain ⟨token, ip, role⟩ := same old
    exact ⟨old, before, keeps old, token, ip, role⟩
  · exact ⟨client, before, rfl, rfl, rfl, rfl⟩

theorem Mediated.touched {visited : List ConnectedClient} {now : Int} {token : String} (m : Mediated w) :
    Mediated (w.withService (w.service.updateClientActivity visited now token)) := by
  unfold LanService.updateClientActivity
  split
  · exact m
  · exact m.modified fun c => ⟨rfl, rfl, rfl⟩

/-- No call takes the secret away. -/
theorem ensureServerSecret_keeps (s : LanService) (random : Option (RandomBytes 16)) (kept : Bool)
    (secret : s.secret ≠ "") : s.ensureServerSecret random kept = s := by
  rw [LanService.ensureServerSecret, if_pos secret]

theorem generateServerSecret_keeps (s : LanService) (random : Option (RandomBytes 16)) (kept : Bool)
    (secret : s.secret ≠ "") : (s.generateServerSecret random kept).secret ≠ "" := by
  unfold LanService.generateServerSecret
  cases random with
  | none => exact secret
  | some r => exact r.hex_nonempty (by decide)

/-- Finding a secret touches nothing but the secrets. -/
theorem ensureServerSecret_effect (s : LanService) (random : Option (RandomBytes 16)) (kept : Bool) :
    ∃ secret stored, s.ensureServerSecret random kept = { s with secret := secret, stored := stored } := by
  unfold LanService.ensureServerSecret LanService.generateServerSecret
  split
  · exact ⟨_, _, rfl⟩
  · split
    · exact ⟨_, _, rfl⟩
    · split <;> exact ⟨_, _, rfl⟩

theorem ensureServerSecret_clients (s : LanService) (random : Option (RandomBytes 16)) (kept : Bool) :
    (s.ensureServerSecret random kept).connectedClients = s.connectedClients := by
  obtain ⟨_, _, effect⟩ := ensureServerSecret_effect s random kept
  rw [effect]

/-- A start leaves the sessions alone, keeps a secret, and runs only with one. -/
theorem startServer_spec (s : LanService) (listening certified kept : Bool) (random : Option (RandomBytes 16)) :
    (s.startServer listening certified kept random).connectedClients = s.connectedClients ∧
      (s.secret ≠ "" → (s.startServer listening certified kept random).secret ≠ "") ∧
      ((s.startServer listening certified kept random).running = true →
        s.running = true ∨ (s.startServer listening certified kept random).secret ≠ "") := by
  have clients := ensureServerSecret_clients s random kept
  have keeps := ensureServerSecret_keeps s random kept
  simp only [LanService.startServer]
  split
  · exact ⟨rfl, fun h => h, fun running => .inl running⟩
  · rename_i starts
    split
    · refine ⟨clients, fun h => by rw [keeps h]; exact h, fun running => .inl ?_⟩
      obtain ⟨_, _, effect⟩ := ensureServerSecret_effect s random kept
      rwa [effect] at running
    · rename_i ready
      exact ⟨clients, fun h => by rw [keeps h]; exact h, fun _ => .inr (fun empty => ready (.inl empty))⟩

theorem registerClient_ok {s service : LanService} {now : Int} {token deviceID deviceName ip : String}
    (h : s.registerClient now token deviceID deviceName ip = .ok service) :
    service = { s with connectedClients :=
        s.connectedClients.set (LanService.newClient now token deviceID deviceName ip) } ∧
      (LanService.maxClients ≤ s.clients.length → (s.connectedClients.find? deviceID).isSome) := by
  unfold LanService.registerClient at h
  split at h
  · cases h
  · split at h
    · cases h
    · split at h
      · cases h
      · split at h
        · cases h
        · rename_i room
          cases h
          refine ⟨rfl, fun full => ?_⟩
          by_contra absent
          exact room ⟨full, by simpa using absent⟩

theorem admitConnect_presented {s : LanService} {r : Request} {body : ConnectBody} (secret : s.secret ≠ "")
    (h : s.admitConnect r = .ok body) : body.secret = s.secret := by
  unfold LanService.admitConnect at h
  split at h
  · cases h
  · split at h
    · cases h
    · split at h
      · cases h
      · rename_i valid
        cases h
        have held : s.validateServerSecret body.secret := by
          by_contra refused
          exact valid ⟨secret, refused⟩
        exact held.2.2

theorem register_mediated {a : Admission} {token : RandomBytes 32} {service : LanService} (m : Mediated w)
    (inFlight : a ∈ w.admissions) (fresh : token.hex ∉ w.issued)
    (registered : w.service.registerClient w.clock token.hex a.body.deviceID a.body.deviceName a.ip = .ok service) :
    Mediated { w with
      service := service
      registrations := ⟨token.hex, a⟩ :: w.registrations
      replaced := w.replacedBy a.body.deviceID ++ w.replaced } := by
  obtain ⟨rfl, room⟩ := registerClient_ok registered
  have issued : ∀ client ∈ w.service.clients, client.sessionToken ∈ w.issued := by
    intro client member
    obtain ⟨reg, inside, same, _⟩ := m.registered client member
    exact List.mem_map.mpr ⟨reg, inside, same⟩
  have other : ∀ client ∈ w.service.clients, client.sessionToken ≠ token.hex :=
    fun client member same => fresh (same ▸ issued client member)
  refine ⟨m.live, m.secret, m.admitted, ?_, ?_, ?_, ?_, ?_, ?_⟩
  · intro reg member
    rcases List.mem_cons.mp member with rfl | old
    · exact m.admitted a inFlight
    · exact m.presented reg old
  · intro client member
    rcases Table.set_mem member with rfl | ⟨old, _⟩
    · exact ⟨⟨token.hex, a⟩, by simp, rfl, rfl, rfl⟩
    · obtain ⟨reg, inside, facts⟩ := m.registered client old
      exact ⟨reg, by simp [inside], facts⟩
  · intro client member
    rcases Table.set_mem member with rfl | ⟨old, _⟩
    · rfl
    · exact m.role client old
  · intro x hx y hy same
    rcases Table.set_mem hx with rfl | ⟨oldx, _⟩ <;> rcases Table.set_mem hy with rfl | ⟨oldy, _⟩
    · rfl
    · exact absurd same.symm (other y oldy)
    · exact absurd same (other x oldx)
    · exact m.unique x oldx y oldy same
  · have length := Table.set_length (t := w.service.connectedClients)
      (r := LanService.newClient w.clock token.hex a.body.deviceID a.body.deviceName a.ip)
    have bound := m.bounded
    simp only [LanService.clients] at bound room ⊢
    rw [length]
    split
    · exact bound
    · rename_i absent
      by_contra exceeds
      exact absent (room (by omega))
  · intro gone member
    have known : gone ∈ w.issued ∧ ∀ client ∈ w.service.clients,
        client.deviceID ≠ a.body.deviceID → client.sessionToken ≠ gone := by
      rcases List.mem_append.mp member with now | before
      · simp only [LanWorld.replacedBy, Option.mem_toList, Option.map_eq_some_iff] at now
        obtain ⟨old, found, rfl⟩ := now
        have stored := Table.find?_mem found
        refine ⟨issued old stored, ?_⟩
        intro client inside device same
        exact device ((congrArg _ (m.unique client inside old stored same)).trans (Table.find?_key found))
      · exact ⟨(m.dead gone before).1, fun client inside _ => (m.dead gone before).2 client inside⟩
    refine ⟨by simp only [LanWorld.issued, List.map_cons, List.mem_cons]; exact .inr known.1, ?_⟩
    intro client inside
    rcases Table.set_mem inside with rfl | ⟨old, device⟩
    · rintro rfl
      exact fresh known.1
    · exact known.2 client old device

/-- Every step keeps the invariant, one case per step. -/
theorem step_mediated (m : Mediated w) (step : LanStep w next) : Mediated next := by
  cases step with
  | startServer listening certified kept random =>
    obtain ⟨clients, keeps, runs⟩ := startServer_spec w.service listening certified kept random
    generalize w.service.startServer listening certified kept random = service at *
    have sessions : service.clients = w.service.clients := congrArg Table.rows clients
    refine ⟨fun running => (Bool.or_eq_true _ _).mpr (.inr running), ?_, m.admitted, m.presented,
      sessions ▸ m.registered, sessions ▸ m.role,
      sessions ▸ m.unique, sessions ▸ m.bounded, sessions ▸ m.dead⟩
    intro accepting
    rcases (Bool.or_eq_true _ _).mp accepting with before | started
    · exact keeps (m.secret before)
    · rcases runs started with already | held
      · exact keeps (m.secret (m.live already))
      · exact held
  | stopServer =>
    unfold LanService.stopServer
    split
    · exact m.fewer (by simp) id (Nat.zero_le _) fun client member => absurd member (List.not_mem_nil)
    · exact m
  | relaunch =>
    exact ⟨by simp [NewLanService], by simp, by simp, m.presented, by simp [LanService.clients, NewLanService, Table.empty],
      by simp [LanService.clients, NewLanService, Table.empty], by simp [LanService.clients, NewLanService, Table.empty],
      Nat.zero_le _, fun token gone => ⟨(m.dead token gone).1,
        by simp [LanService.clients, NewLanService, Table.empty]⟩⟩
  | generateServerSecret random kept =>
    refine m.untouched ?_ (generateServerSecret_keeps _ _ _) ?_
    · unfold LanService.generateServerSecret
      split <;> exact id
    · unfold LanService.generateServerSecret
      split <;> rfl
  | storeChanged stored => exact m.untouched id id rfl
  | connect r body accepting admitted =>
    refine { m with admitted := ?_ }
    intro a member
    rcases List.mem_cons.mp member with rfl | old
    · have secret := m.secret accepting
      exact ⟨secret, admitConnect_presented secret admitted⟩
    · exact m.admitted a old
  | register a token service inFlight fresh registered => exact register_mediated m inFlight fresh registered
  | request visited r client accepting order valid => exact m.touched
  | heartbeat visited token order => exact m.touched
  | disconnect deviceID => exact m.filtered
  | suspend deviceID => exact m.modified fun c => ⟨rfl, rfl, rfl⟩
  | resume deviceID => exact m.modified fun c => ⟨rfl, rfl, rfl⟩
  | block deviceID deviceName reason =>
    have left : Mediated (w.withService (w.service.disconnectClient deviceID)) := m.filtered
    simp only [LanService.blockDevice]
    split
    · exact left
    · exact left.untouched id id rfl
  | unblock number => exact m.untouched id id rfl
  | cleanup maxInactiveSeconds => exact m.filtered
  | tick now => exact { m with }

theorem LanRun.mediated (run : LanRun w) : Mediated w := by
  induction run with
  | start stored blocked clock =>
    have none : (NewLanService stored blocked).clients = [] := rfl
    exact ⟨by simp [NewLanService], by simp, by simp, by simp, by simp [none], by simp [none], by simp [none],
      by simp [none], by simp⟩
  | step _ step ih => exact step_mediated ih step

/-- What a session that validates has passed. -/
structure ValidFor (visited : List ConnectedClient) (now : Int) (token ip : String) (client : ConnectedClient) : Prop where
  registered : client ∈ visited
  token : client.sessionToken = token
  address : ip = "" ∨ client.ipAddress = ip ∨ isLoopback client.ipAddress ∧ isLoopback ip
  active : client.status ≠ .suspended
  recent : now - client.lastActivity ≤ inactivityTimeout

theorem validateSessionToken_ok {visited : List ConnectedClient} {now : Int} {token ip : String}
    {client : ConnectedClient} (h : validateSessionToken visited now token ip = .ok client) :
    ValidFor visited now token ip client := by
  unfold validateSessionToken at h
  split at h
  · cases h
  · rename_i found session
    split at h
    · cases h
    · rename_i address
      split at h
      · cases h
      · rename_i active
        split at h
        · cases h
        · rename_i recent
          cases h
          refine ⟨List.mem_of_find?_eq_some session, by simpa using List.find?_some session, ?_, active, by omega⟩
          by_contra elsewhere
          simp only [not_or] at elsewhere
          exact address ⟨elsewhere.1, elsewhere.2.1, elsewhere.2.2⟩

theorem authMiddleware_runs {visited : List ConnectedClient} {now : Int} {r : Request} {client : ConnectedClient}
    (h : authMiddleware visited now r = .runs client) :
    ValidFor visited now (requestToken r) r.ip client ∧ lanRoleAllows client.role r.method r.path = true := by
  unfold authMiddleware at h
  split at h
  · cases h
  · split at h
    · cases h
    · split at h
      · cases h
      · rename_i valid
        split at h
        · rename_i allowed
          cases h
          exact ⟨validateSessionToken_ok valid, allowed⟩
        · cases h

theorem serveBody_runs {visited : List ConnectedClient} {now : Int} {r : Request} {handler : String}
    {client : ConnectedClient} (h : serveBody visited now r = some (handler, client)) :
    ValidFor visited now (requestToken r) r.ip client ∧ lanRoleAllows client.role r.method r.path = true := by
  unfold serveBody at h
  split at h
  · split at h
    · rename_i runs
      cases h
      exact authMiddleware_runs runs
    · cases h
  · cases h

/-- In every reachable world and for every visiting order of the session map: a body
behind the middleware runs for a registered, active and recent session whose token,
address and role fit the request and which a connect with the current secret made; all
sessions are cashiers, there are at most thirty, replaced tokens stay dead, and the
server never serves without a secret. -/
theorem lan_complete_mediation (w : LanWorld) (run : LanRun w) :
    (∀ visited r handler client, visited.Perm w.service.clients →
      serveBody visited w.clock r = some (handler, client) →
      client ∈ w.service.clients ∧ client.sessionToken = requestToken r ∧
      (∃ reg ∈ w.registrations, reg.token = client.sessionToken ∧ reg.admission.body.deviceID = client.deviceID ∧
        reg.admission.ip = client.ipAddress ∧ reg.admission.current ≠ "" ∧
        reg.admission.body.secret = reg.admission.current) ∧
      client.status ≠ .suspended ∧
      (client.ipAddress = r.ip ∨ isLoopback client.ipAddress ∧ isLoopback r.ip) ∧
      w.clock - client.lastActivity ≤ 12 * 3600 ∧
      lanRoleAllows client.role r.method r.path = true) ∧
    (∀ client ∈ w.service.clients, client.role = .cashier) ∧
    w.service.clients.length ≤ 30 ∧
    (∀ token ∈ w.replaced, ∀ visited now ip client, visited.Perm w.service.clients →
      validateSessionToken visited now token ip ≠ .ok client) ∧
    (w.accepting = true → w.service.secret ≠ "") := by
  have m := run.mediated
  refine ⟨?_, m.role, m.bounded, ?_, m.secret⟩
  · intro visited r handler client order runs
    obtain ⟨valid, allowed⟩ := serveBody_runs runs
    have member := order.mem_iff.mp valid.registered
    obtain ⟨reg, inside, token, device, ip⟩ := m.registered client member
    obtain ⟨secret, presented⟩ := m.presented reg inside
    refine ⟨member, valid.token, ⟨reg, inside, token, device, ip, secret, presented⟩, valid.active, ?_, valid.recent, allowed⟩
    rcases valid.address with none | address
    · exact absurd none r.addressed
    · exact address
  · intro token gone visited now ip client order accepted
    have valid := validateSessionToken_ok accepted
    exact (m.dead token gone).2 client (order.mem_iff.mp valid.registered) valid.token

section Counter

def secretBytes : RandomBytes 16 := ⟨List.replicate 16 7, rfl⟩

def tokenBytes : RandomBytes 32 := ⟨List.replicate 32 9, rfl⟩

def pairing : ConnectBody := ⟨"counter-2", "Counter 2", secretBytes.hex⟩

def pairingRequest : Request :=
  ⟨"POST", "/api/connect", "10.0.0.5:5000", "", "", some pairing, by decide +kernel⟩

def readProducts : Request :=
  ⟨"GET", "/api/products", "10.0.0.5:5001", "Bearer " ++ tokenBytes.hex, "", none, by decide +kernel⟩

def served : LanService := (NewLanService "" .empty).startServer true true true (some secretBytes)

def paired : LanService :=
  { served with
    connectedClients := served.connectedClients.set
      (LanService.newClient 0 tokenBytes.hex "counter-2" "Counter 2" "10.0.0.5") }

/-- The second counter after it connected. -/
def counter : LanWorld :=
  ⟨paired, 0, true, [⟨pairing, "10.0.0.5", served.secret⟩],
    [⟨tokenBytes.hex, ⟨pairing, "10.0.0.5", served.secret⟩⟩], []⟩

end Counter

/-- The counter reads the products with its token, an hour after it connected. -/
theorem lan_complete_mediation_counter :
    ∃ client, serveBody counter.service.clients 3600 readProducts = some ("handleProducts", client) ∧
      client ∈ counter.service.clients ∧ client.role = .cashier := by
  have started := LanStep.startServer ⟨NewLanService "" .empty, 0, false, [], [], []⟩ true true true (some secretBytes)
  have opened : LanRun ⟨served, 0, true, [], [], []⟩ := .step (.start "" .empty 0) started
  have connected : LanRun ⟨served, 0, true, [⟨pairing, "10.0.0.5", served.secret⟩], [], []⟩ :=
    .step opened (.connect _ pairingRequest pairing rfl (by rfl))
  have registered : LanRun counter :=
    .step connected (.register _ ⟨pairing, "10.0.0.5", served.secret⟩ tokenBytes paired (by simp)
      (by simp [LanWorld.issued]) (by decide +kernel))
  have later : LanRun { counter with clock := 3600 } := .step registered (.tick counter 3600)
  have runs : ∃ client, serveBody counter.service.clients 3600 readProducts = some ("handleProducts", client) :=
    ⟨LanService.newClient 0 tokenBytes.hex "counter-2" "Counter 2" "10.0.0.5", by decide +kernel⟩
  obtain ⟨client, served⟩ := runs
  have facts := lan_complete_mediation { counter with clock := 3600 } later
  have member := (facts.1 counter.service.clients readProducts "handleProducts" client (List.Perm.refl _) served).1
  exact ⟨client, served, member, facts.2.1 client member⟩

end BeidarPos
