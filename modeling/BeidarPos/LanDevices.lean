import BeidarPos.LanMediation
import BeidarPos.Interleaving

/-! The operator's calls and the connects of devices, one section under the session lock
or one database call at a time. A connect asks the block list before it takes the lock;
blocking a device drops its session before it writes the list. -/
namespace BeidarPos

open Relational Interleaving

/-- A device that connects. -/
structure Newcomer where
  deviceID : String
  deviceName : String
  ipAddress : String
  deriving DecidableEq

structure DeviceBlock where
  deviceID : String
  deviceName : String
  reason : String
  deriving DecidableEq

/-- The clock, and the bytes a session token is made of, when they could be drawn. -/
structure LanEnv where
  now : Int
  random : Option (RandomBytes 32)

inductive DeviceReply where
  | token (sessionToken : String)
  | done
  | failed (message : String)
  deriving DecidableEq

/-- A call where it stands: what it still has to do, or what it answered. -/
inductive DeviceCall where
  | registerClient (device : Newcomer)
  | checkingAddress (device : Newcomer)
  | inserting (device : Newcomer)
  | blockDevice (block : DeviceBlock)
  | listing (block : DeviceBlock)
  | unblockDevice (id : Nat)
  | disconnectClient (deviceID : String)
  | suspendClient (deviceID : String)
  | resumeClient (deviceID : String)
  | cleanupInactiveClients (maxInactiveSeconds : Int)
  | clearAllClients
  | stopServer
  | startServer (listening certified kept : Bool) (random : Option (RandomBytes 16))
  | answered (reply : DeviceReply)

namespace LanService

variable (s : LanService)

def withClient (client : ConnectedClient) : LanService :=
  { s with connectedClients := s.connectedClients.set client }

/-- The section of `RegisterClient` under the lock. -/
def insertClient (env : LanEnv) (device : Newcomer) : Except String (String × LanService) :=
  if ∃ existing ∈ s.connectedClients.find? device.deviceID, existing.status = .suspended then
    .error "هذا الجهاز معلّق من قبل المدير"
  else if maxClients ≤ s.clients.length ∧ s.connectedClients.find? device.deviceID = none then
    .error "تم الوصول للحد الأقصى لعدد الأجهزة المتصلة (30 جهازاً)"
  else
    match env.random with
    | none => .error "failed to generate secure session token"
    | some bytes =>
      let client := newClient env.now bytes.hex device.deviceID device.deviceName device.ipAddress
      .ok (bytes.hex, s.withClient client)

def networkBlockDevice (now : Int) (block : DeviceBlock) : Option LanService :=
  if s.isDeviceBlocked block.deviceID then none
  else
    let device := fun n => BlockedDevice.mk n block.deviceID block.deviceName now block.reason
    some { s with blockedDevices := s.blockedDevices.append device (fun _ => rfl) }

end LanService

/-- One section under the lock, or one database call. -/
def DeviceCall.step (env : LanEnv) (call : DeviceCall) (s : LanService) : DeviceCall × LanService :=
  let connected := fun (deviceID : String) (next : LanService) =>
    if s.connectedClients.find? deviceID = none then (.answered (.failed "الجهاز غير متصل"), s)
    else (DeviceCall.answered .done, next)
  match call with
  | .registerClient device =>
    if device.deviceID = "" ∨ device.deviceName = "" then (.answered (.failed "معرف واسم الجهاز مطلوبان"), s)
    else if s.isDeviceBlocked device.deviceID then (.answered (.failed "هذا الجهاز محظور من الاتصال"), s)
    else if device.ipAddress = "" then (.inserting device, s)
    else (.checkingAddress device, s)
  | .checkingAddress device =>
    if s.isDeviceBlocked device.ipAddress then (.answered (.failed "هذا الجهاز محظور من الاتصال"), s)
    else (.inserting device, s)
  | .inserting device =>
    match s.insertClient env device with
    | .error message => (.answered (.failed message), s)
    | .ok (token, next) => (.answered (.token token), next)
  | .blockDevice block => (.listing block, s.disconnectClient block.deviceID)
  | .listing block =>
    match s.networkBlockDevice env.now block with
    | none => (.answered (.failed "UNIQUE constraint failed: blocked_devices.device_id"), s)
    | some next => (.answered .done, next)
  | .unblockDevice id =>
    if s.blockedDevices.find? id = none then (.answered (.failed "record not found"), s)
    else (.answered .done, s.unblockDevice id)
  | .disconnectClient deviceID => connected deviceID (s.disconnectClient deviceID)
  | .suspendClient deviceID => connected deviceID (s.suspendClient deviceID)
  | .resumeClient deviceID => connected deviceID (s.resumeClient deviceID)
  | .cleanupInactiveClients maxInactiveSeconds =>
    (.answered .done, s.cleanupInactiveClients env.now maxInactiveSeconds)
  | .clearAllClients => (.answered .done, s.clearAllClients)
  | .stopServer => (.answered .done, s.stopServer)
  | .startServer listening certified kept random =>
    (.answered .done, s.startServer listening certified kept random)
  | .answered reply => (.answered reply, s)

abbrev DeviceWorld := World LanService DeviceCall

/-- The sections of a registration one after the other are the whole of it. -/
theorem registerClient_sections (s : LanService) (now : Int) (bytes : RandomBytes 32) (device : Newcomer)
    (named : device.deviceID ≠ "" ∧ device.deviceName ≠ "")
    (admitted : ¬ s.isDeviceBlocked device.deviceID ∧ (device.ipAddress ≠ "" → ¬ s.isDeviceBlocked device.ipAddress)) :
    s.registerClient now bytes.hex device.deviceID device.deviceName device.ipAddress =
      (s.insertClient ⟨now, some bytes⟩ device).map Prod.snd := by
  obtain ⟨id, name⟩ := named
  obtain ⟨free, address⟩ := admitted
  unfold LanService.registerClient LanService.insertClient
  rw [if_neg (by simp [id, name]), if_neg (by rintro (listed | ⟨some, listed⟩); exacts [free listed, address some listed])]
  split
  · rfl
  · split <;> rfl

/-- The sections of blocking a device one after the other are the whole of it. -/
theorem blockDevice_sections (s : LanService) (now : Int) (block : DeviceBlock) :
    s.blockDevice now block.deviceID block.deviceName block.reason =
      ((s.disconnectClient block.deviceID).networkBlockDevice now block).getD (s.disconnectClient block.deviceID) := by
  unfold LanService.blockDevice LanService.networkBlockDevice
  simp only
  split <;> rfl

theorem ensureServerSecret_blocked (s : LanService) (random : Option (RandomBytes 16)) (kept : Bool) :
    (s.ensureServerSecret random kept).blockedDevices = s.blockedDevices := by
  obtain ⟨_, _, effect⟩ := ensureServerSecret_effect s random kept
  rw [effect]

theorem startServer_blocked (s : LanService) (listening certified kept : Bool) (random : Option (RandomBytes 16)) :
    (s.startServer listening certified kept random).blockedDevices = s.blockedDevices := by
  have same := ensureServerSecret_blocked s random kept
  simp only [LanService.startServer]
  split
  · rfl
  · split <;> exact same

/-- What one step of a call can do to the service. -/
inductive DeviceEffect (env : LanEnv) (s : LanService) : DeviceCall → LanService → Prop
  | nothing (call : DeviceCall) : DeviceEffect env s call s
  | inserted (device : Newcomer) (bytes : RandomBytes 32)
      (active : ∀ old, s.connectedClients.find? device.deviceID = some old → old.status ≠ .suspended) :
    DeviceEffect env s (.inserting device)
      (s.withClient (LanService.newClient env.now bytes.hex device.deviceID device.deviceName device.ipAddress))
  | dropped (block : DeviceBlock) : DeviceEffect env s (.blockDevice block) (s.disconnectClient block.deviceID)
  | listed (block : DeviceBlock) (next : LanService) (listed : s.networkBlockDevice env.now block = some next) :
    DeviceEffect env s (.listing block) next
  | unblocked (id : Nat) : DeviceEffect env s (.unblockDevice id) (s.unblockDevice id)
  | disconnected (deviceID : String) :
    DeviceEffect env s (.disconnectClient deviceID) (s.disconnectClient deviceID)
  | suspended (deviceID : String) : DeviceEffect env s (.suspendClient deviceID) (s.suspendClient deviceID)
  | resumed (deviceID : String) : DeviceEffect env s (.resumeClient deviceID) (s.resumeClient deviceID)
  | cleaned (maxInactiveSeconds : Int) : DeviceEffect env s (.cleanupInactiveClients maxInactiveSeconds)
      (s.cleanupInactiveClients env.now maxInactiveSeconds)
  | cleared : DeviceEffect env s .clearAllClients s.clearAllClients
  | stopped : DeviceEffect env s .stopServer s.stopServer
  | started (listening certified kept : Bool) (random : Option (RandomBytes 16)) :
    DeviceEffect env s (.startServer listening certified kept random) (s.startServer listening certified kept random)

namespace DeviceCall

variable {env : LanEnv} {call : DeviceCall} {s next : LanService} {d : String}

theorem step_effect (env : LanEnv) (call : DeviceCall) (s : LanService) :
    DeviceEffect env s call (call.step env s).2 := by
  cases call with
  | registerClient device =>
    simp only [step]
    split
    · exact .nothing _
    · split
      · exact .nothing _
      · split <;> exact .nothing _
  | checkingAddress device =>
    simp only [step]
    split <;> exact .nothing _
  | inserting device =>
    simp only [step]
    split
    · exact .nothing _
    · next token next inserted =>
      unfold LanService.insertClient at inserted
      split at inserted
      · cases inserted
      · next free =>
        split at inserted
        · cases inserted
        · split at inserted
          · cases inserted
          · next bytes _ =>
            cases inserted
            exact .inserted device bytes fun old found held => free ⟨old, found, held⟩
  | blockDevice block => exact .dropped block
  | listing block =>
    simp only [step]
    split
    · exact .nothing _
    · next next listed => exact .listed block next listed
  | unblockDevice id =>
    simp only [step]
    split
    · exact .nothing _
    · exact .unblocked id
  | disconnectClient deviceID =>
    simp only [step]
    split
    · exact .nothing _
    · exact .disconnected deviceID
  | suspendClient deviceID =>
    simp only [step]
    split
    · exact .nothing _
    · exact .suspended deviceID
  | resumeClient deviceID =>
    simp only [step]
    split
    · exact .nothing _
    · exact .resumed deviceID
  | cleanupInactiveClients maxInactiveSeconds => exact .cleaned maxInactiveSeconds
  | clearAllClients => exact .cleared
  | stopServer => exact .stopped
  | startServer listening certified kept random => exact .started listening certified kept random
  | answered reply => exact .nothing _

/-- A call that has dropped the sessions of the device and not listed it yet. -/
def blocks (d : String) : DeviceCall → Bool
  | .listing block => block.deviceID = d
  | _ => false

end DeviceCall

namespace DeviceEffect

variable {env : LanEnv} {call : DeviceCall} {s next : LanService} {d : String}

theorem modified {client : ConnectedClient} {status : ClientStatus} {deviceID : String}
    (member : client ∈ (s.setStatus status deviceID).clients) :
    (∃ old ∈ s.clients, old.deviceID = client.deviceID ∧ client.status = status ∧ client.deviceID = deviceID) ∨
      client ∈ s.clients ∧ client.deviceID ≠ deviceID := by
  have origin := @Table.modify_mem _ _ _ _ s.connectedClients (ConnectedClient.withStatus status) (fun _ => rfl)
    deviceID client member
  rcases origin with ⟨old, before, rfl, same⟩ | other
  · exact .inl ⟨old, before, rfl, rfl, same⟩
  · exact .inr other

/-- Where a session after a step comes from: it was there, with the same status unless
it is suspended or resumed, or it is inserted where no suspended one was. -/
theorem clients {client : ConnectedClient} (effect : DeviceEffect env s call next) (member : client ∈ next.clients) :
    (∃ old ∈ s.clients, old.deviceID = client.deviceID ∧
      (client.status = old.status ∨ client.status = .suspended ∨ call = .resumeClient client.deviceID)) ∨
    ∃ device, call = .inserting device ∧ device.deviceID = client.deviceID ∧
      ∀ old, s.connectedClients.find? device.deviceID = some old → old.status ≠ .suspended := by
  have stays : client ∈ s.clients → ∃ old ∈ s.clients, old.deviceID = client.deviceID ∧
      (client.status = old.status ∨ client.status = .suspended ∨ call = .resumeClient client.deviceID) :=
    fun before => ⟨client, before, rfl, .inl rfl⟩
  cases effect with
  | nothing => exact .inl (stays member)
  | inserted device bytes active =>
    rcases Table.set_mem member with rfl | ⟨before, -⟩
    · exact .inr ⟨device, rfl, rfl, active⟩
    · exact .inl (stays before)
  | dropped block => exact .inl (stays (Table.filter_mem.mp member).1)
  | listed block next listed =>
    unfold LanService.networkBlockDevice at listed
    split at listed
    · cases listed
    · cases listed
      exact .inl (stays member)
  | unblocked id => exact .inl (stays member)
  | disconnected deviceID => exact .inl (stays (Table.filter_mem.mp member).1)
  | suspended deviceID =>
    rcases modified member with ⟨old, before, same, held, -⟩ | ⟨before, -⟩
    · exact .inl ⟨old, before, same, .inr (.inl held)⟩
    · exact .inl (stays before)
  | resumed deviceID =>
    rcases modified member with ⟨old, before, same, -, device⟩ | ⟨before, -⟩
    · exact .inl ⟨old, before, same, .inr (.inr (by rw [device]))⟩
    · exact .inl (stays before)
  | cleaned maxInactiveSeconds => exact .inl (stays (Table.filter_mem.mp member).1)
  | cleared => exact absurd member List.not_mem_nil
  | stopped =>
    unfold LanService.stopServer at member
    split at member
    · exact absurd member List.not_mem_nil
    · exact .inl (stays member)
  | started listening certified kept random =>
    have same := (startServer_spec s listening certified kept random).1
    unfold LanService.clients at member
    rw [same] at member
    exact .inl (stays member)

/-- Only the second half of a block lists a device, and only an unblock takes it off. -/
theorem listed_iff (effect : DeviceEffect env s call next) :
    (next.isDeviceBlocked d → s.isDeviceBlocked d ∨ call.blocks d = true) ∧
      (s.isDeviceBlocked d → next.isDeviceBlocked d ∨
        ∃ id row, call = .unblockDevice id ∧ s.blockedDevices.find? id = some row ∧ row.deviceID = d) := by
  have stays : next.blockedDevices = s.blockedDevices →
      (next.isDeviceBlocked d → s.isDeviceBlocked d ∨ call.blocks d = true) ∧
      (s.isDeviceBlocked d → next.isDeviceBlocked d ∨
        ∃ id row, call = .unblockDevice id ∧ s.blockedDevices.find? id = some row ∧ row.deviceID = d) := by
    intro same
    unfold LanService.isDeviceBlocked
    rw [same]
    exact ⟨.inl, .inl⟩
  cases effect with
  | listed block next listed =>
    unfold LanService.networkBlockDevice at listed
    split at listed
    · cases listed
    · cases listed
      refine ⟨fun ⟨row, member, same⟩ => ?_, fun ⟨row, member, same⟩ => .inl ⟨row, List.mem_append_left _ member, same⟩⟩
      rcases List.mem_append.mp member with old | new
      · exact .inl ⟨row, old, same⟩
      · rw [List.mem_singleton.mp new] at same
        exact .inr (decide_eq_true same)
  | unblocked id =>
    refine ⟨fun ⟨row, member, same⟩ => .inl ⟨row, (Table.filter_mem.mp member).1, same⟩, fun ⟨row, member, same⟩ => ?_⟩
    rcases eq_or_ne row.id id with named | other
    · exact .inr ⟨id, row, rfl, named ▸ Table.find?_of_mem member, same⟩
    · exact .inl ⟨row, Table.filter_mem.mpr ⟨member, other⟩, same⟩
  | stopped =>
    refine stays ?_
    unfold LanService.stopServer
    split <;> rfl
  | started listening certified kept random => exact stays (startServer_blocked s listening certified kept random)
  | _ => exact stays rfl

end DeviceEffect

theorem networkBlockDevice_lists {s next : LanService} {now : Int} {block : DeviceBlock}
    (listed : s.networkBlockDevice now block = some next) : next.isDeviceBlocked block.deviceID := by
  unfold LanService.networkBlockDevice at listed
  split at listed
  · cases listed
  · cases listed
    exact ⟨_, List.mem_append_right _ (List.mem_singleton.mpr rfl), rfl⟩

/-- Nobody's session is the device's. -/
def NoSession (d : String) (s : LanService) : Prop := ∀ client ∈ s.clients, client.deviceID ≠ d

/-- While the device is listed, or about to be, it has no session. -/
def ShutOut (d : String) (w : DeviceWorld) : Prop :=
  (w.state.isDeviceBlocked d ∨ ∃ call ∈ w.calls, call.blocks d = true) → NoSession d w.state

namespace DeviceCall

/-- The device whose session the next step inserts, unless the section refuses it. -/
def insertion : DeviceCall → Option Newcomer
  | .inserting device => some device
  | _ => none

def unblocked : DeviceCall → Option Nat
  | .unblockDevice id => some id
  | _ => none

def resumed : DeviceCall → Option String
  | .resumeClient deviceID => some deviceID
  | _ => none

end DeviceCall

/-- A registration inserts its session only while its device is neither listed nor
between the two halves of a block. -/
def InsertsUnblocked (_ : Turn LanEnv) (call : DeviceCall) (w : DeviceWorld) : Prop :=
  ∀ device ∈ call.insertion,
    ¬ w.state.isDeviceBlocked device.deviceID ∧ ∀ other ∈ w.calls, other.blocks device.deviceID = false

instance (turn : Turn LanEnv) (call : DeviceCall) (w : DeviceWorld) : Decidable (InsertsUnblocked turn call w) :=
  inferInstanceAs (Decidable (∀ device ∈ call.insertion, _ ∧ _))

/-- The step does not take the device off the list. -/
def LeavesListed (d : String) (_ : Turn LanEnv) (call : DeviceCall) (w : DeviceWorld) : Prop :=
  ∀ id ∈ call.unblocked, ∀ row ∈ w.state.blockedDevices.find? id, row.deviceID ≠ d

instance (turn : Turn LanEnv) (call : DeviceCall) (w : DeviceWorld) : Decidable (LeavesListed d turn call w) :=
  inferInstanceAs (Decidable (∀ id ∈ call.unblocked, ∀ row ∈ w.state.blockedDevices.find? id, _))

/-- The step does not resume the device, and a registration of it finds its session. -/
def StaysSuspended (d : String) (_ : Turn LanEnv) (call : DeviceCall) (w : DeviceWorld) : Prop :=
  call.resumed ≠ some d ∧
    ∀ device ∈ call.insertion, device.deviceID = d → (w.state.connectedClients.find? d).isSome

instance (turn : Turn LanEnv) (call : DeviceCall) (w : DeviceWorld) : Decidable (StaysSuspended d turn call w) :=
  inferInstanceAs (Decidable (_ ∧ ∀ device ∈ call.insertion, _))

namespace DeviceCall

variable {env : LanEnv} {call : DeviceCall} {s : LanService} {d : String}

theorem step_blocks (blocks : (call.step env s).1.blocks d = true) : ∃ block, call = .blockDevice block ∧ block.deviceID = d := by
  cases call with
  | blockDevice block => exact ⟨block, rfl, of_decide_eq_true blocks⟩
  | _ =>
    simp only [step] at blocks
    repeat' split at blocks
    all_goals simp [DeviceCall.blocks] at blocks

end DeviceCall

theorem step_shutOut {d : String} {w : DeviceWorld} {turn : Turn LanEnv} {call : DeviceCall} (shut : ShutOut d w)
    (here : w.calls[turn.call]? = some call) (inserts : InsertsUnblocked turn call w) :
    ShutOut d ⟨(call.step turn.env w.state).2, w.calls.set turn.call (call.step turn.env w.state).1⟩ := by
  intro blocked client member same
  have effect := DeviceCall.step_effect turn.env call w.state
  by_cases drops : ∃ block, call = .blockDevice block ∧ block.deviceID = d
  · obtain ⟨block, rfl, named⟩ := drops
    exact (Table.filter_mem.mp member).2 (same.trans named.symm)
  · have before : w.state.isDeviceBlocked d ∨ ∃ other ∈ w.calls, other.blocks d = true := by
      rcases blocked with listed | ⟨other, among, blocks⟩
      · exact (effect.listed_iff.1 listed).imp_right fun blocks => ⟨call, List.mem_of_getElem? here, blocks⟩
      · rcases List.mem_or_eq_of_mem_set among with old | rfl
        · exact .inr ⟨other, old, blocks⟩
        · exact absurd (DeviceCall.step_blocks blocks) drops
    rcases effect.clients member with ⟨old, stored, device, -⟩ | ⟨device, rfl, named, -⟩
    · exact shut before old stored (device.trans same)
    · obtain ⟨unlisted, nobody⟩ := inserts device rfl
      rw [named, same] at unlisted nobody
      rcases before with listed | ⟨other, among, blocks⟩
      · exact unlisted listed
      · rw [nobody other among] at blocks
        cases blocks

/-- Calls at their start, and no session of a listed device. -/
structure DeviceWorld.Starting (w : DeviceWorld) : Prop where
  calls : ∀ call ∈ w.calls, ∀ d, call.blocks d = false
  sessions : ∀ client ∈ w.state.clients, ¬ w.state.isDeviceBlocked client.deviceID

theorem starting_shutOut {w : DeviceWorld} (starting : w.Starting) (d : String) : ShutOut d w := by
  rintro (listed | ⟨call, among, blocks⟩) client member rfl
  · exact starting.sessions client member listed
  · rw [starting.calls call among] at blocks
    cases blocks

/-- After a block of a device succeeded, and until it is unblocked, no session of the
device validates, in every schedule whose registrations insert unblocked devices only. -/
theorem blocked_device_shut_out (d : String) (w : DeviceWorld) (starting : w.Starting) (before after : List (Turn LanEnv))
    (turn : Turn LanEnv) (block : DeviceBlock) (device : block.deviceID = d)
    (inserts : Meets DeviceCall.step InsertsUnblocked (before ++ turn :: after) w)
    (blocking : (run DeviceCall.step before w).calls[turn.call]? = some (.listing block))
    (succeeds : (run DeviceCall.step (before ++ [turn]) w).calls[turn.call]? = some (.answered .done))
    (kept : Meets DeviceCall.step (LeavesListed d) after (run DeviceCall.step (before ++ [turn]) w)) :
    let s := (run DeviceCall.step (before ++ turn :: after) w).state
    ∀ visited now token requestIP client, visited.Perm s.clients →
      validateSessionToken visited now token requestIP = .ok client → client.deviceID ≠ d := by
  have split : before ++ turn :: after = (before ++ [turn]) ++ after := by simp
  have shut : ShutOut d (run DeviceCall.step (before ++ turn :: after) w) :=
    run_keeps _ (fun _ _ _ shut here allowed => step_shutOut shut here allowed) (starting_shutOut starting d) inserts
  have listed : (run DeviceCall.step (before ++ [turn]) w).state.isDeviceBlocked d := by
    obtain ⟨state, calls⟩ := run_turn blocking
    rw [calls] at succeeds
    rw [state]
    simp only [DeviceCall.step] at succeeds ⊢
    split at succeeds
    · cases succeeds
    · next next listed =>
      exact device ▸ networkBlockDevice_lists listed
  have still : (run DeviceCall.step (before ++ turn :: after) w).state.isDeviceBlocked d := by
    rw [split, run_append]
    refine run_keeps (fun now => now.state.isDeviceBlocked d) ?_ listed kept
    intro w turn call held here leaves
    refine ((DeviceCall.step_effect turn.env call w.state).listed_iff.2 held).resolve_right ?_
    rintro ⟨id, row, rfl, found, named⟩
    exact leaves id rfl row found named
  intro s visited now token requestIP client order valid
  exact shut (.inl still) client (order.mem_iff.mp (validateSessionToken_ok valid).registered)

/-- Every session of the device is suspended. -/
def Suspended (d : String) (s : LanService) : Prop := ∀ client ∈ s.clients, client.deviceID = d → client.status = .suspended

theorem step_suspended {d : String} {w : DeviceWorld} {turn : Turn LanEnv} {call : DeviceCall}
    (suspended : Suspended d w.state) (stays : StaysSuspended d turn call w) :
    Suspended d (call.step turn.env w.state).2 := by
  intro client member same
  have effect := DeviceCall.step_effect turn.env call w.state
  rcases effect.clients member with ⟨old, stored, device, status⟩ | ⟨device, rfl, named, active⟩
  · have before := suspended old stored (device.trans same)
    rcases status with kept | held | resumes
    · exact kept.trans before
    · exact held
    · rw [resumes, same] at stays
      exact absurd rfl stays.1
  · -- the session that is there is suspended, so the section refuses the newcomer
    obtain ⟨old, found⟩ := Option.isSome_iff_exists.mp (stays.2 device rfl (named.trans same))
    exact absurd (suspended old (Table.find?_mem found) (Table.find?_key found))
      (active old (by rw [named, same]; exact found))

/-- After a suspension of a device succeeded, and until it is resumed, no request of the
device passes the middleware, in every schedule in which each registration of the device
finds its session. -/
theorem suspended_device_stays_out (d : String) (w : DeviceWorld) (before after : List (Turn LanEnv)) (turn : Turn LanEnv)
    (suspends : (run DeviceCall.step before w).calls[turn.call]? = some (.suspendClient d))
    (succeeds : (run DeviceCall.step (before ++ [turn]) w).calls[turn.call]? = some (.answered .done))
    (stays : Meets DeviceCall.step (StaysSuspended d) after (run DeviceCall.step (before ++ [turn]) w)) :
    let s := (run DeviceCall.step (before ++ turn :: after) w).state
    ∀ visited now r client, visited.Perm s.clients → authMiddleware visited now r = .runs client →
      client.deviceID ≠ d := by
  have split : before ++ turn :: after = (before ++ [turn]) ++ after := by simp
  have started : Suspended d (run DeviceCall.step (before ++ [turn]) w).state := by
    obtain ⟨state, calls⟩ := run_turn suspends
    rw [calls] at succeeds
    rw [state]
    simp only [DeviceCall.step] at succeeds ⊢
    split at succeeds
    · cases succeeds
    · next connected =>
      rw [if_neg connected]
      intro client member same
      rcases DeviceEffect.modified member with ⟨-, -, -, status, -⟩ | ⟨-, other⟩
      · exact status
      · exact absurd same other
  have held : Suspended d (run DeviceCall.step (before ++ turn :: after) w).state := by
    rw [split, run_append]
    exact run_keeps (fun now => Suspended d now.state)
      (fun _ _ _ before _ allowed => step_suspended before allowed) started stays
  intro s visited now r client order passes same
  obtain ⟨valid, -⟩ := authMiddleware_runs passes
  exact valid.active (held client (order.mem_iff.mp valid.registered) same)

section Counter

def drawn : LanEnv := ⟨60, some tokenBytes⟩

def counterDevice : Newcomer := ⟨"counter-2", "Counter 2", "10.0.0.5"⟩

/-- The second counter is blocked while it connects again. -/
def blockedCounter : DeviceWorld :=
  ⟨paired, [.blockDevice ⟨"counter-2", "Counter 2", "lost"⟩, .registerClient counterDevice]⟩

theorem blockedCounter_starting : blockedCounter.Starting :=
  ⟨fun call among d => by
    rcases List.mem_pair.mp among with rfl | rfl <;> rfl, by decide +kernel⟩

theorem counter_shut_out :
    let s := (run DeviceCall.step [⟨0, drawn⟩, ⟨0, drawn⟩, ⟨1, drawn⟩] blockedCounter).state
    ∀ visited now token requestIP client, visited.Perm s.clients →
      validateSessionToken visited now token requestIP = .ok client → client.deviceID ≠ "counter-2" :=
  blocked_device_shut_out "counter-2" blockedCounter blockedCounter_starting [⟨0, drawn⟩] [⟨1, drawn⟩] ⟨0, drawn⟩
    ⟨"counter-2", "Counter 2", "lost"⟩ rfl (by decide +kernel) rfl rfl (by decide +kernel)

/-- The block drops the session, the counter connects again, the block writes the list:
the new session validates. -/
theorem blocked_counter_validates :
    blockedCounter.Starting ∧
      let w := run DeviceCall.step [⟨0, drawn⟩, ⟨1, drawn⟩, ⟨1, drawn⟩, ⟨1, drawn⟩, ⟨0, drawn⟩] blockedCounter
      w.calls[0]? = some (.answered .done) ∧ w.state.isDeviceBlocked "counter-2" ∧
        ∃ client ∈ w.state.clients, client.deviceID = "counter-2" ∧
          validateSessionToken w.state.clients 60 tokenBytes.hex "10.0.0.5" = .ok client :=
  ⟨blockedCounter_starting, rfl, by decide +kernel,
    LanService.newClient 60 tokenBytes.hex "counter-2" "Counter 2" "10.0.0.5", by decide +kernel, rfl, by decide +kernel⟩

/-- The second counter is suspended, its session is cleaned up, and it connects again. -/
def suspendedCounter : DeviceWorld :=
  ⟨paired, [.suspendClient "counter-2", .registerClient counterDevice, .cleanupInactiveClients 30]⟩

theorem counter_stays_out :
    let s := (run DeviceCall.step [⟨0, drawn⟩, ⟨1, drawn⟩, ⟨1, drawn⟩, ⟨1, drawn⟩] suspendedCounter).state
    ∀ visited now r client, visited.Perm s.clients → authMiddleware visited now r = .runs client →
      client.deviceID ≠ "counter-2" :=
  suspended_device_stays_out "counter-2" suspendedCounter [] [⟨1, drawn⟩, ⟨1, drawn⟩, ⟨1, drawn⟩] ⟨0, drawn⟩ rfl rfl
    (by decide +kernel)

/-- A clean-up between the suspension and a reconnect lets the counter's requests pass. -/
theorem suspended_counter_passes :
    let w := run DeviceCall.step [⟨0, drawn⟩, ⟨2, drawn⟩, ⟨1, drawn⟩, ⟨1, drawn⟩, ⟨1, drawn⟩] suspendedCounter
    w.calls[0]? = some (.answered .done) ∧
      ∃ client ∈ w.state.clients, client.deviceID = "counter-2" ∧
        authMiddleware w.state.clients 60 readProducts = .runs client :=
  ⟨rfl, LanService.newClient 60 tokenBytes.hex "counter-2" "Counter 2" "10.0.0.5", by decide +kernel, rfl, rfl⟩

end Counter

end BeidarPos
