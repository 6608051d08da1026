import VntClient.Chronicle
import VntClient.ControlMessage
import VntClient.Reconnect
import VntClient.ServerInbound

/-!
`server/transport/` and the task of one server, `data_handle_task_connected`: it serves a
connection until it fails or falls silent, rests, and registers again over a new one. What
the servers and the network do comes as events.
-/

namespace VntClient

open RustText (CaseMapping)

/-- What a stream gives next. Only a web socket says that it closes; other streams end. -/
inductive Reading
  | data (bytes : Bytes)
  | eof
  | failed
  | closed

-- `QuicTransport`, `TlsTcpTransport` and `WssTransport` alike, with a stream or without.
namespace Transport

def connect (framed : Bool) (established : Except String Unit) : Bool × Except String Unit :=
  if framed then (framed, .error "Already connected")
  else
    match established with
    | .ok _ => (true, .ok ())
    | .error message => (false, .error message)

def send (framed written : Bool) : Except String Unit :=
  if framed then if written then .ok () else .error "send to server failed"
  else .error "Not connected"

def next (closing : String) (framed : Bool) (reading : Reading) : Except String Bytes :=
  if framed then
    match reading with
    | .data bytes => .ok bytes
    | .eof => .error "EOF"
    | .failed => .error "receive from server failed"
    | .closed => .error closing
  else .error "Not connected"

end Transport

inductive TransportClient
  | quic (framed : Bool)
  | tlsTcp (framed : Bool)
  | wss (framed : Bool)
  | pending
deriving DecidableEq

namespace TransportClient

def framed : TransportClient → Bool
  | quic framed | tlsTcp framed | wss framed => framed
  | pending => false

def disconnect (_ : TransportClient) : TransportClient := pending

def opened (client : Bool → TransportClient) (connected : Bool × Except String Unit) :
    TransportClient × Except String Unit :=
  match connected.2 with
  | .ok _ => (client connected.1, .ok ())
  | .error message => (pending, .error message)

def connect (protocol : ProtocolType) (established : Except String Unit) :
    TransportClient → TransportClient × Except String Unit
  | quic framed => (Transport.connect framed established).map quic id
  | tlsTcp framed => (Transport.connect framed established).map tlsTcp id
  | wss framed => (Transport.connect framed established).map wss id
  | pending =>
      match protocol with
      | .quic => opened quic (Transport.connect false established)
      | .tlsTcp => opened tlsTcp (Transport.connect false established)
      | .wss => opened wss (Transport.connect false established)
      | .dynamic => (pending, .error "unreachable connect")

/-- `connect_timeout`, or `none` for the time that ran out. -/
def connectTimeout (protocol : ProtocolType) (established : Option (Except String Unit))
    (client : TransportClient) : TransportClient × Except String Unit :=
  match established with
  | none => (client, .error "timeout")
  | some established => client.connect protocol established

def send (client : TransportClient) (written : Bool) : Except String Unit :=
  match client with
  | quic framed | tlsTcp framed | wss framed => Transport.send framed written
  | pending => .error "Not connected"

def next (client : TransportClient) (reading : Reading) : Except String Bytes :=
  match client with
  | quic framed | tlsTcp framed => Transport.next "EOF" framed reading
  | wss framed => Transport.next "Disconnected" framed reading
  | pending => .error "Not connected"

def nextTimeout (client : TransportClient) (reading : Option Reading) : Except String Bytes :=
  match reading with
  | none => .error "timeout"
  | some reading => client.next reading

variable {client : TransportClient}

/-- A transport that has not connected yet either does or is not kept. -/
theorem connectTimeout_pending {protocol : ProtocolType} (known : protocol ≠ .dynamic)
    (established : Option (Except String Unit)) :
    (∃ client message, pending.connectTimeout protocol established = (client, .error message) ∧
      client = pending) ∨
    ∃ client, pending.connectTimeout protocol established = (client, .ok ()) ∧
      client.framed = true := by
  cases established with
  | none => exact .inl ⟨_, _, rfl, rfl⟩
  | some established =>
      cases established with
      | error message =>
          cases protocol with
          | dynamic => exact absurd rfl known
          | quic | tlsTcp | wss => exact .inl ⟨_, _, rfl, rfl⟩
      | ok value =>
          cases protocol with
          | dynamic => exact absurd rfl known
          | quic | tlsTcp | wss => exact .inr ⟨_, rfl, rfl⟩

theorem send_framed (connected : client.framed = true) (written : Bool) :
    client.send written = if written then .ok () else .error "send to server failed" := by
  cases client with
  | pending => cases connected
  | quic framed | tlsTcp framed | wss framed =>
      cases connected
      rfl

/-- What ends a connection that is read from. -/
def readErrors : List String := ["EOF", "receive from server failed", "Disconnected"]

theorem next_framed (connected : client.framed = true) (reading : Reading) :
    (∃ bytes, reading = .data bytes ∧ client.next reading = .ok bytes) ∨
      ∃ message ∈ readErrors, client.next reading = .error message := by
  cases client with
  | pending => cases connected
  | quic framed | tlsTcp framed | wss framed =>
      cases connected
      cases reading with
      | data bytes => exact .inl ⟨bytes, rfl, rfl⟩
      | eof | failed | closed => exact .inr ⟨_, by simp [readErrors], rfl⟩

end TransportClient

/-- The schemes of a TXT record, in the order they are tried. -/
def txtSchemes : List (String × ProtocolType) :=
  [("udp://", .quic), ("quic://", .quic), ("tcp://", .tlsTcp), ("ws://", .tlsTcp),
    ("wss://", .tlsTcp)]

/-- The transport and the host of a TXT record. -/
def serverOfTxt (record : List Char) : ProtocolType × String :=
  (txtSchemes.findSome? fun scheme =>
    (record.dropPrefix? scheme.1.toList).map fun host => (scheme.2, String.ofList host)).getD
      (.tlsTcp, String.ofList record)

/-- The part of `to_connect_config` that picks a transport and a host. For a dynamic address
`txt` is the record drawn among those that were found. -/
def ProtocolAddress.resolve (mapping : CaseMapping) (address : ProtocolAddress)
    (txt : Except String (Option String)) : Except String (ProtocolType × String) :=
  if address.protocolType = .dynamic then
    match txt with
    | .error message => .error message
    | .ok none => .error "DNS query failed"
    | .ok (some record) => .ok (serverOfTxt (mapping.toLowercase record.toList))
  else .ok (address.protocolType, address.address)

theorem txtSchemes_known : ∀ scheme ∈ txtSchemes, scheme.2 ≠ .dynamic := by decide

theorem serverOfTxt_known (record : List Char) : (serverOfTxt record).1 ≠ .dynamic := by
  rw [serverOfTxt]
  cases found : txtSchemes.findSome? fun scheme =>
    (record.dropPrefix? scheme.1.toList).map fun host => (scheme.2, String.ofList host) with
  | none => simp
  | some server =>
      obtain ⟨scheme, member, picked⟩ := List.exists_of_findSome?_eq_some found
      obtain ⟨host, _, rfl⟩ := Option.map_eq_some_iff.mp picked
      exact txtSchemes_known scheme member

theorem ProtocolAddress.resolve_known {mapping : CaseMapping} {address : ProtocolAddress}
    {txt : Except String (Option String)} {server : ProtocolType × String}
    (resolved : address.resolve mapping txt = .ok server) : server.1 ≠ .dynamic := by
  unfold ProtocolAddress.resolve at resolved
  split at resolved
  · cases txt with
    | error message => cases resolved
    | ok record =>
        cases record with
        | none => cases resolved
        | some record =>
            cases resolved
            exact serverOfTxt_known _
  · rename_i other
    cases resolved
    exact other

/-- What the outside does for one `connect_and_reg`: the record drawn, the host looked up, the
connection made, the request written and the answer read. Both waits may run out. -/
structure Attempt where
  txt : Except String (Option String)
  host : Except String Unit
  established : Option (Except String Unit)
  written : Bool
  answer : Option Reading

/-- The task of one server, of which `network` is the address it was registered with. -/
structure ServerTask where
  manager : ServerTurnManager
  serverAddr : ProtocolAddress
  mapping : CaseMapping
  node : NodeConfig
  network : NetworkAddr

namespace ServerTask

def request (task : ServerTask) (mode : RegistrationMode) : RegRequestMsg :=
  task.manager.config.regMsgRequest task.manager.serverId mode

-- A response is never read with a panic.
def readResponse (buf : Bytes) : Except String ResponseMessage :=
  match ResponseMessage.fromSlice buf with
  | .ok response => .ok response
  | .err message => .error message
  | .panic => .error ""

def connectAndReg (task : ServerTask) (mode : RegistrationMode) (attempt : Attempt)
    (transport : TransportClient) :
    TransportClient × List RegRequestMsg × Except String ResponseMessage :=
  match task.serverAddr.resolve task.mapping attempt.txt, attempt.host with
  | .error message, _ => (transport, [], .error message)
  | .ok _, .error message => (transport, [], .error message)
  | .ok server, .ok _ =>
      match transport.connectTimeout server.1 attempt.established with
      | (transport, .error message) => (transport, [], .error message)
      | (transport, .ok _) =>
          match transport.send attempt.written with
          | .error message => (transport, [], .error message)
          | .ok _ =>
              match (transport.nextTimeout attempt.answer).bind readResponse with
              | .error message => (transport, [task.request mode], .error message)
              | .ok (.reg reg) => (transport, [task.request mode], .ok (.reg reg))
              | .ok response => (transport.disconnect, [task.request mode], .ok response)

variable (task : ServerTask) (mode : RegistrationMode) (attempt : Attempt)

/-- No request and no answer, or one request and what came of it. -/
theorem connectAndReg_requests (transport : TransportClient) :
    (∃ message, (task.connectAndReg mode attempt transport).2 = ([], .error message)) ∨
      (task.connectAndReg mode attempt transport).2.1 = [task.request mode] := by
  rw [connectAndReg]
  split
  · exact .inl ⟨_, rfl⟩
  · exact .inl ⟨_, rfl⟩
  · split
    · exact .inl ⟨_, rfl⟩
    · split
      · exact .inl ⟨_, rfl⟩
      · split
        · exact .inr rfl
        · exact .inr rfl
        · exact .inr rfl

/-- A registered connection is one. -/
theorem connectAndReg_framed {reg : RegResponseMsg}
    (registered : (task.connectAndReg mode attempt .pending).2.2 = .ok (.reg reg)) :
    (task.connectAndReg mode attempt .pending).1.framed = true := by
  rw [connectAndReg] at registered ⊢
  split at registered
  · cases registered
  · cases registered
  · rename_i server _ resolved _
    have known := ProtocolAddress.resolve_known resolved
    split at registered
    · cases registered
    · rename_i transport _ connecting
      obtain ⟨client, message, failed, _⟩ | ⟨client, connected, framed⟩ :=
        TransportClient.connectTimeout_pending known attempt.established
      · rw [failed] at connecting
        cases connecting
      · rw [connected] at connecting
        cases connecting
        split at registered
        · cases registered
        · split at registered
          · cases registered
          · exact framed
          · rename_i other _
            cases registered
            exact absurd rfl (other reg)

end ServerTask

/-- A connection that is served since it was last heard at `time`, or what comes between two. -/
inductive Phase
  | looping (time : Int)
  | sleeping
  | connecting
  | stopped
  | aborted
deriving DecidableEq

/-- What the task keeps in the `ServerNodeInfo` of its server. -/
structure LinkInfo where
  connected : Bool
  serverVersion : Option String
  lastConnectedTime : Option Int
  disconnectedTime : Option Int

namespace LinkInfo

def handleConnected (info : LinkInfo) (now : Int) : LinkInfo :=
  { info with connected := true, lastConnectedTime := some now, disconnectedTime := none }

def handleDisconnected (info : LinkInfo) (now : Int) : LinkInfo :=
  if info.connected then { info with connected := false, disconnectedTime := some now }
  else { info with connected := false }

def setServerVersion (info : LinkInfo) (version : String) : LinkInfo :=
  if version.isEmpty then info else { info with serverVersion := some version }

/-- Disconnected exactly when the time of it is known, and connected before. -/
def Lawful (info : LinkInfo) : Prop :=
  (info.connected = true ↔ info.disconnectedTime = none) ∧ info.lastConnectedTime ≠ none

theorem lawful_handleConnected (info : LinkInfo) (now : Int) : (info.handleConnected now).Lawful :=
  ⟨iff_of_true rfl rfl, Option.some_ne_none now⟩

theorem lawful_handleDisconnected {info : LinkInfo} (lawful : info.Lawful) (now : Int) :
    (info.handleDisconnected now).Lawful := by
  rw [handleDisconnected]
  cases connected : info.connected with
  | true => exact ⟨iff_of_false Bool.false_ne_true (Option.some_ne_none now), lawful.2⟩
  | false =>
      refine ⟨iff_of_false Bool.false_ne_true fun none => ?_, lawful.2⟩
      exact Bool.false_ne_true (connected.symm.trans (lawful.1.mpr none))

theorem connected_handleDisconnected (info : LinkInfo) (now : Int) :
    (info.handleDisconnected now).connected = false := by
  rw [handleDisconnected]
  split
  · rfl
  · rfl

end LinkInfo

/-- A packet in the channel, with the time after which it is no longer sent. -/
structure QueuedPacket where
  buf : Bytes
  expired : Instant
deriving DecidableEq

structure ServerLink where
  transport : TransportClient
  phase : Phase
  info : LinkInfo
  queue : List QueuedPacket

inductive LinkEvent
  | queue (packet : QueuedPacket)
  | recv (now : Instant) (written : Bool)
  | next (clock : Clock) (reading : Reading) (state : NodeState)
  | tick (now : Int) (dataVersion : UInt64) (written : Bool)
  | wake (now : Int)
  | attempt (attempt : Attempt) (now : Int)
  | abort

inductive LinkNote
  | queued (packet : QueuedPacket)
  | refused (packet : QueuedPacket)
  | sent (now : Instant) (packet : QueuedPacket)
  | expired (now : Instant) (packet : QueuedPacket)
  | lost (packet : QueuedPacket)
  | dropped (packet : QueuedPacket)
  | heard (now : Int)
  | handled (effects : List Effect)
  | pinged (now : Int) (packet : NetPacket)
  | requested (request : RegRequestMsg)
  | connected (now : Int)
  | failed (message : String)
  | attemptFailed (message : String)
  | stopped
  | aborted

/-- The payload of a ping to the server: the time, and the version of the list of clients. -/
def pingPayload (now : Int) (dataVersion : UInt64) : Bytes :=
  toBeBytes64 now ++ toBeBytes64 dataVersion.toBitVec.toInt

/-- The packet of `handle_ping`. -/
def pingTurn (now : Int) (dataVersion : UInt64) : NetPacket :=
  let packet := (NetPacket.zeroed 16).setTtl 1
  ⟨((packet.setMsgType .pingTurn).setGatewayFlag true).header, pingPayload now dataVersion⟩

/-- The channel that `create_server_tunnel` makes for each server. -/
def linkCapacity : Nat := 1024

/-- A connection that was silent for longer than this is given up at the next tick. -/
def silenceLimit : Int := 20000

namespace ServerLink

/-- `data_handle_task_connected` begins with the connection of the registration. -/
def start (transport : TransportClient) (now : Int) (info : LinkInfo) : ServerLink :=
  ⟨transport, .looping now, info.handleConnected now, []⟩

def fail (link : ServerLink) (message : String) : ServerLink × List LinkNote :=
  ({ link with phase := .sleeping }, [.failed message])

/-- The receiver goes with its task, and what it holds with it. -/
def drain (link : ServerLink) : List LinkNote := link.queue.map .dropped

/-- The end of the task's own loop, which ends the other tasks as well. -/
def stop (link : ServerLink) (now : Int) : ServerLink × List LinkNote :=
  ({ link with
      transport := link.transport.disconnect
      phase := .stopped
      info := link.info.handleDisconnected now
      queue := [] }, link.drain ++ [.stopped])

def abort (link : ServerLink) : ServerLink × List LinkNote :=
  ({ link with phase := .aborted, queue := [] }, link.drain ++ [.aborted])

def ended (link : ServerLink) : Bool := link.phase = .stopped || link.phase = .aborted

/-- The senders have the other end of the channel, which is closed when the task is over. -/
def enqueue (link : ServerLink) (packet : QueuedPacket) : ServerLink × List LinkNote :=
  if !link.ended && decide (link.queue.length < linkCapacity) then
    ({ link with queue := link.queue ++ [packet] }, [.queued packet])
  else (link, [.refused packet])

def recv (link : ServerLink) (now : Instant) (written : Bool) : ServerLink × List LinkNote :=
  match link.queue with
  | [] => (link, [])
  | packet :: rest =>
      let link := { link with queue := rest }
      if packet.expired < now then (link, [.expired now packet])
      else
        match link.transport.send written with
        | .ok _ => (link, [.sent now packet])
        | .error message => ((link.fail message).1, .lost packet :: (link.fail message).2)

def next (task : ServerTask) (link : ServerLink) (clock : Clock) (reading : Reading)
    (state : NodeState) : ServerLink × List LinkNote :=
  match link.transport.next reading with
  | .error message => link.fail message
  | .ok data =>
      let handled :=
        ServerTurnInboundHandler.handle task.node clock (some task.network) state data
      let notes := [.heard clock.ms, .handled handled.effects]
      match handled.outcome with
      -- A panic of the handler is one of the task.
      | .panic => (link.abort.1, notes ++ link.abort.2)
      | _ => ({ link with phase := .looping clock.ms }, notes)

def tick (link : ServerLink) (time now : Int) (dataVersion : UInt64) (written : Bool) :
    ServerLink × List LinkNote :=
  if time + silenceLimit < now then link.fail "timeout"
  else
    match link.transport.send written with
    | .ok _ => (link, [.pinged now (pingTurn now dataVersion)])
    | .error message => link.fail message

/-- The top of the loop once a connection was lost or not made. -/
def wake (link : ServerLink) (now : Int) : ServerLink :=
  { link with
    transport := link.transport.disconnect
    phase := .connecting
    info := link.info.handleDisconnected now }

def reconnect (task : ServerTask) (link : ServerLink) (attempt : Attempt) (now : Int) :
    ServerLink × List LinkNote :=
  let registered := task.connectAndReg .normal attempt link.transport
  let link := { link with transport := registered.1 }
  let requests := registered.2.1.map .requested
  match registered.2.2 with
  | .error message => ({ link with phase := .sleeping }, requests ++ [.attemptFailed message])
  | .ok (.reg reg) =>
      if reg.unchanged task.network then
        ({ link with
            phase := .looping now
            info := (link.info.setServerVersion reg.serverVersion).handleConnected now },
          requests ++ [.connected now])
      else ((link.stop now).1, requests ++ (link.stop now).2)
  | .ok _ => ((link.stop now).1, requests ++ (link.stop now).2)

def step (task : ServerTask) (link : ServerLink) : LinkEvent → ServerLink × List LinkNote
  | .queue packet => link.enqueue packet
  | .recv now written =>
      match link.phase with
      | .looping _ => link.recv now written
      | _ => (link, [])
  | .next clock reading state =>
      match link.phase with
      | .looping _ => link.next task clock reading state
      | _ => (link, [])
  | .tick now dataVersion written =>
      match link.phase with
      | .looping time => link.tick time now dataVersion written
      | _ => (link, [])
  | .wake now => if link.phase = .sleeping then (link.wake now, []) else (link, [])
  | .attempt attempt now =>
      if link.phase = .connecting then link.reconnect task attempt now else (link, [])
  | .abort => if link.ended then (link, []) else link.abort

end ServerLink

namespace LinkNote

/-- When the connection that the notes tell of was last heard, if there is one. -/
def hear (time : Option Int) : LinkNote → Option Int
  | connected now | heard now => some now
  | failed _ | stopped | aborted => none
  | _ => time

def lastHeard (notes : List LinkNote) : Option Int := notes.foldl hear none

/-- The packets taken from the channel, one way or another. -/
def settled : LinkNote → Option QueuedPacket
  | sent _ packet | expired _ packet | lost packet | dropped packet => some packet
  | _ => none

def entered : LinkNote → Option QueuedPacket
  | queued packet => some packet
  | _ => none

def loopErrors : List String := "timeout" :: "send to server failed" :: TransportClient.readErrors

/-- What comes before each note: nothing but registrations goes over a connection that is not
registered, no packet is sent late, none is pinged that was silent, and every connection
follows on its own registration. -/
def Fits (task : ServerTask) (before : List LinkNote) : LinkNote → Prop
  | sent now packet => lastHeard before ≠ none ∧ now ≤ packet.expired
  | expired now packet => lastHeard before ≠ none ∧ packet.expired < now
  | lost _ | heard _ | handled _ => lastHeard before ≠ none
  | pinged now _ => ∃ time, lastHeard before = some time ∧ now ≤ time + silenceLimit
  | failed message => lastHeard before ≠ none ∧ message ∈ loopErrors
  | requested request => lastHeard before = none ∧ request = task.request .normal
  | connected _ => lastHeard before = none ∧
      (before = [] ∨ ∃ earlier, before = earlier ++ [requested (task.request .normal)])
  | attemptFailed _ => lastHeard before = none
  | queued _ | refused _ | dropped _ | stopped | aborted => True

@[simp] theorem lastHeard_concat (notes : List LinkNote) (note : LinkNote) :
    lastHeard (notes ++ [note]) = hear (lastHeard notes) note := List.foldl_concat ..

/-- Every packet that entered the channel left it in its turn or is still there. -/
def Accounts (notes : List LinkNote) (queue : List QueuedPacket) : Prop :=
  notes.filterMap settled ++ queue = notes.filterMap entered

section Accounts
variable {notes : List LinkNote} {queue : List QueuedPacket} {note : LinkNote}

theorem Accounts.quiet (accounts : Accounts notes queue) (settles : settled note = none)
    (enters : entered note = none) : Accounts (notes ++ [note]) queue := by
  simpa [Accounts, List.filterMap_append, List.filterMap_cons, settles, enters] using accounts

theorem Accounts.enter (accounts : Accounts notes queue) (packet : QueuedPacket) :
    Accounts (notes ++ [queued packet]) (queue ++ [packet]) := by
  rw [Accounts] at accounts
  simp [Accounts, List.filterMap_append, List.filterMap_cons, settled, entered, ← accounts]

theorem Accounts.settle {packet : QueuedPacket} (accounts : Accounts notes (packet :: queue))
    (settles : settled note = some packet) (enters : entered note = none) :
    Accounts (notes ++ [note]) queue := by
  simpa [Accounts, List.filterMap_append, List.filterMap_cons, settles, enters] using accounts

end Accounts

end LinkNote

namespace ServerLink
open LinkNote

/-- The phase tells what the transport is and what others see, and agrees with the notes. -/
def PhaseLawful (link : ServerLink) (notes : List LinkNote) : Prop :=
  match link.phase with
  | .looping time => link.transport.framed = true ∧ link.info.connected = true ∧
      lastHeard notes = some time
  | .connecting | .stopped => link.transport = .pending ∧ link.info.connected = false ∧
      lastHeard notes = none
  | .sleeping | .aborted => lastHeard notes = none

structure Lawful (link : ServerLink) (notes : List LinkNote) : Prop where
  phase : link.PhaseLawful notes
  info : link.info.Lawful
  bounded : link.queue.length ≤ linkCapacity
  drained : link.ended = true → link.queue = []
  accounts : Accounts notes link.queue

/-- What a step leaves behind, after what was noted before it. -/
def Kept (task : ServerTask) (notes : List LinkNote) (result : ServerLink × List LinkNote) : Prop :=
  Lawful result.1 (notes ++ result.2) ∧ Chronicle (Fits task) (notes ++ result.2)

variable {task : ServerTask} {link : ServerLink} {notes : List LinkNote}

theorem Kept.unmoved (lawful : link.Lawful notes) (chronicle : Chronicle (Fits task) notes) :
    Kept task notes (link, []) := by
  rw [Kept, List.append_nil]
  exact ⟨lawful, chronicle⟩

theorem looping_ended {time : Int} (looping : link.phase = .looping time) :
    link.ended = false := by
  simp [ended, looping]

theorem Lawful.looping {time : Int} (lawful : link.Lawful notes)
    (looping : link.phase = .looping time) : link.transport.framed = true ∧
      link.info.connected = true ∧ lastHeard notes = some time := by
  have phase := lawful.phase
  rwa [PhaseLawful, looping] at phase

theorem Lawful.connecting (lawful : link.Lawful notes) (connecting : link.phase = .connecting) :
    link.transport = .pending ∧ link.info.connected = false ∧ lastHeard notes = none := by
  have phase := lawful.phase
  rwa [PhaseLawful, connecting] at phase

theorem start_kept (transport : TransportClient) (framed : transport.framed = true) (now : Int)
    (info : LinkInfo) : Kept task [] (start transport now info, [.connected now]) := by
  refine ⟨⟨⟨framed, rfl, rfl⟩, LinkInfo.lawful_handleConnected info now, Nat.zero_le _,
    fun _ => rfl, rfl⟩, ?_⟩
  exact Chronicle.nil.add ⟨rfl, .inl rfl⟩

theorem fail_kept (lawful : link.Lawful notes) (chronicle : Chronicle (Fits task) notes)
    {time : Int} (looping : link.phase = .looping time) {message : String}
    (known : message ∈ loopErrors) : Kept task notes (link.fail message) := by
  have heard := (lawful.looping looping).2.2
  refine ⟨⟨?_, lawful.info, lawful.bounded, fun ended => ?_, ?_⟩,
    chronicle.add ⟨by simp [heard], known⟩⟩
  · exact lastHeard_concat notes _
  · cases ended
  · exact lawful.accounts.quiet rfl rfl

theorem drain_fits (link : ServerLink) (chronicle : Chronicle (Fits task) notes) :
    Chronicle (Fits task) (notes ++ link.drain) := by
  apply chronicle.append
  intro before note member
  obtain ⟨packet, _, rfl⟩ := List.mem_map.mp member
  trivial

theorem accounts_drop (packets : List QueuedPacket) {notes : List LinkNote}
    (accounts : Accounts notes packets) : Accounts (notes ++ packets.map dropped) [] := by
  induction packets generalizing notes with
  | nil => simpa using accounts
  | cons packet rest ih =>
      have settled : Accounts (notes ++ [dropped packet]) rest := accounts.settle rfl rfl
      simpa using ih settled

theorem stop_kept (info : link.info.Lawful) (accounts : Accounts notes link.queue)
    (chronicle : Chronicle (Fits task) notes) (now : Int) : Kept task notes (link.stop now) := by
  refine ⟨⟨⟨rfl, LinkInfo.connected_handleDisconnected _ now, ?_⟩,
    LinkInfo.lawful_handleDisconnected info now, Nat.zero_le _, fun _ => rfl, ?_⟩, ?_⟩
  · rw [stop, ← List.append_assoc, lastHeard_concat]
    rfl
  · rw [stop, ← List.append_assoc]
    exact (accounts_drop _ accounts).quiet rfl rfl
  · rw [stop, ← List.append_assoc]
    exact (link.drain_fits chronicle).add trivial

theorem abort_kept (lawful : link.Lawful notes) (chronicle : Chronicle (Fits task) notes) :
    Kept task notes link.abort := by
  refine ⟨⟨?_, lawful.info, Nat.zero_le _, fun _ => rfl, ?_⟩, ?_⟩
  · rw [PhaseLawful, abort, ← List.append_assoc, lastHeard_concat]
    rfl
  · rw [abort, ← List.append_assoc]
    exact (accounts_drop _ lawful.accounts).quiet rfl rfl
  · rw [abort, ← List.append_assoc]
    exact (link.drain_fits chronicle).add trivial

theorem PhaseLawful.quiet (lawful : link.PhaseLawful notes) {note : LinkNote}
    (quiet : hear (lastHeard notes) note = lastHeard notes) : link.PhaseLawful (notes ++ [note]) := by
  simpa only [PhaseLawful, lastHeard_concat, quiet] using lawful

theorem enqueue_kept (lawful : link.Lawful notes) (chronicle : Chronicle (Fits task) notes)
    (packet : QueuedPacket) : Kept task notes (link.enqueue packet) := by
  rw [enqueue]
  split
  · rename_i open_
    simp only [Bool.and_eq_true, Bool.not_eq_true', decide_eq_true_eq] at open_
    refine ⟨⟨lawful.phase.quiet rfl, lawful.info, ?_, fun ended => ?_,
      lawful.accounts.enter packet⟩, chronicle.add trivial⟩
    · simpa [Nat.succ_le_iff] using open_.2
    · exact absurd (open_.1.symm.trans ended) Bool.false_ne_true
  · exact ⟨⟨lawful.phase.quiet rfl, lawful.info, lawful.bounded, lawful.drained,
      lawful.accounts.quiet rfl rfl⟩, chronicle.add trivial⟩

theorem recv_kept (lawful : link.Lawful notes) (chronicle : Chronicle (Fits task) notes)
    {time : Int} (looping : link.phase = .looping time) (now : Instant) (written : Bool) :
    Kept task notes (link.recv now written) := by
  obtain ⟨framed, connected, heard⟩ := lawful.looping looping
  have some_heard : lastHeard notes ≠ none := by simp [heard]
  have bounded := lawful.bounded
  have accounts := lawful.accounts
  rw [recv]
  cases queued : link.queue with
  | nil => exact Kept.unmoved lawful chronicle
  | cons packet rest =>
      rw [queued] at bounded accounts
      -- The link without the packet, whatever becomes of it.
      have taken : ∀ note, settled note = some packet → entered note = none →
          hear (some time) note = some time →
          Lawful { link with queue := rest } (notes ++ [note]) := by
        intro note settles enters quiet
        refine ⟨?_, lawful.info, (Nat.le_succ _).trans bounded, fun ended => ?_,
          accounts.settle settles enters⟩
        · simp only [PhaseLawful, looping, lastHeard_concat, heard, quiet]
          exact ⟨framed, connected, trivial⟩
        · exact absurd ((looping_ended looping).symm.trans ended) Bool.false_ne_true
      by_cases late : packet.expired < now
      · simp only [late, ↓reduceIte]
        exact ⟨taken _ rfl rfl rfl, chronicle.add ⟨some_heard, late⟩⟩
      · simp only [late, ↓reduceIte, TransportClient.send_framed framed]
        cases written with
        | true => exact ⟨taken _ rfl rfl rfl, chronicle.add ⟨some_heard, Nat.not_lt.mp late⟩⟩
        | false =>
            have lost := taken (.lost packet) rfl rfl rfl
            have known : "send to server failed" ∈ loopErrors := by simp [loopErrors]
            have failed := fail_kept lost (chronicle.add some_heard) looping known
            rwa [Kept, List.append_assoc] at failed

theorem serve_kept (lawful : link.Lawful notes) (chronicle : Chronicle (Fits task) notes)
    {time : Int} (looping : link.phase = .looping time) (now : Int) (effects : List Effect) :
    Kept task notes ({ link with phase := .looping now }, [.heard now, .handled effects]) := by
  obtain ⟨framed, connected, heard⟩ := lawful.looping looping
  have split : notes ++ [.heard now, .handled effects] =
      notes ++ [.heard now] ++ [.handled effects] := by simp
  refine ⟨?_, chronicle.add_two (by simp [Fits, heard]) (by simp [Fits, hear])⟩
  rw [split]
  refine ⟨⟨framed, connected, ?_⟩, lawful.info, lawful.bounded, fun ended => ?_,
    (lawful.accounts.quiet rfl rfl).quiet rfl rfl⟩
  · rw [lastHeard_concat, lastHeard_concat]
    rfl
  · cases ended

theorem next_kept (lawful : link.Lawful notes) (chronicle : Chronicle (Fits task) notes)
    {time : Int} (looping : link.phase = .looping time) (clock : Clock) (reading : Reading)
    (state : NodeState) : Kept task notes (link.next task clock reading state) := by
  obtain ⟨framed, connected, heard⟩ := lawful.looping looping
  rw [next]
  obtain ⟨data, rfl, read⟩ | ⟨message, known, failed⟩ :=
    TransportClient.next_framed framed reading
  · simp only [read]
    generalize ServerTurnInboundHandler.handle task.node clock (some task.network) state data =
      handled
    have served := serve_kept lawful chronicle looping clock.ms handled.effects
    split
    · have aborted := abort_kept served.1 served.2
      rwa [Kept, List.append_assoc] at aborted
    · exact served
  · rw [failed]
    exact fail_kept lawful chronicle looping (by simp [loopErrors, known])

theorem tick_kept (lawful : link.Lawful notes) (chronicle : Chronicle (Fits task) notes)
    {time : Int} (looping : link.phase = .looping time) (now : Int) (dataVersion : UInt64)
    (written : Bool) : Kept task notes (link.tick time now dataVersion written) := by
  obtain ⟨framed, connected, heard⟩ := lawful.looping looping
  rw [tick]
  by_cases silent : time + silenceLimit < now
  · rw [if_pos silent]
    exact fail_kept lawful chronicle looping List.mem_cons_self
  · rw [if_neg silent, TransportClient.send_framed framed]
    cases written with
    | false => exact fail_kept lawful chronicle looping (by simp [loopErrors])
    | true =>
        exact ⟨⟨lawful.phase.quiet rfl, lawful.info, lawful.bounded, lawful.drained,
          lawful.accounts.quiet rfl rfl⟩, chronicle.add ⟨time, heard, Int.not_lt.mp silent⟩⟩

theorem wake_kept (lawful : link.Lawful notes) (chronicle : Chronicle (Fits task) notes)
    (sleeping : link.phase = .sleeping) (now : Int) : Kept task notes (link.wake now, []) := by
  have heard : lastHeard notes = none := by
    have phase := lawful.phase
    rwa [PhaseLawful, sleeping] at phase
  apply Kept.unmoved _ chronicle
  exact ⟨⟨rfl, LinkInfo.connected_handleDisconnected _ now, heard⟩,
    LinkInfo.lawful_handleDisconnected lawful.info now, lawful.bounded, fun ended => (by cases ended),
    lawful.accounts⟩

theorem reconnect_kept (lawful : link.Lawful notes) (chronicle : Chronicle (Fits task) notes)
    (connecting : link.phase = .connecting) (attempt : Attempt) (now : Int) :
    Kept task notes (link.reconnect task attempt now) := by
  obtain ⟨pending, _, heard⟩ := lawful.connecting connecting
  have framed : ∀ reg, (task.connectAndReg .normal attempt link.transport).2.2 = .ok (.reg reg) →
      (task.connectAndReg .normal attempt link.transport).1.framed = true := by
    rw [pending]
    exact fun reg => task.connectAndReg_framed .normal attempt
  have shape := task.connectAndReg_requests .normal attempt link.transport
  rw [reconnect]
  generalize task.connectAndReg .normal attempt link.transport = registered at framed shape ⊢
  obtain ⟨transport, requests, answer⟩ := registered
  obtain ⟨message, same⟩ | same := shape
  · cases same
    refine ⟨⟨?_, lawful.info, lawful.bounded, fun ended => (by cases ended),
      lawful.accounts.quiet rfl rfl⟩, chronicle.add heard⟩
    exact (lastHeard_concat notes _).trans heard
  · cases same
    have fits : Chronicle (Fits task) (notes ++ [.requested (task.request .normal)]) :=
      chronicle.add ⟨heard, rfl⟩
    have silent : lastHeard (notes ++ [.requested (task.request .normal)]) = none :=
      (lastHeard_concat notes _).trans heard
    have accounts : Accounts (notes ++ [.requested (task.request .normal)]) link.queue :=
      lawful.accounts.quiet rfl rfl
    have stopped : Kept task (notes ++ [.requested (task.request .normal)])
        ({ link with transport }.stop now) := stop_kept lawful.info accounts fits now
    rw [Kept, List.append_assoc] at stopped
    cases answer with
    | error message =>
        rw [Kept, List.map_singleton, ← List.append_assoc]
        refine ⟨⟨?_, lawful.info, lawful.bounded, fun ended => (by cases ended),
          accounts.quiet rfl rfl⟩, fits.add silent⟩
        exact (lastHeard_concat _ _).trans silent
    | ok response =>
        cases response with
        | error | confirmReg => exact stopped
        | reg reg =>
            by_cases same : reg.unchanged task.network
            · simp only [same, ↓reduceIte, List.map_singleton]
              rw [Kept, ← List.append_assoc]
              refine ⟨⟨⟨framed reg rfl, rfl, lastHeard_concat _ _⟩,
                LinkInfo.lawful_handleConnected _ now, lawful.bounded, fun ended => (by cases ended),
                accounts.quiet rfl rfl⟩, fits.add ⟨silent, .inr ⟨notes, rfl⟩⟩⟩
            · simp only [same]
              exact stopped

theorem step_kept (lawful : link.Lawful notes) (chronicle : Chronicle (Fits task) notes)
    (event : LinkEvent) : Kept task notes (link.step task event) := by
  have unmoved := Kept.unmoved lawful chronicle
  cases event with
  | queue packet => exact enqueue_kept lawful chronicle packet
  | recv now written =>
      rw [step]
      split
      · rename_i looping
        exact recv_kept lawful chronicle looping now written
      · exact unmoved
  | next clock reading state =>
      rw [step]
      split
      · rename_i looping
        exact next_kept lawful chronicle looping clock reading state
      · exact unmoved
  | tick now dataVersion written =>
      rw [step]
      split
      · rename_i looping
        exact tick_kept lawful chronicle looping now dataVersion written
      · exact unmoved
  | wake now =>
      rw [step]
      split
      · rename_i sleeping
        exact wake_kept lawful chronicle sleeping now
      · exact unmoved
  | attempt attempt now =>
      rw [step]
      split
      · rename_i connecting
        exact reconnect_kept lawful chronicle connecting attempt now
      · exact unmoved
  | abort =>
      rw [step]
      split
      · exact unmoved
      · exact abort_kept lawful chronicle

/-- The task of a server over any run: the channel is served in order, every packet once and
none after its time; only registered connections are used and no silent one is kept. -/
theorem run_kept (task : ServerTask) (transport : TransportClient)
    (framed : transport.framed = true) (now : Int) (info : LinkInfo) (events : List LinkEvent) :
    Lawful (Machine.run (step task) (start transport now info) events).1
        (.connected now :: (Machine.run (step task) (start transport now info) events).2) ∧
      Chronicle (Fits task)
        (.connected now :: (Machine.run (step task) (start transport now info) events).2) := by
  have begun : Kept task [] (start transport now info, [.connected now]) :=
    start_kept transport framed now info
  exact Chronicle.run Lawful (fun link notes event lawful chronicle =>
    step_kept lawful chronicle event) begun.1 begun.2 events

end ServerLink
end VntClient
