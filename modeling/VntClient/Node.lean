import VntClient.Machine
import VntClient.P2pInbound
import VntClient.ServerInbound

/-!
A node with its two ways in. Both handlers work on one decoder and one route
table, so a run of the node mixes their calls.
-/

namespace VntClient

/-- Where a packet comes in: over a socket of the tunnel, or from the server
connection whose handler was made with an address. -/
inductive Entrance where
  | p2p (routeKey : RouteKey)
  | server (networkAddr : Option NetworkAddr)
deriving DecidableEq

structure Incoming where
  clock : Clock
  entrance : Entrance
  data : Bytes

def Entrance.receive (config : NodeConfig) (clock : Clock) (entrance : Entrance)
    (state : NodeState) (data : Bytes) : Handled :=
  match entrance with
  | .p2p routeKey => P2pInboundHandler.nextHandle config clock routeKey state data
  | .server networkAddr => ServerTurnInboundHandler.handle config clock networkAddr state data

def NodeConfig.step (config : NodeConfig) (state : NodeState) (incoming : Incoming) :
    NodeState × List Effect :=
  let handled := incoming.entrance.receive config incoming.clock state incoming.data
  (handled.state, handled.effects)

/-- A node without password, compression or punching whose receiving ends take
everything. -/
def NodeConfig.plain (net : NetworkAddr) : NodeConfig where
  network := some net
  subnetRoutes := []
  packetCrypto := ⟨none⟩
  packetCompression := ⟨none⟩
  enhancedInbound := ⟨.tun ⟨[]⟩, none⟩
  defaultRtt := 0
  sinks := openSinks
  sends _ _ := true
  punchInfo := none
  parsesPunchInfo _ := false
  punch _ _ _ := .ok false
  punchUncheck _ _ _ := .ok ()
  parsesClientList _ := false
  parsesRpcResponse _ := false

theorem deliver_plain (net networkAddr : NetworkAddr) (clock : Clock) (msgType : MsgType)
    (src : Ipv4Addr) (state : NodeState) (packet : NetPacket) (nonempty : packet.payload ≠ []) :
    deliver (.plain net) clock networkAddr msgType src state packet =
      ⟨state, [.inbound msgType src packet], .ok ()⟩ := by
  have tun : ∃ output, TunDataInbound.send ⟨[]⟩ openSinks clock.now packet.payload networkAddr =
      .ok output := by
    obtain ⟨first, rest, shape⟩ := List.exists_cons_of_ne_nil nonempty
    simp only [TunDataInbound.send, index, shape, List.getElem?_cons_zero, Outcome.ok_bind,
      Outcome.pure_eq, openSinks, ↓reduceIte]
    repeat' split
    all_goals exact ⟨_, rfl⟩
  obtain ⟨output, sent⟩ := tun
  have done : ∃ output, EnhancedInbound.inbound ⟨.tun ⟨[]⟩, none⟩ openSinks clock.now networkAddr
      msgType src packet = .ok output := by
    cases msgType with
    | quic => exact ⟨_, rfl⟩
    | turn | broadcast | excludeBroadcast => exact ⟨output, sent⟩
    | _ => exact ⟨none, rfl⟩
  obtain ⟨output, inbound⟩ := done
  simp only [deliver, NodeConfig.plain, inbound, Outcome.bind]

namespace Handled

/-- Nothing leaves but what is allowed. -/
def Emits (allowed : Effect → Prop) (handled : Handled) : Prop :=
  ∀ effect ∈ handled.effects, allowed effect

variable {allowed : Effect → Prop}

theorem emits_done (state : NodeState) : Emits allowed (done state) := by
  intro effect member
  cases member

theorem emits_one {state : NodeState} {effect : Effect} {outcome : Outcome Unit}
    (here : allowed effect) : Emits allowed ⟨state, [effect], outcome⟩ := by
  intro other member
  rw [List.mem_singleton.mp member]
  exact here

theorem emits_attempt {α : Type} {state : NodeState} {outcome : Outcome α} {next : α → Handled}
    (later : ∀ value, outcome = .ok value → Emits allowed (next value)) :
    Emits allowed (attempt state outcome next) := by
  cases outcome with
  | ok value => exact later value rfl
  | err message => exact emits_done state
  | panic => exact emits_done state

theorem emits_forEach {process : NodeState → NetPacket → Handled}
    (each : ∀ state packet, Emits allowed (process state packet)) (packets : List NetPacket)
    (state : NodeState) : Emits allowed (forEach process state packets) := by
  induction packets generalizing state with
  | nil => exact emits_done state
  | cons packet rest ih =>
      simp only [forEach]
      split
      · intro effect member
        rcases List.mem_append.mp member with here | later
        · exact each state packet effect here
        · exact ih _ effect later
      · exact each state packet

end Handled

section Emits
variable {config : NodeConfig} {clock : Clock} {allowed : Effect → Prop}
  {process : NodeState → NetPacket → Handled}

theorem emits_handleFec (each : ∀ state packet, (process state packet).Emits allowed)
    (state : NodeState) (packet : NetPacket) :
    (handleFec clock process state packet).Emits allowed :=
  Handled.emits_attempt fun packets _ => Handled.emits_forEach each packets _

theorem emits_decompressed (each : ∀ state packet, (process state packet).Emits allowed)
    (state : NodeState) (packet : NetPacket) :
    (decompressed config process state packet).Emits allowed :=
  Handled.emits_attempt fun packet _ => each state packet

theorem emits_handleOpened (each : ∀ state packet, (process state packet).Emits allowed)
    (state : NodeState) (packet : NetPacket) :
    (handleOpened config clock process state packet).Emits allowed := by
  unfold handleOpened
  split
  · exact emits_handleFec (emits_decompressed each) state packet
  · exact emits_decompressed each state packet

theorem emits_handleQuic (net : NetworkAddr) (src : Ipv4Addr)
    (quic : ∀ packet, allowed (.inbound .quic src packet)) (state : NodeState)
    (packet : NetPacket) : (handleQuic config clock net src state packet).Emits allowed := by
  unfold handleQuic
  split
  · exact emits_handleFec (fun _ packet => Handled.emits_one (quic packet)) state packet
  · exact Handled.emits_one (quic packet)

end Emits

namespace P2pInboundHandler
variable {config : NodeConfig} {clock : Clock} {routeKey : RouteKey} {allowed : Effect → Prop}

-- Handled here, a packet is delivered, counted or answered on the route it came from.
theorem processDecompressedPacket_emits (net : NetworkAddr) (ctx : PacketContext)
    (inbound : ∀ msgType src packet, allowed (.inbound msgType src packet))
    (counted : ∀ ip, allowed (.recordReceived ip))
    (replies : ∀ msgType payload packet,
      controlPacket 8 msgType 1 ctx.destIp ctx.srcIp payload = .ok packet →
        allowed (.sendTo routeKey.addr (config.packetCrypto.encryptInPlace packet)))
    (state : NodeState) (packet : NetPacket) :
    (processDecompressedPacket config clock net routeKey ctx state packet).Emits allowed := by
  have answered : ∀ msgType state payload,
      (reply config clock routeKey ctx msgType state payload).Emits allowed :=
    fun msgType state payload => Handled.emits_attempt fun packet made =>
      Handled.emits_one (replies msgType payload packet made)
  unfold processDecompressedPacket
  cases ctx.msgType with
  | turn | broadcast | excludeBroadcast => exact Handled.emits_one (inbound _ _ _)
  | ping => exact answered .pong _ _
  | pong =>
      simp only
      split
      · split
        · exact Handled.emits_one (counted _)
        · exact Handled.emits_done state
      · exact Handled.emits_done state
  | punchReq =>
      simp only
      split
      · exact Handled.emits_done state
      · exact answered .punchRes _ _
  | punchRes =>
      simp only
      split <;> exact Handled.emits_done _
  | _ => exact Handled.emits_done state

theorem handleLocal_emits (net : NetworkAddr) (ctx : PacketContext)
    (inbound : ∀ msgType src packet, allowed (.inbound msgType src packet))
    (counted : ∀ ip, allowed (.recordReceived ip))
    (replies : ∀ msgType payload packet,
      controlPacket 8 msgType 1 ctx.destIp ctx.srcIp payload = .ok packet →
        allowed (.sendTo routeKey.addr (config.packetCrypto.encryptInPlace packet)))
    (state : NodeState) (packet : NetPacket) :
    (handleLocal config clock routeKey net ctx state packet).Emits allowed := by
  unfold handleLocal
  split
  · exact emits_handleQuic net ctx.srcIp (fun _ => inbound _ _ _) state packet
  · apply Handled.emits_attempt
    intro opened _
    exact emits_handleOpened
      (processDecompressedPacket_emits net ctx inbound counted replies) state opened

end P2pInboundHandler

def Handled.Tabled (holds : RouteTable → Prop) (handled : Handled) : Prop :=
  holds handled.state.routeTable

section Tabled
variable {config : NodeConfig} {clock : Clock} {holds : RouteTable → Prop}
  {process : NodeState → NetPacket → Handled}

theorem tabled_attempt {α : Type} {state : NodeState} {outcome : Outcome α} {next : α → Handled}
    (here : holds state.routeTable) (later : ∀ value, (next value).Tabled holds) :
    (Handled.attempt state outcome next).Tabled holds := by
  cases outcome with
  | ok value => exact later value
  | err message => exact here
  | panic => exact here

theorem tabled_forEach
    (each : ∀ state packet, holds state.routeTable → (process state packet).Tabled holds)
    (packets : List NetPacket) (state : NodeState) (here : holds state.routeTable) :
    (Handled.forEach process state packets).Tabled holds := by
  induction packets generalizing state with
  | nil => exact here
  | cons packet rest ih =>
      simp only [Handled.forEach]
      split
      · exact ih _ (each state packet here)
      · exact each state packet here

theorem tabled_handleFec
    (each : ∀ state packet, holds state.routeTable → (process state packet).Tabled holds)
    (state : NodeState) (packet : NetPacket) (here : holds state.routeTable) :
    (handleFec clock process state packet).Tabled holds :=
  tabled_attempt here fun packets => tabled_forEach each packets _ here

theorem tabled_handleOpened
    (each : ∀ state packet, holds state.routeTable → (process state packet).Tabled holds)
    (state : NodeState) (packet : NetPacket) (here : holds state.routeTable) :
    (handleOpened config clock process state packet).Tabled holds := by
  have plain : ∀ state packet, holds state.routeTable →
      (decompressed config process state packet).Tabled holds :=
    fun state packet here => tabled_attempt here fun packet => each state packet here
  unfold handleOpened
  split
  · exact tabled_handleFec plain state packet here
  · exact plain state packet here

end Tabled

theorem NetHeader.decrTtl_eq (header : NetHeader) :
    header.decrTtl = { header with ttlByte := header.decrTtl.ttlByte } := by
  unfold NetHeader.decrTtl
  by_cases spent : header.currTtl = 0 <;> simp [spent]

namespace NetPacket

theorem decrTtl_eq (packet : NetPacket) : packet.decrTtl =
    { packet with header := { packet.header with ttlByte := packet.header.decrTtl.ttlByte } } := by
  rw [decrTtl, NetHeader.decrTtl_eq]

/-- The nonce does not see the TTL. -/
theorem makeNonce_decrTtl (packet : NetPacket) : packet.decrTtl.makeNonce = packet.makeNonce := by
  rw [decrTtl_eq]
  rfl

theorem decrTtl_payload (packet : NetPacket) : packet.decrTtl.payload = packet.payload := rfl

end NetPacket

/-- Opening after the TTL was lowered is lowering it after opening. -/
theorem PacketCrypto.decrypt_decrTtl (crypto : PacketCrypto) (packet : NetPacket) :
    crypto.decryptInPlace packet.decrTtl =
      (crypto.decryptInPlace packet).bind fun opened => .ok opened.decrTtl := by
  unfold PacketCrypto.decryptInPlace
  cases crypto.crypto with
  | none => rfl
  | some aead =>
      simp only [NetPacket.makeNonce_decrTtl, NetPacket.decrTtl_payload]
      cases aead.openInPlace packet.makeNonce packet.payload <;> rfl

/-- A packet for this node that still had hops left. -/
theorem P2pInboundHandler.nextHandle_local (config : NodeConfig) (clock : Clock)
    (routeKey : RouteKey) (state : NodeState) (packet : NetPacket) (msgType : MsgType)
    (net : NetworkAddr) (typed : packet.msgType = .ok msgType)
    (distinct : packet.srcId ≠ packet.destId) (network : config.network = some net)
    (here : P2pInboundHandler.elsewhere net packet.destId = false)
    (hops : packet.decrTtl.ttl < packet.decrTtl.maxTtl) :
    P2pInboundHandler.nextHandle config clock routeKey state packet.buffer =
      P2pInboundHandler.handleLocal config clock routeKey net
        ⟨msgType, packet.srcId, packet.destId, packet.decrTtl.maxTtl, packet.decrTtl.ttl⟩ state
        packet.decrTtl := by
  have remaining : ¬ packet.decrTtl.maxTtl ≤ packet.decrTtl.ttl := UInt8.not_le.mpr hops
  simp only [nextHandle, triage, NetPacket.new_buffer, typed, Outcome.ok_bind, distinct,
    ↓reduceIte, remaining, network, here, Bool.false_eq_true, Outcome.pure_eq, Handled.attempt]

theorem ServerTurnInboundHandler.handle_local (config : NodeConfig) (clock : Clock)
    (networkAddr : NetworkAddr) (state : NodeState) (packet : NetPacket)
    (client : packet.isGateway = false) (own : networkAddr.ip = packet.destId) :
    ServerTurnInboundHandler.handle config clock (some networkAddr) state packet.buffer =
      ServerTurnInboundHandler.handleClientData config clock networkAddr state packet.buffer := by
  simp [handle, NetPacket.new_buffer, Handled.attempt, client, own]

end VntClient
