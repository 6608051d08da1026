import VntClient.Node

/-!
Nodes joined by their P2P sockets. Datagrams lie in flight until they are
delivered, in any order; whatever else changes at a node may change at any time.
Beside each datagram stands the TTL it started with and how often it was
forwarded, which no handler reads.
-/

namespace VntClient

/-- A TTL that fits the four bits of its field. -/
def StartTtl : Type := { ttl : UInt8 // 1 ≤ ttl ∧ ttl ≤ 15 }

namespace NetHeader

-- One decrement touches the low half of the byte only: all 256 bytes are checked.
theorem decremented_high : ∀ byte : BitVec 8,
    ((byte &&& 0xF0#8) ||| ((byte &&& 0x0F#8) - 1#8)) >>> 4 = byte >>> 4 ∨ byte &&& 0x0F#8 = 0 := by
  decide +kernel

theorem decremented_low : ∀ byte : BitVec 8,
    ((byte &&& 0xF0#8) ||| ((byte &&& 0x0F#8) - 1#8)) &&& 0x0F#8 = (byte &&& 0x0F#8) - 1#8 ∨
      byte &&& 0x0F#8 = 0 := by
  decide +kernel

theorem set_fields : ∀ ttl : BitVec 8, ttl ≤ 15#8 →
    ((ttl <<< 4) ||| (ttl &&& 0x0F#8)) >>> 4 = ttl ∧
      ((ttl <<< 4) ||| (ttl &&& 0x0F#8)) &&& 0x0F#8 = ttl := by
  decide +kernel

theorem maxTtl_decrTtl (header : NetHeader) : header.decrTtl.maxTtl = header.maxTtl := by
  unfold decrTtl
  by_cases spent : header.currTtl = 0
  · simp [spent]
  · simp only [spent, ↓reduceIte]
    rcases decremented_high header.ttlByte.toBitVec with high | zero
    · exact UInt8.eq_of_toBitVec_eq high
    · exact absurd (UInt8.eq_of_toBitVec_eq zero) spent

theorem currTtl_decrTtl (header : NetHeader) :
    header.decrTtl.currTtl.toNat = header.currTtl.toNat - 1 := by
  unfold decrTtl
  by_cases spent : header.currTtl = 0
  · simp [spent]
  · simp only [spent, ↓reduceIte]
    have low : ((header.ttlByte &&& 0xF0) ||| (header.currTtl - 1)) &&& 0x0F =
        header.currTtl - 1 := by
      rcases decremented_low header.ttlByte.toBitVec with low | zero
      · exact UInt8.eq_of_toBitVec_eq low
      · exact absurd (UInt8.eq_of_toBitVec_eq zero) spent
    have positive : header.currTtl.toNat ≠ 0 := fun zero => spent (UInt8.toNat_inj.mp zero)
    change (((header.ttlByte &&& 0xF0) ||| (header.currTtl - 1)) &&& 0x0F).toNat = _
    rw [low, UInt8.toNat_sub_of_le]
    · rfl
    · exact UInt8.le_iff_toNat_le.mpr (Nat.one_le_iff_ne_zero.mpr positive)

theorem maxTtl_setTtl (header : NetHeader) (ttl : StartTtl) :
    (header.setTtl ttl.1 ttl.1).maxTtl = ttl.1 :=
  UInt8.eq_of_toBitVec_eq (set_fields ttl.1.toBitVec ttl.2.2).1

theorem currTtl_setTtl (header : NetHeader) (ttl : StartTtl) :
    (header.setTtl ttl.1 ttl.1).currTtl = ttl.1 :=
  UInt8.eq_of_toBitVec_eq (set_fields ttl.1.toBitVec ttl.2.2).2

end NetHeader

structure Site where
  config : NodeConfig
  state : NodeState

structure Datagram (Node : Type) where
  node : Node
  routeKey : RouteKey
  data : Bytes
  created : StartTtl
  relays : Nat

inductive Happening (Node : Type) where
  | create (node : Node) (routeKey : RouteKey) (packet : NetPacket) (ttl : StartTtl)
  | deliver (index : Nat) (clock : Clock)
  | change (node : Node) (site : Site)

structure World (Node : Type) where
  sites : Node → Site
  flight : List (Datagram Node)

namespace World
variable {Node : Type} [DecidableEq Node]

section Step
-- Where a datagram sent over a socket to an address comes in, if anywhere.
variable (link : Node → RouteKey → Option (Node × RouteKey))

def onward (datagram : Datagram Node) (routeKey : RouteKey) (packet : NetPacket)
    (created : StartTtl) (relays : Nat) : List (Datagram Node) :=
  (link datagram.node routeKey).toList.map fun arrival =>
    ⟨arrival.1, arrival.2, packet.buffer, created, relays⟩

/-- What an effect puts in flight. Replies start with TTL 1. -/
def launched (datagram : Datagram Node) : Effect → List (Datagram Node)
  | .forward routeKey packet =>
      onward link datagram routeKey packet datagram.created (datagram.relays + 1)
  | .sendTo addr packet =>
      onward link datagram ⟨datagram.routeKey.index, addr⟩ packet ⟨1, by decide⟩ 0
  | _ => []

def handled (world : World Node) (clock : Clock) (datagram : Datagram Node) : Handled :=
  let site := world.sites datagram.node
  P2pInboundHandler.nextHandle site.config clock datagram.routeKey site.state datagram.data

def step (world : World Node) : Happening Node → World Node × List Effect
  | .create node routeKey packet ttl =>
      ({ world with flight := world.flight ++
          [⟨node, routeKey, (packet.setTtl ttl.1).buffer, ttl, 0⟩] }, [])
  | .deliver index clock =>
      match world.flight[index]? with
      | none => (world, [])
      | some datagram =>
          let handled := world.handled clock datagram
          let site := world.sites datagram.node
          ({ sites := Function.update world.sites datagram.node { site with state := handled.state }
             flight := world.flight.eraseIdx index ++
               handled.effects.flatMap (launched link datagram) }, handled.effects)
  | .change node site => ({ world with sites := Function.update world.sites node site }, [])

end Step
end World

namespace P2pInboundHandler
variable {config : NodeConfig} {clock : Clock} {routeKey : RouteKey} {state : NodeState}

theorem triage_cases {table : RouteTable} {packet : NetPacket} {verdict : Triage}
    (judged : triage config table packet.buffer = .ok verdict) :
    verdict = .drop ∨
      (∃ key, verdict = .forward key packet.decrTtl ∧ 1 ≤ packet.decrTtl.ttl) ∨
      ∃ net msgType, packet.msgType = .ok msgType ∧ config.network = some net ∧
        elsewhere net packet.destId = false ∧ verdict = .handle net packet.decrTtl
          ⟨msgType, packet.srcId, packet.destId, packet.decrTtl.maxTtl, packet.decrTtl.ttl⟩ := by
  simp only [triage, NetPacket.new_buffer, Outcome.ok_bind] at judged
  cases typed : packet.msgType with
  | err message => simp [typed] at judged
  | panic => simp [typed] at judged
  | ok msgType =>
      simp only [typed, Outcome.ok_bind, Outcome.pure_eq] at judged
      split at judged
      · exact Or.inl (Outcome.ok.inj judged).symm
      · split at judged
        · exact Or.inl (Outcome.ok.inj judged).symm
        · split at judged
          · cases judged
          · rename_i net network
            split at judged
            · split at judged
              · rename_i hops
                split at judged
                · rename_i route found
                  exact Or.inr (Or.inl ⟨_, (Outcome.ok.inj judged).symm, hops⟩)
                · exact Or.inl (Outcome.ok.inj judged).symm
              · exact Or.inl (Outcome.ok.inj judged).symm
            · rename_i here
              exact Or.inr (Or.inr ⟨net, msgType, rfl, network, by simpa using here,
                (Outcome.ok.inj judged).symm⟩)

theorem nextHandle_forward {packet : NetPacket} {net : NetworkAddr} {route : Route}
    {msgType : MsgType} (typed : packet.msgType = .ok msgType)
    (different : packet.srcId ≠ packet.destId) (network : config.network = some net)
    (there : elsewhere net packet.destId = true) (hops : 1 ≤ packet.decrTtl.ttl)
    (within : packet.decrTtl.ttl < packet.decrTtl.maxTtl)
    (known : state.routeTable.getRouteById packet.destId = some route) :
    nextHandle config clock routeKey state packet.buffer =
      sent config clock state (.forward route.routeKey packet.decrTtl) packet.decrTtl := by
  have remaining : ¬ packet.decrTtl.maxTtl ≤ packet.decrTtl.ttl := UInt8.not_le.mpr within
  simp only [nextHandle, triage, NetPacket.new_buffer, typed, Outcome.ok_bind, different,
    ↓reduceIte, remaining, network, there, hops, known, Outcome.pure_eq, Handled.attempt]

/-- What goes out when a packet is handled here. -/
def Local : Effect → Prop
  | .forward _ _ => False
  | .sendTo _ packet => packet.header.ttlByte = 0x11
  | _ => True

theorem controlPacket_ttl {size : Nat} {msgType : MsgType} {src dest : Ipv4Addr} {payload : Bytes}
    {packet : NetPacket} (made : controlPacket size msgType 1 src dest payload = .ok packet) :
    packet.header.ttlByte = 0x11 := by
  rw [NetPacket.setPayload_header made]
  rfl

theorem handleLocal_local (net : NetworkAddr) (ctx : PacketContext) (state : NodeState)
    (packet : NetPacket) : (handleLocal config clock routeKey net ctx state packet).Emits Local := by
  refine handleLocal_emits net ctx (fun _ _ _ => trivial) (fun _ => trivial) ?_ state packet
  intro msgType payload packet made
  change (config.packetCrypto.encryptInPlace packet).header.ttlByte = 0x11
  rw [PacketCrypto.encryptInPlace_header, controlPacket_ttl made]

/-- The metric of a route learned from a packet: punch messages count as direct. -/
def metric (ctx : PacketContext) : UInt8 :=
  if ctx.msgType = .punchReq ∨ ctx.msgType = .punchRes then 1 else ctx.maxTtl - ctx.ttl

/-- New routes lead to the sender over the socket its packet came through. -/
def Learns (routeKey : RouteKey) (ctx : PacketContext) (before after : RouteTable) : Prop :=
  ∀ id route, route ∈ after.routes id → route ∈ before.routes id ∨
    id = ctx.srcIp ∧ route.routeKey = routeKey ∧ route.metric = metric ctx

theorem processDecompressedPacket_learns (net : NetworkAddr) (ctx : PacketContext)
    (before : RouteTable) (state : NodeState) (packet : NetPacket)
    (here : Learns routeKey ctx before state.routeTable) :
    (processDecompressedPacket config clock net routeKey ctx state packet).Tabled
      (Learns routeKey ctx before) := by
  have replied : ∀ msgType state payload, Learns routeKey ctx before state.routeTable →
      (reply config clock routeKey ctx msgType state payload).Tabled (Learns routeKey ctx before) :=
    fun msgType state payload here => tabled_attempt here fun packet => here
  -- A punch is one hop away; its entry is an owner route of metric 1.
  have owned : metric ctx = 1 → Learns routeKey ctx before
      (state.routeTable.addOwnerRoute config.defaultRtt clock.now ctx.srcIp routeKey) := by
    intro one id route member
    rcases RouteTable.mem_addOwnerRoute member with old | ⟨same, added⟩
    · exact here id route old
    · subst added
      exact Or.inr ⟨same, rfl, one.symm⟩
  unfold processDecompressedPacket
  cases type : ctx.msgType with
  | turn | broadcast | excludeBroadcast => exact here
  | ping =>
      apply replied
      intro id route member
      rcases RouteTable.mem_addRouteIfAbsent member with old | ⟨same, added⟩
      · exact here id route old
      · subst added
        exact Or.inr ⟨same, rfl, by simp [metric, type]⟩
  | pong =>
      simp only
      split
      · split
        · intro id route member
          rcases RouteTable.mem_addRoute member with old | ⟨same, added⟩
          · exact here id route old
          · subst added
            exact Or.inr ⟨same, rfl, by simp [metric, type]⟩
        · exact here
      · exact here
  | punchReq =>
      simp only
      split
      · exact here
      · exact replied _ _ _ (owned (by simp [metric, type]))
  | punchRes =>
      simp only
      split
      · exact here
      · exact owned (by simp [metric, type])
  | _ => exact here

theorem handleLocal_learns (net : NetworkAddr) (ctx : PacketContext) (state : NodeState)
    (packet : NetPacket) : (handleLocal config clock routeKey net ctx state packet).Tabled
      (Learns routeKey ctx state.routeTable) := by
  have here : Learns routeKey ctx state.routeTable state.routeTable :=
    fun id route member => Or.inl member
  unfold handleLocal
  split
  · unfold handleQuic
    split
    · exact tabled_handleFec (fun _ _ here => here) state packet here
    · exact here
  · apply tabled_attempt here
    intro opened
    exact tabled_handleOpened
      (processDecompressedPacket_learns net ctx state.routeTable) state opened here

/-- The ways a packet can go: nothing happens, it is sent on with fewer hops
left, or it is handled here. -/
theorem nextHandle_cases (config : NodeConfig) (clock : Clock) (routeKey : RouteKey)
    (state : NodeState) (packet : NetPacket) :
    (nextHandle config clock routeKey state packet.buffer).effects = [] ∧
        (nextHandle config clock routeKey state packet.buffer).state = state ∨
      (∃ key, (nextHandle config clock routeKey state packet.buffer).effects =
          [.forward key packet.decrTtl] ∧ 1 ≤ packet.decrTtl.ttl ∧
        (nextHandle config clock routeKey state packet.buffer).state = state) ∨
      ∃ net msgType, config.network = some net ∧ elsewhere net packet.destId = false ∧
        triage config state.routeTable packet.buffer = .ok (.handle net packet.decrTtl
          ⟨msgType, packet.srcId, packet.destId, packet.decrTtl.maxTtl, packet.decrTtl.ttl⟩) ∧
        nextHandle config clock routeKey state packet.buffer =
          handleLocal config clock routeKey net ⟨msgType, packet.srcId, packet.destId,
            packet.decrTtl.maxTtl, packet.decrTtl.ttl⟩ state packet.decrTtl := by
  cases judged : triage config state.routeTable packet.buffer with
  | err message => exact Or.inl (by simp [nextHandle, Handled.attempt, judged])
  | panic => exact Or.inl (by simp [nextHandle, Handled.attempt, judged])
  | ok verdict =>
      rcases triage_cases judged with rfl | ⟨key, rfl, hops⟩ |
        ⟨net, msgType, typed, network, here, rfl⟩
      · exact Or.inl (by simp [nextHandle, Handled.attempt, judged, Handled.done])
      · exact Or.inr (Or.inl ⟨key, by simp [nextHandle, Handled.attempt, judged, sent, hops]⟩)
      · exact Or.inr (Or.inr ⟨net, msgType, network, here, rfl,
          by simp [nextHandle, Handled.attempt, judged]⟩)

end P2pInboundHandler

/-- The TTL fields still tell how far the datagram came. -/
def Datagram.Counted {Node : Type} (datagram : Datagram Node) : Prop :=
  ∃ packet : NetPacket, datagram.data = packet.buffer ∧ packet.maxTtl = datagram.created.1 ∧
    packet.ttl.toNat + datagram.relays = datagram.created.1.toNat ∧ 1 ≤ packet.ttl.toNat

namespace World
variable {Node : Type}

/-- A delivered datagram has hops to spare, is sent on at most once and within
its TTL, and where it is accepted the metric is one more than its relays. -/
structure Delivered (world : World Node) (clock : Clock) (datagram : Datagram Node) : Prop where
  bounded : datagram.relays ≤ datagram.created.1.toNat - 1
  forwarded : ∀ key packet, .forward key packet ∈ (world.handled clock datagram).effects →
    (world.handled clock datagram).effects = [.forward key packet] ∧
      datagram.relays + 1 ≤ datagram.created.1.toNat - 1
  metric : ∀ net packet ctx, P2pInboundHandler.triage (world.sites datagram.node).config
      (world.sites datagram.node).state.routeTable datagram.data = .ok (.handle net packet ctx) →
    (ctx.maxTtl - ctx.ttl).toNat = datagram.relays + 1
  learned : ∀ id route, route ∈ (world.handled clock datagram).state.routeTable.routes id →
    route ∉ (world.sites datagram.node).state.routeTable.routes id →
    ∃ net packet ctx, P2pInboundHandler.triage (world.sites datagram.node).config
        (world.sites datagram.node).state.routeTable datagram.data = .ok (.handle net packet ctx) ∧
      id = ctx.srcIp ∧ route.routeKey = datagram.routeKey ∧
      (route.isDirect = true ↔
        datagram.relays = 0 ∨ ctx.msgType = .punchReq ∨ ctx.msgType = .punchRes)

-- The last hop counts as well: the receiver lowers the TTL before it reads it.
theorem metric_counts (datagram : Datagram Node) {packet : NetPacket}
    (max : packet.maxTtl = datagram.created.1)
    (left : packet.ttl.toNat + datagram.relays = datagram.created.1.toNat)
    (some : 1 ≤ packet.ttl.toNat) :
    (packet.decrTtl.maxTtl - packet.decrTtl.ttl).toNat = datagram.relays + 1 := by
  have high : packet.decrTtl.maxTtl = packet.maxTtl := packet.header.maxTtl_decrTtl
  have low : packet.decrTtl.ttl.toNat = packet.ttl.toNat - 1 := packet.header.currTtl_decrTtl
  rw [high, max, UInt8.toNat_sub_of_le]
  · omega
  · exact UInt8.le_iff_toNat_le.mpr (by omega)

theorem isDirect_iff {ctx : PacketContext} {relays : Nat} {route : Route}
    (counts : (ctx.maxTtl - ctx.ttl).toNat = relays + 1)
    (learned : route.metric = P2pInboundHandler.metric ctx) :
    route.isDirect = true ↔
      relays = 0 ∨ ctx.msgType = .punchReq ∨ ctx.msgType = .punchRes := by
  simp only [Route.isDirect, learned, P2pInboundHandler.metric, beq_iff_eq]
  split
  · rename_i punch
    exact iff_of_true rfl (Or.inr punch)
  · rename_i other
    rw [← UInt8.toNat_inj, counts]
    constructor
    · intro one
      exact Or.inl (Nat.succ_injective one)
    · rintro (zero | punch)
      · rw [zero]
        rfl
      · exact absurd punch other

theorem counted_delivered {world : World Node} {clock : Clock} {datagram : Datagram Node}
    (counted : datagram.Counted) : world.Delivered clock datagram := by
  obtain ⟨node, routeKey, data, created, relays⟩ := datagram
  obtain ⟨packet, rfl, max, left, some⟩ := counted
  have low : packet.decrTtl.ttl.toNat = packet.ttl.toNat - 1 := packet.header.currTtl_decrTtl
  have counts := metric_counts ⟨node, routeKey, packet.buffer, created, relays⟩
    max left some
  simp only at left counts
  refine ⟨by simp only; omega, ?_, ?_, ?_⟩
  · intro key sentPacket member
    rcases P2pInboundHandler.nextHandle_cases (world.sites node).config clock routeKey
      (world.sites node).state packet with
      ⟨silent, _⟩ | ⟨via, onward, hops, _⟩ | ⟨net, msgType, _, _, _, here⟩
    · rw [handled, silent] at member
      cases member
    · simp only [handled, onward, List.mem_singleton] at member ⊢
      rw [member]
      have positive : 1 ≤ packet.decrTtl.ttl.toNat := UInt8.le_iff_toNat_le.mp hops
      exact ⟨rfl, by omega⟩
    · rw [handled, here] at member
      exact absurd (P2pInboundHandler.handleLocal_local net _ _ _ _ member) id
  · intro net opened ctx judged
    rcases P2pInboundHandler.triage_cases judged with drop | ⟨key, forward, _⟩ |
      ⟨_, _, _, _, _, handle⟩
    · cases drop
    · cases forward
    · cases handle
      exact counts
  · intro id route member fresh
    rcases P2pInboundHandler.nextHandle_cases (world.sites node).config clock routeKey
      (world.sites node).state packet with
      ⟨_, same⟩ | ⟨via, _, _, same⟩ | ⟨net, msgType, _, _, judged, here⟩
    · rw [handled, same] at member
      exact absurd member fresh
    · rw [handled, same] at member
      exact absurd member fresh
    · rw [handled, here] at member
      rcases P2pInboundHandler.handleLocal_learns net _ _ _ id route member with old |
        ⟨sender, key, learned⟩
      · exact absurd old fresh
      · exact ⟨net, _, _, judged, sender, key, isDirect_iff counts learned⟩

section Run
variable (link : Node → RouteKey → Option (Node × RouteKey))

theorem created_counted (node : Node) (routeKey : RouteKey) (packet : NetPacket) (ttl : StartTtl) :
    Datagram.Counted ⟨node, routeKey, (packet.setTtl ttl.1).buffer, ttl, 0⟩ := by
  have start : (packet.setTtl ttl.1).ttl = ttl.1 := packet.header.currTtl_setTtl ttl
  refine ⟨packet.setTtl ttl.1, rfl, packet.header.maxTtl_setTtl ttl, ?_, ?_⟩
  · rw [start]
    rfl
  · rw [start]
    exact UInt8.le_iff_toNat_le.mp ttl.2.1

theorem onward_counted {datagram arrived : Datagram Node} {routeKey : RouteKey}
    {packet : NetPacket} {created : StartTtl} {relays : Nat}
    (member : arrived ∈ onward link datagram routeKey packet created relays)
    (counted : ∀ (node : Node) (key : RouteKey),
      Datagram.Counted ⟨node, key, packet.buffer, created, relays⟩) :
    arrived.Counted := by
  obtain ⟨arrival, _, rfl⟩ := List.mem_map.mp member
  exact counted arrival.1 arrival.2

theorem replied_counted {reply : NetPacket} (byte : reply.header.ttlByte = 0x11) (node : Node)
    (key : RouteKey) : Datagram.Counted ⟨node, key, reply.buffer, ⟨1, by decide⟩, 0⟩ := by
  have max : reply.maxTtl = 1 := by
    rw [NetPacket.maxTtl, NetHeader.maxTtl, byte]
    rfl
  have left : reply.ttl = 1 := by
    rw [NetPacket.ttl, NetHeader.currTtl, byte]
    rfl
  exact ⟨reply, rfl, max, by rw [left]; rfl, by rw [left]; rfl⟩

theorem launched_counted {world : World Node} {clock : Clock} {datagram arrived : Datagram Node}
    (counted : datagram.Counted)
    (member : arrived ∈ (world.handled clock datagram).effects.flatMap (launched link datagram)) :
    arrived.Counted := by
  obtain ⟨node, routeKey, data, created, relays⟩ := datagram
  obtain ⟨packet, rfl, max, left, some⟩ := counted
  obtain ⟨effect, emitted, flying⟩ := List.mem_flatMap.mp member
  have high : packet.decrTtl.maxTtl = packet.maxTtl := packet.header.maxTtl_decrTtl
  have low : packet.decrTtl.ttl.toNat = packet.ttl.toNat - 1 := packet.header.currTtl_decrTtl
  simp only at left
  rcases P2pInboundHandler.nextHandle_cases (world.sites node).config clock routeKey
    (world.sites node).state packet with
    ⟨silent, _⟩ | ⟨via, sentOn, hops, _⟩ | ⟨net, msgType, _, _, _, here⟩
  · rw [handled, silent] at emitted
    cases emitted
  · rw [handled, sentOn, List.mem_singleton] at emitted
    subst emitted
    have positive : 1 ≤ packet.decrTtl.ttl.toNat := UInt8.le_iff_toNat_le.mp hops
    exact onward_counted link flying fun _ _ =>
      ⟨packet.decrTtl, rfl, high.trans max, by simp only; omega, positive⟩
  · rw [handled, here] at emitted
    have allowed := P2pInboundHandler.handleLocal_local net _ _ _ effect emitted
    cases effect with
    | forward key packet => exact absurd allowed id
    | sendTo addr reply => exact onward_counted link flying (replied_counted allowed)
    | _ => cases flying

variable [DecidableEq Node]

theorem step_counted (world : World Node) (happening : Happening Node)
    (counted : ∀ datagram ∈ world.flight, datagram.Counted) :
    ∀ datagram ∈ (step link world happening).1.flight, datagram.Counted := by
  intro datagram member
  cases happening with
  | create node routeKey packet ttl =>
      rcases List.mem_append.mp member with old | new
      · exact counted datagram old
      · rw [List.mem_singleton.mp new]
        exact created_counted node routeKey packet ttl
  | deliver index clock =>
      simp only [step] at member
      cases found : world.flight[index]? with
      | none =>
          simp only [found] at member
          exact counted datagram member
      | some delivered =>
          simp only [found] at member
          rcases List.mem_append.mp member with old | new
          · exact counted datagram (List.mem_of_mem_eraseIdx old)
          · exact launched_counted link (counted delivered (List.mem_of_getElem? found)) new
  | change node site => exact counted datagram member

/-- In every run of the network each delivery stays within the TTL and counts
its hops. -/
theorem deliveries_count_hops (sites : Node → Site) (happenings : List (Happening Node)) :
    Machine.Along (step link) (fun world happening => ∀ index clock datagram,
        happening = .deliver index clock → world.flight[index]? = some datagram →
          world.Delivered clock datagram) ⟨sites, []⟩ happenings := by
  apply Machine.along_of_invariant (step link)
    (fun world => ∀ datagram ∈ world.flight, datagram.Counted) (fun _ _ => True)
  · intro world happening _ counted _
    constructor
    · intro index clock datagram _ found
      exact counted_delivered (counted datagram (List.mem_of_getElem? found))
    · exact step_counted link world happening counted
  · intro datagram member
    cases member
  · exact Machine.along_of_forall _ _ _ _ fun _ _ _ => trivial

/-- 10.26.0.2, 10.26.0.3 and 10.26.0.4; the middle one has a route to the last. -/
def lineSites : Fin 3 → Site
  | 0 => ⟨.plain { sampleNetwork with ip := 0x0A1A0002 }, ⟨FecDecoder.new 0, RouteTable.new⟩⟩
  | 1 => ⟨.plain sampleNetwork, ⟨FecDecoder.new 0,
      RouteTable.new.addRoute 0 0x0A1A0004 ⟨⟨0, ⟨.v4 0xC0A80004, 1⟩⟩, 1, 0⟩⟩⟩
  | 2 => ⟨.plain { sampleNetwork with ip := 0x0A1A0004 }, ⟨FecDecoder.new 0, RouteTable.new⟩⟩

def lineLink : Fin 3 → RouteKey → Option (Fin 3 × RouteKey)
  | 1, ⟨0, ⟨.v4 0xC0A80004, 1⟩⟩ => some (2, ⟨0, ⟨.v4 0xC0A80003, 1⟩⟩)
  | _, _ => none

-- A punch request with TTL 2 goes over one relay and is taken for a direct one.
theorem relayed_punch_direct :
    ¬ Machine.Along (step lineLink) (fun world happening => ∀ index clock datagram,
        happening = .deliver index clock → world.flight[index]? = some datagram →
          ∀ id route, route ∈ (world.handled clock datagram).state.routeTable.routes id →
            route ∉ (world.sites datagram.node).state.routeTable.routes id →
            (route.isDirect = true ↔ datagram.relays = 0)) ⟨lineSites, []⟩
      [.create 1 ⟨0, ⟨.v4 0xC0A80002, 1⟩⟩ ⟨⟨0x8B, 0, 0, 0, 0, 0x0A1A0002, 0x0A1A0004⟩, []⟩
        ⟨2, by decide⟩, .deliver 0 ⟨1, 0⟩, .deliver 0 ⟨2, 0⟩] := by
  intro counted
  have last := counted.2.2.1 0 ⟨2, 0⟩ _ rfl rfl 0x0A1A0002 ⟨⟨0, ⟨.v4 0xC0A80003, 1⟩⟩, 1, 0⟩
    (by decide +kernel) (by decide +kernel)
  exact absurd (last.mp rfl) (by decide +kernel)

end Run
end World
end VntClient
