import VntClient.Outbound
import VntClient.PeerNetwork

/-!
The probe of `relay_probe_task` for a peer C through a peer B, and everything
the handlers send in response.
-/

namespace VntClient

/-- A and B know each other directly, B and C do, and A has no direct route to C. -/
structure RelayProbe (Node : Type) where
  sites : Node → Site
  link : Node → RouteKey → Option (Node × RouteKey)
  (a b c : Node)
  (netA netB netC : NetworkAddr)
  (keyAB keyBA keyBC keyCB : RouteKey)
  others : a ≠ b ∧ a ≠ c ∧ b ≠ c
  networks : (sites a).config.network = some netA ∧ (sites b).config.network = some netB ∧
    (sites c).config.network = some netC
  hosts : P2pInboundHandler.elsewhere netB netA.ip = true ∧
    P2pInboundHandler.elsewhere netB netC.ip = true ∧ netA.ip ≠ netC.ip
  links : link a keyAB = some (b, keyBA) ∧ link b keyBA = some (a, keyAB) ∧
    link b keyBC = some (c, keyCB) ∧ link c keyCB = some (b, keyBC)
  directAB : ∃ route, (sites a).state.routeTable.getRouteById netB.ip = some route ∧
    route.routeKey = keyAB ∧ route.isDirect = true
  directBA : ∃ route, (sites b).state.routeTable.getRouteById netA.ip = some route ∧
    route.routeKey = keyBA ∧ route.isDirect = true
  directBC : ∃ route, (sites b).state.routeTable.getRouteById netC.ip = some route ∧
    route.routeKey = keyBC ∧ route.isDirect = true
  directCB : ∃ route, (sites c).state.routeTable.getRouteById netB.ip = some route ∧
    route.routeKey = keyCB ∧ route.isDirect = true
  undiscovered : ∀ route ∈ (sites a).state.routeTable.routes netC.ip, route.isDirect = false

namespace RelayProbe
variable {Node : Type} (probe : RelayProbe Node)

def pings (ms : Int) : List NetPacket :=
  HybridOutbound.relayPing ⟨(probe.sites probe.a).config, []⟩ probe.netC.ip ms

def start (ms : Int) : World Node where
  sites := probe.sites
  flight := (probe.pings ms).map fun packet =>
    ⟨probe.b, probe.keyBA, packet.buffer, ⟨2, by decide⟩, 0⟩

/-- A holds a route to C over its socket to B with two hops. -/
def Discovered (world : World Node) : Prop :=
  ∃ route ∈ (world.sites probe.a).state.routeTable.routes probe.netC.ip,
    route.routeKey = probe.keyAB ∧ route.metric = 2

/-- A ping on its way from A to C with some hops left. -/
def Asking (left : UInt8) (packet : NetPacket) : Prop :=
  packet.maxTtl = 2 ∧ packet.ttl = left ∧ packet.msgType = .ok .ping ∧
    packet.srcId = probe.netA.ip ∧ packet.destId = probe.netC.ip

/-- An answer that is good for one hop. -/
def Answering (packet : NetPacket) : Prop :=
  packet.ttl = 1 ∧ packet.destId = probe.netA.ip

/-- What the probe leaves in flight, at each of its stages. -/
inductive Stage (datagram : Datagram Node) : Prop where
  | atRelay (packet : NetPacket) (asking : probe.Asking 2 packet)
      (there : datagram.node = probe.b) (read : datagram.data = packet.buffer)
  | atTarget (packet : NetPacket) (asking : probe.Asking 1 packet)
      (there : datagram.node = probe.c) (key : datagram.routeKey = probe.keyCB)
      (read : datagram.data = packet.buffer)
  | answered (packet : NetPacket) (answering : probe.Answering packet)
      (there : datagram.node = probe.b) (read : datagram.data = packet.buffer)

theorem pings_asking {ms : Int} {packet : NetPacket} (member : packet ∈ probe.pings ms) :
    probe.Asking 2 packet := by
  simp only [pings, HybridOutbound.relayPing, HybridOutbound.control, probe.networks.1] at member
  split at member
  · rename_i made written
    rw [List.mem_singleton.mp member]
    simp only [Asking, HybridOutbound.sealPacket, NetPacket.maxTtl, NetPacket.ttl,
      NetPacket.msgType, NetPacket.srcId, NetPacket.destId,
      PacketCrypto.encryptInPlace_header, NetPacket.setPayload_header written]
    have blank := ((NetPacket.zeroed 8).setMsgType .ping).header
    have max := blank.maxTtl_setTtl ⟨2, by decide⟩
    have left := blank.currTtl_setTtl ⟨2, by decide⟩
    have typed := (NetPacket.zeroed 8).header.msgType_setMsgType .ping
    exact ⟨max, left, typed, rfl, rfl⟩
  · cases member

-- The relay sends the ping on over its own route to C.
theorem relay_forwards {packet : NetPacket} (asking : probe.Asking 2 packet) (clock : Clock)
    (routeKey : RouteKey) : P2pInboundHandler.nextHandle (probe.sites probe.b).config clock routeKey
      (probe.sites probe.b).state packet.buffer =
        sent (probe.sites probe.b).config clock (probe.sites probe.b).state
          (.forward probe.keyBC packet.decrTtl) packet.decrTtl ∧
      probe.Asking 1 packet.decrTtl := by
  obtain ⟨route, known, key, _⟩ := probe.directBC
  obtain ⟨max, left, typed, src, dest⟩ := asking
  have high : packet.decrTtl.maxTtl = 2 := packet.header.maxTtl_decrTtl.trans max
  have low : packet.decrTtl.ttl = 1 := by
    apply UInt8.toNat_inj.mp
    rw [NetPacket.ttl, NetPacket.decrTtl, NetHeader.currTtl_decrTtl]
    change packet.ttl.toNat - 1 = 1
    rw [left]
    rfl
  constructor
  · rw [← key]
    apply @P2pInboundHandler.nextHandle_forward _ _ _ _ packet probe.netB _ _ typed
    · rw [src, dest]
      exact probe.hosts.2.2
    · exact probe.networks.2.1
    · rw [dest]
      exact probe.hosts.2.1
    · rw [low]
      decide
    · rw [low, high]
      decide
    · rw [dest]
      exact known
  · rw [NetPacket.decrTtl_eq] at high low ⊢
    exact ⟨high, low, typed, src, dest⟩

-- An answer has no hop left for the relay to use.
theorem relay_drops {packet : NetPacket} (answering : probe.Answering packet) (clock : Clock)
    (routeKey : RouteKey) : (P2pInboundHandler.nextHandle (probe.sites probe.b).config clock routeKey
        (probe.sites probe.b).state packet.buffer).effects = [] ∧
      (P2pInboundHandler.nextHandle (probe.sites probe.b).config clock routeKey
        (probe.sites probe.b).state packet.buffer).state = (probe.sites probe.b).state := by
  have low : packet.decrTtl.ttl.toNat = packet.ttl.toNat - 1 := packet.header.currTtl_decrTtl
  rw [answering.1] at low
  rcases P2pInboundHandler.nextHandle_cases (probe.sites probe.b).config clock routeKey
    (probe.sites probe.b).state packet with
    silent | ⟨via, _, hops, _⟩ | ⟨net, msgType, network, here, _⟩
  · exact silent
  · have positive : 1 ≤ packet.decrTtl.ttl.toNat := UInt8.le_iff_toNat_le.mp hops
    rw [low] at positive
    exact absurd positive (by decide)
  · rw [probe.networks.2.1] at network
    cases network
    rw [answering.2, probe.hosts.1] at here
    cases here

/-- Deliveries in any order, each at its own time. -/
def after [DecidableEq Node] (ms : Int) (order : List (Nat × Clock)) : World Node :=
  (Machine.run (World.step probe.link) (probe.start ms)
    (order.map fun delivery => .deliver delivery.1 delivery.2)).1

/-- The state of A and of the relay stays as it was, and the configuration of C. -/
structure Untouched (world : World Node) : Prop where
  asker : world.sites probe.a = probe.sites probe.a
  relay : world.sites probe.b = probe.sites probe.b
  target : (world.sites probe.c).config = (probe.sites probe.c).config
  stages : ∀ datagram ∈ world.flight, probe.Stage datagram

theorem start_untouched (ms : Int) : probe.Untouched (probe.start ms) where
  asker := rfl
  relay := rfl
  target := rfl
  stages datagram member := by
    obtain ⟨packet, sent, rfl⟩ := List.mem_map.mp member
    exact .atRelay packet (probe.pings_asking sent) rfl rfl

/-- What C does with the ping goes back over the socket it came through. -/
def Answers : Effect → Prop
  | .forward _ _ => False
  | .sendTo addr packet => addr = probe.keyCB.addr ∧ probe.Answering packet
  | _ => True

theorem reply_answers {msgType : MsgType} {payload : Bytes} {packet : NetPacket}
    (made : controlPacket 8 msgType 1 probe.netC.ip probe.netA.ip payload = .ok packet) :
    probe.Answering packet := by
  rw [Answering, NetPacket.ttl, NetPacket.destId, NetPacket.setPayload_header made]
  exact ⟨((NetPacket.zeroed 8).setMsgType msgType).header.currTtl_setTtl ⟨1, by decide⟩, rfl⟩

theorem target_answers {packet : NetPacket} (asking : probe.Asking 1 packet) (clock : Clock)
    (state : NodeState) : (P2pInboundHandler.nextHandle (probe.sites probe.c).config clock
      probe.keyCB state packet.buffer).Emits probe.Answers := by
  obtain ⟨max, left, typed, src, dest⟩ := asking
  have high : packet.decrTtl.maxTtl = 2 := packet.header.maxTtl_decrTtl.trans max
  have low : packet.decrTtl.ttl.toNat = packet.ttl.toNat - 1 := packet.header.currTtl_decrTtl
  rw [left] at low
  rw [P2pInboundHandler.nextHandle_local _ clock probe.keyCB state packet .ping probe.netC typed]
  · refine P2pInboundHandler.handleLocal_emits probe.netC _ (fun _ _ _ => trivial)
      (fun _ => trivial) ?_ state packet.decrTtl
    intro msgType payload reply made
    simp only [src, dest] at made
    refine ⟨rfl, ?_⟩
    rw [Answering, NetPacket.ttl, NetPacket.destId, PacketCrypto.encryptInPlace_header]
    exact probe.reply_answers made
  · rw [src, dest]
    exact probe.hosts.2.2
  · exact probe.networks.2.2
  · rw [dest]
    simp [P2pInboundHandler.elsewhere]
  · rw [high, UInt8.lt_iff_toNat_lt, low]
    decide

/-- Each delivery of the probe launches its next stage and leaves the relay as it is. -/
theorem stage_launches [DecidableEq Node] {world : World Node} (untouched : probe.Untouched world)
    {datagram : Datagram Node} (stage : probe.Stage datagram) (clock : Clock) :
    (∀ arrived ∈ (world.handled clock datagram).effects.flatMap (World.launched probe.link datagram),
        probe.Stage arrived) ∧
      (datagram.node = probe.b ∧ (world.handled clock datagram).state = (probe.sites probe.b).state ∨
        datagram.node = probe.c) := by
  obtain ⟨node, routeKey, data, created, relays⟩ := datagram
  cases stage with
  | atRelay packet asking there read =>
      subst there read
      obtain ⟨forwards, lowered⟩ := probe.relay_forwards asking clock routeKey
      simp only [World.handled, untouched.relay, forwards, sent]
      refine ⟨?_, Or.inl ⟨trivial, trivial⟩⟩
      intro arrived member
      simp only [List.flatMap_cons, List.flatMap_nil, List.append_nil, World.launched,
        World.onward, probe.links.2.2.1, Option.toList_some, List.map_cons, List.map_nil,
        List.mem_singleton] at member
      subst member
      exact .atTarget packet.decrTtl lowered rfl rfl rfl
  | atTarget packet asking there key read =>
      subst there key read
      refine ⟨?_, Or.inr rfl⟩
      intro arrived member
      obtain ⟨effect, emitted, flying⟩ := List.mem_flatMap.mp member
      rw [World.handled, untouched.target] at emitted
      have answers := probe.target_answers asking clock _ effect emitted
      cases effect with
      | forward via packet => exact absurd answers id
      | sendTo addr reply =>
          obtain ⟨back, answering⟩ := answers
          subst back
          simp only [World.launched, World.onward, probe.links.2.2.2, Option.toList_some,
            List.map_cons, List.map_nil, List.mem_singleton] at flying
          subst flying
          exact .answered reply answering rfl rfl
      | _ => cases flying
  | answered packet answering there read =>
      subst there read
      obtain ⟨silent, same⟩ := probe.relay_drops answering clock routeKey
      simp only [World.handled, untouched.relay, silent, same, List.flatMap_nil]
      exact ⟨fun arrived member => (by cases member), Or.inl ⟨trivial, trivial⟩⟩

section Run
variable [DecidableEq Node]

theorem deliver_untouched {world : World Node} (untouched : probe.Untouched world) (index : Nat)
    (clock : Clock) : probe.Untouched (World.step probe.link world (.deliver index clock)).1 := by
  simp only [World.step]
  cases found : world.flight[index]? with
  | none => exact untouched
  | some datagram =>
      obtain ⟨launched, written⟩ := probe.stage_launches untouched
        (untouched.stages datagram (List.mem_of_getElem? found)) clock
      obtain ⟨apart, far, further⟩ := probe.others
      have stages : ∀ arrived ∈ world.flight.eraseIdx index ++
          (world.handled clock datagram).effects.flatMap (World.launched probe.link datagram),
          probe.Stage arrived := by
        intro arrived member
        rcases List.mem_append.mp member with old | new
        · exact untouched.stages arrived (List.mem_of_mem_eraseIdx old)
        · exact launched arrived new
      rcases written with ⟨there, same⟩ | there
      · refine ⟨?_, ?_, ?_, stages⟩
        · simp only [there, Function.update_of_ne apart, untouched.asker]
        · simp only [there, Function.update_self, same, untouched.relay]
        · simp only [there, Function.update_of_ne further.symm, untouched.target]
      · refine ⟨?_, ?_, ?_, stages⟩
        · simp only [there, Function.update_of_ne far, untouched.asker]
        · simp only [there, Function.update_of_ne further, untouched.relay]
        · simp only [there, Function.update_self, untouched.target]

theorem after_untouched (ms : Int) (order : List (Nat × Clock)) :
    probe.Untouched (probe.after ms order) := by
  apply Machine.run_invariant (World.step probe.link) (fun world _ => probe.Untouched world) _ _ _
    [] (probe.start_untouched ms)
  intro world _ happening member untouched
  obtain ⟨delivery, _, rfl⟩ := List.mem_map.mp member
  exact probe.deliver_untouched untouched delivery.1 delivery.2

/-- The probe changes nothing at A: the route is there afterwards exactly if it was. -/
theorem discovered_iff (ms : Int) (order : List (Nat × Clock)) :
    probe.Discovered (probe.after ms order) ↔ probe.Discovered (probe.start ms) := by
  have asker := (probe.after_untouched ms order).asker
  rw [Discovered, Discovered, asker]
  rfl

end Run

inductive Stop
  | left
  | middle
  | right
deriving DecidableEq

def lineProbe : RelayProbe Stop where
  sites
    | .left => ⟨.plain { sampleNetwork with ip := 0x0A1A0002 }, ⟨FecDecoder.new 0,
        RouteTable.new.addRoute 0 0x0A1A0003 ⟨⟨0, ⟨.v4 0xC0A80003, 1⟩⟩, 1, 0⟩⟩⟩
    | .middle => ⟨.plain sampleNetwork, ⟨FecDecoder.new 0,
        (RouteTable.new.addRoute 0 0x0A1A0002 ⟨⟨0, ⟨.v4 0xC0A80002, 1⟩⟩, 1, 0⟩).addRoute 0 0x0A1A0004
          ⟨⟨0, ⟨.v4 0xC0A80004, 1⟩⟩, 1, 0⟩⟩⟩
    | .right => ⟨.plain { sampleNetwork with ip := 0x0A1A0004 }, ⟨FecDecoder.new 0,
        RouteTable.new.addRoute 0 0x0A1A0003 ⟨⟨0, ⟨.v4 0xC0A80003, 1⟩⟩, 1, 0⟩⟩⟩
  link node routeKey :=
    if node = .middle then
      if routeKey.addr.ip = .v4 0xC0A80002 then some (.left, ⟨0, ⟨.v4 0xC0A80003, 1⟩⟩)
      else some (.right, ⟨0, ⟨.v4 0xC0A80003, 1⟩⟩)
    else if node = .left then some (.middle, ⟨0, ⟨.v4 0xC0A80002, 1⟩⟩)
    else some (.middle, ⟨0, ⟨.v4 0xC0A80004, 1⟩⟩)
  a := .left
  b := .middle
  c := .right
  netA := { sampleNetwork with ip := 0x0A1A0002 }
  netB := sampleNetwork
  netC := { sampleNetwork with ip := 0x0A1A0004 }
  keyAB := ⟨0, ⟨.v4 0xC0A80003, 1⟩⟩
  keyBA := ⟨0, ⟨.v4 0xC0A80002, 1⟩⟩
  keyBC := ⟨0, ⟨.v4 0xC0A80004, 1⟩⟩
  keyCB := ⟨0, ⟨.v4 0xC0A80003, 1⟩⟩
  others := by decide
  networks := ⟨rfl, rfl, rfl⟩
  hosts := by decide
  links := by decide
  directAB := ⟨⟨⟨0, ⟨.v4 0xC0A80003, 1⟩⟩, 1, 0⟩, by decide⟩
  directBA := ⟨⟨⟨0, ⟨.v4 0xC0A80002, 1⟩⟩, 1, 0⟩, by decide⟩
  directBC := ⟨⟨⟨0, ⟨.v4 0xC0A80004, 1⟩⟩, 1, 0⟩, by decide⟩
  directCB := ⟨⟨⟨0, ⟨.v4 0xC0A80003, 1⟩⟩, 1, 0⟩, by decide⟩
  undiscovered := by decide

/-- Ping, forwarded ping and dropped answer: nothing is left and nothing was learned. -/
theorem probe_learns_nothing :
    (lineProbe.after 0 [(0, ⟨1, 0⟩), (0, ⟨2, 0⟩), (0, ⟨3, 0⟩)]).flight.length = 0 ∧
      ¬ lineProbe.Discovered (lineProbe.after 0 [(0, ⟨1, 0⟩), (0, ⟨2, 0⟩), (0, ⟨3, 0⟩)]) := by
  unfold Discovered
  decide +kernel

end RelayProbe
end VntClient
