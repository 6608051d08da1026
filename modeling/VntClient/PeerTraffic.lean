import VntClient.InternalNat
import VntClient.Machine

/-!
What peers can reach through a node: packets handed to `EnhancedInbound`, QUIC streams
with their handshakes, and what the two IP stacks make of them. The stack of the NAT
gives out connections, datagrams and echo messages for destinations of packets that were
put into it; the stack behind QUIC may put out any packet.
-/

namespace VntClient

/-- What of the configuration decides about destinations; `output` is the list of
permitted prefixes. -/
structure PeerConfig where
  network : Option NetworkAddr
  noTun : Bool
  noNat : Bool
  allowPortMapping : Bool
  output : List Ipv4Net

namespace PeerConfig
variable (config : PeerConfig)

def internalNatInbound : Option InternalNatManager :=
  if config.noNat && !config.noTun then none
  else some ⟨⟨config.output⟩, config.noTun, config.network⟩

def portMappingManager : PortMappingManager :=
  ⟨config.noTun, config.allowPortMapping, config.network⟩

def enhancedTunInbound : EnhancedTunInbound :=
  if config.noTun then .nat ⟨config.output⟩ else .tun ⟨config.output⟩

def enhancedInbound : EnhancedInbound :=
  ⟨config.enhancedTunInbound, config.internalNatInbound.map InternalNatManager.toInternalNatInbound⟩

end PeerConfig

/-- `QuicProxyHandshake`. -/
inductive Handshake
  | tcp (srcIp : Ipv4Addr) (srcPort : UInt32) (dstIp : Ipv4Addr) (dstPort : UInt32)
  | ip (ipNextHeaderProtocol : UInt32) (srcIp dstIp : Ipv4Addr)
  | tcpPortMapping (dstHost : String) (dstPort : UInt32)
  | udpPortMapping (dstHost : String) (dstPort : UInt32)

inductive PeerEffect
  /-- Written to the TUN, put into the stack of the NAT, or given to QUIC. -/
  | output (output : Output)
  /-- `send_ipv4_payload`, into the stack of the NAT. -/
  | payload (protocol : UInt8) (srcIp destIp : Ipv4Addr) (payload : Bytes)
  | nat (effect : NatEffect)
  /-- Through the stack behind QUIC, which answers with packets of its own. -/
  | quicTcp (src dst : SocketAddr)
  | quicIp (protocol : UInt8) (srcIp destIp : Ipv4Addr) (payload : Bytes)

/-- What happens at the node on account of a peer. -/
inductive PeerEvent
  | inbound (sinks : Sinks) (now : Instant) (msgType : MsgType) (src : Ipv4Addr)
      (packet : NetPacket)
  | quicStreamBi (handshake : Option Handshake)
  | quicStreamUni (handshake : Option Handshake) (frames : List Bytes)
  | ipStackRecv (sinks : Sinks) (now : Instant) (data : Bytes)
  | tcpAccept (localAddr : SocketAddr)
  | udpRecv (now : Instant) (connects : Bool) (src dst : SocketAddr) (packet : Bytes)
  | udpGc (now : Instant)
  | udpClose (src dst : SocketAddr)
  | icmpRecv (src dst : IpAddr) (buf : Bytes)

/-- The tables of the NAT tasks. `injected` is not kept by the code: the destinations of
what has been put into the stack of the NAT. -/
structure PeerState where
  natTable : NatTable
  icmpMap : IcmpMap
  injected : List Ipv4Addr

namespace PeerState

def new : PeerState := ⟨.empty, ∅, []⟩

end PeerState

def destinationOf (data : Bytes) : Option Ipv4Addr :=
  (Ipv4Packet.new data).map Ipv4Packet.getDestination

namespace PeerConfig
variable (config : PeerConfig)

def quicStreamBiHandle : Option Handshake → List PeerEffect
  | none => []
  | some (.tcp srcIp srcPort dstIp dstPort) =>
      let src : SocketAddr := ⟨.v4 srcIp, srcPort.toUInt16⟩
      let dst : SocketAddr := ⟨.v4 dstIp, dstPort.toUInt16⟩
      let stack := if config.noTun then [] else [PeerEffect.quicTcp src dst]
      if src = dst then []
      else
        match config.internalNatInbound with
        | none => stack
        | some manager =>
            if manager.useNat dstIp then
              match manager.tcpNat dstIp dst.port with
              | .ok effects => effects.map .nat
              | _ => []
            else if manager.noTun then []
            else stack
  | some (.ip _ _ _) => []
  | some (.tcpPortMapping dstHost dstPort) =>
      match config.portMappingManager.tcpMapping dstHost dstPort.toUInt16 with
      | .ok effects => effects.map .nat
      | _ => []
  | some (.udpPortMapping dstHost dstPort) =>
      match config.portMappingManager.udpMapping dstHost dstPort.toUInt16 with
      | .ok effects => effects.map .nat
      | _ => []

def quicStreamUniHandle (frames : List Bytes) : Option Handshake → List PeerEffect
  | some (.ip protocol srcIp destIp) =>
      let stack := if config.noTun then []
        else frames.map (PeerEffect.quicIp protocol.toUInt8 srcIp destIp)
      match config.internalNatInbound with
      | none => stack
      | some manager =>
          if manager.useNat destIp then
            frames.map (PeerEffect.payload protocol.toUInt8 srcIp destIp)
          else if manager.noTun then []
          else stack
  | _ => []

def ipStackRecvTask (sinks : Sinks) (now : Instant) (data : Bytes) : List PeerEffect :=
  match config.network with
  | none => []
  | some net =>
      match TunDataInbound.send ⟨config.output⟩ sinks now data net with
      | .ok (some output) => [.output output]
      | _ => []

def handed (sinks : Sinks) (now : Instant) (msgType : MsgType) (src : Ipv4Addr)
    (packet : NetPacket) : List PeerEffect :=
  match config.network with
  | none => []
  | some net =>
      match config.enhancedInbound.inbound sinks now net msgType src packet with
      | .ok (some output) => [.output output]
      | _ => []

end PeerConfig

/-- The destinations of what an effect puts into the stack of the NAT. -/
def PeerEffect.injects : PeerEffect → List Ipv4Addr
  | .output (.ipStack data) => (destinationOf data).toList
  | .payload _ _ destIp _ => [destIp]
  | _ => []

def PeerConfig.react (config : PeerConfig) (state : PeerState) :
    PeerEvent → PeerState × List PeerEffect
  | .inbound sinks now msgType src packet => (state, config.handed sinks now msgType src packet)
  | .quicStreamBi handshake => (state, config.quicStreamBiHandle handshake)
  | .quicStreamUni handshake frames => (state, config.quicStreamUniHandle frames handshake)
  | .ipStackRecv sinks now data =>
      (state, if config.noTun then [] else config.ipStackRecvTask sinks now data)
  | .tcpAccept localAddr =>
      match listenTask config.noTun config.network localAddr with
      | .ok effects => (state, effects.map .nat)
      | _ => (state, [])
  | .udpRecv now connects src dst packet =>
      let sent := handleOutbound state.natTable now connects src dst packet
      ({ state with natTable := sent.1 }, sent.2.map .nat)
  | .udpGc now => ({ state with natTable := state.natTable.gc now }, [])
  | .udpClose src dst => ({ state with natTable := state.natTable.remove (src, dst) }, [])
  | .icmpRecv src dst buf =>
      match innerIcmpSocketRecv config.noTun config.network state.icmpMap src dst buf with
      | .ok sent => ({ state with icmpMap := sent.1 }, sent.2.map .nat)
      | _ => (state, [])

def PeerConfig.step (config : PeerConfig) (state : PeerState) (event : PeerEvent) :
    PeerState × List PeerEffect :=
  let reacted := config.react state event
  ({ reacted.1 with injected := state.injected ++ reacted.2.flatMap PeerEffect.injects }, reacted.2)

namespace PeerConfig
variable (config : PeerConfig)

/-- Where a peer may get to. -/
def Permits (dest : Ipv4Addr) : Prop :=
  (∃ net, config.network = some net ∧ (net.network.contains dest = true ∨ dest = net.broadcast)) ∨
    isBroadcast dest = true ∨ isMulticast dest = true ∨ allow config.output dest = true

/-- 127.0.0.1 stands for the own address when that was asked for. -/
def Reaches (effect : PeerEffect) : Prop :=
  match effect with
  | .output (.tun data) | .output (.ipStack data) =>
      ∃ dest, destinationOf data = some dest ∧ config.Permits dest
  | .payload _ _ destIp _ => config.Permits destIp
  | .nat effect => ∃ dest, effect.requested = some dest ∧ config.Permits dest ∧
      (effect.target = some dest ∨ effect.target = some localhost ∧
        ∃ net, config.network = some net ∧ dest = net.ip)
  | .output (.quic _ _) | .quicTcp _ _ | .quicIp _ _ _ _ => True

/-- The stack of the NAT gives out nothing but what has been put into it. -/
def HandsOn (state : PeerState) (event : PeerEvent) : Prop :=
  match event with
  | .tcpAccept localAddr => ∃ dest ∈ state.injected, localAddr.ip = .v4 dest
  | .udpRecv _ _ _ dst _ => ∃ dest ∈ state.injected, dst.ip = .v4 dest
  | .icmpRecv _ dst _ => ∃ dest ∈ state.injected, dst = .v4 dest
  | _ => True

end PeerConfig

theorem TunDataInbound.send_accepted {inbound : TunDataInbound} {sinks : Sinks} {now : Instant}
    {data : Bytes} {net : NetworkAddr} {output : Output}
    (sent : inbound.send sinks now data net = .ok (some output)) :
    output = .tun data ∧ ∃ dest, destinationOf data = some dest ∧
      accepted net inbound.allowSubnet dest = true := by
  rw [TunDataInbound.send] at sent
  cases first : index data 0 with
  | err message => simp [first] at sent
  | panic => simp [first] at sent
  | ok byte =>
      rw [first, Outcome.ok_bind] at sent
      split at sent
      · cases sent
      · split at sent
        · cases sent
        · rename_i ipv4 parsed
          split at sent
          · rename_i passed
            split at sent
            · cases sent
              exact ⟨rfl, ipv4.getDestination, by rw [destinationOf, parsed]; rfl, passed⟩
            · cases sent
          · cases sent

theorem InternalNatInbound.send_accepted {inbound : InternalNatInbound} {sinks : Sinks}
    {now : Instant} {data : Bytes} {net : NetworkAddr} {output : Output}
    (sent : inbound.send sinks now data net = .ok (some output)) :
    output = .ipStack data ∧ ∃ dest, destinationOf data = some dest ∧
      accepted net inbound.allowSubnet dest = true := by
  rw [InternalNatInbound.send] at sent
  cases first : index data 0 with
  | err message => simp [first] at sent
  | panic => simp [first] at sent
  | ok byte =>
      rw [first, Outcome.ok_bind] at sent
      split at sent
      · cases sent
      · split at sent
        · cases sent
        · rename_i ipv4 parsed
          split at sent
          · rename_i passed
            split at sent
            · cases sent
              exact ⟨rfl, ipv4.getDestination, by rw [destinationOf, parsed]; rfl, passed⟩
            · cases sent
          · cases sent

namespace PeerConfig
variable {config : PeerConfig} {net : NetworkAddr} {dest : Ipv4Addr}

theorem permits_accepted (network : config.network = some net)
    (passed : accepted net config.output dest = true) : config.Permits dest := by
  simp only [accepted, Bool.or_eq_true, beq_iff_eq] at passed
  rcases passed with (((inside | broadcast) | limited) | multicast) | listed
  · exact Or.inl ⟨net, network, Or.inl inside⟩
  · exact Or.inl ⟨net, network, Or.inr broadcast⟩
  · exact Or.inr (Or.inl limited)
  · exact Or.inr (Or.inr (Or.inl multicast))
  · exact Or.inr (Or.inr (Or.inr listed))

theorem permits_networkContains {manager : InternalNatManager}
    (same : manager.network = config.network) (inside : manager.networkContains dest = true) :
    config.Permits dest := by
  rw [InternalNatManager.networkContains, same] at inside
  cases network : config.network with
  | none =>
      rw [network] at inside
      cases inside
  | some net =>
      rw [network] at inside
      exact Or.inl ⟨net, network, Or.inl inside⟩

theorem internalNatInbound_eq {manager : InternalNatManager}
    (found : config.internalNatInbound = some manager) :
    manager = ⟨⟨config.output⟩, config.noTun, config.network⟩ := by
  rw [internalNatInbound] at found
  split at found
  · cases found
  · exact (Option.some.inj found).symm

theorem permits_useNat {manager : InternalNatManager}
    (found : config.internalNatInbound = some manager) (used : manager.useNat dest = true) :
    config.Permits dest := by
  have same := internalNatInbound_eq found
  have listed : allow manager.allowSubnet dest = true → config.Permits dest := by
    intro listed
    rw [same] at listed
    exact Or.inr (Or.inr (Or.inr listed))
  have inside : manager.networkContains dest = true → config.Permits dest :=
    permits_networkContains (by rw [same])
  rw [InternalNatManager.useNat] at used
  split at used
  · rw [InternalNatManager.allowNat, Bool.or_eq_true] at used
    exact used.elim listed inside
  · split at used
    · cases used
    · exact listed used

theorem reaches_sent {output : Output} {inbound : EnhancedTunInbound} {sinks : Sinks}
    {now : Instant} {data : Bytes} (network : config.network = some net)
    (mode : inbound = config.enhancedTunInbound)
    (sent : inbound.inbound sinks now data net = .ok (some output)) :
    config.Reaches (.output output) := by
  rw [mode, enhancedTunInbound] at sent
  split at sent
  · obtain ⟨rfl, dest, found, passed⟩ := InternalNatInbound.send_accepted sent
    exact ⟨dest, found, permits_accepted network passed⟩
  · obtain ⟨rfl, dest, found, passed⟩ := TunDataInbound.send_accepted sent
    exact ⟨dest, found, permits_accepted network passed⟩

theorem reaches_handed (sinks : Sinks) (now : Instant) (msgType : MsgType) (src : Ipv4Addr)
    (packet : NetPacket) : ∀ effect ∈ config.handed sinks now msgType src packet,
      config.Reaches effect := by
  intro effect member
  rw [handed] at member
  split at member
  · cases member
  · rename_i net network
    split at member
    · rename_i output sent
      rw [List.mem_singleton.mp member]
      cases msgType with
      | turn =>
          rw [EnhancedInbound.inbound] at sent
          simp only at sent
          split at sent
          · rename_i nat found
            split at sent
            · cases sent
            · split at sent
              · obtain ⟨manager, held, rfl⟩ := Option.map_eq_some_iff.mp found
                obtain ⟨rfl, dest, there, passed⟩ := InternalNatInbound.send_accepted sent
                rw [internalNatInbound_eq held] at passed
                exact ⟨dest, there, permits_accepted network passed⟩
              · exact reaches_sent network rfl sent
          · exact reaches_sent network rfl sent
      | broadcast => exact reaches_sent network rfl sent
      | excludeBroadcast => exact reaches_sent network rfl sent
      | quic =>
          rw [EnhancedInbound.inbound] at sent
          split at sent
          · cases sent
            trivial
          · cases sent
      | _ => cases sent
    · cases member

/-- A dialed destination that may be reached, as it is or as the own address. -/
theorem reaches_dialed {effect : NatEffect} (permitted : config.Permits dest)
    (requested : effect.requested = some dest)
    (target : effect.target = some dest ∨ effect.target = some localhost ∧
      ∃ net, config.network = some net ∧ dest = net.ip) : config.Reaches (.nat effect) :=
  ⟨dest, requested, permitted, target⟩

theorem reaches_tcpNat {manager : InternalNatManager} {port : UInt16} {effects : List NatEffect}
    (found : config.internalNatInbound = some manager) (used : manager.useNat dest = true)
    (dialed : manager.tcpNat dest port = .ok effects) :
    ∀ effect ∈ effects.map PeerEffect.nat, config.Reaches effect := by
  have permitted := permits_useNat found used
  have same := internalNatInbound_eq found
  intro effect member
  obtain ⟨sent, inside, rfl⟩ := List.mem_map.mp member
  rw [InternalNatManager.tcpNat] at dialed
  split at dialed
  · split at dialed
    · cases dialed
    · rename_i net network
      rw [same] at network
      split at dialed
      · rename_i own
        cases dialed
        rw [List.mem_singleton.mp inside]
        exact reaches_dialed permitted rfl (Or.inr ⟨rfl, net, network, own⟩)
      · split at dialed
        · cases dialed
          cases inside
        · cases dialed
          rw [List.mem_singleton.mp inside]
          exact reaches_dialed permitted rfl (Or.inl rfl)
  · cases dialed
    rw [List.mem_singleton.mp inside]
    exact reaches_dialed permitted rfl (Or.inl rfl)

theorem mapping_refused (off : config.allowPortMapping = false)
    (connect : DialTarget → DialTarget → NatEffect) (host : String) (port : UInt16) :
    config.portMappingManager.mapping connect host port = .ok [] := by
  rw [PortMappingManager.mapping, portMappingManager, off]
  rfl

theorem reaches_bi (off : config.allowPortMapping = false) (handshake : Option Handshake) :
    ∀ effect ∈ config.quicStreamBiHandle handshake, config.Reaches effect := by
  intro effect member
  cases handshake with
  | none => cases member
  | some handshake =>
      cases handshake with
      | ip protocol srcIp destIp => cases member
      | tcpPortMapping host port =>
          rw [quicStreamBiHandle, PortMappingManager.tcpMapping, mapping_refused off] at member
          cases member
      | udpPortMapping host port =>
          rw [quicStreamBiHandle, PortMappingManager.udpMapping, mapping_refused off] at member
          cases member
      | tcp srcIp srcPort dstIp dstPort =>
          have stack : ∀ effect ∈ (if config.noTun then []
              else [PeerEffect.quicTcp ⟨.v4 srcIp, srcPort.toUInt16⟩ ⟨.v4 dstIp, dstPort.toUInt16⟩]),
              config.Reaches effect := by
            intro effect member
            split at member
            · cases member
            · rw [List.mem_singleton.mp member]
              trivial
          rw [quicStreamBiHandle] at member
          simp only at member
          split at member
          · cases member
          · split at member
            · exact stack effect member
            · rename_i manager found
              split at member
              · rename_i used
                split at member
                · rename_i effects dialed
                  exact reaches_tcpNat found used dialed effect member
                · cases member
              · split at member
                · cases member
                · exact stack effect member

theorem reaches_uni (frames : List Bytes) (handshake : Option Handshake) :
    ∀ effect ∈ config.quicStreamUniHandle frames handshake, config.Reaches effect := by
  intro effect member
  cases handshake with
  | none => cases member
  | some handshake =>
      cases handshake with
      | ip protocol srcIp destIp =>
          have stack : ∀ effect ∈ (if config.noTun then []
              else frames.map (PeerEffect.quicIp protocol.toUInt8 srcIp destIp)),
              config.Reaches effect := by
            intro effect member
            split at member
            · cases member
            · obtain ⟨frame, _, rfl⟩ := List.mem_map.mp member
              trivial
          rw [quicStreamUniHandle] at member
          split at member
          · exact stack effect member
          · rename_i manager found
            split at member
            · rename_i used
              obtain ⟨frame, _, rfl⟩ := List.mem_map.mp member
              exact permits_useNat found used
            · split at member
              · cases member
              · exact stack effect member
      | _ => cases member

theorem reaches_ipStackRecv (sinks : Sinks) (now : Instant) (data : Bytes) :
    ∀ effect ∈ config.ipStackRecvTask sinks now data, config.Reaches effect := by
  intro effect member
  rw [ipStackRecvTask] at member
  split at member
  · cases member
  · rename_i net network
    split at member
    · rename_i output sent
      rw [List.mem_singleton.mp member]
      obtain ⟨rfl, dest, found, passed⟩ := TunDataInbound.send_accepted sent
      exact ⟨dest, found, permits_accepted network passed⟩
    · cases member

theorem reaches_tcpAccept {localAddr : SocketAddr} {effects : List NatEffect}
    (permitted : config.Permits dest) (asked : localAddr.ip = .v4 dest)
    (dialed : listenTask config.noTun config.network localAddr = .ok effects) :
    ∀ effect ∈ effects.map PeerEffect.nat, config.Reaches effect := by
  obtain ⟨ip, port⟩ := localAddr
  cases asked
  intro effect member
  obtain ⟨sent, inside, rfl⟩ := List.mem_map.mp member
  rw [listenTask] at dialed
  split at dialed
  · simp only at dialed
    split at dialed
    · cases dialed
    · rename_i net network
      split at dialed
      · rename_i own
        cases dialed
        rw [List.mem_singleton.mp inside]
        exact reaches_dialed permitted rfl (Or.inr ⟨rfl, net, network, own⟩)
      · cases dialed
        rw [List.mem_singleton.mp inside]
        exact reaches_dialed permitted rfl (Or.inl rfl)
  · cases dialed
    rw [List.mem_singleton.mp inside]
    exact reaches_dialed permitted rfl (Or.inl rfl)

theorem reaches_udpRecv (table : NatTable) (now : Instant) (connects : Bool) {src dst : SocketAddr}
    (packet : Bytes) (permitted : config.Permits dest) (asked : dst.ip = .v4 dest) :
    ∀ effect ∈ (handleOutbound table now connects src dst packet).2.map PeerEffect.nat,
      config.Reaches effect := by
  obtain ⟨ip, port⟩ := dst
  cases asked
  intro effect member
  obtain ⟨sent, inside, rfl⟩ := List.mem_map.mp member
  rw [handleOutbound] at inside
  split at inside
  · rename_i entry found
    rw [List.mem_singleton.mp inside, table.own _ _ found]
    exact reaches_dialed permitted rfl (Or.inl rfl)
  · split at inside
    · rcases List.mem_pair.mp inside with rfl | rfl
      · exact reaches_dialed permitted rfl (Or.inl rfl)
      · exact reaches_dialed permitted rfl (Or.inl rfl)
    · rw [List.mem_singleton.mp inside]
      exact reaches_dialed permitted rfl (Or.inl rfl)

theorem reaches_icmpRecv {map : IcmpMap} {src : IpAddr} {buf : Bytes}
    {sent : IcmpMap × List NatEffect} (permitted : config.Permits dest)
    (echoed : innerIcmpSocketRecv config.noTun config.network map src (.v4 dest) buf = .ok sent) :
    ∀ effect ∈ sent.2.map PeerEffect.nat, config.Reaches effect := by
  intro effect member
  obtain ⟨effect, inside, rfl⟩ := List.mem_map.mp member
  cases src with
  | v6 bits =>
      cases echoed
      cases inside
  | v4 src =>
      rw [innerIcmpSocketRecv] at echoed
      split at echoed
      · cases echoed
        cases inside
      · split at echoed
        · split at echoed
          · split at echoed
            · cases echoed
            · rename_i net network
              cases echoed
              rw [List.mem_singleton.mp inside]
              by_cases own : dest = net.ip
              · refine reaches_dialed permitted rfl (Or.inr ⟨?_, net, network, own⟩)
                rw [NatEffect.target, if_pos own]
              · refine reaches_dialed permitted rfl (Or.inl ?_)
                rw [NatEffect.target, if_neg own]
          · cases echoed
            rw [List.mem_singleton.mp inside]
            exact reaches_dialed permitted rfl (Or.inl rfl)
        · cases echoed
          cases inside

def Injected (config : PeerConfig) (state : PeerState) : Prop :=
  ∀ dest ∈ state.injected, config.Permits dest

theorem react_reaches (off : config.allowPortMapping = false) {state : PeerState}
    (injected : config.Injected state) (event : PeerEvent) (handsOn : HandsOn state event) :
    ∀ effect ∈ (config.react state event).2, config.Reaches effect := by
  intro effect member
  cases event with
  | inbound sinks now msgType src packet =>
      exact reaches_handed sinks now msgType src packet effect member
  | quicStreamBi handshake => exact reaches_bi off handshake effect member
  | quicStreamUni handshake frames => exact reaches_uni frames handshake effect member
  | ipStackRecv sinks now data =>
      simp only [react] at member
      split at member
      · cases member
      · exact reaches_ipStackRecv sinks now data effect member
  | tcpAccept localAddr =>
      obtain ⟨dest, inside, asked⟩ := handsOn
      simp only [react] at member
      split at member
      · rename_i effects dialed
        exact reaches_tcpAccept (injected dest inside) asked dialed effect member
      · cases member
  | udpRecv now connects src dst packet =>
      obtain ⟨dest, inside, asked⟩ := handsOn
      exact reaches_udpRecv state.natTable now connects packet (injected dest inside) asked
        effect member
  | udpGc now => cases member
  | udpClose src dst => cases member
  | icmpRecv src dst buf =>
      obtain ⟨dest, inside, rfl⟩ := handsOn
      simp only [react] at member
      split at member
      · rename_i sent echoed
        exact reaches_icmpRecv (injected dest inside) echoed effect member
      · cases member

theorem permits_injects {effect : PeerEffect} (reaches : config.Reaches effect) :
    ∀ dest ∈ effect.injects, config.Permits dest := by
  intro dest member
  cases effect with
  | output output =>
      cases output with
      | ipStack data =>
          obtain ⟨other, found, permitted⟩ := reaches
          rw [PeerEffect.injects, found] at member
          rw [List.mem_singleton.mp member]
          exact permitted
      | tun data => cases member
      | quic src data => cases member
  | payload protocol srcIp destIp payload =>
      rw [List.mem_singleton.mp member]
      exact reaches
  | nat effect => cases member
  | quicTcp src dst => cases member
  | quicIp protocol srcIp destIp payload => cases member

theorem react_injected (config : PeerConfig) (state : PeerState) (event : PeerEvent) :
    (config.step state event).1.injected =
      state.injected ++ (config.react state event).2.flatMap PeerEffect.injects := rfl

/-- With port mapping off, everything that peers bring about at a node goes where they
may get to. -/
theorem peers_reach_permitted (config : PeerConfig) (off : config.allowPortMapping = false)
    (events : List PeerEvent)
    (handsOn : Machine.Along config.step HandsOn PeerState.new events) :
    Machine.Along config.step
      (fun state event => ∀ effect ∈ (config.step state event).2, config.Reaches effect)
      PeerState.new events := by
  apply Machine.along_of_invariant config.step config.Injected HandsOn
  · intro state event _ injected handsOn
    have reaches := react_reaches off injected event handsOn
    refine ⟨reaches, ?_⟩
    intro dest member
    rw [react_injected] at member
    rcases List.mem_append.mp member with old | new
    · exact injected dest old
    · obtain ⟨effect, inside, here⟩ := List.mem_flatMap.mp new
      exact permits_injects (reaches effect inside) dest here
  · intro dest member
    cases member
  · exact handsOn

end PeerConfig

def sampleGateway : PeerConfig := ⟨some sampleNetwork, true, false, false, []⟩

def sampleHeader : Bytes := [0x45, 0, 0, 20, 0, 0, 0, 0, 64, 6, 0, 0, 10, 26, 0, 4, 10, 26, 0, 3]

/-- A TCP packet for the node goes into the stack of the NAT, and the connection that comes
out of it is dialed at 127.0.0.1. -/
theorem PeerConfig.own_address_reached :
    Machine.Along sampleGateway.step
      (fun state event =>
        ∀ effect ∈ (sampleGateway.step state event).2, sampleGateway.Reaches effect)
      PeerState.new
      [.inbound openSinks 0 .turn 0x0A1A0004
          ⟨⟨0x81, 0x54, 0, 0, 0, 0x0A1A0004, 0x0A1A0003⟩, sampleHeader⟩,
        .tcpAccept ⟨.v4 0x0A1A0003, 80⟩] :=
  PeerConfig.peers_reach_permitted sampleGateway rfl _
    ⟨trivial, ⟨0x0A1A0003, by decide +kernel, rfl⟩, trivial⟩

end VntClient
