import VntClient.Inbound

/-!
`tunnel_core/p2p/inbound.rs`. A packet is dropped, forwarded with its lowered
TTL, or handled here under the type in its header.
-/

namespace VntClient

structure PacketContext where
  msgType : MsgType
  srcIp : Ipv4Addr
  destIp : Ipv4Addr
  maxTtl : UInt8
  ttl : UInt8

namespace P2pInboundHandler

inductive Triage where
  | drop
  | forward (routeKey : RouteKey) (packet : NetPacket)
  | handle (net : NetworkAddr) (packet : NetPacket) (ctx : PacketContext)

def elsewhere (net : NetworkAddr) (destIp : Ipv4Addr) : Bool :=
  net.ip != destIp && !isBroadcast destIp && !isUnspecified destIp && destIp != net.broadcast

def triage (config : NodeConfig) (table : RouteTable) (buf : Bytes) : Outcome Triage := do
  let netPacket ← NetPacket.new buf
  let msgType ← netPacket.msgType
  let srcIp := netPacket.srcId
  let destIp := netPacket.destId
  if srcIp = destIp then pure .drop
  else
    let netPacket := netPacket.decrTtl
    let maxTtl := netPacket.maxTtl
    let ttl := netPacket.ttl
    if maxTtl ≤ ttl then pure .drop
    else
      match config.network with
      | none => .err "未找到自身IP"
      | some net =>
          if elsewhere net destIp then
            if 1 ≤ ttl then
              match table.getRouteById destIp with
              | some route => pure (.forward route.routeKey netPacket)
              | none => pure .drop
            else pure .drop
          else pure (.handle net netPacket ⟨msgType, srcIp, destIp, maxTtl, ttl⟩)

/-- A reply with TTL 1 to where the packet came from. -/
def reply (config : NodeConfig) (clock : Clock) (routeKey : RouteKey) (ctx : PacketContext)
    (msgType : MsgType) (state : NodeState) (payload : Bytes) : Handled :=
  Handled.attempt state (controlPacket 8 msgType 1 ctx.destIp ctx.srcIp payload) fun packet =>
    let packet := config.packetCrypto.encryptInPlace packet
    sent config clock state (.sendTo routeKey.addr packet) packet

def looped (config : NodeConfig) (routeKey : RouteKey) : Bool :=
  match routeKey.addr.ip with
  | .v4 ip => config.networkContains ip
  | .v6 _ => false

def processDecompressedPacket (config : NodeConfig) (clock : Clock) (net : NetworkAddr)
    (routeKey : RouteKey) (ctx : PacketContext) (state : NodeState) (netPacket : NetPacket) :
    Handled :=
  match ctx.msgType with
  | .turn | .broadcast | .excludeBroadcast =>
      deliver config clock net ctx.msgType ctx.srcIp state netPacket
  | .ping =>
      let metric := ctx.maxTtl - ctx.ttl
      let table := state.routeTable.addRouteIfAbsent clock.now ctx.srcIp
        ⟨routeKey, metric, config.defaultRtt⟩
      reply config clock routeKey ctx .pong { state with routeTable := table } netPacket.payload
  | .pong =>
      if 8 ≤ netPacket.payload.length then
        let metric := ctx.maxTtl - ctx.ttl
        let time := fromBeBytes64 netPacket.payload
        if time ≤ clock.ms then
          let table := state.routeTable.addRoute clock.now ctx.srcIp
            ⟨routeKey, metric, elapsedMs clock.ms time⟩
          ⟨{ state with routeTable := table }, [.recordReceived ctx.srcIp], .ok ()⟩
        else Handled.done state
      else Handled.done state
  | .punchReq =>
      if looped config routeKey then Handled.done state
      else
        let table := state.routeTable.addOwnerRoute config.defaultRtt clock.now ctx.srcIp routeKey
        reply config clock routeKey ctx .punchRes { state with routeTable := table }
          (toBeBytes64 clock.ms)
  | .punchRes =>
      if looped config routeKey then Handled.done state
      else
        let table := state.routeTable.addOwnerRoute config.defaultRtt clock.now ctx.srcIp routeKey
        Handled.done { state with routeTable := table }
  | _ => Handled.done state

def handleLocal (config : NodeConfig) (clock : Clock) (routeKey : RouteKey) (net : NetworkAddr)
    (ctx : PacketContext) (state : NodeState) (netPacket : NetPacket) : Handled :=
  if ctx.msgType = .quic then handleQuic config clock net ctx.srcIp state netPacket
  else
    Handled.attempt state (config.packetCrypto.decryptInPlace netPacket) fun netPacket =>
      handleOpened config clock
        (processDecompressedPacket config clock net routeKey ctx) state netPacket

def nextHandle (config : NodeConfig) (clock : Clock) (routeKey : RouteKey) (state : NodeState)
    (buf : Bytes) : Handled :=
  Handled.attempt state (triage config state.routeTable buf) fun verdict =>
    match verdict with
    | .drop => Handled.done state
    | .forward key packet => sent config clock state (.forward key packet) packet
    | .handle net packet ctx => handleLocal config clock routeKey net ctx state packet

/-- What the handler does to the route table when a TCP connection ends. -/
def tcpDisconnect (table : RouteTable) (routeKey : RouteKey) : RouteTable :=
  match table.getIdByRouteKey routeKey with
  | some ip => table.removeRoute ip routeKey
  | none => table

end P2pInboundHandler
end VntClient
