import VntClient.Inbound

/-!
`tunnel_core/server/inbound.rs`. Packets with the gateway flag come from the
server itself; the others come from clients through it.
-/

namespace VntClient

/-- The transport layer part of an IPv4 packet. -/
def Ipv4Packet.payload (packet : Ipv4Packet) : Bytes :=
  let headerLength := (packet.data.getD 0 0).toNat % 16 * 4
  let totalLength := (packet.data.getD 2 0).toNat * 256 + (packet.data.getD 3 0).toNat
  (packet.data.drop (20 + (headerLength - 20))).take (totalLength - headerLength)

/-- An ICMP echo reply inside IPv4, the only data taken from the server. -/
def isEchoReply (data : Bytes) : Bool :=
  match Ipv4Packet.new data with
  | none => false
  | some ipv4 =>
      (ipv4.data.getD 0 0).toNat / 16 == 4 && ipv4.data.getD 9 0 == 1 &&
        decide (4 ≤ ipv4.payload.length) && ipv4.payload.headD 1 == 0

namespace ServerTurnInboundHandler

def handleServerData (config : NodeConfig) (clock : Clock) (networkAddr : NetworkAddr)
    (state : NodeState) (data : Bytes) : Handled :=
  Handled.attempt state (NetPacket.new data) fun netPacket =>
  Handled.attempt state netPacket.msgType fun msgType =>
  Handled.attempt state (config.packetCompression.decompress netPacket) fun netPacket =>
    match msgType with
    | .turn =>
        if isEchoReply netPacket.payload then
          deliver config clock networkAddr msgType netPacket.srcId state netPacket
        else Handled.done state
    | .ping =>
        let packet := (netPacket.setTtl 2).setMsgType .pong
        let packet := (packet.setSrcId networkAddr.ip).setDestId netPacket.srcId
        sent config clock state (.sendTurn packet) packet
    | .pongTurn =>
        if netPacket.payload.length = 16 then
          let time := fromBeBytes64 netPacket.payload
          if time ≤ clock.ms then ⟨state, [.setServerRtt (elapsedMs clock.ms time)], .ok ()⟩
          else Handled.done state
        else Handled.done state
    | .pushClientIps =>
        if config.parsesClientList netPacket.payload then
          ⟨state, [.updateClientList netPacket.payload], .ok ()⟩
        else ⟨state, [], .err "decode client list"⟩
    | .rpcRes =>
        if config.parsesRpcResponse netPacket.payload then
          ⟨state, [.notifyResponse netPacket.payload], .ok ()⟩
        else ⟨state, [], .err "decode rpc response"⟩
    | _ => Handled.done state

def processDecompressedPacket (config : NodeConfig) (clock : Clock) (networkAddr : NetworkAddr)
    (msgType : MsgType) (src dest : Ipv4Addr) (state : NodeState) (netPacket : NetPacket) :
    Handled :=
  match msgType with
  | .turn | .broadcast => deliver config clock networkAddr msgType src state netPacket
  | .punchStart1 =>
      if config.parsesPunchInfo netPacket.payload then
        match config.punchInfo with
        | none => Handled.done state
        | some selfPunchInfo =>
            let updated := Effect.updateNatInfo src netPacket.payload
            match config.punch clock.now src netPacket.payload with
            | .ok true =>
                match controlPacket selfPunchInfo.length .punchStart2 2 dest src selfPunchInfo with
                | .ok packet =>
                    let packet := config.packetCrypto.encryptInPlace packet
                    ⟨state, [updated, .sendTurn packet],
                      if config.sends clock.now packet then .ok () else .err "send"⟩
                | .err message => ⟨state, [updated], .err message⟩
                | .panic => ⟨state, [updated], .panic⟩
            | .ok false => ⟨state, [updated], .ok ()⟩
            | .err message => ⟨state, [updated], .err message⟩
            | .panic => ⟨state, [updated], .panic⟩
      else ⟨state, [], .err "decode punch info"⟩
  | .punchStart2 =>
      if config.parsesPunchInfo netPacket.payload then
        ⟨state, [.recordPunch src, .updateNatInfo src netPacket.payload],
          config.punchUncheck clock.now src netPacket.payload⟩
      else ⟨state, [.recordPunch src], .err "decode punch info"⟩
  | _ => Handled.done state

def handleClientData (config : NodeConfig) (clock : Clock) (networkAddr : NetworkAddr)
    (state : NodeState) (data : Bytes) : Handled :=
  Handled.attempt state (NetPacket.new data) fun netPacket =>
  Handled.attempt state netPacket.msgType fun msgType =>
    let src := netPacket.srcId
    let dest := netPacket.destId
    if msgType = .quic then handleQuic config clock networkAddr src state netPacket
    else
      match config.packetCrypto.decryptInPlace netPacket with
      | .ok netPacket =>
          handleOpened config clock
            (processDecompressedPacket config clock networkAddr msgType src dest) state netPacket
      | _ => Handled.done state

/-- `handle`, with the address the handler was made with. -/
def handle (config : NodeConfig) (clock : Clock) (networkAddr : Option NetworkAddr)
    (state : NodeState) (data : Bytes) : Handled :=
  Handled.attempt state (NetPacket.new data) fun netPacket =>
    match networkAddr with
    | none => ⟨state, [], .err "未找到自身IP"⟩
    | some networkAddr =>
        if netPacket.isGateway then handleServerData config clock networkAddr state data
        else
          let dest := netPacket.destId
          if !isBroadcast dest && !isUnspecified dest && networkAddr.ip != dest then
            Handled.done state
          else handleClientData config clock networkAddr state data

end ServerTurnInboundHandler
end VntClient
