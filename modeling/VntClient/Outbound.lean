import VntClient.FecSender
import VntClient.Node

/-!
What a node sends: `tunnel_core/outbound.rs`, the parity worker, and the pings
and punch messages of the tunnel tasks. Every packet starts in a zeroed buffer.
-/

namespace VntClient

structure NetInput where
  net : Ipv4Net
  targetIp : Ipv4Addr
deriving DecidableEq

/-- `SubnetExternalRoute::route`, the table in order of falling prefix length. -/
def route (table : List NetInput) (ip : Ipv4Addr) : Option Ipv4Addr :=
  (table.find? fun input => input.net.contains ip).map NetInput.targetIp

structure HybridOutbound where
  node : NodeConfig
  externalRoute : List NetInput

/-- The FEC encoder, when FEC is on, beside what the handlers change. -/
structure SendingState where
  fecEncoder : Option FecEncoder
  node : NodeState

namespace HybridOutbound
variable (outbound : HybridOutbound)

def dataPacket (msgType : MsgType) (src dest : Ipv4Addr) (data : Bytes) : NetPacket :=
  let packet : NetPacket := ⟨NetHeader.zeroed, data⟩
  (((packet.setMsgType msgType).setSrcId src).setTtl 5).setDestId dest

def sealPacket (packet : NetPacket) : NetPacket := outbound.node.packetCrypto.encryptInPlace packet

/-- Through the encoder when there is one; an error leaves nothing to send. -/
def encoded (fecEncoder : Option FecEncoder) (now : Instant) (packet : NetPacket) :
    Option FecEncoder × Option NetPacket :=
  match fecEncoder with
  | none => (none, some packet)
  | some encoder =>
      match encoder.encode now packet with
      | .ok (encoder, packet) => (some encoder, some packet)
      | _ => (some encoder, none)

def ipv4Outbound (fecEncoder : Option FecEncoder) (now : Instant) (net : NetworkAddr)
    (data : Bytes) : Option FecEncoder × List NetPacket :=
  match Ipv4Packet.new data with
  | none => (fecEncoder, [])
  | some ipv4 =>
      let dest := ipv4.getDestination
      let target :=
        if net.network.contains dest then some dest else route outbound.externalRoute dest
      match target with
      | none => (fecEncoder, [])
      | some dest =>
          let packet := outbound.node.packetCompression.compress (dataPacket .turn net.ip dest data)
          let result := encoded fecEncoder now packet
          (result.1, result.2.toList.map outbound.sealPacket)

def ipv4BroadcastOutbound (net : NetworkAddr) (data : Bytes) : List NetPacket :=
  let packet := dataPacket .broadcast net.ip 0xFFFFFFFF data
  [outbound.sealPacket (outbound.node.packetCompression.compress packet)]

/-- QUIC data is not sealed, but passes through the encoder. -/
def outboundRaw (fecEncoder : Option FecEncoder) (now : Instant) (packet : NetPacket) :
    Option FecEncoder :=
  if packet.srcId = 0 then
    match outbound.node.network with
    | none => fecEncoder
    | some net => (encoded fecEncoder now (packet.setSrcId net.ip)).1
  else (encoded fecEncoder now packet).1

def worker (fecEncoder : Option FecEncoder) (event : EncoderEvent) :
    Option FecEncoder × List NetPacket :=
  match fecEncoder with
  | none => (none, [])
  | some encoder =>
      let result := encoder.step event
      (some result.1, result.2.map outbound.sealPacket)

def control (size : Nat) (msgType : MsgType) (ttl : UInt8) (dest : Ipv4Addr) (payload : Bytes) :
    List NetPacket :=
  match outbound.node.network with
  | none => []
  | some net =>
      match controlPacket size msgType ttl net.ip dest payload with
      | .ok packet => [outbound.sealPacket packet]
      | _ => []

/-- `ping_all`, for one route of a peer. -/
def ping (id : Ipv4Addr) (ms : Int) : List NetPacket :=
  outbound.control 8 .ping 1 id (toBeBytes64 ms)

/-- `relay_probe_task`, for one target and relay. -/
def relayPing (target : Ipv4Addr) (ms : Int) : List NetPacket :=
  outbound.control 8 .ping 2 target (toBeBytes64 ms)

/-- `punch_task`, for one peer. -/
def punchStart (dest : Ipv4Addr) (info : Bytes) : List NetPacket :=
  outbound.control info.length .punchStart1 2 dest info

def punchNow (dest : Ipv4Addr) (ms : Int) : List NetPacket :=
  outbound.control 8 .punchReq 1 dest (toBeBytes64 ms)

/-- The packets among a handler's effects that were sealed: what the server side
sends with the gateway flag goes out as it is. -/
def sealedEffect : Effect → List NetPacket
  | .sendTo _ packet => [packet]
  | .sendTurn packet => if packet.isGateway then [] else [packet]
  | _ => []

end HybridOutbound

inductive Action where
  | ipv4Outbound (now : Instant) (net : NetworkAddr) (data : Bytes)
  | ipv4BroadcastOutbound (net : NetworkAddr) (data : Bytes)
  | outboundRaw (now : Instant) (packet : NetPacket)
  | workerTick (now : Instant)
  | workerRecv
  | ping (id : Ipv4Addr) (ms : Int)
  | relayPing (target : Ipv4Addr) (ms : Int)
  | punchStart (dest : Ipv4Addr) (info : Bytes)
  | punchNow (dest : Ipv4Addr) (ms : Int)
  | receive (incoming : Incoming)

def HybridOutbound.step (outbound : HybridOutbound) (state : SendingState) :
    Action → SendingState × List NetPacket
  | .ipv4Outbound now net data =>
      let result := outbound.ipv4Outbound state.fecEncoder now net data
      ({ state with fecEncoder := result.1 }, result.2)
  | .ipv4BroadcastOutbound net data => (state, outbound.ipv4BroadcastOutbound net data)
  | .outboundRaw now packet =>
      ({ state with fecEncoder := outbound.outboundRaw state.fecEncoder now packet }, [])
  | .workerTick now =>
      let result := outbound.worker state.fecEncoder (.tick now)
      ({ state with fecEncoder := result.1 }, result.2)
  | .workerRecv =>
      let result := outbound.worker state.fecEncoder .recv
      ({ state with fecEncoder := result.1 }, result.2)
  | .ping id ms => (state, outbound.ping id ms)
  | .relayPing target ms => (state, outbound.relayPing target ms)
  | .punchStart dest info => (state, outbound.punchStart dest info)
  | .punchNow dest ms => (state, outbound.punchNow dest ms)
  | .receive incoming =>
      let result := outbound.node.step state.node incoming
      ({ state with node := result.1 }, result.2.flatMap HybridOutbound.sealedEffect)

end VntClient
