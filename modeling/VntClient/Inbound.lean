import VntClient.FecDecoder
import VntClient.RouteTable
import VntClient.PacketCrypto
import VntClient.Compression

/-!
What the P2P and the server handler have in common: the state they share, the
effects they have, and the way from a received packet through decryption, FEC
decoding and decompression to the processing of each packet it stands for.
-/

namespace VntClient

structure Clock where
  now : Instant
  ms : Int

/-- What a handler does to the outside, in order. -/
inductive Effect where
  | inbound (msgType : MsgType) (src : Ipv4Addr) (packet : NetPacket)
  | forward (routeKey : RouteKey) (packet : NetPacket)
  | sendTo (addr : SocketAddr) (packet : NetPacket)
  | sendTurn (packet : NetPacket)
  | recordReceived (ip : Ipv4Addr)
  | recordPunch (ip : Ipv4Addr)
  | updateNatInfo (ip : Ipv4Addr) (info : Bytes)
  | setServerRtt (rtt : UInt32)
  | updateClientList (list : Bytes)
  | notifyResponse (response : Bytes)
deriving DecidableEq

/-- The decoder is one for both handlers, and so is the route table. -/
structure NodeState where
  decoder : FecDecoder
  routeTable : RouteTable

structure Handled where
  state : NodeState
  effects : List Effect
  outcome : Outcome Unit

/-- Everything around the handlers that they only read: configuration, the
receiving ends, the punching component and the codecs of its messages. -/
structure NodeConfig where
  network : Option NetworkAddr
  subnetRoutes : List Ipv4Net
  packetCrypto : PacketCrypto
  packetCompression : PacketCompression
  enhancedInbound : EnhancedInbound
  defaultRtt : UInt32
  sinks : Sinks
  sends : Instant → NetPacket → Bool
  punchInfo : Option Bytes
  parsesPunchInfo : Bytes → Bool
  punch : Instant → Ipv4Addr → Bytes → Outcome Bool
  punchUncheck : Instant → Ipv4Addr → Bytes → Outcome Unit
  parsesClientList : Bytes → Bool
  parsesRpcResponse : Bytes → Bool

def NodeConfig.networkContains (config : NodeConfig) (ip : Ipv4Addr) : Bool :=
  (config.network.any fun net => net.network.contains ip) || allow config.subnetRoutes ip

def fromBeBytes64 (bytes : Bytes) : Int :=
  (BitVec.ofNat 64 ((bytes.take 8).foldl (fun value byte => 256 * value + byte.toNat) 0)).toInt

def toBeBytes64 (value : Int) : Bytes :=
  let bits := (BitVec.ofInt 64 value).toNat
  [UInt8.ofNat (bits / 2 ^ 56), UInt8.ofNat (bits / 2 ^ 48), UInt8.ofNat (bits / 2 ^ 40),
    UInt8.ofNat (bits / 2 ^ 32), UInt8.ofNat (bits / 2 ^ 24), UInt8.ofNat (bits / 2 ^ 16),
    UInt8.ofNat (bits / 2 ^ 8), UInt8.ofNat bits]

/-- `as u32` of a difference of two `i64`. -/
def elapsedMs (now time : Int) : UInt32 := UInt32.ofBitVec (BitVec.ofInt 32 (now - time))

/-- A packet of the node's own: a zeroed buffer with `size` payload bytes, the
header set, then the payload written. -/
def controlPacket (size : Nat) (msgType : MsgType) (ttl : UInt8) (src dest : Ipv4Addr)
    (payload : Bytes) : Outcome NetPacket :=
  let packet := ((NetPacket.zeroed size).setMsgType msgType).setTtl ttl
  ((packet.setSrcId src).setDestId dest).setPayload payload

namespace Handled

def done (state : NodeState) : Handled := ⟨state, [], .ok ()⟩

def attempt {α : Type} (state : NodeState) (outcome : Outcome α) (next : α → Handled) : Handled :=
  match outcome with
  | .ok value => next value
  | .err message => ⟨state, [], .err message⟩
  | .panic => ⟨state, [], .panic⟩

/-- One packet after the other, up to the first that fails. -/
def forEach (process : NodeState → NetPacket → Handled) : NodeState → List NetPacket → Handled
  | state, [] => done state
  | state, packet :: rest =>
      let here := process state packet
      match here.outcome with
      | .ok _ =>
          let later := forEach process here.state rest
          ⟨later.state, here.effects ++ later.effects, later.outcome⟩
      | _ => here

end Handled

section Flow
variable (config : NodeConfig) (clock : Clock)

def sent (state : NodeState) (effect : Effect) (packet : NetPacket) : Handled :=
  ⟨state, [effect], if config.sends clock.now packet then .ok () else .err "send"⟩

def deliver (net : NetworkAddr) (msgType : MsgType) (src : Ipv4Addr) (state : NodeState)
    (packet : NetPacket) : Handled :=
  ⟨state, [.inbound msgType src packet],
    (config.enhancedInbound.inbound config.sinks clock.now net msgType src packet).bind
      fun _ => .ok ()⟩

def decodeFec (state : NodeState) (netPacket : NetPacket) : NodeState × Outcome (List NetPacket) :=
  let received := state.decoder.receive clock.now netPacket
  ({ state with decoder := received.1 }, received.2.bind fun packets =>
    .ok ((packets.getD []).map Returned.packet))

def handleFec (process : NodeState → NetPacket → Handled) (state : NodeState)
    (netPacket : NetPacket) : Handled :=
  let decoded := decodeFec clock state netPacket
  Handled.attempt decoded.1 decoded.2 fun packets => Handled.forEach process decoded.1 packets

/-- QUIC data is neither encrypted nor compressed, but may be under FEC. -/
def handleQuic (net : NetworkAddr) (src : Ipv4Addr) (state : NodeState) (netPacket : NetPacket) :
    Handled :=
  if netPacket.isFec then handleFec clock (deliver config clock net .quic src) state netPacket
  else deliver config clock net .quic src state netPacket

def decompressed (process : NodeState → NetPacket → Handled) (state : NodeState)
    (netPacket : NetPacket) : Handled :=
  Handled.attempt state (config.packetCompression.decompress netPacket) fun netPacket =>
    process state netPacket

/-- From the decrypted packet on: FEC decoding if the flag is set, then each packet. -/
def handleOpened (process : NodeState → NetPacket → Handled) (state : NodeState)
    (netPacket : NetPacket) : Handled :=
  if netPacket.isFec then handleFec clock (decompressed config process) state netPacket
  else decompressed config process state netPacket

end Flow
end VntClient
