import VntClient.ClientProto
import VntClient.PeerTraffic

/-!
The handshake in front of every QUIC stream between two nodes: `send_handshake` of
`quic_client.rs` and `port_mapping/`, `recv_handshake` of `quic_server.rs`. The length
goes out in 16 bits, so a handshake arrives exactly when it is that short.
-/

namespace VntClient
open WireFormat
open WireFormat.FieldCodec (string uint32 fixed32)

def u16Bytes (value : UInt16) : Bytes := [UInt8.ofNat (value.toNat / 256), UInt8.ofNat value.toNat]

def sendHandshake (handshake : Proto.QuicProxyHandshake) : Bytes :=
  let encoded := handshake.encode
  u16Bytes (UInt16.ofNat encoded.length) ++ encoded

/-- What is read off the front of a stream, and the stream behind it; a stream that ends
before is an error. -/
def recvHandshake : Bytes → Option (Proto.QuicProxyHandshake × Bytes)
  | high :: low :: rest =>
      let len := high.toNat * 256 + low.toNat
      if rest.length < len then none
      else (Proto.QuicProxyHandshake.decode (rest.take len)).map fun handshake =>
        (handshake, rest.drop len)
  | _ => none

/-- The receiver takes what the 16 bits say, which is never more than there is. -/
theorem recvHandshake_sendHandshake (handshake : Proto.QuicProxyHandshake) (stream : Bytes) :
    recvHandshake (sendHandshake handshake ++ stream) =
      (Proto.QuicProxyHandshake.decode
        ((handshake.encode ++ stream).take (handshake.encode.length % 65536))).map fun read =>
          (read, (handshake.encode ++ stream).drop (handshake.encode.length % 65536)) := by
  have least := Nat.mod_le handshake.encode.length 65536
  have bound := Nat.mod_lt handshake.encode.length (show 65536 > 0 by decide)
  have len : (UInt8.ofNat ((UInt16.ofNat handshake.encode.length).toNat / 256)).toNat * 256 +
      (UInt8.ofNat (UInt16.ofNat handshake.encode.length).toNat).toNat =
        handshake.encode.length % 65536 := by
    rw [UInt8.toNat_ofNat', UInt8.toNat_ofNat', UInt16.toNat_ofNat']
    omega
  have enough : ¬ (handshake.encode ++ stream).length < handshake.encode.length % 65536 := by
    rw [List.length_append]
    omega
  simp only [sendHandshake, u16Bytes, List.cons_append, List.nil_append, recvHandshake, len, enough,
    ↓reduceIte]

theorem recvHandshake_eq_iff (handshake : Proto.QuicProxyHandshake) (stream : Bytes) :
    recvHandshake (sendHandshake handshake ++ stream) = some (handshake, stream) ↔
      handshake.encode.length < 65536 := by
  rw [recvHandshake_sendHandshake]
  constructor
  · intro arrived
    obtain ⟨read, _, same⟩ := Option.map_eq_some_iff.mp arrived
    have behind := congrArg List.length (Prod.mk.inj same).2
    rw [List.length_drop, List.length_append] at behind
    have bound := Nat.mod_lt handshake.encode.length (show 65536 > 0 by decide)
    omega
  · intro short
    rw [Nat.mod_eq_of_lt short, List.take_left, List.drop_left,
      Proto.QuicProxyHandshake.decode_encode (by omega), Option.map_some]

def Proto.Handshake.received : Proto.Handshake → VntClient.Handshake
  | .tcp msg => .tcp msg.srcIp msg.srcPort msg.dstIp msg.dstPort
  | .ip msg => .ip msg.ipNextHeaderProtocol msg.srcIp msg.dstIp
  | .tcpPortMapping msg => .tcpPortMapping msg.dstHost msg.dstPort
  | .udpPortMapping msg => .udpPortMapping msg.dstHost msg.dstPort


section Frames

/-- `LengthDelimitedCodec::new`: four bytes of length, at most 8 MiB a frame. -/
def maxFrameLength : Nat := 8388608

def encodeFrames (frames : List Bytes) : Bytes :=
  frames.flatMap fun frame => toBeBytes32 (UInt32.ofNat frame.length) ++ frame

/-- The frames up to the first that is incomplete or too long; each takes four bytes. -/
def decodeFrames : Nat → Bytes → List Bytes
  | fuel + 1, a :: b :: c :: d :: rest =>
      let len := (fromBeBytes32 a b c d).toNat
      if maxFrameLength < len ∨ rest.length < len then []
      else rest.take len :: decodeFrames fuel (rest.drop len)
  | _, _ => []

theorem decodeFrames_frame (fuel : Nat) {word : UInt32} (frame rest : Bytes)
    (fits : word.toNat = frame.length) (small : frame.length ≤ maxFrameLength) :
    decodeFrames (fuel + 1) (toBeBytes32 word ++ (frame ++ rest)) =
      frame :: decodeFrames fuel rest := by
  have whole : ¬ (maxFrameLength < frame.length ∨ (frame ++ rest).length < frame.length) := by
    rw [List.length_append]
    omega
  have len := (congrArg UInt32.toNat (NetPacket.fromBeBytes32_toBeBytes32 word)).trans fits
  simp only [toBeBytes32, List.cons_append, List.nil_append, decodeFrames, len, whole, ↓reduceIte,
    List.take_left, List.drop_left]

theorem decodeFrames_encodeFrames {frames : List Bytes} (stream : Bytes)
    (short : ∀ frame ∈ frames, frame.length ≤ maxFrameLength) {fuel : Nat}
    (enough : frames.length ≤ fuel) :
    ∃ fuel', decodeFrames fuel (encodeFrames frames ++ stream) = frames ++ decodeFrames fuel' stream := by
  induction frames generalizing fuel with
  | nil => exact ⟨fuel, rfl⟩
  | cons frame rest ih =>
      obtain ⟨fuel, rfl⟩ : ∃ n, fuel = n + 1 :=
        ⟨fuel - 1, by simp only [List.length_cons] at enough; omega⟩
      obtain ⟨fuel', others⟩ := ih (fun inner within => short inner (List.mem_cons_of_mem _ within))
        (Nat.le_of_succ_le_succ enough)
      have small := short frame List.mem_cons_self
      have fits : (UInt32.ofNat frame.length).toNat = frame.length := by
        rw [UInt32.toNat_ofNat']
        simp only [maxFrameLength] at small
        omega
      exact ⟨fuel', by
        rw [encodeFrames, List.flatMap_cons, List.append_assoc, List.append_assoc,
          decodeFrames_frame fuel frame _ fits small, ← encodeFrames, others, List.cons_append]⟩

theorem encodeFrames_length (frames : List Bytes) :
    frames.length ≤ (encodeFrames frames).length := by
  induction frames with
  | nil => exact Nat.zero_le _
  | cons frame rest ih =>
      have header : (toBeBytes32 (UInt32.ofNat frame.length)).length = 4 := rfl
      rw [encodeFrames, List.flatMap_cons, ← encodeFrames]
      simp only [List.length_append, List.length_cons, header]
      omega

theorem decodeFrames_all {frames : List Bytes}
    (short : ∀ frame ∈ frames, frame.length ≤ maxFrameLength) :
    decodeFrames (encodeFrames frames).length (encodeFrames frames) = frames := by
  obtain ⟨fuel, read⟩ := decodeFrames_encodeFrames [] short (encodeFrames_length frames)
  have nothing : decodeFrames fuel [] = [] := by cases fuel <;> rfl
  rwa [List.append_nil, nothing, List.append_nil] at read

end Frames

structure IpKey where
  protocol : UInt8
  src : Ipv4Addr
  dest : Ipv4Addr
deriving DecidableEq

/-- `tcp_stream_handle`; the stack accepted the stream in the place of its destination. -/
def tcpStreamHandle (streamLocal streamPeer : SocketAddr) : Outcome Proto.QuicProxyHandshake :=
  match streamLocal.ip with
  | .v6 _ => .err "invalid IP address"
  | .v4 dstIp =>
      match streamPeer.ip with
      | .v6 _ => .err "invalid IP address"
      | .v4 srcIp => .ok ⟨some (.tcp
          ⟨srcIp, streamPeer.port.toUInt32, dstIp, streamLocal.port.toUInt32⟩)⟩

/-- `spawn_dest_sender`. -/
def destSender (key : IpKey) : Proto.QuicProxyHandshake :=
  ⟨some (.ip ⟨key.protocol.toUInt32, key.src, key.dest⟩)⟩

section PortMapping
-- `IpAddr::to_string`
variable (ipToString : IpAddr → String)

/-- `stream_copy` of `tcp_port_mapping.rs`. -/
def streamCopy (src : SocketAddr) (dstHost : String) (dstPort : UInt16) :
    Proto.QuicProxyHandshake :=
  ⟨some (.tcpPortMapping ⟨ipToString src.ip, src.port.toUInt32, dstHost, dstPort.toUInt32⟩)⟩

/-- `udp_mapping_handle` of `udp_port_mapping.rs`. -/
def udpMappingHandle (src : SocketAddr) (dstHost : String) (dstPort : UInt16) :
    Proto.QuicProxyHandshake :=
  ⟨some (.udpPortMapping ⟨ipToString src.ip, src.port.toUInt32, dstHost, dstPort.toUInt32⟩)⟩

end PortMapping

namespace PeerConfig
variable (config : PeerConfig)

def acceptBi (stream : Bytes) : Option (List PeerEffect × Bytes) :=
  (recvHandshake stream).map fun (handshake, rest) =>
    (config.quicStreamBiHandle (handshake.handshake.map Proto.Handshake.received), rest)

def acceptUni (stream : Bytes) : Option (List PeerEffect) :=
  (recvHandshake stream).map fun (handshake, rest) =>
    config.quicStreamUniHandle (decodeFrames rest.length rest)
      (handshake.handshake.map Proto.Handshake.received)

theorem acceptBi_sendHandshake {handshake : Proto.QuicProxyHandshake} (stream : Bytes)
    (short : handshake.encode.length < 65536) :
    config.acceptBi (sendHandshake handshake ++ stream) =
      some (config.quicStreamBiHandle (handshake.handshake.map Proto.Handshake.received), stream) := by
  rw [acceptBi, (recvHandshake_eq_iff handshake stream).mpr short, Option.map_some]

/-- What is left of a stream tells whether its handshake was cut. -/
theorem acceptBi_rest {handshake : Proto.QuicProxyHandshake} {stream : Bytes}
    {effects : List PeerEffect}
    (accepted : config.acceptBi (sendHandshake handshake ++ stream) = some (effects, stream)) :
    handshake.encode.length < 65536 := by
  rw [acceptBi, recvHandshake_sendHandshake] at accepted
  simp only [Option.map_map, Option.map_eq_some_iff, Function.comp_apply, Prod.mk.injEq] at accepted
  obtain ⟨read, _, _, same⟩ := accepted
  have behind := congrArg List.length same
  rw [List.length_drop, List.length_append] at behind
  have bound := Nat.mod_lt handshake.encode.length (show 65536 > 0 by decide)
  omega


def mapped (effects : Outcome (List NatEffect)) : List PeerEffect :=
  match effects with
  | .ok effects => effects.map .nat
  | _ => []

end PeerConfig

namespace Proto

theorem fixed32_length (tag : Nat) (value : UInt32) :
    (fixed32.singular 0 tag value).length ≤ 20 :=
  (fixed32.singular_length (Nat.le_refl 4)).trans (by decide)

theorem uint32_length (tag : Nat) (value : UInt32) : (uint32.singular 0 tag value).length ≤ 20 :=
  uint32.singular_length (encodeVarint_length _)

theorem tcp_length (msg : TcpProxyHandshake) :
    (QuicProxyHandshake.encode ⟨some (.tcp msg)⟩).length < 65536 := by
  have first := fixed32_length 1 msg.srcIp
  have second := uint32_length 2 msg.srcPort
  have third := fixed32_length 3 msg.dstIp
  have fourth := uint32_length 4 msg.dstPort
  have key := encodeVarint_length (1 * 8 + WireType.lengthDelimited.number)
  have length := encodeVarint_length msg.encode.length
  have whole : (QuicProxyHandshake.encode ⟨some (.tcp msg)⟩).length =
      (encodeKey 1 .lengthDelimited).length +
        ((encodeVarint msg.encode.length).length + msg.encode.length) := by
    rw [← List.length_append, ← List.length_append]
    rfl
  rw [whole, encodeKey, TcpProxyHandshake.encode]
  rw [TcpProxyHandshake.encode] at length
  simp only [List.length_append] at length ⊢
  omega

theorem ip_length (msg : IpProxyHandshake) :
    (QuicProxyHandshake.encode ⟨some (.ip msg)⟩).length < 65536 := by
  have first := uint32_length 1 msg.ipNextHeaderProtocol
  have second := fixed32_length 2 msg.srcIp
  have third := fixed32_length 3 msg.dstIp
  have key := encodeVarint_length (2 * 8 + WireType.lengthDelimited.number)
  have length := encodeVarint_length msg.encode.length
  have whole : (QuicProxyHandshake.encode ⟨some (.ip msg)⟩).length =
      (encodeKey 2 .lengthDelimited).length +
        ((encodeVarint msg.encode.length).length + msg.encode.length) := by
    rw [← List.length_append, ← List.length_append]
    rfl
  rw [whole, encodeKey, IpProxyHandshake.encode]
  rw [IpProxyHandshake.encode] at length
  simp only [List.length_append] at length ⊢
  omega

end Proto

namespace PeerConfig
variable (config : PeerConfig)

theorem acceptUni_destSender (key : IpKey) {frames : List Bytes}
    (small : ∀ frame ∈ frames, frame.length ≤ maxFrameLength) :
    config.acceptUni (sendHandshake (destSender key) ++ encodeFrames frames) =
      some (config.quicStreamUniHandle frames
        (some (.ip key.protocol.toUInt32 key.src key.dest))) := by
  have arrived := (recvHandshake_eq_iff (destSender key) (encodeFrames frames)).mpr
    (Proto.ip_length _)
  rw [acceptUni, arrived, Option.map_some]
  simp only [decodeFrames_all small]
  rfl

/-- A connection is made for the addresses the stream was opened for. -/
def Serves (src dst : SocketAddr) (effect : PeerEffect) : Prop :=
  effect = .quicTcp src dst ∨ ∃ target, effect = .nat (.connectTcp (.addr dst) target)

theorem tcpPortMapping_mapped (dstHost : String) (dstPort : UInt16) :
    config.quicStreamBiHandle (some (.tcpPortMapping dstHost dstPort.toUInt32)) =
      mapped (config.portMappingManager.tcpMapping dstHost dstPort) := by
  cases found : config.portMappingManager.tcpMapping dstHost dstPort with
  | ok effects | err message | panic =>
      simp only [quicStreamBiHandle, UInt16.toUInt16_toUInt32, mapped, found]

theorem udpPortMapping_mapped (dstHost : String) (dstPort : UInt16) :
    config.quicStreamBiHandle (some (.udpPortMapping dstHost dstPort.toUInt32)) =
      mapped (config.portMappingManager.udpMapping dstHost dstPort) := by
  cases found : config.portMappingManager.udpMapping dstHost dstPort with
  | ok effects | err message | panic =>
      simp only [quicStreamBiHandle, UInt16.toUInt16_toUInt32, mapped, found]

theorem tcpNat_serves {manager : InternalNatManager} {dstIp : Ipv4Addr} {port : UInt16}
    {effects : List NatEffect} (dialled : manager.tcpNat dstIp port = .ok effects) :
    ∀ effect ∈ effects, ∃ target, effect = .connectTcp (.addr ⟨.v4 dstIp, port⟩) target := by
  unfold InternalNatManager.tcpNat at dialled
  split at dialled
  · split at dialled
    · cases dialled
    · split at dialled
      · cases dialled
        simp
      · split at dialled
        · cases dialled
          simp
        · cases dialled
          simp
  · cases dialled
    simp

theorem quicStreamBiHandle_serves (srcIp dstIp : Ipv4Addr) (srcPort dstPort : UInt16) :
    ∀ effect ∈ config.quicStreamBiHandle
        (some (.tcp srcIp srcPort.toUInt32 dstIp dstPort.toUInt32)),
      Serves ⟨.v4 srcIp, srcPort⟩ ⟨.v4 dstIp, dstPort⟩ effect := by
  intro effect made
  simp only [quicStreamBiHandle, UInt16.toUInt16_toUInt32] at made
  have stack : effect ∈ (if config.noTun then [] else
      [PeerEffect.quicTcp ⟨.v4 srcIp, srcPort⟩ ⟨.v4 dstIp, dstPort⟩]) →
        Serves ⟨.v4 srcIp, srcPort⟩ ⟨.v4 dstIp, dstPort⟩ effect := by
    intro given
    split at given
    · cases given
    · exact .inl (List.mem_singleton.mp given)
  split at made
  · cases made
  · split at made
    · exact stack made
    · split at made
      · split at made
        · rename_i effects dialled
          obtain ⟨inner, within, rfl⟩ := List.mem_map.mp made
          obtain ⟨target, rfl⟩ := tcpNat_serves dialled inner within
          exact .inr ⟨target, rfl⟩
        · cases made
      · split at made
        · cases made
        · exact stack made

/-- With a TUN every connection is made but that of an address to itself; without one it also
needs a way through the NAT, to the node's own address or out of the network. -/
def Connects (src : SocketAddr) (dstIp : Ipv4Addr) (dstPort : UInt16) : Prop :=
  src ≠ ⟨.v4 dstIp, dstPort⟩ ∧
    (config.noTun = true → ∃ manager net, config.internalNatInbound = some manager ∧
      manager.network = some net ∧ manager.useNat dstIp = true ∧
        (dstIp = net.ip ∨ net.network.contains dstIp = false))

theorem tcpNat_made_iff {manager : InternalNatManager} (noTun : manager.noTun = true)
    (dstIp : Ipv4Addr) (port : UInt16) :
    mapped (manager.tcpNat dstIp port) ≠ [] ↔
      ∃ net, manager.network = some net ∧ (dstIp = net.ip ∨ net.network.contains dstIp = false) := by
  rw [InternalNatManager.tcpNat]
  simp only [noTun, ↓reduceIte]
  cases manager.network with
  | none => simp [mapped]
  | some net =>
      by_cases own : dstIp = net.ip
      · simp [own, mapped]
      · by_cases inside : net.network.contains dstIp = true
        · simp [own, inside, mapped]
        · simp [own, inside, mapped]

theorem internalNatInbound_noTun {manager : InternalNatManager}
    (found : config.internalNatInbound = some manager) : manager.noTun = config.noTun := by
  rw [internalNatInbound] at found
  split at found
  · cases found
  · cases found
    rfl

theorem internalNatInbound_isSome (noTun : config.noTun = true) :
    ∃ manager, config.internalNatInbound = some manager := by
  rw [internalNatInbound, noTun, Bool.not_true, Bool.and_false]
  exact ⟨_, rfl⟩

theorem tcpNat_tun {manager : InternalNatManager} {dstIp : Ipv4Addr} {port : UInt16}
    (tun : manager.noTun = false) :
    manager.tcpNat dstIp port =
      .ok [.connectTcp (.addr ⟨.v4 dstIp, port⟩) (.addr ⟨.v4 dstIp, port⟩)] := by
  rw [InternalNatManager.tcpNat, tun]
  rfl

theorem quicStreamBiHandle_made_iff (srcIp dstIp : Ipv4Addr) (srcPort dstPort : UInt16) :
    config.quicStreamBiHandle (some (.tcp srcIp srcPort.toUInt32 dstIp dstPort.toUInt32)) ≠ [] ↔
      config.Connects ⟨.v4 srcIp, srcPort⟩ dstIp dstPort := by
  simp only [quicStreamBiHandle, UInt16.toUInt16_toUInt32, Connects]
  by_cases own : (⟨.v4 srcIp, srcPort⟩ : SocketAddr) = ⟨.v4 dstIp, dstPort⟩
  · simp [own]
  · cases noTun : config.noTun with
    | false =>
        cases found : config.internalNatInbound with
        | none => simp [own]
        | some manager =>
            have tun := (config.internalNatInbound_noTun found).trans noTun
            by_cases used : manager.useNat dstIp = true
            · simp [own, used, tcpNat_tun tun]
            · simp [own, used, tun]
    | true =>
        obtain ⟨manager, found⟩ := config.internalNatInbound_isSome noTun
        have tunless := (config.internalNatInbound_noTun found).trans noTun
        have made := tcpNat_made_iff tunless dstIp dstPort
        by_cases used : manager.useNat dstIp = true
        · cases dialled : manager.tcpNat dstIp dstPort with
          | ok effects | err message | panic =>
              simp only [dialled, mapped] at made
              simpa [own, found, used, dialled] using made
        · simp [own, found, used, tunless]

end PeerConfig

/-- Every stream a node opens comes to the handler of its peer with the addresses it was opened
for, and its bytes follow unchanged; a connection is made for no others, and is made exactly
when the peer `Connects`. For a mapping this takes a host name that leaves the handshake below
64 KiB, and nothing else. -/
theorem opened_streams_are_served (config : PeerConfig) (ipToString : IpAddr → String) :
    (∀ (srcIp dstIp : Ipv4Addr) (srcPort dstPort : UInt16) (stream : Bytes),
      ∃ handshake effects,
        tcpStreamHandle ⟨.v4 dstIp, dstPort⟩ ⟨.v4 srcIp, srcPort⟩ = .ok handshake ∧
        effects = config.quicStreamBiHandle
          (some (.tcp srcIp srcPort.toUInt32 dstIp dstPort.toUInt32)) ∧
        config.acceptBi (sendHandshake handshake ++ stream) = some (effects, stream) ∧
        (∀ effect ∈ effects, PeerConfig.Serves ⟨.v4 srcIp, srcPort⟩ ⟨.v4 dstIp, dstPort⟩ effect) ∧
        (effects ≠ [] ↔ config.Connects ⟨.v4 srcIp, srcPort⟩ dstIp dstPort)) ∧
    (∀ (key : IpKey) (frames : List Bytes), (∀ frame ∈ frames, frame.length ≤ maxFrameLength) →
      config.acceptUni (sendHandshake (destSender key) ++ encodeFrames frames) =
        some (config.quicStreamUniHandle frames
          (some (.ip key.protocol.toUInt32 key.src key.dest)))) ∧
    (∀ (src : SocketAddr) (dstHost : String) (dstPort : UInt16) (stream : Bytes),
      config.acceptBi (sendHandshake (streamCopy ipToString src dstHost dstPort) ++ stream) =
          some (PeerConfig.mapped (config.portMappingManager.tcpMapping dstHost dstPort), stream) ↔
        (streamCopy ipToString src dstHost dstPort).encode.length < 65536) ∧
    (∀ (src : SocketAddr) (dstHost : String) (dstPort : UInt16) (stream : Bytes),
      config.acceptBi (sendHandshake (udpMappingHandle ipToString src dstHost dstPort) ++ stream) =
          some (PeerConfig.mapped (config.portMappingManager.udpMapping dstHost dstPort), stream) ↔
        (udpMappingHandle ipToString src dstHost dstPort).encode.length < 65536) := by
  refine ⟨?_, ?_, fun src dstHost dstPort stream => ⟨config.acceptBi_rest, fun short => ?_⟩,
    fun src dstHost dstPort stream => ⟨config.acceptBi_rest, fun short => ?_⟩⟩
  · intro srcIp dstIp srcPort dstPort stream
    exact ⟨_, _, rfl, rfl, config.acceptBi_sendHandshake stream (Proto.tcp_length _),
      config.quicStreamBiHandle_serves srcIp dstIp srcPort dstPort,
      config.quicStreamBiHandle_made_iff srcIp dstIp srcPort dstPort⟩
  · exact fun key frames small => config.acceptUni_destSender key small
  · rw [config.acceptBi_sendHandshake stream short]
    exact congrArg (fun effects => some (effects, stream)) (config.tcpPortMapping_mapped _ _)
  · rw [config.acceptBi_sendHandshake stream short]
    exact congrArg (fun effects => some (effects, stream)) (config.udpPortMapping_mapped _ _)

def samplePeerConfig : PeerConfig := ⟨none, false, false, true, []⟩

def sampleSource : SocketAddr := ⟨.v4 0x0A1A0003, 5000⟩

theorem sample_streams_are_served :
    (∃ handshake effects,
      tcpStreamHandle ⟨.v4 0x0A1A0004, 80⟩ sampleSource = .ok handshake ∧
      effects = samplePeerConfig.quicStreamBiHandle
        (some (.tcp 0x0A1A0003 5000 0x0A1A0004 80)) ∧
      samplePeerConfig.acceptBi (sendHandshake handshake ++ [1, 2]) = some (effects, [1, 2]) ∧
      (∀ effect ∈ effects, PeerConfig.Serves sampleSource ⟨.v4 0x0A1A0004, 80⟩ effect) ∧
      (effects ≠ [] ↔ samplePeerConfig.Connects sampleSource 0x0A1A0004 80)) ∧
    samplePeerConfig.acceptUni (sendHandshake (destSender ⟨1, 0x0A1A0003, 0x0A1A0004⟩) ++
        encodeFrames [[8, 0], [9]]) =
      some (samplePeerConfig.quicStreamUniHandle [[8, 0], [9]]
        (some (.ip 1 0x0A1A0003 0x0A1A0004))) ∧
    samplePeerConfig.acceptBi (sendHandshake
        (streamCopy (fun _ => "10.26.0.3") sampleSource "h" 80) ++ [7]) =
      some ([.nat (.connectTcp (.text "h" 80) (.text "h" 80))], [7]) :=
  ⟨(opened_streams_are_served samplePeerConfig fun _ => "10.26.0.3").1
      0x0A1A0003 0x0A1A0004 5000 80 [1, 2],
    (opened_streams_are_served samplePeerConfig fun _ => "10.26.0.3").2.1
      ⟨1, 0x0A1A0003, 0x0A1A0004⟩ [[8, 0], [9]] (by decide),
    ((opened_streams_are_served samplePeerConfig fun _ => "10.26.0.3").2.2.1
      sampleSource "h" 80 [7]).mpr (by decide +kernel)⟩

end VntClient
