import VntClient.ControlProto
import VntClient.PunchInfo

/-!
`proto/client.proto` as the generated code reads and writes it: the handshake in front
of a QUIC stream, and what a node tells another about its NAT. With the generated
codec the punch information of a node reaches its peer without further assumptions.
-/

namespace VntClient
open WireFormat
open WireFormat.FieldCodec (string uint32 int32 fixed32)

namespace Proto

structure TcpProxyHandshake where
  srcIp : UInt32
  srcPort : UInt32
  dstIp : UInt32
  dstPort : UInt32
deriving DecidableEq

namespace TcpProxyHandshake

def empty : TcpProxyHandshake := ⟨0, 0, 0, 0⟩

def encode (msg : TcpProxyHandshake) : Bytes :=
  fixed32.singular 0 1 msg.srcIp ++ (uint32.singular 0 2 msg.srcPort ++
    (fixed32.singular 0 3 msg.dstIp ++ uint32.singular 0 4 msg.dstPort))

def mergeField (depth : Nat) (msg : TcpProxyHandshake) (tag : Nat) (wire : WireType)
    (bytes : Bytes) : Option (TcpProxyHandshake × Bytes) :=
  match tag with
  | 1 => (fixed32.merge wire bytes).map fun read => ({ msg with srcIp := read.1 }, read.2)
  | 2 => (uint32.merge wire bytes).map fun read => ({ msg with srcPort := read.1 }, read.2)
  | 3 => (fixed32.merge wire bytes).map fun read => ({ msg with dstIp := read.1 }, read.2)
  | 4 => (uint32.merge wire bytes).map fun read => ({ msg with dstPort := read.1 }, read.2)
  | tag => skipUnknown depth msg tag wire bytes

theorem merge_encode (depth : Nat) (msg : TcpProxyHandshake) :
    merge (mergeField depth) empty msg.encode = some msg := by
  rw [encode]
  apply Reads.merge
  refine Reads.append (Reads.singular (fun read => ⟨read, 0, 0, 0⟩) (by decide) (by decide) trivial
    rfl fun _ => rfl) ?_
  refine Reads.append (Reads.singular (fun read => ⟨msg.srcIp, read, 0, 0⟩) (by decide) (by decide)
    trivial rfl fun _ => rfl) ?_
  refine Reads.append (Reads.singular (fun read => ⟨msg.srcIp, msg.srcPort, read, 0⟩) (by decide)
    (by decide) trivial rfl fun _ => rfl) ?_
  exact Reads.of_eq (Reads.singular (fun read => { msg with dstPort := read }) (by decide)
    (by decide) trivial rfl fun _ => rfl) rfl

def codec : FieldCodec TcpProxyHandshake :=
  FieldCodec.message (mergeField (recursionLimit - 1)) empty encode
    (fun msg => msg.encode.length < 2 ^ 64) fun fits => ⟨merge_encode _ _, fits⟩

end TcpProxyHandshake

structure PortProxyHandshake where
  srcIp : String
  srcPort : UInt32
  dstHost : String
  dstPort : UInt32
deriving DecidableEq

namespace PortProxyHandshake

def empty : PortProxyHandshake := ⟨"", 0, "", 0⟩

def encode (msg : PortProxyHandshake) : Bytes :=
  string.singular "" 1 msg.srcIp ++ (uint32.singular 0 2 msg.srcPort ++
    (string.singular "" 3 msg.dstHost ++ uint32.singular 0 4 msg.dstPort))

def mergeField (depth : Nat) (msg : PortProxyHandshake) (tag : Nat) (wire : WireType)
    (bytes : Bytes) : Option (PortProxyHandshake × Bytes) :=
  match tag with
  | 1 => (string.merge wire bytes).map fun read => ({ msg with srcIp := read.1 }, read.2)
  | 2 => (uint32.merge wire bytes).map fun read => ({ msg with srcPort := read.1 }, read.2)
  | 3 => (string.merge wire bytes).map fun read => ({ msg with dstHost := read.1 }, read.2)
  | 4 => (uint32.merge wire bytes).map fun read => ({ msg with dstPort := read.1 }, read.2)
  | tag => skipUnknown depth msg tag wire bytes

theorem merge_encode (depth : Nat) {msg : PortProxyHandshake}
    (short : msg.encode.length < 2 ^ 64) :
    merge (mergeField depth) empty msg.encode = some msg := by
  simp only [encode, List.length_append] at short
  rw [encode]
  apply Reads.merge
  refine Reads.append (Reads.singular (fun read => ⟨read, 0, "", 0⟩) (by decide) (by decide)
    (FieldCodec.string_fits 1 (by omega)) rfl fun _ => rfl) ?_
  refine Reads.append (Reads.singular (fun read => ⟨msg.srcIp, read, "", 0⟩) (by decide)
    (by decide) trivial rfl fun _ => rfl) ?_
  refine Reads.append (Reads.singular (fun read => ⟨msg.srcIp, msg.srcPort, read, 0⟩) (by decide)
    (by decide) (FieldCodec.string_fits 3 (by omega)) rfl fun _ => rfl) ?_
  exact Reads.of_eq (Reads.singular (fun read => { msg with dstPort := read }) (by decide)
    (by decide) trivial rfl fun _ => rfl) rfl

def codec : FieldCodec PortProxyHandshake :=
  FieldCodec.message (mergeField (recursionLimit - 1)) empty encode
    (fun msg => msg.encode.length < 2 ^ 64) fun fits => ⟨merge_encode _ fits, fits⟩

end PortProxyHandshake

structure IpProxyHandshake where
  ipNextHeaderProtocol : UInt32
  srcIp : UInt32
  dstIp : UInt32
deriving DecidableEq

namespace IpProxyHandshake

def empty : IpProxyHandshake := ⟨0, 0, 0⟩

def encode (msg : IpProxyHandshake) : Bytes :=
  uint32.singular 0 1 msg.ipNextHeaderProtocol ++ (fixed32.singular 0 2 msg.srcIp ++
    fixed32.singular 0 3 msg.dstIp)

def mergeField (depth : Nat) (msg : IpProxyHandshake) (tag : Nat) (wire : WireType)
    (bytes : Bytes) : Option (IpProxyHandshake × Bytes) :=
  match tag with
  | 1 => (uint32.merge wire bytes).map fun read =>
      ({ msg with ipNextHeaderProtocol := read.1 }, read.2)
  | 2 => (fixed32.merge wire bytes).map fun read => ({ msg with srcIp := read.1 }, read.2)
  | 3 => (fixed32.merge wire bytes).map fun read => ({ msg with dstIp := read.1 }, read.2)
  | tag => skipUnknown depth msg tag wire bytes

theorem merge_encode (depth : Nat) (msg : IpProxyHandshake) :
    merge (mergeField depth) empty msg.encode = some msg := by
  rw [encode]
  apply Reads.merge
  refine Reads.append (Reads.singular (fun read => ⟨read, 0, 0⟩) (by decide) (by decide) trivial
    rfl fun _ => rfl) ?_
  refine Reads.append (Reads.singular (fun read => ⟨msg.ipNextHeaderProtocol, read, 0⟩) (by decide)
    (by decide) trivial rfl fun _ => rfl) ?_
  exact Reads.of_eq (Reads.singular (fun read => { msg with dstIp := read }) (by decide)
    (by decide) trivial rfl fun _ => rfl) rfl

def codec : FieldCodec IpProxyHandshake :=
  FieldCodec.message (mergeField (recursionLimit - 1)) empty encode
    (fun msg => msg.encode.length < 2 ^ 64) fun fits => ⟨merge_encode _ _, fits⟩

end IpProxyHandshake

inductive Handshake where
  | tcp (msg : TcpProxyHandshake)
  | ip (msg : IpProxyHandshake)
  | tcpPortMapping (msg : PortProxyHandshake)
  | udpPortMapping (msg : PortProxyHandshake)
deriving DecidableEq

structure QuicProxyHandshake where
  handshake : Option Handshake
deriving DecidableEq

namespace QuicProxyHandshake

def empty : QuicProxyHandshake := ⟨none⟩

def heldTcp (msg : QuicProxyHandshake) : TcpProxyHandshake :=
  match msg.handshake with
  | some (.tcp held) => held
  | _ => .empty

def heldIp (msg : QuicProxyHandshake) : IpProxyHandshake :=
  match msg.handshake with
  | some (.ip held) => held
  | _ => .empty

def heldTcpPortMapping (msg : QuicProxyHandshake) : PortProxyHandshake :=
  match msg.handshake with
  | some (.tcpPortMapping held) => held
  | _ => .empty

def heldUdpPortMapping (msg : QuicProxyHandshake) : PortProxyHandshake :=
  match msg.handshake with
  | some (.udpPortMapping held) => held
  | _ => .empty

def encode (msg : QuicProxyHandshake) : Bytes :=
  match msg.handshake with
  | none => []
  | some (.tcp tcp) => TcpProxyHandshake.codec.field 1 tcp
  | some (.ip ip) => IpProxyHandshake.codec.field 2 ip
  | some (.tcpPortMapping mapping) => PortProxyHandshake.codec.field 3 mapping
  | some (.udpPortMapping mapping) => PortProxyHandshake.codec.field 4 mapping

def mergeField (msg : QuicProxyHandshake) (tag : Nat) (wire : WireType) (bytes : Bytes) :
    Option (QuicProxyHandshake × Bytes) :=
  match tag with
  | 1 => (mergeNested (TcpProxyHandshake.mergeField (recursionLimit - 1)) msg.heldTcp wire
      bytes).map fun read => (⟨some (.tcp read.1)⟩, read.2)
  | 2 => (mergeNested (IpProxyHandshake.mergeField (recursionLimit - 1)) msg.heldIp wire
      bytes).map fun read => (⟨some (.ip read.1)⟩, read.2)
  | 3 => (mergeNested (PortProxyHandshake.mergeField (recursionLimit - 1)) msg.heldTcpPortMapping
      wire bytes).map fun read => (⟨some (.tcpPortMapping read.1)⟩, read.2)
  | 4 => (mergeNested (PortProxyHandshake.mergeField (recursionLimit - 1)) msg.heldUdpPortMapping
      wire bytes).map fun read => (⟨some (.udpPortMapping read.1)⟩, read.2)
  | tag => skipUnknown recursionLimit msg tag wire bytes

def decode (bytes : Bytes) : Option QuicProxyHandshake := merge mergeField empty bytes

theorem decode_encode {msg : QuicProxyHandshake} (short : msg.encode.length < 2 ^ 64) :
    decode msg.encode = some msg := by
  obtain ⟨handshake⟩ := msg
  apply Reads.merge
  cases handshake with
  | none => exact Reads.nil
  | some handshake =>
      cases handshake with
      | tcp tcp =>
          exact Reads.of_eq (Reads.field (fun read => ⟨some (.tcp read)⟩) (by decide) (by decide)
            (FieldCodec.field_content short) fun _ => rfl) rfl
      | ip ip =>
          exact Reads.of_eq (Reads.field (fun read => ⟨some (.ip read)⟩) (by decide) (by decide)
            (FieldCodec.field_content short) fun _ => rfl) rfl
      | tcpPortMapping mapping =>
          exact Reads.of_eq (Reads.field (fun read => ⟨some (.tcpPortMapping read)⟩) (by decide)
            (by decide) (FieldCodec.field_content short) fun _ => rfl) rfl
      | udpPortMapping mapping =>
          exact Reads.of_eq (Reads.field (fun read => ⟨some (.udpPortMapping read)⟩) (by decide)
            (by decide) (FieldCodec.field_content short) fun _ => rfl) rfl

end QuicProxyHandshake
end Proto

namespace NatInfoMessage

def empty : NatInfoMessage := ⟨0, [], [], 0, [], none, [], 0, 0⟩

def encode (msg : NatInfoMessage) : Bytes :=
  int32.singular 0 1 msg.natType ++ (fixed32.packed 2 msg.publicIps ++
    (uint32.packed 3 msg.publicUdpPorts ++ (uint32.singular 0 4 msg.publicPortRange ++
      (fixed32.packed 5 msg.localIpv4s ++ (FieldCodec.bytes.optional 6 msg.ipv6 ++
        (uint32.packed 7 msg.localUdpPorts ++ (uint32.singular 0 8 msg.localTcpPort ++
          uint32.singular 0 9 msg.publicTcpPort)))))))

def mergeField (depth : Nat) (msg : NatInfoMessage) (tag : Nat) (wire : WireType) (bytes : Bytes) :
    Option (NatInfoMessage × Bytes) :=
  match tag with
  | 1 => (int32.merge wire bytes).map fun read => ({ msg with natType := read.1 }, read.2)
  | 2 => (fixed32.mergeRepeated msg.publicIps wire bytes).map fun read =>
      ({ msg with publicIps := read.1 }, read.2)
  | 3 => (uint32.mergeRepeated msg.publicUdpPorts wire bytes).map fun read =>
      ({ msg with publicUdpPorts := read.1 }, read.2)
  | 4 => (uint32.merge wire bytes).map fun read => ({ msg with publicPortRange := read.1 }, read.2)
  | 5 => (fixed32.mergeRepeated msg.localIpv4s wire bytes).map fun read =>
      ({ msg with localIpv4s := read.1 }, read.2)
  | 6 => (FieldCodec.bytes.merge wire bytes).map fun read =>
      ({ msg with ipv6 := some read.1 }, read.2)
  | 7 => (uint32.mergeRepeated msg.localUdpPorts wire bytes).map fun read =>
      ({ msg with localUdpPorts := read.1 }, read.2)
  | 8 => (uint32.merge wire bytes).map fun read => ({ msg with localTcpPort := read.1 }, read.2)
  | 9 => (uint32.merge wire bytes).map fun read => ({ msg with publicTcpPort := read.1 }, read.2)
  | tag => skipUnknown depth msg tag wire bytes

def Fits (msg : NatInfoMessage) : Prop := int32.Fits msg.natType ∧ msg.encode.length < 2 ^ 64

theorem merge_encode (depth : Nat) {msg : NatInfoMessage} (fits : msg.Fits) :
    merge (mergeField depth) empty msg.encode = some msg := by
  obtain ⟨natType, short⟩ := fits
  simp only [encode, List.length_append] at short
  rw [encode]
  apply Reads.merge
  refine Reads.append (Reads.singular (fun read => ⟨read, [], [], 0, [], none, [], 0, 0⟩)
    (by decide) (by decide) natType rfl fun _ => rfl) ?_
  refine Reads.append (Reads.packed (fun read => ⟨msg.natType, read, [], 0, [], none, [], 0, 0⟩)
    (by decide) (by decide) (fun _ _ => trivial) (fixed32.packed_content 2 (by omega)) rfl
    fun _ => rfl) ?_
  refine Reads.append (Reads.packed
    (fun read => ⟨msg.natType, msg.publicIps, read, 0, [], none, [], 0, 0⟩) (by decide) (by decide)
    (fun _ _ => trivial) (uint32.packed_content 3 (by omega)) rfl fun _ => rfl) ?_
  refine Reads.append (Reads.singular
    (fun read => ⟨msg.natType, msg.publicIps, msg.publicUdpPorts, read, [], none, [], 0, 0⟩)
    (by decide) (by decide) trivial rfl fun _ => rfl) ?_
  refine Reads.append (Reads.packed (fun read => { msg with
      localIpv4s := read, ipv6 := none, localUdpPorts := [], localTcpPort := 0, publicTcpPort := 0 })
    (by decide) (by decide) (fun _ _ => trivial) (fixed32.packed_content 5 (by omega)) rfl
    fun _ => rfl) ?_
  refine Reads.append (Reads.optional (fun read => { msg with
      ipv6 := read, localUdpPorts := [], localTcpPort := 0, publicTcpPort := 0 })
    (by decide) (by decide) (FieldCodec.bytes.optional_fits 6 FieldCodec.bytes_content (by omega))
    rfl fun _ => rfl) ?_
  refine Reads.append (Reads.packed (fun read => { msg with
      localUdpPorts := read, localTcpPort := 0, publicTcpPort := 0 })
    (by decide) (by decide) (fun _ _ => trivial) (uint32.packed_content 7 (by omega)) rfl
    fun _ => rfl) ?_
  refine Reads.append (Reads.singular (fun read => { msg with
      localTcpPort := read, publicTcpPort := 0 }) (by decide) (by decide) trivial rfl
    fun _ => rfl) ?_
  exact Reads.of_eq (Reads.singular (fun read => { msg with publicTcpPort := read }) (by decide)
    (by decide) trivial rfl fun _ => rfl) rfl

def codec : FieldCodec NatInfoMessage :=
  FieldCodec.message (mergeField (recursionLimit - 1)) empty encode Fits fun fits =>
    ⟨merge_encode _ fits, fits.2⟩

end NatInfoMessage

namespace PunchInfoMessage

def empty : PunchInfoMessage := ⟨none⟩

def encode (msg : PunchInfoMessage) : Bytes := NatInfoMessage.codec.optional 1 msg.natInfo

def mergeField (msg : PunchInfoMessage) (tag : Nat) (wire : WireType) (bytes : Bytes) :
    Option (PunchInfoMessage × Bytes) :=
  match tag with
  | 1 => (mergeNested (NatInfoMessage.mergeField (recursionLimit - 1))
      (msg.natInfo.getD .empty) wire bytes).map fun read => (⟨some read.1⟩, read.2)
  | tag => skipUnknown recursionLimit msg tag wire bytes

def decode (bytes : Bytes) : Option PunchInfoMessage := merge mergeField empty bytes

theorem decode_encode {msg : PunchInfoMessage} (fits : ∀ natInfo ∈ msg.natInfo, natInfo.Fits) :
    decode msg.encode = some msg := by
  apply Reads.merge
  exact Reads.of_eq (Reads.optional (fun read => ⟨read⟩) (by decide) (by decide) fits rfl
    fun _ => rfl) rfl

end PunchInfoMessage

def PunchInfo.codec : PunchInfoCodec := ⟨PunchInfoMessage.encode, PunchInfoMessage.decode⟩

def PunchInfo.parses (payload : Bytes) : Bool := (fromSlice codec payload).isOk

theorem NatInfo.encodeNatInfo_fits {info : NatInfo}
    (short : info.encodeNatInfo.encode.length < 2 ^ 64) : info.encodeNatInfo.Fits := by
  have known : info.encodeNatInfo.natType = 0 ∨ info.encodeNatInfo.natType = 1 := by
    rw [NatInfo.encodeNatInfo]
    cases info.natType with
    | cone => exact .inl rfl
    | symmetric => exact .inr rfl
  have range : -2 ^ 31 ≤ info.encodeNatInfo.natType ∧ info.encodeNatInfo.natType < 2 ^ 31 := by
    omega
  exact ⟨range, short⟩

/-- A peer reads the punch information of any node, up to the mappings the wire does not carry. -/
theorem PunchInfo.fromSlice_codec {info : PunchInfo}
    (first : info.natInfo.localIpv4s.head?.getD 0 = info.natInfo.localIpv4)
    (short : (info.encode PunchInfo.codec).length < 2 ^ 64) :
    PunchInfo.fromSlice PunchInfo.codec (info.encode PunchInfo.codec) =
      .ok ⟨info.natInfo.withoutMappings⟩ := by
  have fits : ∀ natInfo ∈ info.message.natInfo, natInfo.Fits := by
    intro natInfo held
    have same : info.natInfo.encodeNatInfo = natInfo := Option.some.inj held
    exact same ▸ NatInfo.encodeNatInfo_fits (FieldCodec.field_content short)
  have decoded : PunchInfo.codec.decode (PunchInfo.codec.encode info.message) =
      some info.message := PunchInfoMessage.decode_encode fits
  exact PunchInfo.fromSlice_encode decoded first

end VntClient
