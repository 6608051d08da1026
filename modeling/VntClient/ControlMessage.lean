import VntClient.Addresses
import VntClient.Broadcast
import VntClient.ControlProto
import VntClient.PeerNetwork
import VntClient.Registration

/-!
`protocol/control_message.rs`: the types of the program around the generated ones. A
reply of a server, a request of a node, a pushed client list and a selective broadcast
all mean to the reader what they meant to the writer.
-/

namespace VntClient
open WireFormat

def RegistrationMode.number : RegistrationMode → Int
  | .normal => 0
  | .preRegister => 1

def RegRequestMsg.toProto (msg : RegRequestMsg) : Proto.RegRequestMsg where
  networkCode := msg.networkCode
  deviceId := msg.deviceId
  ip := msg.ip
  name := msg.name
  version := msg.version
  keySign := msg.keySign
  ipVariable := msg.ipVariable
  serverId := msg.serverId
  registrationMode := msg.registrationMode.number

theorem RegRequestMsg.toProto_injective : Function.Injective RegRequestMsg.toProto := by
  intro first second same
  obtain ⟨_, _, _, _, _, _, _, _, mode⟩ := first
  obtain ⟨_, _, _, _, _, _, _, _, other⟩ := second
  simp only [toProto, Proto.RegRequestMsg.mk.injEq] at same
  obtain ⟨rfl, rfl, rfl, rfl, rfl, rfl, rfl, rfl, number⟩ := same
  cases mode <;> cases other <;> first | rfl | cases number

def RegResponseMsg.fromProto (msg : Proto.RegResponseMsg) : RegResponseMsg where
  ip := msg.ip
  prefixLen := (msg.prefixLen &&& 0xFF).toUInt8
  gateway := msg.gateway
  serverVersion := msg.serverVersion

def RegResponseMsg.toProto (msg : RegResponseMsg) : Proto.RegResponseMsg where
  ip := msg.ip
  prefixLen := msg.prefixLen.toUInt32
  gateway := msg.gateway
  serverVersion := msg.serverVersion

theorem RegResponseMsg.fromProto_toProto (msg : RegResponseMsg) : fromProto msg.toProto = msg := by
  have low : (msg.prefixLen.toUInt32 &&& 0xFF).toUInt8 = msg.prefixLen := by
    apply UInt8.toNat_inj.mp
    have bounded := msg.prefixLen.toNat_lt
    rw [UInt32.toNat_toUInt8, UInt32.toNat_and, UInt8.toNat_toUInt32]
    have mask : UInt32.toNat 0xFF = 2 ^ 8 - 1 := rfl
    rw [mask, Nat.and_two_pow_sub_one_eq_mod]
    omega
  rw [fromProto, toProto, low]

/-- `RequestMessage` of `control_message.rs`; only the generated type is ever decoded. -/
inductive RequestMessage where
  | reg (msg : RegRequestMsg)
  | confirmReg

namespace RequestMessage

def toProto : RequestMessage → Proto.RequestMessage
  | .reg msg => ⟨some (.reg msg.toProto)⟩
  | .confirmReg => ⟨some (.confirmReg ⟨⟩)⟩

def encode (message : RequestMessage) : Bytes := message.toProto.encode

theorem toProto_injective : Function.Injective toProto := by
  intro first second same
  cases first with
  | reg msg =>
      cases second with
      | reg other =>
          simp only [toProto, Proto.RequestMessage.mk.injEq, Option.some.injEq,
            Proto.RequestPayload.reg.injEq] at same
          rw [RegRequestMsg.toProto_injective same]
      | confirmReg => cases same
  | confirmReg =>
      cases second with
      | reg other => cases same
      | confirmReg => rfl

theorem decode_encode {message : RequestMessage} (short : message.encode.length < 2 ^ 64) :
    Proto.RequestMessage.decode message.encode = some message.toProto := by
  apply Proto.RequestMessage.decode_encode
  cases message with
  | reg msg =>
      have mode : FieldCodec.int32.Fits msg.registrationMode.number := by
        cases msg.registrationMode with
        | normal => exact ⟨by decide, by decide⟩
        | preRegister => exact ⟨by decide, by decide⟩
      exact ⟨mode, FieldCodec.field_content short⟩
  | confirmReg => trivial

end RequestMessage

namespace ResponseMessage

def toProto : ResponseMessage → Proto.ResponseMessage
  | .reg msg => ⟨some (.reg msg.toProto)⟩
  | .error msg => ⟨some (.error ⟨msg.code, msg.message⟩)⟩
  | .confirmReg msg => ⟨some (.confirmReg ⟨msg.success⟩)⟩

def encode (message : ResponseMessage) : Bytes := message.toProto.encode

def fromProto (payload : Proto.ResponsePayload) : ResponseMessage :=
  match payload with
  | .reg msg => .reg (RegResponseMsg.fromProto msg)
  | .error msg => .error ⟨msg.code, msg.message⟩
  | .confirmReg msg => .confirmReg ⟨msg.success⟩

def fromSlice (buf : Bytes) : Outcome ResponseMessage :=
  match Proto.ResponseMessage.decode buf with
  | none => .err "failed to decode Protobuf message"
  | some message =>
      match message.responsePayload with
      | none => .err "unsupported"
      | some payload => .ok (fromProto payload)

theorem fromSlice_encode {message : ResponseMessage} (short : message.encode.length < 2 ^ 64) :
    fromSlice message.encode = .ok message := by
  have decoded : Proto.ResponseMessage.decode message.encode = some message.toProto :=
    Proto.ResponseMessage.decode_encode short
  rw [fromSlice, decoded]
  cases message with
  | reg msg => simp only [toProto, fromProto, RegResponseMsg.fromProto_toProto]
  | error msg => rfl
  | confirmReg msg => rfl

end ResponseMessage

def ClientSimpleInfo.fromProto (msg : Proto.ClientSimpleInfo) : ClientSimpleInfo :=
  ⟨msg.ip, msg.online⟩

def ClientSimpleInfo.toProto (info : ClientSimpleInfo) : Proto.ClientSimpleInfo :=
  ⟨info.ip, info.online⟩

/-- A list of clients as it comes from a server, with the version the next ping sends back. -/
structure PushedClientList extends ClientSimpleInfoList where
  dataVersion : UInt64

def ClientSimpleInfoList.fromSlice (buf : Bytes) : Outcome PushedClientList :=
  match Proto.ClientSimpleInfoList.decode buf with
  | none => .err "failed to decode Protobuf message"
  | some msg => .ok
      ⟨⟨msg.list.map ClientSimpleInfo.fromProto, msg.isAll, msg.time⟩, msg.dataVersion⟩

def PushedClientList.toProto (list : PushedClientList) : Proto.ClientSimpleInfoList :=
  ⟨list.dataVersion, list.list.map ClientSimpleInfo.toProto, list.isAll, list.time⟩

theorem ClientSimpleInfoList.fromSlice_toProto {list : PushedClientList}
    (time : FieldCodec.int64.Fits list.time) (short : list.toProto.encode.length < 2 ^ 64) :
    fromSlice list.toProto.encode = .ok list := by
  rw [fromSlice, Proto.ClientSimpleInfoList.decode_encode time short]
  have same : (list.list.map ClientSimpleInfo.toProto).map ClientSimpleInfo.fromProto = list.list := by
    rw [List.map_map]
    exact List.map_id _
  simp only [PushedClientList.toProto, same]

/-- Messages on the control channel are read as they were written, whatever they hold. -/
theorem control_messages_read_back :
    (∀ message : RequestMessage, message.encode.length < 2 ^ 64 →
      Proto.RequestMessage.decode message.encode = some message.toProto ∧
        ∀ other : RequestMessage, other.encode = message.encode → other = message) ∧
    (∀ message : ResponseMessage, message.encode.length < 2 ^ 64 →
      ResponseMessage.fromSlice message.encode = .ok message) ∧
    (∀ list : PushedClientList, FieldCodec.int64.Fits list.time →
      list.toProto.encode.length < 2 ^ 64 →
        ClientSimpleInfoList.fromSlice list.toProto.encode = .ok list) := by
  refine ⟨fun message short => ⟨message.decode_encode short, fun other same => ?_⟩,
    fun message => ResponseMessage.fromSlice_encode,
    fun list => ClientSimpleInfoList.fromSlice_toProto⟩
  have fits : other.encode.length < 2 ^ 64 := same.symm ▸ short
  have read := RequestMessage.decode_encode fits
  rw [same, RequestMessage.decode_encode short] at read
  exact RequestMessage.toProto_injective (Option.some.inj read).symm

def sampleRequest : RequestMessage :=
  .reg ⟨"n", "d", some 0x0A1A0003, "", "2.0.0", none, false, 7, .preRegister⟩

def sampleResponse : ResponseMessage := .reg ⟨0x0A1A0003, 24, 0x0A1A0001, "1"⟩

def samplePushed : PushedClientList :=
  ⟨⟨[⟨0x0A1A0003, true⟩, ⟨0x0A1A0004, false⟩], true, -1⟩, 3⟩

theorem sample_messages_read_back :
    Proto.RequestMessage.decode sampleRequest.encode = some sampleRequest.toProto ∧
      ResponseMessage.fromSlice sampleResponse.encode = .ok sampleResponse ∧
      ClientSimpleInfoList.fromSlice samplePushed.toProto.encode = .ok samplePushed :=
  ⟨(control_messages_read_back.1 sampleRequest (by decide +kernel)).1,
    control_messages_read_back.2.1 sampleResponse (by decide +kernel),
    control_messages_read_back.2.2 samplePushed ⟨by decide, by decide⟩ (by decide +kernel)⟩

namespace ServerMessage

/-- `send_exclude_broadcast` and `send_target_broadcast`, without the waiting. -/
def selective (msgType : MsgType) (ips : List Ipv4Addr) (packet : NetPacket) : NetPacket :=
  let bytes := (Proto.SelectiveBroadcast.new ips packet.buffer).encode
  { ((NetPacket.zeroed bytes.length).setMsgType msgType).setTtl 5 with payload := bytes }

def packet : ServerMessage → NetPacket
  | .direct packet => packet
  | .exclude ips packet => selective .excludeBroadcast ips packet
  | .target ips packet => selective .targetBroadcast ips packet

/-- What the packet type and the schema make of the bytes of a packet for a server. -/
def read (bytes : Bytes) : Outcome ServerMessage := do
  let outer ← NetPacket.new bytes
  let msgType ← outer.msgType
  match msgType with
  | .excludeBroadcast =>
      let broadcast ← okOr "failed to decode Protobuf message"
        (Proto.SelectiveBroadcast.decode outer.payload)
      let inner ← NetPacket.new broadcast.data
      return .exclude broadcast.ips inner
  | .targetBroadcast =>
      let broadcast ← okOr "failed to decode Protobuf message"
        (Proto.SelectiveBroadcast.decode outer.payload)
      let inner ← NetPacket.new broadcast.data
      return .target broadcast.ips inner
  | _ => return .direct outer

theorem selective_msgType (msgType : MsgType) (ips : List Ipv4Addr) (packet : NetPacket) :
    (selective msgType ips packet).msgType = .ok msgType :=
  NetHeader.msgType_setMsgType NetHeader.zeroed msgType

theorem selective_decode {msgType : MsgType} {ips : List Ipv4Addr} {packet : NetPacket}
    (short : (selective msgType ips packet).payload.length < 2 ^ 64) :
    Proto.SelectiveBroadcast.decode (selective msgType ips packet).payload =
      some ⟨ips, packet.buffer⟩ :=
  Proto.SelectiveBroadcast.decode_encode short

/-- A direct packet that is not itself a selective broadcast. -/
def Plain : ServerMessage → Prop
  | .direct packet => ∃ msgType, packet.msgType = .ok msgType ∧
      msgType ≠ .excludeBroadcast ∧ msgType ≠ .targetBroadcast
  | _ => True

/-- Whom a packet is for and what it carries can be read off its bytes. -/
theorem read_packet {message : ServerMessage} (plain : message.Plain)
    (short : message.packet.payload.length < 2 ^ 64) :
    read message.packet.buffer = .ok message := by
  rw [read, NetPacket.new_buffer, Outcome.ok_bind]
  cases message with
  | direct packet =>
      obtain ⟨msgType, known, noExclude, noTarget⟩ := plain
      rw [ServerMessage.packet, known, Outcome.ok_bind]
      cases msgType with
      | excludeBroadcast => exact absurd rfl noExclude
      | targetBroadcast => exact absurd rfl noTarget
      | _ => rfl
  | exclude ips packet =>
      rw [ServerMessage.packet] at short ⊢
      rw [selective_msgType, Outcome.ok_bind]
      simp only [selective_decode short, okOr, Outcome.ok_bind, NetPacket.new_buffer,
        Outcome.pure_eq]
  | target ips packet =>
      rw [ServerMessage.packet] at short ⊢
      rw [selective_msgType, Outcome.ok_bind]
      simp only [selective_decode short, okOr, Outcome.ok_bind, NetPacket.new_buffer,
        Outcome.pure_eq]

def inner : ServerMessage → NetPacket
  | .direct packet => packet
  | .exclude _ packet => packet
  | .target _ packet => packet

theorem secondary_inner {outbound : ServerOutbound} {excludeIps : Option (List Ipv4Addr)}
    {packet : NetPacket} {best entry : UInt32 × List Ipv4Addr × UInt32} {id : UInt32}
    {message : ServerMessage}
    (made : outbound.secondary excludeIps packet best entry = some (.server id message)) :
    message.inner = packet := by
  unfold ServerOutbound.secondary at made
  split at made
  · cases made
  · split at made
    · cases made
    · split at made
      · cases made
        rfl
      · cases made

theorem sendRawBroadcast_inner {outbound : ServerOutbound} {excludeIps : Option (List Ipv4Addr)}
    {packet : NetPacket} {id : UInt32} {message : ServerMessage}
    (sent : .server id message ∈ (outbound.sendRawBroadcast excludeIps packet).1) :
    message.inner = packet := by
  have primary : (ServerOutbound.primaryMessage packet excludeIps).inner = packet := by
    cases excludeIps <;> rfl
  unfold ServerOutbound.sendRawBroadcast at sent
  split at sent
  · cases sent
  · split at sent
    · cases sent
    · split at sent
      · cases List.mem_singleton.mp sent
        exact primary
      · cases sent
  · split at sent
    · cases sent
    · split at sent
      · cases sent
      · split at sent
        · rcases List.mem_cons.mp sent with same | sent
          · cases same
            exact primary
          · obtain ⟨entry, _, made⟩ := List.mem_filterMap.mp sent
            exact secondary_inner made
        · cases sent

/-- Whatever a broadcast hands to a server, its bytes tell whether it is for all of the
server's clients, for all but some or for some only, for which, and the sealed packet. -/
theorem broadcast_messages_read (basic : BasicOutbound) (outbound : HybridOutbound)
    (net : NetworkAddr) (data : Bytes) {id : UInt32} {message : ServerMessage}
    (sent : .server id message ∈ (basic.ipv4BroadcastOutbound outbound net data).1)
    (short : message.packet.payload.length < 2 ^ 64) :
    read message.packet.buffer = .ok message ∧
      message.inner = outbound.sealPacket (outbound.node.packetCompression.compress
        (HybridOutbound.dataPacket .broadcast net.ip 0xFFFFFFFF data)) := by
  have inside : message.inner = outbound.sealPacket (outbound.node.packetCompression.compress
      (HybridOutbound.dataPacket .broadcast net.ip 0xFFFFFFFF data)) := by
    have copied : ∀ (direct : List (Ipv4Addr × RouteKey)) (packet : NetPacket),
        Transmission.server id message ∉
          direct.map fun sent => Transmission.p2p sent.1 sent.2 packet := by
      intro direct packet member
      obtain ⟨_, _, same⟩ := List.mem_map.mp member
      cases same
    unfold BasicOutbound.ipv4BroadcastOutbound at sent
    simp only at sent
    split at sent
    · exact sendRawBroadcast_inner ((List.mem_append.mp sent).resolve_left (copied _ _))
    · split at sent
      · exact absurd sent (copied _ _)
      · exact sendRawBroadcast_inner ((List.mem_append.mp sent).resolve_left (copied _ _))
  refine ⟨read_packet ?_ short, inside⟩
  cases message with
  | direct packet =>
      -- a broadcast is of neither wrapping type
      have typed : packet.msgType = .ok .broadcast := by
        have flow := compress_flow outbound.node.packetCompression
          (HybridOutbound.dataPacket .broadcast net.ip 0xFFFFFFFF data)
        have same : packet = _ := inside
        rw [same, HybridOutbound.sealPacket, NetPacket.msgType, PacketCrypto.encryptInPlace_header]
        exact flow.1.trans (NetHeader.msgType_setMsgType NetHeader.zeroed .broadcast)
      exact ⟨.broadcast, typed, by decide, by decide⟩
  | exclude ips packet => trivial
  | target ips packet => trivial

def twoConnected : ServerInfoCollection :=
  ((((ServerInfoCollection.updateServer [0, 1]).updateClientSimpleList 0 0x0A1A0003
    ⟨[⟨0x0A1A0004, true⟩], true, 0⟩ 10).updateClientSimpleList 1 0x0A1A0003
    ⟨[⟨0x0A1A0005, true⟩], true, 0⟩ 10).setServerConnected 0 true).setServerConnected 1 true

def throughTwo : BasicOutbound where
  serverOutbound :=
    { servers := twoConnected
      sender := [0, 1]
      covered := by
        intro id member
        have keys : twoConnected.serverNodeMap.keys = [1, 0] := by decide +kernel
        rw [AList.mem_keys, keys] at member
        exact List.mem_cons.mpr ((List.mem_cons.mp member).symm.imp (by simp) (by simp)) }
  p2pOutbound := none

def broadcastOutbound : HybridOutbound := ⟨.plain sampleNetwork, []⟩

def broadcastPacket : NetPacket := HybridOutbound.dataPacket .broadcast 0x0A1A0003 0xFFFFFFFF [0x45]

theorem sample_broadcast_read :
    read (packet (.direct broadcastPacket)).buffer = .ok (.direct broadcastPacket) ∧
      read (packet (.target [0x0A1A0005] broadcastPacket)).buffer =
        .ok (.target [0x0A1A0005] broadcastPacket) := by
  -- Server 0 is to send to all its clients, server 1 to the one that only it has.
  have sends : (throughTwo.ipv4BroadcastOutbound broadcastOutbound sampleNetwork [0x45]).1 =
      [.server 0 (.direct broadcastPacket), .server 1 (.target [0x0A1A0005] broadcastPacket)] := rfl
  have direct : Transmission.server 0 (.direct broadcastPacket) ∈
      (throughTwo.ipv4BroadcastOutbound broadcastOutbound sampleNetwork [0x45]).1 := by
    rw [sends]
    exact List.mem_cons_self
  have target : Transmission.server 1 (.target [0x0A1A0005] broadcastPacket) ∈
      (throughTwo.ipv4BroadcastOutbound broadcastOutbound sampleNetwork [0x45]).1 := by
    rw [sends]
    exact List.mem_cons_of_mem _ List.mem_cons_self
  exact ⟨(broadcast_messages_read _ _ _ _ direct (by decide +kernel)).1,
    (broadcast_messages_read _ _ _ _ target (by decide +kernel)).1⟩

end ServerMessage
end VntClient
