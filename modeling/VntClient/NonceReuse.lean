import VntClient.Outbound

/-!
The nonces of everything a node seals. No send path sets a sequence number, so a
nonce is told apart by type, destination and source alone.
-/

namespace VntClient

section Nonce

theorem toBeBytes32_inj {left right : UInt32} (same : toBeBytes32 left = toBeBytes32 right) :
    left = right := by
  have read := NetPacket.fromBeBytes32_toBeBytes32
  simp only [toBeBytes32, List.cons.injEq, and_true] at same
  rw [← read left, same.1, same.2.1, same.2.2.1, same.2.2.2, read right]

/-- Type, source and destination, as a nonce sees them. -/
structure SameFlow (left right : NetPacket) : Prop where
  typeByte : left.header.typeByte = right.header.typeByte
  src : left.srcId = right.srcId
  dest : left.destId = right.destId

theorem SameFlow.makeNonce_eq {left right : NetPacket} (flow : SameFlow left right)
    (seq : left.seq = right.seq) : left.makeNonce = right.makeNonce := by
  have numbers : left.header.seq = right.header.seq := seq
  have sources : left.header.srcId = right.header.srcId := flow.src
  have dests : left.header.destId = right.header.destId := flow.dest
  simp only [NetPacket.makeNonce, flow.typeByte, numbers, sources, dests]

theorem SameFlow.of_makeNonce {left right : NetPacket} (same : left.makeNonce = right.makeNonce) :
    SameFlow left right := by
  have bytes := congrArg Nonce.bytes same
  simp only [NetPacket.makeNonce, List.cons_append, List.cons.injEq, List.nil_append] at bytes
  obtain ⟨typeByte, _, _, _, addresses⟩ := bytes
  obtain ⟨dest, src⟩ := List.append_inj addresses rfl
  exact ⟨typeByte, toBeBytes32_inj src, toBeBytes32_inj dest⟩

end Nonce

/-- A sealed packet whose buffer never got a sequence number. -/
def Unnumbered (crypto : PacketCrypto) (wire : NetPacket) : Prop :=
  ∃ packet : NetPacket, packet.seq = 0 ∧ wire = crypto.encryptInPlace packet

theorem Unnumbered.seq_zero {crypto : PacketCrypto} {wire : NetPacket}
    (unnumbered : Unnumbered crypto wire) : wire.seq = 0 := by
  obtain ⟨packet, zero, rfl⟩ := unnumbered
  unfold PacketCrypto.encryptInPlace
  cases crypto.crypto with
  | none => exact zero
  | some aead => exact zero

section Paths
variable {outbound : HybridOutbound}

theorem controlPacket_seq {size : Nat} {msgType : MsgType} {ttl : UInt8} {src dest : Ipv4Addr}
    {payload : Bytes} {packet : NetPacket}
    (made : controlPacket size msgType ttl src dest payload = .ok packet) : packet.seq = 0 := by
  rw [NetPacket.seq, NetPacket.setPayload_header made]
  rfl

theorem compress_seq (compression : PacketCompression) (packet : NetPacket) :
    (compression.compress packet).seq = packet.seq := by
  rcases compress_cases compression packet with same | ⟨lz4, _, _, smaller⟩
  · rw [same]
  · rw [smaller]
    rfl

theorem encoded_seq {encoder : Option FecEncoder} {now : Instant} {packet wire : NetPacket}
    (member : wire ∈ (HybridOutbound.encoded encoder now packet).2.toList) :
    wire.seq = packet.seq := by
  unfold HybridOutbound.encoded at member
  cases encoder with
  | none =>
      rw [List.mem_singleton.mp member]
  | some encoder =>
      by_cases fits : packet.payload.length ≤ 65535
      · simp only [encoder.encode_ok now packet fits, Option.toList_some,
          List.mem_singleton] at member
        rw [member]
        rfl
      · simp only [FecEncoder.encode, if_pos (Nat.lt_of_not_le fits)] at member
        cases member

theorem paritySent_seq {item : BatchItem} {wire : NetPacket}
    (member : wire ∈ FecEncoder.paritySent item) : wire.seq = 0 := by
  unfold FecEncoder.paritySent at member
  split at member
  · rename_i sent made
    rw [NetPacket.seq, encodeAndSendParity_header made wire member]
    rfl
  · cases member

end Paths

section Handlers
variable {config : NodeConfig} {clock : Clock}

/-- What a handler sends itself is sealed without a number, or gateway traffic. -/
def Replies (crypto : PacketCrypto) : Effect → Prop
  | .sendTo _ packet => Unnumbered crypto packet
  | .sendTurn packet => packet.isGateway = true ∨ Unnumbered crypto packet
  | _ => True

theorem P2pInboundHandler.nextHandle_replies (routeKey : RouteKey) (state : NodeState)
    (data : Bytes) :
    (nextHandle config clock routeKey state data).Emits (Replies config.packetCrypto) := by
  apply Handled.emits_attempt
  intro verdict _
  cases verdict with
  | drop => exact Handled.emits_done state
  | forward key packet => exact Handled.emits_one trivial
  | handle net packet ctx =>
      exact handleLocal_emits net ctx (fun _ _ _ => trivial) (fun _ => trivial)
        (fun _ _ packet made => ⟨packet, controlPacket_seq made, rfl⟩) state packet

theorem decompress_isGateway {compression : PacketCompression} {packet opened : NetPacket}
    (done : compression.decompress packet = .ok opened) :
    opened.isGateway = packet.isGateway := by
  have kept : ∀ byte : UInt8, byte &&& ~~~compressed &&& gateway = byte &&& gateway := by
    decide +kernel
  unfold PacketCompression.decompress at done
  split at done
  · cases done
    rfl
  · split at done
    · split at done
      · cases done
        simp [NetPacket.isGateway, NetPacket.setCompressedFlag, NetHeader.setFlag, kept]
      · cases done
    · cases done
      rfl

def Silent (effect : Effect) : Prop := HybridOutbound.sealedEffect effect = []

theorem Silent.replies {crypto : PacketCrypto} {effect : Effect} (silent : Silent effect) :
    Replies crypto effect := by
  cases effect with
  | sendTo addr packet => cases silent
  | sendTurn packet =>
      by_cases flagged : packet.isGateway = true
      · exact Or.inl flagged
      · rw [Silent, HybridOutbound.sealedEffect, if_neg flagged] at silent
        cases silent
  | _ => trivial

theorem ServerTurnInboundHandler.handleServerData_silent (networkAddr : NetworkAddr)
    (state : NodeState) (data : Bytes)
    (fromGateway : ∀ packet, NetPacket.new data = .ok packet → packet.isGateway = true) :
    (handleServerData config clock networkAddr state data).Emits Silent := by
  unfold handleServerData
  apply Handled.emits_attempt
  intro packet parsed
  apply Handled.emits_attempt
  intro msgType _
  apply Handled.emits_attempt
  intro opened done
  cases msgType with
  | turn =>
      simp only
      split
      · exact Handled.emits_one rfl
      · exact Handled.emits_done state
  | ping =>
      have flagged : opened.isGateway = true := by
        rw [decompress_isGateway done, fromGateway packet parsed]
      exact Handled.emits_one (if_pos flagged)
  | pongTurn =>
      simp only
      split
      · split
        · exact Handled.emits_one rfl
        · exact Handled.emits_done state
      · exact Handled.emits_done state
  | pushClientIps =>
      simp only
      split
      · exact Handled.emits_one rfl
      · exact Handled.emits_done state
  | rpcRes =>
      simp only
      split
      · exact Handled.emits_one rfl
      · exact Handled.emits_done state
  | _ => exact Handled.emits_done state

theorem ServerTurnInboundHandler.processDecompressedPacket_replies (networkAddr : NetworkAddr)
    (msgType : MsgType) (src dest : Ipv4Addr) (state : NodeState) (packet : NetPacket) :
    (processDecompressedPacket config clock networkAddr msgType src dest state packet).Emits
      (Replies config.packetCrypto) := by
  have two : ∀ {first second : Effect} {outcome : Outcome Unit},
      Replies config.packetCrypto first → Replies config.packetCrypto second →
        (⟨state, [first, second], outcome⟩ : Handled).Emits (Replies config.packetCrypto) := by
    intro first second outcome allowed also effect member
    rcases List.mem_cons.mp member with rfl | member
    · exact allowed
    · rwa [List.mem_singleton.mp member]
  unfold processDecompressedPacket
  cases msgType with
  | turn | broadcast => exact Handled.emits_one trivial
  | punchStart1 =>
      simp only
      split
      · split
        · exact Handled.emits_done state
        · rename_i info _
          split
          · split
            · rename_i built made
              exact two trivial (Or.inr ⟨built, controlPacket_seq made, rfl⟩)
            · exact Handled.emits_one trivial
            · exact Handled.emits_one trivial
          · exact Handled.emits_one trivial
          · exact Handled.emits_one trivial
          · exact Handled.emits_one trivial
      · exact Handled.emits_done state
  | punchStart2 =>
      simp only
      split
      · exact two trivial trivial
      · exact Handled.emits_one trivial
  | _ => exact Handled.emits_done state

theorem ServerTurnInboundHandler.handle_replies (networkAddr : Option NetworkAddr)
    (state : NodeState) (data : Bytes) :
    (handle config clock networkAddr state data).Emits (Replies config.packetCrypto) := by
  apply Handled.emits_attempt
  intro packet parsed
  cases networkAddr with
  | none => exact Handled.emits_done state
  | some addr =>
      simp only
      split
      · rename_i fromGateway
        intro effect member
        refine Silent.replies (handleServerData_silent addr state data ?_ effect member)
        intro other again
        rw [parsed] at again
        cases again
        exact fromGateway
      · split
        · exact Handled.emits_done state
        · simp only [handleClientData, parsed]
          apply Handled.emits_attempt
          intro packet _
          apply Handled.emits_attempt
          intro msgType _
          split
          · exact emits_handleQuic addr packet.srcId (fun _ => trivial) state packet
          · split
            · exact emits_handleOpened
                (processDecompressedPacket_replies addr msgType packet.srcId packet.destId) state _
            · exact Handled.emits_done state

end Handlers

section Run
variable (outbound : HybridOutbound)

theorem HybridOutbound.seal_unnumbered {packets : List NetPacket}
    (zero : ∀ packet ∈ packets, packet.seq = 0) :
    ∀ wire ∈ packets.map outbound.sealPacket, Unnumbered outbound.node.packetCrypto wire := by
  intro wire member
  obtain ⟨packet, inside, rfl⟩ := List.mem_map.mp member
  exact ⟨packet, zero packet inside, rfl⟩

theorem HybridOutbound.control_unnumbered (size : Nat) (msgType : MsgType) (ttl : UInt8)
    (dest : Ipv4Addr) (payload : Bytes) :
    ∀ wire ∈ outbound.control size msgType ttl dest payload,
      Unnumbered outbound.node.packetCrypto wire := by
  intro wire member
  unfold HybridOutbound.control at member
  split at member
  · cases member
  · split at member
    · rename_i packet made
      rw [List.mem_singleton.mp member]
      exact ⟨packet, controlPacket_seq made, rfl⟩
    · cases member

theorem HybridOutbound.worker_unnumbered (encoder : Option FecEncoder) (event : EncoderEvent)
    (working : ∀ now packet, event ≠ .encode now packet) :
    ∀ wire ∈ (outbound.worker encoder event).2, Unnumbered outbound.node.packetCrypto wire := by
  intro wire member
  cases encoder with
  | none => cases member
  | some encoder =>
      refine outbound.seal_unnumbered (fun packet inside => ?_) wire member
      cases event with
      | encode now packet => exact absurd rfl (working now packet)
      | tick now =>
          obtain ⟨item, _, made⟩ := List.mem_flatMap.mp inside
          exact paritySent_seq made
      | recv =>
          simp only [FecEncoder.step] at inside
          split at inside
          · exact paritySent_seq inside
          · cases inside

/-- Everything one action seals is sealed without a number. -/
theorem HybridOutbound.step_unnumbered (state : SendingState) (action : Action) :
    ∀ wire ∈ (outbound.step state action).2, Unnumbered outbound.node.packetCrypto wire := by
  cases action with
  | ipv4Outbound now net data =>
      intro wire member
      simp only [HybridOutbound.step, HybridOutbound.ipv4Outbound] at member
      split at member
      · cases member
      · split at member
        · cases member
        · refine outbound.seal_unnumbered (fun packet inside => ?_) wire member
          rw [encoded_seq inside, compress_seq]
          rfl
  | ipv4BroadcastOutbound net data =>
      intro wire member
      rw [List.mem_singleton.mp member]
      exact ⟨_, compress_seq _ _, rfl⟩
  | outboundRaw now packet =>
      intro wire member
      cases member
  | workerTick now => exact outbound.worker_unnumbered _ _ fun _ _ same => by cases same
  | workerRecv => exact outbound.worker_unnumbered _ _ fun _ _ same => by cases same
  | ping id ms => exact outbound.control_unnumbered 8 .ping 1 id (toBeBytes64 ms)
  | relayPing target ms => exact outbound.control_unnumbered 8 .ping 2 target (toBeBytes64 ms)
  | punchStart dest info => exact outbound.control_unnumbered info.length .punchStart1 2 dest info
  | punchNow dest ms => exact outbound.control_unnumbered 8 .punchReq 1 dest (toBeBytes64 ms)
  | receive incoming =>
      intro wire member
      obtain ⟨effect, emitted, inside⟩ := List.mem_flatMap.mp member
      -- What a handler sends back is built like a reply, whichever socket it came from.
      have replies : Replies outbound.node.packetCrypto effect := by
        cases entrance : incoming.entrance with
        | p2p routeKey =>
            refine @P2pInboundHandler.nextHandle_replies _ incoming.clock routeKey state.node
              incoming.data effect ?_
            simpa only [NodeConfig.step, entrance, Entrance.receive] using emitted
        | server networkAddr =>
            refine @ServerTurnInboundHandler.handle_replies _ incoming.clock networkAddr state.node
              incoming.data effect ?_
            simpa only [NodeConfig.step, entrance, Entrance.receive] using emitted
      cases effect with
      | sendTo addr packet =>
          rw [List.mem_singleton.mp inside]
          exact replies
      | sendTurn packet =>
          simp only [HybridOutbound.sealedEffect] at inside
          split at inside
          · cases inside
          · rename_i notGateway
            rw [List.mem_singleton.mp inside]
            exact replies.resolve_left notGateway
      | _ => cases inside

def HybridOutbound.sealedIn (start : SendingState) (actions : List Action) : List NetPacket :=
  (Machine.run outbound.step start actions).2

theorem HybridOutbound.sealedIn_unnumbered (start : SendingState) (actions : List Action) :
    ∀ wire ∈ outbound.sealedIn start actions, Unnumbered outbound.node.packetCrypto wire := by
  have kept := Machine.run_invariant outbound.step
    (fun _ wires => ∀ wire ∈ wires, Unnumbered outbound.node.packetCrypto wire) actions
    (by
      intro state wires action _ unnumbered wire member
      rcases List.mem_append.mp member with before | now
      · exact unnumbered wire before
      · exact outbound.step_unnumbered state action wire now)
    start [] (by simp)
  rwa [List.nil_append] at kept

/-- In no run do nonces tell more apart than type, source and destination. -/
theorem HybridOutbound.sealed_nonce_iff (start : SendingState) (actions : List Action) :
    ∀ left ∈ outbound.sealedIn start actions, ∀ right ∈ outbound.sealedIn start actions,
      left.makeNonce = right.makeNonce ↔ SameFlow left right := by
  have unnumbered := outbound.sealedIn_unnumbered start actions
  intro left inLeft right inRight
  refine ⟨SameFlow.of_makeNonce, fun flow => flow.makeNonce_eq ?_⟩
  exact (unnumbered left inLeft).seq_zero.trans (unnumbered right inRight).seq_zero.symm

end Run

end VntClient
