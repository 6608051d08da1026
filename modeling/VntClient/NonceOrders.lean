import VntClient.NonceReuse

/-!
What the actions of a run ask a node to send, and that asking for no two different packets
of one flow is enough for the nonces to be unique.
-/

namespace VntClient

/-- A packet that an action asks for: its flow and what it carries, where the FEC encoder has
no part in that. -/
structure Order where
  msgType : MsgType
  src : Ipv4Addr
  dest : Ipv4Addr
  content : Option Bytes
deriving DecidableEq

def Order.Agree (left right : Order) : Prop :=
  left.msgType = right.msgType → left.src = right.src → left.dest = right.dest →
    left.content ≠ none ∧ left.content = right.content

instance : DecidableRel Order.Agree := fun _ _ => inferInstanceAs (Decidable (_ → _ → _ → _))

section Orders

def expanded (config : NodeConfig) (packet : NetPacket) : Option NetPacket :=
  match config.packetCompression.decompress packet with
  | .ok plain => some plain
  | _ => none

/-- The requests in an opened packet: itself, or what the decoder makes of it. -/
def requests (config : NodeConfig) (clock : Clock) (state : NodeState) (opened : NetPacket) :
    List NetPacket :=
  let carried :=
    if opened.isFec then
      match (decodeFec clock state opened).2 with
      | .ok packets => packets
      | _ => []
    else [opened]
  carried.filterMap (expanded config)

def P2pInboundHandler.replyOrders (config : NodeConfig) (clock : Clock) (routeKey : RouteKey)
    (ctx : PacketContext) (request : NetPacket) : List Order :=
  match ctx.msgType with
  | .ping =>
      -- a longer payload does not fit into the reply
      if request.payload.length ≤ 8 then [⟨.pong, ctx.destIp, ctx.srcIp, some request.payload⟩]
      else []
  | .punchReq =>
      if looped config routeKey then []
      else [⟨.punchRes, ctx.destIp, ctx.srcIp, some (toBeBytes64 clock.ms)⟩]
  | _ => []

def ServerTurnInboundHandler.replyOrders (config : NodeConfig) (clock : Clock) (msgType : MsgType)
    (src dest : Ipv4Addr) (request : NetPacket) : List Order :=
  match msgType with
  | .punchStart1 =>
      if config.parsesPunchInfo request.payload then
        match config.punchInfo with
        | none => []
        | some selfPunchInfo =>
            if config.punch clock.now src request.payload = .ok true then
              [⟨.punchStart2, dest, src, some selfPunchInfo⟩]
            else []
      else []
  | _ => []

def NodeConfig.replyOrders (config : NodeConfig) (state : NodeState) (incoming : Incoming) :
    List Order :=
  match incoming.entrance with
  | .p2p routeKey =>
      match P2pInboundHandler.triage config state.routeTable incoming.data with
      | .ok (.handle _ packet ctx) =>
          match config.packetCrypto.decryptInPlace packet with
          | .ok opened => (requests config incoming.clock state opened).flatMap
              (P2pInboundHandler.replyOrders config incoming.clock routeKey ctx)
          | _ => []
      | _ => []
  | .server networkAddr =>
      match NetPacket.new incoming.data, networkAddr with
      | .ok packet, some net =>
          let dest := packet.destId
          if packet.isGateway || !isBroadcast dest && !isUnspecified dest && net.ip != dest then []
          else
            match packet.msgType, config.packetCrypto.decryptInPlace packet with
            | .ok msgType, .ok opened => (requests config incoming.clock state opened).flatMap
                (ServerTurnInboundHandler.replyOrders config incoming.clock msgType packet.srcId dest)
            | _, _ => []
      | _, _ => []

namespace HybridOutbound
variable (outbound : HybridOutbound)

def dataTarget (net : NetworkAddr) (data : Bytes) : Option Ipv4Addr :=
  match Ipv4Packet.new data with
  | none => none
  | some ipv4 =>
      if net.network.contains ipv4.getDestination then some ipv4.getDestination
      else route outbound.externalRoute ipv4.getDestination

def controlOrders (msgType : MsgType) (dest : Ipv4Addr) (payload : Bytes) : List Order :=
  outbound.node.network.toList.map fun net => ⟨msgType, net.ip, dest, some payload⟩

def parityOrders (item : BatchItem) : List Order :=
  List.replicate (parityShards item.items.length) ⟨.turn, item.src, item.dest, none⟩

def orders (state : SendingState) : Action → List Order
  | .ipv4Outbound _ net data => (outbound.dataTarget net data).toList.map fun dest =>
      ⟨.turn, net.ip, dest, if state.fecEncoder.isSome then none else some data⟩
  | .ipv4BroadcastOutbound net data => [⟨.broadcast, net.ip, 0xFFFFFFFF, some data⟩]
  | .outboundRaw _ _ => []
  | .workerTick now => state.fecEncoder.toList.flatMap fun encoder =>
      (encoder.tick now).1.flatMap parityOrders
  | .workerRecv => state.fecEncoder.toList.flatMap fun encoder =>
      encoder.recv.toList.flatMap fun taken => parityOrders taken.1
  | .ping id ms => outbound.controlOrders .ping id (toBeBytes64 ms)
  | .relayPing target ms => outbound.controlOrders .ping target (toBeBytes64 ms)
  | .punchStart dest info => outbound.controlOrders .punchStart1 dest info
  | .punchNow dest ms => outbound.controlOrders .punchReq dest (toBeBytes64 ms)
  | .receive incoming => outbound.node.replyOrders state.node incoming

def orderedIn (start : SendingState) (actions : List Action) : List Order :=
  (Machine.run (fun state action =>
    ((outbound.step state action).1, outbound.orders state action)) start actions).2

end HybridOutbound
end Orders

def plaintext (crypto : PacketCrypto) (wire : NetPacket) : Option Bytes :=
  match crypto.decryptInPlace wire with
  | .ok packet => some packet.payload
  | _ => none

theorem plaintext_encryptInPlace (crypto : PacketCrypto) (packet : NetPacket) :
    plaintext crypto (crypto.encryptInPlace packet) = some packet.payload := by
  rw [plaintext, crypto.decrypt_encrypt]

/-- No nonce is used for two different plaintexts. -/
def NoncesUnique (crypto : PacketCrypto) (wires : List NetPacket) : Prop :=
  ∀ left ∈ wires, ∀ right ∈ wires, left.makeNonce = right.makeNonce →
    plaintext crypto left = plaintext crypto right

instance (crypto : PacketCrypto) (wires : List NetPacket) : Decidable (NoncesUnique crypto wires) := by
  unfold NoncesUnique
  infer_instance

namespace HybridOutbound
variable (outbound : HybridOutbound)

def rendered (msgType : MsgType) (content : Bytes) : Bytes :=
  match msgType with
  | .turn | .broadcast =>
      (outbound.node.packetCompression.compress ⟨NetHeader.zeroed, content⟩).payload
  | .punchStart1 | .punchStart2 => content
  | _ => content ++ (List.replicate 8 0).drop content.length

structure Fulfils (order : Order) (wire : NetPacket) : Prop where
  msgType : wire.msgType = .ok order.msgType
  src : wire.srcId = order.src
  dest : wire.destId = order.dest
  content : ∀ content, order.content = some content →
    plaintext outbound.node.packetCrypto wire = some (outbound.rendered order.msgType content)

/-- The packets fulfil some of the orders, each its own. -/
def Within (orders : List Order) (wires : List NetPacket) : Prop :=
  ∃ used, used.Sublist orders ∧ List.Forall₂ outbound.Fulfils used wires

variable {outbound}

theorem within_nil (orders : List Order) : outbound.Within orders [] :=
  ⟨[], List.nil_sublist orders, List.Forall₂.nil⟩

theorem Fulfils.within {order : Order} {wire : NetPacket} (fulfils : outbound.Fulfils order wire) :
    outbound.Within [order] [wire] :=
  ⟨[order], List.Sublist.refl _, List.Forall₂.cons fulfils List.Forall₂.nil⟩

theorem Within.append {first second : List Order} {early late : List NetPacket}
    (left : outbound.Within first early) (right : outbound.Within second late) :
    outbound.Within (first ++ second) (early ++ late) := by
  obtain ⟨leftUsed, leftInside, leftAll⟩ := left
  obtain ⟨rightUsed, rightInside, rightAll⟩ := right
  exact ⟨leftUsed ++ rightUsed, leftInside.append rightInside, List.rel_append leftAll rightAll⟩

theorem Fulfils.nonce_unique {left right : Order} {first second : NetPacket}
    (early : outbound.Fulfils left first) (late : outbound.Fulfils right second)
    (agree : left.Agree right) (same : first.makeNonce = second.makeNonce) :
    plaintext outbound.node.packetCrypto first = plaintext outbound.node.packetCrypto second := by
  have flow := SameFlow.of_makeNonce same
  have types : left.msgType = right.msgType := by
    have header : first.msgType = second.msgType := by
      rw [NetPacket.msgType, NetPacket.msgType, NetHeader.msgType, NetHeader.msgType, flow.typeByte]
    exact Outcome.ok.inj (early.msgType.symm.trans (header.trans late.msgType))
  obtain ⟨known, equal⟩ := agree types (early.src.symm.trans (flow.src.trans late.src))
    (early.dest.symm.trans (flow.dest.trans late.dest))
  obtain ⟨content, held⟩ := Option.ne_none_iff_exists'.mp known
  rw [early.content content held, late.content content (equal ▸ held), types]

theorem exists_order {orders : List Order} {wires : List NetPacket}
    (all : List.Forall₂ outbound.Fulfils orders wires) {wire : NetPacket} (member : wire ∈ wires) :
    ∃ order ∈ orders, outbound.Fulfils order wire := by
  induction all with
  | nil => cases member
  | cons fulfils rest ih =>
      rcases List.mem_cons.mp member with rfl | member
      · exact ⟨_, List.mem_cons_self, fulfils⟩
      · obtain ⟨order, inside, fulfils⟩ := ih member
        exact ⟨order, List.mem_cons_of_mem _ inside, fulfils⟩

/-- Orders that agree keep the nonces of what fulfils them unique. -/
theorem Within.nonces_unique {orders : List Order} {wires : List NetPacket}
    (within : outbound.Within orders wires) (agree : orders.Pairwise Order.Agree) :
    NoncesUnique outbound.node.packetCrypto wires := by
  obtain ⟨used, inside, all⟩ := within
  have agree := agree.sublist inside
  have pairs : wires.Pairwise fun left right => left.makeNonce = right.makeNonce →
      plaintext outbound.node.packetCrypto left = plaintext outbound.node.packetCrypto right := by
    clear inside
    induction all with
    | nil => exact List.Pairwise.nil
    | cons fulfils rest ih =>
        obtain ⟨first, agree⟩ := List.pairwise_cons.mp agree
        refine List.pairwise_cons.mpr ⟨fun later member same => ?_, ih agree⟩
        obtain ⟨order, known, other⟩ := exists_order rest member
        exact fulfils.nonce_unique other (first order known) same
  have symm : Std.Symm fun left right : NetPacket => left.makeNonce = right.makeNonce →
      plaintext outbound.node.packetCrypto left = plaintext outbound.node.packetCrypto right :=
    ⟨fun first second agrees same => (agrees same.symm).symm⟩
  intro left inLeft right inRight
  exact pairs.forall_of_forall (fun _ _ _ => rfl) inLeft inRight

/-- Sealing a packet of the right flow and payload fulfils an order. -/
theorem fulfils_seal {order : Order} {packet : NetPacket}
    (msgType : packet.msgType = .ok order.msgType) (src : packet.srcId = order.src)
    (dest : packet.destId = order.dest)
    (content : ∀ content, order.content = some content →
      packet.payload = outbound.rendered order.msgType content) :
    outbound.Fulfils order (outbound.node.packetCrypto.encryptInPlace packet) := by
  have header := PacketCrypto.encryptInPlace_header outbound.node.packetCrypto packet
  refine ⟨?_, ?_, ?_, fun held known => ?_⟩
  · rw [NetPacket.msgType, header]
    exact msgType
  · rw [NetPacket.srcId, header]
    exact src
  · rw [NetPacket.destId, header]
    exact dest
  · rw [plaintext_encryptInPlace, content held known]

/-- A message of the node's own carries its payload in a buffer of its size. -/
theorem fulfils_control {size : Nat} {msgType : MsgType} {ttl : UInt8} {src dest : Ipv4Addr}
    {payload : Bytes} {packet : NetPacket}
    (made : controlPacket size msgType ttl src dest payload = .ok packet)
    (sized : outbound.rendered msgType payload =
      payload ++ (List.replicate size 0).drop payload.length) :
    outbound.Fulfils ⟨msgType, src, dest, some payload⟩
      (outbound.node.packetCrypto.encryptInPlace packet) := by
  rw [controlPacket, NetPacket.setPayload] at made
  split at made
  · cases made
  · cases made
    refine fulfils_seal ?_ rfl rfl ?_
    · exact NetHeader.msgType_setMsgType NetHeader.zeroed msgType
    · rintro content known
      cases known
      exact sized.symm

theorem control_within (size : Nat) (msgType : MsgType) (ttl : UInt8) (dest : Ipv4Addr)
    (payload : Bytes) (sized : outbound.rendered msgType payload =
      payload ++ (List.replicate size 0).drop payload.length) :
    outbound.Within (outbound.controlOrders msgType dest payload)
      (outbound.control size msgType ttl dest payload) := by
  unfold controlOrders control
  cases outbound.node.network with
  | none => exact within_nil _
  | some net =>
      simp only [Option.toList_some, List.map_singleton]
      cases made : controlPacket size msgType ttl net.ip dest payload with
      | ok packet => exact (fulfils_control made sized).within
      | err message => exact within_nil _
      | panic => exact within_nil _

theorem paritySent_length (item : BatchItem) :
    (FecEncoder.paritySent item).length ≤ parityShards item.items.length := by
  unfold FecEncoder.paritySent
  by_cases nonempty : item.items = []
  · simp [encodeAndSendParity, nonempty]
  by_cases content : maxLength item.items = 0
  · simp [encodeAndSendParity, content]
  by_cases few : item.items.length + parityShards item.items.length ≤ 256
  · rw [encodeAndSendParity_ok item nonempty few content]
    simp
  · have many : ReedSolomon.new item.items.length (parityShards item.items.length) =
        .err "TooManyShards" := by
      have count : item.items.length ≠ 0 := by simp [nonempty]
      have positive := parityShards_pos item.items.length
      rw [ReedSolomon.new, if_neg count, if_neg (by omega), if_pos (by omega)]
    simp [encodeAndSendParity, nonempty, content, many]

theorem parity_within (item : BatchItem) :
    outbound.Within (parityOrders item)
      ((FecEncoder.paritySent item).map outbound.sealPacket) := by
  have each : ∀ wires : List NetPacket,
      (∀ packet ∈ wires, packet.header = parityHeader item.src item.dest) →
        List.Forall₂ outbound.Fulfils
          (List.replicate wires.length ⟨.turn, item.src, item.dest, none⟩)
          (wires.map outbound.sealPacket) := by
    intro wires headers
    induction wires with
    | nil => exact List.Forall₂.nil
    | cons packet rest ih =>
        obtain ⟨header, headers⟩ := List.forall_mem_cons.mp headers
        refine List.Forall₂.cons (fulfils_seal ?_ ?_ ?_ fun _ known => by cases known) (ih headers)
        · rw [NetPacket.msgType, header]
          have turn : MsgType.tryFrom (0x81 &&& 0x7F) = .ok .turn := by decide
          exact turn
        · rw [NetPacket.srcId, header]
          rfl
        · rw [NetPacket.destId, header]
          rfl
  refine ⟨_, List.replicate_sublist_replicate _ |>.mpr (paritySent_length item),
    each (FecEncoder.paritySent item) fun packet member => ?_⟩
  unfold FecEncoder.paritySent at member
  split at member
  · rename_i sent made
    exact encodeAndSendParity_header made packet member
  · cases member

theorem flatMap_within {Source : Type} (sources : List Source) (orders : Source → List Order)
    (wires : Source → List NetPacket)
    (each : ∀ source, outbound.Within (orders source) (wires source)) :
    outbound.Within (sources.flatMap orders) (sources.flatMap wires) := by
  induction sources with
  | nil => exact within_nil []
  | cons source rest ih => exact (each source).append ih

def sealedBy (handled : Handled) : List NetPacket := handled.effects.flatMap sealedEffect

theorem silent_within (orders : List Order) {handled : Handled} (silent : handled.Emits Silent) :
    outbound.Within orders (sealedBy handled) := by
  rw [sealedBy, List.flatMap_eq_nil_iff.mpr silent]
  exact within_nil orders

section Loop
variable {config : NodeConfig} {clock : Clock} {process : NodeState → NetPacket → Handled}
  {ordered : NetPacket → List Order}

theorem decompressed_within
    (each : ∀ state packet, outbound.Within (ordered packet) (sealedBy (process state packet)))
    (state : NodeState) (packet : NetPacket) :
    outbound.Within ((expanded config packet).toList.flatMap ordered)
      (sealedBy (decompressed config process state packet)) := by
  unfold expanded decompressed
  cases config.packetCompression.decompress packet with
  | ok plain =>
      simp only [Option.toList_some, List.flatMap_singleton]
      exact each state plain
  | err message => exact within_nil _
  | panic => exact within_nil _

theorem forEach_within {orders : NetPacket → List Order}
    (each : ∀ state packet, outbound.Within (orders packet) (sealedBy (process state packet)))
    (packets : List NetPacket) (state : NodeState) :
    outbound.Within (packets.flatMap orders) (sealedBy (Handled.forEach process state packets)) := by
  induction packets generalizing state with
  | nil => exact within_nil _
  | cons packet rest ih =>
      simp only [Handled.forEach, List.flatMap_cons]
      split
      · rw [sealedBy, List.flatMap_append]
        exact (each state packet).append (ih _)
      · have here := (each state packet).append (within_nil (rest.flatMap orders))
        rwa [List.append_nil] at here

/-- What the handlers seal for an opened packet is within the orders of its requests. -/
theorem handleOpened_within
    (each : ∀ state packet, outbound.Within (ordered packet) (sealedBy (process state packet)))
    (state : NodeState) (opened : NetPacket) :
    outbound.Within ((requests config clock state opened).flatMap ordered)
      (sealedBy (handleOpened config clock process state opened)) := by
  unfold requests handleOpened
  by_cases carried : opened.isFec = true
  · simp only [carried, ↓reduceIte, handleFec]
    cases (decodeFec clock state opened).2 with
    | err message => exact within_nil _
    | panic => exact within_nil _
    | ok packets =>
        rw [List.filterMap_eq_flatMap_toList, List.flatMap_assoc]
        exact forEach_within (decompressed_within each) packets (decodeFec clock state opened).1
  · rw [if_neg carried, if_neg carried, List.filterMap_eq_flatMap_toList, List.flatMap_singleton]
    exact decompressed_within each state opened

end Loop

theorem P2pInboundHandler.process_within (clock : Clock) (net : NetworkAddr) (routeKey : RouteKey)
    (ctx : PacketContext) (state : NodeState) (packet : NetPacket) :
    outbound.Within
      (P2pInboundHandler.replyOrders outbound.node clock routeKey ctx packet)
      (sealedBy (P2pInboundHandler.processDecompressedPacket outbound.node clock net routeKey ctx
        state packet)) := by
  have answered : ∀ msgType state payload, outbound.rendered msgType payload =
      payload ++ (List.replicate 8 0).drop payload.length →
        outbound.Within [⟨msgType, ctx.destIp, ctx.srcIp, some payload⟩]
          (sealedBy (P2pInboundHandler.reply outbound.node clock routeKey ctx msgType state
            payload)) := by
    intro msgType state payload sized
    unfold P2pInboundHandler.reply
    cases made : controlPacket 8 msgType 1 ctx.destIp ctx.srcIp payload with
    | ok packet => exact (fulfils_control made sized).within
    | err message => exact within_nil _
    | panic => exact within_nil _
  unfold P2pInboundHandler.replyOrders P2pInboundHandler.processDecompressedPacket
  cases ctx.msgType with
  | turn | broadcast | excludeBroadcast => exact within_nil _
  | ping =>
      simp only
      split
      · exact answered .pong _ _ rfl
      · rename_i long
        have refused : controlPacket 8 .pong 1 ctx.destIp ctx.srcIp packet.payload =
            .err "Invalid message length" := if_pos (Nat.lt_of_not_le long)
        rw [P2pInboundHandler.reply, refused]
        exact within_nil _
  | pong =>
      simp only
      split
      · split <;> exact within_nil _
      · exact within_nil _
  | punchReq =>
      simp only
      split
      · exact within_nil _
      · exact answered .punchRes _ _ rfl
  | punchRes =>
      simp only
      split <;> exact within_nil _
  | _ => exact within_nil _

theorem ServerTurnInboundHandler.process_within (clock : Clock) (net : NetworkAddr)
    (msgType : MsgType) (src dest : Ipv4Addr) (state : NodeState) (packet : NetPacket) :
    outbound.Within
      (ServerTurnInboundHandler.replyOrders outbound.node clock msgType src dest packet)
      (sealedBy (ServerTurnInboundHandler.processDecompressedPacket outbound.node clock net msgType
        src dest state packet)) := by
  unfold ServerTurnInboundHandler.replyOrders ServerTurnInboundHandler.processDecompressedPacket
  cases msgType with
  | punchStart1 =>
      simp only
      by_cases parses : outbound.node.parsesPunchInfo packet.payload = true
      · rw [if_pos parses, if_pos parses]
        cases outbound.node.punchInfo with
        | none => exact within_nil _
        | some info =>
            simp only
            cases outbound.node.punch clock.now src packet.payload with
            | err message => exact within_nil _
            | panic => exact within_nil _
            | ok punched =>
                cases punched with
                | false => exact within_nil _
                | true =>
                    rw [if_pos rfl]
                    simp only
                    cases made : controlPacket info.length .punchStart2 2 dest src info with
                    | err message => exact within_nil _
                    | panic => exact within_nil _
                    | ok built =>
                        have sized : outbound.rendered .punchStart2 info =
                            info ++ (List.replicate info.length 0).drop info.length := by
                          simp [rendered]
                        have fulfils := fulfils_control made sized
                        simp only [sealedBy, List.flatMap_cons, List.flatMap_nil, sealedEffect,
                          List.nil_append, List.append_nil]
                        split
                        · exact within_nil _
                        · exact fulfils.within
      · rw [if_neg parses, if_neg parses]
        exact within_nil _
  | turn | broadcast => exact within_nil _
  | punchStart2 =>
      simp only
      split <;> exact within_nil _
  | _ => exact within_nil _

/-- What the handlers seal for a packet that arrives is within its orders. -/
theorem receive_within (state : NodeState) (incoming : Incoming) :
    outbound.Within (outbound.node.replyOrders state incoming)
      ((outbound.node.step state incoming).2.flatMap sealedEffect) := by
  simp only [NodeConfig.replyOrders, NodeConfig.step]
  cases incoming.entrance with
  | p2p routeKey =>
      simp only [Entrance.receive, P2pInboundHandler.nextHandle]
      cases P2pInboundHandler.triage outbound.node state.routeTable incoming.data with
      | err message => exact within_nil _
      | panic => exact within_nil _
      | ok verdict =>
          cases verdict with
          | drop => exact within_nil _
          | forward key packet => exact within_nil _
          | handle net packet ctx =>
              simp only [Handled.attempt, P2pInboundHandler.handleLocal]
              by_cases quic : ctx.msgType = .quic
              · rw [if_pos quic]
                exact silent_within _ (emits_handleQuic net ctx.srcIp (fun _ => rfl) state packet)
              · rw [if_neg quic]
                cases outbound.node.packetCrypto.decryptInPlace packet with
                | err message => exact within_nil _
                | panic => exact within_nil _
                | ok opened =>
                    exact handleOpened_within (P2pInboundHandler.process_within incoming.clock net
                      routeKey ctx) state opened
  | server networkAddr =>
      simp only [Entrance.receive, ServerTurnInboundHandler.handle]
      cases parsed : NetPacket.new incoming.data with
      | err message => exact within_nil _
      | panic => exact within_nil _
      | ok packet =>
          simp only [Handled.attempt]
          cases networkAddr with
          | none => exact within_nil _
          | some net =>
              simp only
              by_cases fromGateway : packet.isGateway = true
              · rw [if_pos fromGateway]
                refine silent_within _ (ServerTurnInboundHandler.handleServerData_silent net state
                  incoming.data fun other again => ?_)
                rw [parsed] at again
                cases again
                exact fromGateway
              · rw [if_neg fromGateway]
                by_cases elsewhere : (!isBroadcast packet.destId && !isUnspecified packet.destId &&
                    net.ip != packet.destId) = true
                · rw [if_pos elsewhere]
                  exact within_nil _
                · have here : ¬ (packet.isGateway || !isBroadcast packet.destId &&
                      !isUnspecified packet.destId && net.ip != packet.destId) = true := by
                    rw [Bool.or_eq_true]
                    exact not_or.mpr ⟨fromGateway, elsewhere⟩
                  rw [if_neg elsewhere, if_neg here]
                  simp only [ServerTurnInboundHandler.handleClientData, parsed, Handled.attempt]
                  cases packet.msgType with
                  | err message => exact within_nil _
                  | panic => exact within_nil _
                  | ok msgType =>
                      simp only
                      by_cases quic : msgType = .quic
                      · rw [if_pos quic]
                        exact silent_within _
                          (emits_handleQuic net packet.srcId (fun _ => rfl) state packet)
                      · rw [if_neg quic]
                        cases outbound.node.packetCrypto.decryptInPlace packet with
                        | err message => exact within_nil _
                        | panic => exact within_nil _
                        | ok opened =>
                            exact handleOpened_within (ServerTurnInboundHandler.process_within
                              incoming.clock net msgType packet.srcId packet.destId) state opened

/-- Everything one action seals is within its orders. -/
theorem step_within (state : SendingState) (action : Action) :
    outbound.Within (outbound.orders state action) (outbound.step state action).2 := by
  cases action with
  | ipv4Outbound now net data =>
      simp only [orders, dataTarget, HybridOutbound.step, ipv4Outbound]
      cases Ipv4Packet.new data with
      | none => exact within_nil _
      | some ipv4 =>
          simp only
          cases (if net.network.contains ipv4.getDestination then some ipv4.getDestination
            else route outbound.externalRoute ipv4.getDestination) with
          | none => exact within_nil _
          | some dest =>
              have flow := compress_flow outbound.node.packetCompression
                (dataPacket .turn net.ip dest data)
              cases state.fecEncoder with
              | none =>
                  refine (fulfils_seal (flow.1.trans ?_) flow.2.1 flow.2.2 ?_).within
                  · exact NetHeader.msgType_setMsgType NetHeader.zeroed .turn
                  · rintro content known
                    cases known
                    exact compress_payload _ _ _ rfl
              | some encoder =>
                  -- the encoder wraps the packet under its own header
                  simp only [encoded, Option.isSome_some, ↓reduceIte, Option.toList_some,
                    List.map_singleton]
                  by_cases fits : (outbound.node.packetCompression.compress
                      (dataPacket .turn net.ip dest data)).payload.length ≤ 65535
                  · rw [encoder.encode_ok now _ fits]
                    refine Fulfils.within (fulfils_seal (flow.1.trans ?_) flow.2.1 flow.2.2 ?_)
                    · exact NetHeader.msgType_setMsgType NetHeader.zeroed .turn
                    · exact fun _ known => by cases known
                  · rw [FecEncoder.encode, if_pos (Nat.lt_of_not_le fits)]
                    exact within_nil _
  | ipv4BroadcastOutbound net data =>
      have flow := compress_flow outbound.node.packetCompression
        (dataPacket .broadcast net.ip 0xFFFFFFFF data)
      refine (fulfils_seal (flow.1.trans ?_) flow.2.1 flow.2.2 ?_).within
      · exact NetHeader.msgType_setMsgType NetHeader.zeroed .broadcast
      · rintro content known
        cases known
        exact compress_payload _ _ _ rfl
  | outboundRaw now packet => exact within_nil _
  | workerTick now =>
      simp only [orders, HybridOutbound.step, worker]
      cases state.fecEncoder with
      | none => exact within_nil _
      | some encoder =>
          simp only [Option.toList_some, List.flatMap_singleton, FecEncoder.step, List.map_flatMap]
          exact flatMap_within _ _ _ parity_within
  | workerRecv =>
      simp only [orders, HybridOutbound.step, worker]
      cases state.fecEncoder with
      | none => exact within_nil _
      | some encoder =>
          simp only [Option.toList_some, List.flatMap_singleton, FecEncoder.step]
          cases encoder.recv with
          | none => exact within_nil _
          | some taken => simpa using parity_within taken.1
  | ping id ms => exact control_within 8 .ping 1 id (toBeBytes64 ms) rfl
  | relayPing target ms => exact control_within 8 .ping 2 target (toBeBytes64 ms) rfl
  | punchStart dest info =>
      refine control_within info.length .punchStart1 2 dest info ?_
      simp [rendered]
  | punchNow dest ms => exact control_within 8 .punchReq 1 dest (toBeBytes64 ms) rfl
  | receive incoming => exact receive_within state.node incoming

theorem run_within (start : SendingState) (actions : List Action) :
    outbound.Within (outbound.orderedIn start actions) (outbound.sealedIn start actions) := by
  unfold orderedIn sealedIn
  induction actions generalizing start with
  | nil => exact within_nil []
  | cons action rest ih => exact (step_within start action).append (ih _)

/-- A run that asks for no two different packets of one flow uses no nonce for two different
plaintexts. -/
theorem nonces_unique_of_agreeing (start : SendingState) (actions : List Action)
    (agree : (outbound.orderedIn start actions).Pairwise Order.Agree) :
    NoncesUnique outbound.node.packetCrypto (outbound.sealedIn start actions) :=
  (run_within start actions).nonces_unique agree

end HybridOutbound

def twoPackets : List Action :=
  [.ipv4Outbound 0 sampleNetwork
      [0x45, 0, 0, 20, 0, 0, 0, 0, 64, 17, 0, 0, 10, 26, 0, 3, 10, 26, 0, 2],
    .ipv4Outbound 1 sampleNetwork
      [0x45, 0, 0, 20, 0, 1, 0, 0, 64, 17, 0, 0, 10, 26, 0, 3, 10, 26, 0, 2]]

def keyedOutbound : HybridOutbound where
  node := { NodeConfig.plain sampleNetwork with packetCrypto := ⟨some transparentAead⟩ }
  externalRoute := []

/-- A packet for 10.26.0.2, sent again, one for 10.26.0.4, a broadcast, a ping, a punch and the
answer to a ping of 10.26.0.2. -/
def agreeingActions : List Action :=
  let ping : NetPacket := ⟨⟨0x85, 0x11, 0, 0, 0, 0x0A1A0002, 0x0A1A0003⟩, toBeBytes64 7⟩
  [.ipv4Outbound 0 sampleNetwork
      [0x45, 0, 0, 20, 0, 0, 0, 0, 64, 17, 0, 0, 10, 26, 0, 3, 10, 26, 0, 2],
    .ipv4Outbound 1 sampleNetwork
      [0x45, 0, 0, 20, 0, 0, 0, 0, 64, 17, 0, 0, 10, 26, 0, 3, 10, 26, 0, 2],
    .ipv4Outbound 2 sampleNetwork
      [0x45, 0, 0, 20, 0, 1, 0, 0, 64, 17, 0, 0, 10, 26, 0, 3, 10, 26, 0, 4],
    .ipv4BroadcastOutbound sampleNetwork [0x45], .ping 0x0A1A0002 5, .punchNow 0x0A1A0002 9,
    .receive ⟨⟨3, 8⟩, .p2p ⟨0, .v4 0x01020304, 29872⟩,
      (keyedOutbound.node.packetCrypto.encryptInPlace ping).buffer⟩]

theorem agreeing_nonces_unique :
    (keyedOutbound.sealedIn ⟨none, ⟨FecDecoder.new 0, RouteTable.new⟩⟩ agreeingActions).length = 7 ∧
      NoncesUnique keyedOutbound.node.packetCrypto
        (keyedOutbound.sealedIn ⟨none, ⟨FecDecoder.new 0, RouteTable.new⟩⟩ agreeingActions) :=
  ⟨by decide +kernel, keyedOutbound.nonces_unique_of_agreeing _ _ (by decide +kernel)⟩

theorem data_nonce_reused :
    ¬ NoncesUnique keyedOutbound.node.packetCrypto
      (keyedOutbound.sealedIn ⟨none, ⟨FecDecoder.new 0, RouteTable.new⟩⟩ twoPackets) := by
  decide +kernel

end VntClient
