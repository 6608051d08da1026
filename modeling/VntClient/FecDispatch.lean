import VntClient.Node
import VntClient.FecRoundTrip

/-!
Batches that mix QUIC datagrams and IPv4 packets, from the wire through the
handlers. A handler processes everything the decoder hands back under the type
of the packet that arrived, up to the first packet that fails.
-/

namespace VntClient

/-- What a sender puts on the wire: QUIC data as it is, the rest sealed. -/
def PacketCrypto.outbound (crypto : PacketCrypto) (packet : NetPacket) : NetPacket :=
  if packet.msgType = .ok .quic then packet else crypto.encryptInPlace packet

structure Mixed extends Batch where
  types : ∀ packet ∈ packets, packet.msgType = .ok .turn ∨ packet.msgType = .ok .quic
  plain : ∀ packet ∈ packets, packet.isGateway = false
  distinct : source ≠ dest

structure Reception (batch : Batch) extends Arrivals batch where
  repairable : (∀ i ∈ toArrivals.first, i < batch.dataShards) ∨
    batch.Aligned toArrivals.first.reverse
  entrance : Nat → Entrance
  ms : Nat → Int
  taken : ∀ delivery ∈ order,
    match entrance delivery.index with
    | .p2p _ =>
        let header := ({ NetHeader.zeroed with ttlByte := delivery.ttl } : NetHeader).decrTtl
        header.currTtl < header.maxTtl
    | .server networkAddr => ∃ net, networkAddr = some net ∧ net.ip = batch.dest

/-- A node with the batch's key that the batch is meant for. -/
structure Endpoint (batch : Batch) where
  config : NodeConfig
  net : NetworkAddr
  network : config.network = some net
  own : net.ip = batch.dest

/-- The packet is processed under the type in its own header: QUIC data as it is, an IPv4
packet decompressed. -/
def HandsOn (config : NodeConfig) (src : Ipv4Addr) (packet : NetPacket) (effect : Effect) : Prop :=
  packet.msgType = .ok .quic ∧ effect = .inbound .quic src packet ∨
    packet.msgType = .ok .turn ∧ ∃ plain, config.packetCompression.decompress packet = .ok plain ∧
      effect = .inbound .turn src plain

/-- The handlers, with the effects of each arrival kept apart. -/
def NodeConfig.stepEach (config : NodeConfig) (state : NodeState) (incoming : Incoming) :
    NodeState × List (List Effect) :=
  ((config.step state incoming).1, [(config.step state incoming).2])

structure Opened where
  clock : Clock
  net : NetworkAddr
  packet : NetPacket

namespace Reception
variable {batch : Batch} (reception : Reception batch)

def clock (delivery : Delivery) : Clock := ⟨delivery.now, reception.ms delivery.index⟩

def incoming (crypto : PacketCrypto) (delivery : Delivery) : Incoming where
  clock := reception.clock delivery
  entrance := reception.entrance delivery.index
  data := (crypto.outbound (batch.arriving delivery.index delivery.ttl)).buffer

/-- The P2P handler lowers the TTL before it goes on. -/
def ttlInside (delivery : Delivery) : UInt8 :=
  match reception.entrance delivery.index with
  | .p2p _ => ({ NetHeader.zeroed with ttlByte := delivery.ttl } : NetHeader).decrTtl.ttlByte
  | .server _ => delivery.ttl

def lowered (delivery : Delivery) : Delivery :=
  { delivery with ttl := reception.ttlInside delivery }

def netOf (net : NetworkAddr) (delivery : Delivery) : NetworkAddr :=
  match reception.entrance delivery.index with
  | .p2p _ => net
  | .server networkAddr => networkAddr.getD net

def opened (net : NetworkAddr) (delivery : Delivery) : Opened where
  clock := reception.clock delivery
  net := reception.netOf net delivery
  packet := batch.arriving delivery.index (reception.ttlInside delivery)

/-- The packet on whose arrival the repair runs. -/
def trigger : Nat := reception.first.getLastD 0

end Reception

def Batch.typeOf (batch : Batch) (i : Nat) : Outcome MsgType :=
  MsgType.tryFrom (batch.header i).msgType

def openedResults (opened : Delivery → Opened) (decoder : FecDecoder) (order : List Delivery) :
    List Received :=
  decoder.receiveAll (order.map fun delivery => ((opened delivery).clock.now, (opened delivery).packet))

/-- On each arrival the handlers hand on every packet that `receive` returns, each under the
type in its own header. -/
def Endpoint.Dispatches {batch : Batch} (endpoint : Endpoint batch) (reception : Reception batch)
    (start : NodeState) : Prop :=
  List.Forall₂ (fun result effects => List.Forall₂ (HandsOn endpoint.config batch.source)
      ((returnedBy [result]).map Returned.packet) effects)
    (openedResults (reception.opened endpoint.net) start.decoder reception.order)
    (Machine.run endpoint.config.stepEach start
      (reception.order.map (reception.incoming endpoint.config.packetCrypto))).2

def processAs (config : NodeConfig) (clock : Clock) (net : NetworkAddr) (src : Ipv4Addr)
    (msgType : MsgType) (state : NodeState) (netPacket : NetPacket) : Handled :=
  if msgType = .quic then deliver config clock net .quic src state netPacket
  else decompressed config (deliver config clock net msgType src) state netPacket

section Types
variable {batch : Mixed}

theorem Mixed.typeOf_or (batch : Mixed) {i : Nat} :
    batch.typeOf i = .ok .turn ∨ batch.typeOf i = .ok .quic := by
  by_cases early : i < batch.dataShards
  · have own := batch.types _ (Batch.packet_mem early)
    rwa [Batch.typeOf, Batch.header, if_pos early]
  · left
    have turn : MsgType.tryFrom (0x81 &&& 0x7F) = .ok .turn := by decide
    rw [Batch.typeOf, Batch.header, if_neg early]
    exact turn

theorem Mixed.notGateway (batch : Mixed) {i : Nat} {ttl : UInt8} :
    (batch.arriving i ttl).isGateway = false := by
  -- the FEC bit is not the gateway bit
  have kept : ∀ byte : UInt8, (byte ||| fec) &&& gateway = byte &&& gateway := by decide +kernel
  by_cases early : i < batch.dataShards
  · have own := batch.plain _ (Batch.packet_mem early)
    simpa only [NetPacket.isGateway, Batch.arriving, Batch.header, if_pos early, NetHeader.setFlag,
      ↓reduceIte, kept] using own
  · have clear : (0x20 &&& gateway != 0) = false := by decide
    simp only [NetPacket.isGateway, Batch.arriving, Batch.header, if_neg early]
    exact clear

theorem Mixed.isFec (batch : Mixed) {i : Nat} {ttl : UInt8} :
    (batch.arriving i ttl).isFec = true := by
  have set_ : ∀ byte : UInt8, ((byte ||| fec) &&& fec != 0) = true := by decide +kernel
  by_cases early : i < batch.dataShards
  · simpa only [NetPacket.isFec, Batch.arriving, Batch.header, if_pos early, NetHeader.setFlag,
      ↓reduceIte] using set_ _
  · have flagged : (0x20 &&& fec != 0) = true := by decide
    simp only [NetPacket.isFec, Batch.arriving, Batch.header, if_neg early]
    exact flagged

theorem arriving_msgType (batch : Batch) (i : Nat) (ttl : UInt8) :
    (batch.arriving i ttl).msgType = batch.typeOf i := rfl

theorem Mixed.turn_of_ne (batch : Mixed) {i : Nat} {msgType : MsgType}
    (typed : batch.typeOf i = .ok msgType) (other : msgType ≠ .quic) : msgType = .turn := by
  rcases @Mixed.typeOf_or batch i with turn | quic
  · exact Outcome.ok.inj (typed.symm.trans turn)
  · exact absurd (Outcome.ok.inj (typed.symm.trans quic)) other

end Types

section Handlers
variable {batch : Mixed}

theorem decrypt_outbound (crypto : PacketCrypto) (packet : NetPacket) (msgType : MsgType)
    (typed : packet.msgType = .ok msgType) (sealed_ : msgType ≠ .quic) :
    crypto.decryptInPlace (crypto.outbound packet) = .ok packet := by
  have other : packet.msgType ≠ .ok .quic := by
    rw [typed]
    exact fun same => sealed_ (Outcome.ok.inj same)
  rw [PacketCrypto.outbound, if_neg other, PacketCrypto.decrypt_encrypt]

theorem outbound_header (crypto : PacketCrypto) (packet : NetPacket) :
    (crypto.outbound packet).header = packet.header := by
  unfold PacketCrypto.outbound
  split
  · rfl
  · exact crypto.encryptInPlace_header packet

theorem arriving_decrTtl (batch : Batch) (i : Nat) (ttl : UInt8) :
    (batch.arriving i ttl).decrTtl = batch.arriving i
      ({ NetHeader.zeroed with ttlByte := ttl } : NetHeader).decrTtl.ttlByte := by
  simp only [NetPacket.decrTtl, Batch.arriving, NetHeader.decrTtl, NetHeader.currTtl]
  by_cases spent : ttl &&& 0x0F = 0 <;> simp [spent]

/-- Both handlers bring a packet of the batch to the decoder and process what
comes back under the type it arrived with. -/
theorem receive_batch (endpoint : Endpoint batch.toBatch) (reception : Reception batch.toBatch)
    {delivery : Delivery} (member : delivery ∈ reception.order) (msgType : MsgType)
    (typed : batch.typeOf delivery.index = .ok msgType) (state : NodeState) :
    let opened := reception.opened endpoint.net delivery
    (reception.entrance delivery.index).receive endpoint.config (reception.clock delivery) state
        (reception.incoming endpoint.config.packetCrypto delivery).data =
      handleFec opened.clock (processAs endpoint.config opened.clock opened.net batch.source msgType)
        state opened.packet := by
  have taken := reception.taken delivery member
  have crypto := decrypt_outbound endpoint.config.packetCrypto
    (batch.arriving delivery.index delivery.ttl) msgType typed
  have header := outbound_header endpoint.config.packetCrypto
    (batch.arriving delivery.index delivery.ttl)
  have asIs : msgType = .quic → endpoint.config.packetCrypto.outbound
      (batch.arriving delivery.index delivery.ttl) = batch.arriving delivery.index delivery.ttl :=
    fun quic => by rw [PacketCrypto.outbound, arriving_msgType, typed, quic, if_pos rfl]
  simp only [Reception.incoming, Reception.opened, Reception.ttlInside, Reception.netOf]
  generalize endpoint.config.packetCrypto.outbound
    (batch.arriving delivery.index delivery.ttl) = packet at crypto header asIs
  have arrivedType : packet.msgType = .ok msgType := by
    rw [← typed, NetPacket.msgType, header]
    rfl
  have source : packet.srcId = batch.source := by
    rw [NetPacket.srcId, header]
    exact Batch.header_src
  have dest : packet.destId = batch.dest := by
    rw [NetPacket.destId, header]
    exact Batch.header_dest
  -- Either socket's handler opens the packet and decodes it by its flag.
  cases entrance : reception.entrance delivery.index with
  | p2p routeKey =>
      rw [entrance] at taken
      have hops : packet.decrTtl.ttl < packet.decrTtl.maxTtl := by
        have lowered := arriving_decrTtl batch.toBatch delivery.index delivery.ttl
        rw [NetPacket.ttl, NetPacket.maxTtl, NetPacket.decrTtl, header]
        rw [NetPacket.decrTtl, NetPacket.mk.injEq] at lowered
        rw [lowered.1]
        exact taken
      have here : P2pInboundHandler.elsewhere endpoint.net packet.destId = false := by
        simp [P2pInboundHandler.elsewhere, dest, endpoint.own]
      have distinct : packet.srcId ≠ packet.destId := by
        rw [source, dest]
        exact batch.distinct
      have opens : msgType ≠ .quic → endpoint.config.packetCrypto.decryptInPlace packet.decrTtl =
          .ok (batch.arriving delivery.index delivery.ttl).decrTtl := fun other => by
        rw [PacketCrypto.decrypt_decrTtl, crypto other]
        rfl
      simp only [Entrance.receive]
      rw [P2pInboundHandler.nextHandle_local _ _ _ _ _ _ _ arrivedType distinct endpoint.network
        here hops, P2pInboundHandler.handleLocal, source, dest]
      by_cases quic : msgType = .quic
      · subst quic
        rw [if_pos rfl, asIs rfl, arriving_decrTtl, handleQuic, if_pos batch.isFec]
        rfl
      · rw [if_neg quic, opens quic, Handled.attempt, arriving_decrTtl]
        simp only [handleOpened, batch.isFec, ↓reduceIte]
        obtain rfl := batch.turn_of_ne typed quic
        rfl
  | server networkAddr =>
      rw [entrance] at taken
      obtain ⟨net, rfl, own⟩ := taken
      have client : packet.isGateway = false := by
        have plain := @Mixed.notGateway batch delivery.index delivery.ttl
        rwa [NetPacket.isGateway, header]
      simp only [Entrance.receive, Option.getD_some]
      rw [ServerTurnInboundHandler.handle_local _ _ _ _ _ client (own.trans dest.symm)]
      simp only [ServerTurnInboundHandler.handleClientData, NetPacket.new_buffer, Handled.attempt,
        arrivedType, source, dest]
      by_cases quic : msgType = .quic
      · subst quic
        rw [if_pos rfl, asIs rfl, handleQuic, if_pos batch.isFec]
        rfl
      · rw [if_neg quic, crypto quic]
        simp only [handleOpened, batch.isFec, ↓reduceIte]
        obtain rfl := batch.turn_of_ne typed quic
        rfl

end Handlers

namespace Handled

/-- The packets a loop gets to, the last of them failing or the last of all. -/
def reached (outcome : NetPacket → Outcome Unit) : List NetPacket → List NetPacket
  | [] => []
  | packet :: rest => packet :: if outcome packet = .ok () then reached outcome rest else []

theorem forEach_reached (process : NodeState → NetPacket → Handled)
    (effects : NetPacket → List Effect) (outcome : NetPacket → Outcome Unit)
    (plain : ∀ state packet, process state packet = ⟨state, effects packet, outcome packet⟩)
    (packets : List NetPacket) (state : NodeState) :
    (forEach process state packets).state = state ∧
      (forEach process state packets).effects = (reached outcome packets).flatMap effects := by
  induction packets with
  | nil => exact ⟨rfl, rfl⟩
  | cons packet rest ih =>
      simp only [forEach, plain, reached]
      cases ended : outcome packet with
      | ok value => simpa using ih
      | err message => simp
      | panic => simp

theorem length_reached_le {effects : NetPacket → List Effect} (outcome : NetPacket → Outcome Unit)
    (few : ∀ packet, (effects packet).length ≤ 1) (packets : List NetPacket) :
    ((reached outcome packets).flatMap effects).length ≤ packets.length := by
  induction packets with
  | nil => exact Nat.le_refl 0
  | cons packet rest ih =>
      have here := few packet
      rw [reached, List.flatMap_cons, List.length_append, List.length_cons]
      split
      · omega
      · rw [List.flatMap_nil, List.length_nil]
        omega

/-- A loop that stops at the first failure hands on every packet exactly when each is handed
on by itself and only the last one fails. -/
theorem forall₂_reached (handsOn : NetPacket → Effect → Prop) (effects : NetPacket → List Effect)
    (outcome : NetPacket → Outcome Unit) (few : ∀ packet, (effects packet).length ≤ 1)
    (packets : List NetPacket) :
    List.Forall₂ handsOn packets ((reached outcome packets).flatMap effects) ↔
      (∀ packet ∈ packets, ∃ effect, effects packet = [effect] ∧ handsOn packet effect) ∧
        ∀ packet ∈ packets.dropLast, outcome packet = .ok () := by
  induction packets with
  | nil => simp [reached]
  | cons packet rest ih =>
      rw [reached, List.flatMap_cons]
      constructor
      · intro all
        have here := few packet
        have lengths := all.length_eq
        have later := length_reached_le outcome few rest
        rw [List.length_cons, List.length_append] at lengths
        -- one effect for the head, the others for the rest
        have one : (effects packet).length = 1 := by
          split at lengths
          · omega
          · rw [List.flatMap_nil, List.length_nil] at lengths
            omega
        obtain ⟨effect, only⟩ := List.length_eq_one_iff.mp one
        rw [only, List.singleton_append, List.forall₂_cons] at all
        by_cases fine : outcome packet = .ok ()
        · rw [if_pos fine] at all
          obtain ⟨each, smooth⟩ := ih.mp all.2
          refine ⟨List.forall_mem_cons.mpr ⟨⟨effect, only, all.1⟩, each⟩, fun other member => ?_⟩
          cases rest with
          | nil => cases member
          | cons next rest =>
              rcases List.mem_cons.mp member with rfl | member
              · exact fine
              · exact smooth other member
        · rw [if_neg fine, List.flatMap_nil, List.forall₂_nil_right_iff] at all
          obtain ⟨here, rfl⟩ := all
          exact ⟨List.forall_mem_cons.mpr ⟨⟨effect, only, here⟩, by simp⟩, by simp⟩
      · rintro ⟨each, smooth⟩
        obtain ⟨⟨effect, only, here⟩, each⟩ := List.forall_mem_cons.mp each
        rw [only, List.singleton_append, List.forall₂_cons]
        refine ⟨here, ?_⟩
        cases rest with
        | nil => split <;> exact List.Forall₂.nil
        | cons next rest =>
            rw [if_pos (smooth packet List.mem_cons_self)]
            exact ih.mpr ⟨each, fun other member => smooth other (List.mem_cons_of_mem _ member)⟩

end Handled

def effectsAs (config : NodeConfig) (src : Ipv4Addr) (msgType : MsgType) (packet : NetPacket) :
    List Effect :=
  if msgType = .quic then [.inbound .quic src packet]
  else
    match config.packetCompression.decompress packet with
    | .ok plain => [.inbound msgType src plain]
    | _ => []

def outcomeAs (config : NodeConfig) (clock : Clock) (net : NetworkAddr) (src : Ipv4Addr)
    (msgType : MsgType) (packet : NetPacket) : Outcome Unit :=
  let inbound := fun plain => (config.enhancedInbound.inbound config.sinks clock.now net msgType src
    plain).bind fun _ => .ok ()
  if msgType = .quic then inbound packet
  else (config.packetCompression.decompress packet).bind inbound

theorem processAs_eq (config : NodeConfig) (clock : Clock) (net : NetworkAddr) (src : Ipv4Addr)
    (msgType : MsgType) (state : NodeState) (packet : NetPacket) :
    processAs config clock net src msgType state packet =
      ⟨state, effectsAs config src msgType packet,
        outcomeAs config clock net src msgType packet⟩ := by
  by_cases quic : msgType = .quic
  · subst quic
    rfl
  · simp only [processAs, effectsAs, outcomeAs, if_neg quic, decompressed]
    cases config.packetCompression.decompress packet with
    | ok plain => rfl
    | err message => rfl
    | panic => rfl

theorem effectsAs_few (config : NodeConfig) (src : Ipv4Addr) (msgType : MsgType)
    (packet : NetPacket) : (effectsAs config src msgType packet).length ≤ 1 := by
  unfold effectsAs
  split
  · exact Nat.le_refl 1
  · split
    · exact Nat.le_refl 1
    · exact Nat.zero_le 1

/-- Processing under some type is processing under the packet's own when the types agree and
an IPv4 packet decompresses. -/
theorem handsOn_iff (config : NodeConfig) (src : Ipv4Addr) {own msgType : MsgType}
    {packet : NetPacket} (typed : packet.msgType = .ok own) (known : own = .turn ∨ own = .quic) :
    (∃ effect, effectsAs config src msgType packet = [effect] ∧
        HandsOn config src packet effect) ↔
      own = msgType ∧ (own = .turn →
        ∃ plain, config.packetCompression.decompress packet = .ok plain) := by
  simp only [HandsOn, typed, Outcome.ok.injEq]
  rcases known with rfl | rfl
  · by_cases quic : msgType = .quic
    · simp [effectsAs, quic]
    · cases result : config.packetCompression.decompress packet with
      | ok plain =>
          simp only [effectsAs, if_neg quic, result]
          constructor
          · rintro ⟨effect, only, ⟨wrong, _⟩ | ⟨_, _, _, rfl⟩⟩
            · cases wrong
            · have same := Effect.inbound.inj (List.singleton_inj.mp only)
              exact ⟨same.1.symm, fun _ => ⟨plain, rfl⟩⟩
          · rintro ⟨rfl, _⟩
            exact ⟨_, rfl, Or.inr ⟨trivial, plain, rfl, rfl⟩⟩
      | err message => simp [effectsAs, quic, result]
      | panic => simp [effectsAs, quic, result]
  · by_cases quic : msgType = .quic
    · simp [effectsAs, quic]
    · simp only [effectsAs, if_neg quic]
      constructor
      · rintro ⟨effect, only, ⟨_, rfl⟩ | ⟨wrong, _⟩⟩
        · split at only
          · exact absurd (Effect.inbound.inj (List.singleton_inj.mp only)).1 quic
          · cases only
        · cases wrong
      · rintro ⟨rfl, _⟩
        exact absurd rfl quic

section Entries
variable {batch : Batch} (reception : Reception batch)

def Reception.inner : Arrivals batch where
  order := reception.order.map reception.lowered
  distinct := by
    rw [List.map_map]
    exact reception.distinct
  inside := by
    intro delivery member
    obtain ⟨arrived, held, rfl⟩ := List.mem_map.mp member
    exact reception.inside arrived held
  enough := by
    rw [List.length_map]
    exact reception.enough
  parity := by
    obtain ⟨arrived, held, late⟩ := reception.parity
    exact ⟨_, List.mem_map_of_mem held, late⟩

theorem Reception.inner_first : reception.inner.first = reception.first := by
  rw [Arrivals.first, Arrivals.first, Reception.inner, List.map_map]
  rfl

def Reception.calls (start : Instant) : List (Delivery × Received) :=
  reception.order.zip ((FecDecoder.new start).receiveAll (batch.carried reception.inner.order))

theorem zip_map_self {α β : Type} (list : List α) (image : α → β) :
    list.zip (list.map image) = list.map fun value => (value, image value) := by
  induction list with
  | nil => rfl
  | cons value rest ih => simp only [List.map_cons, List.zip_cons_cons, ih]

theorem Reception.calls_direct (start : Instant)
    (early : ∀ i ∈ reception.first, i < batch.dataShards) :
    reception.calls start =
      reception.order.map fun delivery => (delivery, batch.passed (reception.lowered delivery)) := by
  rw [← reception.inner_first] at early
  rw [calls, Batch.results_direct reception.inner start early, inner, List.map_map, zip_map_self]
  rfl

/-- Calls of a repair: the lost packets come with the trigger. -/
theorem Reception.calls_repaired (start : Instant)
    (parity : ∃ i ∈ reception.first, batch.dataShards ≤ i) :
    ∃ before last after, reception.order = before ++ last :: after ∧
      reception.first = before.map Delivery.index ++ [last.index] ∧
      last.index = reception.trigger ∧
      reception.calls start =
        (before.map fun delivery => (delivery, batch.passed (reception.lowered delivery))) ++
          (last, .ok (FecGroup.joined (batch.direct last.index (reception.ttlInside last))
            (some (batch.repaired reception.first.reverse (reception.ttlInside last))))) ::
          after.map fun delivery => (delivery, .ok none) := by
  have aligned : batch.Aligned reception.first.reverse := by
    rcases reception.repairable with early | aligned
    · obtain ⟨i, member, late⟩ := parity
      exact absurd (early i member) (Nat.not_lt.mpr late)
    · exact aligned
  rw [← reception.inner_first] at parity aligned
  obtain ⟨before', last', after', shape, first, run⟩ :=
    Batch.results_repaired reception.inner start parity aligned
  obtain ⟨before, rest, split_, rfl, tail⟩ := List.map_eq_append_iff.mp shape
  obtain ⟨last, after, rfl, rfl, rfl⟩ := List.map_eq_cons_iff.mp tail
  refine ⟨before, last, after, split_, ?_, ?_, ?_⟩
  · rw [← reception.inner_first, first, List.map_map]
    rfl
  · rw [Reception.trigger, ← reception.inner_first, first, List.getLastD_concat]
    rfl
  · rw [calls, run, split_, List.map_map, List.zip_append (by simp), zip_map_self,
      List.zip_cons_cons, List.map_map, zip_map_self, inner_first]
    rfl

def Reception.rebuilt (delivery : Delivery) (m : Nat) : NetPacket :=
  batch.recovered reception.first.reverse (reception.ttlInside delivery) m

theorem returnedBy_singleton (packet : Option Returned) (result : Option (List Returned)) :
    returnedBy [.ok (FecGroup.joined packet result)] =
      Batch.handedBack result ++ packet.toList := by
  simp [returnedBy, Batch.handedBack_joined]

/-- What a call hands back: nothing, or the packet that came, one of the first, after the
lost packets if this arrival set off the repair. -/
theorem Reception.calls_returned (start : Instant) {delivery : Delivery} {result : Received}
    (called : (delivery, result) ∈ reception.calls start) :
    delivery ∈ reception.order ∧ (returnedBy [result] = [] ∨
      (delivery.index < batch.dataShards → delivery.index ∈ reception.first) ∧
        (returnedBy [result] = (batch.direct delivery.index (reception.ttlInside delivery)).toList ∨
          delivery.index = reception.trigger ∧ returnedBy [result] =
            batch.repaired reception.first.reverse (reception.ttlInside delivery) ++
              (batch.direct delivery.index (reception.ttlInside delivery)).toList)) := by
  have passed : ∀ delivery, returnedBy [batch.passed (reception.lowered delivery)] =
      (batch.direct delivery.index (reception.ttlInside delivery)).toList := fun delivery => by
    rw [Batch.passed, returnedBy_singleton]
    rfl
  by_cases early : ∀ i ∈ reception.first, i < batch.dataShards
  · rw [reception.calls_direct start early] at called
    obtain ⟨arrived, member, same⟩ := List.mem_map.mp called
    cases same
    refine ⟨member, Or.inr ⟨fun inside => ?_, Or.inl (passed _)⟩⟩
    exact Batch.lost_early reception.toArrivals early inside
  · obtain ⟨before, last, after, shape, first, trigger, calls⟩ :=
      reception.calls_repaired start (by simpa using early)
    rw [calls] at called
    rw [shape, first]
    rcases List.mem_append.mp called with arrived | called
    · obtain ⟨arrived, member, same⟩ := List.mem_map.mp arrived
      cases same
      exact ⟨List.mem_append_left _ member, Or.inr
        ⟨fun _ => List.mem_append_left _ (List.mem_map_of_mem member), Or.inl (passed _)⟩⟩
    · rcases List.mem_cons.mp called with same | late
      · cases same
        refine ⟨List.mem_append_right _ List.mem_cons_self, Or.inr
          ⟨fun _ => List.mem_append_right _ (List.mem_singleton.mpr rfl), Or.inr ⟨trigger, ?_⟩⟩⟩
        rw [returnedBy_singleton, ← first]
        rfl
      · obtain ⟨arrived, member, same⟩ := List.mem_map.mp late
        cases same
        exact ⟨List.mem_append_right _ (List.mem_cons_of_mem _ member), Or.inl rfl⟩

theorem Reception.calls_lost (start : Instant) {m : Nat} (inside : m < batch.dataShards)
    (missing : m ∉ reception.first) :
    ∃ delivery result, (delivery, result) ∈ reception.calls start ∧
      delivery.index = reception.trigger ∧
      (∀ other ∈ reception.order, other.index = reception.trigger → other = delivery) ∧
      returnedBy [result] =
        batch.repaired reception.first.reverse (reception.ttlInside delivery) ++
          (batch.direct delivery.index (reception.ttlInside delivery)).toList := by
  have parity : ∃ i ∈ reception.first, batch.dataShards ≤ i := by
    by_contra none_
    refine missing (Batch.lost_early reception.toArrivals (fun i member => ?_) inside)
    by_contra late
    exact none_ ⟨i, member, by omega⟩
  obtain ⟨before, last, after, shape, _, trigger, calls⟩ := reception.calls_repaired start parity
  have known : last ∈ reception.order := by
    rw [shape]
    exact List.mem_append_right _ List.mem_cons_self
  refine ⟨last, _, calls ▸ List.mem_append_right _ List.mem_cons_self, trigger, ?_, ?_⟩
  · intro other member same
    exact List.inj_on_of_nodup_map reception.distinct member known (same.trans trigger.symm)
  · rw [returnedBy_singleton]
    rfl

theorem Reception.calls_first (start : Instant) {m : Nat} (inside : m ∈ reception.first)
    (early : m < batch.dataShards) :
    ∃ delivery result entry, (delivery, result) ∈ reception.calls start ∧
      entry ∈ returnedBy [result] ∧
      entry ∈ (batch.direct m (reception.ttlInside delivery)).toList := by
  have unwrapped : ∀ delivery : Delivery, delivery.index = m → ∃ entry,
      entry ∈ (batch.direct delivery.index (reception.ttlInside delivery)).toList := by
    rintro delivery rfl
    rw [Batch.direct, if_pos early]
    exact ⟨_, List.mem_singleton.mpr rfl⟩
  by_cases direct : ∀ i ∈ reception.first, i < batch.dataShards
  · obtain ⟨delivery, member, index⟩ := List.mem_map.mp (List.mem_of_mem_take inside)
    obtain ⟨entry, back⟩ := unwrapped delivery index
    rw [reception.calls_direct start direct]
    refine ⟨delivery, _, entry, List.mem_map.mpr ⟨delivery, member, rfl⟩, ?_, index ▸ back⟩
    rw [Batch.passed, returnedBy_singleton]
    exact back
  · obtain ⟨before, last, after, shape, first, trigger, calls⟩ :=
      reception.calls_repaired start (by simpa using direct)
    rw [calls]
    rw [first] at inside
    rcases List.mem_append.mp inside with inside | inside
    · obtain ⟨delivery, member, index⟩ := List.mem_map.mp inside
      obtain ⟨entry, back⟩ := unwrapped delivery index
      refine ⟨delivery, _, entry, List.mem_append_left _ (List.mem_map.mpr ⟨delivery, member, rfl⟩),
        ?_, index ▸ back⟩
      rw [Batch.passed, returnedBy_singleton]
      exact back
    · have index : last.index = m := (List.mem_singleton.mp inside).symm
      obtain ⟨entry, back⟩ := unwrapped last index
      refine ⟨last, _, entry, List.mem_append_right _ List.mem_cons_self, ?_, index ▸ back⟩
      rw [returnedBy_singleton]
      exact List.mem_append_right _ back

theorem mem_repaired {seen : List Nat} {ttl : UInt8} {entry : Returned} :
    entry ∈ batch.repaired seen ttl ↔
      ∃ m < batch.dataShards, m ∉ seen ∧ entry = ⟨m, batch.recovered seen ttl m⟩ := by
  rw [Batch.repaired, List.mem_map]
  constructor
  · rintro ⟨m, missing, rfl⟩
    exact ⟨m, (Batch.mem_lost.mp missing).1, (Batch.mem_lost.mp missing).2, rfl⟩
  · rintro ⟨m, inside, absent, rfl⟩
    exact ⟨m, Batch.mem_lost.mpr ⟨inside, absent⟩, rfl⟩

theorem Reception.calls_typed (start : Instant) {call : Delivery × Received}
    (called : call ∈ reception.calls start) :
    ∀ entry ∈ returnedBy [call.2], entry.packet.msgType = batch.typeOf entry.index := by
  have direct : ∀ entry ∈ (batch.direct call.1.index (reception.ttlInside call.1)).toList,
      entry.packet.msgType = batch.typeOf entry.index := by
    intro entry unwrapped
    obtain ⟨_, rfl⟩ := Batch.direct_eq unwrapped
    rfl
  intro entry back
  rcases (reception.calls_returned start called).2 with nothing | ⟨_, passed | ⟨_, repaired⟩⟩
  · rw [nothing] at back
    cases back
  · rw [passed] at back
    exact direct entry back
  · rw [repaired] at back
    rcases List.mem_append.mp back with rebuilt | unwrapped
    · obtain ⟨m, early, _, rfl⟩ := mem_repaired.mp rebuilt
      rw [Batch.typeOf, Batch.header, if_pos early]
      rfl
    · exact direct entry unwrapped

/-- All members of an ascending list but its last are those below another one. -/
theorem mem_dropLast_iff {list : List Nat} (ascending : list.Pairwise (· < ·)) {m : Nat} :
    m ∈ list.dropLast ↔ m ∈ list ∧ ∃ later ∈ list, m < later := by
  induction list with
  | nil => simp
  | cons first rest ih =>
      obtain ⟨below, ascending⟩ := List.pairwise_cons.mp ascending
      cases rest with
      | nil =>
          rw [List.dropLast_singleton]
          simp only [List.mem_singleton, exists_eq_left, List.not_mem_nil, false_iff, not_and]
          exact fun same => Nat.not_lt.mpr same.ge
      | cons next rest =>
          rw [List.dropLast_cons_cons, List.mem_cons, ih ascending]
          constructor
          · rintro (rfl | ⟨member, later, inside, less⟩)
            · exact ⟨List.mem_cons_self, next, by simp, below next List.mem_cons_self⟩
            · exact ⟨List.mem_cons_of_mem _ member, later, List.mem_cons_of_mem _ inside, less⟩
          · rintro ⟨member, later, inside, less⟩
            rcases List.mem_cons.mp member with first | above
            · exact Or.inl first
            · rcases List.mem_cons.mp inside with rfl | inside
              · exact absurd (below m above) (Nat.lt_asymm less)
              · exact Or.inr ⟨above, later, inside, less⟩

/-- Of the packets of the repairing call only the last may fail without harm: the one that
came, or the last of the rebuilt ones. -/
theorem Reception.mem_dropLast_repaired (delivery : Delivery) {packet : NetPacket} :
    packet ∈ ((batch.repaired reception.first.reverse (reception.ttlInside delivery) ++
        (batch.direct delivery.index (reception.ttlInside delivery)).toList).map
          Returned.packet).dropLast ↔
      ∃ m < batch.dataShards, m ∉ reception.first ∧ packet = reception.rebuilt delivery m ∧
        (delivery.index < batch.dataShards ∨
          ∃ later < batch.dataShards, later ∉ reception.first ∧ m < later) := by
  have missing : ∀ m, m ∈ batch.lost reception.first.reverse ↔
      m < batch.dataShards ∧ m ∉ reception.first := fun m => by
    rw [Batch.mem_lost, List.mem_reverse]
  have ascending : (batch.lost reception.first.reverse).Pairwise (· < ·) :=
    List.pairwise_lt_range.filter _
  have rebuilt : (batch.repaired reception.first.reverse (reception.ttlInside delivery)).map
      Returned.packet = (batch.lost reception.first.reverse).map (reception.rebuilt delivery) := by
    rw [Batch.repaired, List.map_map]
    rfl
  rw [List.map_append, rebuilt]
  by_cases data : delivery.index < batch.dataShards
  · rw [Batch.direct, if_pos data, Option.toList_some, List.map_singleton, List.dropLast_concat,
      List.mem_map]
    constructor
    · rintro ⟨m, lost, rfl⟩
      obtain ⟨inside, absent⟩ := (missing m).mp lost
      exact ⟨m, inside, absent, rfl, Or.inl data⟩
    · rintro ⟨m, inside, absent, rfl, _⟩
      exact ⟨m, (missing m).mpr ⟨inside, absent⟩, rfl⟩
  · rw [Batch.direct, if_neg data, Option.toList_none, List.map_nil, List.append_nil,
      ← List.map_dropLast, List.mem_map]
    constructor
    · rintro ⟨m, lost, rfl⟩
      obtain ⟨lost, later, after, less⟩ := (mem_dropLast_iff ascending).mp lost
      obtain ⟨inside, absent⟩ := (missing m).mp lost
      exact ⟨m, inside, absent, rfl, Or.inr ⟨later, ((missing later).mp after).1,
        ((missing later).mp after).2, less⟩⟩
    · rintro ⟨m, inside, absent, rfl, here | ⟨later, below, gone, less⟩⟩
      · exact absurd here data
      · exact ⟨m, (mem_dropLast_iff ascending).mpr ⟨(missing m).mpr ⟨inside, absent⟩, later,
          (missing later).mpr ⟨below, gone⟩, less⟩, rfl⟩

end Entries

section Dispatch
variable {batch : Mixed} (endpoint : Endpoint batch.toBatch) (reception : Reception batch.toBatch)

def Mixed.typed (batch : Mixed) (i : Nat) : MsgType :=
  if batch.typeOf i = .ok .quic then .quic else .turn

theorem Mixed.typeOf_typed (batch : Mixed) (i : Nat) : batch.typeOf i = .ok (batch.typed i) := by
  rcases @Mixed.typeOf_or batch i with turn | quic
  · have other : batch.typeOf i ≠ .ok .quic := by
      rw [turn]
      decide
    rw [turn, Mixed.typed, if_neg other]
  · rw [quic, Mixed.typed, if_pos quic]

theorem Mixed.typed_known (batch : Mixed) (i : Nat) :
    batch.typed i = .turn ∨ batch.typed i = .quic := by
  unfold Mixed.typed
  split
  · exact Or.inr rfl
  · exact Or.inl rfl

def callEffects (call : Delivery × Received) : List Effect :=
  let opened := reception.opened endpoint.net call.1
  (Handled.reached (outcomeAs endpoint.config opened.clock opened.net batch.source
      (batch.typed call.1.index)) ((returnedBy [call.2]).map Returned.packet)).flatMap
    (effectsAs endpoint.config batch.source (batch.typed call.1.index))

/-- The conditions under which the handlers keep up with the decoder: the lost packets have
the type of the packet that sets off the repair, every IPv4 packet decompresses as it comes
back, and of the packets of the repair none but the last is refused. -/
structure Endpoint.Absorbs : Prop where
  alike : ∀ m < batch.dataShards, m ∉ reception.first →
    batch.typed m = batch.typed reception.trigger
  expands : ∀ m < batch.dataShards, m ∈ reception.first → batch.typed m = .turn →
    ∃ plain, endpoint.config.packetCompression.decompress (batch.packet m) = .ok plain
  rebuilds : ∀ delivery ∈ reception.order, delivery.index = reception.trigger →
    ∀ m < batch.dataShards, m ∉ reception.first → batch.typed m = .turn →
      ∃ plain, endpoint.config.packetCompression.decompress (reception.rebuilt delivery m) =
        .ok plain
  accepts : ∀ delivery ∈ reception.order, delivery.index = reception.trigger →
    ∀ m < batch.dataShards, m ∉ reception.first → (reception.trigger < batch.dataShards ∨
        ∃ later < batch.dataShards, later ∉ reception.first ∧ m < later) →
      outcomeAs endpoint.config (reception.clock delivery) (reception.netOf endpoint.net delivery)
        batch.source (batch.typed m) (reception.rebuilt delivery m) = .ok ()

theorem handleFec_reached (config : NodeConfig) (clock : Clock) (net : NetworkAddr)
    (src : Ipv4Addr) (msgType : MsgType) (state : NodeState) (packet : NetPacket) :
    let handled := handleFec clock (processAs config clock net src msgType) state packet
    handled.state = { state with decoder := (state.decoder.receive clock.now packet).1 } ∧
      handled.effects = (Handled.reached (outcomeAs config clock net src msgType)
        ((returnedBy [(state.decoder.receive clock.now packet).2]).map Returned.packet)).flatMap
          (effectsAs config src msgType) := by
  simp only [handleFec, decodeFec]
  cases (state.decoder.receive clock.now packet).2 with
  | err message => exact ⟨rfl, rfl⟩
  | panic => exact ⟨rfl, rfl⟩
  | ok packets =>
      have loop := Handled.forEach_reached _ _ _ (processAs_eq config clock net src msgType)
        ((packets.getD []).map Returned.packet)
        { state with decoder := (state.decoder.receive clock.now packet).1 }
      simpa [returnedBy, Batch.handedBack, Outcome.bind, Handled.attempt] using loop

theorem run_calls (order : List Delivery) (known : ∀ delivery ∈ order, delivery ∈ reception.order)
    (decoder : FecDecoder) (table : RouteTable) :
    (Machine.run endpoint.config.stepEach ⟨decoder, table⟩
        (order.map (reception.incoming endpoint.config.packetCrypto))).2 =
      (order.zip (openedResults (reception.opened endpoint.net) decoder order)).map
        (callEffects endpoint reception) := by
  induction order generalizing decoder with
  | nil => rfl
  | cons delivery rest ih =>
      have taken := receive_batch endpoint reception (known delivery List.mem_cons_self) _
        (batch.typeOf_typed delivery.index) ⟨decoder, table⟩
      obtain ⟨state, effects⟩ := handleFec_reached endpoint.config (reception.clock delivery)
        (reception.netOf endpoint.net delivery) batch.source (batch.typed delivery.index)
        ⟨decoder, table⟩ (reception.opened endpoint.net delivery).packet
      have one : endpoint.config.step ⟨decoder, table⟩
          (reception.incoming endpoint.config.packetCrypto delivery) =
            (⟨(decoder.receive (reception.clock delivery).now
                (reception.opened endpoint.net delivery).packet).1, table⟩,
              callEffects endpoint reception (delivery, (decoder.receive
                (reception.clock delivery).now (reception.opened endpoint.net delivery).packet).2)) := by
        rw [NodeConfig.step]
        refine Prod.ext ((congrArg Handled.state taken).trans state) ?_
        exact (congrArg Handled.effects taken).trans effects
      have later := ih (fun other member => known other (List.mem_cons_of_mem _ member))
        (decoder.receive (reception.clock delivery).now
          (reception.opened endpoint.net delivery).packet).1
      rw [List.map_cons, Machine.run_cons, NodeConfig.stepEach, one, later]
      rfl

theorem openedResults_calls (net : NetworkAddr) (start : Instant) :
    openedResults (reception.opened net) (FecDecoder.new start) reception.order =
      (FecDecoder.new start).receiveAll (batch.carried reception.inner.order) := by
  rw [openedResults, Batch.carried, Reception.inner, List.map_map]
  rfl

theorem receiveAll_length (decoder : FecDecoder) (arrivals : List (Instant × NetPacket)) :
    (decoder.receiveAll arrivals).length = arrivals.length := by
  induction arrivals generalizing decoder with
  | nil => rfl
  | cons arrival rest ih => rw [FecDecoder.receiveAll, List.length_cons, ih, List.length_cons]

theorem dispatches_calls (start : Instant) (table : RouteTable) :
    endpoint.Dispatches reception ⟨FecDecoder.new start, table⟩ ↔
      ∀ call ∈ reception.calls start, List.Forall₂ (HandsOn endpoint.config batch.source)
        ((returnedBy [call.2]).map Returned.packet) (callEffects endpoint reception call) := by
  have results : (reception.calls start).map Prod.snd =
      openedResults (reception.opened endpoint.net) (FecDecoder.new start) reception.order := by
    rw [Reception.calls, openedResults_calls, List.map_snd_zip]
    rw [receiveAll_length, Batch.carried, List.length_map, Reception.inner, List.length_map]
  have calls : reception.order.zip (openedResults (reception.opened endpoint.net)
      (FecDecoder.new start) reception.order) = reception.calls start := by
    rw [openedResults_calls, Reception.calls]
  simp only [Endpoint.Dispatches]
  rw [run_calls endpoint reception _ (fun _ member => member), calls, ← results,
    List.forall₂_map_left_iff, List.forall₂_map_right_iff, List.forall₂_same]

theorem call_iff {call : Delivery × Received}
    (typed : ∀ entry ∈ returnedBy [call.2], entry.packet.msgType = batch.typeOf entry.index) :
    List.Forall₂ (HandsOn endpoint.config batch.source)
        ((returnedBy [call.2]).map Returned.packet) (callEffects endpoint reception call) ↔
      (∀ entry ∈ returnedBy [call.2], batch.typed entry.index = batch.typed call.1.index ∧
        (batch.typed entry.index = .turn →
          ∃ plain, endpoint.config.packetCompression.decompress entry.packet = .ok plain)) ∧
        ∀ packet ∈ ((returnedBy [call.2]).map Returned.packet).dropLast,
          outcomeAs endpoint.config (reception.clock call.1) (reception.netOf endpoint.net call.1)
            batch.source (batch.typed call.1.index) packet = .ok () := by
  rw [callEffects, Handled.forall₂_reached _ _ _ (effectsAs_few _ _ _), List.forall_mem_map]
  refine and_congr (forall₂_congr fun entry member => ?_) Iff.rfl
  exact handsOn_iff _ _ ((typed entry member).trans (batch.typeOf_typed _)) (batch.typed_known _)

/-- Whether a packet decompresses is a matter of its flag and its payload. -/
theorem decompresses_congr (compression : PacketCompression) {left right : NetPacket}
    (flag : left.isCompressed = right.isCompressed) (payload : left.payload = right.payload) :
    (∃ plain, compression.decompress left = .ok plain) ↔
      ∃ plain, compression.decompress right = .ok plain := by
  unfold PacketCompression.decompress
  rw [flag, payload]
  cases compression.compression with
  | none => simp
  | some lz4 =>
      cases right.isCompressed with
      | false => simp
      | true =>
          simp only [↓reduceIte]
          cases lz4.codec.decompress right.payload with
          | none => simp
          | some expanded => simp

theorem direct_decompresses (compression : PacketCompression) {i : Nat} {ttl : UInt8}
    {entry : Returned} (unwrapped : entry ∈ (batch.direct i ttl).toList) :
    (∃ plain, compression.decompress entry.packet = .ok plain) ↔
      ∃ plain, compression.decompress (batch.packet i) = .ok plain := by
  have kept : ∀ flags : UInt8, ((flags ||| fec) &&& ~~~fec) &&& compressed = flags &&& compressed := by
    decide +kernel
  obtain ⟨early, rfl⟩ := Batch.direct_eq unwrapped
  refine decompresses_congr compression ?_ rfl
  simp only [NetPacket.isCompressed, NetHeader.setFlag, Batch.header, if_pos early, ↓reduceIte,
    Bool.false_eq_true, kept]

def plainEndpoint (batch : Batch) : Endpoint batch where
  config := .plain { sampleNetwork with ip := batch.dest }
  net := { sampleNetwork with ip := batch.dest }
  network := rfl
  own := rfl

theorem outcomeAs_plain (net networkAddr : NetworkAddr) (clock : Clock) (src : Ipv4Addr)
    (msgType : MsgType) (packet : NetPacket) (nonempty : packet.payload ≠ []) :
    outcomeAs (.plain net) clock networkAddr src msgType packet = .ok () := by
  have delivered := congrArg Handled.outcome (deliver_plain net networkAddr clock msgType src
    ⟨FecDecoder.new clock.now, RouteTable.new⟩ packet nonempty)
  unfold outcomeAs
  split <;> exact delivered

/-- On a node that takes everything only the types matter. -/
theorem plain_absorbs (carries : ∀ packet ∈ batch.packets, packet.payload ≠ [])
    (alike : ∀ m < batch.dataShards, m ∉ reception.first →
      batch.typed m = batch.typed reception.trigger) :
    (plainEndpoint batch.toBatch).Absorbs reception where
  alike := alike
  expands _ _ _ _ := ⟨_, rfl⟩
  rebuilds _ _ _ _ _ _ _ := ⟨_, rfl⟩
  accepts _ _ _ m inside _ _ :=
    outcomeAs_plain _ _ _ _ _ _ (carries (batch.packet m) (Batch.packet_mem inside))

/-- The handlers hand on every packet that `receive` returns, each under its own type,
exactly when the conditions hold. -/
theorem dispatches_iff (batch : Mixed) (reception : Reception batch.toBatch)
    (endpoint : Endpoint batch.toBatch) (start : Instant) (table : RouteTable) :
    endpoint.Dispatches reception ⟨FecDecoder.new start, table⟩ ↔ endpoint.Absorbs reception := by
  rw [dispatches_calls]
  constructor
  · intro calls
    have each := fun call called => (call_iff endpoint reception
      (reception.calls_typed start called)).mp (calls call called)
    -- what the call of the trigger hands back for a lost packet
    have lost : ∀ delivery ∈ reception.order, delivery.index = reception.trigger →
        ∀ m < batch.dataShards, m ∉ reception.first → ∃ result,
          (delivery, result) ∈ reception.calls start ∧
          ⟨m, reception.rebuilt delivery m⟩ ∈ returnedBy [result] ∧
          returnedBy [result] =
            batch.repaired reception.first.reverse (reception.ttlInside delivery) ++
              (batch.direct delivery.index (reception.ttlInside delivery)).toList := by
      intro delivery known here m inside missing
      obtain ⟨last, result, called, trigger, only, back⟩ :=
        reception.calls_lost start inside missing
      obtain rfl := only delivery known here
      refine ⟨result, called, ?_, back⟩
      rw [back]
      exact List.mem_append_left _ (mem_repaired.mpr
        ⟨m, inside, fun member => missing (List.mem_reverse.mp member), rfl⟩)
    have alike : ∀ m < batch.dataShards, m ∉ reception.first →
        batch.typed m = batch.typed reception.trigger := by
      intro m inside missing
      obtain ⟨last, _, called, trigger, _, _⟩ := reception.calls_lost start inside missing
      obtain ⟨result, called, back, _⟩ := lost last (reception.calls_returned start called).1
        trigger m inside missing
      rw [← trigger]
      exact ((each _ called).1 _ back).1
    refine ⟨alike, ?_, ?_, ?_⟩
    · intro m inside member turn
      obtain ⟨delivery, result, entry, called, back, unwrapped⟩ :=
        reception.calls_first start member inside
      obtain ⟨_, rfl⟩ := Batch.direct_eq unwrapped
      exact (direct_decompresses _ unwrapped).mp (((each _ called).1 _ back).2 turn)
    · intro delivery known here m inside missing turn
      obtain ⟨result, called, back, _⟩ := lost delivery known here m inside missing
      exact ((each _ called).1 _ back).2 turn
    · intro delivery known here m inside missing early
      obtain ⟨result, called, _, back⟩ := lost delivery known here m inside missing
      have smooth := (each _ called).2 (reception.rebuilt delivery m)
      rw [back, reception.mem_dropLast_repaired] at smooth
      have fine := smooth ⟨m, inside, missing, rfl, here ▸ early⟩
      rwa [here, ← alike m inside missing] at fine
  · intro absorbs call called
    obtain ⟨known, returned⟩ := reception.calls_returned start called
    rw [call_iff endpoint reception (reception.calls_typed start called)]
    rcases returned with nothing | ⟨first, returned⟩
    · rw [nothing]
      exact ⟨fun _ member => absurd member List.not_mem_nil,
        fun _ member => absurd member List.not_mem_nil⟩
    have direct : ∀ entry ∈ (batch.direct call.1.index (reception.ttlInside call.1)).toList,
        batch.typed entry.index = batch.typed call.1.index ∧ (batch.typed entry.index = .turn →
          ∃ plain, endpoint.config.packetCompression.decompress entry.packet = .ok plain) := by
      intro entry unwrapped
      rw [direct_decompresses endpoint.config.packetCompression unwrapped]
      obtain ⟨early, rfl⟩ := Batch.direct_eq unwrapped
      exact ⟨rfl, absorbs.expands _ early (first early)⟩
    rcases returned with passed | ⟨trigger, repaired⟩
    · rw [passed]
      refine ⟨direct, fun packet member => ?_⟩
      unfold Batch.direct at member
      split at member <;> cases member
    · rw [repaired]
      refine ⟨fun entry member => ?_, fun packet member => ?_⟩
      · rcases List.mem_append.mp member with rebuilt | unwrapped
        · obtain ⟨m, inside, absent, rfl⟩ := mem_repaired.mp rebuilt
          have missing : m ∉ reception.first := fun early => absent (List.mem_reverse.mpr early)
          refine ⟨?_, absorbs.rebuilds _ known trigger m inside missing⟩
          rw [trigger]
          exact absorbs.alike m inside missing
        · exact direct entry unwrapped
      · obtain ⟨m, inside, missing, rfl, early⟩ := (reception.mem_dropLast_repaired _).mp member
        have fine := absorbs.accepts _ known trigger m inside missing (trigger ▸ early)
        rwa [trigger, ← absorbs.alike m inside missing]

def quicPair : Mixed where
  source := 0x0A1A0002
  dest := 0x0A1A0003
  groupId := 0
  packets := [⟨⟨0x91, 0x55, 0, 0, 0, 0x0A1A0002, 0x0A1A0003⟩, [7]⟩,
    ⟨⟨0x91, 0x55, 0, 0, 0, 0x0A1A0002, 0x0A1A0003⟩, [8]⟩]
  nonempty := by decide
  bounded := by decide
  fromSource := by decide
  toDest := by decide
  sizes := by decide
  types := by decide
  plain := by decide
  distinct := by decide

/-- The second datagram is lost; the first arrives, then the parity. -/
def quicThenParity : Reception quicPair.toBatch where
  order := [⟨0, 0x55, 0⟩, ⟨0, 0x55, 2⟩]
  distinct := by decide
  inside := by decide
  enough := by decide
  parity := ⟨⟨0, 0x55, 2⟩, by simp, by decide⟩
  repairable := by decide +kernel
  entrance _ := .p2p ⟨0, .v4 0x01020304, 29872⟩
  ms _ := 0
  taken := by
    intro delivery member
    rcases List.mem_cons.mp member with rfl | member
    · decide
    · rw [List.mem_singleton.mp member]
      decide

/-- The recovered datagram goes to the TUN as a Turn packet. -/
theorem recovered_datagram_misrouted :
    ¬ (plainEndpoint quicPair.toBatch).Dispatches quicThenParity
      ⟨FecDecoder.new 0, RouteTable.new⟩ := by
  rw [dispatches_calls]
  intro calls
  obtain ⟨delivery, result, called, trigger, _, back⟩ :=
    quicThenParity.calls_lost 0 (m := 1) (by decide) (by decide)
  have each := (call_iff _ _ (quicThenParity.calls_typed 0 called)).mp (calls _ called)
  have rebuilt : ⟨1, quicThenParity.rebuilt delivery 1⟩ ∈ returnedBy [result] := by
    rw [back]
    exact List.mem_append_left _ (mem_repaired.mpr ⟨1, by decide, by decide, rfl⟩)
  have alike : quicPair.typed 1 = quicPair.typed 2 := by
    have same := (each.1 _ rebuilt).1
    rwa [trigger] at same
  exact absurd alike (by decide)

end Dispatch
end VntClient
