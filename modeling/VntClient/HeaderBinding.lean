import VntClient.NonceReuse
import VntClient.Noninterference

/-!
What sealing binds of a header. The nonce holds type, source, destination and the low
bytes of the sequence number; the compressed and the FEC flag are read behind the
decryption, but nothing binds them.
-/

namespace VntClient

/-- Two packets that agree on everything the handlers read. -/
structure Twin (left right : NetPacket) : Prop where
  typeByte : left.header.typeByte = right.header.typeByte
  ttlByte : left.header.ttlByte = right.header.ttlByte
  src : left.srcId = right.srcId
  dest : left.destId = right.destId
  compressedBit : left.header.flagsByte &&& compressed = right.header.flagsByte &&& compressed
  fecBit : left.header.flagsByte &&& fec = right.header.flagsByte &&& fec
  payload : left.payload = right.payload

/-- What counts of an effect: type, source and payload of a packet handed on. -/
def Effect.processed : Effect → Effect
  | .inbound msgType src packet => .inbound msgType src ⟨NetHeader.zeroed, packet.payload⟩
  | effect => effect

/-- Two calls that do the same, up to what the decoder keeps. -/
structure Handled.Alike (left right : Handled) : Prop where
  effects : left.effects.map Effect.processed = right.effects.map Effect.processed
  table : left.state.routeTable = right.state.routeTable
  outcome : left.outcome = right.outcome

def Handled.Dropped (handled : Handled) (state : NodeState) : Prop :=
  handled.state = state ∧ handled.effects = []

namespace Outcome
variable {α β : Type} {related : α → β → Prop}

/-- The same kind of result, with related values. -/
inductive Related (related : α → β → Prop) : Outcome α → Outcome β → Prop where
  | ok {left : α} {right : β} (values : related left right) : Related related (.ok left) (.ok right)
  | err (message : String) : Related related (.err message) (.err message)
  | panic : Related related .panic .panic

theorem Related.refl {related : α → α → Prop} (each : ∀ value, related value value)
    (outcome : Outcome α) : outcome.Related related outcome := by
  cases outcome with
  | ok value => exact .ok (each value)
  | err message => exact .err message
  | panic => exact .panic

theorem Related.bind {one two : Outcome α} {next after : α → Outcome β}
    {related : α → α → Prop} {holds : β → β → Prop} (values : one.Related related two)
    (later : ∀ left right, related left right → (next left).Related holds (after right)) :
    (one.bind next).Related holds (two.bind after) := by
  cases values with
  | ok values => exact later _ _ values
  | err message => exact .err message
  | panic => exact .panic

end Outcome

theorem Twin.refl (packet : NetPacket) : Twin packet packet := ⟨rfl, rfl, rfl, rfl, rfl, rfl, rfl⟩

section Stages
variable {config : NodeConfig} {clock : Clock} {left right : NetPacket}

theorem Twin.ttl (twin : Twin left right) : left.ttl = right.ttl := by
  rw [NetPacket.ttl, NetPacket.ttl, NetHeader.currTtl, NetHeader.currTtl, twin.ttlByte]

theorem Twin.maxTtl (twin : Twin left right) : left.maxTtl = right.maxTtl := by
  rw [NetPacket.maxTtl, NetPacket.maxTtl, NetHeader.maxTtl, NetHeader.maxTtl, twin.ttlByte]

theorem decrTtl_ttlByte {header other : NetHeader} (same : header.ttlByte = other.ttlByte) :
    header.decrTtl.ttlByte = other.decrTtl.ttlByte := by
  have current : header.currTtl = other.currTtl := by
    rw [NetHeader.currTtl, NetHeader.currTtl, same]
  unfold NetHeader.decrTtl
  by_cases spent : other.currTtl = 0
  · rw [current, if_pos spent, if_pos spent, same]
  · rw [current, if_neg spent, if_neg spent, same]

theorem Twin.decrTtl (twin : Twin left right) : Twin left.decrTtl right.decrTtl := by
  have lowered := decrTtl_ttlByte twin.ttlByte
  obtain ⟨typeByte, _, src, dest, compressedBit, fecBit, payload⟩ := twin
  rw [left.decrTtl_eq, right.decrTtl_eq]
  exact ⟨typeByte, lowered, src, dest, compressedBit, fecBit, payload⟩

theorem Twin.isFec (twin : Twin left right) : left.isFec = right.isFec := by
  rw [NetPacket.isFec, NetPacket.isFec, twin.fecBit]

theorem Twin.isCompressed (twin : Twin left right) : left.isCompressed = right.isCompressed := by
  rw [NetPacket.isCompressed, NetPacket.isCompressed, twin.compressedBit]

/-- Clearing a flag leaves the other bits to agree. -/
theorem Twin.clearFlag (twin : Twin left right) (mask : UInt8) (data : Bytes) :
    Twin ⟨left.header.setFlag mask false, data⟩ ⟨right.header.setFlag mask false, data⟩ := by
  have cleared : ∀ one other bit : UInt8, one &&& bit = other &&& bit →
      (one &&& ~~~mask) &&& bit = (other &&& ~~~mask) &&& bit := by
    intro one other bit same
    rw [UInt8.and_assoc, UInt8.and_comm (~~~mask), ← UInt8.and_assoc, same, UInt8.and_assoc,
      UInt8.and_comm bit, ← UInt8.and_assoc]
  obtain ⟨typeByte, ttlByte, src, dest, compressedBit, fecBit, _⟩ := twin
  exact ⟨typeByte, ttlByte, src, dest, cleared _ _ _ compressedBit, cleared _ _ _ fecBit, rfl⟩

theorem Twin.decompress (twin : Twin left right) (compression : PacketCompression) :
    Outcome.Related Twin (compression.decompress left) (compression.decompress right) := by
  unfold PacketCompression.decompress
  cases compression.compression with
  | none => exact .ok twin
  | some lz4 =>
      simp only [twin.isCompressed, twin.payload]
      by_cases flagged : right.isCompressed = true
      · rw [if_pos flagged, if_pos flagged]
        cases lz4.codec.decompress right.payload with
        | none => exact .err _
        | some data => exact .ok (twin.clearFlag compressed data)
      · rw [if_neg flagged, if_neg flagged]
        exact .ok twin

/-- A rebuilt packet takes nothing but source, destination and TTL from the packet that
completed its group. -/
theorem Twin.rebuildNetPacket (twin : Twin left right) (recovered : Bytes) :
    FecGroup.rebuildNetPacket left recovered = FecGroup.rebuildNetPacket right recovered := by
  unfold FecGroup.rebuildNetPacket
  simp only [twin.src, twin.dest, twin.ttl]

theorem Twin.rebuildAll (twin : Twin left right) (delivered : List Bool) (i : Nat)
    (shards : List (Option Bytes)) :
    FecGroup.rebuildAll left delivered i shards = FecGroup.rebuildAll right delivered i shards := by
  induction shards generalizing i with
  | nil => rfl
  | cons shard rest ih =>
      cases shard with
      | none => exact ih (i + 1)
      | some shard => rw [FecGroup.rebuildAll, FecGroup.rebuildAll, ih, twin.rebuildNetPacket]

theorem Twin.tryDecode (twin : Twin left right) (group : FecGroup) (groupId : UInt64) :
    group.tryDecode groupId left = group.tryDecode groupId right := by
  simp only [FecGroup.tryDecode, FecGroup.decodeWithRs, twin.src, twin.rebuildAll]

/-- On a fresh decoder twins give twins: a data shard is handed back under the header it
came with, and what is rebuilt from a parity shard comes from the shard. -/
theorem Twin.receive (twin : Twin left right) (start now : Instant) (shard : FecPacket) :
    ((FecGroup.default start).receive now left shard).result.Related
      (fun one other => List.Forall₂ Twin ((one.getD []).map Returned.packet)
        ((other.getD []).map Returned.packet))
      ((FecGroup.default start).receive now right shard).result := by
  cases parity : shard.parityData with
  | none =>
      rw [FecGroup.receive_default start now left shard parity,
        FecGroup.receive_default start now right shard parity]
      exact .ok (.cons (twin.clearFlag fec shard.payload) .nil)
  | some parityData =>
      have same : (FecGroup.default start).receive now left shard =
          (FecGroup.default start).receive now right shard := by
        simp only [FecGroup.receive, FecGroup.store, FecGroup.settle, parity, twin.src,
          twin.tryDecode]
      rw [same]
      apply Outcome.Related.refl
      intro packets
      exact List.forall₂_same.mpr fun packet _ => Twin.refl packet

theorem Twin.decodeFec (twin : Twin left right) (start : Instant) (table : RouteTable) :
    Outcome.Related (List.Forall₂ Twin)
      (VntClient.decodeFec clock ⟨FecDecoder.new start, table⟩ left).2
      (VntClient.decodeFec clock ⟨FecDecoder.new start, table⟩ right).2 := by
  simp only [VntClient.decodeFec]
  have fresh : ∀ key, (FecDecoder.new start).groupOf clock.now key =
      FecGroup.default clock.now := fun _ => rfl
  unfold FecDecoder.receive
  rw [twin.payload, twin.src]
  cases FecPacket.decode right.payload with
  | none => exact .err _
  | some shard =>
      by_cases large : maxNum < shard.packetIndex.toNat
      · simp only [if_pos large]
        exact .err _
      · simp only [if_neg large, fresh]
        exact (twin.receive clock.now clock.now shard).bind fun _ _ twins => .ok twins

end Stages

section Handlers
variable {config : NodeConfig} {clock : Clock} {left right : NetPacket}
  {state other : NodeState}

/-- Processing that looks at nothing a twin changes. -/
def Agree (process : NodeState → NetPacket → Handled) : Prop :=
  ∀ ⦃state other left right⦄, state.routeTable = other.routeTable → Twin left right →
    (process state left).Alike (process other right)

theorem alike_attempt {α : Type} {related : α → α → Prop} {one two : Outcome α}
    {next : α → Handled} {after : α → Handled} (tables : state.routeTable = other.routeTable)
    (values : one.Related related two)
    (later : ∀ left right, related left right → (next left).Alike (after right)) :
    (Handled.attempt state one next).Alike (Handled.attempt other two after) := by
  cases values with
  | ok values => exact later _ _ values
  | err message => exact ⟨rfl, tables, rfl⟩
  | panic => exact ⟨rfl, tables, rfl⟩

theorem alike_forEach {process : NodeState → NetPacket → Handled} (agree : Agree process)
    {packets others : List NetPacket} (twins : List.Forall₂ Twin packets others)
    (tables : state.routeTable = other.routeTable) :
    (Handled.forEach process state packets).Alike (Handled.forEach process other others) := by
  induction twins generalizing state other with
  | nil => exact ⟨rfl, tables, rfl⟩
  | cons twin _ ih =>
      obtain ⟨effects, kept, outcome⟩ := agree tables twin
      simp only [Handled.forEach, outcome]
      split
      · obtain ⟨later, kept, outcome⟩ := ih kept
        refine ⟨?_, kept, outcome⟩
        rw [List.map_append, List.map_append, effects, later]
      · exact ⟨effects, kept, outcome⟩

theorem Agree.decompressed {process : NodeState → NetPacket → Handled} (agree : Agree process) :
    Agree (decompressed config process) := by
  intro state other left right tables twin
  exact alike_attempt tables (twin.decompress _) fun _ _ twin => agree tables twin

theorem P2pInboundHandler.alike_reply {routeKey : RouteKey} {ctx : PacketContext}
    {msgType : MsgType} {payload : Bytes} (tables : state.routeTable = other.routeTable) :
    (reply config clock routeKey ctx msgType state payload).Alike
      (reply config clock routeKey ctx msgType other payload) := by
  apply alike_attempt tables (Outcome.Related.refl (fun _ => Eq.refl _) _)
  rintro packet _ rfl
  exact ⟨rfl, tables, rfl⟩

theorem P2pInboundHandler.agree_process (net : NetworkAddr) (routeKey : RouteKey)
    (ctx : PacketContext) :
    Agree (processDecompressedPacket config clock net routeKey ctx) := by
  intro state other left right tables twin
  obtain ⟨leftHeader, payload⟩ := left
  obtain ⟨rightHeader, _⟩ := right
  obtain rfl : payload = _ := twin.payload
  obtain ⟨decoder, table⟩ := state
  obtain ⟨otherDecoder, _⟩ := other
  obtain rfl : table = _ := tables
  cases kind : ctx.msgType with
  | turn | broadcast | excludeBroadcast =>
      simp only [processDecompressedPacket, kind]
      exact ⟨rfl, rfl, rfl⟩
  | ping =>
      simp only [processDecompressedPacket, kind]
      exact alike_reply rfl
  | punchReq =>
      simp only [processDecompressedPacket, kind]
      split
      · exact ⟨rfl, rfl, rfl⟩
      · exact alike_reply rfl
  | _ =>
      simp only [processDecompressedPacket, kind]
      repeat' split
      all_goals exact ⟨rfl, rfl, rfl⟩

theorem ServerTurnInboundHandler.agree_process (net : NetworkAddr) (msgType : MsgType)
    (src dest : Ipv4Addr) :
    Agree (processDecompressedPacket config clock net msgType src dest) := by
  intro state other left right tables twin
  obtain ⟨leftHeader, payload⟩ := left
  obtain ⟨rightHeader, _⟩ := right
  obtain rfl : payload = _ := twin.payload
  cases msgType with
  | turn | broadcast => exact ⟨rfl, tables, rfl⟩
  | _ =>
      simp only [processDecompressedPacket]
      repeat' split
      all_goals exact ⟨rfl, tables, rfl⟩

theorem decodeFec_table (state other : NodeState) (same : state.routeTable = other.routeTable) :
    (decodeFec clock state left).1.routeTable = (decodeFec clock other right).1.routeTable := same

/-- The way from decryption on, with a fresh decoder. -/
theorem Agree.handleOpened {process : NodeState → NetPacket → Handled} (agree : Agree process)
    (twin : Twin left right) (start : Instant) (table : RouteTable) :
    (VntClient.handleOpened config clock process ⟨FecDecoder.new start, table⟩ left).Alike
      (VntClient.handleOpened config clock process ⟨FecDecoder.new start, table⟩ right) := by
  unfold VntClient.handleOpened
  rw [twin.isFec]
  split
  · rw [handleFec, handleFec]
    apply alike_attempt (decodeFec_table _ _ rfl) (twin.decodeFec start table)
    intro packets others twins
    exact alike_forEach agree.decompressed twins (decodeFec_table _ _ rfl)
  · exact agree.decompressed rfl twin

end Handlers

/-- Dropped, or treated as the other packet is. -/
def Handled.Bound (handled : Handled) (state : NodeState) (other : Handled) : Prop :=
  handled.Dropped state ∨ handled.Alike other

theorem Handled.Bound.effects {handled other : Handled} {state : NodeState}
    (bound : handled.Bound state other) : handled.effects = [] ∨
      handled.effects.map Effect.processed = other.effects.map Effect.processed := by
  rcases bound with dropped | alike
  · exact Or.inl dropped.2
  · exact Or.inr alike.effects

/-- A header put over a sealed packet that keeps what the code reads besides the nonce, and
is not one of QUIC. -/
structure NetHeader.Retouched (header sealedHeader : NetHeader) : Prop where
  ttlByte : header.ttlByte = sealedHeader.ttlByte
  compressedBit : header.flagsByte &&& compressed = sealedHeader.flagsByte &&& compressed
  fecBit : header.flagsByte &&& fec = sealedHeader.flagsByte &&& fec
  encrypted : MsgType.tryFrom header.msgType ≠ .ok .quic

section Binding
variable {config : NodeConfig} {clock : Clock} {aead : Aead} {packet : NetPacket}
  {header : NetHeader}

def NodeConfig.retouch (config : NodeConfig) (packet : NetPacket) (header : NetHeader) :
    NetPacket := ⟨header, (config.packetCrypto.encryptInPlace packet).payload⟩

theorem retouch_opens (keyed : config.packetCrypto.crypto = some aead)
    (same : (config.retouch packet header).makeNonce = packet.makeNonce) :
    config.packetCrypto.decryptInPlace (config.retouch packet header) =
      .ok ⟨header, packet.payload⟩ := by
  rw [PacketCrypto.decryptInPlace, keyed]
  simp only [same]
  rw [NodeConfig.retouch, PacketCrypto.encryptInPlace, keyed]
  simp only [aead.opens]

theorem retouch_closed (keyed : config.packetCrypto.crypto = some aead)
    (different : (config.retouch packet header).makeNonce ≠ packet.makeNonce) :
    config.packetCrypto.decryptInPlace (config.retouch packet header) = .err "decrypt failed" := by
  rw [PacketCrypto.decryptInPlace, keyed]
  have shut : aead.openInPlace (config.retouch packet header).makeNonce
      (config.retouch packet header).payload = none := by
    rw [NodeConfig.retouch, PacketCrypto.encryptInPlace, keyed]
    exact aead.binds _ _ _ different
  simp only [shut]

/-- The same nonce leaves no field of the header but what the handlers do not read. -/
theorem retouch_twin (retouched : header.Retouched packet.header)
    (same : (config.retouch packet header).makeNonce = packet.makeNonce) (data : Bytes) :
    Twin ⟨header, data⟩ ⟨packet.header, data⟩ := by
  obtain ⟨typeByte, src, dest⟩ := SameFlow.of_makeNonce same
  exact ⟨typeByte, retouched.ttlByte, src, dest, retouched.compressedBit, retouched.fecBit, rfl⟩

theorem sealed_eq (config : NodeConfig) (packet : NetPacket) :
    config.packetCrypto.encryptInPlace packet = config.retouch packet packet.header := by
  rw [NodeConfig.retouch, ← config.packetCrypto.encryptInPlace_header packet]

theorem Twin.takes {left right : NetPacket} (twin : Twin left right) (entrance : Entrance) :
    entrance.takes config left.header = entrance.takes config right.header := by
  have src : left.header.srcId = right.header.srcId := twin.src
  have dest : left.header.destId = right.header.destId := twin.dest
  have curr : left.header.decrTtl.currTtl = right.header.decrTtl.currTtl := twin.decrTtl.ttl
  have max : left.header.decrTtl.maxTtl = right.header.decrTtl.maxTtl := twin.decrTtl.maxTtl
  cases entrance with
  | p2p routeKey => simp only [Entrance.takes, src, dest, curr, max]
  | server networkAddr =>
      cases networkAddr with
      | none => rfl
      | some net => simp only [Entrance.takes, dest]

theorem Twin.msgType {left right : NetPacket} (twin : Twin left right) :
    left.msgType = right.msgType := by
  rw [NetPacket.msgType, NetPacket.msgType, NetHeader.msgType, NetHeader.msgType, twin.typeByte]

theorem opened_decrTtl {wire opened : NetPacket}
    (opens : config.packetCrypto.decryptInPlace wire = .ok opened) :
    config.packetCrypto.decryptInPlace wire.decrTtl = .ok opened.decrTtl := by
  rw [PacketCrypto.decrypt_decrTtl, opens]
  rfl

/-- A packet in the clear handed on as relay, unopened, along the route to its destination. -/
def Handled.Relayed (handled : Handled) (state : NodeState) (packet : NetPacket) : Prop :=
  handled.state = state ∧ ∃ next, state.routeTable.getRouteById packet.destId = some next ∧
    handled.effects = [.forward next.routeKey packet.decrTtl]

theorem P2pInboundHandler.retouch_bound (keyed : config.packetCrypto.crypto = some aead)
    (clock : Clock) (routeKey : RouteKey) (start : Instant) (table : RouteTable)
    (retouched : header.Retouched packet.header) :
    let fresh : NodeState := ⟨FecDecoder.new start, table⟩
    let altered := nextHandle config clock routeKey fresh (config.retouch packet header).buffer
    altered.Relayed fresh (config.retouch packet header) ∨
      altered.Bound fresh (nextHandle config clock routeKey fresh
        (config.packetCrypto.encryptInPlace packet).buffer) := by
  intro fresh altered
  cases typed : (config.retouch packet header).msgType with
  | err message =>
      right; left
      simp only [altered, nextHandle, triage, NetPacket.new_buffer, Outcome.ok_bind, typed,
        Outcome.err_bind]
      exact ⟨rfl, rfl⟩
  | panic =>
      right; left
      simp only [altered, nextHandle, triage, NetPacket.new_buffer, Outcome.ok_bind, typed,
        Outcome.panic_bind]
      exact ⟨rfl, rfl⟩
  | ok msgType =>
      cases taken : (Entrance.p2p routeKey).takes config header with
      | false =>
          obtain ⟨kept, nothing | relayed⟩ := nextHandle_refused clock routeKey fresh typed taken
          · exact Or.inr (Or.inl ⟨kept, nothing⟩)
          · exact Or.inl ⟨kept, relayed⟩
      | true =>
          obtain ⟨net, network, handled⟩ := nextHandle_takes clock routeKey fresh typed taken
          have encrypted : msgType ≠ .quic := by
            rintro rfl
            exact retouched.encrypted typed
          by_cases same : (config.retouch packet header).makeNonce = packet.makeNonce
          · right; right
            have twin := retouch_twin retouched same
            have wires : Twin (config.retouch packet header)
              (config.retouch packet packet.header) := twin _
            have opens := opened_decrTtl (retouch_opens keyed same)
            have opened := opened_decrTtl (config.packetCrypto.decrypt_encrypt packet)
            rw [sealed_eq] at opened ⊢
            obtain ⟨other, network', sealed⟩ := nextHandle_takes clock routeKey fresh
              (wires.msgType.symm.trans typed) ((wires.takes _).symm.trans taken)
            obtain rfl : net = other := Option.some.inj (network.symm.trans network')
            simp only [altered]
            -- the type, the addresses and the TTL of both are those of the nonce
            rw [handled, sealed, wires.src, wires.dest, wires.decrTtl.maxTtl, wires.decrTtl.ttl]
            rw [handleLocal, handleLocal, if_neg encrypted, if_neg encrypted, opens, opened]
            exact (agree_process net routeKey _).handleOpened
              (twin packet.payload).decrTtl start table
          · right; left
            simp only [altered, handled, handleLocal, if_neg encrypted,
              PacketCrypto.decrypt_decrTtl, retouch_closed keyed same]
            exact ⟨rfl, rfl⟩

theorem ServerTurnInboundHandler.retouch_bound (keyed : config.packetCrypto.crypto = some aead)
    (clock : Clock) (net : NetworkAddr) (start : Instant) (table : RouteTable)
    (retouched : header.Retouched packet.header) :
    let fresh : NodeState := ⟨FecDecoder.new start, table⟩
    let altered := handleClientData config clock net fresh (config.retouch packet header).buffer
    altered.Bound fresh (handleClientData config clock net fresh
      (config.packetCrypto.encryptInPlace packet).buffer) := by
  intro fresh altered
  have taken : ∀ {wire : NetPacket} {msgType : MsgType}, wire.msgType = .ok msgType →
      msgType ≠ .quic → ∀ opened, config.packetCrypto.decryptInPlace wire = .ok opened →
        handleClientData config clock net fresh wire.buffer =
          handleOpened config clock (processDecompressedPacket config clock net msgType wire.srcId
            wire.destId) fresh opened := by
    intro wire msgType typed encrypted opened opens
    simp only [handleClientData, NetPacket.new_buffer, Handled.attempt, typed, if_neg encrypted,
      opens]
  cases typed : (config.retouch packet header).msgType with
  | err message =>
      left
      simp only [altered, handleClientData, NetPacket.new_buffer, Handled.attempt, typed]
      exact ⟨rfl, rfl⟩
  | panic =>
      left
      simp only [altered, handleClientData, NetPacket.new_buffer, Handled.attempt, typed]
      exact ⟨rfl, rfl⟩
  | ok msgType =>
      have encrypted : msgType ≠ .quic := by
        rintro rfl
        exact retouched.encrypted typed
      by_cases same : (config.retouch packet header).makeNonce = packet.makeNonce
      -- With the nonce as it was, both packets are read alike.
      · right
        have twin := retouch_twin retouched same
        have wires : Twin (config.retouch packet header)
          (config.retouch packet packet.header) := twin _
        have opened := config.packetCrypto.decrypt_encrypt packet
        rw [sealed_eq] at opened ⊢
        have typed' := wires.msgType.symm.trans typed
        have here := taken typed encrypted _ (retouch_opens keyed same)
        have there := taken typed' encrypted _ opened
        simp only [altered]
        rw [here, there, wires.src, wires.dest]
        exact (agree_process net msgType _ _).handleOpened (twin packet.payload) start table
      · left
        simp only [altered, handleClientData, NetPacket.new_buffer, Handled.attempt, typed,
          if_neg encrypted, retouch_closed keyed same]
        exact ⟨rfl, rfl⟩

end Binding

/-- Under a header that keeps the flags read behind decryption and is not one of QUIC, a
sealed packet does nothing, passes as that of another node, or does what it does under its
own header. -/
theorem NodeConfig.sealing_binds_header (config : NodeConfig) (aead : Aead)
    (keyed : config.packetCrypto.crypto = some aead) (packet : NetPacket) (header : NetHeader)
    (retouched : header.Retouched packet.header) (clock : Clock) (start : Instant)
    (table : RouteTable) :
    let fresh : NodeState := ⟨FecDecoder.new start, table⟩
    let altered := config.retouch packet header
    let original := config.packetCrypto.encryptInPlace packet
    (∀ routeKey,
      let handled := P2pInboundHandler.nextHandle config clock routeKey fresh altered.buffer
      handled.Relayed fresh altered ∨
        handled.Bound fresh
          (P2pInboundHandler.nextHandle config clock routeKey fresh original.buffer)) ∧
    ∀ net,
      (ServerTurnInboundHandler.handleClientData config clock net fresh altered.buffer).Bound fresh
        (ServerTurnInboundHandler.handleClientData config clock net fresh original.buffer) :=
  ⟨fun routeKey => P2pInboundHandler.retouch_bound keyed clock routeKey start table retouched,
    fun net => ServerTurnInboundHandler.retouch_bound keyed clock net start table retouched⟩

/-- A Turn packet of 10.26.0.2 without any flag, and what may come over it. -/
def bareHeader : NetHeader := ⟨0x81, 0x55, 0, 0, 0, 0x0A1A0002, 0x0A1A0003⟩

def barePacket : NetPacket := ⟨bareHeader, [0x45, 7]⟩

/-- The high byte of the sequence number is not in the nonce. -/
theorem NodeConfig.renumbered_packet_bound :
    (ServerTurnInboundHandler.handleClientData keyedNode ⟨0, 0⟩ sampleNetwork
      ⟨FecDecoder.new 0, RouteTable.new⟩
      (keyedNode.retouch barePacket { bareHeader with seq := 0x01000000 }).buffer).Bound
        ⟨FecDecoder.new 0, RouteTable.new⟩
        (ServerTurnInboundHandler.handleClientData keyedNode ⟨0, 0⟩ sampleNetwork
          ⟨FecDecoder.new 0, RouteTable.new⟩
          (keyedNode.packetCrypto.encryptInPlace barePacket).buffer) :=
  (NodeConfig.sealing_binds_header keyedNode transparentAead rfl barePacket
    { bareHeader with seq := 0x01000000 } ⟨rfl, rfl, rfl, by decide⟩ ⟨0, 0⟩ 0 RouteTable.new).2
    sampleNetwork

/-- A codec that stores its data behind a marker. -/
def storingNode : NodeConfig :=
  { keyedNode with packetCompression := ⟨some ⟨0, ⟨fun data => 0 :: data, List.tail?⟩⟩⟩ }

/-- A node that knows a way to 10.26.0.9. -/
def tableWithPeer : RouteTable :=
  RouteTable.new.addRoute 0 0x0A1A0009 ⟨⟨0, ⟨.v4 0xC0000202, 1000⟩⟩, 1, 0⟩

/-- Clearing the FEC flag, setting the compressed flag, the type of QUIC and another
destination all get through, to other data than the sealed packet's or to another node. -/
theorem sealed_header_altered :
    let server := fun (config : NodeConfig) (wire : NetPacket) =>
      ServerTurnInboundHandler.handleClientData config ⟨0, 0⟩ sampleNetwork
        ⟨FecDecoder.new 0, RouteTable.new⟩ wire.buffer
    let p2p := fun (wire : NetPacket) =>
      P2pInboundHandler.nextHandle keyedNode ⟨0, 0⟩ ⟨0, ⟨.v4 0xC0000201, 1000⟩⟩
        ⟨FecDecoder.new 0, tableWithPeer⟩ wire.buffer
    let shard := shardPacket 0x81 [0x45, 7]
    ¬ (server keyedNode (keyedNode.retouch shard { shard.header with flagsByte := 0 })).Bound
        ⟨FecDecoder.new 0, RouteTable.new⟩
        (server keyedNode (keyedNode.packetCrypto.encryptInPlace shard)) ∧
      ¬ (server storingNode
        (storingNode.retouch barePacket { bareHeader with flagsByte := compressed })).Bound
          ⟨FecDecoder.new 0, RouteTable.new⟩
          (server storingNode (storingNode.packetCrypto.encryptInPlace barePacket)) ∧
      ¬ (server keyedNode (keyedNode.retouch barePacket { bareHeader with typeByte := 0x91 })).Bound
        ⟨FecDecoder.new 0, RouteTable.new⟩
        (server keyedNode (keyedNode.packetCrypto.encryptInPlace barePacket)) ∧
      ¬ (p2p (keyedNode.retouch barePacket { bareHeader with destId := 0x0A1A0009 })).Bound
        ⟨FecDecoder.new 0, tableWithPeer⟩
        (p2p (keyedNode.packetCrypto.encryptInPlace barePacket)) := by
  refine ⟨?_, ?_, ?_, ?_⟩
  · exact fun bound => absurd bound.effects (by decide +kernel)
  · exact fun bound => absurd bound.effects (by decide +kernel)
  · exact fun bound => absurd bound.effects (by decide +kernel)
  · exact fun bound => absurd bound.effects (by decide +kernel)

end VntClient
