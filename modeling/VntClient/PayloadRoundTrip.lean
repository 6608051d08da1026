import VntClient.Acceptance
import VntClient.Transmission

/-!
An IPv4 packet from the TUN of one node to the `EnhancedInbound` of another: the head room
becomes the header, the payload is compressed, put under FEC and sealed, relays lower the
TTL, and the P2P or the server handler undoes it all.
-/

namespace VntClient

theorem headLength_fits : headLength ≤ defaultBufSize := by decide

/-- `BytesCodec::decode` of what the TUN device gave. -/
def BytesCodec.decode (buf : Bytes) : Outcome (Option TransmissionBytes) :=
  if buf = [] then .ok none
  else do
    let bytes ← (TransmissionBytes.newOffset headLength headLength_fits).put buf
    pure (some bytes)

namespace HybridOutbound
variable (outbound : HybridOutbound)

def encodedBuffer (fecEncoder : Option FecEncoder) (now : Instant) (packet : PacketBuffer) :
    Outcome (Option FecEncoder × PacketBuffer) :=
  match fecEncoder with
  | none => .ok (none, packet)
  | some encoder => do
      let result ← encoder.encodeBuffer now packet
      pure (some result.1, result.2)

def ipv4OutboundBuffer (fecEncoder : Option FecEncoder) (now : Instant) (net : NetworkAddr)
    (data : TransmissionBytes) : Outcome (Option FecEncoder × Option Bytes) :=
  match Ipv4Packet.new data.asSlice with
  | none => .ok (fecEncoder, none)
  | some ipv4 => do
      let dest := ipv4.getDestination
      let data ← data.retreatHead headLength
      let packet ← PacketBuffer.new data
      let packet := packet.setMsgType .turn
      let packet := packet.setSrcId net.ip
      let packet := packet.setTtl 5
      let target :=
        if net.network.contains dest then some dest else route outbound.externalRoute dest
      match target with
      | none => pure (fecEncoder, none)
      | some dest => do
          let packet := packet.setDestId dest
          let packet := outbound.node.packetCompression.compressBuffer packet
            outbound.node.packetCrypto.encryptReserve
          let (fecEncoder, packet) ← encodedBuffer fecEncoder now packet
          let packet := outbound.node.packetCrypto.encryptBuffer packet
          pure (fecEncoder, some packet.buffer.intoBytes)

def target (net : NetworkAddr) (frame : Bytes) : Option Ipv4Addr :=
  match Ipv4Packet.new frame with
  | none => none
  | some ipv4 =>
      if net.network.contains ipv4.getDestination then some ipv4.getDestination
      else route outbound.externalRoute ipv4.getDestination

end HybridOutbound

/-- The relays on the way, each of which writes a TTL byte. -/
def relayed (hops : List UInt8) (wire : Bytes) : Bytes :=
  hops.foldl (fun wire ttl => wire.set 1 ttl) wire

namespace NodeConfig
variable (config : NodeConfig)

def handedBuffer (packet : PacketBuffer) : Outcome TransmissionBytes := do
  let packet ← config.packetCompression.decompressBuffer packet
  packet.buffer.advanceHead headLength

def received (decoder : FecDecoder) (now : Instant) (data : Bytes) :
    Outcome (List TransmissionBytes) := do
  let packet ← PacketBuffer.new (TransmissionBytes.ofBytes data)
  let packet ← config.packetCrypto.decryptBuffer packet
  if packet.view.isFec then
    let packets ← (decoder.receive now packet.view).2
    (packets.getD []).mapM fun returned =>
      config.handedBuffer (PacketBuffer.build returned.packet.header returned.packet.payload 0)
  else
    let buffer ← config.handedBuffer packet
    pure [buffer]

end NodeConfig

/-- What a handler hands to `EnhancedInbound`: the type and source it names, the ids in
the header, and the data behind it. -/
structure HandedOn where
  msgType : MsgType
  src : Ipv4Addr
  srcId : Ipv4Addr
  destId : Ipv4Addr
  data : Bytes
deriving DecidableEq

def Effect.handedOn : Effect → Option HandedOn
  | .inbound msgType src packet =>
      some ⟨msgType, src, packet.srcId, packet.destId, packet.payload⟩
  | _ => none

/-- The codec gives back what it compressed. -/
def PacketCompression.Lossless (compression : PacketCompression) : Prop :=
  ∀ lz4, compression.compression = some lz4 →
    ∀ data, lz4.codec.decompress (lz4.codec.compress data) = some data

/-- No packet of the group the encoder writes to has reached the decoder. -/
def FreshGroup (fecEncoder : Option FecEncoder) (now : Instant) (src dest : Ipv4Addr)
    (decoder : FecDecoder) : Prop :=
  ∀ encoder, fecEncoder = some encoder →
    decoder.groups.lookup (src, (encoder.stateOf now src dest).groupId) = none

section Frame
variable {frame : Bytes} {data : TransmissionBytes}

theorem put_newOffset {start : Nat} {fits : start ≤ defaultBufSize} {bytes : TransmissionBytes}
    (written : (TransmissionBytes.newOffset start fits).put frame = .ok bytes) :
    bytes.start = start ∧ bytes.buf.take bytes.stop = List.replicate start 0 ++ frame ∧
      frame.length + start ≤ defaultBufSize := by
  rw [TransmissionBytes.put] at written
  split at written
  · rename_i room
    cases written
    simp only [TransmissionBytes.newOffset, List.length_replicate, List.take_replicate,
      Nat.min_eq_left fits] at room ⊢
    refine ⟨trivial, ?_, by omega⟩
    rw [List.take_left']
    rw [List.length_append, List.length_replicate]
  · cases written

theorem head_zeroed (payload : Bytes) :
    (⟨NetHeader.zeroed, payload⟩ : NetPacket).head = List.replicate headLength 0 := by
  change NetPacket.head ⟨NetHeader.zeroed, []⟩ = _
  decide

theorem decode_window (taken : BytesCodec.decode frame = .ok (some data)) :
    data.asSlice = frame ∧ frame.length ≤ 2032 ∧ ∃ moved, data.retreatHead headLength = .ok moved ∧
      moved.asSlice = (⟨NetHeader.zeroed, frame⟩ : NetPacket).buffer := by
  rw [BytesCodec.decode] at taken
  split at taken
  · cases taken
  · cases written : (TransmissionBytes.newOffset headLength headLength_fits).put frame with
    | err message =>
        rw [written] at taken
        cases taken
    | panic =>
        rw [written] at taken
        cases taken
    | ok bytes =>
        rw [written] at taken
        cases taken
        obtain ⟨start, before, fits⟩ := put_newOffset written
        refine ⟨?_, ?_, ?_⟩
        · rw [TransmissionBytes.asSlice, before, start, List.drop_left' List.length_replicate]
        · rw [headLength, defaultBufSize] at fits
          omega
        · rw [TransmissionBytes.retreatHead, if_pos (Nat.le_of_eq start.symm)]
          refine ⟨_, rfl, ?_⟩
          simp only [TransmissionBytes.asSlice, before, start, Nat.sub_self, List.drop_zero,
            NetPacket.buffer, head_zeroed]

theorem decode_ok (nonempty : frame ≠ []) (short : frame.length ≤ 2032) :
    ∃ data, BytesCodec.decode frame = .ok (some data) := by
  have room : (TransmissionBytes.newOffset headLength headLength_fits).stop + frame.length ≤
      (TransmissionBytes.newOffset headLength headLength_fits).buf.length := by
    simp only [TransmissionBytes.newOffset, List.length_replicate, headLength, defaultBufSize]
    omega
  rw [BytesCodec.decode, if_neg nonempty, TransmissionBytes.put, dif_pos room]
  exact ⟨_, rfl⟩

end Frame

namespace HybridOutbound
variable (outbound : HybridOutbound)

theorem encodedBuffer_ok (fecEncoder : Option FecEncoder) (now : Instant) (packet : PacketBuffer)
    (fits : packet.view.payload.length ≤ 65535) :
    ∃ wrapped, encodedBuffer fecEncoder now packet =
        .ok ((encoded fecEncoder now packet.view).1, wrapped) ∧
      (encoded fecEncoder now packet.view).2 = some wrapped.view := by
  cases fecEncoder with
  | none => exact ⟨packet, rfl, rfl⟩
  | some encoder =>
      have view := encoder.encodeBuffer_view now packet
      rw [encoder.encode_ok now packet.view fits] at view
      obtain ⟨result, encode, same⟩ := Outcome.exists_of_bind_ok view
      refine ⟨result.2, ?_, ?_⟩
      · rw [encodedBuffer, encode, encoded, encoder.encode_ok now packet.view fits, ← same]
        rfl
      · rw [encoded, encoder.encode_ok now packet.view fits, ← same]

theorem ipv4OutboundBuffer_eq (fecEncoder : Option FecEncoder) (now : Instant) (net : NetworkAddr)
    {frame : Bytes} {data : TransmissionBytes} (taken : BytesCodec.decode frame = .ok (some data))
    {dest : Ipv4Addr} (routed : outbound.target net frame = some dest) :
    ∃ packet, (encoded fecEncoder now (outbound.node.packetCompression.compress
        (dataPacket .turn net.ip dest frame))).2 = some packet ∧
      outbound.ipv4Outbound fecEncoder now net frame =
        ((encoded fecEncoder now (outbound.node.packetCompression.compress
          (dataPacket .turn net.ip dest frame))).1, [outbound.sealPacket packet]) ∧
      outbound.ipv4OutboundBuffer fecEncoder now net data =
        .ok ((encoded fecEncoder now (outbound.node.packetCompression.compress
          (dataPacket .turn net.ip dest frame))).1, some (outbound.sealPacket packet).buffer) := by
  obtain ⟨window, short, moved, retreated, head⟩ := decode_window taken
  have whole : headLength ≤ moved.len := by
    rw [← TransmissionBytes.asSlice_length, head, NetPacket.buffer, List.length_append,
      NetPacket.head_length]
    exact Nat.le_add_right _ _
  -- the packet in the buffer before it is compressed
  let packet : PacketBuffer :=
    ((((⟨moved, whole⟩ : PacketBuffer).setMsgType .turn).setSrcId net.ip).setTtl 5).setDestId dest
  have opened : PacketBuffer.new moved = .ok ⟨moved, whole⟩ := by
    rw [PacketBuffer.new, dif_pos whole]
  have view : packet.view = dataPacket .turn net.ip dest frame := by
    have first : (⟨moved, whole⟩ : PacketBuffer).view = ⟨NetHeader.zeroed, frame⟩ :=
      PacketBuffer.view_eq _ head
    simp only [packet, PacketBuffer.setDestId, PacketBuffer.setTtl, PacketBuffer.setSrcId,
      PacketBuffer.setMsgType, PacketBuffer.view_headerMut, first]
    rfl
  have compressed := outbound.node.packetCompression.view_compressBuffer packet
    outbound.node.packetCrypto.encryptReserve
  rw [view] at compressed
  have size := compress_length outbound.node.packetCompression (dataPacket .turn net.ip dest frame)
  obtain ⟨wrapped, buffers, packets⟩ := encodedBuffer_ok fecEncoder now
    (outbound.node.packetCompression.compressBuffer packet
      outbound.node.packetCrypto.encryptReserve)
    (by
      rw [compressed]
      exact Nat.le_trans size (Nat.le_trans short (by decide)))
  rw [compressed] at buffers packets
  have out : (outbound.node.packetCrypto.encryptBuffer wrapped).buffer.intoBytes =
      (outbound.sealPacket wrapped.view).buffer := by
    rw [TransmissionBytes.intoBytes_eq, ← PacketBuffer.view_buffer, PacketCrypto.view_encryptBuffer]
    rfl
  refine ⟨wrapped.view, packets, ?_, ?_⟩
  · cases parsed : Ipv4Packet.new frame with
    | none =>
        rw [target, parsed] at routed
        cases routed
    | some ipv4 =>
        rw [target, parsed] at routed
        simp only at routed
        simp only [ipv4Outbound, parsed, routed, packets]
        rfl
  · cases parsed : Ipv4Packet.new frame with
    | none =>
        rw [target, parsed] at routed
        cases routed
    | some ipv4 =>
        rw [target, parsed] at routed
        simp only at routed
        simp only [ipv4OutboundBuffer, window, parsed, retreated, Outcome.ok_bind, opened, routed]
        rw [buffers, Outcome.ok_bind, out]
        rfl

end HybridOutbound

namespace FecEncoder

/-- No batch is as large as it may get. -/
def Waiting (encoder : FecEncoder) : Prop :=
  ∀ dest state, encoder.batchStates.lookup dest = some state → state.currentBatch.length < batchSize

theorem Waiting.stateOf {encoder : FecEncoder} (waiting : encoder.Waiting) (now : Instant)
    (src dest : Ipv4Addr) : (encoder.stateOf now src dest).currentBatch.length < batchSize := by
  rw [FecEncoder.stateOf]
  cases held : encoder.batchStates.lookup dest with
  | none => exact (by decide : 0 < batchSize)
  | some state => exact waiting dest state held

theorem push_waiting (state : DestBatchState) (channel : List BatchItem) (now : Instant)
    (src dest : Ipv4Addr) (buffer : Bytes) :
    (push state channel now src dest buffer).1.currentBatch.length < batchSize := by
  rw [push]
  split
  · exact (by decide : 0 < batchSize)
  · rename_i short
    exact Nat.not_le.mp short

theorem Waiting.step {encoder : FecEncoder} (waiting : encoder.Waiting) (event : EncoderEvent) :
    (encoder.step event).1.Waiting := by
  cases event with
  | encode now packet =>
      rw [FecEncoder.step]
      by_cases fits : packet.payload.length ≤ 65535
      · rw [encoder.encode_ok now packet fits]
        intro dest state held
        by_cases here : dest = packet.destId
        · rw [here, AList.lookup_insert] at held
          cases held
          exact push_waiting _ _ _ _ _ _
        · rw [AList.lookup_insert_ne here] at held
          exact waiting dest state held
      · rw [encode, if_pos (Nat.not_le.mp fits)]
        exact waiting
  | tick now =>
      intro dest state held
      rw [FecEncoder.step, tick, Table.lookup_mapValues] at held
      obtain ⟨old, before, rfl⟩ := Option.map_eq_some_iff.mp held
      split
      · exact (by decide : 0 < batchSize)
      · exact waiting dest old before
  | recv =>
      rw [FecEncoder.step, recv]
      cases encoder.channel with
      | nil => exact waiting
      | cons item rest => exact waiting

def Reachable (encoder : FecEncoder) : Prop :=
  ∃ events, encoder = (Machine.run FecEncoder.step FecEncoder.new events).1

theorem Reachable.waiting {encoder : FecEncoder} (reachable : encoder.Reachable) :
    encoder.Waiting := by
  obtain ⟨events, rfl⟩ := reachable
  refine Machine.run_invariant FecEncoder.step (fun encoder _ => encoder.Waiting) events ?_
    FecEncoder.new [] ?_
  · intro encoder _ event _ waiting
    exact waiting.step event
  · intro dest state held
    cases held

end FecEncoder

theorem relayed_buffer (hops : List UInt8) (packet : NetPacket) :
    relayed hops packet.buffer =
      (⟨{ packet.header with ttlByte := hops.getLastD packet.header.ttlByte },
        packet.payload⟩ : NetPacket).buffer := by
  induction hops generalizing packet with
  | nil => rfl
  | cons ttl rest ih =>
      have hop : packet.buffer.set 1 ttl =
          (⟨{ packet.header with ttlByte := ttl }, packet.payload⟩ : NetPacket).buffer := rfl
      rw [relayed, List.foldl_cons, hop]
      exact (ih _).trans (by rw [List.getLastD_cons])

theorem decompress_flagged {compression : PacketCompression} {lz4 : Lz4Compression}
    (codec : compression.compression = some lz4) {header : NetHeader}
    (flagged : header.flagsByte = compressed) {payload data : Bytes}
    (back : lz4.codec.decompress payload = some data) :
    compression.decompress ⟨header, payload⟩ =
      .ok ((⟨header, data⟩ : NetPacket).setCompressedFlag false) := by
  have flag : (⟨header, payload⟩ : NetPacket).isCompressed = true := by
    rw [NetPacket.isCompressed, flagged]
    rfl
  rw [PacketCompression.decompress, codec]
  simp only [flag, ↓reduceIte, back]

/-- Decompression gives the payload back under every header that has the flags of the
compressed packet. -/
theorem decompress_compress {compression : PacketCompression} (lossless : compression.Lossless)
    (packet : NetPacket) (empty : packet.header.flagsByte = 0) (header : NetHeader)
    (flags : header.flagsByte = (compression.compress packet).header.flagsByte) :
    ∃ opened, compression.decompress ⟨header, (compression.compress packet).payload⟩ = .ok opened ∧
      opened.payload = packet.payload ∧ opened.srcId = header.srcId ∧
      opened.destId = header.destId := by
  rcases compress_cases compression packet with same | ⟨lz4, codec, _, smaller⟩
  · -- a packet that was left as it is has no flag
    rw [same] at flags ⊢
    have clear : (⟨header, packet.payload⟩ : NetPacket).isCompressed = false := by
      rw [NetPacket.isCompressed, flags.trans empty]
      rfl
    exact ⟨_, compression.decompress_plain clear, rfl, rfl, rfl⟩
  · rw [smaller] at flags ⊢
    have flagged : header.flagsByte = compressed := by
      rw [flags, NetPacket.setCompressedFlag, NetHeader.setFlag, if_pos rfl, empty]
      rfl
    exact ⟨_, decompress_flagged codec flagged (lossless lz4 codec packet.payload), rfl, rfl, rfl⟩

theorem handedOn_deliver (config : NodeConfig) (clock : Clock) (net : NetworkAddr)
    (msgType : MsgType) (src : Ipv4Addr) (state : NodeState) (packet : NetPacket) :
    (deliver config clock net msgType src state packet).effects.filterMap Effect.handedOn =
      [⟨msgType, src, packet.srcId, packet.destId, packet.payload⟩] := rfl

theorem forEach_singleton (process : NodeState → NetPacket → Handled) (state : NodeState)
    (packet : NetPacket) :
    (Handled.forEach process state [packet]).effects = (process state packet).effects := by
  simp only [Handled.forEach]
  split
  · exact List.append_nil _
  · rfl

def dataHeader (flags : UInt8) (src dest : Ipv4Addr) : NetHeader :=
  ⟨0x81, 0x55, flags, 0, 0, src, dest⟩

theorem dataPacket_header (src dest : Ipv4Addr) (data : Bytes) :
    (HybridOutbound.dataPacket .turn src dest data).header = dataHeader 0 src dest := rfl

theorem compress_header (compression : PacketCompression) (src dest : Ipv4Addr) (data : Bytes) :
    ∃ flags, (flags = 0 ∨ flags = compressed) ∧
      (compression.compress (HybridOutbound.dataPacket .turn src dest data)).header =
        dataHeader flags src dest := by
  rcases compress_cases compression (HybridOutbound.dataPacket .turn src dest data) with
    same | ⟨lz4, _, _, smaller⟩
  · rw [same]
    exact ⟨0, Or.inl rfl, rfl⟩
  · rw [smaller]
    refine ⟨compressed, Or.inr rfl, ?_⟩
    have flag : (0 : UInt8) ||| compressed = compressed := by decide
    simp only [NetPacket.setCompressedFlag, dataPacket_header, NetHeader.setFlag, ↓reduceIte,
      dataHeader, flag]

theorem fec_flags {flags : UInt8} (plain : flags = 0 ∨ flags = compressed) :
    (flags &&& fec != 0) = false ∧ ((flags ||| fec) &&& fec != 0) = true ∧
      (flags ||| fec) &&& ~~~fec = flags := by
  rcases plain with rfl | rfl
  · decide
  · decide

theorem gateway_flags {flags : UInt8} (plain : flags = 0 ∨ flags = compressed) :
    (flags &&& gateway != 0) = false ∧ ((flags ||| fec) &&& gateway != 0) = false := by
  rcases plain with rfl | rfl
  · decide
  · decide

section Arrival
variable {fecEncoder : Option FecEncoder} {now : Instant} {net : NetworkAddr} {dest : Ipv4Addr}
  {frame : Bytes} {packet : NetPacket}

/-- The FEC flag is the only trace the encoder leaves in a header. -/
theorem encoded_header (compression : PacketCompression)
    (sent : (HybridOutbound.encoded fecEncoder now
      (compression.compress (HybridOutbound.dataPacket .turn net.ip dest frame))).2 = some packet) :
    ∃ flags, (flags = 0 ∨ flags = compressed) ∧
      (compression.compress (HybridOutbound.dataPacket .turn net.ip dest frame)).header =
        dataHeader flags net.ip dest ∧
      packet.header =
        dataHeader (if fecEncoder.isSome then flags ||| fec else flags) net.ip dest := by
  obtain ⟨flags, plain, header⟩ := compress_header compression net.ip dest frame
  refine ⟨flags, plain, header, ?_⟩
  cases fecEncoder with
  | none =>
      cases sent
      exact header
  | some encoder =>
      by_cases fits : (compression.compress
          (HybridOutbound.dataPacket .turn net.ip dest frame)).payload.length ≤ 65535
      · rw [HybridOutbound.encoded, encoder.encode_ok now _ fits] at sent
        cases sent
        rw [header]
        rfl
      · rw [HybridOutbound.encoded, FecEncoder.encode, if_pos (Nat.not_le.mp fits)] at sent
        cases sent

/-- A wrapped packet of a fresh group comes out of the decoder as it went into the encoder. -/
theorem receive_wrapped {encoder : FecEncoder} (waiting : encoder.Waiting) (now time : Instant)
    (src dest : Ipv4Addr) (header : NetHeader) (source : header.srcId = src) {payload : Bytes}
    (fits : payload.length ≤ 65535) {decoder : FecDecoder}
    (fresh : decoder.groups.lookup (src, (encoder.stateOf now src dest).groupId) = none) :
    (decoder.receive time ⟨header, FecPacket.encodeToVec ⟨(encoder.stateOf now src dest).groupId,
        UInt32.ofNat (encoder.stateOf now src dest).currentBatch.length, payload, none⟩⟩).2 =
      .ok (some [⟨(UInt32.ofNat (encoder.stateOf now src dest).currentBatch.length).toNat,
        ⟨header.setFlag fec false, payload⟩⟩]) := by
  have index := waiting.stateOf now src dest
  generalize encoder.stateOf now src dest = state at index fresh ⊢
  have small : (UInt32.ofNat state.currentBatch.length).toNat ≤ maxNum := by
    rw [batchSize] at index
    rw [UInt32.toNat_ofNat', maxNum]
    omega
  subst source
  exact decoder.receive_fresh time _
    ⟨state.groupId, UInt32.ofNat state.currentBatch.length, payload, none⟩
    (FecPacket.decode_encodeToVec _ (Nat.lt_of_le_of_lt fits (by decide))) rfl small fresh

/-- A packet as the compression of a frame left it, whatever its TTL. -/
structure Carries (compression : PacketCompression) (src dest : Ipv4Addr) (frame : Bytes)
    (packet : NetPacket) : Prop where
  flags : packet.header.flagsByte =
    (compression.compress (HybridOutbound.dataPacket .turn src dest frame)).header.flagsByte
  payload : packet.payload =
    (compression.compress (HybridOutbound.dataPacket .turn src dest frame)).payload
  source : packet.srcId = src
  target : packet.destId = dest

theorem Carries.decompress {compression : PacketCompression} (lossless : compression.Lossless)
    {src : Ipv4Addr} (carries : Carries compression src dest frame packet) :
    ∃ opened, compression.decompress packet = .ok opened ∧ opened.payload = frame ∧
      opened.srcId = src ∧ opened.destId = dest := by
  obtain ⟨header, payload⟩ := packet
  obtain ⟨flags, rfl, source, target⟩ := carries
  obtain ⟨opened, back, content, from_, to_⟩ := decompress_compress lossless
    (HybridOutbound.dataPacket .turn src dest frame) rfl header flags
  exact ⟨opened, back, content, from_.trans source, to_.trans target⟩

def NetPacket.withTtlByte (packet : NetPacket) (ttl : UInt8) : NetPacket :=
  ⟨{ packet.header with ttlByte := ttl }, packet.payload⟩

/-- Without FEC an opened packet carries the frame itself, with FEC the decoder hands back
the one packet that does. -/
theorem unwrapped {compression : PacketCompression}
    (waiting : ∀ encoder, fecEncoder = some encoder → encoder.Waiting) (short : frame.length ≤ 2032)
    (sent : (HybridOutbound.encoded fecEncoder now (compression.compress
      (HybridOutbound.dataPacket .turn net.ip dest frame))).2 = some packet)
    {decoder : FecDecoder} (fresh : FreshGroup fecEncoder now net.ip dest decoder)
    (ttl : UInt8) (time : Instant) :
    ((packet.withTtlByte ttl).isFec = false ∧
        Carries compression net.ip dest frame (packet.withTtlByte ttl)) ∨
      ((packet.withTtlByte ttl).isFec = true ∧ ∃ returned,
        (decoder.receive time (packet.withTtlByte ttl)).2 = .ok (some [returned]) ∧
          Carries compression net.ip dest frame returned.packet) := by
  obtain ⟨flags, plain, before, header⟩ := encoded_header compression sent
  obtain ⟨clear, flagged, cleared⟩ := fec_flags plain
  cases fecEncoder with
  | none =>
      left
      constructor
      · rw [NetPacket.isFec, NetPacket.withTtlByte, header]
        exact clear
      · cases sent
        exact ⟨rfl, rfl, congrArg NetHeader.srcId before, congrArg NetHeader.destId before⟩
  | some encoder =>
      right
      constructor
      · rw [NetPacket.isFec, NetPacket.withTtlByte, header]
        exact flagged
      · have fits : (compression.compress
            (HybridOutbound.dataPacket .turn net.ip dest frame)).payload.length ≤ 65535 :=
          Nat.le_trans (compress_length _ _) (Nat.le_trans short (by decide))
        have src : (compression.compress
            (HybridOutbound.dataPacket .turn net.ip dest frame)).srcId = net.ip :=
          congrArg NetHeader.srcId before
        have target : (compression.compress
            (HybridOutbound.dataPacket .turn net.ip dest frame)).destId = dest :=
          congrArg NetHeader.destId before
        rw [HybridOutbound.encoded, encoder.encode_ok now _ fits, src, target] at sent
        cases sent
        refine ⟨_, receive_wrapped (waiting encoder rfl) now time net.ip dest _ (by exact src)
          fits (fresh encoder rfl), ?_⟩
        constructor
        · rw [before]
          exact cleared
        · rfl
        · exact src
        · exact target

theorem opened_handedOn {config : NodeConfig} (lossless : config.packetCompression.Lossless)
    (waiting : ∀ encoder, fecEncoder = some encoder → encoder.Waiting) (short : frame.length ≤ 2032)
    (sent : (HybridOutbound.encoded fecEncoder now (config.packetCompression.compress
      (HybridOutbound.dataPacket .turn net.ip dest frame))).2 = some packet)
    (clock : Clock) (own : NetworkAddr) (ttl : UInt8) (state : NodeState)
    (fresh : FreshGroup fecEncoder now net.ip dest state.decoder) :
    (handleOpened config clock (deliver config clock own .turn net.ip) state
        (packet.withTtlByte ttl)).effects.filterMap Effect.handedOn =
      [⟨.turn, net.ip, net.ip, dest, frame⟩] := by
  have processed : ∀ state carrier,
      Carries config.packetCompression net.ip dest frame carrier →
        (decompressed config (deliver config clock own .turn net.ip) state
          carrier).effects.filterMap Effect.handedOn = [⟨.turn, net.ip, net.ip, dest, frame⟩] := by
    intro state carrier carries
    obtain ⟨opened, back, payload, source, target⟩ := carries.decompress lossless
    rw [decompressed, back, Handled.attempt, handedOn_deliver, payload, source, target]
  rw [handleOpened]
  rcases unwrapped waiting short sent fresh ttl clock.now with
    ⟨plain, carries⟩ | ⟨isFec, returned, received, carries⟩
  · rw [plain]
    exact processed state _ carries
  · rw [isFec, if_pos rfl, handleFec, decodeFec, received]
    simp only [Outcome.bind, Option.getD_some, List.map_cons, List.map_nil, Handled.attempt]
    rw [forEach_singleton]
    exact processed _ _ carries

end Arrival

/-- The TTL byte takes no part in the sealing. -/
theorem PacketCrypto.decrypt_withTtlByte (crypto : PacketCrypto) (packet : NetPacket)
    (ttl : UInt8) : crypto.decryptInPlace ((crypto.encryptInPlace packet).withTtlByte ttl) =
      .ok (packet.withTtlByte ttl) := by
  have same : (crypto.encryptInPlace packet).withTtlByte ttl =
      crypto.encryptInPlace (packet.withTtlByte ttl) := by
    unfold PacketCrypto.encryptInPlace
    cases crypto.crypto with
    | none => rfl
    | some aead => rfl
  rw [same, PacketCrypto.decrypt_encrypt]

section Handlers
variable {config : NodeConfig} {clock : Clock} {state : NodeState} {packet wire : NetPacket}

theorem decrTtl_withTtlByte (packet : NetPacket) (ttl : UInt8) :
    (packet.withTtlByte ttl).decrTtl =
      packet.withTtlByte (packet.withTtlByte ttl).header.decrTtl.ttlByte := by
  rw [NetPacket.decrTtl, NetHeader.decrTtl_eq]
  rfl

theorem header_sealed (crypto : PacketCrypto) (packet : NetPacket) (ttl : UInt8) :
    ((crypto.encryptInPlace packet).withTtlByte ttl).header = (packet.withTtlByte ttl).header := by
  rw [NetPacket.withTtlByte, PacketCrypto.encryptInPlace_header]
  rfl

theorem msgType_sealed (crypto : PacketCrypto) (packet : NetPacket) (ttl : UInt8) :
    ((crypto.encryptInPlace packet).withTtlByte ttl).msgType = packet.msgType := by
  rw [NetPacket.msgType, header_sealed]
  rfl

theorem srcId_sealed (crypto : PacketCrypto) (packet : NetPacket) (ttl : UInt8) :
    ((crypto.encryptInPlace packet).withTtlByte ttl).srcId = packet.srcId := by
  rw [NetPacket.srcId, header_sealed]
  rfl

theorem isGateway_sealed (crypto : PacketCrypto) (packet : NetPacket) (ttl : UInt8) :
    ((crypto.encryptInPlace packet).withTtlByte ttl).isGateway = packet.isGateway := by
  rw [NetPacket.isGateway, header_sealed]
  rfl

theorem P2pInboundHandler.nextHandle_taken (clock : Clock) (routeKey : RouteKey)
    (state : NodeState) {ttl : UInt8} (typed : packet.msgType = .ok .turn)
    (taken : (Entrance.p2p routeKey).takes config (packet.withTtlByte ttl).header = true) :
    ∃ own ttl', nextHandle config clock routeKey state
        ((config.packetCrypto.encryptInPlace packet).withTtlByte ttl).buffer =
      handleOpened config clock (deliver config clock own .turn packet.srcId) state
        (packet.withTtlByte ttl') := by
  have arrivedType := (msgType_sealed config.packetCrypto packet ttl).trans typed
  have source := srcId_sealed config.packetCrypto packet ttl
  have opens := config.packetCrypto.decrypt_withTtlByte packet ttl
  rw [← header_sealed config.packetCrypto packet ttl] at taken
  generalize (config.packetCrypto.encryptInPlace packet).withTtlByte ttl = wire
    at arrivedType source opens taken ⊢
  obtain ⟨net, _, handled⟩ := nextHandle_takes clock routeKey state arrivedType taken
  refine ⟨net, (packet.withTtlByte ttl).header.decrTtl.ttlByte, ?_⟩
  have other : ¬ MsgType.turn = MsgType.quic := by decide
  rw [handled, handleLocal, if_neg other, PacketCrypto.decrypt_decrTtl, opens, Outcome.bind,
    Handled.attempt, decrTtl_withTtlByte, source]
  rfl

theorem ServerTurnInboundHandler.handle_taken {net : NetworkAddr} {ttl : UInt8}
    (typed : packet.msgType = .ok .turn) (client : packet.isGateway = false)
    (taken : (Entrance.server (some net)).takes config (packet.withTtlByte ttl).header = true) :
    handle config clock (some net) state
        ((config.packetCrypto.encryptInPlace packet).withTtlByte ttl).buffer =
      handleOpened config clock (deliver config clock net .turn packet.srcId) state
        (packet.withTtlByte ttl) := by
  have arrivedType := (msgType_sealed config.packetCrypto packet ttl).trans typed
  have arrivedClient := (isGateway_sealed config.packetCrypto packet ttl).trans client
  have source := srcId_sealed config.packetCrypto packet ttl
  have opens := config.packetCrypto.decrypt_withTtlByte packet ttl
  have other : ¬ MsgType.turn = MsgType.quic := by decide
  rw [← header_sealed config.packetCrypto packet ttl] at taken
  rw [handle_takes clock state arrivedClient taken]
  simp only [handleClientData, NetPacket.new_buffer, Handled.attempt, arrivedType, if_neg other,
    opens, source]
  rfl

end Handlers

section Buffers
variable {config : NodeConfig} {packet : NetPacket}

theorem handedBuffer_ok (lossless : config.packetCompression.Lossless) {src dest : Ipv4Addr}
    {frame : Bytes} {buffer : PacketBuffer}
    (carries : Carries config.packetCompression src dest frame buffer.view) :
    ∃ handed, config.handedBuffer buffer = .ok handed ∧ handed.asSlice = frame := by
  obtain ⟨opened, back, payload, _, _⟩ := carries.decompress lossless
  rw [← PacketCompression.decompressBuffer_view] at back
  obtain ⟨decompressed, result, view⟩ := Outcome.exists_of_bind_ok back
  obtain ⟨handed, advanced, held⟩ := decompressed.buffer.advanceHead_ok decompressed.whole
  refine ⟨handed, ?_, ?_⟩
  · rw [NodeConfig.handedBuffer, result, Outcome.ok_bind, advanced]
  · rw [held, ← payload, ← view, PacketBuffer.view]

theorem decryptBuffer_sealed (crypto : PacketCrypto) (ttl : UInt8) :
    ∃ arrived opened, PacketBuffer.new (TransmissionBytes.ofBytes
        ((crypto.encryptInPlace packet).withTtlByte ttl).buffer) = .ok arrived ∧
      crypto.decryptBuffer arrived = .ok opened ∧ opened.view = packet.withTtlByte ttl := by
  have opens := crypto.decrypt_withTtlByte packet ttl
  have tagged : ∀ aead plaintext, crypto.crypto = some aead →
      aead.openInPlace ((crypto.encryptInPlace packet).withTtlByte ttl).makeNonce
          ((crypto.encryptInPlace packet).withTtlByte ttl).payload = some plaintext →
        plaintext.length + tagLen =
          ((crypto.encryptInPlace packet).withTtlByte ttl).payload.length := by
    intro aead plaintext key opened
    rw [PacketCrypto.decryptInPlace, key] at opens
    simp only [opened] at opens
    obtain rfl : plaintext = packet.payload := congrArg NetPacket.payload (Outcome.ok.inj opens)
    rw [PacketCrypto.encryptInPlace, key]
    exact (aead.tagged _ _).symm
  generalize (crypto.encryptInPlace packet).withTtlByte ttl = wire at opens tagged
  have whole : headLength ≤ (TransmissionBytes.ofBytes wire.buffer).len := by
    rw [← TransmissionBytes.asSlice_length, TransmissionBytes.asSlice_ofBytes, NetPacket.buffer,
      List.length_append, NetPacket.head_length]
    exact Nat.le_add_right _ _
  have view : (⟨TransmissionBytes.ofBytes wire.buffer, whole⟩ : PacketBuffer).view = wire :=
    PacketBuffer.view_eq _ (TransmissionBytes.asSlice_ofBytes _)
  have decrypted := crypto.decryptBuffer_view ⟨TransmissionBytes.ofBytes wire.buffer, whole⟩
    (by rw [view]; exact tagged)
  rw [view, opens] at decrypted
  obtain ⟨opened, result, same⟩ := Outcome.exists_of_bind_ok decrypted
  refine ⟨_, opened, ?_, result, same⟩
  rw [PacketBuffer.new, dif_pos whole]

/-- The buffers on the way in end with the frame in the window. -/
theorem received_frame (lossless : config.packetCompression.Lossless)
    {fecEncoder : Option FecEncoder}
    (waiting : ∀ encoder, fecEncoder = some encoder → encoder.Waiting) {frame : Bytes}
    (short : frame.length ≤ 2032) {now : Instant} {net : NetworkAddr} {dest : Ipv4Addr}
    (sent : (HybridOutbound.encoded fecEncoder now (config.packetCompression.compress
      (HybridOutbound.dataPacket .turn net.ip dest frame))).2 = some packet)
    {decoder : FecDecoder} (fresh : FreshGroup fecEncoder now net.ip dest decoder)
    (ttl : UInt8) (time : Instant) :
    ∃ handed, config.received decoder time
        ((config.packetCrypto.encryptInPlace packet).withTtlByte ttl).buffer = .ok [handed] ∧
      handed.asSlice = frame := by
  obtain ⟨arrived, opened, new, decrypted, view⟩ := decryptBuffer_sealed config.packetCrypto ttl
  rw [NodeConfig.received, new, Outcome.ok_bind, decrypted, Outcome.ok_bind, view]
  rcases unwrapped waiting short sent fresh ttl time with
    ⟨plain, carries⟩ | ⟨isFec, returned, received, carries⟩
  · rw [← view] at carries
    obtain ⟨handed, result, held⟩ := handedBuffer_ok lossless carries
    refine ⟨handed, ?_, held⟩
    rw [plain, if_neg Bool.false_ne_true, result]
    rfl
  · have built : Carries config.packetCompression net.ip dest frame
        (PacketBuffer.build returned.packet.header returned.packet.payload 0).view := by
      rw [PacketBuffer.view_build]
      exact carries
    obtain ⟨handed, result, held⟩ := handedBuffer_ok lossless built
    refine ⟨handed, ?_, held⟩
    rw [isFec, if_pos rfl, received, Outcome.ok_bind, Option.getD_some]
    simp only [List.mapM, List.mapM.loop, result, Outcome.ok_bind]
    rfl

end Buffers
/-- From the TUN of the sender to the `EnhancedInbound` of whoever the packet is for: the
frame arrives as it was, under the sender's ids, over any relays. -/
theorem HybridOutbound.payload_round_trip (outbound : HybridOutbound)
    (lossless : outbound.node.packetCompression.Lossless) (fecEncoder : Option FecEncoder)
    (reachable : ∀ encoder, fecEncoder = some encoder → encoder.Reachable) (now : Instant)
    (net : NetworkAddr) {frame : Bytes} {data : TransmissionBytes}
    (taken : BytesCodec.decode frame = .ok (some data)) {dest : Ipv4Addr}
    (routed : outbound.target net frame = some dest) :
    ∃ after wire, outbound.ipv4OutboundBuffer fecEncoder now net data = .ok (after, some wire) ∧
      ∀ (hops : List UInt8) (config : NodeConfig) (clock : Clock) (entrance : Entrance)
        (state : NodeState), config.packetCrypto = outbound.node.packetCrypto →
        config.packetCompression = outbound.node.packetCompression →
        FreshGroup fecEncoder now net.ip dest state.decoder →
          (entrance.receive config clock state (relayed hops wire)).effects.filterMap
              Effect.handedOn =
            (if entrance.takes config (headerOf (relayed hops wire)) then
              [⟨.turn, net.ip, net.ip, dest, frame⟩] else []) ∧
          ∃ handed, config.received state.decoder clock.now (relayed hops wire) = .ok [handed] ∧
            handed.asSlice = frame := by
  obtain ⟨packet, sent, _, buffers⟩ :=
    outbound.ipv4OutboundBuffer_eq fecEncoder now net taken routed
  have waiting : ∀ encoder, fecEncoder = some encoder → encoder.Waiting :=
    fun encoder made => (reachable encoder made).waiting
  have short := (decode_window taken).2.1
  refine ⟨_, _, buffers, ?_⟩
  intro hops config clock entrance state crypto compression fresh
  rw [← compression] at lossless sent
  obtain ⟨flags, plain, _, header⟩ := encoded_header config.packetCompression sent
  -- Relays change the TTL byte alone, and neither sealing nor opening reads it.
  have arrived : relayed hops (outbound.sealPacket packet).buffer =
      ((config.packetCrypto.encryptInPlace packet).withTtlByte
        (hops.getLastD (outbound.sealPacket packet).header.ttlByte)).buffer := by
    rw [relayed_buffer, sealPacket, crypto]
    rfl
  rw [arrived]
  generalize hops.getLastD (outbound.sealPacket packet).header.ttlByte = ttl
  have front : headerOf ((config.packetCrypto.encryptInPlace packet).withTtlByte ttl).buffer =
      (packet.withTtlByte ttl).header := by
    rw [NetPacket.buffer, headerOf_head, header_sealed]
  refine ⟨?_, received_frame lossless waiting short sent fresh ttl clock.now⟩
  obtain ⟨clear, flagged⟩ := gateway_flags plain
  have typed : packet.msgType = .ok .turn := by
    have turn : MsgType.tryFrom (0x81 &&& 0x7F) = .ok .turn := by decide
    rw [NetPacket.msgType, header]
    exact turn
  have client : packet.isGateway = false := by
    rw [NetPacket.isGateway, header]
    cases fecEncoder with
    | none => exact clear
    | some encoder => exact flagged
  have source : packet.srcId = net.ip := congrArg NetHeader.srcId header
  have opened := fun own ttl =>
    opened_handedOn lossless waiting short sent clock own ttl state fresh
  rw [front]
  split
  -- A packet for this node is opened by the handler of its socket.
  · rename_i takes
    cases entrance with
    | p2p routeKey =>
        obtain ⟨own, lowered, result⟩ :=
          P2pInboundHandler.nextHandle_taken clock routeKey state typed takes
        rw [Entrance.receive, result, source]
        exact opened own lowered
    | server networkAddr =>
        cases networkAddr with
        | none => cases takes
        | some own =>
            rw [Entrance.receive, ServerTurnInboundHandler.handle_taken typed client takes, source]
            exact opened own ttl
  -- Any other is dropped or forwarded, never handed on.
  · rename_i refused
    rw [Bool.not_eq_true, ← header_sealed config.packetCrypto] at refused
    cases entrance with
    | p2p routeKey =>
        have arrivedType : ((config.packetCrypto.encryptInPlace packet).withTtlByte ttl).msgType =
            .ok .turn := by
          rw [NetPacket.msgType, header_sealed]
          exact typed
        have dropped :=
          (P2pInboundHandler.nextHandle_refused clock routeKey state arrivedType refused).2
        rw [Entrance.receive]
        rcases dropped with nothing | ⟨next, _, forwarded⟩
        · rw [nothing]
          rfl
        · rw [forwarded]
          rfl
    | server networkAddr =>
        have arrivedClient :
            ((config.packetCrypto.encryptInPlace packet).withTtlByte ttl).isGateway = false := by
          rw [NetPacket.isGateway, header_sealed]
          exact client
        rw [Entrance.receive,
          (ServerTurnInboundHandler.handle_refused clock state arrivedClient refused).2]
        rfl

/-- A header from 10.26.0.3 to 10.26.0.2, and zeros. -/
def sampleFrame : Bytes :=
  [0x45, 0, 1, 0, 0, 0, 0, 0, 64, 17, 0, 0, 10, 26, 0, 3, 10, 26, 0, 2] ++ List.replicate 236 0

/-- Its LZ4 block: 21 bytes as they are, 230 copies of the last of them, and five more. -/
def sampleBlock : Bytes :=
  [0, 1, 0, 0, 0xFF, 6] ++ sampleFrame.take 21 ++ [1, 0, 211, 0x50] ++ List.replicate 5 0

/-- The codec as far as this frame goes. -/
def sampleLz4 : Lz4 where
  compress := Equiv.swap sampleFrame sampleBlock
  decompress block := some (Equiv.swap sampleFrame sampleBlock block)

def fullNode : NodeConfig :=
  { NodeConfig.plain sampleNetwork with
    packetCrypto := ⟨some transparentAead⟩
    packetCompression := ⟨some ⟨256, sampleLz4⟩⟩ }

def fullPeer : NodeConfig :=
  { fullNode with network := some { sampleNetwork with ip := 0x0A1A0002 } }

def fullWire (frame : Bytes) : Option Bytes :=
  match BytesCodec.decode frame with
  | .ok (some data) =>
      match HybridOutbound.ipv4OutboundBuffer ⟨fullNode, []⟩ (some FecEncoder.new) 0 sampleNetwork
          data with
      | .ok (_, wire) => wire
      | .err _ | .panic => none
  | _ => none

/-- Compressed, with FEC, over one relay, to the P2P handler of a node that has seen nothing yet. -/
theorem HybridOutbound.sample_frame_arrives :
    ∃ data, BytesCodec.decode sampleFrame = .ok (some data) ∧ ∃ after wire,
      ipv4OutboundBuffer ⟨fullNode, []⟩ (some FecEncoder.new) 0 sampleNetwork data =
          .ok (after, some wire) ∧
        wire.length < sampleFrame.length ∧
        ((Entrance.p2p ⟨0, ⟨.v4 0, 0⟩⟩).receive fullPeer ⟨0, 0⟩ ⟨FecDecoder.new 0, RouteTable.new⟩
            (relayed [0x54] wire)).effects.filterMap Effect.handedOn =
          [⟨.turn, 0x0A1A0003, 0x0A1A0003, 0x0A1A0002, sampleFrame⟩] := by
  have lossless : fullNode.packetCompression.Lossless := by
    intro lz4 codec data
    cases codec
    exact congrArg some (Equiv.swap_apply_self _ _ data)
  have reachable : ∀ encoder, some FecEncoder.new = some encoder → encoder.Reachable := by
    intro encoder made
    cases made
    exact ⟨[], rfl⟩
  have fresh : FreshGroup (some FecEncoder.new) 0 sampleNetwork.ip 0x0A1A0002 (FecDecoder.new 0) :=
    fun _ _ => rfl
  have routed : HybridOutbound.target ⟨fullNode, []⟩ sampleNetwork sampleFrame =
      some 0x0A1A0002 := by decide +kernel
  obtain ⟨data, taken⟩ := @decode_ok sampleFrame (by decide +kernel) (by decide +kernel)
  obtain ⟨after, wire, sent, arrives⟩ := HybridOutbound.payload_round_trip ⟨fullNode, []⟩ lossless
    (some FecEncoder.new) reachable 0 sampleNetwork taken routed
  have made : fullWire sampleFrame = some wire := by simp only [fullWire, taken, sent]
  have takes : (fullWire sampleFrame).map (fun wire => (Entrance.p2p ⟨0, ⟨.v4 0, 0⟩⟩).takes fullPeer
      (headerOf (relayed [0x54] wire))) = some true := by decide +kernel
  have short : (fullWire sampleFrame).map (fun wire => decide (wire.length < sampleFrame.length)) =
      some true := by decide +kernel
  rw [made, Option.map_some, Option.some.injEq] at takes short
  have handed := (arrives [0x54] fullPeer ⟨0, 0⟩ (.p2p ⟨0, ⟨.v4 0, 0⟩⟩) ⟨FecDecoder.new 0, RouteTable.new⟩
    rfl rfl fresh).1
  rw [if_pos takes] at handed
  exact ⟨data, taken, after, wire, sent, of_decide_eq_true short, handed⟩

end VntClient
