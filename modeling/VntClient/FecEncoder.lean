import VntClient.Table
import VntClient.FecPacket
import VntClient.ReedSolomon

/-!
`fec/encoder.rs`. Data packets are wrapped and sent at once; a copy of each
waits in the batch of its destination until the batch is full or its deadline
passes, and the worker then makes the parity packets.
-/

namespace VntClient

def batchSize : Nat := 10
def batchTimeoutMs : Nat := 20
def minParity : Nat := 1
def batchChannelSize : Nat := 1024

/-- `REDUNDANCY_RATE` is the f32 nearest to 0.2, which is this over 2^26. -/
def redundancyRate : Nat := 13421773

/-- Rounding to the 24 significant bits of an f32, ties to even. -/
def roundMantissa (value : Nat) : Nat :=
  let unit := 2 ^ (Nat.log2 value + 1 - 24)
  let low := value / unit
  let rest := value % unit
  if unit < 2 * rest ∨ (2 * rest = unit ∧ low % 2 = 1) then unit * (low + 1) else unit * low

def parityShards (dataShards : Nat) : Nat :=
  max ((2 ^ 26 - 1 + roundMantissa (redundancyRate * roundMantissa dataShards)) / 2 ^ 26) minParity

example : (List.range 11).map parityShards = [1, 1, 1, 1, 1, 1, 2, 2, 2, 2, 2] := by decide

/-- FEC data: `[type_byte, flags_byte, payload_len(u16), payload...]`. -/
def fecData (header : NetHeader) (payload : Bytes) : Bytes :=
  [header.typeByte, header.flagsByte, UInt8.ofNat (payload.length / 256),
    UInt8.ofNat payload.length] ++ payload

structure DestBatchState where
  groupId : UInt64
  currentBatch : List Bytes
  deadline : Instant
  srcIp : Ipv4Addr

structure BatchItem where
  src : Ipv4Addr
  dest : Ipv4Addr
  groupId : UInt64
  items : List Bytes
deriving DecidableEq

structure FecEncoder where
  batchStates : AList fun _ : Ipv4Addr => DestBatchState
  channel : List BatchItem

/-- `resize` of the buffer to hold `size` payload bytes. -/
def NetPacket.resizePayload (packet : NetPacket) (size : Nat) : NetPacket :=
  { packet with
    payload := packet.payload.take size ++ List.replicate (size - packet.payload.length) 0 }

@[simp] theorem NetPacket.resizePayload_setPayload (packet : NetPacket) (data : Bytes) :
    (packet.resizePayload data.length).setPayload data = .ok { packet with payload := data } := by
  rw [NetPacket.setPayload_exact]
  · rfl
  · simp only [NetPacket.resizePayload, List.length_append, List.length_take,
      List.length_replicate]
    omega

namespace FecEncoder

def new : FecEncoder := ⟨∅, []⟩

def stateOf (encoder : FecEncoder) (now : Instant) (src dest : Ipv4Addr) : DestBatchState :=
  (encoder.batchStates.lookup dest).getD ⟨0, [], now + fromMillis batchTimeoutMs, src⟩

def trySend (channel : List BatchItem) (item : BatchItem) : List BatchItem :=
  if channel.length < batchChannelSize then channel ++ [item] else channel

/-- A full batch leaves for the worker and the next group begins. -/
def push (state : DestBatchState) (channel : List BatchItem) (now : Instant)
    (src dest : Ipv4Addr) (buffer : Bytes) : DestBatchState × List BatchItem :=
  let batch := state.currentBatch ++ [buffer]
  if batchSize ≤ batch.length then
    ({ state with
        groupId := state.groupId + 1
        currentBatch := []
        deadline := now + fromMillis batchTimeoutMs },
      trySend channel ⟨src, dest, state.groupId, batch⟩)
  else ({ state with currentBatch := batch }, channel)

theorem push_partial (state : DestBatchState) (channel : List BatchItem) (now : Instant)
    (src dest : Ipv4Addr) (buffer : Bytes) (short : state.currentBatch.length + 1 < batchSize) :
    push state channel now src dest buffer =
      ({ state with currentBatch := state.currentBatch ++ [buffer] }, channel) := by
  have kept : ¬ batchSize ≤ (state.currentBatch ++ [buffer]).length := by
    rw [List.length_append, List.length_singleton]; omega
  simp only [push, kept, ↓reduceIte]

theorem push_full (state : DestBatchState) (channel : List BatchItem) (now : Instant)
    (src dest : Ipv4Addr) (buffer : Bytes) (full : batchSize ≤ state.currentBatch.length + 1) :
    push state channel now src dest buffer =
      ({ state with
          groupId := state.groupId + 1
          currentBatch := []
          deadline := now + fromMillis batchTimeoutMs },
        trySend channel ⟨src, dest, state.groupId, state.currentBatch ++ [buffer]⟩) := by
  have handed : batchSize ≤ (state.currentBatch ++ [buffer]).length := by
    rw [List.length_append, List.length_singleton]; exact full
  simp only [push, handed, ↓reduceIte]

theorem mem_trySend {channel : List BatchItem} {item other : BatchItem}
    (member : other ∈ trySend channel item) : other ∈ channel ∨ other = item := by
  unfold trySend at member
  split at member
  · simpa using member
  · exact Or.inl member

def encode (encoder : FecEncoder) (now : Instant) (packet : NetPacket) :
    Outcome (FecEncoder × NetPacket) :=
  let src := packet.srcId
  let dest := packet.destId
  if 65535 < packet.payload.length then .err "Payload too big"
  else do
    let state := encoder.stateOf now src dest
    let pushed := push state encoder.channel now src dest (fecData packet.header packet.payload)
    let fecPayload := FecPacket.encodeToVec
      ⟨state.groupId, UInt32.ofNat state.currentBatch.length, packet.payload, none⟩
    let wrapped ← (packet.resizePayload fecPayload.length).setPayload fecPayload
    pure (⟨encoder.batchStates.insert dest pushed.1, pushed.2⟩, wrapped.setFecFlag true)

/-- What `encode` does to a packet of any size the shard header can describe. -/
theorem encode_ok (encoder : FecEncoder) (now : Instant) (packet : NetPacket)
    (fits : packet.payload.length ≤ 65535) :
    encoder.encode now packet =
      .ok (⟨encoder.batchStates.insert packet.destId
            (push (encoder.stateOf now packet.srcId packet.destId) encoder.channel now packet.srcId
              packet.destId (fecData packet.header packet.payload)).1,
          (push (encoder.stateOf now packet.srcId packet.destId) encoder.channel now packet.srcId
            packet.destId (fecData packet.header packet.payload)).2⟩,
        ⟨packet.header.setFlag fec true, FecPacket.encodeToVec
          ⟨(encoder.stateOf now packet.srcId packet.destId).groupId, UInt32.ofNat
            (encoder.stateOf now packet.srcId packet.destId).currentBatch.length,
            packet.payload, none⟩⟩) := by
  simp only [encode, if_neg (Nat.not_lt.mpr fits), NetPacket.resizePayload_setPayload,
    Outcome.ok_bind, Outcome.pure_eq]
  rfl

def recv (encoder : FecEncoder) : Option (BatchItem × FecEncoder) :=
  match encoder.channel with
  | [] => none
  | item :: rest => some (item, { encoder with channel := rest })

def expired (now : Instant) (state : DestBatchState) : Bool :=
  !state.currentBatch.isEmpty && decide (state.deadline ≤ now)

/-- The worker's timer arm takes every batch whose deadline has passed. -/
def tick (encoder : FecEncoder) (now : Instant) : List BatchItem × FecEncoder :=
  (encoder.batchStates.entries.filterMap fun entry =>
      if expired now entry.2 then
        some ⟨entry.2.srcIp, entry.1, entry.2.groupId, entry.2.currentBatch⟩
      else none,
    { encoder with
      batchStates := Table.mapValues (fun _ state =>
        if expired now state then
          { state with
            groupId := state.groupId + 1
            currentBatch := []
            deadline := now + fromMillis batchTimeoutMs }
        else state) encoder.batchStates })

end FecEncoder

def extendEnd (buffer : Bytes) (n : Nat) : Bytes := buffer ++ List.replicate n 0

def parityPacket (src dest : Ipv4Addr) (fecPacket : FecPacket) : Outcome NetPacket := do
  let fecPayload := fecPacket.encodeToVec
  let packet := (NetPacket.zeroed fecPayload.length).setMsgType .turn
  let packet := ((packet.setSrcId src).setDestId dest).setTtl 5
  let packet ← packet.setPayload fecPayload
  pure (packet.setFecFlag true)

def sendParity (src dest : Ipv4Addr) (groupId : UInt64) (parityData : ParityData) :
    Nat → List Bytes → Outcome (List NetPacket)
  | _, [] => .ok []
  | packetIndex, parityBuf :: rest => do
      let packet ← parityPacket src dest
        ⟨groupId, UInt32.ofNat packetIndex, parityBuf, some parityData⟩
      let sent ← sendParity src dest groupId parityData (packetIndex + 1) rest
      pure (packet :: sent)

def maxLength (items : List Bytes) : Nat := (items.map List.length).foldr max 0

def encodeAndSendParity (item : BatchItem) : Outcome (List NetPacket) :=
  if item.items = [] then .ok []
  else
    let dataShards := item.items.length
    let maxLen := maxLength item.items
    if maxLen = 0 then .ok []
    else do
      let padded := item.items.map fun buf => extendEnd buf (maxLen - buf.length)
      let rs ← ReedSolomon.new dataShards (parityShards dataShards)
      let shards ← rs.encode
        (padded ++ List.replicate (parityShards dataShards) (List.replicate maxLen 0))
      sendParity item.src item.dest item.groupId
        ⟨UInt32.ofNat dataShards, UInt32.ofNat (parityShards dataShards)⟩ dataShards
        (shards.drop dataShards)

def parityHeader (src dest : Ipv4Addr) : NetHeader :=
  { typeByte := 0x81
    ttlByte := 0x55
    flagsByte := 0x20
    reserved := 0
    seq := 0
    srcId := src
    destId := dest }

theorem parityPacket_ok (src dest : Ipv4Addr) (fecPacket : FecPacket) :
    parityPacket src dest fecPacket =
      .ok ⟨parityHeader src dest, fecPacket.encodeToVec⟩ := by
  simp only [parityPacket, NetPacket.zeroed, NetPacket.setMsgType, NetPacket.setSrcId,
    NetPacket.setDestId, NetPacket.setTtl, NetHeader.setMsgType, NetHeader.setTtl]
  rw [NetPacket.setPayload_exact _ _ (by simp)]
  simp only [Outcome.ok_bind, Outcome.pure_eq, NetPacket.setFecFlag, NetHeader.setFlag,
    NetHeader.zeroed, ↓reduceIte, parityHeader]
  congr 3

theorem sendParity_ok (src dest : Ipv4Addr) (groupId : UInt64) (parityData : ParityData)
    (packetIndex : Nat) (buffers : List Bytes) :
    sendParity src dest groupId parityData packetIndex buffers =
      .ok (buffers.mapIdx fun j buffer => ⟨parityHeader src dest, FecPacket.encodeToVec
        ⟨groupId, UInt32.ofNat (packetIndex + j), buffer, some parityData⟩⟩) := by
  induction buffers generalizing packetIndex with
  | nil => rfl
  | cons buffer rest ih =>
      simp only [sendParity, parityPacket_ok, Outcome.ok_bind, ih, Outcome.pure_eq,
        List.mapIdx_cons, Nat.add_zero]
      congr 3
      ext1 j
      rw [Nat.add_right_comm, Nat.add_assoc]

theorem encodeAndSendParity_header {item : BatchItem} {sent : List NetPacket}
    (made : encodeAndSendParity item = .ok sent) :
    ∀ wire ∈ sent, wire.header = parityHeader item.src item.dest := by
  intro wire member
  simp only [encodeAndSendParity] at made
  split at made
  · cases made
    cases member
  · split at made
    · cases made
      cases member
    · cases created : ReedSolomon.new item.items.length (parityShards item.items.length) with
      | err message => rw [created] at made; cases made
      | panic => rw [created] at made; cases made
      | ok rs =>
          rw [created, Outcome.ok_bind] at made
          generalize rs.encode _ = encoded at made
          cases encoded with
          | err message => cases made
          | panic => cases made
          | ok shards =>
              rw [Outcome.ok_bind, sendParity_ok] at made
              cases made
              obtain ⟨j, inside, rfl⟩ := List.mem_mapIdx.mp member
              rfl

theorem mapIdx_map_range {α β : Type} (value : Nat → α) (use : Nat → α → β) (n : Nat) :
    ((List.range n).map value).mapIdx use = (List.range n).map fun j => use j (value j) := by
  apply List.ext_getElem (by simp)
  intro j _ _
  simp

theorem parityShards_pos (dataShards : Nat) : 0 < parityShards dataShards := by
  unfold parityShards
  exact Nat.lt_of_lt_of_le Nat.zero_lt_one (Nat.le_max_right _ _)

theorem length_le_maxLength {items : List Bytes} {buffer : Bytes} (member : buffer ∈ items) :
    buffer.length ≤ maxLength items := by
  induction items with
  | nil => cases member
  | cons first rest ih =>
      simp only [maxLength, List.map_cons, List.foldr_cons] at ih ⊢
      rcases List.mem_cons.mp member with rfl | member
      · exact Nat.le_max_left _ _
      · exact Nat.le_trans (ih member) (Nat.le_max_right _ _)

def padded (items : List Bytes) : List Bytes :=
  items.map fun buf => extendEnd buf (maxLength items - buf.length)

theorem padded_uniform (items : List Bytes) :
    ∀ shard ∈ padded items, shard.length = maxLength items := by
  intro shard member
  obtain ⟨buffer, inside, rfl⟩ := List.mem_map.mp member
  have bound := length_le_maxLength inside
  simp only [extendEnd, List.length_append, List.length_replicate]
  omega

/-- The parity packets of a batch are the parity rows of its padded shards. -/
theorem encodeAndSendParity_ok (item : BatchItem) (nonempty : item.items ≠ [])
    (few : item.items.length + parityShards item.items.length ≤ 256)
    (content : maxLength item.items ≠ 0) :
    encodeAndSendParity item = .ok ((List.range (parityShards item.items.length)).map fun j =>
      ⟨parityHeader item.src item.dest, FecPacket.encodeToVec
        ⟨item.groupId, UInt32.ofNat (item.items.length + j),
          ReedSolomon.codeword (padded item.items) (maxLength item.items) (item.items.length + j),
          some ⟨UInt32.ofNat item.items.length, UInt32.ofNat (parityShards item.items.length)⟩⟩⟩) := by
  have positive := parityShards_pos item.items.length
  simp only [encodeAndSendParity, nonempty, content, ↓reduceIte]
  generalize parityShards item.items.length = parity at *
  have count : item.items.length ≠ 0 := by simp [nonempty]
  have width : (padded item.items).length = item.items.length := List.length_map _
  have created : ReedSolomon.new item.items.length parity = .ok ⟨item.items.length, parity⟩ := by
    simp only [ReedSolomon.new]
    rw [if_neg count, if_neg (by omega), if_neg (by omega)]
  have encoded : ReedSolomon.encode ⟨item.items.length, parity⟩
      (padded item.items ++ List.replicate parity (List.replicate (maxLength item.items) 0)) =
        .ok (padded item.items ++ (List.range parity).map fun j => ReedSolomon.codeword
          (padded item.items) (maxLength item.items) (item.items.length + j)) := by
    have full := ReedSolomon.encode_uniform ⟨item.items.length, parity⟩ (padded item.items)
      (maxLength item.items) width (by simpa [padded] using nonempty) content
      (padded_uniform item.items)
    rwa [width] at full
  rw [created, Outcome.ok_bind, ← padded, encoded, Outcome.ok_bind, List.drop_left' width,
    sendParity_ok, mapIdx_map_range]

end VntClient
