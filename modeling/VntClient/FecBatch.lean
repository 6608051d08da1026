import VntClient.FecDecoder

/-!
What a batch puts on the wire. `Batch.wire` states it position by position:
the data packets as wrapped, then one parity packet per parity row. `transmit`
runs the encoder over the batch and the worker over what it is handed.
-/

namespace VntClient

/-- Data packets that share one group of one encoder. -/
structure Batch where
  source : Ipv4Addr
  dest : Ipv4Addr
  groupId : UInt64
  packets : List NetPacket
  nonempty : packets ≠ []
  bounded : packets.length ≤ batchSize
  fromSource : ∀ packet ∈ packets, packet.srcId = source
  toDest : ∀ packet ∈ packets, packet.destId = dest
  sizes : ∀ packet ∈ packets, packet.payload.length ≤ 65535

namespace Batch
variable (batch : Batch)

def dataShards : Nat := batch.packets.length
def parityShards : Nat := VntClient.parityShards batch.dataShards
def total : Nat := batch.dataShards + batch.parityShards

def packet (i : Nat) : NetPacket := batch.packets.getD i (NetPacket.zeroed 0)

def shards : List Bytes := batch.packets.map fun packet => fecData packet.header packet.payload

def item : BatchItem := ⟨batch.source, batch.dest, batch.groupId, batch.shards⟩

def width : Nat := maxLength batch.shards

def longest : Nat := (batch.packets.map fun packet => packet.payload.length).foldr max 0

def codeword (i : Nat) : Bytes := ReedSolomon.codeword (padded batch.shards) batch.width i

def parityData : ParityData :=
  ⟨UInt32.ofNat batch.dataShards, UInt32.ofNat batch.parityShards⟩

def fecPacket (i : Nat) : FecPacket :=
  if i < batch.dataShards then
    ⟨batch.groupId, UInt32.ofNat i, (batch.packet i).payload, none⟩
  else ⟨batch.groupId, UInt32.ofNat i, batch.codeword i, some batch.parityData⟩

def header (i : Nat) : NetHeader :=
  if i < batch.dataShards then (batch.packet i).header.setFlag fec true
  else parityHeader batch.source batch.dest

def wire (i : Nat) : NetPacket := ⟨batch.header i, (batch.fecPacket i).encodeToVec⟩

theorem dataShards_pos : 0 < batch.dataShards := List.length_pos_iff.mpr batch.nonempty

theorem parityShards_le : batch.parityShards ≤ 2 := by
  have few : ∀ n ≤ batchSize, VntClient.parityShards n ≤ 2 := by decide
  exact few _ batch.bounded

theorem dataShards_le : batch.dataShards ≤ 10 := batch.bounded

theorem parityShards_pos : 0 < batch.parityShards := VntClient.parityShards_pos _

theorem total_le : batch.total ≤ 12 := Nat.add_le_add batch.dataShards_le batch.parityShards_le

theorem shards_length : batch.shards.length = batch.dataShards := List.length_map _

theorem padded_length : (padded batch.shards).length = batch.dataShards :=
  (List.length_map _).trans batch.shards_length

variable {batch}

theorem packet_mem {i : Nat} (inside : i < batch.dataShards) : batch.packet i ∈ batch.packets := by
  rw [packet, List.getD_eq_getElem _ _ inside]
  exact List.getElem_mem inside

theorem fecData_length (header : NetHeader) (payload : Bytes) :
    (fecData header payload).length = payload.length + 4 := by
  simp [fecData]

theorem shard_mem {i : Nat} (inside : i < batch.dataShards) :
    fecData (batch.packet i).header (batch.packet i).payload ∈ batch.shards :=
  List.mem_map_of_mem (packet_mem inside)

theorem maxLength_fecData (packets : List NetPacket) (nonempty : packets ≠ []) :
    maxLength (packets.map fun packet => fecData packet.header packet.payload) =
      (packets.map fun packet => packet.payload.length).foldr max 0 + 4 := by
  induction packets with
  | nil => exact absurd rfl nonempty
  | cons packet rest ih =>
      cases rest with
      | nil => simp [maxLength, fecData_length]
      | cons next rest =>
          have tail := ih (by simp)
          simp only [maxLength, List.map_cons, List.foldr_cons, fecData_length] at tail ⊢
          omega

theorem width_eq : batch.width = batch.longest + 4 := maxLength_fecData _ batch.nonempty

theorem payload_le_longest {i : Nat} (inside : i < batch.dataShards) :
    (batch.packet i).payload.length ≤ batch.longest := by
  have bound := length_le_maxLength (shard_mem inside)
  rw [fecData_length, ← width, width_eq] at bound
  omega

theorem longest_attained : ∃ packet ∈ batch.packets, packet.payload.length = batch.longest := by
  have attained : ∀ packets : List NetPacket, packets ≠ [] →
      ∃ packet ∈ packets, packet.payload.length =
        (packets.map fun packet => packet.payload.length).foldr max 0 := by
    intro packets nonempty
    induction packets with
    | nil => exact absurd rfl nonempty
    | cons packet rest ih =>
        by_cases last : rest = []
        · exact ⟨packet, by simp, by simp [last]⟩
        · obtain ⟨other, member, length⟩ := ih last
          rw [List.map_cons, List.foldr_cons, ← length]
          rcases Nat.le_total packet.payload.length other.payload.length with shorter | longer
          · exact ⟨other, by simp [member], (Nat.max_eq_right shorter).symm⟩
          · exact ⟨packet, by simp, (Nat.max_eq_left longer).symm⟩
  exact attained _ batch.nonempty

theorem width_bounds : 4 ≤ batch.width ∧ batch.width ≤ 65539 := by
  obtain ⟨packet, member, length⟩ := batch.longest_attained
  have size := batch.sizes packet member
  rw [width_eq]
  omega

theorem codeword_length (i : Nat) : (batch.codeword i).length = batch.width :=
  ReedSolomon.codeword_length (padded_uniform _) i

/-- A data position of the codeword is the padded buffer of its packet. -/
theorem codeword_data {i : Nat} (inside : i < batch.dataShards) :
    batch.codeword i = fecData (batch.packet i).header (batch.packet i).payload ++
      List.replicate (batch.longest - (batch.packet i).payload.length) 0 := by
  have covered := payload_le_longest inside
  have width := batch.width_eq
  unfold Batch.width Batch.shards at width
  rw [codeword, ReedSolomon.codeword, padded_length, if_pos inside]
  rw [dataShards] at inside
  simp only [padded, shards, List.getD_eq_getElem?_getD, List.getElem?_map, packet,
    List.getElem?_eq_getElem inside, Option.map_some, Option.getD_some, extendEnd, fecData_length,
    width]
  congr 2
  omega

theorem index_toNat {i : Nat} (inside : i < batch.total) : (UInt32.ofNat i).toNat = i := by
  have few := batch.total_le
  rw [UInt32.toNat_ofNat']
  omega

theorem fecPacket_index {i : Nat} (inside : i < batch.total) :
    (batch.fecPacket i).packetIndex.toNat = i := by
  have index := index_toNat inside
  unfold fecPacket
  split <;> exact index

theorem parityData_toNat : batch.parityData.dataShards.toNat = batch.dataShards ∧
    batch.parityData.parityShards.toNat = batch.parityShards := by
  have few := batch.total_le
  unfold total at few
  simp only [parityData, UInt32.toNat_ofNat']
  omega

theorem decode_wire (i : Nat) :
    FecPacket.decode (batch.wire i).payload = some (batch.fecPacket i) := by
  apply FecPacket.decode_encodeToVec
  have bounds := batch.width_bounds
  unfold fecPacket
  split
  · rename_i early
    have size := batch.sizes _ (packet_mem early)
    simp only
    omega
  · rw [codeword_length]
    omega

end Batch

namespace FecEncoder

def encodeAll (encoder : FecEncoder) (clock : Nat → Instant) :
    List NetPacket → Outcome (FecEncoder × List NetPacket)
  | [] => .ok (encoder, [])
  | packet :: rest => do
      let encoded ← encoder.encode (clock rest.length) packet
      let later ← encodeAll encoded.1 clock rest
      pure (later.1, encoded.2 :: later.2)

/-- The batch the worker takes up next for a destination: a full one from the
channel, else one whose deadline has passed. -/
def handed (encoder : FecEncoder) (now : Instant) (dest : Ipv4Addr) : Option BatchItem :=
  match encoder.recv with
  | some (item, _) => some item
  | none => (encoder.tick now).1.find? fun item => item.dest == dest

end FecEncoder

structure IdleEncoder (batch : Batch) where
  encoder : FecEncoder
  drained : encoder.channel = []
  ready : ∀ now, ∃ deadline, encoder.stateOf now batch.source batch.dest =
    ⟨batch.groupId, [], deadline, batch.source⟩

/-- All the packets the encoder and its worker send for the batch. The worker
looks `delay` after the deadline of the batch. -/
def Batch.transmit (batch : Batch) (idle : IdleEncoder batch) (clock : Nat → Instant)
    (delay : Nat) : Outcome (List NetPacket) := do
  let encoded ← idle.encoder.encodeAll clock batch.packets
  let deadline := (encoded.1.stateOf 0 batch.source batch.dest).deadline
  match encoded.1.handed (deadline + delay) batch.dest with
  | none => .err "no batch"
  | some item =>
      let parity ← encodeAndSendParity item
      pure (encoded.2 ++ parity)

namespace Batch
variable {batch : Batch}

structure Holds (batch : Batch) (encoder : FecEncoder) (before : List NetPacket) : Prop where
  drained : encoder.channel = []
  ready : ∀ now, ∃ deadline, encoder.stateOf now batch.source batch.dest =
    ⟨batch.groupId, before.map fun packet => fecData packet.header packet.payload, deadline,
      batch.source⟩

theorem stateOf_insert (states : AList fun _ : Ipv4Addr => DestBatchState)
    (channel : List BatchItem) (now : Instant) (src dest : Ipv4Addr) (state : DestBatchState) :
    FecEncoder.stateOf ⟨states.insert dest state, channel⟩ now src dest = state := by
  simp [FecEncoder.stateOf, AList.lookup_insert]

theorem dataWire {before rest : List NetPacket} {packet : NetPacket}
    (split : batch.packets = before ++ packet :: rest) :
    batch.wire before.length = ⟨packet.header.setFlag fec true,
      FecPacket.encodeToVec ⟨batch.groupId, UInt32.ofNat before.length, packet.payload, none⟩⟩ := by
  have inside : before.length < batch.dataShards := by
    simp [dataShards, split]
  have here : batch.packet before.length = packet := by
    simp [Batch.packet, split]
  rw [wire, header, fecPacket, if_pos inside, if_pos inside, here]

theorem encode_step {encoder : FecEncoder} {before rest : List NetPacket} {packet : NetPacket}
    (now : Instant) (holds : Holds batch encoder before)
    (split : batch.packets = before ++ packet :: rest) :
    ∃ encoder', encoder.encode now packet = .ok (encoder', batch.wire before.length) ∧
      (before.length + 1 < batchSize → Holds batch encoder' (before ++ [packet])) ∧
      (before.length + 1 = batchSize → encoder'.channel = [batch.item]) := by
  have member : packet ∈ batch.packets := by rw [split]; simp
  have size := batch.sizes packet member
  obtain ⟨deadline, state⟩ := holds.ready now
  rw [FecEncoder.encode_ok encoder now packet size, batch.fromSource packet member,
    batch.toDest packet member, state, dataWire split, List.length_map]
  refine ⟨_, rfl, ?_, ?_⟩
  · intro short
    rw [FecEncoder.push_partial _ _ _ _ _ _ (by simpa using short)]
    exact ⟨holds.drained, fun _ => ⟨deadline, by rw [stateOf_insert]; simp⟩⟩
  · intro full
    have last : rest = [] := by
      have bounded := batch.bounded
      rw [split, List.length_append, List.length_cons] at bounded
      exact List.length_eq_zero_iff.mp (by omega)
    rw [FecEncoder.push_full _ _ _ _ _ _ (by simp [full])]
    simp [FecEncoder.trySend, batchChannelSize, holds.drained, item, shards, split, last]

theorem encodeAll_batch (clock : Nat → Instant) (before rest : List NetPacket)
    (split : batch.packets = before ++ rest) (nonfull : before.length < batchSize)
    (encoder : FecEncoder) (holds : Holds batch encoder before) :
    ∃ encoder', encoder.encodeAll clock rest =
        .ok (encoder', (List.range' before.length rest.length).map batch.wire) ∧
      (batch.dataShards < batchSize → Holds batch encoder' batch.packets) ∧
      (batch.dataShards = batchSize → encoder'.channel = [batch.item]) := by
  induction rest generalizing before encoder with
  | nil =>
      rw [List.append_nil] at split
      refine ⟨encoder, rfl, fun _ => split ▸ holds, fun full => ?_⟩
      rw [dataShards, split] at full
      omega
  | cons packet rest ih =>
      obtain ⟨next, encoded, kept, full⟩ := encode_step (clock rest.length) holds split
      have size : batch.dataShards = before.length + rest.length + 1 := by
        simp only [dataShards, split, List.length_append, List.length_cons]; omega
      by_cases more : before.length + 1 < batchSize
      · obtain ⟨last, tail, held, handed⟩ := ih (before ++ [packet]) (by simp [split])
          (by simpa using more) next (kept more)
        refine ⟨last, ?_, held, handed⟩
        simp only [FecEncoder.encodeAll, encoded, Outcome.ok_bind, tail, Outcome.pure_eq,
          List.length_append, List.length_cons, List.length_nil, List.range'_succ, List.map_cons]
      · have bounded := batch.dataShards_le
        have end_ : rest = [] := by
          apply List.length_eq_zero_iff.mp
          unfold batchSize at nonfull more
          omega
        subst end_
        have filled : before.length + 1 = batchSize := by omega
        refine ⟨next, ?_, fun short => ?_, fun _ => full filled⟩
        · simp only [List.length_nil] at encoded
          simp only [FecEncoder.encodeAll, List.length_nil, encoded, Outcome.ok_bind,
            Outcome.pure_eq, List.length_cons, List.range'_succ, List.range'_zero, List.map_cons,
            List.map_nil]
        · simp only [List.length_nil] at size
          omega

theorem handed_batch {encoder : FecEncoder} (now : Instant)
    (kept : batch.dataShards < batchSize → Holds batch encoder batch.packets)
    (full : batch.dataShards = batchSize → encoder.channel = [batch.item])
    (due : (encoder.stateOf 0 batch.source batch.dest).deadline ≤ now) :
    encoder.handed now batch.dest = some batch.item := by
  by_cases short : batch.dataShards < batchSize
  · have holds := kept short
    obtain ⟨deadline, state⟩ := holds.ready 0
    rw [state] at due
    have held : encoder.batchStates.lookup batch.dest =
        some ⟨batch.groupId, batch.shards, deadline, batch.source⟩ := by
      unfold FecEncoder.stateOf at state
      cases found : encoder.batchStates.lookup batch.dest with
      | some value =>
          simp only [found, Option.getD_some] at state
          rw [state]
          rfl
      | none =>
          have empty := congrArg DestBatchState.currentBatch state
          simp only [found, Option.getD_none] at empty
          exact absurd (List.map_eq_nil_iff.mp empty.symm) batch.nonempty
    have entry := AList.mem_lookup_iff.mp held
    have expired : FecEncoder.expired now
        ⟨batch.groupId, batch.shards, deadline, batch.source⟩ = true := by
      simp [FecEncoder.expired, shards, batch.nonempty, due]
    have member : batch.item ∈ (encoder.tick now).1 :=
      List.mem_filterMap.mpr ⟨_, entry, by simp [expired, item]⟩
    have found : ((encoder.tick now).1.find? fun item => item.dest == batch.dest).isSome :=
      List.find?_isSome.mpr ⟨_, member, by simp [item]⟩
    obtain ⟨taken, hit⟩ := Option.isSome_iff_exists.mp found
    obtain ⟨entry', inside, made⟩ := List.mem_filterMap.mp (List.mem_of_find?_eq_some hit)
    have sameDest := List.find?_some hit
    split at made
    · cases made
      rw [beq_iff_eq] at sameDest
      simp only at sameDest
      have lookup : encoder.batchStates.lookup entry'.1 = some entry'.2 :=
        AList.mem_lookup_iff.mpr inside
      rw [sameDest, held, Option.some.injEq] at lookup
      simp only [FecEncoder.handed, FecEncoder.recv, holds.drained, hit, ← lookup, item, sameDest]
    · cases made
  · have bounded := batch.dataShards_le
    have item := full (by unfold batchSize at *; omega)
    simp only [FecEncoder.handed, FecEncoder.recv, item]

theorem parity_wires (batch : Batch) :
    encodeAndSendParity batch.item =
      .ok ((List.range batch.parityShards).map fun j => batch.wire (batch.dataShards + j)) := by
  have few := batch.total_le
  have bounds := batch.width_bounds
  have parity := encodeAndSendParity_ok batch.item
    (by simpa [item, shards] using batch.nonempty)
    (by simp only [item, shards_length]; exact Nat.le_trans few (by decide))
    (by show batch.width ≠ 0; omega)
  simp only [item, shards_length] at parity ⊢
  rw [parity]
  congr 1
  apply List.map_congr_left
  intro j _
  have late : ¬ batch.dataShards + j < batch.dataShards := by omega
  simp only [wire, header, fecPacket, late, ↓reduceIte]
  rfl

theorem transmit_ok (idle : IdleEncoder batch) (clock : Nat → Instant) (delay : Nat) :
    batch.transmit idle clock delay = .ok ((List.range batch.total).map batch.wire) := by
  obtain ⟨encoder, encoded, kept, full⟩ := encodeAll_batch clock [] batch.packets rfl (by decide)
    idle.encoder ⟨idle.drained, idle.ready⟩
  have handed := handed_batch ((encoder.stateOf 0 batch.source batch.dest).deadline + delay)
    kept full (Nat.le_add_right _ _)
  simp only [transmit, encoded, Outcome.ok_bind, handed, parity_wires, Outcome.pure_eq,
    List.length_nil]
  rw [total, List.range_add, List.map_append, List.map_map, ← List.range_eq_range']
  rfl

end Batch
end VntClient
