import VntClient.FecBatch

/-!
A group of the decoder that has seen some of a batch's packets. `Tracks` says
which slots are filled and with what; one packet of the batch moves it by one
index. A repair then either finds shards of different lengths and changes
nothing, or hands back every lost packet and closes the group.
-/

namespace VntClient.Batch
variable (batch : Batch)

def arriving (i : Nat) (ttl : UInt8) : NetPacket :=
  ⟨{ batch.header i with ttlByte := ttl }, (batch.fecPacket i).encodeToVec⟩

def direct (i : Nat) (ttl : UInt8) : Option Returned :=
  if i < batch.dataShards then
    some ⟨i, ⟨({ batch.header i with ttlByte := ttl } : NetHeader).setFlag fec false,
      (batch.packet i).payload⟩⟩
  else none

def stored (i : Nat) : Bytes :=
  if i < batch.dataShards then fecData (batch.header i) (batch.packet i).payload
  else batch.codeword i

def paritySeen (seen : List Nat) : Bool := seen.any fun i => decide (batch.dataShards ≤ i)

def dataCount (seen : List Nat) : Nat :=
  (seen.filter fun i => decide (i < batch.dataShards)).length

/-- The group holds the shards of exactly the indices seen. -/
structure Tracks (seen : List Nat) (group : FecGroup) : Prop where
  data : group.dataShards = if batch.paritySeen seen then batch.dataShards else 0
  parity : group.parityShards = if batch.paritySeen seen then batch.parityShards else 0
  count : group.receivedOriginalCount = batch.dataCount seen
  slots : ∀ i, group.receivedShards.getD i none = if i ∈ seen then some (batch.stored i) else none
  narrow : group.receivedShards.length ≤ batch.total
  wide : batch.paritySeen seen = true → batch.total ≤ group.receivedShards.length

/-- The repair's precondition: the shards that arrived are equally long. -/
def Aligned (seen : List Nat) : Prop := ∀ i ∈ seen, (batch.stored i).length = batch.width

/-- Every data packet that arrived and some parity packet is there, or the group
still waits for one of them. -/
def Complete (seen : List Nat) : Prop :=
  batch.paritySeen seen = true ∧ batch.dataCount seen = batch.dataShards

instance (seen : List Nat) : Decidable (batch.Aligned seen) := by
  unfold Aligned; infer_instance

instance (seen : List Nat) : Decidable (batch.Complete seen) := by
  unfold Complete; infer_instance

/-- The next arrival set the repair off: data is missing and enough is there. -/
def Attempts (seen : List Nat) : Prop :=
  batch.paritySeen seen = true ∧ batch.dataCount seen ≠ batch.dataShards ∧
    batch.dataShards ≤ seen.length

instance (seen : List Nat) : Decidable (batch.Attempts seen) := by
  unfold Attempts; infer_instance

variable {batch}

theorem tracks_default (now : Instant) : Tracks batch [] (FecGroup.default now) where
  data := rfl
  parity := rfl
  count := rfl
  slots _ := rfl
  narrow := Nat.zero_le _
  wide absent := by cases absent

theorem Tracks.touch {seen : List Nat} {group : FecGroup} (tracks : Tracks batch seen group)
    (now : Instant) : Tracks batch seen { group with lastUpdate := now } :=
  ⟨tracks.data, tracks.parity, tracks.count, tracks.slots, tracks.narrow, tracks.wide⟩

theorem Tracks.slots_set {seen : List Nat} {group : FecGroup} (tracks : Tracks batch seen group)
    (i length : Nat) (inside : i < max group.receivedShards.length length) (j : Nat) :
    ((grow group.receivedShards length).set i (some (batch.stored i))).getD j none =
      if j ∈ i :: seen then some (batch.stored j) else none := by
  rw [FecGroup.getD_set _ _ _ _ (by rw [FecGroup.grow_length]; exact inside), FecGroup.grow_getD,
    tracks.slots]
  by_cases same : j = i
  · subst same
    simp
  · simp [same]

/-- A data shard goes into its slot and comes out at once; the counts of the batch stay open. -/
theorem Tracks.store_data {seen : List Nat} {group : FecGroup}
    (tracks : Tracks batch seen group) {i : Nat} (inside : i < batch.total)
    (early : i < batch.dataShards) (ttl : UInt8) :
    ∃ group', group.store (batch.arriving i ttl) (batch.fecPacket i) =
        .ok (group', batch.direct i ttl) ∧ Tracks batch (i :: seen) group' := by
  have index := fecPacket_index inside
  have narrow := tracks.narrow
  have notParity : ¬ batch.dataShards ≤ i := by omega
  have same : batch.paritySeen (i :: seen) = batch.paritySeen seen := by
    simp [paritySeen, notParity]
  have packet : batch.fecPacket i =
      ⟨batch.groupId, UInt32.ofNat i, (batch.packet i).payload, none⟩ := if_pos early
  have kept : fecData (batch.arriving i ttl).header (batch.packet i).payload =
      batch.stored i := (if_pos early).symm
  rw [packet] at index ⊢
  simp only [FecGroup.store, index, kept, direct, early, ↓reduceIte]
  rw [NetPacket.setPayload_exact _ _ (by
    simp [NetPacket.setFecFlag, NetPacket.zeroed])]
  simp only [Outcome.ok_bind, Outcome.pure_eq]
  refine ⟨_, rfl, ?_⟩
  constructor
  · rw [same]; exact tracks.data
  · rw [same]; exact tracks.parity
  · simp [tracks.count, dataCount, early]
  · exact tracks.slots_set i (i + 1) (by omega)
  · rw [List.length_set, FecGroup.grow_length]
    omega
  · intro seenBefore
    rw [same] at seenBefore
    have wide := tracks.wide seenBefore
    rw [List.length_set, FecGroup.grow_length]
    omega

/-- A parity shard goes into its slot and fixes the counts, as any earlier one did. -/
theorem Tracks.store_parity {seen : List Nat} {group : FecGroup}
    (tracks : Tracks batch seen group) {i : Nat} (inside : i < batch.total)
    (late : batch.dataShards ≤ i) (ttl : UInt8) :
    ∃ group', group.store (batch.arriving i ttl) (batch.fecPacket i) =
        .ok (group', batch.direct i ttl) ∧ Tracks batch (i :: seen) group' := by
  have index := fecPacket_index inside
  have narrow := tracks.narrow
  have early : ¬ i < batch.dataShards := Nat.not_lt.mpr late
  have seenNow : batch.paritySeen (i :: seen) = true := by simp [paritySeen, late]
  have packet : batch.fecPacket i =
      ⟨batch.groupId, UInt32.ofNat i, batch.codeword i, some batch.parityData⟩ := if_neg early
  have kept : batch.codeword i = batch.stored i := (if_neg early).symm
  obtain ⟨dataNat, parityNat⟩ := batch.parityData_toNat
  have few := batch.total_le
  have limits : ¬ maxNum < batch.dataShards ∧ ¬ maxNum < batch.parityShards := by
    unfold total at few
    unfold maxNum
    omega
  have dataFits : ¬ (group.dataShards ≠ 0 ∧ group.dataShards ≠ batch.dataShards) := by
    rw [tracks.data]; split <;> simp
  have parityFits : ¬ (group.parityShards ≠ 0 ∧ group.parityShards ≠ batch.parityShards) := by
    rw [tracks.parity]; split <;> simp
  have bounded : ¬ batch.dataShards + batch.parityShards ≤ i := by
    unfold total at inside; omega
  rw [packet] at index ⊢
  simp only [FecGroup.store, index, dataNat, parityNat, limits.1, limits.2, bounded, dataFits,
    parityFits, ↓reduceIte, direct, early, kept]
  refine ⟨_, rfl, ?_⟩
  constructor
  · simp [seenNow]
  · simp [seenNow]
  · simp [tracks.count, dataCount, early]
  · exact tracks.slots_set i _ (by unfold total at inside; omega)
  · rw [List.length_set, FecGroup.grow_length]
    unfold total at narrow ⊢
    omega
  · intro _
    rw [List.length_set, FecGroup.grow_length]
    unfold total
    omega

/-- Storing packet `i` adds its index and nothing else. -/
theorem Tracks.store {seen : List Nat} {group : FecGroup}
    (tracks : Tracks batch seen group) {i : Nat} (inside : i < batch.total) (ttl : UInt8) :
    ∃ group', group.store (batch.arriving i ttl) (batch.fecPacket i) =
        .ok (group', batch.direct i ttl) ∧ Tracks batch (i :: seen) group' := by
  rcases Nat.lt_or_ge i batch.dataShards with early | late
  · exact tracks.store_data inside early ttl
  · exact tracks.store_parity inside late ttl

section Repair
variable (batch)

def used (seen : List Nat) : List Nat :=
  ((List.range batch.total).filter fun i => decide (i ∈ seen)).take batch.dataShards

/-- How far the flags byte the decoder keeps is from the one the encoder kept. -/
def shift (i : Nat) : GF256 :=
  ReedSolomon.byteAt (batch.stored i) 1 + ReedSolomon.byteAt (batch.codeword i) 1

def recoveredFlags (seen : List Nat) (m : Nat) : UInt8 :=
  UInt8.ofBitVec (ReedSolomon.byteAt (batch.codeword m) 1 +
    ErasureCode.interpolate ReedSolomon.point (batch.used seen) batch.shift m).bits

def recovered (seen : List Nat) (ttl : UInt8) (m : Nat) : NetPacket :=
  ⟨{ typeByte := (batch.packet m).header.typeByte
     ttlByte := ((ttl &&& 0x0F) <<< 4) ||| ((ttl &&& 0x0F) &&& 0x0F)
     flagsByte := batch.recoveredFlags seen m &&& ~~~fec
     reserved := 0
     seq := 0
     srcId := batch.source
     destId := batch.dest }, (batch.packet m).payload⟩

def lost (seen : List Nat) : List Nat :=
  (List.range batch.dataShards).filter fun m => !decide (m ∈ seen)

def repaired (seen : List Nat) (ttl : UInt8) : List Returned :=
  (batch.lost seen).map fun m => ⟨m, batch.recovered seen ttl m⟩

variable {batch}

theorem header_src {i : Nat} : (batch.header i).srcId = batch.source := by
  unfold header
  split
  · rename_i early
    exact batch.fromSource _ (packet_mem early)
  · rfl

theorem header_dest {i : Nat} : (batch.header i).destId = batch.dest := by
  unfold header
  split
  · rename_i early
    exact batch.toDest _ (packet_mem early)
  · rfl

/-- Away from the flags byte, an aligned shard is the codeword's own. -/
theorem byteAt_stored {seen : List Nat} (aligned : batch.Aligned seen) {i k : Nat}
    (member : i ∈ seen) (other : k ≠ 1) :
    ReedSolomon.byteAt (batch.stored i) k = ReedSolomon.byteAt (batch.codeword i) k := by
  by_cases early : i < batch.dataShards
  · have length := aligned i member
    have full : batch.longest - (batch.packet i).payload.length = 0 := by
      rw [stored, if_pos early, fecData_length, width_eq] at length
      omega
    rw [codeword_data early, full, List.replicate_zero, List.append_nil, stored, if_pos early,
      header, if_pos early]
    rcases k with _ | _ | k
    · rfl
    · exact absurd rfl other
    · rfl
  · rw [stored, if_neg early]

theorem stored_shift (i : Nat) :
    ReedSolomon.byteAt (batch.stored i) 1 =
      ReedSolomon.byteAt (batch.codeword i) 1 + batch.shift i := by
  rw [shift, add_comm, add_assoc, GF256.add_self, add_zero]

theorem used_mem {seen : List Nat} {i : Nat} (member : i ∈ batch.used seen) :
    i ∈ seen ∧ i < batch.total := by
  have inside := List.mem_filter.mp (List.mem_of_mem_take member)
  exact ⟨of_decide_eq_true inside.2, List.mem_range.mp inside.1⟩

theorem used_nodup (seen : List Nat) : (batch.used seen).Nodup :=
  (List.nodup_range.filter _).sublist (List.take_sublist _ _)

theorem present_length {seen : List Nat} (distinct : seen.Nodup)
    (inside : ∀ i ∈ seen, i < batch.total) :
    ((List.range batch.total).filter fun i => decide (i ∈ seen)).length = seen.length := by
  apply List.Perm.length_eq
  rw [List.perm_ext_iff_of_nodup (List.nodup_range.filter _) distinct]
  intro i
  simp only [List.mem_filter, List.mem_range, decide_eq_true_eq]
  exact ⟨fun member => member.2, fun member => ⟨inside i member, member⟩⟩

theorem used_length {seen : List Nat} (distinct : seen.Nodup)
    (inside : ∀ i ∈ seen, i < batch.total) (enough : batch.dataShards ≤ seen.length) :
    (batch.used seen).length = batch.dataShards := by
  rw [used, List.length_take, present_length distinct inside]
  omega

/-- A reconstructed shard is its padded buffer but for the flags byte. -/
theorem shardAt_used {seen : List Nat} (aligned : batch.Aligned seen) (distinct : seen.Nodup)
    (inside : ∀ i ∈ seen, i < batch.total) (enough : batch.dataShards ≤ seen.length) (m : Nat) :
    ReedSolomon.shardAt (batch.used seen) batch.stored batch.width m =
      (batch.codeword m).set 1 (batch.recoveredFlags seen m) := by
  have few := batch.total_le
  have dataFew := batch.dataShards_le
  have knownSmall : ∀ i ∈ batch.used seen, i < 256 := fun i member => by
    have := (used_mem member).2
    omega
  have recover := fun shift k => @ReedSolomon.byteAt_recovered (padded batch.shards) batch.width
    (batch.used seen) (used_nodup seen)
    ((used_length distinct inside enough).trans batch.padded_length.symm) knownSmall
    (by rw [batch.padded_length]; omega) batch.stored shift m k
  apply ReedSolomon.byteAt_ext
  · rw [ReedSolomon.shardAt_length, List.length_set, codeword_length]
  · intro k bound
    rw [ReedSolomon.shardAt_length] at bound
    by_cases flags : k = 1
    · subst flags
      rw [recover batch.shift 1 bound fun i _ => stored_shift i,
        ReedSolomon.byteAt_set_self (by rwa [codeword_length])]
      rfl
    · have same := recover (fun _ => 0) k bound fun i member => by
        rw [add_zero]
        exact byteAt_stored aligned (used_mem member).1 flags
      have nothing : ErasureCode.interpolate ReedSolomon.point (batch.used seen)
          (fun _ => (0 : GF256)) m = 0 := by
        simp [ErasureCode.interpolate]
      rw [same, nothing, add_zero, ReedSolomon.byteAt_set_ne flags]
      rfl

theorem rebuildNetPacket_ok (current : NetPacket) (typeByte flagsByte : UInt8) (payload rest : Bytes)
    (fits : payload.length ≤ 65535) :
    FecGroup.rebuildNetPacket current (typeByte :: flagsByte :: UInt8.ofNat (payload.length / 256) ::
        UInt8.ofNat payload.length :: (payload ++ rest)) =
      .ok ⟨{ typeByte
             ttlByte := (current.ttl <<< 4) ||| (current.ttl &&& 0x0F)
             flagsByte := flagsByte &&& ~~~fec
             reserved := 0
             seq := 0
             srcId := current.srcId
             destId := current.destId }, payload⟩ := by
  have length : fromBeBytes16 (UInt8.ofNat (payload.length / 256)) (UInt8.ofNat payload.length) =
      payload.length := by
    simp only [fromBeBytes16, UInt8.toNat_ofNat']
    omega
  have enough : ¬ (payload ++ rest).length < payload.length := by simp
  simp only [FecGroup.rebuildNetPacket, length, enough, ↓reduceIte, List.take_left]
  rw [NetPacket.setPayload_exact _ _ (by
    simp [NetPacket.setFecFlag, NetPacket.setTtl, NetPacket.setDestId, NetPacket.setSrcId,
      NetPacket.zeroed])]
  rfl

theorem rebuild_recovered {seen : List Nat} (aligned : batch.Aligned seen) (distinct : seen.Nodup)
    (inside : ∀ i ∈ seen, i < batch.total) (enough : batch.dataShards ≤ seen.length)
    (i : Nat) (ttl : UInt8) {m : Nat} (early : m < batch.dataShards) :
    FecGroup.rebuildNetPacket (batch.arriving i ttl)
        (ReedSolomon.shardAt (batch.used seen) batch.stored batch.width m) =
      .ok (batch.recovered seen ttl m) := by
  have fits := batch.sizes _ (packet_mem early)
  rw [shardAt_used aligned distinct inside enough, codeword_data early]
  have rebuilt := rebuildNetPacket_ok (batch.arriving i ttl) (batch.packet m).header.typeByte
    (batch.recoveredFlags seen m) (batch.packet m).payload
    (List.replicate (batch.longest - (batch.packet m).payload.length) 0) fits
  simpa only [fecData, List.cons_append, List.nil_append, List.set_cons_succ, List.set_cons_zero,
    recovered, NetPacket.srcId, NetPacket.destId, NetPacket.ttl, NetHeader.currTtl,
    arriving, header_src, header_dest] using rebuilt

theorem rebuildAll_range (current : NetPacket) (delivered : List Bool) (shard : Nat → Bytes)
    (packet : Nat → NetPacket) (start count : Nat)
    (rebuilt : ∀ m, start ≤ m → m < start + count → delivered.getD m false = false →
      FecGroup.rebuildNetPacket current (shard m) = .ok (packet m)) :
    FecGroup.rebuildAll current delivered start
        ((List.range' start count).map fun m => some (shard m)) =
      .ok (((List.range' start count).filter fun m => !delivered.getD m false).map
        fun m => ⟨m, packet m⟩) := by
  induction count generalizing start with
  | zero => rfl
  | succ count ih =>
      have tail := ih (start + 1) fun m low high => rebuilt m (by omega) (by omega)
      rw [List.range'_succ, List.map_cons, FecGroup.rebuildAll]
      by_cases here : delivered.getD start false = true
      · rw [if_pos here, tail, List.filter_cons_of_neg (by rw [here]; decide)]
      · have absent := Bool.eq_false_iff.mpr here
        rw [if_neg here, rebuilt start (by omega) (by omega) absent, Outcome.ok_bind, tail,
          List.filter_cons_of_pos (by rw [absent]; rfl)]
        rfl

theorem Tracks.length {seen : List Nat} {group : FecGroup} (tracks : Tracks batch seen group)
    (parity : batch.paritySeen seen = true) : group.receivedShards.length = batch.total :=
  Nat.le_antisymm tracks.narrow (tracks.wide parity)

theorem Tracks.presentIndices {seen : List Nat} {group : FecGroup}
    (tracks : Tracks batch seen group) (parity : batch.paritySeen seen = true) :
    ReedSolomon.presentIndices group.receivedShards =
      (List.range batch.total).filter fun i => decide (i ∈ seen) := by
  rw [ReedSolomon.presentIndices, tracks.length parity]
  apply List.filter_congr
  intro i _
  rw [tracks.slots]
  by_cases member : i ∈ seen <;> simp [member]

theorem Tracks.uniform {seen : List Nat} {group : FecGroup} (tracks : Tracks batch seen group)
    (length : Nat) :
    (∀ shard, some shard ∈ group.receivedShards → shard.length = length) ↔
      ∀ i ∈ seen, (batch.stored i).length = length := by
  constructor
  · intro uniform i member
    apply uniform
    apply ReedSolomon.mem_of_getD (i := i)
    rw [tracks.slots, if_pos member]
  · intro aligned shard member
    obtain ⟨i, held⟩ := ReedSolomon.getD_of_mem member
    rw [tracks.slots] at held
    split at held
    · rename_i arrived
      cases held
      exact aligned i arrived
    · cases held

theorem new_ok : ReedSolomon.new batch.dataShards batch.parityShards =
    .ok ⟨batch.dataShards, batch.parityShards⟩ := by
  have data := batch.dataShards_pos
  have parity := batch.parityShards_pos
  have few := batch.total_le
  unfold total at few
  rw [ReedSolomon.new, if_neg (by omega), if_neg (by omega), if_neg (by omega)]

/-- Which data shards a group can hand out without repair. -/
theorem Tracks.delivered {seen : List Nat} {group : FecGroup} (tracks : Tracks batch seen group)
    (parity : batch.paritySeen seen = true) {m : Nat} (early : m < batch.dataShards) :
    ((group.receivedShards.take batch.dataShards).map Option.isSome).getD m false =
      decide (m ∈ seen) := by
  have slot := tracks.slots m
  have covered : m < group.receivedShards.length := by
    rw [tracks.length parity]
    unfold total
    omega
  simp only [List.getD_eq_getElem?_getD, List.getElem?_eq_getElem covered,
    Option.getD_some] at slot
  simp only [List.getD_eq_getElem?_getD, List.getElem?_map, List.getElem?_take, early,
    ↓reduceIte, List.getElem?_eq_getElem covered, Option.map_some, Option.getD_some, slot]
  by_cases member : m ∈ seen <;> simp [member]

theorem Tracks.shardAt_used {seen : List Nat} {group : FecGroup} (tracks : Tracks batch seen group)
    (m : Nat) :
    ReedSolomon.shardAt (batch.used seen)
        (fun i => (group.receivedShards.getD i none).getD []) batch.width m =
      ReedSolomon.shardAt (batch.used seen) batch.stored batch.width m := by
  apply List.map_congr_left
  intro k _
  congr 2
  apply ErasureCode.interpolate_congr
  intro i member
  dsimp only
  rw [tracks.slots, if_pos (used_mem member).1, Option.getD_some]

/-- With equally long shards the repair hands back every lost packet. -/
theorem Tracks.decode_aligned {seen : List Nat} {group : FecGroup}
    (tracks : Tracks batch seen group) (parity : batch.paritySeen seen = true)
    (aligned : batch.Aligned seen) (distinct : seen.Nodup) (inside : ∀ i ∈ seen, i < batch.total)
    (enough : batch.dataShards ≤ seen.length) (i : Nat) (ttl : UInt8) :
    ∃ group', group.decodeWithRs batch.groupId (batch.arriving i ttl) =
        (group', .ok (some (batch.repaired seen ttl))) ∧
      group'.isDone = true ∧ group'.lastUpdate = group.lastUpdate := by
  have data : group.dataShards = batch.dataShards := by rw [tracks.data, if_pos parity]
  have parityCount : group.parityShards = batch.parityShards := by
    rw [tracks.parity, if_pos parity]
  have length := tracks.length parity
  have present := tracks.presentIndices parity
  have bounds := batch.width_bounds
  have positive := batch.dataShards_pos
  have filled := ReedSolomon.reconstruct_uniform ⟨batch.dataShards, batch.parityShards⟩
    batch.width group.receivedShards length (by omega) positive
    ((tracks.uniform batch.width).mpr aligned)
    (by rw [present, present_length distinct inside]; exact enough)
  have shape : (ReedSolomon.fill ⟨batch.dataShards, batch.parityShards⟩ batch.width
      group.receivedShards).take batch.dataShards =
        (List.range batch.dataShards).map fun m => some ((group.receivedShards.getD m none).getD
          (ReedSolomon.shardAt (batch.used seen)
            (fun i => (group.receivedShards.getD i none).getD []) batch.width m)) := by
    rw [ReedSolomon.fill, present, length, ← List.map_take, List.take_range, Nat.min_eq_left
      (by unfold total; omega)]
    rfl
  -- Of the filled slots exactly the lost ones are rebuilt into packets.
  have rebuilt := rebuildAll_range (batch.arriving i ttl)
    ((group.receivedShards.take batch.dataShards).map Option.isSome)
    (fun m => (group.receivedShards.getD m none).getD (ReedSolomon.shardAt (batch.used seen)
      (fun i => (group.receivedShards.getD i none).getD []) batch.width m))
    (batch.recovered seen ttl) 0 batch.dataShards (by
      intro m _ early absent
      rw [Nat.zero_add] at early
      rw [tracks.delivered parity early, decide_eq_false_iff_not] at absent
      rw [tracks.slots, if_neg absent, Option.getD_none, tracks.shardAt_used]
      exact rebuild_recovered aligned distinct inside enough i ttl early)
  have handed : ((List.range batch.dataShards).filter fun m =>
      !((group.receivedShards.take batch.dataShards).map Option.isSome).getD m false) =
        batch.lost seen := by
    apply List.filter_congr
    intro m member
    rw [tracks.delivered parity (List.mem_range.mp member)]
  rw [← List.range_eq_range', handed] at rebuilt
  simp only [FecGroup.decodeWithRs, data, parityCount, length, total, ne_eq, not_true_eq_false,
    ↓reduceIte, new_ok, Outcome.ok_bind, filled, shape, rebuilt]
  refine ⟨_, rfl, ?_, rfl⟩
  simp [FecGroup.isDone, FecGroup.done]
  omega

/-- With shards of different lengths the repair fails and changes nothing. -/
theorem Tracks.decode_misaligned {seen : List Nat} {group : FecGroup}
    (tracks : Tracks batch seen group) (parity : batch.paritySeen seen = true)
    (misaligned : ¬ batch.Aligned seen) (i : Nat) (ttl : UInt8) :
    ∃ result, group.decodeWithRs batch.groupId (batch.arriving i ttl) = (group, result) ∧
      result.isOk = false := by
  have data : group.dataShards = batch.dataShards := by rw [tracks.data, if_pos parity]
  have parityCount : group.parityShards = batch.parityShards := by
    rw [tracks.parity, if_pos parity]
  have length := tracks.length parity
  have refused : ∀ filled, ReedSolomon.reconstruct ⟨batch.dataShards, batch.parityShards⟩
      group.receivedShards ≠ .ok filled := by
    intro filled accepted
    obtain ⟨width, uniform⟩ := ReedSolomon.reconstruct_ok accepted
    have all := (tracks.uniform width).mp uniform
    obtain ⟨i, member, late⟩ := List.any_eq_true.mp parity
    have own : (batch.stored i).length = batch.width := by
      rw [stored, if_neg (by simpa using late), codeword_length]
    exact misaligned fun j inside => (all j inside).trans ((all i member).symm.trans own)
  simp only [FecGroup.decodeWithRs, data, parityCount, length, total, ne_eq, not_true_eq_false,
    ↓reduceIte, new_ok, Outcome.ok_bind]
  cases outcome : ReedSolomon.reconstruct ⟨batch.dataShards, batch.parityShards⟩
      group.receivedShards with
  | ok filled => exact absurd outcome (refused filled)
  | err message => exact ⟨_, rfl, rfl⟩
  | panic => exact ⟨_, rfl, rfl⟩

end Repair

section Receive

def handedBack (result : Option (List Returned)) : List Returned := result.getD []

theorem handedBack_joined (packet : Option Returned) (result : Option (List Returned)) :
    handedBack (FecGroup.joined packet result) = handedBack result ++ packet.toList := by
  cases packet <;> cases result <;> simp [handedBack, FecGroup.joined]

inductive Moves (batch : Batch) (seen : List Nat) (ttl : UInt8) (packet : Option Returned) :
    GroupStep → Prop where
  | completed {group : FecGroup} (complete : batch.Complete seen) (closed : group.isDone = true) :
      Moves batch seen ttl packet ⟨group, .ok (FecGroup.joined packet none), true⟩
  | waiting {group : FecGroup} (incomplete : ¬ batch.Complete seen)
      (early : ¬ batch.Attempts seen) (tracks : Tracks batch seen group) :
      Moves batch seen ttl packet ⟨group, .ok (FecGroup.joined packet none), true⟩
  | repaired {group : FecGroup} (attempts : batch.Attempts seen) (aligned : batch.Aligned seen)
      (closed : group.isDone = true) :
      Moves batch seen ttl packet
        ⟨group, .ok (FecGroup.joined packet (some (batch.repaired seen ttl))), true⟩
  | refused {group : FecGroup} {result : Outcome (Option (List Returned))}
      (attempts : batch.Attempts seen) (misaligned : ¬ batch.Aligned seen)
      (tracks : Tracks batch seen group) (failed : result.isOk = false) :
      Moves batch seen ttl packet ⟨group, result, false⟩

theorem Tracks.isDone_iff {seen : List Nat} {group : FecGroup} (tracks : Tracks batch seen group) :
    group.isDone = true ↔ batch.Complete seen := by
  have positive := batch.dataShards_pos
  rw [FecGroup.isDone, tracks.data, tracks.count, Complete]
  by_cases parity : batch.paritySeen seen = true
  · simp [parity, Nat.pos_iff_ne_zero.mp positive]
  · simp [parity]

/-- Every shard held counts once. -/
theorem Tracks.received {seen : List Nat} {group : FecGroup} (tracks : Tracks batch seen group)
    (parity : batch.paritySeen seen = true) (distinct : seen.Nodup)
    (inside : ∀ i ∈ seen, i < batch.total) :
    (group.receivedShards.filter Option.isSome).length = seen.length := by
  rw [← ReedSolomon.presentIndices_length, tracks.presentIndices parity,
    present_length distinct inside]

/-- `try_decode` of an incomplete group attempts the repair exactly if it may succeed. -/
theorem Tracks.tryDecode {seen : List Nat} {group : FecGroup} (tracks : Tracks batch seen group)
    (distinct : seen.Nodup) (inside : ∀ i ∈ seen, i < batch.total)
    (incomplete : ¬ batch.Complete seen) (packet : NetPacket) :
    group.tryDecode batch.groupId packet =
      if batch.Attempts seen then group.decodeWithRs batch.groupId packet
      else (group, .ok none) := by
  have positive := batch.dataShards_pos
  by_cases parity : batch.paritySeen seen = true
  · have received := tracks.received parity distinct inside
    have missing : batch.dataCount seen ≠ batch.dataShards := fun all => incomplete ⟨parity, all⟩
    have data := tracks.data
    rw [if_pos parity] at data
    have count := tracks.count
    simp only [FecGroup.tryDecode, Attempts, parity, true_and] at data count received ⊢
    rw [data, count, received, if_neg (by omega), if_neg missing]
    by_cases enough : batch.dataShards ≤ seen.length
    · rw [if_neg (by omega), if_pos ⟨missing, enough⟩]
    · rw [if_pos (by omega), if_neg fun attempts => enough attempts.2]
  · have data := tracks.data
    rw [if_neg parity] at data
    rw [FecGroup.tryDecode, if_pos data, if_neg fun attempts => parity attempts.1]

theorem Tracks.settle {seen : List Nat} {group : FecGroup} (tracks : Tracks batch seen group)
    (distinct : seen.Nodup) (inside : ∀ i ∈ seen, i < batch.total) (now : Instant) (i : Nat)
    (ttl : UInt8) (packet : Option Returned) :
    Moves batch seen ttl packet
        (group.settle now batch.groupId (batch.arriving i ttl) packet) ∧
      (group.settle now batch.groupId (batch.arriving i ttl) packet).group.lastUpdate = now := by
  have touched := tracks.touch now
  by_cases complete : batch.Complete seen
  · have done := touched.isDone_iff.mpr complete
    rw [FecGroup.settle, if_pos done]
    refine ⟨Moves.completed complete ?_, rfl⟩
    simp only [FecGroup.isDone, FecGroup.done, Bool.and_eq_true, bne_iff_ne] at done ⊢
    exact ⟨done.1, by simp⟩
  · have notDone := mt touched.isDone_iff.mp complete
    rw [FecGroup.settle, if_neg notDone]
    rw [touched.tryDecode distinct inside complete]
    by_cases attempts : batch.Attempts seen
    · rw [if_pos attempts]
      by_cases aligned : batch.Aligned seen
      · obtain ⟨group', decoded, closed, updated⟩ := touched.decode_aligned attempts.1 aligned
          distinct inside attempts.2.2 i ttl
        rw [decoded]
        exact ⟨Moves.repaired attempts aligned closed, updated⟩
      · obtain ⟨result, decoded, failed⟩ := touched.decode_misaligned attempts.1 aligned i ttl
        rw [decoded]
        cases result with
        | ok result => cases failed
        | err message => exact ⟨Moves.refused attempts aligned touched rfl, rfl⟩
        | panic => exact ⟨Moves.refused attempts aligned touched rfl, rfl⟩
    · rw [if_neg attempts]
      exact ⟨Moves.waiting complete attempts touched, rfl⟩

/-- One packet not seen before, received by a group that still waits. -/
theorem Tracks.receive {seen : List Nat} {group : FecGroup} (tracks : Tracks batch seen group)
    (waiting : ¬ batch.Complete seen) (distinct : seen.Nodup)
    (inside : ∀ i ∈ seen, i < batch.total) (now : Instant) {i : Nat} (bounded : i < batch.total)
    (fresh : i ∉ seen) (ttl : UInt8) :
    Moves batch (i :: seen) ttl (batch.direct i ttl)
        (group.receive now (batch.arriving i ttl) (batch.fecPacket i)) ∧
      (group.receive now (batch.arriving i ttl) (batch.fecPacket i)).group.lastUpdate = now := by
  obtain ⟨group', kept, stored⟩ := tracks.store bounded ttl
  have empty : (group.receivedShards.getD (batch.fecPacket i).packetIndex.toNat none).isSome =
      false := by
    rw [fecPacket_index bounded, tracks.slots, if_neg fresh]
    rfl
  have groupId : (batch.fecPacket i).groupId = batch.groupId := by
    unfold fecPacket
    split <;> rfl
  have notDone := mt tracks.isDone_iff.mp waiting
  rw [FecGroup.receive, if_neg notDone, if_neg (by rw [empty]; decide), kept, groupId]
  apply stored.settle (List.nodup_cons.mpr ⟨fresh, distinct⟩)
  intro j member
  rcases List.mem_cons.mp member with rfl | member
  · exact bounded
  · exact inside j member

/-- A packet seen before, or one for a closed group, is dropped. -/
theorem Tracks.receive_again {seen : List Nat} {group : FecGroup} (tracks : Tracks batch seen group)
    (now : Instant) {i : Nat} (bounded : i < batch.total) (again : i ∈ seen) (ttl : UInt8) :
    group.receive now (batch.arriving i ttl) (batch.fecPacket i) = ⟨group, .ok none, false⟩ := by
  rw [FecGroup.receive]
  split
  · rfl
  · rw [fecPacket_index bounded, tracks.slots, if_pos again]
    rfl

theorem receive_closed {group : FecGroup} (closed : group.isDone = true) (now : Instant)
    (netPacket : NetPacket) (fecPacket : FecPacket) :
    group.receive now netPacket fecPacket = ⟨group, .ok none, false⟩ := by
  rw [FecGroup.receive, if_pos closed]

end Receive
end VntClient.Batch
