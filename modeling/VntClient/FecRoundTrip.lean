import VntClient.FecRecovery

/-!
What a repaired batch gives back: when every payload of a batch comes out of the
decoder, and when the headers do.
-/

namespace VntClient.Batch
variable {batch : Batch}

section Returned

theorem returnedBy_append (first second : List Received) :
    returnedBy (first ++ second) = returnedBy first ++ returnedBy second := List.flatMap_append

theorem returnedBy_passed (order : List Delivery) :
    returnedBy (order.map batch.passed) =
      order.flatMap fun delivery => (batch.direct delivery.index delivery.ttl).toList := by
  rw [returnedBy, List.flatMap_map]
  congr 1
  funext delivery
  exact handedBack_joined _ none

theorem returnedBy_none (order : List Delivery) :
    returnedBy (order.map fun _ => (.ok none : Received)) = [] := by
  rw [returnedBy, List.flatMap_map]
  exact List.flatMap_eq_nil_iff.mpr fun _ _ => rfl

theorem direct_eq {i : Nat} {ttl : UInt8} {entry : Returned}
    (unwrapped : entry ∈ (batch.direct i ttl).toList) :
    i < batch.dataShards ∧ entry = ⟨i, ⟨({ batch.header i with ttlByte := ttl } : NetHeader).setFlag
      fec false, (batch.packet i).payload⟩⟩ := by
  unfold direct at unwrapped
  split at unwrapped
  · rename_i early
    exact ⟨early, by simpa using unwrapped⟩
  · cases unwrapped

theorem direct_index (i : Nat) (ttl : UInt8) :
    (batch.direct i ttl).toList.map Returned.index =
      [i].filter fun i => decide (i < batch.dataShards) := by
  by_cases early : i < batch.dataShards <;> simp [direct, early]

theorem direct_indices (order : List Delivery) :
    (order.flatMap fun delivery => (batch.direct delivery.index delivery.ttl).toList).map
        Returned.index =
      (order.map Delivery.index).filter fun i => decide (i < batch.dataShards) := by
  induction order with
  | nil => rfl
  | cons delivery rest ih =>
      rw [List.flatMap_cons, List.map_append, ih, direct_index, ← List.filter_append]
      rfl

theorem repaired_index (seen : List Nat) (ttl : UInt8) :
    (batch.repaired seen ttl).map Returned.index = batch.lost seen := by
  rw [repaired, List.map_map]
  exact List.map_id _

theorem mem_lost {seen : List Nat} {m : Nat} :
    m ∈ batch.lost seen ↔ m < batch.dataShards ∧ m ∉ seen := by
  simp [lost]

/-- With nothing but data among the first arrivals, nothing is lost. -/
theorem lost_early (arrivals : Arrivals batch)
    (early : ∀ i ∈ arrivals.first, i < batch.dataShards) {m : Nat} (inside : m < batch.dataShards) :
    m ∈ arrivals.first := by
  have fits : arrivals.first ⊆ List.range batch.dataShards := fun i member =>
    List.mem_range.mpr (early i member)
  have whole := (List.Nodup.subperm (first_nodup arrivals) fits).perm_of_length_le
    (by rw [List.length_range, first_length])
  exact whole.symm.subset (List.mem_range.mpr inside)

/-- Everything handed back when no call fails: each data packet once, unwrapped
from itself or repaired from the first arrivals. -/
structure HandsBack (arrivals : Arrivals batch) (ttl : UInt8) (results : List Received) : Prop where
  accepted : ∀ result ∈ results, result.isOk = true
  indices : ((returnedBy results).map Returned.index).Perm (List.range batch.dataShards)
  sources : ∀ entry ∈ returnedBy results, (∃ i ttl, entry ∈ (batch.direct i ttl).toList) ∨
    entry ∈ batch.repaired arrivals.first.reverse ttl
  repairs : ∀ entry ∈ batch.repaired arrivals.first.reverse ttl, entry ∈ returnedBy results

theorem hands_back_direct (arrivals : Arrivals batch) (start : Instant)
    (early : ∀ i ∈ arrivals.first, i < batch.dataShards) :
    HandsBack arrivals 0 ((FecDecoder.new start).receiveAll (batch.carried arrivals.order)) := by
  rw [results_direct arrivals start early]
  constructor
  · intro result member
    obtain ⟨delivery, _, rfl⟩ := List.mem_map.mp member
    rfl
  · rw [returnedBy_passed, direct_indices,
      List.perm_ext_iff_of_nodup (arrivals.distinct.filter _) List.nodup_range]
    intro i
    rw [List.mem_filter, List.mem_range, decide_eq_true_eq]
    exact ⟨fun member => member.2, fun inside =>
      ⟨List.mem_of_mem_take (lost_early arrivals early inside), inside⟩⟩
  · intro entry member
    rw [returnedBy_passed] at member
    obtain ⟨delivery, _, unwrapped⟩ := List.mem_flatMap.mp member
    exact Or.inl ⟨_, _, unwrapped⟩
  · intro entry member
    obtain ⟨m, missing, _⟩ := List.mem_map.mp member
    obtain ⟨inside, absent⟩ := mem_lost.mp missing
    exact absurd (List.mem_reverse.mpr (lost_early arrivals early inside)) absent

theorem hands_back_repaired (arrivals : Arrivals batch) (start : Instant)
    (parity : ∃ i ∈ arrivals.first, batch.dataShards ≤ i)
    (aligned : batch.Aligned arrivals.first.reverse) :
    ∃ ttl, HandsBack arrivals ttl
      ((FecDecoder.new start).receiveAll (batch.carried arrivals.order)) := by
  obtain ⟨before, last, after, shape, first, run⟩ :=
    results_repaired arrivals start parity aligned
  have all : returnedBy ((FecDecoder.new start).receiveAll (batch.carried arrivals.order)) =
      (before.flatMap fun delivery => (batch.direct delivery.index delivery.ttl).toList) ++
        (batch.repaired arrivals.first.reverse last.ttl ++
          (batch.direct last.index last.ttl).toList) := by
    have tail := returnedBy_none after
    rw [run, returnedBy_append, returnedBy_passed]
    congr 1
    rw [returnedBy, List.flatMap_cons]
    rw [returnedBy] at tail
    rw [tail, List.append_nil]
    exact handedBack_joined _ _
  refine ⟨last.ttl, ?_, ?_, ?_, ?_⟩
  · intro result member
    rw [run] at member
    rcases List.mem_append.mp member with early | late
    · obtain ⟨delivery, _, rfl⟩ := List.mem_map.mp early
      rfl
    · rcases List.mem_cons.mp late with rfl | late
      · rfl
      · obtain ⟨delivery, _, rfl⟩ := List.mem_map.mp late
        rfl
  · have kept : (arrivals.first.filter fun i => decide (i < batch.dataShards)).Perm
        ((List.range batch.dataShards).filter fun m => decide (m ∈ arrivals.first.reverse)) := by
      rw [List.perm_ext_iff_of_nodup ((first_nodup arrivals).filter _) (List.nodup_range.filter _)]
      intro i
      simp only [List.mem_filter, List.mem_range, decide_eq_true_eq, List.mem_reverse]
      exact and_comm
    rw [all, List.map_append, List.map_append, direct_indices, repaired_index, direct_index]
    refine ((List.perm_append_comm).append_left _).trans ?_
    rw [← List.append_assoc, ← List.filter_append, ← first]
    exact (kept.append_right _).trans (List.filter_append_perm _ _)
  · intro entry member
    rw [all] at member
    rcases List.mem_append.mp member with early | late
    · obtain ⟨delivery, _, unwrapped⟩ := List.mem_flatMap.mp early
      exact Or.inl ⟨_, _, unwrapped⟩
    · rcases List.mem_append.mp late with repaired | unwrapped
      · exact Or.inr repaired
      · exact Or.inl ⟨_, _, unwrapped⟩
  · intro entry member
    rw [all]
    exact List.mem_append_right _ (List.mem_append_left _ member)

end Returned

section Payloads

/-- No call failed, and every packet of the batch was handed back once, under
its index and with its own payload. -/
structure Recovered (batch : Batch) (results : List Received) : Prop where
  accepted : ∀ result ∈ results, result.isOk = true
  once : ((returnedBy results).map fun entry => (entry.index, entry.packet.payload)).Perm
    ((List.range batch.dataShards).map fun i => (i, (batch.packet i).payload))

def Recovers (batch : Batch) (idle : IdleEncoder batch) (clock : Nat → Instant) (delay : Nat)
    (arrivals : Arrivals batch) (start : Instant) : Prop :=
  match batch.results idle clock delay arrivals start with
  | .ok results => Recovered batch results
  | _ => False

theorem HandsBack.recovered {arrivals : Arrivals batch} {ttl : UInt8} {results : List Received}
    (back : HandsBack arrivals ttl results) : Recovered batch results := by
  refine ⟨back.accepted, ?_⟩
  have own : ∀ entry ∈ returnedBy results,
      (entry.index, entry.packet.payload) = (entry.index, (batch.packet entry.index).payload) := by
    intro entry member
    rcases back.sources entry member with ⟨i, ttl, unwrapped⟩ | repaired
    · obtain ⟨_, rfl⟩ := direct_eq unwrapped
      rfl
    · obtain ⟨m, _, rfl⟩ := List.mem_map.mp repaired
      rfl
  rw [List.map_congr_left own]
  have mapped := back.indices.map fun i => (i, (batch.packet i).payload)
  rwa [List.map_map] at mapped

theorem aligned_iff (seen : List Nat) :
    batch.Aligned seen ↔
      ∀ i ∈ seen, i < batch.dataShards → (batch.packet i).payload.length = batch.longest := by
  apply forall_congr'
  intro i
  apply forall_congr'
  intro _
  by_cases early : i < batch.dataShards
  · simp only [stored, early, ↓reduceIte, fecData_length, width_eq, forall_const]
    omega
  · simp only [stored, early, ↓reduceIte, codeword_length, false_implies]

/-- The batch comes back whole exactly when the first arrivals are its data
packets or when every data packet among them is as long as the longest. -/
theorem recovers_iff (idle : IdleEncoder batch) (clock : Nat → Instant) (delay : Nat)
    (arrivals : Arrivals batch) (start : Instant) :
    batch.Recovers idle clock delay arrivals start ↔
      (∀ i ∈ arrivals.first, i < batch.dataShards) ∨
        ∀ i ∈ arrivals.first, i < batch.dataShards →
          (batch.packet i).payload.length = batch.longest := by
  have mirrored : batch.Aligned arrivals.first.reverse ↔ ∀ i ∈ arrivals.first,
      i < batch.dataShards → (batch.packet i).payload.length = batch.longest := by
    rw [aligned_iff]
    simp only [List.mem_reverse]
  rw [Recovers, results_ok, ← mirrored]
  by_cases early : ∀ i ∈ arrivals.first, i < batch.dataShards
  · exact iff_of_true (hands_back_direct arrivals start early).recovered (Or.inl early)
  · have parity : ∃ i ∈ arrivals.first, batch.dataShards ≤ i := by
      simpa using early
    by_cases aligned : batch.Aligned arrivals.first.reverse
    · obtain ⟨ttl, back⟩ := hands_back_repaired arrivals start parity aligned
      exact iff_of_true back.recovered (Or.inr aligned)
    · obtain ⟨result, member, failed⟩ := results_refused arrivals start parity aligned
      refine iff_of_false (fun recovered => ?_) (not_or.mpr ⟨early, aligned⟩)
      have accepted := recovered.accepted result member
      rw [failed] at accepted
      cases accepted

def turnHeader : NetHeader := ⟨0x81, 0x55, 0, 0, 0, 0x0A1A0002, 0x0A1A0003⟩

def unevenPair : Batch where
  source := 0x0A1A0002
  dest := 0x0A1A0003
  groupId := 0
  packets := [⟨turnHeader, [7]⟩, ⟨turnHeader, [8, 9]⟩]
  nonempty := by decide
  bounded := by decide
  fromSource := by decide
  toDest := by decide
  sizes := by decide

def freshEncoder (batch : Batch) (first : batch.groupId = 0) : IdleEncoder batch where
  encoder := FecEncoder.new
  drained := rfl
  ready now := ⟨now + fromMillis batchTimeoutMs, by rw [first]; rfl⟩

/-- The second packet is lost; the first arrives, then the parity. -/
def shortThenParity : Arrivals unevenPair where
  order := [⟨0, 0x54, 0⟩, ⟨0, 0x54, 2⟩]
  distinct := by decide
  inside := by decide
  enough := by decide
  parity := ⟨⟨0, 0x54, 2⟩, by simp, by decide⟩

theorem uneven_pair_not_recovered :
    ¬ unevenPair.Recovers (freshEncoder unevenPair rfl) (fun _ => 0) 0 shortThenParity 0 := by
  rw [Recovers, results_ok]
  intro recovered
  have failed : ((FecDecoder.new 0).receiveAll (unevenPair.carried shortThenParity.order)).all
      Outcome.isOk = false := by decide +kernel
  rw [List.all_eq_true.mpr recovered.accepted] at failed
  cases failed

end Payloads

section Headers

structure Even extends Batch where
  even : ∀ left ∈ packets, ∀ right ∈ packets, left.payload.length = right.payload.length

/-- Every packet handed back has the header bytes its original went into `encode`
with, FEC bit cleared. -/
def HeadersKept (batch : Batch) (results : List Received) : Prop :=
  ∀ entry ∈ returnedBy results,
    entry.packet.header.typeByte = (batch.packet entry.index).header.typeByte ∧
      entry.packet.header.flagsByte = (batch.packet entry.index).header.flagsByte &&& ~~~fec ∧
      entry.packet.srcId = (batch.packet entry.index).srcId ∧
      entry.packet.destId = (batch.packet entry.index).destId

def RestoresHeaders (batch : Batch) (idle : IdleEncoder batch) (clock : Nat → Instant)
    (delay : Nat) (arrivals : Arrivals batch) (start : Instant) : Prop :=
  match batch.results idle clock delay arrivals start with
  | .ok results => HeadersKept batch results
  | _ => False

def marks (batch : Batch) (i : Nat) : GF256 :=
  if i < batch.dataShards ∧ (batch.packet i).isFec = false then 1 else 0

theorem Even.aligned (batch : Even) (seen : List Nat) : batch.Aligned seen := by
  rw [aligned_iff]
  intro i _ early
  obtain ⟨packet, member, longest⟩ := batch.longest_attained
  rw [← longest]
  exact batch.even _ (packet_mem early) _ member

theorem shift_eq (i : Nat) : batch.shift i = ⟨0x20⟩ * batch.marks i := by
  have flags : ∀ byte : UInt8, (byte ||| fec).toBitVec ^^^ byte.toBitVec =
      if (byte &&& fec != 0) = false then 0x20 else 0 := by decide +kernel
  unfold shift
  by_cases early : i < batch.dataShards
  · have before : ReedSolomon.byteAt (batch.codeword i) 1 =
        ⟨(batch.packet i).header.flagsByte.toBitVec⟩ := by
      rw [codeword_data early]
      rfl
    have after : ReedSolomon.byteAt (batch.stored i) 1 =
        ⟨((batch.packet i).header.flagsByte ||| fec).toBitVec⟩ := by
      rw [stored, if_pos early, header, if_pos early]
      rfl
    ext1
    rw [before, after, GF256.add_bits, flags, marks, NetPacket.isFec]
    by_cases clear : ((batch.packet i).header.flagsByte &&& fec != 0) = false <;>
      simp [early, clear]
  · rw [stored, if_neg early, GF256.add_self, marks, if_neg fun both => early both.1, mul_zero]

theorem interpolate_shift (seen : List Nat) (m : Nat) :
    ErasureCode.interpolate ReedSolomon.point (batch.used seen) batch.shift m =
      ⟨0x20⟩ * ErasureCode.interpolate ReedSolomon.point (batch.used seen) batch.marks m := by
  rw [← ErasureCode.interpolate_smul]
  exact ErasureCode.interpolate_congr _ _ (fun i _ => shift_eq i) m

/-- The flags byte of a rebuilt packet is right exactly when its marks add up to
zero or one. -/
theorem recoveredFlags_iff (seen : List Nat) {m : Nat} (inside : m < batch.dataShards) :
    batch.recoveredFlags seen m &&& ~~~fec = (batch.packet m).header.flagsByte &&& ~~~fec ↔
      ErasureCode.interpolate ReedSolomon.point (batch.used seen) batch.marks m = 0 ∨
        ErasureCode.interpolate ReedSolomon.point (batch.used seen) batch.marks m = 1 := by
  have masked : ∀ byte : BitVec 8, byte &&& ~~~0x20#8 = 0#8 ↔ byte = 0#8 ∨ byte = 0x20#8 := by
    decide +kernel
  have cancel : ∀ a b : BitVec 8, a ^^^ b = a ↔ b = 0#8 := by
    intro a b
    constructor
    · intro same
      have doubled := congrArg (a ^^^ ·) same
      simpa [← BitVec.xor_assoc] using doubled
    · rintro rfl
      exact BitVec.xor_zero
  have distribute : ∀ a b : BitVec 8,
      (a &&& ~~~0x20#8) ^^^ (b &&& ~~~0x20#8) = (a ^^^ b) &&& ~~~0x20#8 := by
    intro a b
    ext i
    simp [← Bool.and_xor_distrib_right]
  have flag : (⟨0x20#8⟩ : GF256) ≠ 0 := by decide
  have before : ReedSolomon.byteAt (batch.codeword m) 1 =
      ⟨(batch.packet m).header.flagsByte.toBitVec⟩ := by
    rw [codeword_data inside]
    rfl
  rw [recoveredFlags, before, interpolate_shift, ← UInt8.toBitVec_inj]
  generalize ErasureCode.interpolate ReedSolomon.point (batch.used seen) batch.marks m = marked
  have zero : (⟨0x20#8⟩ * marked).bits = 0#8 ↔ marked = 0 := by
    rw [← mul_eq_zero_iff_left flag, mul_comm, GF256.ext_iff]
    rfl
  have one : (⟨0x20#8⟩ * marked).bits = 0x20#8 ↔ marked = 1 := by
    rw [← mul_eq_left₀ flag, GF256.ext_iff]
  rw [← zero, ← one, ← masked, ← cancel ((batch.packet m).header.flagsByte.toBitVec &&& ~~~0x20#8),
    distribute]
  rfl

theorem Even.hands_back (batch : Even) (arrivals : Arrivals batch.toBatch) (start : Instant) :
    ∃ ttl, HandsBack arrivals ttl
      ((FecDecoder.new start).receiveAll (batch.carried arrivals.order)) := by
  by_cases early : ∀ i ∈ arrivals.first, i < batch.dataShards
  · exact ⟨0, hands_back_direct arrivals start early⟩
  · exact hands_back_repaired arrivals start (by simpa using early) (batch.aligned _)

/-- The headers of an even batch survive the repair exactly when, at every lost
position, the marks of the data packets that arrived add up to zero or one. -/
theorem restoresHeaders_iff (batch : Even) (idle : IdleEncoder batch.toBatch)
    (clock : Nat → Instant) (delay : Nat) (arrivals : Arrivals batch.toBatch) (start : Instant) :
    batch.RestoresHeaders idle clock delay arrivals start ↔
      ∀ m < batch.dataShards, m ∉ arrivals.first →
        ErasureCode.interpolate ReedSolomon.point (batch.used arrivals.first) batch.marks m = 0 ∨
          ErasureCode.interpolate ReedSolomon.point (batch.used arrivals.first) batch.marks m = 1 := by
  have mirrored : batch.used arrivals.first.reverse = batch.used arrivals.first := by
    simp only [used, List.mem_reverse]
  obtain ⟨ttl, back⟩ := batch.hands_back arrivals start
  rw [RestoresHeaders, results_ok]
  constructor
  · intro kept m inside missing
    have lost : m ∈ batch.lost arrivals.first.reverse :=
      mem_lost.mpr ⟨inside, fun member => missing (List.mem_reverse.mp member)⟩
    have flags := (kept _ (back.repairs _ (List.mem_map_of_mem lost))).2.1
    rw [← mirrored]
    exact (recoveredFlags_iff _ inside).mp flags
  · intro restored entry member
    rcases back.sources entry member with ⟨i, ttl, unwrapped⟩ | repaired
    · obtain ⟨early, rfl⟩ := direct_eq unwrapped
      have cleared : ∀ byte : UInt8, (byte ||| fec) &&& ~~~fec = byte &&& ~~~fec := by
        decide +kernel
      simp only [header, early, ↓reduceIte, NetHeader.setFlag, NetPacket.srcId, NetPacket.destId,
        Bool.false_eq_true, cleared, and_self]
    · obtain ⟨m, missing, rfl⟩ := List.mem_map.mp repaired
      obtain ⟨inside, absent⟩ := mem_lost.mp missing
      have marked := restored m inside fun member => absent (List.mem_reverse.mpr member)
      rw [← mirrored] at marked
      exact ⟨rfl, (recoveredFlags_iff _ inside).mpr marked,
        (batch.fromSource _ (packet_mem inside)).symm, (batch.toDest _ (packet_mem inside)).symm⟩

def evenPair : Even where
  source := 0x0A1A0002
  dest := 0x0A1A0003
  groupId := 0
  packets := [⟨turnHeader, [7]⟩, ⟨turnHeader, [8]⟩]
  nonempty := by decide
  bounded := by decide
  fromSource := by decide
  toDest := by decide
  sizes := by decide
  even := by decide

def firstThenParity : Arrivals evenPair.toBatch where
  order := [⟨0, 0x54, 0⟩, ⟨0, 0x54, 2⟩]
  distinct := by decide
  inside := by decide
  enough := by decide
  parity := ⟨⟨0, 0x54, 2⟩, by simp, by decide⟩

theorem even_pair_header_lost :
    ¬ evenPair.RestoresHeaders (freshEncoder evenPair.toBatch rfl) (fun _ => 0) 0
      firstThenParity 0 := by
  rw [RestoresHeaders, results_ok]
  intro kept
  have wrong : ((returnedBy ((FecDecoder.new 0).receiveAll
      (evenPair.carried firstThenParity.order))).all fun entry =>
        entry.packet.header.flagsByte == (evenPair.packet entry.index).header.flagsByte &&& ~~~fec) =
      false := by decide +kernel
  rw [List.all_eq_true.mpr fun entry member => beq_iff_eq.mpr (kept entry member).2.1] at wrong
  cases wrong

end Headers
end VntClient.Batch
