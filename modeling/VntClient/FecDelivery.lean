import VntClient.FecRoundTrip
import VntClient.FecSender

/-!
Any traffic of any encoders into one decoder, with loss, repetition, reordering
and whatever the clock does. A data packet that arrives is handed back in its
own call as long as group ids are not shared and it does not set off a repair
over shards of different lengths.
-/

namespace VntClient

structure Shipment (senders : Nat → Sender) where
  now : Instant
  ttl : UInt8
  sender : Nat
  wire : NetPacket
  produced : wire ∈ (senders sender).outputs

def Shipment.packet {senders : Nat → Sender} (shipment : Shipment senders) : NetPacket :=
  { shipment.wire with header := { shipment.wire.header with ttlByte := shipment.ttl } }

/-- The decoder, and the (source, group, index) of everything handed back. -/
structure Receiver where
  decoder : FecDecoder
  returned : List (Ipv4Addr × UInt64 × Nat)

def groupKey (packet : NetPacket) : Option (Ipv4Addr × UInt64) :=
  (FecPacket.decode packet.payload).map fun fecPacket => (packet.srcId, fecPacket.groupId)

def received : Received → List Returned
  | .ok packets => Batch.handedBack packets
  | _ => []

namespace Receiver

def new (start : Instant) : Receiver := ⟨FecDecoder.new start, []⟩

def handOver (now : Instant) (packet : NetPacket) (receiver : Receiver) : Receiver :=
  let step := receiver.decoder.receive now packet
  let indices := (groupKey packet).elim [] fun key =>
    (received step.2).map fun entry => (key.1, key.2, entry.index)
  ⟨step.1, receiver.returned ++ indices⟩

def step {senders : Nat → Sender} (receiver : Receiver) (shipment : Shipment senders) :
    Receiver × List Returned :=
  (receiver.handOver shipment.now shipment.packet,
    received (receiver.decoder.receive shipment.now shipment.packet).2)

/-- The call on a data packet not handed back before succeeds and hands it back. -/
def HandsBack {senders : Nat → Sender} (receiver : Receiver) (shipment : Shipment senders) : Prop :=
  match FecPacket.decode shipment.packet.payload with
  | none => True
  | some fecPacket =>
      fecPacket.parityData = none →
      (shipment.packet.srcId, fecPacket.groupId, fecPacket.packetIndex.toNat) ∉ receiver.returned →
        ⟨fecPacket.packetIndex.toNat,
            ⟨shipment.packet.header.setFlag fec false, fecPacket.payload⟩⟩ ∈
          received (receiver.decoder.receive shipment.now shipment.packet).2

instance {senders : Nat → Sender} (receiver : Receiver) (shipment : Shipment senders) :
    Decidable (receiver.HandsBack shipment) := by
  unfold HandsBack
  cases FecPacket.decode shipment.packet.payload <;> infer_instance

/-- With this data packet the group has enough shards for a repair it still
needs, and one of the shards it holds has another length. -/
def Misfit (group : FecGroup) (fecPacket : FecPacket) : Prop :=
  group.receivedShards.getD fecPacket.packetIndex.toNat none = none ∧
    group.dataShards ≠ 0 ∧ group.receivedOriginalCount + 1 < group.dataShards ∧
    group.dataShards ≤ (group.receivedShards.filter Option.isSome).length + 1 ∧
    ∃ slot ∈ group.receivedShards, slot.any fun shard => shard.length != fecPacket.payload.length + 4

instance (group : FecGroup) (fecPacket : FecPacket) : Decidable (Misfit group fecPacket) := by
  unfold Misfit
  infer_instance

/-- A data packet does not set off a repair over shards of different lengths. -/
def Fits {senders : Nat → Sender} (receiver : Receiver) (shipment : Shipment senders) : Prop :=
  match FecPacket.decode shipment.packet.payload with
  | none => True
  | some fecPacket => fecPacket.parityData = none →
      ¬ Misfit (receiver.decoder.groupOf shipment.now
        (shipment.packet.srcId, fecPacket.groupId)) fecPacket

instance {senders : Nat → Sender} (receiver : Receiver) (shipment : Shipment senders) :
    Decidable (receiver.Fits shipment) := by
  unfold Fits
  cases FecPacket.decode shipment.packet.payload <;> infer_instance

end Receiver

/-- No two encoders, and no two destinations of one encoder, use one group id of
one source in the traffic. -/
def Unshared {senders : Nat → Sender} (shipments : List (Shipment senders)) : Prop :=
  ∀ left ∈ shipments, ∀ right ∈ shipments, groupKey left.packet = groupKey right.packet →
    left.sender = right.sender ∧ left.packet.destId = right.packet.destId

namespace Batch
variable {batch : Batch}

theorem groupKey_arriving (i : Nat) (ttl : UInt8) :
    groupKey (batch.arriving i ttl) = some batch.key := by
  have decoded := batch.decode_wire i
  have groupId : (batch.fecPacket i).groupId = batch.groupId := by
    unfold fecPacket
    split <;> rfl
  have payload : (batch.arriving i ttl).payload = (batch.wire i).payload := rfl
  rw [groupKey, payload, decoded, Option.map_some, groupId]
  exact congrArg (fun source => some (source, batch.groupId)) header_src

/-- A group of the decoder: open with what it has seen handed back, or closed
with everything handed back. -/
def Sound (batch : Batch) (returned : List (Ipv4Addr × UInt64 × Nat)) (group : FecGroup) : Prop :=
  (∃ seen, seen.Nodup ∧ (∀ i ∈ seen, i < batch.total) ∧ Tracks batch seen group ∧
    ¬ batch.Complete seen ∧
    ∀ i ∈ seen, i < batch.dataShards → (batch.source, batch.groupId, i) ∈ returned) ∨
  (group.isDone = true ∧ ∀ i < batch.dataShards, (batch.source, batch.groupId, i) ∈ returned)

theorem sound_default (returned : List (Ipv4Addr × UInt64 × Nat)) (now : Instant) :
    Sound batch returned (FecGroup.default now) := by
  refine Or.inl ⟨[], List.nodup_nil, ?_, tracks_default now, ?_, ?_⟩
  · intro i member; cases member
  · rintro ⟨parity, _⟩; cases parity
  · intro i member; cases member

theorem Sound.mono {returned more : List (Ipv4Addr × UInt64 × Nat)} {group : FecGroup}
    (sound : Sound batch returned group) : Sound batch (returned ++ more) group := by
  rcases sound with ⟨seen, distinct, inside, tracks, open_, back⟩ | ⟨closed, back⟩
  · exact Or.inl ⟨seen, distinct, inside, tracks, open_, fun i member early =>
      List.mem_append_left _ (back i member early)⟩
  · exact Or.inr ⟨closed, fun i early => List.mem_append_left _ (back i early)⟩

/-- A repair over shards of different lengths set off by a data packet is a
misfit of the group before it. -/
theorem Tracks.misfit {seen : List Nat} {group : FecGroup} (tracks : Tracks batch seen group)
    (distinct : seen.Nodup) (inside : ∀ i ∈ seen, i < batch.total) {i : Nat}
    (early : i < batch.dataShards) (fresh : i ∉ seen) (attempts : batch.Attempts (i :: seen))
    (misaligned : ¬ batch.Aligned (i :: seen)) :
    Receiver.Misfit group (batch.fecPacket i) := by
  have bounded : i < batch.total := Nat.lt_of_lt_of_le early (Nat.le_add_right _ _)
  have parity : batch.paritySeen seen = true := by
    have later := attempts.1
    have own : ¬ batch.dataShards ≤ i := by omega
    simpa [paritySeen, own] using later
  have positive := batch.dataShards_pos
  have data : group.dataShards = batch.dataShards := by rw [tracks.data, if_pos parity]
  have payload : (batch.fecPacket i).payload = (batch.packet i).payload := by
    rw [fecPacket, if_pos early]
  have own : (batch.stored i).length = (batch.packet i).payload.length + 4 := by
    rw [stored, if_pos early, fecData_length]
  have count : batch.dataCount (i :: seen) = batch.dataCount seen + 1 := by
    simp [dataCount, early]
  have fewer := dataCount_lt attempts.1
  have missing := attempts.2.1
  have enough := attempts.2.2
  have limit : batch.dataCount (i :: seen) ≤ batch.dataShards := by
    have fits : (i :: seen).filter (fun i => decide (i < batch.dataShards)) ⊆
        List.range batch.dataShards := fun j member =>
      List.mem_range.mpr (of_decide_eq_true (List.mem_filter.mp member).2)
    have bound := (List.Nodup.subperm ((List.nodup_cons.mpr ⟨fresh, distinct⟩).filter _)
      fits).length_le
    rwa [List.length_range] at bound
  rw [List.length_cons] at enough
  refine ⟨?_, ?_, ?_, ?_, ?_⟩
  · rw [fecPacket_index bounded, tracks.slots, if_neg fresh]
  · rw [data]; omega
  · rw [data, tracks.count]; omega
  · rw [data, tracks.received parity distinct inside]; exact enough
  -- Were all stored shards as long as this one, the group would be aligned.
  · by_contra even
    have same : ∀ j ∈ seen, (batch.stored j).length = (batch.packet i).payload.length + 4 := by
      apply (tracks.uniform _).mp
      intro shard member
      by_contra other
      exact even ⟨some shard, member, by simpa [payload] using other⟩
    obtain ⟨j, member, late⟩ := (paritySeen_iff seen).mp parity
    have width : batch.width = (batch.packet i).payload.length + 4 := by
      rw [← same j member, stored, if_neg (by omega), codeword_length]
    apply misaligned
    intro k member
    rcases List.mem_cons.mp member with rfl | member
    · rw [own, width]
    · rw [same k member, width]

theorem complete_data {seen : List Nat} (distinct : seen.Nodup)
    (all : batch.dataCount seen = batch.dataShards) {j : Nat} (early : j < batch.dataShards) :
    j ∈ seen := by
  have fits : seen.filter (fun i => decide (i < batch.dataShards)) ⊆ List.range batch.dataShards :=
    fun i member => List.mem_range.mpr (of_decide_eq_true (List.mem_filter.mp member).2)
  have whole := (List.Nodup.subperm (distinct.filter _) fits).perm_of_length_le
    (by rw [List.length_range]; exact Nat.le_of_eq all.symm)
  exact (List.mem_filter.mp (whole.symm.subset (List.mem_range.mpr early))).1

def named (batch : Batch) (entries : List Returned) : List (Ipv4Addr × UInt64 × Nat) :=
  entries.map fun entry => (batch.source, batch.groupId, entry.index)

theorem named_direct {i : Nat} (early : i < batch.dataShards) (ttl : UInt8)
    (result : Option (List Returned)) :
    (batch.source, batch.groupId, i) ∈
      batch.named (received (.ok (FecGroup.joined (batch.direct i ttl) result))) := by
  rw [received, handedBack_joined, named, List.map_append]
  apply List.mem_append_right
  simp [direct, early]

theorem joined_direct {i : Nat} (early : i < batch.dataShards) (ttl : UInt8)
    (result : Option (List Returned)) :
    ⟨i, ⟨({ batch.header i with ttlByte := ttl } : NetHeader).setFlag fec false,
        (batch.packet i).payload⟩⟩ ∈
      received (.ok (FecGroup.joined (batch.direct i ttl) result)) := by
  rw [received, handedBack_joined, direct, if_pos early]
  exact List.mem_append_right _ (List.mem_singleton.mpr rfl)

/-- One call keeps the group sound and hands back the data packet in hand. -/
theorem Sound.receive {returned : List (Ipv4Addr × UInt64 × Nat)} {group : FecGroup}
    (sound : Sound batch returned group) (now : Instant) {i : Nat} (bounded : i < batch.total)
    (ttl : UInt8) (fits : i < batch.dataShards → ¬ Receiver.Misfit group (batch.fecPacket i))
    {step : GroupStep}
    (taken : group.receive now (batch.arriving i ttl) (batch.fecPacket i) = step) :
    Sound batch (returned ++ batch.named (received step.result)) step.group ∧
      (i < batch.dataShards → (batch.source, batch.groupId, i) ∉ returned →
        ⟨i, ⟨({ batch.header i with ttlByte := ttl } : NetHeader).setFlag fec false,
            (batch.packet i).payload⟩⟩ ∈ received step.result) := by
  rcases sound with ⟨seen, distinct, inside, tracks, open_, back⟩ | ⟨closed, back⟩
  · by_cases again : i ∈ seen
    · rw [tracks.receive_again now bounded again ttl] at taken
      subst taken
      refine ⟨Sound.mono (Or.inl ⟨seen, distinct, inside, tracks, open_, back⟩), ?_⟩
      intro early new
      exact absurd (back i again early) new
    · have whole : (i :: seen).Nodup := List.nodup_cons.mpr ⟨again, distinct⟩
      have within : ∀ j ∈ i :: seen, j < batch.total := by
        intro j member
        rcases List.mem_cons.mp member with rfl | member
        · exact bounded
        · exact inside j member
      have moves := (tracks.receive open_ distinct inside now bounded again ttl).1
      rw [taken] at moves
      -- what is in the group by now has been handed back, in this call or before
      have handed : ∀ result, ∀ j ∈ i :: seen, j < batch.dataShards →
          (batch.source, batch.groupId, j) ∈ returned ++
            batch.named (received (.ok (FecGroup.joined (batch.direct i ttl) result))) := by
        intro result j member early
        rcases List.mem_cons.mp member with rfl | member
        · exact List.mem_append_right _ (named_direct early ttl result)
        · exact List.mem_append_left _ (back j member early)
      cases moves with
      | completed complete closed =>
          refine ⟨Or.inr ⟨closed, fun j early => ?_⟩, fun early _ => joined_direct early ttl none⟩
          exact handed none j (complete_data whole complete.2 early) early
      | waiting incomplete _ tracks =>
          exact ⟨Or.inl ⟨i :: seen, whole, within, tracks, incomplete, handed none⟩,
            fun early _ => joined_direct early ttl none⟩
      | repaired attempts _ closed =>
          refine ⟨Or.inr ⟨closed, fun j early => ?_⟩, fun early _ => joined_direct early ttl _⟩
          by_cases arrived : j ∈ i :: seen
          · exact handed _ j arrived early
          · apply List.mem_append_right
            rw [received, handedBack_joined, named, List.map_append]
            apply List.mem_append_left
            have lost : j ∈ batch.lost (i :: seen) := by
              simpa [lost, early] using arrived
            simpa [handedBack, repaired] using lost
      | refused attempts misaligned tracks' failed =>
          by_cases early : i < batch.dataShards
          · exact absurd (tracks.misfit distinct inside early again attempts misaligned) (fits early)
          · refine ⟨Or.inl ⟨i :: seen, whole, within, tracks', fun complete =>
              attempts.2.1 complete.2, ?_⟩, fun early' => absurd early' early⟩
            intro j member earlyJ
            rcases List.mem_cons.mp member with rfl | member
            · exact absurd earlyJ early
            · exact List.mem_append_left _ (back j member earlyJ)
  · rw [receive_closed closed] at taken
    subst taken
    refine ⟨Sound.mono (Or.inr ⟨closed, back⟩), ?_⟩
    intro early new
    exact absurd (back i early) new

end Batch

namespace Receiver

def Invariant (live : Batch → Prop) (receiver : Receiver) : Prop :=
  ∀ key group, receiver.decoder.groups.lookup key = some group →
    ∃ batch, live batch ∧ batch.key = key ∧ batch.Sound receiver.returned group

theorem invariant_new (live : Batch → Prop) (start : Instant) : Invariant live (new start) := by
  intro key group held
  cases held

theorem Invariant.handOver {live : Batch → Prop} {receiver : Receiver}
    (invariant : Invariant live receiver)
    (unique : ∀ left right, live left → live right → left.key = right.key → left = right)
    {batch : Batch} (alive : live batch) (now : Instant) {i : Nat} (bounded : i < batch.total)
    (ttl : UInt8)
    (fits : i < batch.dataShards →
      ¬ Misfit (receiver.decoder.groupOf now batch.key) (batch.fecPacket i)) :
    Invariant live (receiver.handOver now (batch.arriving i ttl)) ∧
      (i < batch.dataShards → (batch.source, batch.groupId, i) ∉ receiver.returned →
        ⟨i, ⟨({ batch.header i with ttlByte := ttl } : NetHeader).setFlag fec false,
            (batch.packet i).payload⟩⟩ ∈
          received (receiver.decoder.receive now (batch.arriving i ttl)).2) := by
  have sound : batch.Sound receiver.returned (receiver.decoder.groupOf now batch.key) := by
    unfold FecDecoder.groupOf
    cases held : receiver.decoder.groups.lookup batch.key with
    | none => exact Batch.sound_default _ now
    | some group =>
        obtain ⟨other, otherAlive, same, sound⟩ := invariant batch.key group held
        rw [unique other batch otherAlive alive same] at sound
        exact sound
  have few := batch.total_le
  have small : (batch.fecPacket i).packetIndex.toNat ≤ maxNum := by
    rw [Batch.fecPacket_index bounded]
    unfold maxNum
    omega
  have place : ((batch.arriving i ttl).srcId, (batch.fecPacket i).groupId) = batch.key := by
    have key := batch.groupKey_arriving i ttl
    rw [groupKey, show FecPacket.decode (batch.arriving i ttl).payload = _ from batch.decode_wire i]
      at key
    exact Option.some.inj key
  obtain ⟨later, direct⟩ := sound.receive now bounded ttl fits rfl
  have moved := receiver.decoder.receive_group now (batch.arriving i ttl) (batch.fecPacket i)
    (batch.decode_wire i) small _ rfl
  rw [place] at moved
  refine ⟨?_, ?_⟩
  · intro key group held
    simp only [Receiver.handOver, moved, Batch.groupKey_arriving, Option.elim_some] at held ⊢
    -- The cleanup at the end of the call can only drop groups.
    have before : ∀ decoder : FecDecoder, (decoder = (⟨receiver.decoder.groups.insert batch.key
          ((receiver.decoder.groupOf now batch.key).receive now (batch.arriving i ttl)
            (batch.fecPacket i)).group, receiver.decoder.lastCleanup⟩ : FecDecoder)) →
        decoder.groups.lookup key = some group →
        ∃ batch', live batch' ∧ batch'.key = key ∧ batch'.Sound (receiver.returned ++
          batch.named (received ((receiver.decoder.groupOf now batch.key).receive now
            (batch.arriving i ttl) (batch.fecPacket i)).result)) group := by
      rintro decoder rfl held
      by_cases same : key = batch.key
      · subst same
        rw [AList.lookup_insert, Option.some.injEq] at held
        subst held
        exact ⟨batch, alive, rfl, later⟩
      · rw [AList.lookup_insert_ne same] at held
        obtain ⟨other, otherAlive, otherKey, otherSound⟩ := invariant key group held
        exact ⟨other, otherAlive, otherKey, otherSound.mono⟩
    split at held
    · rcases FecDecoder.lookup_cleanup _ now key with kept | dropped
      · exact before _ rfl (kept ▸ held)
      · rw [dropped] at held
        cases held
    · exact before _ rfl held
  · rw [moved]
    exact direct

end Receiver

section Traffic
variable {senders : Nat → Sender}

def Live (batches : Nat → Ipv4Addr → List Batch) (shipments : List (Shipment senders))
    (batch : Batch) : Prop :=
  ∃ shipment ∈ shipments, batch ∈ batches shipment.sender batch.dest ∧
    ∃ i < batch.total, shipment.packet = batch.arriving i shipment.ttl

theorem parity_absent {batch : Batch} {i : Nat} :
    (batch.fecPacket i).parityData = none ↔ i < batch.dataShards := by
  unfold Batch.fecPacket
  split <;> simp [*]

theorem live_unique {batches : Nat → Ipv4Addr → List Batch} {shipments : List (Shipment senders)}
    (numbered : ∀ sender dest k batch, (batches sender dest)[k]? = some batch →
      k < 2 ^ 64 ∧ batch.source = (senders sender).source ∧ batch.dest = dest ∧
        batch.groupId = Sender.groupAt k)
    (unshared : Unshared shipments) (left right : Batch) (leftLive : Live batches shipments left)
    (rightLive : Live batches shipments right) (same : left.key = right.key) : left = right := by
  obtain ⟨one, oneMember, oneBatch, i, _, oneWire⟩ := leftLive
  obtain ⟨two, twoMember, twoBatch, j, _, twoWire⟩ := rightLive
  obtain ⟨sender, dest⟩ := unshared one oneMember two twoMember (by
    rw [oneWire, twoWire, Batch.groupKey_arriving, Batch.groupKey_arriving, same])
  rw [oneWire, twoWire] at dest
  have sameDest : left.dest = right.dest :=
    Batch.header_dest.symm.trans (Eq.trans dest Batch.header_dest)
  rw [sender, sameDest] at oneBatch
  obtain ⟨k, atK⟩ := List.mem_iff_getElem?.mp oneBatch
  obtain ⟨l, atL⟩ := List.mem_iff_getElem?.mp twoBatch
  obtain ⟨kSmall, _, _, kGroup⟩ := numbered _ _ _ _ atK
  obtain ⟨lSmall, _, _, lGroup⟩ := numbered _ _ _ _ atL
  have groups : Sender.groupAt k = Sender.groupAt l := by
    rw [← kGroup, ← lGroup]
    exact congrArg Prod.snd same
  have positions := congrArg UInt64.toNat groups
  simp only [Sender.groupAt, UInt64.toNat_ofNat'] at positions
  have position : k = l := by omega
  rw [position, atL] at atK
  exact (Option.some.inj atK).symm

/-- In traffic without shared group ids whose data packets all fit, every data
packet not handed back before is handed back by its own call. -/
theorem arrived_packets_handed_back (start : Instant) (shipments : List (Shipment senders))
    (unshared : Unshared shipments)
    (fitting : Machine.Along Receiver.step Receiver.Fits (Receiver.new start) shipments) :
    Machine.Along Receiver.step Receiver.HandsBack (Receiver.new start) shipments := by
  have histories := fun sender => (senders sender).history
  choose batches numbered produced using histories
  apply Machine.along_of_invariant Receiver.step
    (Receiver.Invariant (Live batches shipments)) Receiver.Fits Receiver.HandsBack shipments ?_
    (Receiver.new start) (Receiver.invariant_new _ start) fitting
  intro receiver shipment member invariant fits
  obtain ⟨dest, batch, held, i, bounded, wire⟩ := produced shipment.sender shipment.wire
    shipment.produced
  have packet : shipment.packet = batch.arriving i shipment.ttl := by
    rw [Shipment.packet, wire]
    rfl
  obtain ⟨k, found⟩ := List.mem_iff_getElem?.mp held
  have destination := (numbered _ _ _ _ found).2.2.1
  have alive : Live batches shipments batch :=
    ⟨shipment, member, by rw [destination]; exact held, i, bounded, packet⟩
  have decoded : FecPacket.decode (batch.arriving i shipment.ttl).payload =
      some (batch.fecPacket i) := batch.decode_wire i
  have key := batch.groupKey_arriving i shipment.ttl
  rw [groupKey, decoded, Option.map_some, Option.some.injEq] at key
  obtain ⟨source, groupId⟩ := Prod.mk.inj key
  simp only [Receiver.Fits, packet, decoded, parity_absent, source, groupId] at fits
  obtain ⟨next, direct⟩ := invariant.handOver (live_unique numbered unshared) alive shipment.now
    bounded shipment.ttl fits
  refine ⟨?_, by rw [Receiver.step, packet]; exact next⟩
  simp only [Receiver.HandsBack, packet, decoded, parity_absent, source, groupId,
    Batch.fecPacket_index bounded]
  intro early new
  have payload : (batch.fecPacket i).payload = (batch.packet i).payload := by
    rw [Batch.fecPacket, if_pos early]
  rw [payload]
  exact direct early new

def unevenSender : Sender where
  source := 0x0A1A0002
  events := [.encode 0 ⟨Batch.turnHeader, [7]⟩, .encode 0 ⟨Batch.turnHeader, [8, 9]⟩,
    .encode 0 ⟨Batch.turnHeader, [10]⟩, .tick (fromMillis 20)]
  own := by
    intro now packet member
    simp only [List.mem_cons, EncoderEvent.encode.injEq, List.not_mem_nil, or_false, reduceCtorEq]
      at member
    rcases member with ⟨_, rfl⟩ | ⟨_, rfl⟩ | ⟨_, rfl⟩ <;> rfl
  steps := by decide

def ship (index : Nat) (inside : index < unevenSender.outputs.length) :
    Shipment fun _ => unevenSender where
  now := fromMillis 30
  ttl := 0x54
  sender := 0
  wire := unevenSender.outputs.get ⟨index, inside⟩
  produced := List.get_mem _ _

def evenSender : Sender where
  source := 0x0A1A0004
  events := [.encode 0 ⟨{ Batch.turnHeader with srcId := 0x0A1A0004 }, [7]⟩,
    .encode 0 ⟨{ Batch.turnHeader with srcId := 0x0A1A0004 }, [8]⟩,
    .encode 0 ⟨{ Batch.turnHeader with srcId := 0x0A1A0004 }, [9]⟩, .tick (fromMillis 20)]
  own := by
    intro now packet member
    simp only [List.mem_cons, EncoderEvent.encode.injEq, List.not_mem_nil, or_false, reduceCtorEq]
      at member
    rcases member with ⟨_, rfl⟩ | ⟨_, rfl⟩ | ⟨_, rfl⟩ <;> rfl
  steps := by decide

def bothSenders (number : Nat) : Sender := if number = 0 then unevenSender else evenSender

def shipOf (sender index : Nat) (ttl : UInt8)
    (inside : index < (bothSenders sender).outputs.length) : Shipment bothSenders where
  now := fromMillis 30
  ttl
  sender
  wire := (bothSenders sender).outputs.get ⟨index, inside⟩
  produced := List.get_mem _ _

/-- Two nodes at once: of the second one the last packet comes first, then the parity, the last
packet again, and the first one, which repairs the lost one; of the other one the packets come
in reverse and two are lost. -/
def mixedTraffic : List (Shipment bothSenders) :=
  [shipOf 1 2 0x54 (by decide +kernel), shipOf 0 1 0x54 (by decide +kernel),
    shipOf 1 3 0x55 (by decide +kernel), shipOf 1 2 0x53 (by decide +kernel),
    shipOf 1 0 0x54 (by decide +kernel), shipOf 0 0 0x54 (by decide +kernel),
    shipOf 1 0 0x53 (by decide +kernel)]

theorem mixedTraffic_unshared : Unshared mixedTraffic := by
  unfold Unshared
  decide +kernel

theorem mixed_traffic_handed_back :
    Machine.Along Receiver.step Receiver.HandsBack (Receiver.new 0) mixedTraffic :=
  arrived_packets_handed_back 0 mixedTraffic mixedTraffic_unshared
    ⟨by decide +kernel, by decide +kernel, by decide +kernel, by decide +kernel,
      by decide +kernel, by decide +kernel, by decide +kernel, trivial⟩

/-- The first packet and the parity arrive; the second packet sets off a repair
that fails, and is not handed back. -/
theorem second_packet_suppressed :
    ¬ Machine.Along Receiver.step Receiver.HandsBack (Receiver.new 0)
      [ship 0 (by decide +kernel), ship 3 (by decide +kernel), ship 1 (by decide +kernel)] := by
  rintro ⟨_, _, second, _⟩
  have suppressed : ¬ Receiver.HandsBack
      (((Receiver.new 0).step (ship 0 (by decide +kernel))).1.step (ship 3 (by decide +kernel))).1
      (ship 1 (by decide +kernel)) := by decide +kernel
  exact suppressed second

end Traffic
end VntClient
