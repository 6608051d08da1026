import VntClient.FecMoves

/-!
The decoder with its reads, writes, slices and resizes out of a vector's range written out
as panics. Whatever packets arrive it computes what the decoder above computes, so none of
them is out of range, and no group grows over twice the limit on one kind of shard.
-/

namespace VntClient

/-! The operations of a slice or a vector that panic. -/

namespace Slice
variable {α : Type}

def readAt (items : List α) (i : Nat) : Outcome α := (items[i]?).elim .panic .ok

def writeAt (items : List α) (i : Nat) (item : α) : Outcome (List α) :=
  if i < items.length then .ok (items.set i item) else .panic

def range (items : List α) (start stop : Nat) : Outcome (List α) :=
  if start ≤ stop ∧ stop ≤ items.length then .ok ((items.take stop).drop start) else .panic

def copyFromSlice (items : List α) (start stop : Nat) (source : List α) : Outcome (List α) :=
  if start ≤ stop ∧ stop ≤ items.length ∧ source.length = stop - start then
    .ok (items.take start ++ (source ++ items.drop stop))
  else .panic

/-- The most shards a vector can hold: 24 bytes each, no more than `isize::MAX` bytes. -/
def capacity : Nat := (2 ^ 63 - 1) / 24

def resize (shards : List (Option Bytes)) (length : Nat) : Outcome (List (Option Bytes)) :=
  if length ≤ capacity then .ok (grow shards length) else .panic

def growTo (shards : List (Option Bytes)) (length : Nat) : Outcome (List (Option Bytes)) :=
  if shards.length < length then resize shards length else .ok shards

theorem readAt_eq {items : List α} {i : Nat} (inside : i < items.length) :
    readAt items i = .ok items[i] := by
  rw [readAt, List.getElem?_eq_getElem inside]
  rfl

theorem writeAt_eq {items : List α} {i : Nat} (inside : i < items.length) (item : α) :
    writeAt items i item = .ok (items.set i item) := if_pos inside

theorem growTo_eq (shards : List (Option Bytes)) {length : Nat} (small : length ≤ 2 * maxNum) :
    growTo shards length = .ok (grow shards length) := by
  unfold growTo
  split
  · exact if_pos (Nat.le_trans small (by decide))
  · rename_i enough
    rw [grow, Nat.sub_eq_zero_of_le (Nat.not_lt.mp enough), List.replicate_zero, List.append_nil]

end Slice

namespace Indexed
open Slice

/-- The bytes a data shard is stored as, written one by one into a zeroed buffer. -/
def batchData (header : NetHeader) (payload : Bytes) : Outcome Bytes := do
  let batch := List.replicate (4 + payload.length) 0
  let batch ← writeAt batch 0 header.typeByte
  let batch ← writeAt batch 1 header.flagsByte
  let batch ← copyFromSlice batch 2 4
    [UInt8.ofNat (payload.length / 256), UInt8.ofNat payload.length]
  copyFromSlice batch 4 batch.length payload

def rebuildNetPacket (currentPacket : NetPacket) (recoveredData : Bytes) : Outcome NetPacket :=
  if recoveredData.length < 4 then .err "recovered_data too short"
  else do
    let typeByte ← readAt recoveredData 0
    let flagsByte ← readAt recoveredData 1
    let high ← readAt recoveredData 2
    let low ← readAt recoveredData 3
    let payloadLen := fromBeBytes16 high low
    if recoveredData.length < payloadLen + 4 then .err "invalid payload_len in recovered_data"
    else do
      let payload ← range recoveredData 4 (4 + payloadLen)
      let packet := NetPacket.zeroed payload.length
      let packet := { packet with header := { packet.header with typeByte, flagsByte } }
      let packet := (packet.setSrcId currentPacket.srcId).setDestId currentPacket.destId
      let packet := (packet.setTtl currentPacket.ttl).setFecFlag false
      packet.setPayload payload

def markDelivered (delivered : List Bool) : Nat → List (Option Bytes) → Outcome (List Bool)
  | _, [] => .ok delivered
  | i, none :: rest => markDelivered delivered (i + 1) rest
  | i, some _ :: rest => do
      let delivered ← writeAt delivered i true
      markDelivered delivered (i + 1) rest

def rebuildAll (currentPacket : NetPacket) (delivered : List Bool) :
    Nat → List (Option Bytes) → Outcome (List Returned)
  | _, [] => .ok []
  | i, none :: rest => rebuildAll currentPacket delivered (i + 1) rest
  | i, some shard :: rest => do
      let there ← readAt delivered i
      if there then rebuildAll currentPacket delivered (i + 1) rest
      else do
        let packet ← rebuildNetPacket currentPacket shard
        let result ← rebuildAll currentPacket delivered (i + 1) rest
        pure (⟨i, packet⟩ :: result)

def decodeWithRs (group : FecGroup) (groupId : UInt64) (netPacket : NetPacket) :
    FecGroup × Outcome (Option (List Returned)) :=
  if group.receivedShards.length ≠ group.dataShards + group.parityShards then
    let received := group.receivedShards.length
    let data := group.dataShards
    let parity := group.parityShards
    let srcIp := displayIp netPacket.srcId
    let message := s!"received_shards.len()({received}) != data_shards({data})+parity_shards({parity})"
    (group, .err s!"{message} src_ip={srcIp},group_id={groupId}")
  else
    let marked := do
      let early ← range group.receivedShards 0 group.dataShards
      markDelivered (List.replicate group.dataShards false) 0 early
    let repaired := do
      let delivered ← marked
      let rs ← ReedSolomon.new group.dataShards group.parityShards
      let shards ← rs.reconstruct group.receivedShards
      pure (delivered, shards)
    match repaired with
    | .err message => (group, .err message)
    | .panic => (group, .panic)
    | .ok (delivered, shards) =>
        let group := { group with receivedShards := shards }
        match rebuildAll netPacket delivered 0 (shards.take group.dataShards) with
        | .ok result => (group.done, .ok (some result))
        | .err message => (group, .err message)
        | .panic => (group, .panic)

def tryDecode (group : FecGroup) (groupId : UInt64) (netPacket : NetPacket) :
    FecGroup × Outcome (Option (List Returned)) :=
  if group.dataShards = 0 then (group, .ok none)
  else if group.receivedOriginalCount = group.dataShards then (group, .ok none)
  else
    let receivedCount := (group.receivedShards.filter Option.isSome).length
    if receivedCount < group.dataShards then (group, .ok none)
    else decodeWithRs group groupId netPacket

def store (group : FecGroup) (netPacket : NetPacket) (fecPacket : FecPacket) :
    Outcome (FecGroup × Option Returned) :=
  let srcIp := displayIp netPacket.srcId
  let packetIndex := fecPacket.packetIndex.toNat
  match fecPacket.parityData with
  | some parityData =>
      let dataShards := parityData.dataShards.toNat
      let parityShards := parityData.parityShards.toNat
      if maxNum < dataShards then .err s!"data_shards overflow {srcIp}"
      else if maxNum < parityShards then .err s!"parity_shards overflow {srcIp}"
      else if dataShards + parityShards ≤ packetIndex then .err s!"packet_index overflow {srcIp}"
      else if group.dataShards ≠ 0 ∧ group.dataShards ≠ dataShards then
        .err s!"group data_shards!=data_shards {srcIp}"
      else if group.parityShards ≠ 0 ∧ group.parityShards ≠ parityShards then
        .err s!"group parity_shards!=parity_shards {srcIp}"
      else do
        let shards ← growTo group.receivedShards (dataShards + parityShards)
        let shards ← writeAt shards packetIndex (some fecPacket.payload)
        pure ({ group with dataShards, parityShards, receivedShards := shards }, none)
  | none => do
      let packet := { NetPacket.zeroed fecPacket.payload.length with header := netPacket.header }
      let packet ← (packet.setFecFlag false).setPayload fecPacket.payload
      let shards ← growTo group.receivedShards (packetIndex + 1)
      let data ← batchData netPacket.header fecPacket.payload
      let shards ← writeAt shards packetIndex (some data)
      pure ({ group with
          receivedOriginalCount := group.receivedOriginalCount + 1
          receivedShards := shards }, some ⟨packetIndex, packet⟩)

def settle (group : FecGroup) (now : Instant) (groupId : UInt64) (netPacket : NetPacket)
    (packet : Option Returned) : GroupStep :=
  let group := { group with lastUpdate := now }
  if group.isDone then ⟨group.done, .ok (FecGroup.joined packet none), true⟩
  else
    match tryDecode group groupId netPacket with
    | (group, .ok result) => ⟨group, .ok (FecGroup.joined packet result), true⟩
    | (group, .err message) => ⟨group, .err message, false⟩
    | (group, .panic) => ⟨group, .panic, false⟩

def receiveGroup (group : FecGroup) (now : Instant) (netPacket : NetPacket)
    (fecPacket : FecPacket) : GroupStep :=
  if group.isDone then ⟨group, .ok none, false⟩
  else if (group.receivedShards.getD fecPacket.packetIndex.toNat none).isSome then
    ⟨group, .ok none, false⟩
  else
    match store group netPacket fecPacket with
    | .ok (group, packet) => settle group now fecPacket.groupId netPacket packet
    | .err message => ⟨group, .err message, false⟩
    | .panic => ⟨group, .panic, false⟩

def receive (decoder : FecDecoder) (now : Instant) (netPacket : NetPacket) :
    FecDecoder × Outcome (Option (List Returned)) :=
  match FecPacket.decode netPacket.payload with
  | none => (decoder, .err "failed to decode Protobuf message")
  | some fecPacket =>
      let srcIp := netPacket.srcId
      if maxNum < fecPacket.packetIndex.toNat then
        let src := displayIp srcIp
        (decoder, .err s!"packet_index overflow {src}")
      else
        let key := (srcIp, fecPacket.groupId)
        let step := receiveGroup (decoder.groupOf now key) now netPacket fecPacket
        let decoder := { decoder with groups := decoder.groups.insert key step.group }
        (if step.settled then decoder.cleanup now else decoder, step.result)

def run (decoder : FecDecoder) : List (Instant × NetPacket) →
    FecDecoder × List (Outcome (Option (List Returned)))
  | [] => (decoder, [])
  | arrival :: rest =>
      let step := receive decoder arrival.1 arrival.2
      let tail := run step.1 rest
      (tail.1, step.2 :: tail.2)

theorem batchData_eq (header : NetHeader) (payload : Bytes) :
    batchData header payload = .ok (fecData header payload) := by
  have buffer : List.replicate (4 + payload.length) (0 : UInt8) =
      0 :: 0 :: 0 :: 0 :: List.replicate payload.length 0 := by
    rw [Nat.add_comm]
    rfl
  simp [batchData, buffer, writeAt, copyFromSlice, fecData]

theorem rebuildNetPacket_eq (current : NetPacket) (data : Bytes) :
    rebuildNetPacket current data = FecGroup.rebuildNetPacket current data := by
  rcases data with _ | ⟨typeByte, _ | ⟨flagsByte, _ | ⟨high, _ | ⟨low, body⟩⟩⟩⟩
  · rfl
  · rfl
  · rfl
  · rfl
  · rw [rebuildNetPacket, if_neg (by simp), FecGroup.rebuildNetPacket]
    simp only [readAt, List.getElem?_cons_zero, List.getElem?_cons_succ, Option.elim_some,
      Outcome.ok_bind, List.length_cons]
    by_cases short : body.length < fromBeBytes16 high low
    · rw [if_pos (by omega), if_pos short]
    · rw [if_neg (by omega), if_neg short]
      have sliced : range (typeByte :: flagsByte :: high :: low :: body) 4
          (4 + fromBeBytes16 high low) = .ok (body.take (fromBeBytes16 high low)) := by
        rw [range, if_pos ⟨Nat.le_add_right _ _, by simp only [List.length_cons]; omega⟩,
          Nat.add_comm]
        rfl
      rw [sliced, Outcome.ok_bind]

/-- The marks behind the ones already written are the slots that are filled. -/
theorem markDelivered_eq (marks : List Bool) (shards : List (Option Bytes)) :
    markDelivered (marks ++ List.replicate shards.length false) marks.length shards =
      .ok (marks ++ shards.map Option.isSome) := by
  induction shards generalizing marks with
  | nil => rfl
  | cons slot rest ih =>
      cases slot with
      | none =>
          have next := ih (marks ++ [false])
          rw [List.length_append, List.append_assoc, List.append_assoc] at next
          exact next
      | some shard =>
          have next := ih (marks ++ [true])
          rw [List.length_append, List.append_assoc, List.append_assoc] at next
          have written : writeAt (marks ++ List.replicate (rest.length + 1) false) marks.length true =
              .ok (marks ++ (true :: List.replicate rest.length false)) := by
            rw [writeAt_eq (by simp), List.set_append_right _ _ (Nat.le_refl _), Nat.sub_self]
            rfl
          rw [markDelivered, List.length_cons, written, Outcome.ok_bind]
          exact next

theorem rebuildAll_eq (current : NetPacket) (delivered : List Bool)
    (shards : List (Option Bytes)) (start : Nat) (inside : start + shards.length ≤ delivered.length) :
    rebuildAll current delivered start shards =
      FecGroup.rebuildAll current delivered start shards := by
  induction shards generalizing start with
  | nil => rfl
  | cons slot rest ih =>
      rw [List.length_cons] at inside
      have next := ih (start + 1) (by omega)
      cases slot with
      | none => exact next
      | some shard =>
          have here : start < delivered.length := by omega
          have same : delivered.getD start false = delivered[start] := by
            rw [List.getD_eq_getElem?_getD, List.getElem?_eq_getElem here, Option.getD_some]
          rw [rebuildAll, FecGroup.rebuildAll, readAt_eq here, Outcome.ok_bind, next, same,
            rebuildNetPacket_eq]

theorem decodeWithRs_eq (group : FecGroup) (groupId : UInt64) (netPacket : NetPacket) :
    decodeWithRs group groupId netPacket = group.decodeWithRs groupId netPacket := by
  rw [decodeWithRs, FecGroup.decodeWithRs]
  by_cases whole : group.receivedShards.length ≠ group.dataShards + group.parityShards
  · rw [if_pos whole, if_pos whole]
  · rw [if_neg whole, if_neg whole]
    have length := not_ne_iff.mp whole
    have early : range group.receivedShards 0 group.dataShards =
        .ok (group.receivedShards.take group.dataShards) := by
      rw [range, if_pos ⟨Nat.zero_le _, by omega⟩, List.drop_zero]
    have taken : (group.receivedShards.take group.dataShards).length = group.dataShards := by
      rw [List.length_take]
      omega
    have marked := markDelivered_eq [] (group.receivedShards.take group.dataShards)
    rw [List.nil_append, List.nil_append, List.length_nil, taken] at marked
    simp only [early, Outcome.ok_bind, marked]
    cases coder : ReedSolomon.new group.dataShards group.parityShards with
    | err message => rfl
    | panic => rfl
    | ok rs =>
        simp only [Outcome.ok_bind]
        cases filled : rs.reconstruct group.receivedShards with
        | err message => rfl
        | panic => rfl
        | ok shards =>
            have sized := (ReedSolomon.reconstruct_keeps filled).1
            simp only [Outcome.ok_bind, Outcome.pure_eq]
            have rebuilt := rebuildAll_eq netPacket ((group.receivedShards.take
              group.dataShards).map Option.isSome) (shards.take group.dataShards) 0 (by
                rw [List.length_map, taken, List.length_take]
                omega)
            cases worked : FecGroup.rebuildAll netPacket ((group.receivedShards.take
                group.dataShards).map Option.isSome) 0 (shards.take group.dataShards) with
            | ok result | err message | panic =>
                rw [worked] at rebuilt
                simp only [rebuilt]

theorem tryDecode_eq (group : FecGroup) (groupId : UInt64) (netPacket : NetPacket) :
    tryDecode group groupId netPacket = group.tryDecode groupId netPacket := by
  simp only [tryDecode, FecGroup.tryDecode, decodeWithRs_eq]

theorem settle_eq (group : FecGroup) (now : Instant) (groupId : UInt64) (netPacket : NetPacket)
    (packet : Option Returned) :
    settle group now groupId netPacket packet = group.settle now groupId netPacket packet := by
  rw [settle, FecGroup.settle]
  by_cases complete : ({ group with lastUpdate := now } : FecGroup).isDone = true
  · rw [if_pos complete, if_pos complete]
  · rw [if_neg complete, if_neg complete]
    have tried := tryDecode_eq ({ group with lastUpdate := now } : FecGroup) groupId netPacket
    rcases taken : ({ group with lastUpdate := now } : FecGroup).tryDecode groupId netPacket with
      ⟨after, result⟩
    rw [taken] at tried
    cases result with
    | ok result | err message | panic => simp only [tried]

/-- With an index within the limit both writes are in range and both resizes are small. -/
theorem store_eq (group : FecGroup) (netPacket : NetPacket) (fecPacket : FecPacket)
    (small : fecPacket.packetIndex.toNat ≤ maxNum) :
    store group netPacket fecPacket = group.store netPacket fecPacket := by
  cases coded : fecPacket.parityData with
  | none =>
      have inside : fecPacket.packetIndex.toNat <
          (grow group.receivedShards (fecPacket.packetIndex.toNat + 1)).length := by
        rw [FecGroup.grow_length]
        omega
      have limit : fecPacket.packetIndex.toNat + 1 ≤ 2 * maxNum :=
        Nat.le_trans (Nat.succ_le_succ small) (by decide)
      rw [store, FecGroup.store, coded]
      simp only [batchData_eq, growTo_eq _ limit, writeAt_eq inside, Outcome.ok_bind]
  | some parityData =>
      rw [store, FecGroup.store, coded]
      simp only
      repeat' split
      all_goals try rfl
      rename_i data parity bounded sameData sameParity
      -- the checks passed bound the sum of the two counts from both sides
      have inside : fecPacket.packetIndex.toNat < (grow group.receivedShards
          (parityData.dataShards.toNat + parityData.parityShards.toNat)).length := by
        rw [FecGroup.grow_length]
        omega
      have limit : parityData.dataShards.toNat + parityData.parityShards.toNat ≤ 2 * maxNum := by
        omega
      rw [growTo_eq _ limit, Outcome.ok_bind, writeAt_eq inside]
      rfl

theorem receiveGroup_eq (group : FecGroup) (now : Instant) (netPacket : NetPacket)
    (fecPacket : FecPacket) (small : fecPacket.packetIndex.toNat ≤ maxNum) :
    receiveGroup group now netPacket fecPacket = group.receive now netPacket fecPacket := by
  rw [receiveGroup, FecGroup.receive, store_eq group netPacket fecPacket small]
  by_cases complete : group.isDone = true
  · rw [if_pos complete, if_pos complete]
  · rw [if_neg complete, if_neg complete]
    by_cases held : (group.receivedShards.getD fecPacket.packetIndex.toNat none).isSome = true
    · rw [if_pos held, if_pos held]
    · rw [if_neg held, if_neg held]
      cases group.store netPacket fecPacket with
      | ok stored => exact settle_eq stored.1 now fecPacket.groupId netPacket stored.2
      | err message => rfl
      | panic => rfl

/-- No operation of a call is out of range, whatever the decoder holds. -/
theorem receive_eq (decoder : FecDecoder) (now : Instant) (netPacket : NetPacket) :
    receive decoder now netPacket = decoder.receive now netPacket := by
  rw [receive, FecDecoder.receive]
  cases decoded : FecPacket.decode netPacket.payload with
  | none => rfl
  | some fecPacket =>
      simp only
      by_cases large : maxNum < fecPacket.packetIndex.toNat
      · rw [if_pos large, if_pos large]
      · rw [if_neg large, if_neg large, receiveGroup_eq _ now netPacket fecPacket
          (Nat.not_lt.mp large)]

end Indexed

namespace FecGroup

structure Bounded (group : FecGroup) : Prop where
  data : group.dataShards ≤ maxNum
  parity : group.parityShards ≤ maxNum
  slots : group.receivedShards.length ≤ 2 * maxNum

theorem bounded_default (now : Instant) : Bounded (FecGroup.default now) :=
  ⟨Nat.zero_le _, Nat.zero_le _, Nat.zero_le _⟩

theorem Stores.bounded {group stored : FecGroup} {shard : FecPacket} {returned : Option Returned}
    (stores : Stores group shard stored returned) (bounded : group.Bounded)
    (small : shard.packetIndex.toNat ≤ maxNum) : stored.Bounded := by
  have counts : stored.dataShards ≤ maxNum ∧ stored.parityShards ≤ maxNum := by
    obtain ⟨accepts, ⟨data, parity, _⟩ | ⟨parityData, coded, data, parity⟩⟩ := stores.dims
    · exact ⟨data ▸ bounded.data, parity ▸ bounded.parity⟩
    · obtain ⟨dataFits, parityFits, _⟩ := accepts parityData coded
      exact ⟨data ▸ dataFits, parity ▸ parityFits⟩
  refine ⟨counts.1, counts.2, ?_⟩
  have limits := stores.limits
  have slots := bounded.slots
  have one : 1 ≤ maxNum := by decide
  omega

theorem Moves.bounded {group : FecGroup} {now : Instant} {shard : FecPacket} {step : GroupStep}
    (moves : Moves group now shard step) (bounded : group.Bounded)
    (small : shard.packetIndex.toNat ≤ maxNum) : step.group.Bounded ∧ step.result ≠ .panic := by
  cases moves with
  | ignored idle => exact ⟨bounded, fun same => by cases same⟩
  | rejected unfinished missing refused => exact ⟨bounded, fun same => by cases same⟩
  | kept unfinished missing stores waiting =>
      have kept := stores.bounded bounded small
      exact ⟨⟨kept.data, kept.parity, kept.slots⟩, fun same => by cases same⟩
  | closed unfinished missing stores complete =>
      have kept := stores.bounded bounded small
      exact ⟨⟨kept.data, kept.parity, Nat.zero_le _⟩, fun same => by cases same⟩
  | repaired unfinished missing stores known distinct lost =>
      have kept := stores.bounded bounded small
      exact ⟨⟨kept.data, kept.parity, Nat.zero_le _⟩, fun same => by cases same⟩
  | failed unfinished missing stores waiting sized keeps =>
      have kept := stores.bounded bounded small
      exact ⟨⟨kept.data, kept.parity, sized ▸ kept.slots⟩, fun same => by cases same⟩

end FecGroup

namespace FecDecoder

def Bounded (decoder : FecDecoder) : Prop :=
  ∀ key group, decoder.groups.lookup key = some group → group.Bounded

theorem bounded_new (start : Instant) : Bounded (FecDecoder.new start) := by
  intro key group held
  cases held

theorem Bounded.receive {decoder : FecDecoder} (bounded : decoder.Bounded) (now : Instant)
    (packet : NetPacket) :
    (decoder.receive now packet).1.Bounded ∧ (decoder.receive now packet).2 ≠ .panic := by
  cases found : opened packet with
  | none =>
      obtain ⟨message, unread⟩ := decoder.receive_unopened now found
      rw [unread]
      exact ⟨bounded, fun same => by cases same⟩
  | some key =>
      obtain ⟨shard, step, small, moves, result, written⟩ := decoder.receive_opened now found
      have met : (decoder.groupOf now key).Bounded := by
        unfold groupOf
        cases held : decoder.groups.lookup key with
        | none => exact FecGroup.bounded_default now
        | some group => exact bounded key group held
      obtain ⟨moved, settled⟩ := moves.bounded met small
      refine ⟨?_, result ▸ settled⟩
      intro other group held
      rcases lookup_written written other with dropped | looked
      · rw [dropped] at held
        cases held
      · rw [looked] at held
        split at held
        · cases held
          exact moved
        · exact bounded other group held

end FecDecoder

namespace Indexed

theorem run_bounded {decoder : FecDecoder} (bounded : decoder.Bounded)
    (arrivals : List (Instant × NetPacket)) :
    (∀ result ∈ (run decoder arrivals).2, result ≠ .panic) ∧ (run decoder arrivals).1.Bounded := by
  induction arrivals generalizing decoder with
  | nil => exact ⟨fun result member => absurd member List.not_mem_nil, bounded⟩
  | cons arrival rest ih =>
      have step := bounded.receive arrival.1 arrival.2
      rw [← receive_eq] at step
      obtain ⟨settled, kept⟩ := ih step.1
      refine ⟨?_, kept⟩
      intro result member
      rcases List.mem_cons.mp member with rfl | member
      · exact step.2
      · exact settled result member

/-- Whatever packets arrive at a new decoder, no call panics and no group has more than
twice as many slots as the limit on one kind of shard. -/
theorem run_total (start : Instant) (arrivals : List (Instant × NetPacket)) :
    (∀ result ∈ (run (FecDecoder.new start) arrivals).2, result ≠ .panic) ∧
      ∀ key group, (run (FecDecoder.new start) arrivals).1.groups.lookup key = some group →
        group.receivedShards.length ≤ 2 * maxNum := by
  obtain ⟨settled, bounded⟩ := run_bounded (FecDecoder.bounded_new start) arrivals
  exact ⟨settled, fun key group held => (bounded key group held).slots⟩

end Indexed
end VntClient
