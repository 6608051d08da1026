import VntClient.FecEncoder

/-!
`fec/decoder.rs`. Shards are collected per source and group; once as many as
the group has data shards are there, the missing ones are reconstructed. A
packet handed back carries the index it has in its group, which nothing in the
decoder reads.
-/

namespace VntClient

def groupTimeout : Nat := fromSecs 3
def maxGroups : Nat := 1000
def maxNum : Nat := 50

structure Returned where
  index : Nat
  packet : NetPacket
deriving DecidableEq

structure FecGroup where
  dataShards : Nat
  parityShards : Nat
  receivedOriginalCount : Nat
  receivedShards : List (Option Bytes)
  lastUpdate : Instant
deriving DecidableEq

/-- What one packet does to its group. `settled` tells whether the call got as
far as its cleanup. -/
structure GroupStep where
  group : FecGroup
  result : Outcome (Option (List Returned))
  settled : Bool

/-- `Vec::resize` with `None`, for a longer length. -/
def grow (shards : List (Option Bytes)) (length : Nat) : List (Option Bytes) :=
  shards ++ List.replicate (length - shards.length) none

def fromBeBytes16 (high low : UInt8) : Nat := high.toNat * 256 + low.toNat

namespace FecGroup

def default (now : Instant) : FecGroup := ⟨0, 0, 0, [], now⟩

def isDone (group : FecGroup) : Bool :=
  group.dataShards != 0 && group.receivedOriginalCount == group.dataShards

def done (group : FecGroup) : FecGroup :=
  { group with receivedOriginalCount := group.dataShards, receivedShards := [] }

def rebuildNetPacket (currentPacket : NetPacket) : Bytes → Outcome NetPacket
  | typeByte :: flagsByte :: high :: low :: body =>
      let payloadLen := fromBeBytes16 high low
      if body.length < payloadLen then .err "invalid payload_len in recovered_data"
      else
        let payload := body.take payloadLen
        let packet := NetPacket.zeroed payload.length
        let packet := { packet with header := { packet.header with typeByte, flagsByte } }
        let packet := (packet.setSrcId currentPacket.srcId).setDestId currentPacket.destId
        let packet := (packet.setTtl currentPacket.ttl).setFecFlag false
        packet.setPayload payload
  | _ => .err "recovered_data too short"

def rebuildAll (currentPacket : NetPacket) (delivered : List Bool) :
    Nat → List (Option Bytes) → Outcome (List Returned)
  | _, [] => .ok []
  | i, none :: rest => rebuildAll currentPacket delivered (i + 1) rest
  | i, some shard :: rest =>
      if delivered.getD i false then rebuildAll currentPacket delivered (i + 1) rest
      else do
        let packet ← rebuildNetPacket currentPacket shard
        let result ← rebuildAll currentPacket delivered (i + 1) rest
        pure (⟨i, packet⟩ :: result)

def decodeWithRs (group : FecGroup) (groupId : UInt64) (netPacket : NetPacket) :
    FecGroup × Outcome (Option (List Returned)) :=
  if group.receivedShards.length ≠ group.dataShards + group.parityShards then
    let received := group.receivedShards.length
    let data := group.dataShards
    let parity := group.parityShards
    let srcIp := displayIp netPacket.srcId
    let message := s!"received_shards.len()({received}) != data_shards({data})+parity_shards({parity})"
    (group, .err s!"{message} src_ip={srcIp},group_id={groupId}")
  else
    let delivered := (group.receivedShards.take group.dataShards).map Option.isSome
    let repaired := do
      let rs ← ReedSolomon.new group.dataShards group.parityShards
      rs.reconstruct group.receivedShards
    match repaired with
    | .err message => (group, .err message)
    | .panic => (group, .panic)
    | .ok shards =>
        let group := { group with receivedShards := shards }
        match rebuildAll netPacket delivered 0 (shards.take group.dataShards) with
        | .ok result => (group.done, .ok (some result))
        | .err message => (group, .err message)
        | .panic => (group, .panic)

def tryDecode (group : FecGroup) (groupId : UInt64) (netPacket : NetPacket) :
    FecGroup × Outcome (Option (List Returned)) :=
  if group.dataShards = 0 then (group, .ok none)
  else if group.receivedOriginalCount = group.dataShards then (group, .ok none)
  else
    let receivedCount := (group.receivedShards.filter Option.isSome).length
    if receivedCount < group.dataShards then (group, .ok none)
    else group.decodeWithRs groupId netPacket

def store (group : FecGroup) (netPacket : NetPacket) (fecPacket : FecPacket) :
    Outcome (FecGroup × Option Returned) :=
  let srcIp := displayIp netPacket.srcId
  let packetIndex := fecPacket.packetIndex.toNat
  match fecPacket.parityData with
  | some parityData =>
      let dataShards := parityData.dataShards.toNat
      let parityShards := parityData.parityShards.toNat
      if maxNum < dataShards then .err s!"data_shards overflow {srcIp}"
      else if maxNum < parityShards then .err s!"parity_shards overflow {srcIp}"
      else if dataShards + parityShards ≤ packetIndex then .err s!"packet_index overflow {srcIp}"
      else if group.dataShards ≠ 0 ∧ group.dataShards ≠ dataShards then
        .err s!"group data_shards!=data_shards {srcIp}"
      else if group.parityShards ≠ 0 ∧ group.parityShards ≠ parityShards then
        .err s!"group parity_shards!=parity_shards {srcIp}"
      else
        let shards := grow group.receivedShards (dataShards + parityShards)
        .ok ({ group with
            dataShards
            parityShards
            receivedShards := shards.set packetIndex (some fecPacket.payload) }, none)
  | none => do
      let packet := { NetPacket.zeroed fecPacket.payload.length with header := netPacket.header }
      let packet ← (packet.setFecFlag false).setPayload fecPacket.payload
      let shards := grow group.receivedShards (packetIndex + 1)
      pure ({ group with
          receivedOriginalCount := group.receivedOriginalCount + 1
          receivedShards :=
            shards.set packetIndex (some (fecData netPacket.header fecPacket.payload)) },
        some ⟨packetIndex, packet⟩)

def joined : Option Returned → Option (List Returned) → Option (List Returned)
  | some packet, some result => some (result ++ [packet])
  | some packet, none => some [packet]
  | none, some result => some result
  | none, none => none

def settle (group : FecGroup) (now : Instant) (groupId : UInt64) (netPacket : NetPacket)
    (packet : Option Returned) : GroupStep :=
  let group := { group with lastUpdate := now }
  if group.isDone then ⟨group.done, .ok (joined packet none), true⟩
  else
    match group.tryDecode groupId netPacket with
    | (group, .ok result) => ⟨group, .ok (joined packet result), true⟩
    | (group, .err message) => ⟨group, .err message, false⟩
    | (group, .panic) => ⟨group, .panic, false⟩

def receive (group : FecGroup) (now : Instant) (netPacket : NetPacket) (fecPacket : FecPacket) :
    GroupStep :=
  if group.isDone then ⟨group, .ok none, false⟩
  else if (group.receivedShards.getD fecPacket.packetIndex.toNat none).isSome then
    ⟨group, .ok none, false⟩
  else
    match group.store netPacket fecPacket with
    | .ok (group, packet) => group.settle now fecPacket.groupId netPacket packet
    | .err message => ⟨group, .err message, false⟩
    | .panic => ⟨group, .panic, false⟩

end FecGroup

structure FecDecoder where
  groups : AList fun _ : Ipv4Addr × UInt64 => FecGroup
  lastCleanup : Instant

namespace FecDecoder

def new (now : Instant) : FecDecoder := ⟨∅, now⟩

/-- The groups over the limit that were updated longest ago. -/
def oldest (groups : AList fun _ : Ipv4Addr × UInt64 => FecGroup) : List (Ipv4Addr × UInt64) :=
  let ids := groups.entries.map fun entry => (entry.1, entry.2.lastUpdate)
  ((ids.insertionSort fun left right => left.2 ≤ right.2).take (ids.length - maxGroups)).map
    Prod.fst

def cleanupOldGroups (now : Instant) (groups : AList fun _ : Ipv4Addr × UInt64 => FecGroup) :
    AList fun _ : Ipv4Addr × UInt64 => FecGroup :=
  let groups := Table.retain (fun _ group => decide (now - group.lastUpdate < groupTimeout)) groups
  if maxGroups < groups.entries.length then
    (oldest groups).foldl (fun groups id => groups.erase id) groups
  else groups

def cleanup (decoder : FecDecoder) (now : Instant) : FecDecoder :=
  if fromSecs 1 < now - decoder.lastCleanup then
    ⟨cleanupOldGroups now decoder.groups, now⟩
  else decoder

def groupOf (decoder : FecDecoder) (now : Instant) (key : Ipv4Addr × UInt64) : FecGroup :=
  (decoder.groups.lookup key).getD (FecGroup.default now)

def receive (decoder : FecDecoder) (now : Instant) (netPacket : NetPacket) :
    FecDecoder × Outcome (Option (List Returned)) :=
  match FecPacket.decode netPacket.payload with
  | none => (decoder, .err "failed to decode Protobuf message")
  | some fecPacket =>
      let srcIp := netPacket.srcId
      if maxNum < fecPacket.packetIndex.toNat then
        let src := displayIp srcIp
        (decoder, .err s!"packet_index overflow {src}")
      else
        let key := (srcIp, fecPacket.groupId)
        let step := (decoder.groupOf now key).receive now netPacket fecPacket
        let decoder := { decoder with groups := decoder.groups.insert key step.group }
        (if step.settled then decoder.cleanup now else decoder, step.result)

end FecDecoder

theorem FecGroup.grow_getD (shards : List (Option Bytes)) (length i : Nat) :
    (grow shards length).getD i none = shards.getD i none := by
  simp only [grow, List.getD_eq_getElem?_getD, List.getElem?_append]
  split
  · rfl
  · rename_i outside
    rw [List.getElem?_eq_none (by omega : shards.length ≤ i)]
    by_cases inside : i - shards.length < length - shards.length <;> simp [inside]

theorem FecGroup.grow_length (shards : List (Option Bytes)) (length : Nat) :
    (grow shards length).length = max shards.length length := by
  simp only [grow, List.length_append, List.length_replicate]
  omega

theorem FecGroup.getD_set (shards : List (Option Bytes)) (i j : Nat) (data : Bytes)
    (inside : i < shards.length) : (shards.set i (some data)).getD j none =
      if j = i then some data else shards.getD j none := by
  by_cases same : j = i
  · subst same
    simp [inside]
  · simp [List.getElem?_set_ne (Ne.symm same), same]

theorem FecGroup.receive_default (start now : Instant) (packet : NetPacket) (fecPacket : FecPacket)
    (plain : fecPacket.parityData = none) :
    ((FecGroup.default start).receive now packet fecPacket).result =
      .ok (some [⟨fecPacket.packetIndex.toNat,
        ⟨packet.header.setFlag fec false, fecPacket.payload⟩⟩]) := by
  have unwrapped : (({ NetPacket.zeroed fecPacket.payload.length with header := packet.header } :
      NetPacket).setFecFlag false).setPayload fecPacket.payload =
        .ok ⟨packet.header.setFlag fec false, fecPacket.payload⟩ := by
    rw [NetPacket.setPayload_exact _ _ List.length_replicate]
    rfl
  have unfinished : (FecGroup.default start).isDone = false := rfl
  have unseen : ((FecGroup.default start).receivedShards.getD
      fecPacket.packetIndex.toNat none).isSome = false := rfl
  rw [receive, unfinished, unseen, store, plain]
  simp only [unwrapped, Outcome.ok_bind, Outcome.pure_eq, settle, Bool.false_eq_true, ↓reduceIte]
  rfl

namespace FecDecoder

/-- A readable packet goes to its group; the cleanup follows a call that got to
its end. -/
theorem receive_group (decoder : FecDecoder) (now : Instant) (netPacket : NetPacket)
    (fecPacket : FecPacket) (decoded : FecPacket.decode netPacket.payload = some fecPacket)
    (small : fecPacket.packetIndex.toNat ≤ maxNum) (step : GroupStep)
    (taken : (decoder.groupOf now (netPacket.srcId, fecPacket.groupId)).receive now netPacket
      fecPacket = step) :
    decoder.receive now netPacket =
      (if step.settled then
          FecDecoder.cleanup
            ⟨decoder.groups.insert (netPacket.srcId, fecPacket.groupId) step.group,
              decoder.lastCleanup⟩ now
        else ⟨decoder.groups.insert (netPacket.srcId, fecPacket.groupId) step.group,
          decoder.lastCleanup⟩,
        step.result) := by
  rw [receive, decoded]
  simp only [if_neg (Nat.not_lt.mpr small), taken]

theorem receive_fresh (decoder : FecDecoder) (now : Instant) (packet : NetPacket)
    (fecPacket : FecPacket) (decoded : FecPacket.decode packet.payload = some fecPacket)
    (plain : fecPacket.parityData = none) (small : fecPacket.packetIndex.toNat ≤ maxNum)
    (fresh : decoder.groups.lookup (packet.srcId, fecPacket.groupId) = none) :
    (decoder.receive now packet).2 = .ok (some [⟨fecPacket.packetIndex.toNat,
      ⟨packet.header.setFlag fec false, fecPacket.payload⟩⟩]) := by
  have first : decoder.groupOf now (packet.srcId, fecPacket.groupId) = FecGroup.default now := by
    rw [groupOf, fresh]
    rfl
  rw [receive_group decoder now packet fecPacket decoded small _ rfl, first]
  exact FecGroup.receive_default now now packet fecPacket plain

theorem lookup_cleanupOldGroups (now : Instant)
    (groups : AList fun _ : Ipv4Addr × UInt64 => FecGroup) (key : Ipv4Addr × UInt64) :
    (cleanupOldGroups now groups).lookup key = groups.lookup key ∨
      (cleanupOldGroups now groups).lookup key = none := by
  have retained : (Table.retain (fun _ (group : FecGroup) =>
      decide (now - group.lastUpdate < groupTimeout)) groups).lookup key = groups.lookup key ∨
      (Table.retain (fun _ (group : FecGroup) =>
        decide (now - group.lastUpdate < groupTimeout)) groups).lookup key = none := by
    rw [Table.lookup_retain]
    cases held : groups.lookup key with
    | none => left; rfl
    | some group => by_cases fresh : now - group.lastUpdate < groupTimeout <;> simp [Option.filter, fresh]
  simp only [cleanupOldGroups]
  split
  · rw [Table.lookup_erases]
    split
    · right; rfl
    · exact retained
  · exact retained

theorem lookup_cleanup (decoder : FecDecoder) (now : Instant) (key : Ipv4Addr × UInt64) :
    (decoder.cleanup now).groups.lookup key = decoder.groups.lookup key ∨
      (decoder.cleanup now).groups.lookup key = none := by
  unfold cleanup
  split
  · exact lookup_cleanupOldGroups now decoder.groups key
  · left; rfl

theorem cleanup_singleton (decoder : FecDecoder) (now : Instant) (key : Ipv4Addr × UInt64)
    (group : FecGroup) (only : decoder.groups = AList.singleton key group)
    (fresh : group.lastUpdate = now) :
    (decoder.cleanup now).groups = AList.singleton key group := by
  have recent : now - group.lastUpdate < groupTimeout := by
    rw [fresh, Nat.sub_self]; decide
  have kept : Table.retain (fun _ (group : FecGroup) =>
      decide (now - group.lastUpdate < groupTimeout)) (AList.singleton key group) =
        AList.singleton key group := by
    apply AList.ext
    simp [Table.retain, recent]
  unfold cleanup
  split
  · simp only [cleanupOldGroups, only, kept]
    rw [if_neg]
    simp [maxGroups]
  · exact only

end FecDecoder
end VntClient
