import VntClient.FecMoves

/-!
What is left of a packet that `receive` refuses. The checks on a parity packet come before
the first write to its group but behind the call that creates the group, and a repair that
fails comes behind the write that stores the shard.
-/

namespace VntClient

def FecGroup.content (group : FecGroup) : Nat × Nat × Nat × List (Option Bytes) :=
  (group.dataShards, group.parityShards, group.receivedOriginalCount, group.receivedShards)

/-- The slot a packet was stored in tells its group from the one before. -/
theorem FecGroup.stored_content {group stored : FecGroup} {shard : FecPacket}
    {returned : Option Returned} {shards : List (Option Bytes)} {now : Instant}
    (missing : ¬ group.Has shard.packetIndex.toNat) (stores : Stores group shard stored returned)
    (keeps : ∀ i data, stored.receivedShards.getD i none = some data →
      shards.getD i none = some data) :
    ({ stored with receivedShards := shards, lastUpdate := now } : FecGroup).content ≠
      group.content := by
  intro same
  obtain ⟨data, slots⟩ := stores.slots
  have filled := keeps shard.packetIndex.toNat data (by rw [slots, if_pos rfl])
  have shardsSame : shards = group.receivedShards := by
    simp only [content, Prod.mk.injEq] at same
    exact same.2.2.2
  apply missing
  rw [Has, ← shardsSame, filled]
  rfl

namespace FecDecoder

def SameGroups (before after : FecDecoder) : Prop :=
  ∀ key, (after.groups.lookup key).map FecGroup.content =
    (before.groups.lookup key).map FecGroup.content

/-- The packet is not readable, its index is over the limit, or it fails the checks of a
group that is already there. -/
def RefusedEarly (decoder : FecDecoder) (packet : NetPacket) : Prop :=
  ∀ shard, FecPacket.decode packet.payload = some shard →
    maxNum < shard.packetIndex.toNat ∨
      ∃ group, decoder.groups.lookup (packet.srcId, shard.groupId) = some group ∧
        ¬ group.Accepts shard

theorem groupOf_some {decoder : FecDecoder} {key : Ipv4Addr × UInt64} {group : FecGroup}
    (held : decoder.groups.lookup key = some group) (now : Instant) :
    decoder.groupOf now key = group := by
  rw [groupOf, held, Option.getD_some]

theorem groupOf_none {decoder : FecDecoder} {key : Ipv4Addr × UInt64}
    (absent : decoder.groups.lookup key = none) (now : Instant) :
    decoder.groupOf now key = FecGroup.default now := by
  rw [groupOf, absent, Option.getD_none]

theorem sameGroups_insert (decoder : FecDecoder) (key : Ipv4Addr × UInt64) (group : FecGroup) :
    SameGroups decoder ⟨decoder.groups.insert key group, decoder.lastCleanup⟩ ↔
      (decoder.groups.lookup key).map FecGroup.content = some group.content := by
  constructor
  · intro same
    have here := same key
    rw [AList.lookup_insert, Option.map_some] at here
    exact here.symm
  · intro held other
    by_cases same : other = key
    · subst same
      rw [AList.lookup_insert, Option.map_some, held]
    · rw [AList.lookup_insert_ne same]

/-- A refused packet leaves the groups as they were exactly when it was refused before its
group could be created and before its shard was stored. -/
theorem rejected_unchanged_iff (decoder : FecDecoder) (now : Instant) (packet : NetPacket)
    (message : String) (rejected : (decoder.receive now packet).2 = .err message) :
    decoder.SameGroups (decoder.receive now packet).1 ↔ decoder.RefusedEarly packet := by
  cases decoded : FecPacket.decode packet.payload with
  | none =>
      have untouched : (decoder.receive now packet).1 = decoder := by rw [receive, decoded]
      rw [untouched]
      refine ⟨fun _ shard readable => ?_, fun _ _ => rfl⟩
      rw [decoded] at readable
      cases readable
  | some shard =>
      have early : decoder.RefusedEarly packet ↔ maxNum < shard.packetIndex.toNat ∨
          ∃ group, decoder.groups.lookup (packet.srcId, shard.groupId) = some group ∧
            ¬ group.Accepts shard := by
        constructor
        · exact fun early => early shard decoded
        · intro early other readable
          rw [decoded] at readable
          cases readable
          exact early
      by_cases large : maxNum < shard.packetIndex.toNat
      · have untouched : (decoder.receive now packet).1 = decoder := by
          rw [receive, decoded]
          simp only [if_pos large]
        rw [untouched]
        exact ⟨fun _ => early.mpr (Or.inl large), fun _ _ => rfl⟩
      · rw [early]
        have received := receive_group decoder now packet shard decoded (Nat.not_lt.mp large) _ rfl
        have moves := FecGroup.receive_moves (decoder.groupOf now (packet.srcId, shard.groupId)) now
          packet shard
        generalize (decoder.groupOf now (packet.srcId, shard.groupId)).receive now packet
          shard = step at moves received
        -- a group that was not there is there now, and nothing was there to refuse the packet
        have created : decoder.groups.lookup (packet.srcId, shard.groupId) = none →
            ∀ group : FecGroup, ((decoder.groups.lookup (packet.srcId, shard.groupId)).map
                FecGroup.content = some group.content ↔
              maxNum < shard.packetIndex.toNat ∨
                ∃ group, decoder.groups.lookup (packet.srcId, shard.groupId) = some group ∧
                  ¬ group.Accepts shard) := by
          intro absent group
          rw [absent]
          constructor
          · intro same
            cases same
          · rintro (exceeds | ⟨group, held, _⟩)
            · exact absurd exceeds large
            · cases held
        rw [received] at rejected ⊢
        cases moves with
        | ignored idle => cases rejected
        | kept unfinished missing stores waiting => cases rejected
        | closed unfinished missing stores complete => cases rejected
        | repaired unfinished missing stores known distinct lost => cases rejected
        | rejected unfinished missing refused =>
            simp only [Bool.false_eq_true, ↓reduceIte, sameGroups_insert]
            -- the group is written back as it was found
            rcases Option.eq_none_or_eq_some (decoder.groups.lookup (packet.srcId, shard.groupId))
              with absent | ⟨group, held⟩
            · exact created absent _
            · rw [groupOf_some held] at refused ⊢
              rw [held]
              exact ⟨fun _ => Or.inr ⟨group, rfl, refused⟩, fun _ => rfl⟩
        | failed unfinished missing stores waiting sized keeps =>
            simp only [Bool.false_eq_true, ↓reduceIte, sameGroups_insert]
            -- the shard is in its slot by then, and its packet had passed the checks
            rcases Option.eq_none_or_eq_some (decoder.groups.lookup (packet.srcId, shard.groupId))
              with absent | ⟨group, held⟩
            · exact created absent _
            · rw [groupOf_some held] at missing stores
              rw [held]
              constructor
              · intro same
                exact absurd (Option.some.inj same).symm
                  (FecGroup.stored_content missing stores keeps)
              · rintro (exceeds | ⟨other, held, refused⟩)
                · exact absurd exceeds large
                · cases held
                  exact absurd stores.dims.1 refused

def oversizedParity : NetPacket :=
  ⟨⟨0x81, 0x55, fec, 0, 0, 0x0A1A0003, 0x0A1A0002⟩,
    (⟨7, 0, [1], some ⟨51, 1⟩⟩ : FecPacket).encodeToVec⟩

theorem oversizedParity_decode :
    FecPacket.decode oversizedParity.payload = some ⟨7, 0, [1], some ⟨51, 1⟩⟩ :=
  FecPacket.decode_encodeToVec _ (by decide)

theorem oversizedParity_receive :
    (FecDecoder.new 0).receive 0 oversizedParity =
      (⟨(∅ : AList fun _ : Ipv4Addr × UInt64 => FecGroup).insert (0x0A1A0003, 7)
          (FecGroup.default 0), 0⟩, .err "data_shards overflow 10.26.0.3") := by
  rw [receive_group _ _ _ _ oversizedParity_decode (by decide) _ rfl]
  rfl

theorem oversized_parity_creates :
    (∃ message, ((FecDecoder.new 0).receive 0 oversizedParity).2 = .err message) ∧
      ¬ (FecDecoder.new 0).RefusedEarly oversizedParity := by
  refine ⟨⟨_, congrArg Prod.snd oversizedParity_receive⟩, ?_⟩
  rw [← rejected_unchanged_iff (FecDecoder.new 0) 0 oversizedParity _
    (congrArg Prod.snd oversizedParity_receive), oversizedParity_receive]
  intro same
  cases same (0x0A1A0003, 7)

theorem rejected_packet_changes_groups :
    ¬ ∀ decoder, Reachable decoder → ∀ (now : Instant) (packet : NetPacket) (message : String),
      (decoder.receive now packet).2 = .err message →
        decoder.SameGroups (decoder.receive now packet).1 := by
  intro unchanged
  have same := unchanged (FecDecoder.new 0) (Reachable.new 0) 0 oversizedParity _
    (congrArg Prod.snd oversizedParity_receive)
  rw [oversizedParity_receive] at same
  cases same (0x0A1A0003, 7)

end FecDecoder
end VntClient
