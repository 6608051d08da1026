import VntClient.FecDecoder

/-!
What one call of `receive` can do to its group, whatever packet it is given: nothing, an
error before or behind the point where the shard is stored, or one of the three ways of
going on with the stored shard.
-/

namespace VntClient

namespace ReedSolomon

theorem reconstruct_keeps {rs : ReedSolomon} {shards filled : List (Option Bytes)}
    (accepted : rs.reconstruct shards = .ok filled) :
    filled.length = shards.length ∧
      ∀ i shard, shards.getD i none = some shard → filled.getD i none = some shard := by
  unfold reconstruct at accepted
  split at accepted
  · cases accepted
  · split at accepted
    · cases accepted
    · cases scanned : scanLengths none shards with
      | err message =>
          rw [scanned] at accepted
          cases accepted
      | panic =>
          rw [scanned] at accepted
          cases accepted
      | ok length =>
          rw [scanned, Outcome.ok_bind] at accepted
          split at accepted
          · cases accepted
            exact ⟨rfl, fun _ _ held => held⟩
          · split at accepted
            · cases accepted
            · cases accepted
              refine ⟨by rw [fill, List.length_map, List.length_range], ?_⟩
              intro i shard held
              have inside : i < shards.length := by
                by_contra outside
                rw [List.getD_eq_default _ _ (Nat.not_lt.mp outside)] at held
                cases held
              simp only [fill, List.getD_eq_getElem?_getD, List.getElem?_map,
                List.getElem?_range inside, Option.map_some, Option.getD_some] at held ⊢
              rw [held, Option.getD_some]

theorem new_no_panic (dataShards parityShards : Nat) : new dataShards parityShards ≠ .panic := by
  unfold new
  repeat' split
  all_goals exact fun same => by cases same

theorem scanLengths_no_panic (seen : Option Nat) (shards : List (Option Bytes)) :
    scanLengths seen shards ≠ .panic := by
  induction shards generalizing seen with
  | nil => exact fun same => by cases same
  | cons slot rest ih =>
      cases slot with
      | none => exact ih seen
      | some shard =>
          rw [scanLengths]
          repeat' split
          · exact fun same => by cases same
          · exact fun same => by cases same
          · exact ih _

theorem reconstruct_no_panic (rs : ReedSolomon) (shards : List (Option Bytes)) :
    rs.reconstruct shards ≠ .panic := by
  unfold reconstruct
  split
  · exact fun same => by cases same
  · split
    · exact fun same => by cases same
    · cases scanned : scanLengths none shards with
      | err message => exact fun same => by cases same
      | panic => exact absurd scanned (scanLengths_no_panic none shards)
      | ok length =>
          rw [Outcome.ok_bind]
          repeat' split
          all_goals exact fun same => by cases same

end ReedSolomon

namespace FecGroup

def Has (group : FecGroup) (i : Nat) : Prop := (group.receivedShards.getD i none).isSome = true

instance (group : FecGroup) (i : Nat) : Decidable (group.Has i) := by
  unfold Has
  infer_instance

/-- The checks on what a parity packet says of its group. -/
def Accepts (group : FecGroup) (shard : FecPacket) : Prop :=
  ∀ parityData ∈ shard.parityData,
    parityData.dataShards.toNat ≤ maxNum ∧ parityData.parityShards.toNat ≤ maxNum ∧
      shard.packetIndex.toNat < parityData.dataShards.toNat + parityData.parityShards.toNat ∧
      (group.dataShards = 0 ∨ group.dataShards = parityData.dataShards.toNat) ∧
      (group.parityShards = 0 ∨ group.parityShards = parityData.parityShards.toNat)

instance (group : FecGroup) (shard : FecPacket) : Decidable (group.Accepts shard) := by
  unfold Accepts
  infer_instance

structure Stores (group : FecGroup) (shard : FecPacket) (stored : FecGroup)
    (returned : Option Returned) : Prop where
  slots : ∃ data, ∀ j, stored.receivedShards.getD j none =
    if j = shard.packetIndex.toNat then some data else group.receivedShards.getD j none
  sized : shard.packetIndex.toNat < stored.receivedShards.length ∧
    group.receivedShards.length ≤ stored.receivedShards.length
  limits : stored.receivedShards.length ≤ max group.receivedShards.length
      (max (shard.packetIndex.toNat + 1) (stored.dataShards + stored.parityShards))
  index : ∀ entry ∈ returned, entry.index = shard.packetIndex.toNat
  counted : stored.receivedOriginalCount = group.receivedOriginalCount + returned.toList.length
  dims : group.Accepts shard ∧ (stored.dataShards = group.dataShards ∧
      stored.parityShards = group.parityShards ∧ shard.parityData = none ∨
    ∃ parityData, shard.parityData = some parityData ∧
      stored.dataShards = parityData.dataShards.toNat ∧
      stored.parityShards = parityData.parityShards.toNat)

theorem store_data (group : FecGroup) (packet : NetPacket) (shard : FecPacket)
    (plain : shard.parityData = none) :
    group.store packet shard = .ok
      ({ group with
          receivedOriginalCount := group.receivedOriginalCount + 1
          receivedShards := (grow group.receivedShards (shard.packetIndex.toNat + 1)).set
            shard.packetIndex.toNat (some (fecData packet.header shard.payload)) },
        some ⟨shard.packetIndex.toNat, ⟨packet.header.setFlag fec false, shard.payload⟩⟩) := by
  have unwrapped : (({ NetPacket.zeroed shard.payload.length with header := packet.header } :
      NetPacket).setFecFlag false).setPayload shard.payload =
        .ok ⟨packet.header.setFlag fec false, shard.payload⟩ := by
    rw [NetPacket.setPayload_exact _ _ List.length_replicate]
    rfl
  rw [store, plain]
  simp only [unwrapped, Outcome.ok_bind, Outcome.pure_eq]

theorem store_parity (group : FecGroup) (packet : NetPacket) (shard : FecPacket)
    (parityData : ParityData) (coded : shard.parityData = some parityData)
    (accepts : group.Accepts shard) :
    group.store packet shard = .ok
      ({ group with
          dataShards := parityData.dataShards.toNat
          parityShards := parityData.parityShards.toNat
          receivedShards := (grow group.receivedShards
            (parityData.dataShards.toNat + parityData.parityShards.toNat)).set
              shard.packetIndex.toNat (some shard.payload) }, none) := by
  obtain ⟨data, parity, inside, sameData, sameParity⟩ := accepts parityData coded
  rw [store, coded]
  simp only [if_neg (Nat.not_lt.mpr data), if_neg (Nat.not_lt.mpr parity),
    if_neg (Nat.not_le.mpr inside)]
  rw [if_neg, if_neg]
  · rintro ⟨known, differs⟩
    exact sameParity.elim known differs
  · rintro ⟨known, differs⟩
    exact sameData.elim known differs

theorem store_refused (group : FecGroup) (packet : NetPacket) (shard : FecPacket)
    (refused : ¬ group.Accepts shard) : ∃ message, group.store packet shard = .err message := by
  cases coded : shard.parityData with
  | none =>
      refine absurd ?_ refused
      intro parityData member
      rw [coded] at member
      cases member
  | some parityData =>
      rw [store, coded]
      simp only
      split
      · exact ⟨_, rfl⟩
      · split
        · exact ⟨_, rfl⟩
        · split
          · exact ⟨_, rfl⟩
          · split
            · exact ⟨_, rfl⟩
            · split
              · exact ⟨_, rfl⟩
              · rename_i data parity inside sameData sameParity
                refine absurd ?_ refused
                intro other member
                rw [coded] at member
                cases member
                refine ⟨Nat.not_lt.mp data, Nat.not_lt.mp parity, Nat.not_le.mp inside, ?_, ?_⟩
                · by_contra differs
                  exact sameData (not_or.mp differs)
                · by_contra differs
                  exact sameParity (not_or.mp differs)

/-- Storing succeeds exactly on what the checks accept. -/
theorem store_accepted (group : FecGroup) (packet : NetPacket) (shard : FecPacket)
    (accepts : group.Accepts shard) :
    ∃ stored returned, group.store packet shard = .ok (stored, returned) ∧
      Stores group shard stored returned := by
  cases coded : shard.parityData with
  | none =>
      refine ⟨_, _, store_data group packet shard coded, ?_⟩
      have inside : shard.packetIndex.toNat <
          (grow group.receivedShards (shard.packetIndex.toNat + 1)).length := by
        rw [grow_length]
        omega
      refine ⟨⟨fecData packet.header shard.payload, fun j => ?_⟩, ⟨?_, ?_⟩, ?_, ?_, rfl, accepts,
        Or.inl ⟨rfl, rfl, coded⟩⟩
      · rw [getD_set _ _ _ _ inside, grow_getD]
      · rw [List.length_set]
        exact inside
      · rw [List.length_set, grow_length]
        exact Nat.le_max_left _ _
      · rw [List.length_set, grow_length]
        omega
      · rintro entry ⟨rfl⟩
        rfl
  | some parityData =>
      refine ⟨_, _, store_parity group packet shard parityData coded accepts, ?_⟩
      obtain ⟨_, _, bounded, _, _⟩ := accepts parityData coded
      have inside : shard.packetIndex.toNat < (grow group.receivedShards
          (parityData.dataShards.toNat + parityData.parityShards.toNat)).length := by
        rw [grow_length]
        omega
      refine ⟨⟨shard.payload, fun j => ?_⟩, ⟨?_, ?_⟩, ?_, ?_, rfl, accepts,
        Or.inr ⟨parityData, coded, rfl, rfl⟩⟩
      · rw [getD_set _ _ _ _ inside, grow_getD]
      · rw [List.length_set]
        exact inside
      · rw [List.length_set, grow_length]
        exact Nat.le_max_left _ _
      · rw [List.length_set, grow_length]
        simp only
        omega
      · rintro entry ⟨⟩

inductive Moves (group : FecGroup) (now : Instant) (shard : FecPacket) : GroupStep → Prop where
  | ignored (idle : group.isDone = true ∨ group.Has shard.packetIndex.toNat) :
      Moves group now shard ⟨group, .ok none, false⟩
  | rejected {message : String} (unfinished : group.isDone = false)
      (missing : ¬ group.Has shard.packetIndex.toNat) (refused : ¬ group.Accepts shard) :
      Moves group now shard ⟨group, .err message, false⟩
  | kept {stored : FecGroup} {returned : Option Returned} (unfinished : group.isDone = false)
      (missing : ¬ group.Has shard.packetIndex.toNat)
      (stores : Stores group shard stored returned) (waiting : stored.isDone = false) :
      Moves group now shard ⟨{ stored with lastUpdate := now }, .ok (joined returned none), true⟩
  | closed {stored : FecGroup} {returned : Option Returned} (unfinished : group.isDone = false)
      (missing : ¬ group.Has shard.packetIndex.toNat)
      (stores : Stores group shard stored returned) (complete : stored.isDone = true) :
      Moves group now shard
        ⟨{ stored.done with lastUpdate := now }, .ok (joined returned none), true⟩
  | repaired {stored : FecGroup} {returned : Option Returned} {rebuilt : List Returned}
      (unfinished : group.isDone = false) (missing : ¬ group.Has shard.packetIndex.toNat)
      (stores : Stores group shard stored returned) (known : stored.dataShards ≠ 0)
      (distinct : (rebuilt.map Returned.index).Nodup)
      (lost : ∀ entry ∈ rebuilt, entry.index < stored.dataShards ∧ ¬ stored.Has entry.index) :
      Moves group now shard
        ⟨{ stored.done with lastUpdate := now }, .ok (joined returned (some rebuilt)), true⟩
  | failed {stored : FecGroup} {returned : Option Returned} {shards : List (Option Bytes)}
      {message : String} (unfinished : group.isDone = false)
      (missing : ¬ group.Has shard.packetIndex.toNat)
      (stores : Stores group shard stored returned) (waiting : stored.isDone = false)
      (sized : shards.length = stored.receivedShards.length)
      (keeps : ∀ i data, stored.receivedShards.getD i none = some data →
        shards.getD i none = some data) :
      Moves group now shard
        ⟨{ stored with receivedShards := shards, lastUpdate := now }, .err message, false⟩

theorem setPayload_no_panic (packet : NetPacket) (data : Bytes) :
    packet.setPayload data ≠ .panic := by
  unfold NetPacket.setPayload
  split <;> exact fun same => by cases same

theorem rebuildNetPacket_no_panic (current : NetPacket) (data : Bytes) :
    rebuildNetPacket current data ≠ .panic := by
  unfold rebuildNetPacket
  split
  · simp only
    split
    · exact fun same => by cases same
    · exact setPayload_no_panic _ _
  · exact fun same => by cases same

theorem rebuildAll_indices (current : NetPacket) (delivered : List Bool)
    (shards : List (Option Bytes)) (start : Nat) {rebuilt : List Returned}
    (accepted : rebuildAll current delivered start shards = .ok rebuilt) :
    (rebuilt.map Returned.index).Nodup ∧ ∀ entry ∈ rebuilt,
      start ≤ entry.index ∧ entry.index < start + shards.length ∧
        delivered.getD entry.index false = false := by
  induction shards generalizing start rebuilt with
  | nil =>
      cases accepted
      exact ⟨List.nodup_nil, fun entry member => absurd member List.not_mem_nil⟩
  | cons slot rest ih =>
      -- an index of the rest is an index of the whole
      have wider : ∀ {found : List Returned},
          rebuildAll current delivered (start + 1) rest = .ok found →
          (found.map Returned.index).Nodup ∧ ∀ entry ∈ found,
            start + 1 ≤ entry.index ∧ entry.index < start + (rest.length + 1) ∧
              delivered.getD entry.index false = false := by
        intro found taken
        obtain ⟨distinct, inside⟩ := ih (start + 1) taken
        refine ⟨distinct, fun entry member => ?_⟩
        obtain ⟨low, high, absent⟩ := inside entry member
        exact ⟨low, by omega, absent⟩
      have same : ∀ {found : List Returned},
          rebuildAll current delivered (start + 1) rest = .ok found →
          (found.map Returned.index).Nodup ∧ ∀ entry ∈ found,
            start ≤ entry.index ∧ entry.index < start + (rest.length + 1) ∧
              delivered.getD entry.index false = false := by
        intro found taken
        obtain ⟨distinct, inside⟩ := wider taken
        refine ⟨distinct, fun entry member => ?_⟩
        obtain ⟨low, high, absent⟩ := inside entry member
        exact ⟨by omega, high, absent⟩
      cases slot with
      | none => exact same accepted
      | some data =>
          rw [rebuildAll] at accepted
          split at accepted
          · exact same accepted
          · rename_i absent
            cases first : rebuildNetPacket current data with
            | err message =>
                rw [first] at accepted
                cases accepted
            | panic =>
                rw [first] at accepted
                cases accepted
            | ok packet =>
                rw [first, Outcome.ok_bind] at accepted
                cases tail : rebuildAll current delivered (start + 1) rest with
                | err message =>
                    rw [tail] at accepted
                    cases accepted
                | panic =>
                    rw [tail] at accepted
                    cases accepted
                | ok found =>
                    rw [tail, Outcome.ok_bind] at accepted
                    cases accepted
                    obtain ⟨distinct, inside⟩ := wider tail
                    constructor
                    · rw [List.map_cons, List.nodup_cons]
                      refine ⟨?_, distinct⟩
                      intro member
                      obtain ⟨entry, member, index⟩ := List.mem_map.mp member
                      have low := (inside entry member).1
                      simp only at index
                      omega
                    · intro entry member
                      rcases List.mem_cons.mp member with rfl | member
                      · exact ⟨Nat.le_refl _, by simp, Bool.eq_false_iff.mpr absent⟩
                      · obtain ⟨low, high, absent⟩ := inside entry member
                        exact ⟨by omega, high, absent⟩

theorem rebuildAll_no_panic (current : NetPacket) (delivered : List Bool)
    (shards : List (Option Bytes)) (start : Nat) :
    rebuildAll current delivered start shards ≠ .panic := by
  induction shards generalizing start with
  | nil => exact fun same => by cases same
  | cons slot rest ih =>
      cases slot with
      | none => exact ih _
      | some data =>
          rw [rebuildAll]
          split
          · exact ih _
          · cases first : rebuildNetPacket current data with
            | err message => exact fun same => by cases same
            | panic => exact absurd first (rebuildNetPacket_no_panic current data)
            | ok packet =>
                rw [Outcome.ok_bind]
                cases tail : rebuildAll current delivered (start + 1) rest with
                | err message => exact fun same => by cases same
                | panic => exact absurd tail (ih (start + 1))
                | ok found => exact fun same => by cases same

theorem delivered_missing (group : FecGroup) {i : Nat} (early : i < group.dataShards)
    (absent : ((group.receivedShards.take group.dataShards).map Option.isSome).getD i false = false) :
    ¬ group.Has i := by
  intro has
  simp only [Has, List.getD_eq_getElem?_getD] at has absent
  rw [List.getElem?_map, List.getElem?_take_of_lt early] at absent
  cases slot : group.receivedShards[i]? with
  | none =>
      rw [slot] at has
      cases has
  | some shard =>
      rw [slot] at has absent
      rw [Option.map_some, Option.getD_some] at absent
      rw [Option.getD_some, absent] at has
      cases has

/-- A repair that fails may leave shards it has worked out, but takes none away. -/
theorem decodeWithRs_cases (group : FecGroup) (groupId : UInt64) (packet : NetPacket) :
    (∃ rebuilt : List Returned,
      group.decodeWithRs groupId packet = (group.done, .ok (some rebuilt)) ∧
        (rebuilt.map Returned.index).Nodup ∧
        ∀ entry ∈ rebuilt, entry.index < group.dataShards ∧ ¬ group.Has entry.index) ∨
    ∃ shards message,
      group.decodeWithRs groupId packet = ({ group with receivedShards := shards }, .err message) ∧
        shards.length = group.receivedShards.length ∧
        ∀ i data, group.receivedShards.getD i none = some data → shards.getD i none = some data := by
  unfold decodeWithRs
  split
  · exact Or.inr ⟨group.receivedShards, _, rfl, rfl, fun _ _ held => held⟩
  · simp only
    cases coder : ReedSolomon.new group.dataShards group.parityShards with
    | err message =>
        exact Or.inr ⟨group.receivedShards, message, rfl, rfl, fun _ _ held => held⟩
    | panic => exact absurd coder (ReedSolomon.new_no_panic _ _)
    | ok rs =>
        rw [Outcome.ok_bind]
        cases filled : rs.reconstruct group.receivedShards with
        | err message =>
            exact Or.inr ⟨group.receivedShards, message, rfl, rfl, fun _ _ held => held⟩
        | panic => exact absurd filled (ReedSolomon.reconstruct_no_panic _ _)
        | ok shards =>
            have kept := ReedSolomon.reconstruct_keeps filled
            simp only
            cases worked : rebuildAll packet ((group.receivedShards.take group.dataShards).map
                Option.isSome) 0 (shards.take group.dataShards) with
            | err message => exact Or.inr ⟨shards, message, rfl, kept⟩
            | panic => exact absurd worked (rebuildAll_no_panic _ _ _ _)
            | ok rebuilt =>
                obtain ⟨distinct, inside⟩ := rebuildAll_indices _ _ _ _ worked
                refine Or.inl ⟨rebuilt, rfl, distinct, fun entry member => ?_⟩
                obtain ⟨_, high, absent⟩ := inside entry member
                have early : entry.index < group.dataShards := by
                  rw [List.length_take] at high
                  omega
                exact ⟨early, group.delivered_missing early absent⟩

theorem settle_moves {group stored : FecGroup} {shard : FecPacket} {returned : Option Returned}
    (unfinished : group.isDone = false) (missing : ¬ group.Has shard.packetIndex.toNat)
    (stores : Stores group shard stored returned) (now : Instant) (packet : NetPacket) :
    Moves group now shard (stored.settle now shard.groupId packet returned) := by
  rw [settle]
  have same : ({ stored with lastUpdate := now } : FecGroup).isDone = stored.isDone := rfl
  by_cases complete : stored.isDone = true
  · rw [if_pos (same.trans complete)]
    exact Moves.closed unfinished missing stores complete
  · have waiting := Bool.eq_false_iff.mpr complete
    rw [if_neg (by rw [same]; exact complete), tryDecode]
    have resting : Moves group now shard
        ⟨{ stored with lastUpdate := now }, .ok (joined returned none), true⟩ :=
      Moves.kept unfinished missing stores waiting
    by_cases unknown : stored.dataShards = 0
    · rw [if_pos unknown]
      exact resting
    · rw [if_neg unknown]
      by_cases all : stored.receivedOriginalCount = stored.dataShards
      · rw [if_pos all]
        exact resting
      · rw [if_neg all]
        simp only
        by_cases few : (stored.receivedShards.filter Option.isSome).length < stored.dataShards
        · rw [if_pos few]
          exact resting
        · rw [if_neg few]
          rcases decodeWithRs_cases ({ stored with lastUpdate := now } : FecGroup) shard.groupId
            packet with ⟨rebuilt, decoded, distinct, lost⟩ | ⟨shards, message, decoded, sized, keeps⟩
          · rw [decoded]
            exact Moves.repaired unfinished missing stores unknown distinct lost
          · rw [decoded]
            have fails : Moves group now shard
                ⟨{ stored with receivedShards := shards, lastUpdate := now }, .err message, false⟩ :=
              Moves.failed unfinished missing stores waiting sized keeps
            exact fails

theorem receive_stored {group stored : FecGroup} {packet : NetPacket} {shard : FecPacket}
    {returned : Option Returned} (unfinished : group.isDone = false)
    (missing : ¬ group.Has shard.packetIndex.toNat)
    (kept : group.store packet shard = .ok (stored, returned)) (now : Instant) :
    group.receive now packet shard = stored.settle now shard.groupId packet returned := by
  have vacant : ¬ (group.receivedShards.getD shard.packetIndex.toNat none).isSome = true := missing
  rw [receive, if_neg (by rw [unfinished]; exact Bool.false_ne_true), if_neg vacant, kept]

theorem receive_refused {group : FecGroup} {packet : NetPacket} {shard : FecPacket}
    {message : String} (unfinished : group.isDone = false)
    (missing : ¬ group.Has shard.packetIndex.toNat)
    (refused : group.store packet shard = .err message) (now : Instant) :
    group.receive now packet shard = ⟨group, .err message, false⟩ := by
  have vacant : ¬ (group.receivedShards.getD shard.packetIndex.toNat none).isSome = true := missing
  rw [receive, if_neg (by rw [unfinished]; exact Bool.false_ne_true), if_neg vacant, refused]

theorem receive_ignored {group : FecGroup} {shard : FecPacket}
    (idle : group.isDone = true ∨ group.Has shard.packetIndex.toNat) (now : Instant)
    (packet : NetPacket) : group.receive now packet shard = ⟨group, .ok none, false⟩ := by
  rw [receive]
  split
  · rfl
  · rename_i unfinished
    have held : (group.receivedShards.getD shard.packetIndex.toNat none).isSome = true :=
      idle.resolve_left unfinished
    rw [if_pos held]

theorem receive_moves (group : FecGroup) (now : Instant) (packet : NetPacket) (shard : FecPacket) :
    Moves group now shard (group.receive now packet shard) := by
  by_cases idle : group.isDone = true ∨ group.Has shard.packetIndex.toNat
  · rw [receive_ignored idle]
    exact Moves.ignored idle
  · obtain ⟨complete, missing⟩ := not_or.mp idle
    have unfinished := Bool.eq_false_iff.mpr complete
    by_cases accepts : group.Accepts shard
    · obtain ⟨stored, returned, kept, stores⟩ := store_accepted group packet shard accepts
      rw [receive_stored unfinished missing kept]
      exact settle_moves unfinished missing stores now packet
    · obtain ⟨message, refused⟩ := store_refused group packet shard accepts
      rw [receive_refused unfinished missing refused]
      exact Moves.rejected unfinished missing accepts

theorem Stores.has {group stored : FecGroup} {shard : FecPacket} {returned : Option Returned}
    (stores : Stores group shard stored returned) :
    stored.Has shard.packetIndex.toNat ∧ ∀ i, group.Has i → stored.Has i := by
  obtain ⟨data, slots⟩ := stores.slots
  constructor
  · rw [Has, slots, if_pos rfl]
    rfl
  · intro i held
    rw [Has, slots]
    split
    · rfl
    · exact held

theorem isDone_done {group : FecGroup} (known : group.dataShards ≠ 0) (now : Instant) :
    ({ group.done with lastUpdate := now } : FecGroup).isDone = true := by
  simp [isDone, done, known]

end FecGroup

def opened (packet : NetPacket) : Option (Ipv4Addr × UInt64) :=
  (FecPacket.decode packet.payload).bind fun shard =>
    if maxNum < shard.packetIndex.toNat then none else some (packet.srcId, shard.groupId)

theorem opened_some {packet : NetPacket} {key : Ipv4Addr × UInt64} (found : opened packet = some key) :
    ∃ shard, FecPacket.decode packet.payload = some shard ∧
      shard.packetIndex.toNat ≤ maxNum ∧ (packet.srcId, shard.groupId) = key := by
  unfold opened at found
  obtain ⟨shard, decoded, found⟩ := Option.bind_eq_some_iff.mp found
  split at found
  · cases found
  · rename_i large
    exact ⟨shard, decoded, Nat.not_lt.mp large, Option.some.inj found⟩

namespace FecDecoder

theorem receive_unopened (decoder : FecDecoder) (now : Instant) {packet : NetPacket}
    (unopened : opened packet = none) :
    ∃ message, decoder.receive now packet = (decoder, .err message) := by
  unfold opened at unopened
  cases decoded : FecPacket.decode packet.payload with
  | none =>
      rw [receive, decoded]
      exact ⟨_, rfl⟩
  | some shard =>
      rw [decoded, Option.bind_some] at unopened
      split at unopened
      · rename_i large
        rw [receive, decoded]
        simp only [if_pos large]
        exact ⟨_, rfl⟩
      · cases unopened

def write (decoder : FecDecoder) (key : Ipv4Addr × UInt64) (group : FecGroup) : FecDecoder :=
  { decoder with groups := decoder.groups.insert key group }

/-- A cleanup spares a group updated within the time-out when no more groups than the limit
are stored. -/
theorem cleanup_within {decoder : FecDecoder} (now : Instant)
    (within : decoder.groups.entries.length ≤ maxGroups) {key : Ipv4Addr × UInt64}
    {group : FecGroup} (held : decoder.groups.lookup key = some group)
    (recent : now - group.lastUpdate < groupTimeout) :
    (decoder.cleanup now).groups.lookup key = some group := by
  unfold cleanup
  split
  · simp only [cleanupOldGroups]
    rw [if_neg, Table.lookup_retain, held, Option.filter_some, if_pos (decide_eq_true recent)]
    exact Nat.not_lt.mpr (Nat.le_trans (List.length_filter_le _ _) within)
  · exact held

theorem lookup_write (decoder : FecDecoder) (key : Ipv4Addr × UInt64) (group : FecGroup)
    (other : Ipv4Addr × UInt64) : (decoder.write key group).groups.lookup other =
      if other = key then some group else decoder.groups.lookup other := by
  unfold write
  split
  · rename_i same
    rw [same, AList.lookup_insert]
  · rename_i differs
    rw [AList.lookup_insert_ne differs]

/-- The group is written back, and the cleanup may follow. -/
theorem receive_written (decoder : FecDecoder) (now : Instant) {packet : NetPacket}
    {shard : FecPacket} (decoded : FecPacket.decode packet.payload = some shard)
    (small : shard.packetIndex.toNat ≤ maxNum) :
    let key := (packet.srcId, shard.groupId)
    let step := (decoder.groupOf now key).receive now packet shard
    (decoder.receive now packet).1 = decoder.write key step.group ∨
      (decoder.receive now packet).1 = (decoder.write key step.group).cleanup now := by
  rw [receive_group decoder now packet shard decoded small _ rfl]
  simp only
  split
  · exact Or.inr rfl
  · exact Or.inl rfl

theorem receive_opened (decoder : FecDecoder) (now : Instant) {packet : NetPacket}
    {key : Ipv4Addr × UInt64} (found : opened packet = some key) :
    ∃ shard step, shard.packetIndex.toNat ≤ maxNum ∧
      FecGroup.Moves (decoder.groupOf now key) now shard step ∧
      (decoder.receive now packet).2 = step.result ∧
      ((decoder.receive now packet).1 = decoder.write key step.group ∨
        (decoder.receive now packet).1 = (decoder.write key step.group).cleanup now) := by
  obtain ⟨shard, decoded, small, rfl⟩ := opened_some found
  refine ⟨shard, _, small, FecGroup.receive_moves _ now packet shard, ?_,
    decoder.receive_written now decoded small⟩
  rw [receive_group decoder now packet shard decoded small _ rfl]

theorem lookup_written {before after : FecDecoder} {now : Instant} {key : Ipv4Addr × UInt64}
    {group : FecGroup}
    (written : after = before.write key group ∨ after = (before.write key group).cleanup now)
    (other : Ipv4Addr × UInt64) :
    after.groups.lookup other = none ∨ after.groups.lookup other =
      if other = key then some group else before.groups.lookup other := by
  rw [← lookup_write]
  rcases written with rfl | rfl
  · exact Or.inr rfl
  · exact (lookup_cleanup _ now other).symm

end FecDecoder

inductive FecDecoder.Reachable : FecDecoder → Prop where
  | new (start : Instant) : Reachable (FecDecoder.new start)
  | receive {decoder : FecDecoder} (reached : Reachable decoder) (now : Instant)
      (packet : NetPacket) : Reachable (decoder.receive now packet).1

end VntClient
