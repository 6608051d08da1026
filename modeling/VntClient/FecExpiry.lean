import VntClient.FecRejection

/-!
What an expired group still does. A cleanup comes last in a call and not in every call, so a
group that has not been updated for the time-out meets the next packet of its key as it is.
It goes unnoticed when it holds nothing, or when the packet is refused whatever is held.
-/

namespace VntClient

namespace FecGroup

def Empty (group : FecGroup) : Prop := group.content = (0, 0, 0, [])

instance (group : FecGroup) : Decidable group.Empty := by
  unfold Empty
  infer_instance

theorem empty_default (now : Instant) : Empty (FecGroup.default now) := rfl

theorem Empty.eq_default {group : FecGroup} (empty : group.Empty) :
    group = FecGroup.default group.lastUpdate := by
  obtain ⟨dataShards, parityShards, receivedOriginalCount, receivedShards, lastUpdate⟩ := group
  cases empty
  rfl

theorem store_touch (group : FecGroup) (time : Instant) (packet : NetPacket) (shard : FecPacket) :
    ({ group with lastUpdate := time } : FecGroup).store packet shard =
      (group.store packet shard >>= fun stored =>
        .ok ({ stored.1 with lastUpdate := time }, stored.2)) := by
  cases coded : shard.parityData with
  | none =>
      rw [store_data _ _ _ coded, store_data _ _ _ coded]
      rfl
  | some parityData =>
      rw [store, store, coded]
      simp only
      split_ifs <;> rfl

theorem Empty.receive {group : FecGroup} (empty : group.Empty) (now : Instant) (packet : NetPacket)
    (shard : FecPacket) :
    (∃ message, group.receive now packet shard = ⟨group, .err message, false⟩ ∧
      (FecGroup.default now).receive now packet shard =
        ⟨FecGroup.default now, .err message, false⟩) ∨
      group.receive now packet shard = (FecGroup.default now).receive now packet shard := by
  have stored := store_touch (FecGroup.default now) group.lastUpdate packet shard
  have unfinished : ∀ time, (FecGroup.default time).isDone = false := fun _ => rfl
  have missing : ∀ time, ¬ (FecGroup.default time).Has shard.packetIndex.toNat :=
    fun _ held => by cases held
  rw [empty.eq_default]
  by_cases accepts : (FecGroup.default now).Accepts shard
  · obtain ⟨after, returned, kept, _⟩ := store_accepted (FecGroup.default now) packet shard accepts
    rw [kept, Outcome.ok_bind] at stored
    right
    rw [receive_stored (unfinished _) (missing _) stored, receive_stored (unfinished _) (missing _)
      kept]
    rfl
  · obtain ⟨message, refused⟩ := store_refused (FecGroup.default now) packet shard accepts
    rw [refused, Outcome.err_bind] at stored
    left
    exact ⟨message, receive_refused (unfinished _) (missing _) stored now,
      receive_refused (unfinished _) (missing _) refused now⟩

/-- What a new group refuses any group with the slot free refuses, in the same words. -/
theorem store_refused_alike (now : Instant) (packet : NetPacket) (shard : FecPacket)
    (refused : ¬ (FecGroup.default now).Accepts shard) :
    ∃ message, ∀ group : FecGroup, group.store packet shard = .err message := by
  cases coded : shard.parityData with
  | none =>
      refine absurd ?_ refused
      intro parityData member
      rw [coded] at member
      cases member
  | some parityData =>
      by_cases data : maxNum < parityData.dataShards.toNat
      · exact ⟨_, fun group => by rw [store, coded]; exact if_pos data⟩
      · by_cases parity : maxNum < parityData.parityShards.toNat
        · exact ⟨_, fun group => by rw [store, coded]; exact (if_neg data).trans (if_pos parity)⟩
        · by_cases outside : parityData.dataShards.toNat + parityData.parityShards.toNat ≤
              shard.packetIndex.toNat
          · exact ⟨_, fun group => by
              rw [store, coded]
              exact (if_neg data).trans ((if_neg parity).trans (if_pos outside))⟩
          · refine absurd ?_ refused
            intro other member
            rw [coded] at member
            cases member
            exact ⟨Nat.not_lt.mp data, Nat.not_lt.mp parity, Nat.not_le.mp outside, .inl rfl, .inl rfl⟩

/-- A new group keeps what it accepts and waits for more, unless it is the parity of a single
data packet. -/
theorem receive_default_kept (now : Instant) (packet : NetPacket) (shard : FecPacket)
    (accepts : (FecGroup.default now).Accepts shard)
    (several : ∀ parityData ∈ shard.parityData, parityData.dataShards.toNat ≠ 1) :
    ∃ stored returned, (FecGroup.default now).receive now packet shard =
        ⟨{ stored with lastUpdate := now }, .ok (joined returned none), true⟩ ∧
      Stores (FecGroup.default now) shard stored returned := by
  obtain ⟨stored, returned, kept, stores⟩ := store_accepted _ packet shard accepts
  refine ⟨stored, returned, ?_, stores⟩
  rw [receive_stored rfl (fun held => by cases held) kept, settle]
  cases coded : shard.parityData with
  | none =>
      rw [store_data _ _ _ coded] at kept
      cases kept
      rfl
  | some parityData =>
      rw [store_parity _ _ _ _ coded accepts] at kept
      cases kept
      have inside := (accepts parityData coded).2.2.1
      have one : (((grow (FecGroup.default now).receivedShards (parityData.dataShards.toNat +
          parityData.parityShards.toNat)).set shard.packetIndex.toNat
            (some shard.payload)).filter Option.isSome).length = 1 := by
        have bounded : shard.packetIndex.toNat < (grow (FecGroup.default now).receivedShards
            (parityData.dataShards.toNat + parityData.parityShards.toNat)).length := by
          rw [grow_length]
          omega
        rw [← List.countP_eq_length_filter, List.countP_set bounded]
        simp [grow, FecGroup.default, List.countP_replicate]
      have several := several parityData coded
      by_cases none : parityData.dataShards.toNat = 0
      · simp [isDone, tryDecode, none]
      · have unfinished : ¬ (FecGroup.default now).receivedOriginalCount =
            parityData.dataShards.toNat := fun same => none same.symm
        have few : 1 < parityData.dataShards.toNat := by omega
        simp [isDone, tryDecode, none, unfinished, one, few]

/-- A group the decoder can come to hold: done, or empty, or with a shard in a slot that a
packet can name. -/
def Settled (group : FecGroup) : Prop :=
  group.isDone = true ∨ group.Empty ∨ ∃ i ≤ maxNum, group.Has i

theorem Moves.settled {group : FecGroup} {now : Instant} {shard : FecPacket} {step : GroupStep}
    (moves : Moves group now shard step) (settled : group.Settled)
    (small : shard.packetIndex.toNat ≤ maxNum) : step.group.Settled := by
  cases moves with
  | ignored idle => exact settled
  | rejected unfinished missing refused => exact settled
  | kept unfinished missing stores waiting =>
      exact Or.inr (Or.inr ⟨_, small, stores.has.1⟩)
  | closed unfinished missing stores complete =>
      refine Or.inl (isDone_done ?_ now)
      intro unknown
      rw [isDone, unknown] at complete
      cases complete
  | repaired unfinished missing stores known distinct lost =>
      exact Or.inl (isDone_done known now)
  | failed unfinished missing stores waiting sized keeps =>
      refine Or.inr (Or.inr ⟨_, small, ?_⟩)
      obtain ⟨data, filled⟩ := Option.isSome_iff_exists.mp stores.has.1
      rw [Has, keeps _ data filled]
      rfl

end FecGroup

namespace FecDecoder

theorem Reachable.settled {decoder : FecDecoder} (reached : Reachable decoder) :
    ∀ key group, decoder.groups.lookup key = some group → group.Settled := by
  induction reached with
  | new start =>
      intro key group held
      cases held
  | @receive decoder reached now packet ih =>
      intro key group held
      cases found : opened packet with
      | none =>
          obtain ⟨message, unread⟩ := decoder.receive_unopened now found
          rw [unread] at held
          exact ih key group held
      | some own =>
          obtain ⟨shard, step, small, moves, _, written⟩ := decoder.receive_opened now found
          have met : (decoder.groupOf now own).Settled := by
            rcases Option.eq_none_or_eq_some (decoder.groups.lookup own) with absent | ⟨group, held⟩
            · rw [groupOf_none absent]
              exact Or.inr (Or.inl (FecGroup.empty_default now))
            · rw [groupOf_some held]
              exact ih own group held
          rcases lookup_written written key with dropped | looked
          · rw [dropped] at held
            cases held
          · rw [looked] at held
            split at held
            · cases held
              exact moves.settled met small
            · exact ih key group held

def erase (decoder : FecDecoder) (key : Ipv4Addr × UInt64) : FecDecoder :=
  { decoder with groups := decoder.groups.erase key }

def live (decoder : FecDecoder) (now : Instant) (key : Ipv4Addr × UInt64) : Option FecGroup :=
  (decoder.groups.lookup key).filter fun group =>
    decide (now - group.lastUpdate < groupTimeout ∧ ¬ group.Empty)

/-- Two calls give the same result and leave the same groups, empty and expired ones aside. -/
def SameEffect (now : Instant) (left right : FecDecoder × Outcome (Option (List Returned))) : Prop :=
  left.2 = right.2 ∧ left.1.lastCleanup = right.1.lastCleanup ∧ left.1.live now = right.1.live now

/-- An expired group of the packet has no effect: the call goes as it does without it. -/
def IgnoresExpired (decoder : FecDecoder) (now : Instant) (packet : NetPacket) : Prop :=
  ∀ shard group, FecPacket.decode packet.payload = some shard →
    decoder.groups.lookup (packet.srcId, shard.groupId) = some group →
    groupTimeout ≤ now - group.lastUpdate →
      SameEffect now (decoder.receive now packet)
        ((decoder.erase (packet.srcId, shard.groupId)).receive now packet)

theorem groupOf_erase (decoder : FecDecoder) (now : Instant) (key : Ipv4Addr × UInt64) :
    (decoder.erase key).groupOf now key = FecGroup.default now :=
  groupOf_none (AList.lookup_erase key decoder.groups) now

theorem write_erase (decoder : FecDecoder) (key : Ipv4Addr × UInt64) (group : FecGroup) :
    (decoder.erase key).write key group = decoder.write key group := by
  have same : (decoder.groups.erase key).insert key group = decoder.groups.insert key group := by
    apply AList.ext
    rw [AList.entries_insert, AList.entries_insert]
    exact congrArg _ (List.kerase_of_notMem_keys
      (List.notMem_keys_kerase key decoder.groups.nodupKeys))
  simp only [erase, write, same]

/-- Decoders that differ in a group that counts for nothing in both have the same live groups. -/
theorem live_congr {left right : FecDecoder} (now : Instant) (key : Ipv4Addr × UInt64)
    (others : ∀ other, other ≠ key → left.groups.lookup other = right.groups.lookup other)
    (leftGone : ∀ group, left.groups.lookup key = some group →
      group.Empty ∨ groupTimeout ≤ now - group.lastUpdate)
    (rightGone : ∀ group, right.groups.lookup key = some group →
      group.Empty ∨ groupTimeout ≤ now - group.lastUpdate) :
    left.live now = right.live now := by
  have hidden : ∀ decoder : FecDecoder, (∀ group, decoder.groups.lookup key = some group →
      group.Empty ∨ groupTimeout ≤ now - group.lastUpdate) → decoder.live now key = none := by
    intro decoder gone
    rw [live]
    cases held : decoder.groups.lookup key with
    | none => rfl
    | some group =>
        rcases gone group held with empty | expired
        · simp [Option.filter, empty]
        · simp [Option.filter, Nat.not_lt.mpr expired]
  funext other
  by_cases same : other = key
  · rw [same, hidden left leftGone, hidden right rightGone]
  · rw [live, live, others other same]

end FecDecoder

/-- The packet never comes to the group, or finds nothing in it, or is a parity packet for a
free slot that no group takes. -/
def FecGroup.Unaffected (group : FecGroup) (now : Instant) (shard : FecPacket) : Prop :=
  maxNum < shard.packetIndex.toNat ∨ group.Empty ∨
    group.isDone = false ∧ ¬ group.Has shard.packetIndex.toNat ∧
      ¬ (FecGroup.default now).Accepts shard

namespace FecDecoder

def Unaffected (decoder : FecDecoder) (now : Instant) (packet : NetPacket) : Prop :=
  ∀ shard group, FecPacket.decode packet.payload = some shard →
    decoder.groups.lookup (packet.srcId, shard.groupId) = some group →
    groupTimeout ≤ now - group.lastUpdate → group.Unaffected now shard

/-- The packet is no parity of a single data packet, and the groups are within the limit. -/
def Telling (decoder : FecDecoder) (packet : NetPacket) : Prop :=
  decoder.groups.entries.length ≤ maxGroups ∧
    ∀ shard, FecPacket.decode packet.payload = some shard →
      ∀ parityData ∈ shard.parityData, parityData.dataShards.toNat ≠ 1

/-- The calls agree where the group counts for nothing before and after. -/
theorem sameEffect_of_gone (decoder : FecDecoder) (now : Instant) {key : Ipv4Addr × UInt64}
    {group fresh : FecGroup} {result : Outcome (Option (List Returned))}
    (gone : group.Empty ∨ groupTimeout ≤ now - group.lastUpdate) (empty : fresh.Empty) :
    SameEffect now (⟨decoder.groups.insert key group, decoder.lastCleanup⟩, result)
      (⟨(decoder.erase key).groups.insert key fresh, decoder.lastCleanup⟩, result) := by
  refine ⟨rfl, rfl, live_congr now key ?_ ?_ ?_⟩
  · intro other differs
    rw [AList.lookup_insert_ne differs, AList.lookup_insert_ne differs]
    exact (AList.lookup_erase_ne differs).symm
  · intro found same
    rw [AList.lookup_insert] at same
    cases same
    exact gone
  · intro found same
    rw [AList.lookup_insert] at same
    cases same
    exact .inl empty

theorem ignores_expired_of_unaffected (decoder : FecDecoder) (now : Instant) (packet : NetPacket)
    (unaffected : decoder.Unaffected now packet) : decoder.IgnoresExpired now packet := by
  intro shard group decoded held expired
  have gone : (decoder.erase (packet.srcId, shard.groupId)).groups.lookup
      (packet.srcId, shard.groupId) = none := AList.lookup_erase _ decoder.groups
  by_cases large : maxNum < shard.packetIndex.toNat
  · have unread : ∀ decoder : FecDecoder, decoder.receive now packet = (decoder,
        .err (s!"packet_index overflow {displayIp packet.srcId}")) := by
      intro decoder
      rw [receive, decoded]
      simp only [if_pos large]
    rw [unread, unread]
    refine ⟨rfl, rfl, live_congr now (packet.srcId, shard.groupId) ?_ ?_ ?_⟩
    · intro other differs
      exact (AList.lookup_erase_ne differs).symm
    · intro found same
      rw [held] at same
      cases same
      exact .inr expired
    · intro found same
      rw [gone] at same
      cases same
  · have small := Nat.not_lt.mp large
    rw [receive_group decoder now packet shard decoded small _ rfl,
      receive_group (decoder.erase _) now packet shard decoded small _ rfl, groupOf_erase,
      groupOf_some held]
    rcases (unaffected shard group decoded held expired).resolve_left large with
      nothing | ⟨unfinished, free, refused⟩
    -- An empty group takes a shard as a new one does.
    · rcases nothing.receive now packet shard with ⟨message, refused, refusedNew⟩ | same
      · rw [refused, refusedNew]
        exact decoder.sameEffect_of_gone now (.inl nothing) (FecGroup.empty_default now)
      · have written := decoder.write_erase (packet.srcId, shard.groupId)
          ((FecGroup.default now).receive now packet shard).group
        simp only [write] at written
        rw [same, written]
        exact ⟨rfl, rfl, rfl⟩
    -- What a new group refuses every group refuses in the same words.
    · obtain ⟨message, alike⟩ := FecGroup.store_refused_alike now packet shard refused
      rw [FecGroup.receive_refused unfinished free (alike group),
        FecGroup.receive_refused rfl (fun held => by cases held) (alike (FecGroup.default now))]
      exact decoder.sameEffect_of_gone now (.inr expired) (FecGroup.empty_default now)

/-- Without the group the call keeps a new one, with one slot filled. -/
theorem lookup_kept (decoder : FecDecoder) {now : Instant} {packet : NetPacket} {shard : FecPacket}
    (decoded : FecPacket.decode packet.payload = some shard)
    (small : shard.packetIndex.toNat ≤ maxNum)
    (within : decoder.groups.entries.length ≤ maxGroups) {group : FecGroup}
    (held : decoder.groups.lookup (packet.srcId, shard.groupId) = some group)
    {fresh : FecGroup} {result : Outcome (Option (List Returned))}
    (keeps : (FecGroup.default now).receive now packet shard = ⟨fresh, result, true⟩)
    (updated : fresh.lastUpdate = now) :
    ((decoder.erase (packet.srcId, shard.groupId)).receive now packet).1.groups.lookup
        (packet.srcId, shard.groupId) = some fresh ∧
      ((decoder.erase (packet.srcId, shard.groupId)).receive now packet).2 = result := by
  have taken := keeps
  rw [← groupOf_erase decoder now (packet.srcId, shard.groupId)] at taken
  rw [receive_group _ now packet shard decoded small _ taken]
  refine ⟨?_, rfl⟩
  simp only [↓reduceIte]
  refine cleanup_within now ?_ (AList.lookup_insert _) ?_
  · have present : (packet.srcId, shard.groupId) ∈ decoder.groups := by
      rw [← AList.lookup_isSome, held]
      rfl
    have erased := decoder.write_erase (packet.srcId, shard.groupId) fresh
    have counted : (decoder.write (packet.srcId, shard.groupId) fresh).groups.keys.length =
        decoder.groups.keys.length := by
      rw [write, AList.keys_insert, List.length_cons]
      exact @List.length_erase_add_one _ instBEqOfDecidableEq _ _ _ (AList.mem_keys.mpr present)
    simp only [AList.keys, List.keys, List.length_map] at counted
    rw [← write, erased, counted]
    exact within
  · rw [updated, Nat.sub_self]
    decide

/-- A packet that an expired group is not indifferent to does not leave a group with its own slot
alone, as it does where there was none. -/
theorem receive_ne_fresh {group fresh : FecGroup} {now : Instant} {packet : NetPacket}
    {shard : FecPacket} (settled : group.Settled) (filled : ¬ group.Empty)
    (expired : groupTimeout ≤ now - group.lastUpdate)
    (has : ∀ i, fresh.Has i ↔ i = shard.packetIndex.toNat) (updated : fresh.lastUpdate = now) :
    (group.receive now packet shard).group ≠ fresh := by
  intro left
  have moves := group.receive_moves now packet shard
  have old : group.isDone = false → ¬ group.Has shard.packetIndex.toNat →
      ∃ i, i ≠ shard.packetIndex.toNat ∧ group.Has i := by
    intro unfinished missing
    rcases settled with complete | empty | ⟨i, _, has⟩
    · cases unfinished.symm.trans complete
    · exact absurd empty filled
    · exact ⟨i, fun same => missing (same ▸ has), has⟩
  have recent : now - (group.receive now packet shard).group.lastUpdate < groupTimeout := by
    rw [left, updated, Nat.sub_self]
    decide
  generalize group.receive now packet shard = step at moves left recent
  cases moves with
  | ignored idle => exact absurd expired (Nat.not_le.mpr recent)
  | rejected unfinished missing refused => exact absurd expired (Nat.not_le.mpr recent)
  | kept unfinished missing keeps waiting =>
      obtain ⟨i, other, before⟩ := old unfinished missing
      obtain ⟨data, slots⟩ := keeps.slots
      have still : fresh.Has i := by
        rw [← left, FecGroup.Has, slots i, if_neg other]
        exact before
      exact other ((has i).mp still)
  | closed unfinished missing keeps complete | repaired unfinished missing keeps known _ _ =>
      have own := (has shard.packetIndex.toNat).mpr rfl
      rw [← left] at own
      cases own
  | failed unfinished missing keeps waiting sized kept =>
      obtain ⟨i, other, before⟩ := old unfinished missing
      obtain ⟨data, slots⟩ := keeps.slots
      obtain ⟨content, filled⟩ := Option.isSome_iff_exists.mp before
      have still : fresh.Has i := by
        rw [← left, FecGroup.Has, kept i content ((slots i).trans ((if_neg other).trans filled))]
        rfl
      exact other ((has i).mp still)

/-- In a state the decoder can be in, an expired group has no effect on a packet that it is
not in the way of; and on no other, but for parity packets of a single data packet and for
decoders with more groups than the limit. -/
theorem ignores_expired_iff {decoder : FecDecoder} (reached : Reachable decoder) (now : Instant)
    (packet : NetPacket) :
    (decoder.Unaffected now packet → decoder.IgnoresExpired now packet) ∧
      (decoder.Telling packet →
        (decoder.IgnoresExpired now packet ↔ decoder.Unaffected now packet)) := by
  have enough := decoder.ignores_expired_of_unaffected now packet
  refine ⟨enough, fun telling => ⟨fun ignores shard group decoded held expired => ?_, enough⟩⟩
  by_contra affected
  obtain ⟨small, affected⟩ := not_or.mp affected
  obtain ⟨filled, affected⟩ := not_or.mp affected
  have within := Nat.not_lt.mp small
  obtain ⟨result, _, alike⟩ := ignores shard group decoded held expired
  have met := groupOf_some held now
  by_cases refused : ¬ (FecGroup.default now).Accepts shard
  · -- an error without the group, and silence with it
    have idle : group.isDone = true ∨ group.Has shard.packetIndex.toNat := by
      by_contra free
      obtain ⟨unfinished, free⟩ := not_or.mp free
      exact affected ⟨Bool.eq_false_iff.mpr unfinished, free, refused⟩
    obtain ⟨message, alike⟩ := FecGroup.store_refused_alike now packet shard refused
    rw [receive_group decoder now packet shard decoded within _ rfl, met,
      FecGroup.receive_ignored idle,
      receive_group (decoder.erase _) now packet shard decoded within _ rfl, groupOf_erase,
      FecGroup.receive_refused rfl (fun held => by cases held) (alike (FecGroup.default now))]
      at result
    cases result
  · obtain ⟨stored, returned, keeps, stores⟩ := FecGroup.receive_default_kept now packet shard
      (not_not.mp refused) (telling.2 shard decoded)
    obtain ⟨kept, answer⟩ := decoder.lookup_kept decoded within telling.1 held keeps rfl
    obtain ⟨data, slots⟩ := stores.slots
    have has : ∀ i, FecGroup.Has { stored with lastUpdate := now } i ↔
        i = shard.packetIndex.toNat := by
      intro i
      rw [FecGroup.Has, slots i]
      split
      · exact iff_of_true rfl ‹_›
      · exact iff_of_false (fun held => by cases held) ‹_›
    have nonempty : ¬ FecGroup.Empty { stored with lastUpdate := now } := by
      intro empty
      have own := (has shard.packetIndex.toNat).mpr rfl
      rw [empty.eq_default] at own
      cases own
    -- so the call with the old group has to leave the same group
    have shown : (decoder.receive now packet).1.groups.lookup (packet.srcId, shard.groupId) =
        some { stored with lastUpdate := now } := by
      have same := congrFun alike (packet.srcId, shard.groupId)
      simp only [live, kept, Option.filter_some] at same
      rw [if_pos] at same
      · exact (Option.filter_eq_some_iff.mp same).1
      · simp only [Nat.sub_self, decide_eq_true_eq]
        exact ⟨by decide, nonempty⟩
    have left : (group.receive now packet shard).group = { stored with lastUpdate := now } := by
      have written := lookup_written (decoder.receive_written now decoded within)
        (packet.srcId, shard.groupId)
      rw [if_pos rfl, met] at written
      rcases written with dropped | there
      · cases dropped.symm.trans shown
      · exact Option.some.inj (there.symm.trans shown)
    exact receive_ne_fresh (reached.settled _ group held) filled expired has rfl left

def dataPacket (key : Ipv4Addr × UInt64) (i : Nat) : NetPacket :=
  ⟨⟨0x81, 0x55, fec, 0, 0, key.1, 0⟩,
    (⟨key.2, UInt32.ofNat i, [7], none⟩ : FecPacket).encodeToVec⟩

theorem dataPacket_decode (key : Ipv4Addr × UInt64) (i : Nat) :
    FecPacket.decode (dataPacket key i).payload = some ⟨key.2, UInt32.ofNat i, [7], none⟩ :=
  FecPacket.decode_encodeToVec _ (by simp)

/-- The group an oversized parity packet left behind does not stand in the way of a data
packet ten seconds later. -/
theorem leftover_group_ignored :
    ((FecDecoder.new 0).receive 0 oversizedParity).1.IgnoresExpired (fromSecs 10)
      (dataPacket (0x0A1A0003, 7) 0) := by
  apply (ignores_expired_iff (Reachable.receive (Reachable.new 0) 0 oversizedParity) _ _).1
  intro shard group decoded held _
  cases (dataPacket_decode (0x0A1A0003, 7) 0).symm.trans decoded
  rw [oversizedParity_receive] at held
  cases held
  exact .inr (.inl (FecGroup.empty_default 0))

/-- The first data packet of an encoder, as it is sent again after a restart. -/
def firstOfPeer : NetPacket := dataPacket (0x0A1A0002, 0) 0

theorem firstOfPeer_decode : FecPacket.decode firstOfPeer.payload = some ⟨0, 0, [7], none⟩ :=
  dataPacket_decode (0x0A1A0002, 0) 0

theorem firstOfPeer_receive :
    (FecDecoder.new 0).receive 0 firstOfPeer =
      (⟨(∅ : AList fun _ : Ipv4Addr × UInt64 => FecGroup).insert (0x0A1A0002, 0)
          ⟨0, 0, 1, [some [0x81, fec, 0, 1, 7]], 0⟩, 0⟩,
        .ok (some [⟨0, ⟨⟨0x81, 0x55, 0, 0, 0, 0x0A1A0002, 0⟩, [7]⟩⟩])) := by
  rw [receive_group _ _ _ _ firstOfPeer_decode (by decide) _ rfl]
  rfl

theorem restarted_peer_dropped :
    ¬ ∀ decoder, Reachable decoder → ∀ (now : Instant) (packet : NetPacket),
      decoder.IgnoresExpired now packet := by
  intro ignores
  have same := (ignores _ (Reachable.receive (Reachable.new 0) 0 firstOfPeer) (fromSecs 10)
    firstOfPeer _ ⟨0, 0, 1, [some [0x81, fec, 0, 1, 7]], 0⟩ firstOfPeer_decode
    (by rw [firstOfPeer_receive]; rfl) (by decide)).1
  -- the stored group drops the packet, and without it the packet comes back
  rw [firstOfPeer_receive, receive_fresh (erase _ _) _ _ _ firstOfPeer_decode rfl (by decide) rfl,
    receive_group _ _ _ _ firstOfPeer_decode (by decide) _ rfl] at same
  cases same

end FecDecoder
end VntClient
