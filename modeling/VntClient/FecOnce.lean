import VntClient.FecMoves
import VntClient.FecDelivery

/-!
Any packets into one decoder, honest or not, lost, repeated and reordered. As long as no
group is dropped that gets another packet, nothing is handed back twice: what has been
handed back fills its slot, or its group is done.
-/

namespace VntClient

namespace FecGroup

/-- A packet with this index is not taken any more. -/
def Spent (group : FecGroup) (i : Nat) : Prop := group.isDone = true ∨ group.Has i

theorem not_spent {group : FecGroup} {i : Nat} (unfinished : group.isDone = false)
    (missing : ¬ group.Has i) : ¬ group.Spent i := by
  rintro (complete | held)
  · rw [unfinished] at complete
    cases complete
  · exact missing held

theorem received_joined (returned : Option Returned) (result : Option (List Returned)) :
    received (.ok (joined returned result)) = result.getD [] ++ returned.toList :=
  Batch.handedBack_joined returned result

theorem Moves.lastUpdate {group : FecGroup} {now : Instant} {shard : FecPacket} {step : GroupStep}
    (moves : Moves group now shard step) :
    step.group.lastUpdate = group.lastUpdate ∨ step.group.lastUpdate = now := by
  cases moves with
  | ignored | rejected => exact Or.inl rfl
  | kept | closed | repaired | failed => exact Or.inr rfl

/-- What one packet makes its group hand back was open before, is spent after, and is handed
back once. -/
theorem Moves.spends {group : FecGroup} {now : Instant} {shard : FecPacket} {step : GroupStep}
    (moves : Moves group now shard step) :
    ((received step.result).map Returned.index).Nodup ∧
      (∀ entry ∈ received step.result,
        ¬ group.Spent entry.index ∧ step.group.Spent entry.index) ∧
      ∀ i, group.Spent i → step.group.Spent i := by
  cases moves with
  | ignored idle =>
      exact ⟨List.nodup_nil, fun entry member => absurd member List.not_mem_nil,
        fun i spent => spent⟩
  | rejected unfinished missing refused =>
      exact ⟨List.nodup_nil, fun entry member => absurd member List.not_mem_nil,
        fun i spent => spent⟩
  | @kept stored returned unfinished missing stores waiting =>
      rw [received_joined, Option.getD_none, List.nil_append]
      refine ⟨?_, ?_, ?_⟩
      · cases returned <;> simp
      · intro entry member
        rw [stores.index entry (Option.mem_toList.mp member)]
        exact ⟨not_spent unfinished missing, Or.inr stores.has.1⟩
      · rintro i (complete | held)
        · rw [unfinished] at complete
          cases complete
        · exact Or.inr (stores.has.2 i held)
  | @closed stored returned unfinished missing stores complete =>
      -- A closed group has spent every index, whatever it holds.
      have known : stored.dataShards ≠ 0 := by
        intro unknown
        rw [isDone, unknown] at complete
        cases complete
      rw [received_joined, Option.getD_none, List.nil_append]
      refine ⟨?_, ?_, fun i _ => Or.inl (isDone_done known now)⟩
      · cases returned <;> simp
      · intro entry member
        rw [stores.index entry (Option.mem_toList.mp member)]
        exact ⟨not_spent unfinished missing, Or.inl (isDone_done known now)⟩
  | @repaired stored returned rebuilt unfinished missing stores known distinct lost =>
      rw [received_joined, Option.getD_some]
      refine ⟨?_, ?_, fun i _ => Or.inl (isDone_done known now)⟩
      · -- the packet in hand was in its slot when the repair looked for empty ones
        rw [List.map_append, List.nodup_append]
        refine ⟨distinct, by cases returned <;> simp, ?_⟩
        intro left leftMember right rightMember same
        obtain ⟨entry, member, index⟩ := List.mem_map.mp leftMember
        obtain ⟨own, ownMember, ownIndex⟩ := List.mem_map.mp rightMember
        apply (lost entry member).2
        rw [index, same, ← ownIndex, stores.index own (Option.mem_toList.mp ownMember)]
        exact stores.has.1
      · intro entry member
        refine ⟨not_spent unfinished fun held => ?_, Or.inl (isDone_done known now)⟩
        rcases List.mem_append.mp member with member | member
        · exact (lost entry member).2 (stores.has.2 _ held)
        · rw [stores.index entry (Option.mem_toList.mp member)] at held
          exact missing held
  | @failed stored returned shards message unfinished missing stores waiting sized keeps =>
      refine ⟨List.nodup_nil, fun entry member => absurd member List.not_mem_nil, ?_⟩
      rintro i (complete | held)
      · rw [unfinished] at complete
        cases complete
      · right
        obtain ⟨data, filled⟩ := Option.isSome_iff_exists.mp (stores.has.2 i held)
        rw [Has, keeps i data filled]
        rfl

end FecGroup

theorem Batch.opened_arriving {batch : Batch} {i : Nat} (inside : i < batch.total) (ttl : UInt8) :
    opened (batch.arriving i ttl) = some batch.key := by
  have found := batch.groupKey_arriving i ttl
  have decoded : FecPacket.decode (batch.arriving i ttl).payload = some (batch.fecPacket i) :=
    batch.decode_wire i
  have few := batch.total_le
  have limit : maxNum = 50 := rfl
  rw [groupKey, decoded, Option.map_some] at found
  rw [opened, decoded, Option.bind_some, Batch.fecPacket_index inside, if_neg (by omega)]
  exact found

theorem FecDecoder.cleanup_keeps {decoder : FecDecoder} (now : Instant)
    (keys : List (Ipv4Addr × UInt64))
    (covers : ∀ key, decoder.groups.lookup key ≠ none → key ∈ keys)
    (few : keys.toFinset.card ≤ maxGroups) {key : Ipv4Addr × UInt64} {group : FecGroup}
    (held : decoder.groups.lookup key = some group)
    (recent : now - group.lastUpdate < groupTimeout) :
    (decoder.cleanup now).groups.lookup key = some group := by
  refine cleanup_within now (Nat.le_trans ?_ few) held recent
  have length : decoder.groups.entries.length = decoder.groups.keys.length :=
    (List.length_map _).symm
  rw [length, ← List.toFinset_card_of_nodup decoder.groups.keys_nodup]
  apply Finset.card_le_card
  intro other member
  rw [List.mem_toFinset] at member ⊢
  apply covers
  rw [← Option.isSome_iff_ne_none, AList.lookup_isSome]
  exact AList.mem_keys.mpr member

theorem groupKey_opened {packet : NetPacket} {key : Ipv4Addr × UInt64}
    (found : opened packet = some key) : groupKey packet = some key := by
  obtain ⟨shard, decoded, _, same⟩ := opened_some found
  rw [groupKey, decoded, Option.map_some, same]

namespace Receiver

/-- The receiver after packets that arrive one after the other, each at its time. -/
def handAll (start : Instant) (arrivals : List (Instant × NetPacket)) : Receiver :=
  arrivals.foldl (fun receiver arrival => receiver.handOver arrival.1 arrival.2) (Receiver.new start)

/-- A packet whose group has had a packet before finds the group still stored: neither the
time-out nor the limit on the groups has taken it away. -/
def Undropped (start : Instant) (arrivals : List (Instant × NetPacket)) : Prop :=
  ∀ before arrival rest, arrivals = before ++ arrival :: rest →
    ∀ key, opened arrival.2 = some key → (∃ earlier ∈ before, opened earlier.2 = some key) →
      (handAll start before).decoder.groups.lookup key ≠ none

/-- What has been handed back is there once, belongs to a group that has had a packet, and is
spent in its group. -/
structure Once (before : List (Instant × NetPacket)) (receiver : Receiver) : Prop where
  distinct : receiver.returned.Nodup
  opened : ∀ source groupId i, (source, groupId, i) ∈ receiver.returned →
    ∃ earlier ∈ before, opened earlier.2 = some (source, groupId)
  spent : ∀ source groupId i, (source, groupId, i) ∈ receiver.returned → ∀ group,
    receiver.decoder.groups.lookup (source, groupId) = some group → group.Spent i

theorem handOver_opened (receiver : Receiver) (now : Instant) {packet : NetPacket}
    {key : Ipv4Addr × UInt64} (found : VntClient.opened packet = some key) :
    (receiver.handOver now packet).returned = receiver.returned ++
      (received (receiver.decoder.receive now packet).2).map
        fun entry => (key.1, key.2, entry.index) := by
  simp only [handOver, groupKey_opened found, Option.elim_some]

theorem Once.handOver {before : List (Instant × NetPacket)} {receiver : Receiver}
    (once : Once before receiver) (now : Instant) (packet : NetPacket)
    (stored : ∀ key, VntClient.opened packet = some key →
      (∃ earlier ∈ before, VntClient.opened earlier.2 = some key) →
        receiver.decoder.groups.lookup key ≠ none) :
    Once (before ++ [(now, packet)]) (receiver.handOver now packet) := by
  cases found : VntClient.opened packet with
  | none =>
      obtain ⟨message, unread⟩ := receiver.decoder.receive_unopened now found
      have same : receiver.handOver now packet = receiver := by
        rw [Receiver.handOver, unread]
        simp only [received, List.map_nil]
        cases groupKey packet <;> simp
      rw [same]
      refine ⟨once.distinct, ?_, once.spent⟩
      intro source groupId i member
      obtain ⟨earlier, earlierMember, earlierKey⟩ := once.opened source groupId i member
      exact ⟨earlier, List.mem_append_left _ earlierMember, earlierKey⟩
  | some key =>
      obtain ⟨shard, step, _, moves, result, written⟩ := receiver.decoder.receive_opened now found
      obtain ⟨fresh, open_, kept⟩ := moves.spends
      have returned := receiver.handOver_opened now found
      rw [result] at returned
      -- what was handed back of this group before is spent in the group the packet meets
      have earlier : ∀ i, (key.1, key.2, i) ∈ receiver.returned →
          (receiver.decoder.groupOf now key).Spent i := by
        intro i member
        have present := stored key found (once.opened key.1 key.2 i member)
        obtain ⟨group, held⟩ := Option.ne_none_iff_exists'.mp present
        rw [FecDecoder.groupOf, held, Option.getD_some]
        exact once.spent key.1 key.2 i member group held
      constructor
      · rw [returned, List.nodup_append]
        refine ⟨once.distinct, ?_, ?_⟩
        · have labelled := fresh.map (f := fun i => (key.1, key.2, i)) fun i j same => by
            simpa using same
          rwa [List.map_map] at labelled
        · intro label member other new same
          obtain ⟨entry, entryMember, rfl⟩ := List.mem_map.mp new
          exact (open_ entry entryMember).1 (earlier entry.index (same ▸ member))
      · intro source groupId i member
        rw [returned] at member
        rcases List.mem_append.mp member with member | member
        · obtain ⟨earlier, earlierMember, earlierKey⟩ := once.opened source groupId i member
          exact ⟨earlier, List.mem_append_left _ earlierMember, earlierKey⟩
        · obtain ⟨entry, _, same⟩ := List.mem_map.mp member
          cases same
          exact ⟨(now, packet), List.mem_append_right _ (List.mem_singleton.mpr rfl), found⟩
      · intro source groupId i member group held
        rw [returned] at member
        have decoder : (receiver.handOver now packet).decoder =
            (receiver.decoder.receive now packet).1 := rfl
        rw [decoder] at held
        rcases FecDecoder.lookup_written written (source, groupId) with dropped | looked
        · rw [dropped] at held
          cases held
        · rw [looked] at held
          split at held
          · rename_i same
            subst same
            cases held
            rcases List.mem_append.mp member with member | member
            · exact kept i (earlier i member)
            · obtain ⟨entry, entryMember, same⟩ := List.mem_map.mp member
              cases same
              exact (open_ entry entryMember).2
          · rename_i differs
            rcases List.mem_append.mp member with member | member
            · exact once.spent source groupId i member group held
            · obtain ⟨entry, _, same⟩ := List.mem_map.mp member
              cases same
              exact absurd rfl differs

theorem handAll_append (start : Instant) (before : List (Instant × NetPacket))
    (arrival : Instant × NetPacket) :
    handAll start (before ++ [arrival]) =
      (handAll start before).handOver arrival.1 arrival.2 := by
  rw [handAll, List.foldl_append]
  rfl

theorem once_handAll (start : Instant) (arrivals : List (Instant × NetPacket))
    (undropped : Undropped start arrivals) : Once arrivals (handAll start arrivals) := by
  induction arrivals using List.reverseRecOn with
  | nil =>
      refine ⟨List.nodup_nil, ?_, ?_⟩
      · intro source groupId i member
        cases member
      · intro source groupId i member
        cases member
  | append_singleton before arrival ih =>
      have sooner : Undropped start before := by
        intro first next rest same key found earlier
        apply undropped first next (rest ++ [arrival]) _ key found earlier
        rw [same, List.append_assoc, List.cons_append]
      rw [handAll_append]
      exact (ih sooner).handOver arrival.1 arrival.2 fun key found earlier =>
        undropped before arrival [] rfl key found earlier

def openedBy (arrivals : List (Instant × NetPacket)) : List (Ipv4Addr × UInt64) :=
  arrivals.filterMap fun arrival => opened arrival.2

theorem openedBy_append (arrivals : List (Instant × NetPacket)) (arrival : Instant × NetPacket) :
    openedBy (arrivals ++ [arrival]) = openedBy arrivals ++ (opened arrival.2).toList := by
  rw [openedBy, List.filterMap_append]
  cases found : opened arrival.2 with
  | none => simp [found, openedBy]
  | some key => simp [found, openedBy]

theorem opened_handAll (start : Instant) (arrivals : List (Instant × NetPacket))
    (key : Ipv4Addr × UInt64)
    (stored : (handAll start arrivals).decoder.groups.lookup key ≠ none) :
    key ∈ openedBy arrivals := by
  induction arrivals using List.reverseRecOn generalizing key with
  | nil => exact absurd rfl stored
  | append_singleton before arrival ih =>
      rw [handAll_append] at stored
      rw [openedBy_append]
      cases found : opened arrival.2 with
      | none =>
          obtain ⟨message, unread⟩ :=
            (handAll start before).decoder.receive_unopened arrival.1 found
          simp only [handOver, unread] at stored
          exact List.mem_append_left _ (ih key stored)
      | some own =>
          obtain ⟨shard, step, _, _, _, written⟩ :=
            (handAll start before).decoder.receive_opened arrival.1 found
          rcases FecDecoder.lookup_written written key with dropped | looked
          · exact absurd dropped stored
          · by_cases same : key = own
            · exact List.mem_append_right _ (List.mem_singleton.mpr same)
            · rw [if_neg same] at looked
              exact List.mem_append_left _ (ih key (looked ▸ stored))

/-- With few groups a group last updated at or after `limit` less the time-out is there at
`limit`. -/
theorem handAll_keeps (start : Instant) (key : Ipv4Addr × UInt64) (limit : Instant)
    (arrivals : List (Instant × NetPacket)) (timely : ∀ arrival ∈ arrivals, arrival.1 ≤ limit)
    (prompt : ∀ arrival ∈ arrivals, opened arrival.2 = some key → limit - arrival.1 < groupTimeout)
    (few : (openedBy arrivals).toFinset.card ≤ maxGroups) (seen : key ∈ openedBy arrivals) :
    ∃ group, (handAll start arrivals).decoder.groups.lookup key = some group ∧
      limit - group.lastUpdate < groupTimeout := by
  induction arrivals using List.reverseRecOn with
  | nil => cases seen
  | append_singleton before arrival ih =>
      have covers := opened_handAll start (before ++ [arrival])
      rw [openedBy_append] at few seen covers
      have fewer : (openedBy before).toFinset.card ≤ maxGroups := by
        refine Nat.le_trans (Finset.card_le_card ?_) few
        rw [List.toFinset_append]
        exact Finset.subset_union_left
      have ih := ih (fun earlier member => timely earlier (List.mem_append_left _ member))
        (fun earlier member => prompt earlier (List.mem_append_left _ member)) fewer
      have last : arrival ∈ before ++ [arrival] := List.mem_append_right _ List.mem_cons_self
      rw [handAll_append] at covers ⊢
      cases found : opened arrival.2 with
      | none =>
          obtain ⟨message, unread⟩ :=
            (handAll start before).decoder.receive_unopened arrival.1 found
          rw [found, Option.toList_none, List.append_nil] at seen
          simp only [handOver, unread]
          exact ih seen
      | some own =>
          obtain ⟨shard, step, _, moves, _, written⟩ :=
            (handAll start before).decoder.receive_opened arrival.1 found
          rw [found, Option.toList_some] at covers few seen
          have recent : ∀ group : FecGroup, limit - group.lastUpdate < groupTimeout →
              arrival.1 - group.lastUpdate < groupTimeout := fun group late =>
            Nat.lt_of_le_of_lt (Nat.sub_le_sub_right (timely arrival last) _) late
          -- the group is there when the packet has been stored, and its cleanup spares it
          have there : ∃ group, ((handAll start before).decoder.write own step.group).groups.lookup
              key = some group ∧ limit - group.lastUpdate < groupTimeout := by
            by_cases same : key = own
            · subst same
              refine ⟨step.group, by rw [FecDecoder.lookup_write, if_pos rfl], ?_⟩
              rcases moves.lastUpdate with kept | updated
              · rw [kept, FecDecoder.groupOf]
                rcases Option.eq_none_or_eq_some
                  ((handAll start before).decoder.groups.lookup key) with absent | ⟨group, held⟩
                · rw [absent, Option.getD_none]
                  exact prompt arrival last found
                · have present := opened_handAll start before key (by rw [held]; simp)
                  obtain ⟨other, otherHeld, late⟩ := ih present
                  rw [otherHeld, Option.getD_some]
                  exact late
              · rw [updated]
                exact prompt arrival last found
            · obtain ⟨group, held, late⟩ := ih ((List.mem_append.mp seen).resolve_right
                fun member => same (List.mem_singleton.mp member))
              exact ⟨group, by rw [FecDecoder.lookup_write, if_neg same]; exact held, late⟩
          obtain ⟨group, held, late⟩ := there
          refine ⟨group, ?_, late⟩
          have decoder : ((handAll start before).handOver arrival.1 arrival.2).decoder =
              ((handAll start before).decoder.receive arrival.1 arrival.2).1 := rfl
          rw [decoder]
          rcases written with untouched | cleaned
          · rw [untouched]
            exact held
          · rw [cleaned]
            refine FecDecoder.cleanup_keeps arrival.1 (openedBy before ++ [own]) ?_ few held
              (recent group late)
            intro other stored
            rw [FecDecoder.lookup_write] at stored
            by_cases same : other = own
            · exact List.mem_append_right _ (List.mem_singleton.mpr same)
            · rw [if_neg same] at stored
              exact List.mem_append_left _ (opened_handAll start before other stored)

/-- The packets of a group within the time-out of each other, over no more groups than the
decoder keeps. -/
theorem undropped_of_prompt (start : Instant) (arrivals : List (Instant × NetPacket))
    (ordered : arrivals.Pairwise fun earlier later => earlier.1 ≤ later.1)
    (prompt : arrivals.Pairwise fun earlier later => opened earlier.2 = opened later.2 →
      later.1 - earlier.1 < groupTimeout)
    (few : (openedBy arrivals).toFinset.card ≤ maxGroups) : Undropped start arrivals := by
  rintro before arrival rest rfl key found ⟨earlier, earlierMember, earlierFound⟩ dropped
  rw [List.pairwise_append] at ordered prompt
  have fewer : (openedBy before).toFinset.card ≤ maxGroups := by
    refine Nat.le_trans (Finset.card_le_card ?_) few
    rw [openedBy, openedBy, List.filterMap_append, List.toFinset_append]
    exact Finset.subset_union_left
  obtain ⟨group, held, _⟩ := handAll_keeps start key arrival.1 before
    (fun other member => ordered.2.2 other member arrival List.mem_cons_self)
    (fun other member same => prompt.2.2 other member arrival List.mem_cons_self
      (same.trans found.symm)) fewer
    (List.mem_filterMap.mpr ⟨earlier, earlierMember, earlierFound⟩)
  rw [dropped] at held
  cases held

/-- Nothing is handed back twice. -/
theorem returned_once (start : Instant) (arrivals : List (Instant × NetPacket))
    (undropped : Undropped start arrivals) : (handAll start arrivals).returned.Nodup :=
  (once_handAll start arrivals undropped).distinct

/-- A data packet, the parity packet that repairs the other one, and the data packet again. -/
def repeatedPair : List (Instant × NetPacket) :=
  [(0, Batch.unevenPair.arriving 0 0x11), (1, Batch.unevenPair.arriving 2 0x11),
    (2, Batch.unevenPair.arriving 0 0x21)]

theorem repeatedPair_opened : ∀ arrival ∈ repeatedPair,
    opened arrival.2 = some Batch.unevenPair.key ∧ arrival.1 ≤ 2 := by
  intro arrival member
  simp only [repeatedPair, List.mem_cons, List.not_mem_nil, or_false] at member
  rcases member with rfl | rfl | rfl
  · exact ⟨Batch.opened_arriving (by decide) _, by decide⟩
  · exact ⟨Batch.opened_arriving (by decide) _, by decide⟩
  · exact ⟨Batch.opened_arriving (by decide) _, by decide⟩

theorem repeated_pair_once : (handAll 0 repeatedPair).returned.Nodup := by
  apply returned_once 0 repeatedPair
  apply undropped_of_prompt
  · simp [repeatedPair]
  · apply List.pairwise_of_forall_mem_list
    intro earlier _ later member _
    exact Nat.lt_of_le_of_lt (Nat.le_trans (Nat.sub_le _ _) (repeatedPair_opened later member).2)
      (by decide)
  · have keys : (openedBy repeatedPair).toFinset ⊆ {Batch.unevenPair.key} := by
      intro key member
      obtain ⟨arrival, arrivalMember, found⟩ := List.mem_filterMap.mp (List.mem_toFinset.mp member)
      rw [(repeatedPair_opened arrival arrivalMember).1] at found
      rw [Finset.mem_singleton]
      exact (Option.some.inj found).symm
    exact Nat.le_trans (Finset.card_le_card keys) (by decide)

end Receiver
end VntClient
