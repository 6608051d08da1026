import VntClient.FecTracking

/-!
A whole batch from encoder to decoder. The repair is tried exactly when the
`dataShards`-th packet arrives and a parity packet is among those that came;
everything the decoder hands back follows from what arrived up to then.
-/

namespace VntClient

structure Delivery where
  now : Instant
  ttl : UInt8
  index : Nat

def Delivery.carry (sent : List NetPacket) (delivery : Delivery) : Instant × NetPacket :=
  let packet := sent.getD delivery.index (NetPacket.zeroed 0)
  (delivery.now, { packet with header := { packet.header with ttlByte := delivery.ttl } })

structure Arrivals (batch : Batch) where
  order : List Delivery
  distinct : (order.map Delivery.index).Nodup
  inside : ∀ delivery ∈ order, delivery.index < batch.total
  enough : batch.dataShards ≤ order.length
  parity : ∃ delivery ∈ order, batch.dataShards ≤ delivery.index

def Arrivals.first {batch : Batch} (arrivals : Arrivals batch) : List Nat :=
  (arrivals.order.map Delivery.index).take batch.dataShards

abbrev Received := Outcome (Option (List Returned))

def FecDecoder.receiveAll (decoder : FecDecoder) : List (Instant × NetPacket) → List Received
  | [] => []
  | (now, packet) :: rest =>
      (decoder.receive now packet).2 :: receiveAll (decoder.receive now packet).1 rest

def returnedBy (results : List Received) : List Returned :=
  results.flatMap fun result =>
    match result with
    | .ok packets => Batch.handedBack packets
    | _ => []

namespace Batch

def results (batch : Batch) (idle : IdleEncoder batch) (clock : Nat → Instant) (delay : Nat)
    (arrivals : Arrivals batch) (start : Instant) : Outcome (List Received) := do
  let sent ← batch.transmit idle clock delay
  pure ((FecDecoder.new start).receiveAll (arrivals.order.map (Delivery.carry sent)))

variable {batch : Batch}

def key (batch : Batch) : Ipv4Addr × UInt64 := (batch.source, batch.groupId)

theorem carry_wire {delivery : Delivery} (inside : delivery.index < batch.total) :
    delivery.carry ((List.range batch.total).map batch.wire) =
      (delivery.now, batch.arriving delivery.index delivery.ttl) := by
  simp [Delivery.carry, inside, arriving, wire]

section Decoder

def Alone (batch : Batch) (decoder : FecDecoder) : Prop :=
  decoder.groups = ∅ ∨ ∃ group, decoder.groups = AList.singleton batch.key group

structure Waiting (batch : Batch) (seen : List Nat) (decoder : FecDecoder) : Prop where
  alone : Alone batch decoder
  tracks : ∀ now, Tracks batch seen (decoder.groupOf now batch.key)

def Closed (batch : Batch) (decoder : FecDecoder) : Prop :=
  ∃ group, decoder.groups = AList.singleton batch.key group ∧ group.isDone = true

theorem groupOf_singleton {decoder : FecDecoder} {group : FecGroup}
    (only : decoder.groups = AList.singleton batch.key group) (now : Instant) :
    decoder.groupOf now batch.key = group := by
  rw [FecDecoder.groupOf, only]
  simp [AList.lookup, AList.singleton]

theorem waiting_new (start : Instant) : Waiting batch [] (FecDecoder.new start) :=
  ⟨Or.inl rfl, fun now => tracks_default now⟩

theorem receive_alone {decoder : FecDecoder} (alone : Alone batch decoder) (now : Instant)
    {i : Nat} (bounded : i < batch.total) (ttl : UInt8) {step : GroupStep}
    (taken : (decoder.groupOf now batch.key).receive now (batch.arriving i ttl)
      (batch.fecPacket i) = step)
    (fresh : step.settled = true → step.group.lastUpdate = now) :
    (decoder.receive now (batch.arriving i ttl)).2 = step.result ∧
      (decoder.receive now (batch.arriving i ttl)).1.groups =
        AList.singleton batch.key step.group := by
  have few := batch.total_le
  have small : (batch.fecPacket i).packetIndex.toNat ≤ maxNum := by
    rw [fecPacket_index bounded]
    unfold maxNum
    omega
  have place : ((batch.arriving i ttl).srcId, (batch.fecPacket i).groupId) = batch.key := by
    have groupId : (batch.fecPacket i).groupId = batch.groupId := by
      unfold fecPacket
      split <;> rfl
    rw [groupId]
    exact congrArg (·, batch.groupId) header_src
  have inserted : decoder.groups.insert batch.key step.group =
      AList.singleton batch.key step.group := by
    rcases alone with empty | ⟨group, only⟩
    · rw [empty, AList.insert_empty]
    · rw [only, AList.insert_singleton_eq]
  rw [decoder.receive_group now (batch.arriving i ttl) (batch.fecPacket i) (batch.decode_wire i)
    small step (by rw [place]; exact taken), place, inserted]
  refine ⟨rfl, ?_⟩
  by_cases settled : step.settled = true
  · rw [if_pos settled]
    exact FecDecoder.cleanup_singleton _ now batch.key step.group rfl (fresh settled)
  · rw [if_neg settled]

theorem Closed.receive {decoder : FecDecoder} (closed : Closed batch decoder) (now : Instant)
    {i : Nat} (bounded : i < batch.total) (ttl : UInt8) :
    (decoder.receive now (batch.arriving i ttl)).2 = .ok none ∧
      Closed batch (decoder.receive now (batch.arriving i ttl)).1 := by
  obtain ⟨group, only, done⟩ := closed
  have dropped := receive_closed done now (batch.arriving i ttl) (batch.fecPacket i)
  rw [← groupOf_singleton only now] at dropped
  obtain ⟨result, groups⟩ := receive_alone (Or.inr ⟨group, only⟩) now bounded ttl dropped
    (by intro settled; cases settled)
  refine ⟨result, group, ?_, done⟩
  rw [groups, groupOf_singleton only]

theorem Waiting.receive {decoder : FecDecoder} {seen : List Nat}
    (waiting : Waiting batch seen decoder) (incomplete : ¬ batch.Complete seen)
    (distinct : seen.Nodup) (inside : ∀ i ∈ seen, i < batch.total) (now : Instant) {i : Nat}
    (bounded : i < batch.total) (fresh : i ∉ seen) (ttl : UInt8) :
    ∃ step, Moves batch (i :: seen) ttl (batch.direct i ttl) step ∧
      (decoder.receive now (batch.arriving i ttl)).2 = step.result ∧
      (decoder.receive now (batch.arriving i ttl)).1.groups =
        AList.singleton batch.key step.group := by
  obtain ⟨moves, updated⟩ := (waiting.tracks now).receive incomplete distinct inside now bounded
    fresh ttl
  exact ⟨_, moves, receive_alone waiting.alone now bounded ttl rfl fun _ => updated⟩

theorem waiting_singleton {decoder : FecDecoder} {seen : List Nat} {group : FecGroup}
    (only : decoder.groups = AList.singleton batch.key group) (tracks : Tracks batch seen group) :
    Waiting batch seen decoder :=
  ⟨Or.inr ⟨group, only⟩, fun now => by rw [groupOf_singleton only]; exact tracks⟩

end Decoder

section Run

/-- Nothing has been repaired or completed while these indices came in. -/
def Quiet (batch : Batch) (seen : List Nat) : Prop :=
  seen.length < batch.dataShards ∨ ∀ i ∈ seen, i < batch.dataShards

theorem paritySeen_iff (seen : List Nat) :
    batch.paritySeen seen = true ↔ ∃ i ∈ seen, batch.dataShards ≤ i := by
  simp [paritySeen]

theorem dataCount_lt {seen : List Nat} (parity : batch.paritySeen seen = true) :
    batch.dataCount seen < seen.length := by
  obtain ⟨i, member, late⟩ := (paritySeen_iff seen).mp parity
  exact List.length_filter_lt_length_iff_exists.mpr ⟨i, member, by simpa using late⟩

theorem Quiet.still {seen : List Nat} (quiet : Quiet batch seen) :
    ¬ batch.Complete seen ∧ ¬ batch.Attempts seen := by
  rcases quiet with short | early
  · constructor
    · rintro ⟨parity, all⟩
      have fewer := dataCount_lt parity
      omega
    · rintro ⟨_, _, enough⟩
      omega
  · have none_ : ¬ batch.paritySeen seen = true := by
      rw [paritySeen_iff]
      rintro ⟨i, member, late⟩
      have := early i member
      omega
    exact ⟨fun complete => none_ complete.1, fun attempts => none_ attempts.1⟩

theorem Quiet.suffix {before seen : List Nat} (quiet : Quiet batch (before ++ seen)) :
    Quiet batch seen := by
  rcases quiet with short | early
  · left
    rw [List.length_append] at short
    omega
  · right
    exact fun i member => early i (List.mem_append_right _ member)

def passed (batch : Batch) (delivery : Delivery) : Received :=
  .ok (FecGroup.joined (batch.direct delivery.index delivery.ttl) none)

def carried (batch : Batch) (order : List Delivery) : List (Instant × NetPacket) :=
  order.map fun delivery => (delivery.now, batch.arriving delivery.index delivery.ttl)

theorem waiting_run (order : List Delivery) (seen : List Nat) (decoder : FecDecoder)
    (waiting : Waiting batch seen decoder)
    (distinct : ((order.map Delivery.index).reverse ++ seen).Nodup)
    (inside : ∀ i ∈ (order.map Delivery.index).reverse ++ seen, i < batch.total)
    (quiet : Quiet batch ((order.map Delivery.index).reverse ++ seen)) :
    ∃ decoder', Waiting batch ((order.map Delivery.index).reverse ++ seen) decoder' ∧
      ∀ rest, decoder.receiveAll (batch.carried order ++ rest) =
        order.map batch.passed ++ decoder'.receiveAll rest := by
  induction order generalizing seen decoder with
  | nil => exact ⟨decoder, waiting, fun _ => rfl⟩
  | cons delivery order ih =>
      simp only [List.map_cons, List.reverse_cons, List.append_assoc, List.cons_append,
        List.nil_append] at distinct inside quiet ⊢
      have later := (List.nodup_append.mp distinct).2.1
      have insideHere := fun i (member : i ∈ delivery.index :: seen) =>
        inside i (List.mem_append_right _ member)
      have still := quiet.suffix.still
      have shorter : Quiet batch ([delivery.index] ++ seen) := quiet.suffix
      have incomplete := shorter.suffix.still.1
      obtain ⟨step, moves, result, groups⟩ := waiting.receive incomplete
        (List.nodup_cons.mp later).2 (fun i member => insideHere i (List.mem_cons_of_mem _ member))
        delivery.now (insideHere _ (by simp)) (List.nodup_cons.mp later).1 delivery.ttl
      cases moves with
      | completed complete _ => exact absurd complete still.1
      | repaired attempts _ _ => exact absurd attempts still.2
      | refused attempts _ _ _ => exact absurd attempts still.2
      | waiting _ _ tracks =>
          obtain ⟨decoder', waiting', run⟩ := ih (delivery.index :: seen) _
            (waiting_singleton groups tracks) distinct inside quiet
          refine ⟨decoder', waiting', fun rest => ?_⟩
          simp only [carried, List.map_cons, List.cons_append, FecDecoder.receiveAll, result] at run ⊢
          rw [run rest]
          rfl

theorem closed_run (order : List Delivery) (decoder : FecDecoder) (closed : Closed batch decoder)
    (inside : ∀ delivery ∈ order, delivery.index < batch.total) :
    decoder.receiveAll (batch.carried order) = order.map fun _ => .ok none := by
  induction order generalizing decoder with
  | nil => rfl
  | cons delivery order ih =>
      obtain ⟨result, later⟩ := closed.receive delivery.now (inside delivery (by simp)) delivery.ttl
      have tail := ih _ later fun next member => inside next (List.mem_cons_of_mem _ member)
      simp only [carried, List.map_cons, FecDecoder.receiveAll, result] at tail ⊢
      rw [tail]

theorem split_order (arrivals : Arrivals batch) :
    ∃ before last after, arrivals.order = before ++ last :: after ∧
      arrivals.first = before.map Delivery.index ++ [last.index] ∧
      before.length + 1 = batch.dataShards := by
  have positive := batch.dataShards_pos
  have enough := arrivals.enough
  have nonempty : arrivals.order.drop (batch.dataShards - 1) ≠ [] := by
    intro none_
    have := List.drop_eq_nil_iff.mp none_
    omega
  obtain ⟨last, after, rest⟩ := List.exists_cons_of_ne_nil nonempty
  have shape := List.take_append_drop (batch.dataShards - 1) arrivals.order
  have size : (arrivals.order.take (batch.dataShards - 1)).length + 1 = batch.dataShards := by
    rw [List.length_take]; omega
  rw [rest] at shape
  refine ⟨_, last, after, shape.symm, ?_, size⟩
  rw [Arrivals.first, ← shape, List.map_append, List.map_cons,
    ← List.singleton_append, ← List.append_assoc, List.take_left']
  · rw [List.take_left']
    simp only [List.length_take] at size ⊢
    omega
  · rw [List.length_append, List.length_map, List.length_singleton]
    exact size

theorem first_length (arrivals : Arrivals batch) : arrivals.first.length = batch.dataShards := by
  rw [Arrivals.first, List.length_take, List.length_map]
  exact Nat.min_eq_left arrivals.enough

theorem first_nodup (arrivals : Arrivals batch) : arrivals.first.Nodup :=
  arrivals.distinct.sublist (List.take_sublist _ _)

theorem first_inside (arrivals : Arrivals batch) : ∀ i ∈ arrivals.first, i < batch.total := by
  intro i member
  obtain ⟨delivery, inside, rfl⟩ := List.mem_map.mp (List.mem_of_mem_take member)
  exact arrivals.inside delivery inside

theorem results_ok (idle : IdleEncoder batch) (clock : Nat → Instant) (delay : Nat)
    (arrivals : Arrivals batch) (start : Instant) :
    batch.results idle clock delay arrivals start =
      .ok ((FecDecoder.new start).receiveAll (batch.carried arrivals.order)) := by
  rw [results, transmit_ok, Outcome.ok_bind, carried,
    List.map_congr_left fun delivery member => carry_wire (arrivals.inside delivery member)]
  rfl

theorem before_repair (arrivals : Arrivals batch) (start : Instant) {before after : List Delivery}
    {last : Delivery} (shape : arrivals.order = before ++ last :: after)
    (size : before.length + 1 = batch.dataShards) :
    ∃ decoder, Waiting batch (before.map Delivery.index).reverse decoder ∧
      ∀ rest, (FecDecoder.new start).receiveAll (batch.carried before ++ rest) =
        before.map batch.passed ++ decoder.receiveAll rest := by
  have distinct := arrivals.distinct
  rw [shape, List.map_append, List.nodup_append] at distinct
  obtain ⟨decoder, waiting, run⟩ := waiting_run before [] _ (waiting_new start)
    (by rw [List.append_nil]; exact List.nodup_reverse.mpr distinct.1)
    (by
      intro i member
      simp only [List.append_nil, List.mem_reverse, List.mem_map] at member
      obtain ⟨delivery, inside, rfl⟩ := member
      exact arrivals.inside delivery (by rw [shape]; exact List.mem_append_left _ inside))
    (Or.inl (by simp; omega))
  rw [List.append_nil] at waiting
  exact ⟨decoder, waiting, run⟩

theorem repair_call (arrivals : Arrivals batch) (start : Instant) :
    ∃ (before : List Delivery) (last : Delivery) (after : List Delivery) (decoder : FecDecoder)
      (step : GroupStep), arrivals.order = before ++ last :: after ∧
      arrivals.first = before.map Delivery.index ++ [last.index] ∧
      Moves batch arrivals.first.reverse last.ttl (batch.direct last.index last.ttl) step ∧
      decoder.groups = AList.singleton batch.key step.group ∧
      (FecDecoder.new start).receiveAll (batch.carried arrivals.order) =
        before.map batch.passed ++ step.result :: decoder.receiveAll (batch.carried after) := by
  obtain ⟨before, last, after, shape, first, size⟩ := split_order arrivals
  obtain ⟨decoder, waiting, run⟩ := before_repair arrivals start shape size
  have distinct := first_nodup arrivals
  have inside := first_inside arrivals
  rw [first] at distinct inside
  have quiet : Quiet batch (before.map Delivery.index).reverse := Or.inl (by simp; omega)
  obtain ⟨step, moves, result, groups⟩ := waiting.receive quiet.still.1
    (List.nodup_reverse.mpr (List.nodup_append.mp distinct).1)
    (fun i member => inside i (List.mem_append_left _ (List.mem_reverse.mp member))) last.now
    (inside last.index (by simp)) (by
      intro again
      exact (List.nodup_append.mp distinct).2.2 _ (List.mem_reverse.mp again) _ (by simp) rfl)
    last.ttl
  refine ⟨before, last, after, _, step, shape, first, ?_, groups, ?_⟩
  · rw [first, List.reverse_append, List.reverse_singleton, List.singleton_append]
    exact moves
  · rw [shape, carried, List.map_append, List.map_cons]
    refine (run _).trans ?_
    simp only [FecDecoder.receiveAll, result]
    rfl

/-- A late parity packet unwraps nothing. -/
theorem passed_parity {delivery : Delivery} (late : batch.dataShards ≤ delivery.index) :
    batch.passed delivery = .ok none := by
  rw [passed, direct, if_neg (Nat.not_lt.mpr late)]
  rfl

/-- Behind the data packets, which came first, only parity is left. -/
theorem late_after (arrivals : Arrivals batch) (early : ∀ i ∈ arrivals.first, i < batch.dataShards)
    {before after : List Delivery} {last : Delivery}
    (shape : arrivals.order = before ++ last :: after)
    (first : arrivals.first = before.map Delivery.index ++ [last.index]) :
    ∀ delivery ∈ after, batch.dataShards ≤ delivery.index := by
  intro delivery member
  by_contra inside
  have distinct := arrivals.distinct
  have size := first_length arrivals
  have whole : (delivery.index :: arrivals.first).Nodup := by
    rw [shape, List.map_append, List.map_cons, ← List.singleton_append, ← List.append_assoc,
      ← first] at distinct
    refine List.nodup_cons.mpr ⟨fun again => ?_, first_nodup arrivals⟩
    exact (List.nodup_append.mp distinct).2.2 _ again _ (List.mem_map_of_mem member) rfl
  -- One more data packet would be one more than there are.
  have fits : delivery.index :: arrivals.first ⊆ List.range batch.dataShards := by
    intro i member
    rcases List.mem_cons.mp member with rfl | member
    · exact List.mem_range.mpr (by omega)
    · exact List.mem_range.mpr (early i member)
  have bound := (List.Nodup.subperm whole fits).length_le
  rw [List.length_cons, List.length_range, size] at bound
  omega

/-- When the first arrivals are the data packets, each is handed back as it comes
and the parity only closes the group. -/
theorem results_direct (arrivals : Arrivals batch) (start : Instant)
    (early : ∀ i ∈ arrivals.first, i < batch.dataShards) :
    (FecDecoder.new start).receiveAll (batch.carried arrivals.order) =
      arrivals.order.map batch.passed := by
  obtain ⟨before, last, after, decoder, step, shape, first, moves, groups, run⟩ :=
    repair_call arrivals start
  have still := Quiet.still (Or.inr fun i member => early i (List.mem_reverse.mp member) :
    Quiet batch arrivals.first.reverse)
  have lateAfter := late_after arrivals early shape first
  cases moves with
  | completed complete _ => exact absurd complete still.1
  | repaired attempts _ _ => exact absurd attempts still.2
  | refused attempts _ _ _ => exact absurd attempts still.2
  | waiting _ _ tracks =>
      obtain ⟨delivery, member, late⟩ := arrivals.parity
      have afterNonempty : after ≠ [] := by
        rintro rfl
        rw [shape] at member
        have inFirst : delivery.index ∈ arrivals.first := by
          rw [first]
          simpa using List.mem_map_of_mem member (f := Delivery.index)
        have := early _ inFirst
        omega
      -- The first parity packet completes the group without a repair.
      obtain ⟨next, rest, rfl⟩ := List.exists_cons_of_ne_nil afterNonempty
      have nextLate := lateAfter next (by simp)
      have nextInside := arrivals.inside next (by rw [shape]; simp)
      have waiting := waiting_singleton groups tracks
      obtain ⟨closing, moves, result, groups⟩ := waiting.receive still.1
        (List.nodup_reverse.mpr (first_nodup arrivals))
        (fun i member => first_inside arrivals i (List.mem_reverse.mp member)) next.now nextInside
        (fun again => by have := early _ (List.mem_reverse.mp again); omega) next.ttl
      have complete : batch.Complete (next.index :: arrivals.first.reverse) := by
        refine ⟨(paritySeen_iff _).mpr ⟨_, by simp, nextLate⟩, ?_⟩
        have all : arrivals.first.reverse.filter (fun i => decide (i < batch.dataShards)) =
            arrivals.first.reverse :=
          List.filter_eq_self.mpr fun i member => by
            simpa using early i (List.mem_reverse.mp member)
        rw [dataCount, List.filter_cons_of_neg (by simpa using nextLate), all, List.length_reverse,
          first_length]
      have none_ : batch.direct next.index next.ttl = none := if_neg (Nat.not_lt.mpr nextLate)
      cases moves with
      | waiting incomplete _ _ => exact absurd complete incomplete
      | repaired attempts _ _ => exact absurd complete.2 attempts.2.1
      | refused attempts _ _ _ => exact absurd complete.2 attempts.2.1
      | completed _ closed =>
          have restLate : ∀ delivery ∈ rest, batch.dataShards ≤ delivery.index := fun d m =>
            lateAfter d (List.mem_cons_of_mem _ m)
          have tail := closed_run rest _ ⟨_, groups, closed⟩ fun d m =>
            arrivals.inside d (by rw [shape]; simp [m])
          have finished := List.map_congr_left fun d m => (passed_parity (restLate d m)).symm
          rw [run, shape, List.map_append, List.map_cons, List.map_cons, carried, List.map_cons,
            FecDecoder.receiveAll, result, passed_parity nextLate, ← finished, ← tail]
          rw [none_]
          rfl

theorem attempts_first (arrivals : Arrivals batch)
    (parity : ∃ i ∈ arrivals.first, batch.dataShards ≤ i) :
    batch.Attempts arrivals.first.reverse := by
  have seenParity : batch.paritySeen arrivals.first.reverse = true := by
    obtain ⟨i, member, late⟩ := parity
    exact (paritySeen_iff _).mpr ⟨i, List.mem_reverse.mpr member, late⟩
  have fewer := dataCount_lt seenParity
  rw [List.length_reverse, first_length] at fewer
  exact ⟨seenParity, by omega, by rw [List.length_reverse, first_length]⟩

/-- Repair with equally long shards: the lost packets come with the last of the
first arrivals, and the rest is dropped. -/
theorem results_repaired (arrivals : Arrivals batch) (start : Instant)
    (parity : ∃ i ∈ arrivals.first, batch.dataShards ≤ i)
    (aligned : batch.Aligned arrivals.first.reverse) :
    ∃ before last after, arrivals.order = before ++ last :: after ∧
      arrivals.first = before.map Delivery.index ++ [last.index] ∧
      (FecDecoder.new start).receiveAll (batch.carried arrivals.order) =
        before.map batch.passed ++ .ok (FecGroup.joined (batch.direct last.index last.ttl)
          (some (batch.repaired arrivals.first.reverse last.ttl))) :: after.map fun _ => .ok none := by
  have attempts := attempts_first arrivals parity
  obtain ⟨before, last, after, decoder, step, shape, first, moves, groups, run⟩ :=
    repair_call arrivals start
  refine ⟨before, last, after, shape, first, ?_⟩
  cases moves with
  | completed complete _ => exact absurd complete.2 attempts.2.1
  | waiting _ early _ => exact absurd attempts early
  | refused _ misaligned _ _ => exact absurd aligned misaligned
  | repaired _ _ closed =>
      rw [run, closed_run after decoder ⟨_, groups, closed⟩ fun delivery member =>
        arrivals.inside delivery (by rw [shape]; simp [member])]

theorem results_refused (arrivals : Arrivals batch) (start : Instant)
    (parity : ∃ i ∈ arrivals.first, batch.dataShards ≤ i)
    (misaligned : ¬ batch.Aligned arrivals.first.reverse) :
    ∃ result ∈ (FecDecoder.new start).receiveAll (batch.carried arrivals.order),
      result.isOk = false := by
  have attempts := attempts_first arrivals parity
  obtain ⟨before, last, after, decoder, step, shape, first, moves, groups, run⟩ :=
    repair_call arrivals start
  refine ⟨step.result, by rw [run]; simp, ?_⟩
  cases moves with
  | completed complete _ => exact absurd complete.2 attempts.2.1
  | waiting _ early _ => exact absurd attempts early
  | repaired _ aligned _ => exact absurd aligned misaligned
  | refused _ _ _ failed => exact failed

end Run
end Batch
end VntClient
