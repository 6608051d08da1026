import VntClient.FecSender

/-!
Every group of an encoder, from its first packet to the worker. The worker takes the
batches whose deadline has passed under one lock and hands them over one after the other,
so calls of `encode` come in between. `Pages` keeps the closed groups, numbered from 0 for
each destination, and the packets of the open ones beside what the run has sent.
-/

namespace VntClient
open Sender

structure EncoderSystem where
  encoder : FecEncoder
  /-- `timeout_batches` that the worker has not handed over yet -/
  due : List BatchItem

inductive EncoderAction where
  | encode (now : Instant) (packet : NetPacket)
  | tick (now : Instant)
  | recv
  | next

/-- What happens in a run: a data packet comes back wrapped, a batch is handed to
`encode_and_send_parity`, a batch is dropped because the channel is full. -/
inductive EncoderRecord where
  | wrapped (packet wire : NetPacket)
  | handed (item : BatchItem)
  | dropped (item : BatchItem)

namespace FecEncoder

/-- The batch a packet makes full, when the channel has no room for it. -/
def overflow (encoder : FecEncoder) (now : Instant) (packet : NetPacket) : List BatchItem :=
  let state := encoder.stateOf now packet.srcId packet.destId
  let batch := state.currentBatch ++ [fecData packet.header packet.payload]
  if batchSize ≤ batch.length ∧ batchChannelSize ≤ encoder.channel.length then
    [⟨packet.srcId, packet.destId, state.groupId, batch⟩]
  else []

theorem trySend_perm (channel : List BatchItem) (item : BatchItem) :
    ((if batchChannelSize ≤ channel.length then [item] else []) ++ trySend channel item).Perm
      (channel ++ [item]) := by
  unfold trySend
  by_cases room : channel.length < batchChannelSize
  · rw [if_neg (Nat.not_le.mpr room), if_pos room]
    exact List.Perm.refl _
  · rw [if_pos (Nat.not_lt.mp room), if_neg room]
    exact List.perm_append_comm

end FecEncoder

namespace EncoderSystem

def new : EncoderSystem := ⟨FecEncoder.new, []⟩

/-- The worker waits for its channel and its timer only when it has nothing left to hand
over. -/
def step (system : EncoderSystem) : EncoderAction → EncoderSystem × List EncoderRecord
  | .encode now packet =>
      match system.encoder.encode now packet with
      | .ok (encoder, wire) => ({ system with encoder },
          .wrapped packet wire :: (system.encoder.overflow now packet).map .dropped)
      | _ => (system, [])
  | .tick now =>
      if system.due = [] then (⟨(system.encoder.tick now).2, (system.encoder.tick now).1⟩, [])
      else (system, [])
  | .recv =>
      if system.due = [] then
        match system.encoder.recv with
        | some (item, encoder) => ({ system with encoder }, [.handed item])
        | none => (system, [])
      else (system, [])
  | .next =>
      match system.due with
      | [] => (system, [])
      | item :: rest => ({ system with due := rest }, [.handed item])

/-- The batches that wait for the worker, in the order it takes them. -/
def waiting (system : EncoderSystem) : List BatchItem := system.due ++ system.encoder.channel

/-- The worker's next steps as long as something waits. -/
def catchUp (system : EncoderSystem) : List EncoderAction :=
  List.replicate system.due.length .next ++ List.replicate system.encoder.channel.length .recv

/-- The worker's steps after the last packet: what waits, the timer, what the timer closed. -/
def flush (system : EncoderSystem) (late : Instant) : List EncoderAction :=
  system.catchUp ++ .tick late :: List.replicate (system.encoder.tick late).1.length .next

theorem run_next (encoder : FecEncoder) (due : List BatchItem) :
    Machine.run step ⟨encoder, due⟩ (List.replicate due.length .next) =
      (⟨encoder, []⟩, due.map .handed) := by
  induction due with
  | nil => rfl
  | cons item rest ih =>
      rw [List.length_cons, List.replicate_succ, Machine.run_cons]
      simp only [step, ih]
      rfl

theorem run_recv (states : AList fun _ : Ipv4Addr => DestBatchState) (channel : List BatchItem) :
    Machine.run step ⟨⟨states, channel⟩, []⟩ (List.replicate channel.length .recv) =
      (⟨⟨states, []⟩, []⟩, channel.map .handed) := by
  induction channel with
  | nil => rfl
  | cons item rest ih =>
      rw [List.length_cons, List.replicate_succ, Machine.run_cons]
      simp only [step, FecEncoder.recv, ↓reduceIte, ih]
      rfl

theorem run_catchUp (system : EncoderSystem) :
    Machine.run step system system.catchUp =
      (⟨⟨system.encoder.batchStates, []⟩, []⟩, system.waiting.map .handed) := by
  rw [catchUp, Machine.run_append, run_next system.encoder system.due,
    run_recv system.encoder.batchStates system.encoder.channel, waiting, List.map_append]

theorem run_flush (system : EncoderSystem) (late : Instant) :
    Machine.run step system (system.flush late) =
      (⟨⟨(system.encoder.tick late).2.batchStates, []⟩, []⟩,
        (system.waiting ++ (system.encoder.tick late).1).map .handed) := by
  rw [flush, Machine.run_append, run_catchUp, Machine.run_cons]
  have ticked : step ⟨⟨system.encoder.batchStates, []⟩, []⟩ (.tick late) =
      (⟨⟨(system.encoder.tick late).2.batchStates, []⟩, (system.encoder.tick late).1⟩, []) := rfl
  rw [ticked]
  simp only [run_next, List.nil_append, List.map_append]

end EncoderSystem

namespace EncoderRecord

def handedItem : EncoderRecord → Option BatchItem
  | .handed item => some item
  | _ => none

def droppedItem : EncoderRecord → Option BatchItem
  | .dropped item => some item
  | _ => none

def wrappedTo (dest : Ipv4Addr) : EncoderRecord → Option (NetPacket × NetPacket)
  | .wrapped packet wire => if packet.destId = dest then some (packet, wire) else none
  | _ => none

end EncoderRecord

structure ClosedGroup where
  src : Ipv4Addr
  dest : Ipv4Addr
  ordinal : Nat
  packets : List NetPacket

/-- The batch that leaves for the worker: the shards of the group's packets in order. -/
def ClosedGroup.item (group : ClosedGroup) : BatchItem :=
  ⟨group.src, group.dest, groupAt group.ordinal, shardsOf group.packets⟩

def groupsTo (dest : Ipv4Addr) (closed : List ClosedGroup) : List ClosedGroup :=
  closed.filter fun group => group.dest = dest

def stamped (groupId : UInt64) (packets : List NetPacket) : List (NetPacket × NetPacket) :=
  packets.mapIdx fun i packet => (packet, ⟨packet.header.setFlag fec true,
    FecPacket.encodeToVec ⟨groupId, UInt32.ofNat i, packet.payload, none⟩⟩)

/-- The closed groups and the packets of the open ones, as the wrapped packets tell. -/
structure Pages (records : List EncoderRecord) (closed : List ClosedGroup)
    (pending : Ipv4Addr → List NetPacket) : Prop where
  ordinals : ∀ dest,
    (groupsTo dest closed).map ClosedGroup.ordinal = List.range (groupsTo dest closed).length
  sizes : ∀ group ∈ closed, group.packets ≠ [] ∧ group.packets.length ≤ batchSize
  fits : ∀ dest, ∀ sent ∈ records.filterMap (EncoderRecord.wrappedTo dest),
    sent.1.payload.length ≤ 65535
  wrapped : ∀ dest, records.filterMap (EncoderRecord.wrappedTo dest) =
    (groupsTo dest closed).flatMap (fun group => stamped (groupAt group.ordinal) group.packets) ++
      stamped (groupAt (groupsTo dest closed).length) (pending dest)

section Pages
variable {records : List EncoderRecord} {closed : List ClosedGroup}
  {pending : Ipv4Addr → List NetPacket}

theorem pages_new : Pages [] [] fun _ => [] where
  ordinals _ := rfl
  sizes _ member := by cases member
  fits _ _ member := by cases member
  wrapped _ := rfl

theorem Pages.quiet (pages : Pages records closed pending) (more : List EncoderRecord)
    (silent : ∀ dest, more.filterMap (EncoderRecord.wrappedTo dest) = []) :
    Pages (records ++ more) closed pending := by
  refine ⟨pages.ordinals, pages.sizes, ?_, ?_⟩
  · intro dest
    rw [List.filterMap_append, silent, List.append_nil]
    exact pages.fits dest
  · intro dest
    rw [List.filterMap_append, silent, List.append_nil]
    exact pages.wrapped dest

theorem stamped_append (groupId : UInt64) (packets : List NetPacket) (packet : NetPacket) :
    stamped groupId (packets ++ [packet]) = stamped groupId packets ++
      [(packet, ⟨packet.header.setFlag fec true, FecPacket.encodeToVec
        ⟨groupId, UInt32.ofNat packets.length, packet.payload, none⟩⟩)] := by
  rw [stamped, List.mapIdx_concat]
  rfl

theorem Pages.add (pages : Pages records closed pending) (packet : NetPacket)
    (small : packet.payload.length ≤ 65535) :
    Pages (records ++ [.wrapped packet ⟨packet.header.setFlag fec true, FecPacket.encodeToVec
        ⟨groupAt (groupsTo packet.destId closed).length,
          UInt32.ofNat (pending packet.destId).length, packet.payload, none⟩⟩]) closed
      (Function.update pending packet.destId (pending packet.destId ++ [packet])) := by
  have read : ∀ dest, ∀ wire, [EncoderRecord.wrapped packet wire].filterMap
      (EncoderRecord.wrappedTo dest) = if packet.destId = dest then [(packet, wire)] else [] := by
    intro dest wire
    by_cases here : packet.destId = dest <;> simp [EncoderRecord.wrappedTo, here]
  refine ⟨pages.ordinals, pages.sizes, ?_, ?_⟩
  · intro dest sent member
    rw [List.filterMap_append, read] at member
    rcases List.mem_append.mp member with old | new
    · exact pages.fits dest sent old
    · split at new
      · rw [List.mem_singleton.mp new]
        exact small
      · cases new
  · intro dest
    rw [List.filterMap_append, read, pages.wrapped dest]
    by_cases here : packet.destId = dest
    · subst here
      rw [if_pos rfl, Function.update_self, stamped_append, List.append_assoc]
    · rw [if_neg here, List.append_nil, Function.update_of_ne (Ne.symm here)]

theorem groupsTo_append (dest : Ipv4Addr) (first second : List ClosedGroup) :
    groupsTo dest (first ++ second) = groupsTo dest first ++ groupsTo dest second :=
  List.filter_append _ _

/-- Of groups to different destinations at most one goes to a given one. -/
theorem groupsTo_distinct {groups : List ClosedGroup}
    (distinct : (groups.map ClosedGroup.dest).Nodup) (dest : Ipv4Addr) :
    (dest ∉ groups.map ClosedGroup.dest ∧ groupsTo dest groups = []) ∨
      ∃ group ∈ groups, group.dest = dest ∧ groupsTo dest groups = [group] := by
  induction groups with
  | nil => exact Or.inl ⟨List.not_mem_nil, rfl⟩
  | cons first rest ih =>
      rw [List.map_cons, List.nodup_cons] at distinct
      rcases ih distinct.2 with ⟨absent, none_⟩ | ⟨group, member, same, only⟩
      · by_cases here : first.dest = dest
        · refine Or.inr ⟨first, List.mem_cons_self, here, ?_⟩
          rw [groupsTo, List.filter_cons_of_pos (by simpa using here)]
          exact congrArg _ none_
        · refine Or.inl ⟨?_, ?_⟩
          · rw [List.map_cons, List.mem_cons]
            rintro (same | member)
            · exact here same.symm
            · exact absent member
          · rw [groupsTo, List.filter_cons_of_neg (by simpa using here)]
            exact none_
      · right
        have other : first.dest ≠ dest := by
          rintro rfl
          exact distinct.1 (List.mem_map.mpr ⟨group, member, same⟩)
        refine ⟨group, List.mem_cons_of_mem _ member, same, ?_⟩
        rw [groupsTo, List.filter_cons_of_neg (by simpa using other)]
        exact only

/-- Closing the open groups of some destinations. -/
theorem Pages.close (pages : Pages records closed pending) {groups : List ClosedGroup}
    (distinct : (groups.map ClosedGroup.dest).Nodup)
    (made : ∀ group ∈ groups, group.ordinal = (groupsTo group.dest closed).length ∧
      group.packets = pending group.dest ∧ group.packets ≠ [] ∧
        group.packets.length ≤ batchSize) :
    Pages records (closed ++ groups)
      fun dest => if dest ∈ groups.map ClosedGroup.dest then [] else pending dest := by
  refine ⟨?_, ?_, pages.fits, ?_⟩
  · intro dest
    rw [groupsTo_append]
    rcases groupsTo_distinct distinct dest with ⟨_, none_⟩ | ⟨group, member, rfl, only⟩
    · rw [none_, List.append_nil]
      exact pages.ordinals dest
    · rw [only, List.map_append, pages.ordinals, List.length_append, List.length_singleton,
        List.range_succ, List.map_singleton, (made group member).1]
  · intro group member
    rcases List.mem_append.mp member with old | new
    · exact pages.sizes group old
    · exact (made group new).2.2
  · intro dest
    rw [pages.wrapped dest, groupsTo_append]
    rcases groupsTo_distinct distinct dest with ⟨absent, none_⟩ | ⟨group, member, rfl, only⟩
    · rw [none_, List.append_nil, if_neg absent]
    · obtain ⟨ordinal, packets, _⟩ := made group member
      rw [only, if_pos (List.mem_map.mpr ⟨group, member, rfl⟩), List.flatMap_append,
        List.flatMap_singleton, ordinal, packets]
      simp [stamped]

/-- A packet that makes its group full closes it. -/
theorem Pages.fill (pages : Pages records closed pending) (packet : NetPacket)
    (small : packet.payload.length ≤ 65535)
    (room : (pending packet.destId).length < batchSize) :
    Pages (records ++ [.wrapped packet ⟨packet.header.setFlag fec true, FecPacket.encodeToVec
        ⟨groupAt (groupsTo packet.destId closed).length,
          UInt32.ofNat (pending packet.destId).length, packet.payload, none⟩⟩])
      (closed ++ [⟨packet.srcId, packet.destId, (groupsTo packet.destId closed).length,
        pending packet.destId ++ [packet]⟩])
      fun dest => if dest = packet.destId then [] else pending dest := by
  have added := pages.add packet small
  have closes : ∀ groups, groups = [(⟨packet.srcId, packet.destId,
      (groupsTo packet.destId closed).length, pending packet.destId ++ [packet]⟩ : ClosedGroup)] →
      Pages (records ++ [.wrapped packet ⟨packet.header.setFlag fec true, FecPacket.encodeToVec
          ⟨groupAt (groupsTo packet.destId closed).length,
            UInt32.ofNat (pending packet.destId).length, packet.payload, none⟩⟩])
        (closed ++ groups) fun dest => if dest ∈ groups.map ClosedGroup.dest then [] else
          Function.update pending packet.destId (pending packet.destId ++ [packet]) dest := by
    rintro groups rfl
    refine added.close (by simp) fun group member => ?_
    rw [List.mem_singleton.mp member]
    refine ⟨rfl, ?_, by simp, ?_⟩
    · rw [Function.update_self]
    · rw [List.length_append, List.length_singleton]
      exact room
  have closing := closes _ rfl
  have emptied : (fun dest => if dest ∈ [(⟨packet.srcId, packet.destId,
      (groupsTo packet.destId closed).length, pending packet.destId ++ [packet]⟩ :
        ClosedGroup)].map ClosedGroup.dest then [] else Function.update pending packet.destId
          (pending packet.destId ++ [packet]) dest) =
      fun dest => if dest = packet.destId then [] else pending dest := by
    funext dest
    by_cases here : dest = packet.destId
    · simp [here]
    · simp [here]
  rwa [emptied] at closing

theorem groupsTo_length (closed : List ClosedGroup) (group : ClosedGroup) (dest : Ipv4Addr) :
    (groupsTo dest (closed ++ [group])).length =
      (groupsTo dest closed).length + if group.dest = dest then 1 else 0 := by
  rw [groupsTo_append, List.length_append]
  by_cases here : group.dest = dest <;> simp [groupsTo, here]

end Pages

/-- The pages agree with what the encoder and its worker hold, and every closed group has
gone one way: handed over, dropped, in the channel, or due. -/
structure Account (system : EncoderSystem) (records : List EncoderRecord)
    (closed : List ClosedGroup) (pending : Ipv4Addr → List NetPacket) : Prop where
  pages : Pages records closed pending
  room : ∀ dest, (pending dest).length < batchSize
  fate : (records.filterMap EncoderRecord.handedItem ++ (records.filterMap EncoderRecord.droppedItem ++
    (system.encoder.channel ++ system.due))).Perm (closed.map ClosedGroup.item)
  states : ∀ now src dest, ∃ deadline srcIp, system.encoder.stateOf now src dest =
    ⟨groupAt (groupsTo dest closed).length, shardsOf (pending dest), deadline, srcIp⟩

theorem account_new : Account EncoderSystem.new [] [] fun _ => [] where
  pages := pages_new
  room _ := by decide
  fate := List.Perm.refl _
  states now src _ := ⟨now + fromMillis batchTimeoutMs, src, rfl⟩

section Account
variable {system : EncoderSystem} {records : List EncoderRecord} {closed : List ClosedGroup}
  {pending : Ipv4Addr → List NetPacket}

/-- A step in which nothing but one batch moves into the worker's hands. -/
theorem Account.hand (account : Account system records closed pending) (item : BatchItem)
    (after : EncoderSystem)
    (moved : (item :: (after.encoder.channel ++ after.due)).Perm
      (system.encoder.channel ++ system.due))
    (states : after.encoder.batchStates = system.encoder.batchStates) :
    Account after (records ++ [.handed item]) closed pending := by
  refine ⟨account.pages.quiet _ fun _ => rfl, account.room, ?_, ?_⟩
  · rw [List.filterMap_append, List.filterMap_append]
    refine List.Perm.trans ?_ account.fate
    simp only [EncoderRecord.handedItem, EncoderRecord.droppedItem, List.filterMap_cons,
      List.filterMap_nil, List.append_nil, List.append_assoc]
    refine List.Perm.append_left _ ?_
    rw [List.singleton_append]
    refine List.Perm.trans List.perm_middle.symm ?_
    exact List.Perm.append_left _ moved
  · intro now src dest
    have same : after.encoder.stateOf now src dest = system.encoder.stateOf now src dest := by
      rw [FecEncoder.stateOf, FecEncoder.stateOf, states]
    rw [same]
    exact account.states now src dest

theorem Account.idle (account : Account system records closed pending) :
    Account system (records ++ []) closed pending := by
  rw [List.append_nil]
  exact account

theorem Account.recv (account : Account system records closed pending) :
    Account (system.step .recv).1 (records ++ (system.step .recv).2) closed pending := by
  rw [EncoderSystem.step]
  split
  · rename_i free
    cases waiting : system.encoder.channel with
    | nil =>
        simp only [FecEncoder.recv, waiting]
        exact account.idle
    | cons item rest =>
        simp only [FecEncoder.recv, waiting]
        refine account.hand item _ ?_ rfl
        rw [waiting, free]
        exact List.Perm.refl _
  · exact account.idle

theorem Account.next (account : Account system records closed pending) :
    Account (system.step .next).1 (records ++ (system.step .next).2) closed pending := by
  rw [EncoderSystem.step]
  cases waiting : system.due with
  | nil => exact account.idle
  | cons item rest =>
      refine account.hand item _ ?_ rfl
      rw [waiting]
      exact List.perm_middle.symm

theorem dropped_silent (items : List BatchItem) (dest : Ipv4Addr) :
    (items.map EncoderRecord.dropped).filterMap (EncoderRecord.wrappedTo dest) = [] := by
  rw [List.filterMap_map]
  exact List.filterMap_eq_nil_iff.mpr fun _ _ => rfl

theorem dropped_handed (items : List BatchItem) :
    (items.map EncoderRecord.dropped).filterMap EncoderRecord.handedItem = [] := by
  rw [List.filterMap_map]
  exact List.filterMap_eq_nil_iff.mpr fun _ _ => rfl

theorem dropped_dropped (items : List BatchItem) :
    (items.map EncoderRecord.dropped).filterMap EncoderRecord.droppedItem = items := by
  rw [List.filterMap_map]
  exact List.filterMap_some

theorem fate_encode (packet wire : NetPacket) (items : List BatchItem) :
    (EncoderRecord.wrapped packet wire :: items.map EncoderRecord.dropped).filterMap
        EncoderRecord.handedItem = [] ∧
      (EncoderRecord.wrapped packet wire :: items.map EncoderRecord.dropped).filterMap
        EncoderRecord.droppedItem = items :=
  ⟨dropped_handed items, dropped_dropped items⟩

/-- The packet closes its group, which goes into the channel or is dropped. -/
theorem Account.encode_full (account : Account system records closed pending) (now : Instant)
    (packet : NetPacket) (fits : packet.payload.length ≤ 65535)
    (full : batchSize ≤ (pending packet.destId).length + 1) :
    ∃ closed' pending', Account (system.step (.encode now packet)).1
      (records ++ (system.step (.encode now packet)).2) closed' pending' := by
  obtain ⟨deadline, srcIp, state⟩ := account.states now packet.srcId packet.destId
  simp only [EncoderSystem.step, FecEncoder.encode_ok system.encoder now packet fits, state,
    shardsOf_length]
  rw [FecEncoder.push_full _ _ _ _ _ _ (by rw [shardsOf_length]; exact full), shardsOf_append]
  have lost : system.encoder.overflow now packet =
      if batchChannelSize ≤ system.encoder.channel.length then [⟨packet.srcId, packet.destId,
        groupAt (groupsTo packet.destId closed).length,
        shardsOf (pending packet.destId ++ [packet])⟩] else [] := by
    simp only [FecEncoder.overflow, state, shardsOf_append]
    have enough : batchSize ≤ (shardsOf (pending packet.destId ++ [packet])).length := by
      rw [shardsOf_length, List.length_append]
      exact full
    simp only [enough, true_and]
  have silent := (account.pages.fill packet fits (account.room packet.destId)).quiet
    ((system.encoder.overflow now packet).map .dropped) (dropped_silent _)
  rw [List.append_assoc, List.singleton_append] at silent
  refine ⟨_, _, silent, ?_, ?_, ?_⟩
  · intro dest
    by_cases here : dest = packet.destId
    · rw [if_pos here]
      decide
    · rw [if_neg here]
      exact account.room dest
  · obtain ⟨handed, dropped⟩ := fate_encode packet ⟨packet.header.setFlag fec true,
      FecPacket.encodeToVec ⟨groupAt (groupsTo packet.destId closed).length,
        UInt32.ofNat (pending packet.destId).length, packet.payload, none⟩⟩
      (system.encoder.overflow now packet)
    rw [List.filterMap_append, List.filterMap_append, handed, dropped, List.append_nil,
      List.map_append, lost]
    have sent := FecEncoder.trySend_perm system.encoder.channel ⟨packet.srcId, packet.destId,
      groupAt (groupsTo packet.destId closed).length,
      shardsOf (pending packet.destId ++ [packet])⟩
    have fate := account.fate
    rw [List.perm_iff_count] at sent fate ⊢
    intro item
    have sent := sent item
    have fate := fate item
    simp only [List.count_append, List.map_singleton, ClosedGroup.item] at sent fate ⊢
    omega
  · intro later src dest
    by_cases here : dest = packet.destId
    · subst here
      rw [Batch.stateOf_insert, groupsTo_length, if_pos rfl, if_pos rfl, groupAt_succ]
      exact ⟨_, srcIp, rfl⟩
    · rw [stateOf_insert_ne _ _ system.encoder.channel _ _ _ _ _ here, groupsTo_length,
        if_neg (Ne.symm here), if_neg here]
      exact account.states later src dest

/-- The packet joins the open group of its destination. -/
theorem Account.encode_partial (account : Account system records closed pending) (now : Instant)
    (packet : NetPacket) (fits : packet.payload.length ≤ 65535)
    (short : (pending packet.destId).length + 1 < batchSize) :
    ∃ closed' pending', Account (system.step (.encode now packet)).1
      (records ++ (system.step (.encode now packet)).2) closed' pending' := by
  obtain ⟨deadline, srcIp, state⟩ := account.states now packet.srcId packet.destId
  simp only [EncoderSystem.step, FecEncoder.encode_ok system.encoder now packet fits, state,
    shardsOf_length]
  rw [FecEncoder.push_partial _ _ _ _ _ _ (by rw [shardsOf_length]; omega), shardsOf_append]
  have kept : system.encoder.overflow now packet = [] := by
    simp only [FecEncoder.overflow, state]
    rw [if_neg]
    rw [List.length_append, List.length_singleton, shardsOf_length]
    exact fun both => absurd both.1 (Nat.not_le.mpr short)
  rw [kept, List.map_nil]
  refine ⟨closed, _, account.pages.add packet fits, ?_, ?_, ?_⟩
  · intro dest
    by_cases here : dest = packet.destId
    · subst here
      rw [Function.update_self, List.length_append, List.length_singleton]
      omega
    · rw [Function.update_of_ne here]
      exact account.room dest
  · obtain ⟨handed, dropped⟩ := fate_encode packet ⟨packet.header.setFlag fec true,
      FecPacket.encodeToVec ⟨groupAt (groupsTo packet.destId closed).length,
        UInt32.ofNat (pending packet.destId).length, packet.payload, none⟩⟩ []
    rw [List.map_nil] at handed dropped
    rw [List.filterMap_append, List.filterMap_append, handed, dropped, List.append_nil,
      List.append_nil]
    exact account.fate
  · intro later src dest
    by_cases here : dest = packet.destId
    · subst here
      rw [Batch.stateOf_insert, Function.update_self]
      exact ⟨deadline, srcIp, rfl⟩
    · rw [stateOf_insert_ne _ _ system.encoder.channel _ _ _ _ _ here, Function.update_of_ne here]
      exact account.states later src dest

theorem Account.encode (account : Account system records closed pending) (now : Instant)
    (packet : NetPacket) :
    ∃ closed' pending', Account (system.step (.encode now packet)).1
      (records ++ (system.step (.encode now packet)).2) closed' pending' := by
  by_cases big : 65535 < packet.payload.length
  · have refused : system.encoder.encode now packet = .err "Payload too big" := by
      simp [FecEncoder.encode, big]
    simp only [EncoderSystem.step, refused]
    exact ⟨closed, pending, account.idle⟩
  · have fits : packet.payload.length ≤ 65535 := Nat.not_lt.mp big
    rcases Nat.lt_or_ge ((pending packet.destId).length + 1) batchSize with short | full
    · exact account.encode_partial now packet fits short
    · exact account.encode_full now packet fits full

theorem Account.lookup (account : Account system records closed pending) {dest : Ipv4Addr}
    {state : DestBatchState} (held : system.encoder.batchStates.lookup dest = some state) :
    state.groupId = groupAt (groupsTo dest closed).length ∧
      state.currentBatch = shardsOf (pending dest) := by
  obtain ⟨deadline, srcIp, same⟩ := account.states 0 0 dest
  rw [FecEncoder.stateOf, held, Option.getD_some] at same
  rw [same]
  exact ⟨rfl, rfl⟩

def overdue (now : Instant) (states : AList fun _ : Ipv4Addr => DestBatchState)
    (closed : List ClosedGroup) (pending : Ipv4Addr → List NetPacket) : List ClosedGroup :=
  states.entries.filterMap fun entry =>
    if FecEncoder.expired now entry.2 then
      some ⟨entry.2.srcIp, entry.1, (groupsTo entry.1 closed).length, pending entry.1⟩
    else none

theorem overdue_dests (now : Instant) (states : AList fun _ : Ipv4Addr => DestBatchState) :
    (overdue now states closed pending).map ClosedGroup.dest =
      (states.entries.filter fun entry => FecEncoder.expired now entry.2).map Sigma.fst := by
  unfold overdue
  generalize states.entries = entries
  induction entries with
  | nil => rfl
  | cons entry rest ih =>
      cases due : FecEncoder.expired now entry.2 <;> simp [due, ih]

theorem mem_overdue_dests (now : Instant) (states : AList fun _ : Ipv4Addr => DestBatchState)
    (dest : Ipv4Addr) : dest ∈ (overdue now states closed pending).map ClosedGroup.dest ↔
      (states.lookup dest).any (FecEncoder.expired now) = true := by
  rw [overdue_dests]
  constructor
  · intro member
    obtain ⟨entry, inside, rfl⟩ := List.mem_map.mp member
    obtain ⟨inside, due⟩ := List.mem_filter.mp inside
    have held : states.lookup entry.1 = some entry.2 := AList.mem_lookup_iff.mpr inside
    rw [held]
    exact due
  · intro due
    cases held : states.lookup dest with
    | none =>
        rw [held] at due
        cases due
    | some state =>
        rw [held] at due
        exact List.mem_map.mpr ⟨⟨dest, state⟩, List.mem_filter.mpr
          ⟨AList.mem_lookup_iff.mp held, due⟩, rfl⟩

theorem Account.overdue_items (account : Account system records closed pending) (now : Instant) :
    (system.encoder.tick now).1 =
      (overdue now system.encoder.batchStates closed pending).map ClosedGroup.item := by
  rw [overdue, List.map_filterMap]
  apply List.filterMap_congr
  intro entry inside
  obtain ⟨groupId, batch⟩ := account.lookup (AList.mem_lookup_iff.mpr inside)
  split
  · rw [Option.map_some, groupId, batch]
    rfl
  · rfl

theorem overdue_distinct (now : Instant) (states : AList fun _ : Ipv4Addr => DestBatchState) :
    ((overdue now states closed pending).map ClosedGroup.dest).Nodup := by
  rw [overdue_dests]
  exact states.keys_nodup.sublist (List.filter_sublist.map Sigma.fst)

/-- The timer closes each group at its place, neither empty nor too long. -/
theorem Account.overdue_made (account : Account system records closed pending) (now : Instant) :
    ∀ group ∈ overdue now system.encoder.batchStates closed pending,
      group.ordinal = (groupsTo group.dest closed).length ∧ group.packets = pending group.dest ∧
        group.packets ≠ [] ∧ group.packets.length ≤ batchSize := by
  intro group member
  obtain ⟨entry, inside, same⟩ := List.mem_filterMap.mp member
  obtain ⟨_, batch⟩ := account.lookup (AList.mem_lookup_iff.mpr inside)
  split at same
  · rename_i due
    cases same
    refine ⟨rfl, rfl, ?_, Nat.le_of_lt (account.room entry.1)⟩
    intro empty
    have nothing : pending entry.1 = [] := empty
    simp [FecEncoder.expired, batch, nothing, shardsOf] at due
  · cases same

theorem groupsTo_overdue_length (now : Instant)
    (states : AList fun _ : Ipv4Addr => DestBatchState) (dest : Ipv4Addr) :
    (groupsTo dest (overdue now states closed pending)).length =
      if (states.lookup dest).any (FecEncoder.expired now) = true then 1 else 0 := by
  rcases groupsTo_distinct (overdue_distinct now states) dest with
    ⟨absent, nothing⟩ | ⟨group, member, here, only⟩
  · rw [mem_overdue_dests] at absent
    rw [nothing, if_neg absent]
    rfl
  · have due := (mem_overdue_dests now states dest).mp (List.mem_map.mpr ⟨group, member, here⟩)
    rw [only, if_pos due]
    rfl

theorem Account.tick_free (account : Account system records closed pending) (now : Instant)
    (free : system.due = []) :
    Account (system.step (.tick now)).1 (records ++ (system.step (.tick now)).2)
      (closed ++ overdue now system.encoder.batchStates closed pending) fun dest =>
        if dest ∈ (overdue now system.encoder.batchStates closed pending).map ClosedGroup.dest
        then [] else pending dest := by
  rw [EncoderSystem.step, if_pos free]
  have closes := account.pages.close (overdue_distinct now system.encoder.batchStates)
    (account.overdue_made now)
  refine ⟨closes.quiet [] fun _ => rfl, ?_, ?_, ?_⟩
  · intro dest
    split
    · decide
    · exact account.room dest
  -- The closed groups' batches are what the worker now has to hand over.
  · have fate := account.fate
    rw [free, List.append_nil] at fate
    rw [account.overdue_items now, List.append_nil, List.map_append]
    have more := fate.append_right
      ((overdue now system.encoder.batchStates closed pending).map ClosedGroup.item)
    rwa [List.append_assoc, List.append_assoc] at more
  · intro later src dest
    obtain ⟨deadline, srcIp, same⟩ := account.states later src dest
    simp only [FecEncoder.stateOf, FecEncoder.tick, Table.lookup_mapValues] at same ⊢
    rw [groupsTo_append, List.length_append, groupsTo_overdue_length]
    simp only [mem_overdue_dests]
    cases held : system.encoder.batchStates.lookup dest with
    | none =>
        rw [held] at same
        exact ⟨deadline, srcIp, same⟩
    | some state =>
        rw [held, Option.getD_some] at same
        cases due : FecEncoder.expired now state with
        | false =>
            simp only [Option.any_some, due, Bool.false_eq_true, ↓reduceIte, Option.map_some,
              Option.getD_some]
            exact ⟨deadline, srcIp, same⟩
        | true =>
            -- A closed group leaves an empty one with the next id.
            simp only [Option.any_some, due, ↓reduceIte, Option.map_some, Option.getD_some]
            rw [same, groupAt_succ]
            exact ⟨_, srcIp, rfl⟩

theorem Account.tick (account : Account system records closed pending) (now : Instant) :
    ∃ closed' pending', Account (system.step (.tick now)).1
      (records ++ (system.step (.tick now)).2) closed' pending' := by
  by_cases free : system.due = []
  · exact ⟨_, _, account.tick_free now free⟩
  · rw [EncoderSystem.step, if_neg free]
    exact ⟨closed, pending, account.idle⟩

/-- The worker's hand-overs close no group. -/
theorem Account.handOvers (actions : List EncoderAction) :
    ∀ {system : EncoderSystem} {records : List EncoderRecord},
      Account system records closed pending →
      (∀ action ∈ actions, action = .next ∨ action = .recv) →
      Account (Machine.run EncoderSystem.step system actions).1
        (records ++ (Machine.run EncoderSystem.step system actions).2) closed pending := by
  induction actions with
  | nil => exact fun account _ => account.idle
  | cons action rest ih =>
      intro system records account own
      have first : Account (system.step action).1 (records ++ (system.step action).2)
          closed pending := by
        rcases own action List.mem_cons_self with rfl | rfl
        · exact account.next
        · exact account.recv
      have whole := ih first fun later member => own later (List.mem_cons_of_mem _ member)
      rwa [List.append_assoc] at whole

/-- When no deadline lies after `late`, the timer leaves no group open. -/
theorem Account.overdue_all (account : Account system records closed pending) {late : Instant}
    (passed : ∀ dest state, system.encoder.batchStates.lookup dest = some state →
      state.deadline ≤ late) (dest : Ipv4Addr) :
    (if dest ∈ (overdue late system.encoder.batchStates closed pending).map ClosedGroup.dest
      then [] else pending dest) = [] := by
  simp only [mem_overdue_dests]
  obtain ⟨deadline, srcIp, same⟩ := account.states 0 0 dest
  have noShards : shardsOf (pending dest) = [] → pending dest = [] := by
    intro none_
    rw [← List.length_eq_zero_iff, ← shardsOf_length, none_, List.length_nil]
  cases held : system.encoder.batchStates.lookup dest with
  | none =>
      rw [FecEncoder.stateOf, held] at same
      rw [Option.any_none, if_neg Bool.false_ne_true]
      exact noShards (DestBatchState.mk.inj same).2.1.symm
  | some state =>
      obtain ⟨_, batch⟩ := account.lookup held
      cases due : FecEncoder.expired late state with
      | true => simp [due]
      | false =>
          simp only [FecEncoder.expired, decide_eq_true (passed dest state held), Bool.and_true,
            Bool.not_eq_false', List.isEmpty_iff] at due
          rw [Option.any_some, if_neg (by simp [FecEncoder.expired, due])]
          exact noShards (batch ▸ due)

end Account

/-- Every run has its account. -/
theorem account_run (actions : List EncoderAction) :
    ∃ closed pending, Account (Machine.run EncoderSystem.step EncoderSystem.new actions).1
      (Machine.run EncoderSystem.step EncoderSystem.new actions).2 closed pending := by
  have kept := Machine.run_invariant EncoderSystem.step
    (fun system records => ∃ closed pending, Account system records closed pending) actions (by
      intro system records action _ ⟨closed, pending, account⟩
      cases action with
      | encode now packet => exact account.encode now packet
      | tick now => exact account.tick now
      | recv => exact ⟨closed, pending, account.recv⟩
      | next => exact ⟨closed, pending, account.next⟩) EncoderSystem.new [] ⟨_, _, account_new⟩
  rwa [List.nil_append] at kept

def stamp (wire : NetPacket) : Option (UInt64 × UInt32) :=
  (FecPacket.decode wire.payload).map fun shard => (shard.groupId, shard.packetIndex)

/-- What the data packets to a destination carry, in the order of the calls. -/
def stampsTo (dest : Ipv4Addr) (records : List EncoderRecord) : List (Option (UInt64 × UInt32)) :=
  (records.filterMap (EncoderRecord.wrappedTo dest)).map fun sent => stamp sent.2

/-- The number of the group and the index in it, for every data packet to a destination. -/
def labels (dest : Ipv4Addr) (closed : List ClosedGroup) (pending : Ipv4Addr → List NetPacket) :
    List (Nat × Nat) :=
  (groupsTo dest closed).flatMap
      (fun group => (List.range group.packets.length).map fun i => (group.ordinal, i)) ++
    (List.range (pending dest).length).map fun i => ((groupsTo dest closed).length, i)

section Stamps
variable {records : List EncoderRecord} {closed : List ClosedGroup}
  {pending : Ipv4Addr → List NetPacket}

theorem stamp_stamped (groupId : UInt64) (packets : List NetPacket)
    (fits : ∀ sent ∈ stamped groupId packets, sent.1.payload.length ≤ 65535) :
    ((stamped groupId packets).map fun sent => stamp sent.2) =
      (List.range packets.length).map fun i => some (groupId, UInt32.ofNat i) := by
  apply List.ext_getElem
  · simp [stamped]
  · intro i inside _
    have bound : i < (stamped groupId packets).length := by simpa using inside
    have small := fits _ (List.getElem_mem bound)
    simp only [stamped, List.getElem_mapIdx] at small
    simp only [stamped, List.getElem_map, List.getElem_mapIdx, List.getElem_range, stamp]
    rw [FecPacket.decode_encodeToVec _ (Nat.lt_of_le_of_lt small (by decide))]
    rfl

theorem Pages.stamps (pages : Pages records closed pending) (dest : Ipv4Addr) :
    stampsTo dest records = (labels dest closed pending).map
      fun label => some (groupAt label.1, UInt32.ofNat label.2) := by
  have fits := pages.fits dest
  rw [pages.wrapped dest] at fits
  rw [stampsTo, pages.wrapped dest, labels, List.map_append, List.map_append, List.map_map,
    stamp_stamped _ _ fun sent member => fits sent (List.mem_append_right _ member),
    List.map_flatMap, List.map_flatMap]
  congr 1
  apply List.flatMap_congr
  intro group member
  rw [stamp_stamped _ _ fun sent inside => fits sent (List.mem_append_left _
    (List.mem_flatMap.mpr ⟨group, member, inside⟩)), List.map_map]
  rfl

theorem Pages.ordinal_lt (pages : Pages records closed pending) {dest : Ipv4Addr}
    {group : ClosedGroup} (member : group ∈ groupsTo dest closed) :
    group.ordinal < (groupsTo dest closed).length := by
  have inside : group.ordinal ∈ (groupsTo dest closed).map ClosedGroup.ordinal :=
    List.mem_map.mpr ⟨group, member, rfl⟩
  rw [pages.ordinals dest] at inside
  exact List.mem_range.mp inside

theorem mem_labels {dest : Ipv4Addr} {label : Nat × Nat} :
    label ∈ labels dest closed pending ↔
      (∃ group ∈ groupsTo dest closed, label.1 = group.ordinal ∧ label.2 < group.packets.length) ∨
        label.1 = (groupsTo dest closed).length ∧ label.2 < (pending dest).length := by
  obtain ⟨k, i⟩ := label
  simp only [labels, List.mem_append, List.mem_flatMap, List.mem_map, List.mem_range,
    Prod.mk.injEq]
  constructor
  · rintro (⟨group, member, j, inside, rfl, rfl⟩ | ⟨j, inside, rfl, rfl⟩)
    · exact Or.inl ⟨group, member, rfl, inside⟩
    · exact Or.inr ⟨rfl, inside⟩
  · rintro (⟨group, member, rfl, inside⟩ | ⟨rfl, inside⟩)
    · exact Or.inl ⟨group, member, i, inside, rfl, rfl⟩
    · exact Or.inr ⟨i, inside, rfl, rfl⟩

theorem Pages.labels_nodup (pages : Pages records closed pending) (dest : Ipv4Addr) :
    (labels dest closed pending).Nodup := by
  have row : ∀ k n : Nat, ((List.range n).map fun i => (k, i)).Nodup := fun k n =>
    List.nodup_range.map fun i j same => (Prod.mk.inj same).2
  have ordinals : ((groupsTo dest closed).map ClosedGroup.ordinal).Nodup := by
    rw [pages.ordinals dest]
    exact List.nodup_range
  rw [labels, List.nodup_append]
  refine ⟨?_, row _ _, ?_⟩
  · rw [List.nodup_flatMap]
    refine ⟨fun group _ => row _ _, ?_⟩
    refine (List.pairwise_map.mp ordinals).imp ?_
    intro left right differ label leftMember rightMember
    obtain ⟨i, _, rfl⟩ := List.mem_map.mp leftMember
    obtain ⟨j, _, same⟩ := List.mem_map.mp rightMember
    exact differ (Prod.mk.inj same).1.symm
  · intro label early other late same
    obtain ⟨group, member, inside⟩ := List.mem_flatMap.mp early
    obtain ⟨i, _, rfl⟩ := List.mem_map.mp inside
    obtain ⟨j, _, rfl⟩ := List.mem_map.mp late
    exact absurd (Prod.mk.inj same).1 (Nat.ne_of_lt (pages.ordinal_lt member))

/-- Before the group id wraps no two data packets to a destination carry the same pair. -/
theorem Account.stamps_nodup {system : EncoderSystem}
    (account : Account system records closed pending) (dest : Ipv4Addr)
    (small : (groupsTo dest closed).length < 2 ^ 64) : (stampsTo dest records).Nodup := by
  rw [account.pages.stamps dest]
  have bounds : ∀ label ∈ labels dest closed pending,
      label.1 ≤ (groupsTo dest closed).length ∧ label.2 < batchSize := by
    intro label member
    rcases mem_labels.mp member with ⟨group, inside, ordinal, index⟩ | ⟨ordinal, index⟩
    · have size := (account.pages.sizes group (List.mem_filter.mp inside).1).2
      exact ⟨ordinal.le.trans (account.pages.ordinal_lt inside).le, Nat.lt_of_lt_of_le index size⟩
    · exact ⟨ordinal.le, Nat.lt_trans index (account.room dest)⟩
  refine List.Nodup.map_on ?_ (account.pages.labels_nodup dest)
  intro left leftMember right rightMember same
  obtain ⟨leftGroup, leftIndex⟩ := bounds left leftMember
  obtain ⟨rightGroup, rightIndex⟩ := bounds right rightMember
  obtain ⟨groups, indices⟩ := Prod.mk.inj (Option.some.inj same)
  have groups := congrArg UInt64.toNat groups
  have indices := congrArg UInt32.toNat indices
  have limit : batchSize = 10 := rfl
  simp only [groupAt, UInt64.toNat_ofNat', UInt32.toNat_ofNat'] at groups indices
  exact Prod.ext (by omega) (by omega)

end Stamps

/-- What the end of a run makes of its account: once nothing waits for the worker each closed
group has been handed over or dropped, and the worker's own steps lead there from every
state, with no group left open and none dropped on the way. -/
structure Settles (system : EncoderSystem) (records : List EncoderRecord)
    (closed : List ClosedGroup) : Prop where
  settled : system.waiting = [] → (records.filterMap EncoderRecord.handedItem ++
    records.filterMap EncoderRecord.droppedItem).Perm (closed.map ClosedGroup.item)
  reached : ∀ late, (∀ dest state, system.encoder.batchStates.lookup dest = some state →
      state.deadline ≤ late) →
    let flushed := Machine.run EncoderSystem.step system (system.flush late)
    flushed.1.waiting = [] ∧ flushed.2.filterMap EncoderRecord.droppedItem = [] ∧
      ∃ last, Account flushed.1 (records ++ flushed.2) (closed ++ last) fun _ => []

theorem handed_dropped (items : List BatchItem) :
    (items.map EncoderRecord.handed).filterMap EncoderRecord.droppedItem = [] := by
  rw [List.filterMap_map]
  exact List.filterMap_eq_nil_iff.mpr fun _ _ => rfl

theorem Account.settles {system : EncoderSystem} {records : List EncoderRecord}
    {closed : List ClosedGroup} {pending : Ipv4Addr → List NetPacket}
    (account : Account system records closed pending) : Settles system records closed where
  settled idle := by
    obtain ⟨due, channel⟩ := List.append_eq_nil_iff.mp idle
    have fate := account.fate
    rwa [due, channel, List.append_nil, List.append_nil] at fate
  reached late passed := by
    refine ⟨by rw [EncoderSystem.run_flush]; rfl, ?_, ?_⟩
    · rw [EncoderSystem.run_flush]
      exact handed_dropped _
    -- The account follows what waits, the timer, and what the timer closed.
    have caught := account.handOvers system.catchUp fun action member =>
      (List.mem_append.mp member).imp List.eq_of_mem_replicate List.eq_of_mem_replicate
    rw [EncoderSystem.run_catchUp] at caught
    have ticked := caught.tick_free late rfl
    have emptied : (fun dest => if dest ∈ (overdue late system.encoder.batchStates closed
        pending).map ClosedGroup.dest then [] else pending dest) = fun _ => [] :=
      funext (account.overdue_all passed)
    rw [emptied] at ticked
    have whole := ticked.handOvers (List.replicate (system.encoder.tick late).1.length .next)
      fun action member => Or.inl (List.eq_of_mem_replicate member)
    rw [EncoderSystem.flush, Machine.run_append, EncoderSystem.run_catchUp, Machine.run_cons]
    simp only [List.append_assoc] at whole ⊢
    exact ⟨_, whole⟩

def DropsWhenFull (system : EncoderSystem) (action : EncoderAction) : Prop :=
  (system.step action).2.filterMap EncoderRecord.droppedItem ≠ [] →
    batchChannelSize ≤ system.encoder.channel.length

theorem drops_when_full (system : EncoderSystem) (action : EncoderAction) :
    DropsWhenFull system action := by
  intro dropped
  cases action with
  | encode now packet =>
      rw [EncoderSystem.step] at dropped
      split at dropped
      · rw [(fate_encode _ _ _).2, FecEncoder.overflow] at dropped
        by_contra room
        exact dropped (if_neg fun both => room both.2)
      · exact absurd rfl dropped
  | tick now =>
      rw [EncoderSystem.step] at dropped
      split at dropped <;> exact absurd rfl dropped
  | recv =>
      rw [EncoderSystem.step] at dropped
      split at dropped
      · split at dropped <;> exact absurd rfl dropped
      · exact absurd rfl dropped
  | next =>
      rw [EncoderSystem.step] at dropped
      split at dropped <;> exact absurd rfl dropped

/-- In every run of encoder and worker the groups of a destination are numbered from 0, each
holds at most ten packets, indexed from 0 in the order of the calls, and each that is closed
is handed over once with its shards in order or, the channel being full, dropped whole, when
the worker has caught up, which it can from every state; and no two data packets to a
destination carry the same group id and index before the id wraps. -/
theorem encoder_bookkeeping (actions : List EncoderAction) :
    ∃ closed pending, Account (Machine.run EncoderSystem.step EncoderSystem.new actions).1
        (Machine.run EncoderSystem.step EncoderSystem.new actions).2 closed pending ∧
      Settles (Machine.run EncoderSystem.step EncoderSystem.new actions).1
        (Machine.run EncoderSystem.step EncoderSystem.new actions).2 closed ∧
      Machine.Along EncoderSystem.step DropsWhenFull EncoderSystem.new actions ∧
      ∀ dest, (stampsTo dest (Machine.run EncoderSystem.step EncoderSystem.new actions).2).Nodup ∨
        2 ^ 64 ≤ (groupsTo dest closed).length := by
  obtain ⟨closed, pending, account⟩ := account_run actions
  refine ⟨closed, pending, account, account.settles,
    Machine.along_of_forall _ _ actions _ fun action _ system => drops_when_full system action,
    fun dest => ?_⟩
  by_cases small : (groupsTo dest closed).length < 2 ^ 64
  · exact Or.inl (account.stamps_nodup dest small)
  · exact Or.inr (Nat.not_lt.mp small)

section Wrap
variable {records : List EncoderRecord} {closed : List ClosedGroup}
  {pending : Ipv4Addr → List NetPacket}

/-- Groups of at most ten packets: many packets make many groups. -/
theorem Account.many_groups {system : EncoderSystem}
    (account : Account system records closed pending) (dest : Ipv4Addr) :
    (records.filterMap (EncoderRecord.wrappedTo dest)).length ≤
      10 * (groupsTo dest closed).length + (pending dest).length := by
  rw [account.pages.wrapped dest, List.length_append, List.length_flatMap, stamped,
    List.length_mapIdx]
  have each : ((groupsTo dest closed).map fun group =>
      (stamped (groupAt group.ordinal) group.packets).length).sum ≤
        ((groupsTo dest closed).map fun group =>
          (stamped (groupAt group.ordinal) group.packets).length).length • 10 := by
    apply List.sum_le_card_nsmul
    intro size member
    obtain ⟨group, inside, rfl⟩ := List.mem_map.mp member
    rw [stamped, List.length_mapIdx]
    exact (account.pages.sizes group (List.mem_filter.mp inside).1).2
  rw [List.length_map, smul_eq_mul] at each
  omega

/-- The first packet of the group with number `k`, when there are packets enough. -/
theorem Account.first_label {system : EncoderSystem}
    (account : Account system records closed pending) (dest : Ipv4Addr) (k : Nat)
    (enough : 10 * k < (records.filterMap (EncoderRecord.wrappedTo dest)).length) :
    (k, 0) ∈ labels dest closed pending := by
  have many := account.many_groups dest
  have room := account.room dest
  have limit : batchSize = 10 := rfl
  rw [mem_labels]
  by_cases whole : k < (groupsTo dest closed).length
  · left
    have inside : k ∈ (groupsTo dest closed).map ClosedGroup.ordinal := by
      rw [account.pages.ordinals dest]
      exact List.mem_range.mpr whole
    obtain ⟨group, member, ordinal⟩ := List.mem_map.mp inside
    have nonempty := (account.pages.sizes group (List.mem_filter.mp member).1).1
    exact ⟨group, member, ordinal.symm, List.length_pos_iff.mpr nonempty⟩
  · right
    constructor <;> simp only <;> omega

theorem wrappedTo_own (packet wire : NetPacket) :
    (EncoderRecord.wrapped packet wire).wrappedTo packet.destId = some (packet, wire) := if_pos rfl

theorem wrapped_replicate (system : EncoderSystem) (now : Instant) (packet : NetPacket)
    (fits : packet.payload.length ≤ 65535) (count : Nat) :
    ((Machine.run EncoderSystem.step system (List.replicate count (.encode now packet))).2.filterMap
      (EncoderRecord.wrappedTo packet.destId)).length = count := by
  induction count generalizing system with
  | zero => rfl
  | succ count ih =>
      have one : ((system.step (.encode now packet)).2.filterMap
          (EncoderRecord.wrappedTo packet.destId)).length = 1 := by
        simp only [EncoderSystem.step, FecEncoder.encode_ok system.encoder now packet fits]
        rw [List.filterMap_cons_some (wrappedTo_own _ _), dropped_silent]
        rfl
      rw [List.replicate_succ, Machine.run_cons, List.filterMap_append, List.length_append, one, ih]
      omega

end Wrap

def wrapPacket : NetPacket := ⟨⟨0x81, 0x55, 0, 0, 0, 0x0A1A0002, 0x0A1A0003⟩, [7]⟩

/-- One packet more than 2^64 full groups hold. -/
def wrapActions : List EncoderAction :=
  List.replicate (10 * 2 ^ 64 + 1) (.encode 0 wrapPacket)

/-- The group id wraps, and the first packet after that carries what the very first one did. -/
theorem group_id_wraps :
    ¬ (stampsTo wrapPacket.destId
      (Machine.run EncoderSystem.step EncoderSystem.new wrapActions).2).Nodup := by
  intro distinct
  obtain ⟨closed, pending, account⟩ := account_run wrapActions
  have count := wrapped_replicate EncoderSystem.new 0 wrapPacket (by decide) (10 * 2 ^ 64 + 1)
  rw [← wrapActions] at count
  have first := account.first_label wrapPacket.destId 0 (by rw [count]; omega)
  have last := account.first_label wrapPacket.destId (2 ^ 64) (by rw [count]; omega)
  rw [account.pages.stamps] at distinct
  have same := List.inj_on_of_nodup_map distinct first last (by
    have wraps : groupAt (2 ^ 64) = groupAt 0 := by decide
    rw [wraps])
  cases same

end VntClient
