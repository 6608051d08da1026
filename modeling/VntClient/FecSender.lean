import VntClient.FecBatch
import VntClient.Machine

/-!
Any run of one encoder and its worker. Whatever it sends belongs to a batch, and
the batches of one destination are numbered 0, 1, 2, ... by their group ids.
`Books` keeps the finished batches and the pending packets beside the run.
-/

namespace VntClient

inductive EncoderEvent where
  | encode (now : Instant) (packet : NetPacket)
  | tick (now : Instant)
  | recv

namespace FecEncoder

/-- An error while the parity is made is logged and nothing more is sent. -/
def paritySent (item : BatchItem) : List NetPacket :=
  match encodeAndSendParity item with
  | .ok sent => sent
  | _ => []

def step (encoder : FecEncoder) : EncoderEvent → FecEncoder × List NetPacket
  | .encode now packet =>
      match encoder.encode now packet with
      | .ok (encoder, wire) => (encoder, [wire])
      | _ => (encoder, [])
  | .tick now => ((encoder.tick now).2, (encoder.tick now).1.flatMap paritySent)
  | .recv =>
      match encoder.recv with
      | some (item, encoder) => (encoder, paritySent item)
      | none => (encoder, [])

end FecEncoder

/-- An encoder instance of the node at `source`, from its start. -/
structure Sender where
  source : Ipv4Addr
  events : List EncoderEvent
  own : ∀ now packet, .encode now packet ∈ events → packet.srcId = source
  steps : events.length < 2 ^ 64

def Sender.outputs (sender : Sender) : List NetPacket :=
  (Machine.run FecEncoder.step FecEncoder.new sender.events).2

namespace Sender

def openWire (groupId : UInt64) (packets : List NetPacket) (i : Nat) : NetPacket :=
  let packet := packets.getD i (NetPacket.zeroed 0)
  ⟨packet.header.setFlag fec true,
    FecPacket.encodeToVec ⟨groupId, UInt32.ofNat i, packet.payload, none⟩⟩

theorem openWire_batch (batch : Batch) {i : Nat} (inside : i < batch.packets.length) :
    openWire batch.groupId batch.packets i = batch.wire i := by
  rw [Batch.wire, Batch.header, Batch.fecPacket, Batch.dataShards, if_pos inside, if_pos inside]
  rfl

theorem openWire_append (groupId : UInt64) (packets : List NetPacket) (packet : NetPacket) {i : Nat}
    (inside : i < packets.length) :
    openWire groupId (packets ++ [packet]) i = openWire groupId packets i := by
  simp [openWire, List.getElem?_append_left inside]

def shardsOf (packets : List NetPacket) : List Bytes :=
  packets.map fun packet => fecData packet.header packet.payload

def groupAt (k : Nat) : UInt64 := UInt64.ofNat k

/-- Finished batches and pending packets by destination, and what was sent. -/
structure Books (source : Ipv4Addr) (finished : Ipv4Addr → List Batch)
    (pending : Ipv4Addr → List NetPacket) (sent : List NetPacket) : Prop where
  bounded : ∀ dest, (pending dest).length ≤ batchSize
  own : ∀ dest, ∀ packet ∈ pending dest,
    packet.srcId = source ∧ packet.destId = dest ∧ packet.payload.length ≤ 65535
  numbered : ∀ dest k batch, (finished dest)[k]? = some batch →
    batch.source = source ∧ batch.dest = dest ∧ batch.groupId = groupAt k
  accounted : ∀ wire ∈ sent, ∃ dest,
    (∃ batch ∈ finished dest, ∃ i < batch.total, wire = batch.wire i) ∨
      ∃ i < (pending dest).length,
        wire = openWire (groupAt (finished dest).length) (pending dest) i

section Books
variable {source : Ipv4Addr} {finished : Ipv4Addr → List Batch}
  {pending : Ipv4Addr → List NetPacket} {sent : List NetPacket}

theorem Books.add (books : Books source finished pending sent) (packet : NetPacket)
    (mine : packet.srcId = source) (fits : packet.payload.length ≤ 65535)
    (room : (pending packet.destId).length < batchSize) :
    Books source finished
      (Function.update pending packet.destId (pending packet.destId ++ [packet]))
      (sent ++ [openWire (groupAt (finished packet.destId).length)
        (pending packet.destId ++ [packet]) (pending packet.destId).length]) := by
  constructor
  · intro dest
    by_cases here : dest = packet.destId
    · subst here
      simp only [Function.update_self, List.length_append, List.length_singleton]
      omega
    · rw [Function.update_of_ne here]
      exact books.bounded dest
  · intro dest other member
    by_cases here : dest = packet.destId
    · subst here
      rw [Function.update_self] at member
      rcases List.mem_append.mp member with old | new
      · exact books.own _ other old
      · rw [List.mem_singleton.mp new]
        exact ⟨mine, rfl, fits⟩
    · rw [Function.update_of_ne here] at member
      exact books.own dest other member
  · exact books.numbered
  · intro wire member
    rcases List.mem_append.mp member with old | new
    · obtain ⟨dest, done | ⟨i, inside, same⟩⟩ := books.accounted wire old
      · exact ⟨dest, Or.inl done⟩
      · refine ⟨dest, Or.inr ⟨i, ?_⟩⟩
        by_cases here : dest = packet.destId
        · subst here
          rw [Function.update_self, openWire_append _ _ _ inside]
          exact ⟨by rw [List.length_append]; omega, same⟩
        · rw [Function.update_of_ne here]
          exact ⟨inside, same⟩
    · refine ⟨packet.destId, Or.inr ⟨(pending packet.destId).length, ?_⟩⟩
      rw [Function.update_self]
      exact ⟨by simp, List.mem_singleton.mp new⟩

theorem Books.batch (books : Books source finished pending sent) (dest : Ipv4Addr)
    (nonempty : pending dest ≠ []) :
    ∃ batch : Batch, batch.packets = pending dest ∧ batch.source = source ∧ batch.dest = dest ∧
      batch.groupId = groupAt (finished dest).length :=
  ⟨{ source
     dest
     groupId := groupAt (finished dest).length
     packets := pending dest
     nonempty
     bounded := books.bounded dest
     fromSource := fun packet member => (books.own dest packet member).1
     toDest := fun packet member => (books.own dest packet member).2.1
     sizes := fun packet member => (books.own dest packet member).2.2 }, rfl, rfl, rfl, rfl⟩

/-- What was finished stays so when some groups close. -/
theorem finished_closed {finished finished' : Ipv4Addr → List Batch} {closes : Ipv4Addr → Bool}
    {made : Ipv4Addr → Batch → Prop}
    (kept : ∀ dest, closes dest = false → finished' dest = finished dest)
    (added : ∀ dest, closes dest = true →
      ∃ batch, finished' dest = finished dest ++ [batch] ∧ made dest batch) :
    ∀ dest, ∀ batch ∈ finished dest, batch ∈ finished' dest := by
  intro dest batch member
  cases closing : closes dest with
  | false =>
      rw [kept dest closing]
      exact member
  | true =>
      obtain ⟨last, list, _⟩ := added dest closing
      rw [list]
      exact List.mem_append_left _ member

theorem Books.close (books : Books source finished pending sent) (closes : Ipv4Addr → Bool)
    (nonempty : ∀ dest, closes dest = true → pending dest ≠ []) :
    ∃ finished', (∀ dest, closes dest = false → finished' dest = finished dest) ∧
      (∀ dest, closes dest = true → ∃ batch, finished' dest = finished dest ++ [batch] ∧
        batch.item = ⟨source, dest, groupAt (finished dest).length, shardsOf (pending dest)⟩) ∧
      Books source finished' (fun dest => if closes dest then [] else pending dest) sent := by
  have each : ∀ dest, ∃ batches, (closes dest = false → batches = finished dest) ∧
      (closes dest = true → ∃ batch : Batch, batches = finished dest ++ [batch] ∧
        batch.packets = pending dest ∧ batch.source = source ∧ batch.dest = dest ∧
        batch.groupId = groupAt (finished dest).length) := by
    intro dest
    cases closing : closes dest with
    | false =>
        refine ⟨finished dest, fun _ => rfl, ?_⟩
        intro never
        cases never
    | true =>
        obtain ⟨batch, made⟩ := books.batch dest (nonempty dest closing)
        refine ⟨finished dest ++ [batch], ?_, fun _ => ⟨batch, rfl, made⟩⟩
        intro never
        cases never
  choose finished' kept added using each
  refine ⟨finished', kept, ?_, ?_, ?_, ?_, ?_⟩
  · intro dest closing
    obtain ⟨batch, list, packets, source_, dest_, groupId⟩ := added dest closing
    refine ⟨batch, list, ?_⟩
    rw [Batch.item, Batch.shards, packets, source_, dest_, groupId]
    rfl
  · intro dest
    split
    · exact Nat.zero_le _
    · exact books.bounded dest
  · intro dest packet member
    split at member
    · cases member
    · exact books.own dest packet member
  · intro dest k batch found
    cases closing : closes dest with
    | false =>
        rw [kept dest closing] at found
        exact books.numbered dest k batch found
    | true =>
        obtain ⟨last, list, _, source_, dest_, groupId⟩ := added dest closing
        rw [list] at found
        by_cases old : k < (finished dest).length
        · rw [List.getElem?_append_left old] at found
          exact books.numbered dest k batch found
        · rw [List.getElem?_append_right (by omega)] at found
          obtain ⟨position, same⟩ := List.getElem?_eq_some_iff.mp found
          simp only [List.length_singleton] at position
          have end_ : k = (finished dest).length := by omega
          simp only [List.getElem_singleton] at same
          rw [← same, end_]
          exact ⟨source_, dest_, groupId⟩
  · intro wire member
    obtain ⟨dest, ⟨batch, held, i, inside, same⟩ | ⟨i, inside, same⟩⟩ := books.accounted wire member
    · exact ⟨dest, Or.inl ⟨batch, finished_closed kept added dest batch held, i, inside, same⟩⟩
    · refine ⟨dest, ?_⟩
      cases closing : closes dest with
      | false =>
          right
          simp only [Bool.false_eq_true, ↓reduceIte, kept dest closing]
          exact ⟨i, inside, same⟩
      | true =>
          obtain ⟨last, list, packets, _, _, groupId⟩ := added dest closing
          left
          refine ⟨last, by rw [list]; simp, i, ?_, ?_⟩
          · rw [← packets] at inside
            exact Nat.lt_of_lt_of_le inside (Nat.le_add_right _ _)
          · rw [same, ← groupId, ← packets]
            exact openWire_batch last (by rw [packets]; exact inside)

theorem Books.parity (books : Books source finished pending sent) (items : List BatchItem)
    (held : ∀ item ∈ items, ∃ dest, ∃ batch ∈ finished dest, item = batch.item) :
    Books source finished pending (sent ++ items.flatMap FecEncoder.paritySent) := by
  refine ⟨books.bounded, books.own, books.numbered, fun wire member => ?_⟩
  rcases List.mem_append.mp member with old | new
  · exact books.accounted wire old
  · obtain ⟨item, inside, made⟩ := List.mem_flatMap.mp new
    obtain ⟨dest, batch, finishedHere, rfl⟩ := held item inside
    rw [FecEncoder.paritySent, Batch.parity_wires] at made
    obtain ⟨j, row, rfl⟩ := List.mem_map.mp made
    refine ⟨dest, Or.inl ⟨batch, finishedHere, batch.dataShards + j, ?_, rfl⟩⟩
    have := List.mem_range.mp row
    unfold Batch.total
    omega

end Books

/-- The books agree with what the encoder holds. -/
structure Ledger (source : Ipv4Addr) (count : Nat) (encoder : FecEncoder) (sent : List NetPacket)
    (finished : Ipv4Addr → List Batch) (pending : Ipv4Addr → List NetPacket) : Prop where
  books : Books source finished pending sent
  room : ∀ dest, (pending dest).length < batchSize
  short : ∀ dest, (finished dest).length ≤ count
  states : ∀ now dest, ∃ deadline, encoder.stateOf now source dest =
    ⟨groupAt (finished dest).length, shardsOf (pending dest), deadline, source⟩
  queued : ∀ item ∈ encoder.channel, ∃ dest, ∃ batch ∈ finished dest, item = batch.item

theorem ledger_new (source : Ipv4Addr) :
    Ledger source 0 FecEncoder.new [] (fun _ => []) fun _ => [] where
  books := by
    constructor
    · intro _; exact Nat.zero_le _
    · intro _ _ member; cases member
    · intro _ _ _ found; cases found
    · intro _ member; cases member
  room _ := by decide
  short _ := Nat.le_refl _
  states now _ := ⟨now + fromMillis batchTimeoutMs, rfl⟩
  queued _ member := by cases member

section Ledger
variable {source : Ipv4Addr} {count : Nat} {encoder : FecEncoder} {sent : List NetPacket}
  {finished : Ipv4Addr → List Batch} {pending : Ipv4Addr → List NetPacket}

theorem stateOf_insert_ne (states : AList fun _ : Ipv4Addr => DestBatchState)
    (channel channel' : List BatchItem) (now : Instant) (src dest other : Ipv4Addr)
    (state : DestBatchState) (different : other ≠ dest) :
    FecEncoder.stateOf ⟨states.insert dest state, channel⟩ now src other =
      FecEncoder.stateOf ⟨states, channel'⟩ now src other := by
  simp [FecEncoder.stateOf, AList.lookup_insert_ne different]

theorem openWire_last (groupId : UInt64) (packets : List NetPacket) (packet : NetPacket) :
    openWire groupId (packets ++ [packet]) packets.length =
      ⟨packet.header.setFlag fec true,
        FecPacket.encodeToVec ⟨groupId, UInt32.ofNat packets.length, packet.payload, none⟩⟩ := by
  simp [openWire]

theorem shardsOf_length (packets : List NetPacket) : (shardsOf packets).length = packets.length :=
  List.length_map _

theorem shardsOf_append (packets : List NetPacket) (packet : NetPacket) :
    shardsOf packets ++ [fecData packet.header packet.payload] = shardsOf (packets ++ [packet]) := by
  simp [shardsOf]

theorem groupAt_succ (k : Nat) : groupAt k + 1 = groupAt (k + 1) := by
  simp [groupAt]

theorem Ledger.encode_full (ledger : Ledger source count encoder sent finished pending)
    (now : Instant) (packet : NetPacket) (mine : packet.srcId = source)
    (fits : packet.payload.length ≤ 65535)
    (full : batchSize ≤ (pending packet.destId).length + 1) :
    ∃ finished' pending', Ledger source (count + 1) (encoder.step (.encode now packet)).1
      (sent ++ (encoder.step (.encode now packet)).2) finished' pending' := by
  obtain ⟨deadline, state⟩ := ledger.states now packet.destId
  have added := ledger.books.add packet mine fits (ledger.room packet.destId)
  simp only [FecEncoder.step, FecEncoder.encode_ok encoder now packet fits, mine, state,
    shardsOf_length]
  rw [openWire_last] at added
  rw [FecEncoder.push_full _ _ _ _ _ _ (by rw [shardsOf_length]; exact full), shardsOf_append]
  obtain ⟨finished', kept, closed, books⟩ := added.close (fun dest => dest == packet.destId) (by
    intro dest here
    rw [beq_iff_eq] at here
    subst here
    rw [Function.update_self]
    simp)
  have grown := finished_closed kept closed
  obtain ⟨last, list, item⟩ := closed packet.destId (by simp)
  rw [Function.update_self] at item
  refine ⟨finished', _, books, ?_, ?_, ?_, ?_⟩
  · intro dest
    by_cases here : dest = packet.destId
    · simp [here, batchSize]
    · simp only [here, beq_iff_eq, ↓reduceIte, Function.update_of_ne here]
      exact ledger.room dest
  · intro dest
    have before := ledger.short dest
    by_cases here : dest = packet.destId
    · subst here
      rw [list, List.length_append, List.length_singleton]
      omega
    · rw [kept dest (by simp [here])]
      omega
  -- The destination starts an empty group with the next id.
  · intro later dest
    by_cases here : dest = packet.destId
    · subst here
      rw [Batch.stateOf_insert, list, List.length_append, List.length_singleton,
        groupAt_succ]
      simp only [beq_self_eq_true, ↓reduceIte]
      exact ⟨_, rfl⟩
    · rw [stateOf_insert_ne _ _ encoder.channel _ _ _ _ _ here, kept dest (by simp [here])]
      simp only [here, beq_iff_eq, ↓reduceIte, Function.update_of_ne here]
      exact ledger.states later dest
  · intro other member
    rcases FecEncoder.mem_trySend member with old | rfl
    · obtain ⟨dest, batch, inside, same⟩ := ledger.queued other old
      exact ⟨dest, batch, grown dest batch inside, same⟩
    · exact ⟨packet.destId, last, by rw [list]; simp, item.symm⟩

theorem Ledger.encode_partial (ledger : Ledger source count encoder sent finished pending)
    (now : Instant) (packet : NetPacket) (mine : packet.srcId = source)
    (fits : packet.payload.length ≤ 65535)
    (short : (pending packet.destId).length + 1 < batchSize) :
    ∃ finished' pending', Ledger source (count + 1) (encoder.step (.encode now packet)).1
      (sent ++ (encoder.step (.encode now packet)).2) finished' pending' := by
  obtain ⟨deadline, state⟩ := ledger.states now packet.destId
  have added := ledger.books.add packet mine fits (ledger.room packet.destId)
  simp only [FecEncoder.step, FecEncoder.encode_ok encoder now packet fits, mine, state,
    shardsOf_length]
  rw [openWire_last] at added
  rw [FecEncoder.push_partial _ _ _ _ _ _ (by rw [shardsOf_length]; omega), shardsOf_append]
  refine ⟨finished, _, added, ?_, fun dest => Nat.le_succ_of_le (ledger.short dest), ?_,
    ledger.queued⟩
  · intro dest
    by_cases here : dest = packet.destId
    · subst here
      simp only [Function.update_self, List.length_append, List.length_singleton]
      omega
    · rw [Function.update_of_ne here]
      exact ledger.room dest
  · intro later dest
    by_cases here : dest = packet.destId
    · subst here
      rw [Batch.stateOf_insert, Function.update_self]
      exact ⟨deadline, rfl⟩
    · rw [stateOf_insert_ne _ _ encoder.channel _ _ _ _ _ here, Function.update_of_ne here]
      exact ledger.states later dest

theorem Ledger.encode (ledger : Ledger source count encoder sent finished pending) (now : Instant)
    (packet : NetPacket) (mine : packet.srcId = source) :
    ∃ finished' pending', Ledger source (count + 1) (encoder.step (.encode now packet)).1
      (sent ++ (encoder.step (.encode now packet)).2) finished' pending' := by
  by_cases big : 65535 < packet.payload.length
  · refine ⟨finished, pending, ?_⟩
    have refused : encoder.encode now packet = .err "Payload too big" := by
      simp [FecEncoder.encode, big]
    simp only [FecEncoder.step, refused, List.append_nil]
    exact ⟨ledger.books, ledger.room, fun dest => Nat.le_succ_of_le (ledger.short dest),
      ledger.states, ledger.queued⟩
  · have fits : packet.payload.length ≤ 65535 := Nat.not_lt.mp big
    rcases Nat.lt_or_ge ((pending packet.destId).length + 1) batchSize with short | full
    · exact ledger.encode_partial now packet mine fits short
    · exact ledger.encode_full now packet mine fits full

theorem Ledger.lookup (ledger : Ledger source count encoder sent finished pending)
    {dest : Ipv4Addr} {state : DestBatchState}
    (held : encoder.batchStates.lookup dest = some state) :
    state.srcIp = source ∧ state.groupId = groupAt (finished dest).length ∧
      state.currentBatch = shardsOf (pending dest) := by
  obtain ⟨deadline, same⟩ := ledger.states 0 dest
  rw [FecEncoder.stateOf, held, Option.getD_some] at same
  rw [same]
  exact ⟨rfl, rfl, rfl⟩

theorem Ledger.tick (ledger : Ledger source count encoder sent finished pending) (now : Instant) :
    ∃ finished' pending', Ledger source (count + 1) (encoder.step (.tick now)).1
      (sent ++ (encoder.step (.tick now)).2) finished' pending' := by
  obtain ⟨finished', kept, closed, books⟩ := ledger.books.close
    (fun dest => (encoder.batchStates.lookup dest).any (FecEncoder.expired now)) (by
      intro dest due
      cases held : encoder.batchStates.lookup dest with
      | none => simp [held] at due
      | some state =>
          obtain ⟨_, _, batch⟩ := ledger.lookup held
          intro empty
          simp [held, FecEncoder.expired, batch, empty, shardsOf] at due)
  have grown := finished_closed kept closed
  refine ⟨finished', _, books.parity _ ?_, ?_, ?_, ?_, ?_⟩
  · intro item member
    obtain ⟨entry, inside, made⟩ := List.mem_filterMap.mp member
    split at made
    · rename_i expired
      cases made
      have held : encoder.batchStates.lookup entry.1 = some entry.2 :=
        AList.mem_lookup_iff.mpr inside
      obtain ⟨owner, group, batch⟩ := ledger.lookup held
      obtain ⟨last, list, same⟩ := closed entry.1 (by rw [held]; exact expired)
      exact ⟨entry.1, last, by rw [list]; simp, by rw [same, owner, group, batch]⟩
    · cases made
  · intro dest
    split
    · decide
    · exact ledger.room dest
  · intro dest
    have before := ledger.short dest
    cases due : (encoder.batchStates.lookup dest).any (FecEncoder.expired now) with
    | false => rw [kept dest due]; omega
    | true =>
        obtain ⟨last, list, _⟩ := closed dest due
        rw [list, List.length_append, List.length_singleton]
        omega
  · intro later dest
    obtain ⟨deadline, same⟩ := ledger.states later dest
    simp only [FecEncoder.stateOf, FecEncoder.step, FecEncoder.tick, Table.lookup_mapValues] at same ⊢
    cases held : encoder.batchStates.lookup dest with
    | none =>
        rw [held] at same
        rw [kept dest (by rw [held]; rfl)]
        simp only [Option.any_none, Bool.false_eq_true, ↓reduceIte, Option.map_none]
        exact ⟨deadline, same⟩
    | some state =>
        rw [held, Option.getD_some] at same
        cases due : FecEncoder.expired now state with
        | false =>
            rw [kept dest (by rw [held]; exact due)]
            simp only [Option.any_some, due, Bool.false_eq_true, ↓reduceIte, Option.map_some,
              Option.getD_some]
            exact ⟨deadline, same⟩
        | true =>
            obtain ⟨last, list, _⟩ := closed dest (by rw [held]; exact due)
            rw [list, List.length_append, List.length_singleton, ← groupAt_succ]
            simp only [Option.any_some, due, ↓reduceIte, Option.map_some, Option.getD_some]
            rw [same]
            exact ⟨_, rfl⟩
  · intro item member
    obtain ⟨dest, batch, inside, same⟩ := ledger.queued item member
    exact ⟨dest, batch, grown dest batch inside, same⟩

theorem Ledger.recv (ledger : Ledger source count encoder sent finished pending) :
    ∃ finished' pending', Ledger source (count + 1) (encoder.step .recv).1
      (sent ++ (encoder.step .recv).2) finished' pending' := by
  have queued := ledger.queued
  have later := fun dest => Nat.le_succ_of_le (ledger.short dest)
  refine ⟨finished, pending, ?_⟩
  obtain ⟨states, channel⟩ := encoder
  cases channel with
  | nil =>
      simp only [FecEncoder.step, FecEncoder.recv, List.append_nil]
      exact ⟨ledger.books, ledger.room, later, ledger.states, queued⟩
  | cons item rest =>
      have books := ledger.books.parity [item] fun other member => by
        rw [List.mem_singleton.mp member]
        exact queued item (by simp)
      rw [List.flatMap_singleton] at books
      exact ⟨books, ledger.room, later, ledger.states, fun other member =>
        queued other (List.mem_cons_of_mem _ member)⟩

end Ledger

/-- The batches of a sender by destination: those its encoder closed and the one
still open. -/
theorem history (sender : Sender) :
    ∃ batches : Ipv4Addr → List Batch,
      (∀ dest k batch, (batches dest)[k]? = some batch →
        k < 2 ^ 64 ∧ batch.source = sender.source ∧ batch.dest = dest ∧ batch.groupId = groupAt k) ∧
      ∀ wire ∈ sender.outputs, ∃ dest, ∃ batch ∈ batches dest, ∃ i < batch.total,
        wire = batch.wire i := by
  obtain ⟨finished, pending, ledger⟩ := Machine.run_counted FecEncoder.step
    (fun count encoder sent => ∃ finished pending,
      Ledger sender.source count encoder sent finished pending) sender.events (by
        intro count encoder sent event member ⟨finished, pending, ledger⟩
        cases event with
        | encode now packet => exact ledger.encode now packet (sender.own now packet member)
        | tick now => exact ledger.tick now
        | recv => exact ledger.recv) 0 FecEncoder.new [] ⟨_, _, ledger_new sender.source⟩
  rw [List.nil_append] at ledger
  obtain ⟨batches, kept, closed, books⟩ := ledger.books.close
    (fun dest => !(pending dest).isEmpty) (by intro dest open_; simpa using open_)
  refine ⟨batches, ?_, ?_⟩
  · intro dest k batch found
    refine ⟨?_, books.numbered dest k batch found⟩
    have bound := (List.getElem?_eq_some_iff.mp found).1
    have short := ledger.short dest
    have steps := sender.steps
    cases open_ : !(pending dest).isEmpty with
    | false => rw [kept dest open_] at bound; omega
    | true =>
        obtain ⟨last, list, _⟩ := closed dest open_
        rw [list, List.length_append, List.length_singleton] at bound
        omega
  · intro wire member
    obtain ⟨dest, done | ⟨i, inside, _⟩⟩ := books.accounted wire member
    · exact ⟨dest, done⟩
    · cases packets : pending dest with
      | nil => simp [packets] at inside
      | cons first rest => simp [packets] at inside

end Sender
end VntClient
