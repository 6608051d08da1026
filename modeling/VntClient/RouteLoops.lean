import VntClient.Acceptance
import VntClient.PeerNetwork
import VntClient.RouteInvariant

/-!
Routes through the tunnel itself. The punch messages refuse a remote address inside the
virtual network or a subnet route; a Ping or a Pong from there is not refused.
-/

namespace VntClient

/-- No route leads to an address behind the tunnel. -/
def NodeConfig.NoLoop (config : NodeConfig) (table : RouteTable) : Prop :=
  ∀ id, ∀ route ∈ table.routes id, P2pInboundHandler.looped config route.routeKey = false

namespace PacketCompression

/-- The packets of a list up to the first that does not decompress. -/
def expand (compression : PacketCompression) : List NetPacket → List NetPacket
  | [] => []
  | packet :: rest =>
      match compression.decompress packet with
      | .ok packet => packet :: expand compression rest
      | _ => []

end PacketCompression

/-- What an opened packet stands for, as far as it can be unpacked. -/
def NodeConfig.unpacked (config : NodeConfig) (clock : Clock) (state : NodeState)
    (packet : NetPacket) : List NetPacket :=
  if packet.isFec then
    match (decodeFec clock state packet).2 with
    | .ok packets => config.packetCompression.expand packets
    | _ => []
  else config.packetCompression.expand [packet]

def NodeConfig.reaching (config : NodeConfig) (clock : Clock) (state : NodeState)
    (wire : NetPacket) : List NetPacket :=
  match config.packetCrypto.decryptInPlace wire with
  | .ok packet => config.unpacked clock state packet
  | _ => []

/-- A Pong whose time stamp is not from the future. -/
def TimedPong (clock : Clock) (packet : NetPacket) : Prop :=
  8 ≤ packet.payload.length ∧ fromBeBytes64 packet.payload ≤ clock.ms

/-- A Ping from a new neighbour, or a Pong from a neighbour or a known peer. -/
def Teaches (clock : Clock) (table : RouteTable) (ctx : PacketContext)
    (packets : List NetPacket) : Prop :=
  ctx.msgType = .ping ∧ packets ≠ [] ∧ ctx.maxTtl - ctx.ttl = 1 ∧
      table.routeTable.lookup ctx.srcIp = none ∨
    ctx.msgType = .pong ∧ (∃ packet ∈ packets, TimedPong clock packet) ∧
      (ctx.maxTtl - ctx.ttl = 1 ∨ table.routeTable.lookup ctx.srcIp ≠ none)

/-- Over an address behind the tunnel nothing comes that is learned from unchecked. -/
def NodeConfig.LearnsOutside (config : NodeConfig) (state : NodeState) (incoming : Incoming) : Prop :=
  ∀ routeKey net packet ctx, incoming.entrance = .p2p routeKey →
    P2pInboundHandler.looped config routeKey = true →
    P2pInboundHandler.triage config state.routeTable incoming.data =
      .ok (.handle net packet ctx) →
    ¬ Teaches incoming.clock state.routeTable ctx (config.reaching incoming.clock state packet)

section Tables
variable {config : NodeConfig} {clock : Clock} {process : NodeState → NetPacket → Handled}

/-- Where the table after a list of packets is known, so it is after an opened packet. -/
theorem handleOpened_table (after : RouteTable → List NetPacket → RouteTable)
    (none_ : ∀ table, after table [] = table)
    (each : ∀ packets state,
      (Handled.forEach (decompressed config process) state packets).state.routeTable =
        after state.routeTable (config.packetCompression.expand packets))
    (state : NodeState) (packet : NetPacket) :
    (handleOpened config clock process state packet).state.routeTable =
      after state.routeTable (config.unpacked clock state packet) := by
  rw [handleOpened, NodeConfig.unpacked]
  split
  · rw [handleFec]
    cases decoded : (decodeFec clock state packet).2 with
    | ok packets => exact each packets _
    | err message => exact (none_ _).symm
    | panic => exact (none_ _).symm
  · rw [← each]
    simp only [Handled.forEach]
    split
    · rfl
    · rfl

theorem forEach_ping (change : RouteTable → RouteTable)
    (again : ∀ table, change (change table) = change table)
    (once : ∀ state packet, (process state packet).state.routeTable = change state.routeTable)
    (packets : List NetPacket) (state : NodeState) :
    (Handled.forEach (decompressed config process) state packets).state.routeTable =
      if config.packetCompression.expand packets = [] then state.routeTable
      else change state.routeTable := by
  induction packets generalizing state with
  | nil => rfl
  | cons packet rest ih =>
      rw [PacketCompression.expand, Handled.forEach]
      simp only [decompressed]
      cases expanded : config.packetCompression.decompress packet with
      | err message => rfl
      | panic => rfl
      | ok packet =>
          have first := once state packet
          simp only [Handled.attempt, List.cons_ne_nil, ↓reduceIte]
          split
          · have later := ih (process state packet).state
            rw [first, again, ite_self] at later
            exact later
          · exact first

theorem forEach_pong (change : RouteTable → NetPacket → RouteTable)
    (once : ∀ state packet, (process state packet).state.routeTable =
      change state.routeTable packet ∧ (process state packet).outcome = .ok ())
    (packets : List NetPacket) (state : NodeState) :
    (Handled.forEach (decompressed config process) state packets).state.routeTable =
      (config.packetCompression.expand packets).foldl change state.routeTable := by
  induction packets generalizing state with
  | nil => rfl
  | cons packet rest ih =>
      rw [PacketCompression.expand, Handled.forEach]
      simp only [decompressed]
      cases expanded : config.packetCompression.decompress packet with
      | err message => rfl
      | panic => rfl
      | ok packet =>
          obtain ⟨first, fine⟩ := once state packet
          simp only [Handled.attempt, fine, List.foldl_cons]
          rw [← first]
          exact ih _

end Tables

namespace RouteTable
variable {table : RouteTable} {now : Instant} {id : Ipv4Addr} {route : Route}

/-- A direct route is taken, and any route to a known peer. -/
theorem mem_keys_addRoute (taken : route.isDirect = true ∨ table.routeTable.lookup id ≠ none)
    (key : RouteKey) : key ∈ RouteView.keys ((table.addRoute now id route).routes id) ↔
      key = route.routeKey ∨ key ∈ RouteView.keys (table.routes id) := by
  have accepted : ¬ (!route.isDirect && (table.routeTable.lookup id).isNone) = true := by
    rw [Bool.and_eq_true, Bool.not_eq_true', Option.isNone_iff_eq_none]
    rintro ⟨relayed, absent⟩
    rcases taken with direct | known
    · rw [direct] at relayed
      cases relayed
    · exact known absent
  rw [addRoute]
  simp only [if_neg accepted, routes_insert, ↓reduceIte]
  exact RouteView.mem_keys_placeRoute _ _ _

theorem addRoute_keeps_key {key : RouteKey} (held : key ∈ RouteView.keys (table.routes id)) :
    key ∈ RouteView.keys ((table.addRoute now id route).routes id) := by
  apply (mem_keys_addRoute (Or.inr ?_) key).mpr (Or.inr held)
  intro absent
  rw [routes, absent] at held
  cases held

theorem addRoute_refused (relayed : ¬ (route.isDirect = true ∨ table.routeTable.lookup id ≠ none)) :
    table.addRoute now id route = table := by
  rw [not_or, not_not, Bool.not_eq_true] at relayed
  exact table.addRoute_relayed now id route relayed.1 relayed.2

theorem addRouteIfAbsent_again :
    (table.addRouteIfAbsent now id route).addRouteIfAbsent now id route =
      table.addRouteIfAbsent now id route := by
  by_cases known : (table.routeTable.lookup id).isSome = true
  · have kept : table.addRouteIfAbsent now id route = table := if_pos known
    rw [kept, kept]
  · have added : table.addRouteIfAbsent now id route = table.addRoute now id route := if_neg known
    rw [added]
    by_cases taken : route.isDirect = true ∨ table.routeTable.lookup id ≠ none
    · apply if_pos
      have member : route.routeKey ∈ RouteView.keys ((table.addRoute now id route).routes id) :=
        (mem_keys_addRoute taken route.routeKey).mpr (Or.inl rfl)
      rw [routes] at member
      cases held : (table.addRoute now id route).routeTable.lookup id with
      | none =>
          rw [held] at member
          cases member
      | some list => rfl
    · rw [addRoute_refused taken, added, addRoute_refused taken]

end RouteTable

section Loops
variable {config : NodeConfig} {clock : Clock} {routeKey : RouteKey} {table : RouteTable}
  {id : Ipv4Addr}

theorem NodeConfig.NoLoop.not_mem_keys (free : config.NoLoop table) (id : Ipv4Addr)
    (loop : P2pInboundHandler.looped config routeKey = true) :
    routeKey ∉ RouteView.keys (table.routes id) := by
  intro member
  obtain ⟨route, held, rfl⟩ := List.mem_map.mp member
  rw [free id route held] at loop
  cases loop

theorem NodeConfig.NoLoop.addRouteIfAbsent (free : config.NoLoop table)
    (loop : P2pInboundHandler.looped config routeKey = true) (now : Instant) (metric : UInt8)
    (rtt : UInt32) :
    config.NoLoop (table.addRouteIfAbsent now id ⟨routeKey, metric, rtt⟩) ↔
      ¬ (metric = 1 ∧ table.routeTable.lookup id = none) := by
  rw [RouteTable.addRouteIfAbsent]
  by_cases known : (table.routeTable.lookup id).isSome = true
  · rw [if_pos known]
    refine iff_of_true free ?_
    rintro ⟨_, absent⟩
    rw [absent] at known
    cases known
  · rw [if_neg known]
    have absent : table.routeTable.lookup id = none := by
      rwa [Bool.not_eq_true, Option.isSome_eq_false_iff, Option.isNone_iff_eq_none] at known
    by_cases direct : metric = 1
    · refine iff_of_false ?_ (not_not.mpr ⟨direct, absent⟩)
      intro after
      refine after.not_mem_keys id loop ((RouteTable.mem_keys_addRoute (Or.inl ?_) _).mpr
        (Or.inl rfl))
      rw [Route.isDirect, direct]
      rfl
    · rw [RouteTable.addRoute_relayed _ _ _ _ (by simp [Route.isDirect, direct]) absent]
      exact iff_of_true free fun both => direct both.1

def pongLearned (clock : Clock) (routeKey : RouteKey) (ctx : PacketContext) (table : RouteTable)
    (packet : NetPacket) : RouteTable :=
  if 8 ≤ packet.payload.length then
    if fromBeBytes64 packet.payload ≤ clock.ms then
      table.addRoute clock.now ctx.srcIp
        ⟨routeKey, ctx.maxTtl - ctx.ttl, elapsedMs clock.ms (fromBeBytes64 packet.payload)⟩
    else table
  else table

theorem pongLearned_timed {ctx : PacketContext} {packet : NetPacket} (timed : TimedPong clock packet) :
    pongLearned clock routeKey ctx table packet = table.addRoute clock.now ctx.srcIp
      ⟨routeKey, ctx.maxTtl - ctx.ttl, elapsedMs clock.ms (fromBeBytes64 packet.payload)⟩ := by
  rw [pongLearned, if_pos timed.1, if_pos timed.2]

theorem pongLearned_untimed {ctx : PacketContext} {packet : NetPacket}
    (untimed : ¬ TimedPong clock packet) : pongLearned clock routeKey ctx table packet = table := by
  rw [pongLearned]
  split
  · rename_i long
    split
    · rename_i past
      exact absurd ⟨long, past⟩ untimed
    · rfl
  · rfl

theorem foldl_pongLearned_keeps {ctx : PacketContext} (packets : List NetPacket)
    (held : routeKey ∈ RouteView.keys (table.routes ctx.srcIp)) :
    routeKey ∈ RouteView.keys
      ((packets.foldl (pongLearned clock routeKey ctx) table).routes ctx.srcIp) := by
  induction packets generalizing table with
  | nil => exact held
  | cons packet rest ih =>
      apply ih
      by_cases timed : TimedPong clock packet
      · rw [pongLearned_timed timed]
        exact RouteTable.addRoute_keeps_key held
      · rwa [pongLearned_untimed timed]

theorem NodeConfig.NoLoop.pongs (free : config.NoLoop table) {ctx : PacketContext}
    (loop : P2pInboundHandler.looped config routeKey = true) (packets : List NetPacket) :
    config.NoLoop (packets.foldl (pongLearned clock routeKey ctx) table) ↔
      ¬ ((∃ packet ∈ packets, TimedPong clock packet) ∧
        (ctx.maxTtl - ctx.ttl = 1 ∨ table.routeTable.lookup ctx.srcIp ≠ none)) := by
  induction packets with
  | nil => exact iff_of_true free (by simp)
  | cons packet rest ih =>
      rw [List.foldl_cons]
      by_cases timed : TimedPong clock packet
      · rw [pongLearned_timed timed]
        by_cases open_ : ctx.maxTtl - ctx.ttl = 1 ∨ table.routeTable.lookup ctx.srcIp ≠ none
        · refine iff_of_false ?_ (not_not.mpr ⟨⟨packet, List.mem_cons_self, timed⟩, open_⟩)
          intro after
          refine after.not_mem_keys ctx.srcIp loop (foldl_pongLearned_keeps rest
            ((RouteTable.mem_keys_addRoute (open_.imp_left ?_) _).mpr (Or.inl rfl)))
          intro one
          rw [Route.isDirect, one]
          rfl
        · have refused : table.addRoute clock.now ctx.srcIp
              ⟨routeKey, ctx.maxTtl - ctx.ttl, elapsedMs clock.ms (fromBeBytes64 packet.payload)⟩ =
                table := by
            apply RouteTable.addRoute_refused
            rw [Route.isDirect, beq_iff_eq]
            exact open_
          rw [refused, ih]
          exact iff_of_true (fun both => open_ both.2) fun both => open_ both.2
      · rw [pongLearned_untimed timed, ih]
        simp [timed]

section Learning
open P2pInboundHandler
variable {net : NetworkAddr} {ctx : PacketContext}

/-- A Ping learns a route however its answer fares. -/
theorem processDecompressedPacket_ping (ping : ctx.msgType = .ping) (state : NodeState)
    (packet : NetPacket) :
    (processDecompressedPacket config clock net routeKey ctx state packet).state.routeTable =
      state.routeTable.addRouteIfAbsent clock.now ctx.srcIp
        ⟨routeKey, ctx.maxTtl - ctx.ttl, config.defaultRtt⟩ := by
  simp only [processDecompressedPacket, ping, reply, Handled.attempt]
  cases controlPacket 8 MsgType.pong 1 ctx.destIp ctx.srcIp packet.payload <;> rfl

theorem processDecompressedPacket_pong (pong : ctx.msgType = .pong) (state : NodeState)
    (packet : NetPacket) :
    (processDecompressedPacket config clock net routeKey ctx state packet).state.routeTable =
        pongLearned clock routeKey ctx state.routeTable packet ∧
      (processDecompressedPacket config clock net routeKey ctx state packet).outcome = .ok () := by
  simp only [processDecompressedPacket, pong, pongLearned]
  split
  · split
    · exact ⟨rfl, rfl⟩
    · exact ⟨rfl, rfl⟩
  · exact ⟨rfl, rfl⟩

/-- A punch under a looped key is refused, and no other type teaches a route. -/
theorem handleOpened_other (other : ctx.msgType ≠ .ping ∧ ctx.msgType ≠ .pong)
    (loop : looped config routeKey = true) (state : NodeState) (opened : NetPacket) :
    (handleOpened config clock (processDecompressedPacket config clock net routeKey ctx) state
      opened).state.routeTable = state.routeTable := by
  have kept : (handleOpened config clock (processDecompressedPacket config clock net routeKey ctx)
      state opened).Tabled (· = state.routeTable) := by
    refine tabled_handleOpened ?_ state opened rfl
    intro state packet here
    unfold processDecompressedPacket
    cases kind : ctx.msgType with
    | ping => exact absurd kind other.1
    | pong => exact absurd kind other.2
    | punchReq | punchRes =>
        simp only [loop, ↓reduceIte]
        exact here
    | _ => exact here
  exact kept

theorem P2pInboundHandler.handleLocal_noLoop {state : NodeState} (net : NetworkAddr)
    (ctx : PacketContext) (packet : NetPacket) (free : config.NoLoop state.routeTable)
    (loop : looped config routeKey = true) :
    config.NoLoop (handleLocal config clock routeKey net ctx state packet).state.routeTable ↔
      ¬ Teaches clock state.routeTable ctx (config.reaching clock state packet) := by
  by_cases quic : ctx.msgType = .quic
  · have kept : (handleLocal config clock routeKey net ctx state packet).Tabled
        (· = state.routeTable) := by
      rw [handleLocal, if_pos quic, handleQuic]
      split
      · exact tabled_handleFec (fun _ _ here => here) state packet rfl
      · exact rfl
    rw [show (handleLocal config clock routeKey net ctx state packet).state.routeTable =
      state.routeTable from kept]
    refine iff_of_true free ?_
    rintro (⟨ping, _⟩ | ⟨pong, _⟩)
    · rw [quic] at ping
      cases ping
    · rw [quic] at pong
      cases pong
  · rw [handleLocal, if_neg quic, NodeConfig.reaching]
    cases config.packetCrypto.decryptInPlace packet with
    | err message => exact iff_of_true free (by simp [Teaches])
    | panic => exact iff_of_true free (by simp [Teaches])
    | ok opened =>
        simp only [Handled.attempt]
        by_cases ping : ctx.msgType = .ping
        -- However many packets the group gives, the route is learned once.
        · rw [handleOpened_table (fun table packets => if packets = [] then table else
            table.addRouteIfAbsent clock.now ctx.srcIp
              ⟨routeKey, ctx.maxTtl - ctx.ttl, config.defaultRtt⟩) (fun _ => rfl)
            (forEach_ping (fun table => table.addRouteIfAbsent clock.now ctx.srcIp
                ⟨routeKey, ctx.maxTtl - ctx.ttl, config.defaultRtt⟩)
              (fun _ => RouteTable.addRouteIfAbsent_again) (processDecompressedPacket_ping ping))]
          by_cases nothing : config.unpacked clock state opened = []
          · rw [if_pos nothing]
            exact iff_of_true free (by simp [Teaches, ping, nothing])
          · rw [if_neg nothing, free.addRouteIfAbsent loop]
            simp [Teaches, ping, nothing]
        · by_cases pong : ctx.msgType = .pong
          · rw [handleOpened_table (fun table packets =>
              packets.foldl (pongLearned clock routeKey ctx) table) (fun _ => rfl)
              (forEach_pong _ (processDecompressedPacket_pong pong)), free.pongs loop]
            simp [Teaches, pong]
          · rw [handleOpened_other ⟨ping, pong⟩ loop]
            exact iff_of_true free (by simp [Teaches, ping, pong])

end Learning

theorem ServerTurnInboundHandler.processDecompressedPacket_table (net : NetworkAddr)
    (msgType : MsgType) (src dest : Ipv4Addr) (state : NodeState) (packet : NetPacket) :
    (processDecompressedPacket config clock net msgType src dest state packet).state = state := by
  unfold processDecompressedPacket
  cases msgType with
  | turn | broadcast => rfl
  | _ =>
      simp only
      repeat' split
      all_goals rfl

/-- Nothing that comes through a server changes the route table. -/
theorem ServerTurnInboundHandler.handle_table (networkAddr : Option NetworkAddr)
    (state : NodeState) (data : Bytes) :
    (handle config clock networkAddr state data).Tabled (fun after => after = state.routeTable) := by
  unfold handle
  refine tabled_attempt rfl ?_
  intro packet
  cases networkAddr with
  | none => exact rfl
  | some net =>
      simp only
      split
      · unfold handleServerData
        refine tabled_attempt rfl fun packet => tabled_attempt rfl fun msgType =>
          tabled_attempt rfl fun packet => ?_
        cases msgType with
        | turn | pongTurn | pushClientIps | rpcRes =>
            simp only
            repeat' split
            all_goals exact rfl
        | _ => exact rfl
      · split
        · exact rfl
        · unfold handleClientData
          refine tabled_attempt rfl fun packet => tabled_attempt rfl fun msgType => ?_
          simp only
          split
          · unfold handleQuic
            split
            · exact tabled_handleFec (fun _ _ here => here) state packet rfl
            · exact rfl
          · split
            · refine tabled_handleOpened ?_ state _ rfl
              intro before packet here
              show (processDecompressedPacket config clock net msgType _ _ before
                packet).state.routeTable = _
              rw [processDecompressedPacket_table]
              exact here
            · exact rfl

/-- Where nothing is handled here, nothing is learned. -/
theorem NodeConfig.learnsOutside_of_unhandled {state : NodeState} {incoming : Incoming}
    (unhandled : ∀ net packet ctx,
      P2pInboundHandler.triage config state.routeTable incoming.data ≠
        .ok (.handle net packet ctx)) :
    config.LearnsOutside state incoming := by
  intro _ net packet ctx _ _ handled
  exact absurd handled (unhandled net packet ctx)

theorem NodeConfig.NoLoop.handled {state : NodeState} (free : config.NoLoop state.routeTable)
    {data : Bytes} {net : NetworkAddr} {packet : NetPacket} {ctx : PacketContext}
    (judged : P2pInboundHandler.triage config state.routeTable data =
      .ok (.handle net packet ctx)) :
    config.NoLoop (P2pInboundHandler.handleLocal config clock routeKey net ctx state
        packet).state.routeTable ↔
      config.LearnsOutside state ⟨clock, .p2p routeKey, data⟩ := by
  cases loop : P2pInboundHandler.looped config routeKey with
  | false =>
      -- whatever is learned is learned over the key of the packet
      have learns : P2pInboundHandler.Learns routeKey ctx state.routeTable
          (P2pInboundHandler.handleLocal config clock routeKey net ctx state
            packet).state.routeTable :=
        P2pInboundHandler.handleLocal_learns net ctx state packet
      refine iff_of_true ?_ ?_
      · intro id route member
        rcases learns id route member with old | ⟨_, key, _⟩
        · exact free id route old
        · rw [key]
          exact loop
      · intro key _ _ _ same looping
        cases same
        rw [loop] at looping
        cases looping
  | true =>
      rw [P2pInboundHandler.handleLocal_noLoop net ctx packet free loop]
      constructor
      · intro harmless key _ _ _ same _ handled
        cases same
        rw [judged] at handled
        cases handled
        exact harmless
      · intro outside
        exact outside routeKey net packet ctx rfl loop judged

theorem NodeConfig.NoLoop.step {state : NodeState} (free : config.NoLoop state.routeTable)
    (incoming : Incoming) : config.NoLoop (config.step state incoming).1.routeTable ↔
      config.LearnsOutside state incoming := by
  obtain ⟨clock, entrance, data⟩ := incoming
  cases entrance with
  | server networkAddr =>
      have kept : (config.step state ⟨clock, .server networkAddr, data⟩).1.routeTable =
        state.routeTable := ServerTurnInboundHandler.handle_table networkAddr state data
      rw [kept]
      refine iff_of_true free ?_
      intro routeKey net packet ctx entrance
      cases entrance
  | p2p routeKey =>
      show config.NoLoop (P2pInboundHandler.nextHandle config clock routeKey state
        data).state.routeTable ↔ _
      rw [P2pInboundHandler.nextHandle]
      cases judged : P2pInboundHandler.triage config state.routeTable data with
      | err message =>
          refine iff_of_true free (learnsOutside_of_unhandled fun _ _ _ handled => ?_)
          cases judged.symm.trans handled
      | panic =>
          refine iff_of_true free (learnsOutside_of_unhandled fun _ _ _ handled => ?_)
          cases judged.symm.trans handled
      | ok verdict =>
          cases verdict with
          | drop =>
              refine iff_of_true free (learnsOutside_of_unhandled fun _ _ _ handled => ?_)
              cases judged.symm.trans handled
          | forward key packet =>
              refine iff_of_true free (learnsOutside_of_unhandled fun _ _ _ handled => ?_)
              cases judged.symm.trans handled
          | handle net packet ctx => exact free.handled judged

end Loops

/-- Over every run of received packets: no route leads into the tunnel exactly if no Ping
and no Pong from behind the tunnel is learned from. -/
theorem NodeConfig.no_loops_iff (config : NodeConfig) (decoder : FecDecoder)
    (run : List Incoming) :
    Machine.Along config.step
        (fun state incoming => config.NoLoop (config.step state incoming).1.routeTable)
        ⟨decoder, RouteTable.new⟩ run ↔
      Machine.Along config.step config.LearnsOutside ⟨decoder, RouteTable.new⟩ run := by
  apply Machine.along_kept_iff config.step (fun _ => True) (fun state =>
    config.NoLoop state.routeTable)
  · intro state incoming _ free
    exact ⟨trivial, free.step incoming⟩
  · trivial
  · intro id route member
    cases member

def loopedPing : Incoming :=
  ⟨⟨0, 0⟩, .p2p ⟨0, ⟨.v4 0x0A1A0009, 1000⟩⟩,
    NetPacket.buffer ⟨⟨0x85, 0x11, 0, 0, 0, 0x0A1A0002, 0x0A1A0003⟩, [0, 0, 0, 0, 0, 0, 0, 0]⟩⟩

theorem looped_ping_learned :
    ¬ Machine.Along (NodeConfig.plain sampleNetwork).step
      (fun state incoming => (NodeConfig.plain sampleNetwork).NoLoop
        ((NodeConfig.plain sampleNetwork).step state incoming).1.routeTable)
      ⟨FecDecoder.new 0, RouteTable.new⟩ [loopedPing] := by
  rintro ⟨free, _⟩
  exact absurd (free 0x0A1A0002 ⟨⟨0, ⟨.v4 0x0A1A0009, 1000⟩⟩, 1, 0⟩ (by decide +kernel))
    (by decide)

end VntClient
