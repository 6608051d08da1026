import VntClient.PunchedRoutes
import VntClient.RouteLoops
import VntClient.ServerSelection

/-!
Round-trip times from time stamps of the other side: a Pong sets that of a route, a
PongTurn or a pushed list that of a server. The difference of two `i64` is cast to
`u32`, and `get_rtt` doubles what it has from a server.
-/

namespace VntClient

/-- `VntApi::get_rtt`: of the route, or twice that of the server. -/
def getRtt (table : RouteTable) (visited : List (Sigma fun _ : UInt32 => ServerNodeInfo))
    (ip : Ipv4Addr) : Option UInt32 :=
  match table.getRouteById ip with
  | some route => some route.rtt
  | none => (ServerInfoCollection.getServerRtt visited ip).map fun rtt => rtt * 2

/-- The subtraction stays within `i64`, the cast drops no bit, and what is stored is the
time that passed or the maximum. -/
structure ExactRtt (now time : Int) (rtt : UInt32) : Prop where
  subtraction : (BitVec.ofInt 64 (now - time)).toInt = now - time
  cast : (BitVec.ofInt 64 (now - time)).toNat < 2 ^ 32
  value : (rtt.toNat : Int) = now - time ∨ rtt = 0xFFFFFFFF ∧ 0xFFFFFFFF ≤ now - time

/-- Exact, and so is twice the time. -/
structure ExactTwice (now time : Int) (rtt : UInt32) : Prop where
  single : ExactRtt now time rtt
  double : (rtt * 2).toNat = 2 * rtt.toNat

section Arithmetic
variable {now time : Int}

theorem getRtt_doubled {table : RouteTable}
    {visited : List (Sigma fun _ : UInt32 => ServerNodeInfo)} {ip : Ipv4Addr} {rtt : UInt32}
    (unrouted : table.getRouteById ip = none)
    (told : ServerInfoCollection.getServerRtt visited ip = some rtt)
    (exact : ExactTwice now time rtt) :
    ∃ doubled, getRtt table visited ip = some doubled ∧ doubled.toNat = 2 * rtt.toNat := by
  refine ⟨rtt * 2, ?_, exact.double⟩
  simp only [getRtt, unrouted, told, Option.map_some]

theorem elapsedMs_toNat : ((elapsedMs now time).toNat : Int) = (now - time) % 2 ^ 32 := by
  rw [elapsedMs, UInt32.toNat_ofBitVec, BitVec.toNat_ofInt]
  omega

theorem elapsedMs_ofNat (past : time ≤ now) :
    UInt32.ofNat (now - time).toNat = elapsedMs now time := by
  have cast := @elapsedMs_toNat now time
  apply UInt32.toNat_inj.mp
  rw [UInt32.toNat_ofNat']
  omega

theorem exactRtt_iff (past : time ≤ now) :
    ExactRtt now time (elapsedMs now time) ↔ now - time < 2 ^ 32 := by
  have cast := @elapsedMs_toNat now time
  constructor
  · rintro ⟨subtraction, cast, -⟩
    rw [BitVec.toInt_ofInt, Int.bmod_def] at subtraction
    rw [BitVec.toNat_ofInt] at cast
    omega
  · intro short
    constructor
    · rw [BitVec.toInt_ofInt, Int.bmod_def]
      omega
    · rw [BitVec.toNat_ofInt]
      omega
    · omega

theorem exactTwice_iff (past : time ≤ now) :
    ExactTwice now time (elapsedMs now time) ↔ now - time < 2 ^ 31 := by
  have cast := @elapsedMs_toNat now time
  have twice : (elapsedMs now time * 2).toNat = (elapsedMs now time).toNat * 2 % 2 ^ 32 :=
    UInt32.toNat_mul _ _
  constructor
  · rintro ⟨single, double⟩
    have short := (exactRtt_iff past).mp single
    omega
  · intro short
    exact ⟨(exactRtt_iff past).mpr (by omega), by omega⟩

end Arithmetic

def ServerInfoCollection.pongTurn (servers : ServerInfoCollection) (serverId : UInt32)
    (clock : Clock) (packet : NetPacket) : ServerInfoCollection :=
  if packet.payload.length = 16 then
    if fromBeBytes64 packet.payload ≤ clock.ms then
      servers.setServerRtt serverId (elapsedMs clock.ms (fromBeBytes64 packet.payload))
    else servers
  else servers

def Effect.onRtt (serverId : UInt32) (servers : ServerInfoCollection) : Effect → ServerInfoCollection
  | .setServerRtt rtt => servers.setServerRtt serverId rtt
  | _ => servers

theorem handleServerData_pongTurn {config : NodeConfig} {clock : Clock} {net : NetworkAddr}
    {state : NodeState} {data : Bytes} {wire packet : NetPacket}
    (parsed : NetPacket.new data = .ok wire) (type : wire.msgType = .ok .pongTurn)
    (plain : config.packetCompression.decompress wire = .ok packet)
    (servers : ServerInfoCollection) (serverId : UInt32) :
    (ServerTurnInboundHandler.handleServerData config clock net state data).effects.foldl
      (Effect.onRtt serverId) servers = servers.pongTurn serverId clock packet := by
  simp only [ServerTurnInboundHandler.handleServerData, parsed, type, plain, Handled.attempt,
    ServerInfoCollection.pongTurn]
  split
  · split <;> rfl
  · rfl

structure RttState where
  table : RouteTable
  servers : ServerInfoCollection

/-- A message with a time stamp, or any other call on the routes. -/
inductive RttMessage where
  | pong (routeKey : RouteKey) (ctx : PacketContext) (packet : NetPacket)
  | pongTurn (serverId : UInt32) (packet : NetPacket)
  | pushClientIps (serverId : UInt32) (selfIp : Ipv4Addr) (pushed : ClientSimpleInfoList)
  | call (call : Call)

namespace RttState

def step (defaultRtt : UInt32) (state : RttState) (event : Clock × RttMessage) :
    RttState × List Empty :=
  match event.2 with
  | .pong routeKey ctx packet =>
      ({ state with table := pongLearned event.1 routeKey ctx state.table packet }, [])
  | .pongTurn serverId packet =>
      ({ state with servers := state.servers.pongTurn serverId event.1 packet }, [])
  | .pushClientIps serverId selfIp pushed =>
      ({ state with
          servers := state.servers.updateClientSimpleList serverId selfIp pushed event.1.ms }, [])
  | .call call => ({ state with table := state.table.execute defaultRtt call }, [])

/-- What a message stores from its time stamp is exact. -/
def StoresExact (defaultRtt : UInt32) (state : RttState) (event : Clock × RttMessage) : Prop :=
  let after := (state.step defaultRtt event).1
  match event.2 with
  | .pong routeKey ctx packet => TimedPong event.1 packet →
      ∀ held ∈ after.table.routes ctx.srcIp, held.routeKey = routeKey →
        ExactRtt event.1.ms (fromBeBytes64 packet.payload) held.rtt
  | .pongTurn serverId packet =>
      packet.payload.length = 16 → fromBeBytes64 packet.payload ≤ event.1.ms →
        ∀ rtt, after.servers.rtt serverId = some rtt →
          ExactTwice event.1.ms (fromBeBytes64 packet.payload) rtt
  | .pushClientIps serverId _ pushed => pushed.time < event.1.ms →
      ∀ rtt, after.servers.rtt serverId = some rtt → ExactTwice event.1.ms pushed.time rtt
  | .call _ => True

/-- The time stamp is less than 2³² ms old for a route, and less than 2³¹ for a server. -/
def Recent (state : RttState) (event : Clock × RttMessage) : Prop :=
  match event.2 with
  | .pong _ ctx packet => TimedPong event.1 packet →
      (ctx.maxTtl - ctx.ttl = 1 ∨ state.table.routeTable.lookup ctx.srcIp ≠ none) →
        event.1.ms - fromBeBytes64 packet.payload < 2 ^ 32
  | .pongTurn serverId packet =>
      packet.payload.length = 16 → fromBeBytes64 packet.payload ≤ event.1.ms →
        state.servers.serverNodeMap.lookup serverId ≠ none →
          event.1.ms - fromBeBytes64 packet.payload < 2 ^ 31
  | .pushClientIps _ _ pushed => pushed.time < event.1.ms → event.1.ms - pushed.time < 2 ^ 31
  | .call _ => True

section Steps
variable {state : RttState} {clock : Clock}

/-- A route that is taken is the only one under its key. -/
theorem addRoute_taken {table : RouteTable} (distinct : table.DistinctKeys) (now : Instant)
    {id : Ipv4Addr} {route : Route}
    (taken : route.metric = 1 ∨ table.routeTable.lookup id ≠ none) (held : Route) :
    held ∈ (table.addRoute now id route).routes id ∧ held.routeKey = route.routeKey ↔
      held = route := by
  have here : route ∈ (table.addRoute now id route).routes id := by
    have accepted : ¬ (!route.isDirect && (table.routeTable.lookup id).isNone) = true := by
      rcases taken with direct | known
      · simp [Route.isDirect, direct]
      · simp [Option.isNone_iff_eq_none, known]
    obtain ⟨front, back, _, _, _, _, placed, _⟩ :=
      RouteTable.placeRoute_split (table.routes id) route
    simp only [RouteTable.addRoute, if_neg accepted, RouteTable.routes_insert, ↓reduceIte, placed]
    exact List.mem_append_right _ List.mem_cons_self
  constructor
  · rintro ⟨member, same⟩
    exact List.inj_on_of_nodup_map ((distinct.addRoute now id route) id) member here same
  · rintro rfl
    exact ⟨here, rfl⟩

theorem pong_iff (distinct : state.table.DistinctKeys) (defaultRtt : UInt32) (routeKey : RouteKey)
    (ctx : PacketContext) (packet : NetPacket) :
    state.StoresExact defaultRtt (clock, .pong routeKey ctx packet) ↔
      state.Recent (clock, .pong routeKey ctx packet) := by
  simp only [StoresExact, Recent, step]
  apply forall_congr'
  intro timed
  rw [pongLearned_timed timed, ← exactRtt_iff timed.2]
  by_cases taken : ctx.maxTtl - ctx.ttl = 1 ∨ state.table.routeTable.lookup ctx.srcIp ≠ none
  · have only := @addRoute_taken _ distinct clock.now ctx.srcIp ⟨routeKey, ctx.maxTtl - ctx.ttl,
      elapsedMs clock.ms (fromBeBytes64 packet.payload)⟩ taken
    constructor
    · intro exact _
      obtain ⟨member, same⟩ := (only _).mpr rfl
      exact exact _ member same
    · intro exact held member same
      rw [(only held).mp ⟨member, same⟩]
      exact exact taken
  · refine iff_of_true ?_ fun accepted => absurd accepted taken
    intro held member
    have refused := @RouteTable.addRoute_refused state.table clock.now ctx.srcIp ⟨routeKey,
      ctx.maxTtl - ctx.ttl, elapsedMs clock.ms (fromBeBytes64 packet.payload)⟩
      fun accepted => taken (accepted.imp_left beq_iff_eq.mp)
    rw [refused, RouteTable.routes, not_not.mp (not_or.mp taken).2] at member
    cases member

theorem rtt_setServerRtt (servers : ServerInfoCollection) (serverId rtt : UInt32) :
    (servers.setServerRtt serverId rtt).rtt serverId =
      (servers.serverNodeMap.lookup serverId).map fun _ => rtt := by
  unfold ServerInfoCollection.setServerRtt
  split
  · rename_i absent
    rw [ServerInfoCollection.rtt, absent]
    rfl
  · rename_i node known
    refine (congrArg (Option.bind · ServerNodeInfo.rtt) (AList.lookup_insert _)).trans ?_
    simp only [known, Option.bind_some, Option.map_some]

theorem rtt_updateClientSimpleList (servers : ServerInfoCollection) (serverId : UInt32)
    (selfIp : Ipv4Addr) {pushed : ClientSimpleInfoList} {now : Int} (past : pushed.time < now) :
    (servers.updateClientSimpleList serverId selfIp pushed now).rtt serverId =
      some (elapsedMs now pushed.time) := by
  rw [← elapsedMs_ofNat past.le]
  refine (congrArg (Option.bind · ServerNodeInfo.rtt) (AList.lookup_insert _)).trans ?_
  rw [Option.bind_some, if_pos past]
  split <;> rfl

theorem pongTurn_iff (defaultRtt : UInt32) (serverId : UInt32) (packet : NetPacket) :
    state.StoresExact defaultRtt (clock, .pongTurn serverId packet) ↔
      state.Recent (clock, .pongTurn serverId packet) := by
  simp only [StoresExact, Recent, step]
  apply forall_congr'
  intro whole
  apply forall_congr'
  intro past
  rw [ServerInfoCollection.pongTurn, if_pos whole, if_pos past, rtt_setServerRtt,
    ← exactTwice_iff past]
  cases state.servers.serverNodeMap.lookup serverId with
  | none => simp
  | some node => simp

theorem pushClientIps_iff (defaultRtt : UInt32) (serverId : UInt32) (selfIp : Ipv4Addr)
    (pushed : ClientSimpleInfoList) :
    state.StoresExact defaultRtt (clock, .pushClientIps serverId selfIp pushed) ↔
      state.Recent (clock, .pushClientIps serverId selfIp pushed) := by
  simp only [StoresExact, Recent, step]
  apply forall_congr'
  intro past
  rw [rtt_updateClientSimpleList _ _ _ past, ← exactTwice_iff past.le]
  simp

theorem step_distinctKeys (defaultRtt : UInt32) (event : Clock × RttMessage)
    (distinct : state.table.DistinctKeys) : (state.step defaultRtt event).1.table.DistinctKeys := by
  obtain ⟨clock, message⟩ := event
  cases message with
  | pong routeKey ctx packet =>
      show (pongLearned clock routeKey ctx state.table packet).DistinctKeys
      by_cases timed : TimedPong clock packet
      · rw [pongLearned_timed timed]
        exact distinct.addRoute _ _ _
      · rwa [pongLearned_untimed timed]
  | pongTurn serverId packet => exact distinct
  | pushClientIps serverId selfIp pushed => exact distinct
  | call call => exact distinct.execute defaultRtt call

end Steps

/-- In every run each message stores an exact time exactly as far as its time stamp is
recent enough. -/
theorem stores_exact_iff (defaultRtt : UInt32) (servers : ServerInfoCollection)
    (events : List (Clock × RttMessage)) :
    Machine.Along (step defaultRtt) (StoresExact defaultRtt) ⟨RouteTable.new, servers⟩ events ↔
      Machine.Along (step defaultRtt) Recent ⟨RouteTable.new, servers⟩ events := by
  apply Machine.along_iff (step defaultRtt) fun state => state.table.DistinctKeys
  · intro state event _ distinct _
    exact step_distinctKeys defaultRtt event distinct
  · rintro state ⟨clock, message⟩ _ distinct
    cases message with
    | pong routeKey ctx packet => exact pong_iff distinct defaultRtt routeKey ctx packet
    | pongTurn serverId packet => exact pongTurn_iff defaultRtt serverId packet
    | pushClientIps serverId selfIp pushed => exact pushClientIps_iff defaultRtt serverId selfIp pushed
    | call call => rfl
  · intro id
    exact List.nodup_nil

/-- A Pong with a time stamp that is 2³² ms older than the seven that passed, and a
pushed list with one from 2³¹ ms ago. -/
def agedStamps : List (Clock × RttMessage) :=
  [(⟨1, 1000⟩, .pong sampleKey ⟨.pong, 0x0A1A0002, 0x0A1A0001, 2, 1⟩
      ⟨NetHeader.zeroed, toBeBytes64 (1000 - 4294967296 - 7)⟩),
    (⟨2, 1000⟩, .pushClientIps 0 0x0A1A0001 ⟨[⟨0x0A1A0003, true⟩], true, 1000 - 2147483648⟩)]

/-- The route is told to be 7 ms away, and the server 0 ms. -/
theorem aged_stamps_stored :
    ¬ Machine.Along (step 1000) (StoresExact 1000) ⟨RouteTable.new, ServerInfoCollection.new⟩
        agedStamps ∧
      (Machine.run (step 1000) ⟨RouteTable.new, ServerInfoCollection.new⟩ agedStamps).1.table.routes
        0x0A1A0002 = [⟨sampleKey, 1, 7⟩] ∧
      ((Machine.run (step 1000) ⟨RouteTable.new, ServerInfoCollection.new⟩ agedStamps).1.servers.rtt
        0).map (fun rtt => rtt * 2) = some 0 := by
  refine ⟨?_, by decide +kernel, by decide +kernel⟩
  rintro ⟨-, exact, -⟩
  have twice : ExactTwice 1000 (1000 - 2147483648) 2147483648 :=
    exact (by decide) 2147483648 (by decide +kernel)
  exact absurd twice.double (by decide)

end RttState
end VntClient
