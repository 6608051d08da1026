import VntClient.RouteConcurrency
import VntClient.RouteInvariant

/-!
Whether a peer that was punched counts as connected: `need_punch` and `p2p_num`
after `add_owner_route`. A route with the same key stays as it was learned, so a
relayed one does not become direct.
-/

namespace VntClient

namespace RouteTable

/-- A peer without a direct route is to be punched. -/
def needPunch (table : RouteTable) (id : Ipv4Addr) : Bool :=
  match table.routeTable.lookup id with
  | none => true
  | some list => !list.any Route.isDirect

def p2pNum (table : RouteTable) (id : Ipv4Addr) : Nat :=
  match table.routeTable.lookup id with
  | none => 0
  | some list => (list.filter Route.isDirect).length

/-- What a punch is for: a direct route with the key, and everything else as it was. -/
structure ConnectsDirectly (before after : RouteTable) (id : Ipv4Addr) (key : RouteKey) : Prop where
  direct : ∃ route ∈ after.routes id, route.routeKey = key ∧ route.metric = 1
  settled : after.needPunch id = false
  counted : 1 ≤ after.p2pNum id
  others : ∀ other, other ≠ id →
    after.routeTable.lookup other = before.routeTable.lookup other
  rest : (after.routes id).filter (fun route => route.routeKey != key) =
    (before.routes id).filter fun route => route.routeKey != key

/-- The peer has no relayed route with the key. -/
def Unrelayed (table : RouteTable) (id : Ipv4Addr) (key : RouteKey) : Prop :=
  ∀ held ∈ table.routes id, held.routeKey = key → held.metric = 1

def DistinctKeys (table : RouteTable) : Prop :=
  ∀ id, (RouteView.keys (table.routes id)).Nodup

variable {table : RouteTable} {id : Ipv4Addr} {key : RouteKey}

theorem needPunch_eq_false_iff :
    table.needPunch id = false ↔ ∃ route ∈ table.routes id, route.isDirect = true := by
  unfold needPunch routes
  cases table.routeTable.lookup id with
  | none => simp
  | some list => simp

theorem p2pNum_pos_iff :
    1 ≤ table.p2pNum id ↔ ∃ route ∈ table.routes id, route.isDirect = true := by
  unfold p2pNum routes
  cases table.routeTable.lookup id with
  | none => simp
  | some list =>
      rw [Nat.one_le_iff_ne_zero, Ne, List.length_eq_zero_iff, Option.getD_some]
      simp [List.filter_eq_nil_iff]

theorem addOwnerRoute_others (defaultRtt : UInt32) (now : Instant) (other : Ipv4Addr)
    (differs : other ≠ id) :
    (table.addOwnerRoute defaultRtt now id key).routeTable.lookup other =
      table.routeTable.lookup other :=
  AList.lookup_insert_ne differs

theorem addOwnerRoute_routes (table : RouteTable) (defaultRtt : UInt32) (now : Instant)
    (id : Ipv4Addr) (key : RouteKey) :
    (table.addOwnerRoute defaultRtt now id key).routes id = table.routes id ∧
        key ∈ RouteView.keys (table.routes id) ∨
      (table.addOwnerRoute defaultRtt now id key).routes id =
        table.routes id ++ [⟨key, 1, defaultRtt⟩] ∧ key ∉ RouteView.keys (table.routes id) := by
  have shape : (table.addOwnerRoute defaultRtt now id key).routes id =
      if (table.routes id).any fun held => held.routeKey == key then table.routes id
      else table.routes id ++ [⟨key, 1, defaultRtt⟩] := by
    simp only [addOwnerRoute, routes_insert, ↓reduceIte]
  have present : ((table.routes id).any fun held => held.routeKey == key) = true ↔
      key ∈ RouteView.keys (table.routes id) := by
    simp [RouteView.keys]
  by_cases held : key ∈ RouteView.keys (table.routes id)
  · rw [if_pos (present.mpr held)] at shape
    exact Or.inl ⟨shape, held⟩
  · rw [if_neg fun found => held (present.mp found)] at shape
    exact Or.inr ⟨shape, held⟩

/-- Without two routes of one key, a punch connects directly exactly if the key has
no relayed route. -/
theorem connectsDirectly_iff (distinct : table.DistinctKeys) (defaultRtt : UInt32)
    (now : Instant) :
    table.ConnectsDirectly (table.addOwnerRoute defaultRtt now id key) id key ↔
      table.Unrelayed id key := by
  have shape := addOwnerRoute_routes table defaultRtt now id key
  constructor
  · intro connects held member same
    obtain ⟨route, inside, sameKey, metric⟩ := connects.direct
    rcases shape with ⟨kept, -⟩ | ⟨-, absent⟩
    · rw [kept] at inside
      have equal := List.inj_on_of_nodup_map (distinct id) inside member (sameKey.trans same.symm)
      exact equal ▸ metric
    · exact absurd (List.mem_map.mpr ⟨held, member, same⟩) absent
  · intro unrelayed
    have direct : ∃ route ∈ (table.addOwnerRoute defaultRtt now id key).routes id,
        route.routeKey = key ∧ route.metric = 1 := by
      rcases shape with ⟨kept, present⟩ | ⟨grown, -⟩
      · obtain ⟨held, member, same⟩ := List.mem_map.mp present
        exact ⟨held, kept ▸ member, same, unrelayed held member same⟩
      · exact ⟨⟨key, 1, defaultRtt⟩, by simp [grown], rfl, rfl⟩
    have connected : ∃ route ∈ (table.addOwnerRoute defaultRtt now id key).routes id,
        route.isDirect = true := by
      obtain ⟨route, member, -, metric⟩ := direct
      exact ⟨route, member, beq_iff_eq.mpr metric⟩
    constructor
    · exact direct
    · exact needPunch_eq_false_iff.mpr connected
    · exact p2pNum_pos_iff.mpr connected
    · exact addOwnerRoute_others defaultRtt now
    · rcases shape with ⟨kept, -⟩ | ⟨grown, -⟩
      · rw [kept]
      · simp [grown]

theorem DistinctKeys.insert (distinct : table.DistinctKeys) (id : Ipv4Addr) {list : List Route}
    (fresh : (RouteView.keys list).Nodup) (times : AList fun _ : Ipv4Addr × RouteKey => Instant)
    (owners : AList fun _ : RouteKey => Ipv4Addr) :
    DistinctKeys ⟨table.routeTable.insert id list, times, owners⟩ := by
  intro other
  rw [routes_insert]
  split
  · exact fresh
  · exact distinct other

theorem DistinctKeys.addOwnerRoute (distinct : table.DistinctKeys) (defaultRtt : UInt32)
    (now : Instant) (id : Ipv4Addr) (key : RouteKey) :
    (table.addOwnerRoute defaultRtt now id key).DistinctKeys := by
  intro other
  by_cases same : other = id
  · subst same
    rcases addOwnerRoute_routes table defaultRtt now other key with ⟨kept, -⟩ | ⟨grown, absent⟩
    · rw [kept]
      exact distinct other
    · rw [grown, RouteView.keys, List.map_append]
      refine List.nodup_append'.mpr ⟨distinct other, List.nodup_singleton _, ?_⟩
      intro held member here
      cases List.mem_singleton.mp here
      exact absent member
  · rw [routes, addOwnerRoute_others defaultRtt now other same]
    exact distinct other

theorem DistinctKeys.addRoute (distinct : table.DistinctKeys) (now : Instant) (id : Ipv4Addr)
    (route : Route) : (table.addRoute now id route).DistinctKeys := by
  simp only [RouteTable.addRoute]
  split
  · exact distinct
  · exact distinct.insert id (RouteView.nodup_keys_placeRoute route (distinct id)) _ _

theorem DistinctKeys.drop (distinct : table.DistinctKeys) (id : Ipv4Addr) (key : RouteKey)
    (times : AList fun _ : Ipv4Addr × RouteKey => Instant)
    (owners : AList fun _ : RouteKey => Ipv4Addr) :
    DistinctKeys ⟨dropRoute table.routeTable id key, times, owners⟩ := by
  intro other
  apply List.Nodup.sublist _ (distinct other)
  apply List.Sublist.map
  simp only [routes, lookup_dropRoute]
  split
  · rename_i same
    subst same
    cases table.routeTable.lookup other with
    | none => exact List.Sublist.refl _
    | some list =>
        simp only [Option.bind_some, RouteView.held]
        split
        · exact List.nil_sublist _
        · exact List.filter_sublist
  · exact List.Sublist.refl _

theorem DistinctKeys.deleteExpired (distinct : table.DistinctKeys)
    (keys : List (Ipv4Addr × RouteKey)) : (table.deleteExpired keys).DistinctKeys := by
  induction keys generalizing table with
  | nil => exact distinct
  | cons first rest ih => exact ih (distinct.drop first.1 first.2 _ _)

theorem DistinctKeys.execute (distinct : table.DistinctKeys) (defaultRtt : UInt32) (call : Call) :
    (table.execute defaultRtt call).DistinctKeys := by
  cases call with
  | addOwnerRoute now id key => exact distinct.addOwnerRoute defaultRtt now id key
  | addRoute now id route => exact distinct.addRoute now id route
  | addRouteIfAbsent now id route =>
      simp only [RouteTable.execute, addRouteIfAbsent]
      split
      · exact distinct
      · exact distinct.addRoute now id route
  | removeRoute id key => exact distinct.drop id key _ _
  | removeOldestRoute expiredTime =>
      simp only [RouteTable.execute, removeOldestRoute]
      split
      · exact distinct
      · exact @DistinctKeys.deleteExpired (table.scanExpired expiredTime).2 distinct _

end RouteTable

namespace SharedTable

theorem step_distinctKeys (defaultRtt : UInt32) (shared : SharedTable) (event : TableEvent)
    (distinct : shared.table.DistinctKeys) :
    (shared.step defaultRtt event).1.table.DistinctKeys := by
  obtain ⟨elapsed, locked⟩ := event
  cases locked with
  | addOwnerRoute id key => exact distinct.addOwnerRoute defaultRtt _ id key
  | addRoute id route => exact distinct.addRoute _ id route
  | removeRoute id key => exact distinct.drop id key _ _
  | checkAbsent id route =>
      simp only [step]
      split <;> exact distinct
  | insertAbsent index =>
      simp only [step]
      cases shared.inserts[index]? with
      | none => exact distinct
      | some waiting => exact distinct.addRoute _ waiting.1 waiting.2
  | scanExpired expiredTime =>
      simp only [step]
      split <;> exact distinct
  | deleteExpired index =>
      simp only [step]
      cases shared.removals[index]? with
      | none => exact distinct
      | some removal => exact distinct.deleteExpired removal.keys

/-- The punches among the sections connect directly. -/
def PunchesConnect (defaultRtt : UInt32) (shared : SharedTable) (event : TableEvent) : Prop :=
  match event.locked with
  | .addOwnerRoute id key =>
      shared.table.ConnectsDirectly (shared.step defaultRtt event).1.table id key
  | _ => True

/-- The punches among the sections meet no relayed route. -/
def PunchesUnrelayed (shared : SharedTable) (event : TableEvent) : Prop :=
  match event.locked with
  | .addOwnerRoute id key => shared.table.Unrelayed id key
  | _ => True

/-- In every run of sections the punches connect directly exactly as far as none of
them meets a relayed route with its key. -/
theorem punches_connect_iff (defaultRtt : UInt32) (events : List TableEvent) :
    Machine.Along (step defaultRtt) (PunchesConnect defaultRtt) new events ↔
      Machine.Along (step defaultRtt) PunchesUnrelayed new events := by
  apply Machine.along_iff (step defaultRtt) fun shared => shared.table.DistinctKeys
  · intro shared event _ distinct _
    exact step_distinctKeys defaultRtt shared event distinct
  · intro shared event _ distinct
    obtain ⟨elapsed, locked⟩ := event
    cases locked with
    | addOwnerRoute id key => exact RouteTable.connectsDirectly_iff distinct defaultRtt _
    | _ => rfl
  · intro id
    exact List.nodup_nil

/-- A peer that is reached through another one is punched on the same key, after its
first connection was lost. -/
def punchedRelay : List TableEvent :=
  [⟨1, .addOwnerRoute 0x0A1A0002 sampleKey⟩,
    ⟨1, .addRoute 0x0A1A0002 ⟨⟨1, sampleKey.addr⟩, 2, 50⟩⟩, ⟨1, .removeRoute 0x0A1A0002 sampleKey⟩,
    ⟨1, .addOwnerRoute 0x0A1A0002 ⟨1, sampleKey.addr⟩⟩]

theorem punched_relay_unsettled :
    ¬ Machine.Along (step 1000) (PunchesConnect 1000) new punchedRelay ∧
      (Machine.run (step 1000) new punchedRelay).1.table.needPunch 0x0A1A0002 = true := by
  have unsettled : (Machine.run (step 1000) new punchedRelay).1.table.needPunch 0x0A1A0002 =
      true := by decide +kernel
  constructor
  · rintro ⟨-, -, -, connects, -⟩
    exact absurd (unsettled.symm.trans connects.settled) (by decide)
  · exact unsettled

end SharedTable

end VntClient
