import VntClient.P2pInbound
import VntClient.RouteInvariant

/-!
The owner map is how a closed TCP connection finds its route. It names one peer for a
route key, whatever number of peers has a direct route over it.
-/

namespace VntClient

/-- The owner map knows every direct route. -/
def RouteView.OwnsDirect (view : RouteView) : Prop :=
  ∀ id list route, view.routes id = some list → route ∈ list → route.isDirect = true →
    view.owner route.routeKey = some id

namespace RouteView
variable {view : RouteView}

theorem OwnsDirect.getD (owns : view.OwnsDirect) {id : Ipv4Addr} {route : Route}
    (member : route ∈ (view.routes id).getD []) (direct : route.isDirect = true) :
    view.owner route.routeKey = some id := by
  cases found : view.routes id with
  | none =>
      rw [found] at member
      cases member
  | some list =>
      rw [found] at member
      exact owns id list route found member direct

theorem OwnsDirect.addOwnerRoute (owns : view.OwnsDirect) (defaultRtt : UInt32) (now : Instant)
    (id : Ipv4Addr) (key : RouteKey) : (view.addOwnerRoute defaultRtt now id key).OwnsDirect ↔
      ∀ other, other ≠ id → ∀ list route, view.routes other = some list → route ∈ list →
        route.isDirect = true → route.routeKey ≠ key := by
  constructor
  · rintro after other elsewhere list route found member direct rfl
    have known := after other list route ((update_eq_some _ _ _ _ _).mpr
      (Or.inr ⟨elsewhere, found⟩)) member direct
    simp only [RouteView.addOwnerRoute, Function.update_self, Option.some.injEq] at known
    exact elsewhere known.symm
  · intro alone other list route found member direct
    show Function.update view.owner key (some id) route.routeKey = some other
    rw [update_eq_some]
    by_cases same : route.routeKey = key
    · refine Or.inl ⟨same, ?_⟩
      rcases (update_eq_some _ _ _ _ _).mp found with ⟨here, _⟩ | ⟨elsewhere, old⟩
      · exact here
      · exact absurd same (alone other elsewhere list route old member direct)
    · refine Or.inr ⟨same, ?_⟩
      rcases (update_eq_some _ _ _ _ _).mp found with ⟨rfl, rfl⟩ | ⟨_, old⟩
      · apply owns.getD _ direct
        split at member
        · exact member
        · rcases List.mem_append.mp member with before | new
          · exact before
          · rw [List.mem_singleton.mp new] at same
            exact absurd rfl same
      · exact owns other list route old member direct

theorem OwnsDirect.addRoute (owns : view.OwnsDirect) (now : Instant) (id : Ipv4Addr)
    (route : Route) : (view.addRoute now id route).OwnsDirect ↔ (route.isDirect = true →
      ∀ owner, view.owner route.routeKey = some owner → owner = id) := by
  unfold RouteView.addRoute
  simp only
  split
  · rename_i refused
    rw [Bool.and_eq_true, Bool.not_eq_true'] at refused
    refine iff_of_true owns ?_
    intro direct
    rw [refused.1] at direct
    cases direct
  · have put : route ∈ RouteTable.placeRoute ((view.routes id).getD []) route := by
      obtain ⟨front, back, _, _, _, _, placed, _⟩ :=
        RouteTable.placeRoute_split ((view.routes id).getD []) route
      rw [placed]
      exact List.mem_append_right _ List.mem_cons_self
    constructor
    · intro after direct owner owned
      have known := after id _ route ((update_eq_some _ _ _ _ _).mpr (Or.inl ⟨rfl, rfl⟩)) put direct
      simp only [direct, owned, Option.isNone_some, Bool.and_false, Bool.false_eq_true, ↓reduceIte,
        Option.some.injEq] at known
      exact known
    · intro alone other list held found member direct
      -- the owner of a key changes only where there was none
      have kept : ∀ key peer, view.owner key = some peer →
          (if (route.isDirect && (view.owner route.routeKey).isNone) = true then
            Function.update view.owner route.routeKey (some id) else view.owner) key = some peer := by
        intro key peer owned
        split
        · rename_i fresh
          rw [Bool.and_eq_true, Option.isNone_iff_eq_none] at fresh
          rw [Function.update_of_ne, owned]
          rintro rfl
          rw [fresh.2] at owned
          cases owned
        · exact owned
      rcases (update_eq_some _ _ _ _ _).mp found with ⟨rfl, rfl⟩ | ⟨_, old⟩
      · rcases RouteTable.mem_placeRoute member with before | rfl
        · exact kept _ _ (owns.getD before direct)
        · rcases Option.eq_none_or_eq_some (view.owner held.routeKey) with fresh | ⟨owner, owned⟩
          · show (if (held.isDirect && (view.owner held.routeKey).isNone) = true then
              Function.update view.owner held.routeKey (some other) else view.owner)
                held.routeKey = some other
            rw [direct, fresh]
            simp
          · have same := alone direct owner owned
            rw [same] at owned
            exact kept _ _ owned
      · exact kept _ _ (owns other list held old member direct)

theorem mem_of_routes_delete {removed : Set (Ipv4Addr × RouteKey)} {id : Ipv4Addr}
    {list : List Route} {route : Route} (found : (view.delete removed).routes id = some list)
    (member : route ∈ list) :
    (∃ old, view.routes id = some old ∧ route ∈ old) ∧ (id, route.routeKey) ∉ removed := by
  classical
  unfold delete at found
  simp only at found
  split at found
  · obtain ⟨old, before, kept⟩ := Option.bind_eq_some_iff.mp found
    unfold held at kept
    split at kept
    · cases kept
    · cases kept
      obtain ⟨inside, stays⟩ := List.mem_filter.mp member
      exact ⟨⟨old, before, inside⟩, of_decide_eq_true stays⟩
  · rename_i untouched
    exact ⟨⟨list, found, member⟩, fun gone => untouched ⟨_, gone⟩⟩

/-- A route that stays keeps its owner. -/
theorem OwnsDirect.delete (owns : view.OwnsDirect) (removed : Set (Ipv4Addr × RouteKey)) :
    (view.delete removed).OwnsDirect := by
  intro id list route found member direct
  obtain ⟨⟨old, before, inside⟩, stays⟩ := mem_of_routes_delete found member
  have owned := owns id old route before inside direct
  simp only [RouteView.delete, owned, Option.bind_some, if_neg stays]

end RouteView

namespace RouteTable

/-- A disconnect leaves neither a direct route over the connection nor its owner. -/
def DisconnectsCleanly (table : RouteTable) : Prop :=
  ∀ key, let after := P2pInboundHandler.tcpDisconnect table key
    (∀ id, ∀ route ∈ after.routes id, route.isDirect = true → route.routeKey ≠ key) ∧
      after.getIdByRouteKey key = none

/-- A direct route comes over a connection that no other peer owns; a punch comes over one
that no other peer has a direct route over. -/
def OneOwner (table : RouteTable) : Call → Prop
  | .addOwnerRoute _ id key => ∀ other, other ≠ id → ∀ route ∈ table.routes other,
      route.isDirect = true → route.routeKey ≠ key
  | .addRoute _ id route => route.isDirect = true →
      ∀ owner, table.getIdByRouteKey route.routeKey = some owner → owner = id
  | .addRouteIfAbsent _ id route => table.routeTable.lookup id = none → route.isDirect = true →
      ∀ owner, table.getIdByRouteKey route.routeKey = some owner → owner = id
  | _ => True

variable {table : RouteTable}

theorem mem_routes {id : Ipv4Addr} {route : Route} :
    route ∈ table.routes id ↔ ∃ list, table.view.routes id = some list ∧ route ∈ list := by
  show route ∈ (table.routeTable.lookup id).getD [] ↔
    ∃ list, table.routeTable.lookup id = some list ∧ route ∈ list
  cases table.routeTable.lookup id with
  | none => simp
  | some list => simp

theorem mem_routes_removeRoute {id other : Ipv4Addr} {key : RouteKey} {route : Route} :
    route ∈ (table.removeRoute id key).routes other ↔
      route ∈ table.routes other ∧ ¬ (other = id ∧ route.routeKey = key) := by
  show route ∈ ((dropRoute table.routeTable id key).lookup other).getD [] ↔ _
  rw [lookup_dropRoute]
  by_cases same : other = id
  · subst same
    rw [if_pos rfl, routes]
    cases table.routeTable.lookup other with
    | none => simp
    | some list =>
        simp only [Option.bind_some, RouteView.held, Option.getD_some, true_and]
        by_cases empty : (list.filter fun held => held.routeKey != key) = []
        · rw [if_pos empty]
          have none_ := List.filter_eq_nil_iff.mp empty
          refine iff_of_false (List.not_mem_nil) ?_
          rintro ⟨member, kept⟩
          exact none_ route member (bne_iff_ne.mpr kept)
        · rw [if_neg empty, Option.getD_some, List.mem_filter, bne_iff_ne]
  · rw [if_neg same]
    simp [same, routes]

/-- Disconnecting is clean exactly if the owner map knows every direct route. -/
theorem disconnectsCleanly_iff : table.DisconnectsCleanly ↔ table.view.OwnsDirect := by
  constructor
  · intro clean id list route found member direct
    have here : route ∈ table.routes id := mem_routes.mpr ⟨list, found, member⟩
    obtain ⟨gone, _⟩ := clean route.routeKey
    show table.routeKeyOwner.lookup route.routeKey = some id
    cases owned : table.getIdByRouteKey route.routeKey with
    | none =>
        rw [P2pInboundHandler.tcpDisconnect, owned] at gone
        exact absurd rfl (gone id route here direct)
    | some owner =>
        rw [P2pInboundHandler.tcpDisconnect, owned] at gone
        by_cases same : owner = id
        · rw [← same]
          exact owned
        · -- the removal happens at the owner, the route stays at its peer
          refine absurd rfl (gone id route (mem_routes_removeRoute.mpr ⟨here, ?_⟩) direct)
          rintro ⟨peer, _⟩
          exact same peer.symm
  · intro owns key
    have direct : ∀ id, ∀ route ∈ table.routes id, route.isDirect = true → route.routeKey = key →
        table.getIdByRouteKey key = some id := by
      rintro id route member isDirect rfl
      obtain ⟨list, found, inside⟩ := mem_routes.mp member
      exact owns id list route found inside isDirect
    cases owned : table.getIdByRouteKey key with
    | none =>
        simp only [P2pInboundHandler.tcpDisconnect, owned, and_true]
        intro id route member isDirect same
        rw [direct id route member isDirect same] at owned
        cases owned
    | some owner =>
        simp only [P2pInboundHandler.tcpDisconnect, owned]
        constructor
        · intro id route member isDirect same
          obtain ⟨here, kept⟩ := mem_routes_removeRoute.mp member
          have known := direct id route here isDirect same
          rw [owned] at known
          exact kept ⟨(Option.some.inj known).symm, same⟩
        · show (dropOwner table.routeKeyOwner owner key).lookup key = none
          have held : table.routeKeyOwner.lookup key = some owner := owned
          rw [lookup_dropOwner, held]
          simp

/-- One call keeps the owners exactly if it has one owner. -/
theorem ownsDirect_execute (owns : table.view.OwnsDirect) (defaultRtt : UInt32) (call : Call) :
    (table.execute defaultRtt call).view.OwnsDirect ↔ OneOwner table call := by
  cases call with
  | addOwnerRoute now id key =>
      rw [execute, view_addOwnerRoute, owns.addOwnerRoute]
      constructor
      · intro alone other elsewhere route member direct
        obtain ⟨list, found, inside⟩ := mem_routes.mp member
        exact alone other elsewhere list route found inside direct
      · intro alone other elsewhere list route found inside direct
        exact alone other elsewhere route (mem_routes.mpr ⟨list, found, inside⟩) direct
  | addRoute now id route =>
      rw [execute, view_addRoute, owns.addRoute]
      rfl
  | addRouteIfAbsent now id route =>
      rw [execute, view_addRouteIfAbsent, RouteView.addRouteIfAbsent]
      split
      · rename_i present
        refine iff_of_true owns ?_
        intro absent
        have known : (table.routeTable.lookup id).isSome = true := present
        rw [absent] at known
        cases known
      · rename_i missing
        have absent : table.routeTable.lookup id = none := by
          have nothing : ¬ (table.routeTable.lookup id).isSome = true := missing
          rwa [Bool.not_eq_true, Option.isSome_eq_false_iff, Option.isNone_iff_eq_none] at nothing
        rw [owns.addRoute]
        exact ⟨fun alone _ => alone, fun alone => alone absent⟩
  | removeRoute id key =>
      rw [execute, view_removeRoute]
      exact iff_of_true (owns.delete {(id, key)}) trivial
  | removeOldestRoute expiredTime =>
      rw [execute, view_removeOldestRoute]
      have scanned : (table.view.retainTime expiredTime).OwnsDirect := owns
      exact iff_of_true (scanned.delete _) trivial

/-- Over every run: a disconnect is clean, whatever its connection, exactly if no route key
ever gets direct routes of two peers. -/
theorem disconnects_cleanly_iff (defaultRtt : UInt32) (calls : List Call) :
    Machine.Along (step defaultRtt)
        (fun table call => (table.execute defaultRtt call).DisconnectsCleanly) new calls ↔
      Machine.Along (step defaultRtt) OneOwner new calls := by
  apply Machine.along_kept_iff (step defaultRtt) (fun _ => True)
  · intro table call _ clean
    refine ⟨trivial, ?_⟩
    show (table.execute defaultRtt call).DisconnectsCleanly ↔ _
    rw [disconnectsCleanly_iff]
    exact ownsDirect_execute (disconnectsCleanly_iff.mp clean) defaultRtt call
  · trivial
  · rw [disconnectsCleanly_iff]
    intro id list route found
    cases found

def readdressedPeer : List Call :=
  [.addOwnerRoute 0 0x0A1A0002 ⟨0, ⟨.v4 0xC0000202, 1000⟩⟩,
    .addRoute 1 0x0A1A0009 ⟨⟨0, ⟨.v4 0xC0000202, 1000⟩⟩, 1, 7⟩]

/-- The route of its second address outlives the connection. -/
theorem disconnect_leaves_route :
    ¬ Machine.Along (step 9999) (fun table call => (table.execute 9999 call).DisconnectsCleanly) new
      readdressedPeer := by
  rintro ⟨_, clean, _⟩
  exact absurd rfl ((clean ⟨0, ⟨.v4 0xC0000202, 1000⟩⟩).1 0x0A1A0009
    ⟨⟨0, ⟨.v4 0xC0000202, 1000⟩⟩, 1, 7⟩ (by decide) (by decide))

end RouteTable
end VntClient
