import VntClient.RouteTable

/-!
A route table as three functions. Two tables are the same to every caller
exactly if their views are equal; the operations on tables act on the views.
-/

namespace VntClient

@[ext] structure RouteView where
  routes : Ipv4Addr → Option (List Route)
  time : Ipv4Addr × RouteKey → Option Instant
  owner : RouteKey → Option Ipv4Addr

def RouteTable.view (table : RouteTable) : RouteView where
  routes id := table.routeTable.lookup id
  time key := table.routeKeyTime.lookup key
  owner key := table.routeKeyOwner.lookup key

namespace RouteView

def held (list : List Route) : Option (List Route) := if list = [] then none else some list

def addOwnerRoute (view : RouteView) (defaultRtt : UInt32) (now : Instant) (id : Ipv4Addr)
    (key : RouteKey) : RouteView :=
  let list := (view.routes id).getD []
  { routes := Function.update view.routes id (some
      (if list.any fun held => held.routeKey == key then list else list ++ [⟨key, 1, defaultRtt⟩]))
    time := Function.update view.time (id, key) (some now)
    owner := Function.update view.owner key (some id) }

def addRoute (view : RouteView) (now : Instant) (id : Ipv4Addr) (route : Route) : RouteView :=
  let key := route.routeKey
  if !route.isDirect && (view.routes id).isNone then view
  else
    { routes := Function.update view.routes id
        (some (RouteTable.placeRoute ((view.routes id).getD []) route))
      time := Function.update view.time (id, key) (some now)
      owner := if route.isDirect && (view.owner key).isNone then
          Function.update view.owner key (some id) else view.owner }

def addRouteIfAbsent (view : RouteView) (now : Instant) (id : Ipv4Addr) (route : Route) :
    RouteView :=
  if (view.routes id).isSome then view else view.addRoute now id route

/-- Take the routes out whose peer and key are in a set. -/
noncomputable def delete (view : RouteView) (keys : Set (Ipv4Addr × RouteKey)) : RouteView := by
  classical
  exact
    { view with
      routes := fun id =>
        if ∃ key, (id, key) ∈ keys then
          (view.routes id).bind fun list => held (list.filter fun route => (id, route.routeKey) ∉ keys)
        else view.routes id
      owner := fun key => (view.owner key).bind fun id => if (id, key) ∈ keys then none else some id }

noncomputable def removeRoute (view : RouteView) (id : Ipv4Addr) (key : RouteKey) : RouteView :=
  { view.delete {(id, key)} with time := Function.update view.time (id, key) none }

def expired (view : RouteView) (expiredTime : Instant) : Set (Ipv4Addr × RouteKey) :=
  { key | ∃ time, view.time key = some time ∧ time ≤ expiredTime }

def retainTime (view : RouteView) (expiredTime : Instant) : RouteView :=
  { view with time := fun key => (view.time key).filter fun time => expiredTime < time }

noncomputable def removeOldestRoute (view : RouteView) (expiredTime : Instant) : RouteView :=
  (view.retainTime expiredTime).delete (view.expired expiredTime)

@[simp] theorem held_nil : held [] = none := rfl

theorem held_filter (list : List Route) (first second : Route → Bool) :
    (held (list.filter first)).bind (fun kept => held (kept.filter second)) =
      held (list.filter fun route => first route && second route) := by
  have both : (list.filter first).filter second =
      list.filter fun route => first route && second route := by
    rw [List.filter_filter]
    exact List.filter_congr fun route _ => Bool.and_comm _ _
  unfold held
  by_cases empty : list.filter first = []
  · rw [← both]
    simp [empty]
  · simp only [if_neg empty, Option.bind_some, both]

theorem delete_delete (view : RouteView) (first second : Set (Ipv4Addr × RouteKey)) :
    (view.delete first).delete second = view.delete (first ∪ second) := by
  classical
  ext1
  · funext id
    have split : (∃ key, (id, key) ∈ first ∪ second) ↔
        (∃ key, (id, key) ∈ first) ∨ ∃ key, (id, key) ∈ second := by
      simp only [Set.mem_union, exists_or]
    simp only [delete, split]
    by_cases one : ∃ key, (id, key) ∈ first
    · by_cases two : ∃ key, (id, key) ∈ second
      · simp only [one, two, true_or, ↓reduceIte, Option.bind_assoc, held_filter, Set.mem_union,
          not_or, Bool.decide_and]
      · simp only [one, ↓reduceIte, Set.mem_union, not_exists.mp two, or_false, exists_false]
    · by_cases two : ∃ key, (id, key) ∈ second
      · simp only [two, or_true, ↓reduceIte, Set.mem_union, not_exists.mp one, false_or,
          exists_false]
      · simp only [if_neg one, if_neg two, if_neg (not_or.mpr ⟨one, two⟩)]
  · rfl
  · funext key
    simp only [delete, Option.bind_assoc, Set.mem_union]
    congr 1
    funext id
    by_cases one : (id, key) ∈ first
    · simp [one]
    · simp [one]

end RouteView

namespace RouteTable
variable (table : RouteTable)

theorem view_addOwnerRoute (defaultRtt : UInt32) (now : Instant) (id : Ipv4Addr) (key : RouteKey) :
    (table.addOwnerRoute defaultRtt now id key).view =
      table.view.addOwnerRoute defaultRtt now id key := by
  ext1
  · exact Table.lookup_insert_update _ _ _
  · exact Table.lookup_insert_update _ _ _
  · exact Table.lookup_insert_update _ _ _

theorem view_addRoute (now : Instant) (id : Ipv4Addr) (route : Route) :
    (table.addRoute now id route).view = table.view.addRoute now id route := by
  simp only [addRoute, RouteView.addRoute]
  by_cases refused : (!route.isDirect && (table.routeTable.lookup id).isNone) = true
  · have same : (!route.isDirect && (table.view.routes id).isNone) = true := refused
    rw [if_pos refused, if_pos same]
  · have same : ¬ (!route.isDirect && (table.view.routes id).isNone) = true := refused
    rw [if_neg refused, if_neg same]
    ext1
    · exact Table.lookup_insert_update _ _ _
    · exact Table.lookup_insert_update _ _ _
    · by_cases first : (route.isDirect && (table.routeKeyOwner.lookup route.routeKey).isNone) = true
      · have own : (route.isDirect && (table.view.owner route.routeKey).isNone) = true := first
        rw [if_pos own]
        simp only [view, if_pos first]
        exact Table.lookup_insert_update _ _ _
      · have own : ¬ (route.isDirect && (table.view.owner route.routeKey).isNone) = true := first
        rw [if_neg own]
        simp only [view, if_neg first]

theorem view_addRouteIfAbsent (now : Instant) (id : Ipv4Addr) (route : Route) :
    (table.addRouteIfAbsent now id route).view = table.view.addRouteIfAbsent now id route := by
  simp only [addRouteIfAbsent, RouteView.addRouteIfAbsent]
  by_cases present : (table.routeTable.lookup id).isSome = true
  · have same : (table.view.routes id).isSome = true := present
    rw [if_pos present, if_pos same]
  · have same : ¬ (table.view.routes id).isSome = true := present
    rw [if_neg present, if_neg same, view_addRoute]

theorem lookup_dropRoute (routes : AList fun _ : Ipv4Addr => List Route) (id other : Ipv4Addr)
    (key : RouteKey) : (dropRoute routes id key).lookup other =
      if other = id then
        (routes.lookup id).bind fun list =>
          RouteView.held (list.filter fun route => route.routeKey != key)
      else routes.lookup other := by
  unfold dropRoute
  cases found : routes.lookup id with
  | none =>
      simp only [Option.bind_none]
      split
      · rename_i same
        rw [same, found]
      · rfl
  | some list =>
      simp only [Option.bind_some, RouteView.held, List.isEmpty_iff]
      split
      · split
        · rename_i same
          rw [same, AList.lookup_erase]
        · rename_i differs
          exact AList.lookup_erase_ne differs
      · split
        · rename_i same
          rw [same, AList.lookup_insert]
        · rename_i differs
          exact AList.lookup_insert_ne differs

theorem lookup_dropOwner (owners : AList fun _ : RouteKey => Ipv4Addr) (id : Ipv4Addr)
    (key other : RouteKey) : (dropOwner owners id key).lookup other =
      (owners.lookup other).bind fun owner =>
        if owner = id ∧ other = key then none else some owner := by
  unfold dropOwner
  by_cases same : other = key
  · subst same
    split
    · rename_i owned
      rw [AList.lookup_erase, owned]
      simp
    · rename_i foreign
      cases found : owners.lookup other with
      | none => rfl
      | some owner =>
          have differs : owner ≠ id := fun eq => foreign (by rw [found, eq])
          simp [differs]
  · have kept : (owners.lookup other).bind (fun owner =>
        if owner = id ∧ other = key then none else some owner) = owners.lookup other := by
      simp [same]
    rw [kept]
    split
    · exact AList.lookup_erase_ne same
    · rfl

theorem view_removeRoute (id : Ipv4Addr) (key : RouteKey) :
    (table.removeRoute id key).view = table.view.removeRoute id key := by
  ext1
  · funext other
    simp only [view, removeRoute, RouteView.removeRoute, RouteView.delete, lookup_dropRoute]
    by_cases same : other = id
    · subst same
      simp only [↓reduceIte, Set.mem_singleton_iff, Prod.mk.injEq, true_and, exists_eq, decide_not]
      rfl
    · simp [same]
  · exact Table.lookup_erase_update _ _
  · funext other
    simp only [view, removeRoute, RouteView.removeRoute, RouteView.delete, lookup_dropOwner]
    simp

/-- One of the deletions. -/
theorem view_drop (id : Ipv4Addr) (key : RouteKey) :
    ({ table with routeTable := dropRoute table.routeTable id key
                  routeKeyOwner := dropOwner table.routeKeyOwner id key } : RouteTable).view =
      table.view.delete {(id, key)} := by
  have whole := table.view_removeRoute id key
  have routes := congrArg RouteView.routes whole
  have owner := congrArg RouteView.owner whole
  ext1
  · exact routes
  · rfl
  · exact owner

theorem view_deleteExpired (keys : List (Ipv4Addr × RouteKey)) :
    (table.deleteExpired keys).view = table.view.delete { key | key ∈ keys } := by
  induction keys generalizing table with
  | nil =>
      ext1
      · simp [deleteExpired, RouteView.delete]
      · rfl
      · simp [deleteExpired, RouteView.delete]
  | cons first rest ih =>
      rw [deleteExpired, List.foldl_cons, ← deleteExpired, ih, view_drop, RouteView.delete_delete]
      congr 1
      ext key
      simp

theorem view_scanExpired (expiredTime : Instant) :
    (table.scanExpired expiredTime).2.view = table.view.retainTime expiredTime := by
  ext1
  · rfl
  · funext key
    exact Table.lookup_retain _ _ _
  · rfl

theorem mem_scanExpired (expiredTime : Instant) (key : Ipv4Addr × RouteKey) :
    key ∈ (table.scanExpired expiredTime).1 ↔ key ∈ table.view.expired expiredTime := by
  simp only [scanExpired, List.mem_map, List.mem_filter, decide_eq_true_eq, RouteView.expired,
    Set.mem_ofPred_eq, view]
  constructor
  · rintro ⟨entry, ⟨member, passed⟩, rfl⟩
    exact ⟨entry.2, AList.mem_lookup_iff.mpr member, passed⟩
  · rintro ⟨time, found, passed⟩
    exact ⟨⟨key, time⟩, ⟨AList.mem_lookup_iff.mp found, passed⟩, rfl⟩

theorem view_removeOldestRoute (expiredTime : Instant) :
    (table.removeOldestRoute expiredTime).view = table.view.removeOldestRoute expiredTime := by
  have scanned : { key | key ∈ (table.scanExpired expiredTime).1 } =
      table.view.expired expiredTime := Set.ext fun key => mem_scanExpired table expiredTime key
  have deleted := view_deleteExpired (table.scanExpired expiredTime).2
    (table.scanExpired expiredTime).1
  rw [view_scanExpired, scanned] at deleted
  simp only [removeOldestRoute]
  split
  · rename_i empty
    rw [List.isEmpty_iff.mp empty] at deleted
    exact deleted
  · exact deleted

/-- What every operation keeps of the view, any execution of calls keeps. -/
theorem serial_invariant (invariant : RouteView → Prop) (defaultRtt : UInt32)
    (owner : ∀ view now id key, invariant view → invariant (view.addOwnerRoute defaultRtt now id key))
    (add : ∀ view now id route, invariant view → invariant (view.addRoute now id route))
    (remove : ∀ view id key, invariant view → invariant (view.removeRoute id key))
    (expire : ∀ view expiredTime, invariant view → invariant (view.removeOldestRoute expiredTime))
    (initial : invariant RouteTable.new.view) (calls : List Call) :
    invariant (calls.foldl (RouteTable.execute defaultRtt) RouteTable.new).view := by
  have kept : ∀ (table : RouteTable) (call : Call), invariant table.view →
      invariant (table.execute defaultRtt call).view := by
    intro table call here
    cases call with
    | addOwnerRoute now id key =>
        rw [RouteTable.execute, view_addOwnerRoute]
        exact owner _ now id key here
    | addRoute now id route =>
        rw [RouteTable.execute, view_addRoute]
        exact add _ now id route here
    | addRouteIfAbsent now id route =>
        rw [RouteTable.execute, view_addRouteIfAbsent, RouteView.addRouteIfAbsent]
        split
        · exact here
        · exact add _ now id route here
    | removeRoute id key =>
        rw [RouteTable.execute, view_removeRoute]
        exact remove _ id key here
    | removeOldestRoute expiredTime =>
        rw [RouteTable.execute, view_removeOldestRoute]
        exact expire _ expiredTime here
  induction calls using List.reverseRecOn with
  | nil => exact initial
  | append_singleton calls call ih =>
      rw [List.foldl_append, List.foldl_cons, List.foldl_nil]
      exact kept _ call ih

end RouteTable
end VntClient
