import VntClient.Table
import VntClient.EnhancedInbound

/-!
`tunnel_core/p2p/route_table.rs`. The routes of a peer are kept in order of
round-trip time; only a direct route may introduce a peer.
-/

namespace VntClient

inductive IpAddr where
  | v4 (ip : Ipv4Addr)
  | v6 (bits : BitVec 128)
deriving DecidableEq

structure SocketAddr where
  ip : IpAddr
  port : UInt16
deriving DecidableEq

/-- A socket of this node and the remote address behind it. -/
structure RouteKey where
  index : Nat
  addr : SocketAddr
deriving DecidableEq

structure Route where
  routeKey : RouteKey
  metric : UInt8
  rtt : UInt32
deriving DecidableEq

def Route.isDirect (route : Route) : Bool := route.metric == 1

structure RouteTable where
  routeTable : AList fun _ : Ipv4Addr => List Route
  routeKeyTime : AList fun _ : Ipv4Addr × RouteKey => Instant
  routeKeyOwner : AList fun _ : RouteKey => Ipv4Addr

namespace RouteTable

def new : RouteTable := ⟨∅, ∅, ∅⟩

def routes (table : RouteTable) (id : Ipv4Addr) : List Route :=
  (table.routeTable.lookup id).getD []

def getRouteById (table : RouteTable) (id : Ipv4Addr) : Option Route :=
  (table.routeTable.lookup id).bind List.head?

def getIdByRouteKey (table : RouteTable) (key : RouteKey) : Option Ipv4Addr :=
  table.routeKeyOwner.lookup key

/-- Towards the front while the round-trip time is smaller than the one before. -/
def bubbleFront (list : List Route) : Nat → List Route × Nat
  | 0 => (list, 0)
  | i + 1 =>
      match list[i + 1]?, list[i]? with
      | some here, some before =>
          if here.rtt < before.rtt then bubbleFront ((list.set (i + 1) before).set i here) i
          else (list, i + 1)
      | _, _ => (list, i + 1)

/-- Towards the back while the round-trip time is larger than the one after. -/
def bubbleBack : Nat → List Route → Nat → List Route
  | 0, list, _ => list
  | fuel + 1, list, i =>
      match list[i]?, list[i + 1]? with
      | some here, some after =>
          if after.rtt < here.rtt then
            bubbleBack fuel ((list.set (i + 1) here).set i after) (i + 1)
          else list
      | _, _ => list

def insertByRtt (route : Route) : List Route → List Route
  | [] => [route]
  | first :: rest =>
      if route.rtt < first.rtt then route :: first :: rest else first :: insertByRtt route rest

/-- Update the route in its place and move it, or insert it by round-trip time. -/
def placeRoute (list : List Route) (route : Route) : List Route :=
  match list.findIdx? fun held => held.routeKey == route.routeKey with
  | some i =>
      let moved := bubbleFront (list.set i route) i
      bubbleBack list.length moved.1 moved.2
  | none => insertByRtt route list

def addOwnerRoute (table : RouteTable) (defaultRtt : UInt32) (now : Instant) (id : Ipv4Addr)
    (key : RouteKey) : RouteTable :=
  let list := table.routes id
  { routeKeyOwner := table.routeKeyOwner.insert key id
    routeKeyTime := table.routeKeyTime.insert (id, key) now
    routeTable := table.routeTable.insert id
      (if list.any fun held => held.routeKey == key then list
        else list ++ [⟨key, 1, defaultRtt⟩]) }

def addRoute (table : RouteTable) (now : Instant) (id : Ipv4Addr) (route : Route) : RouteTable :=
  let key := route.routeKey
  if !route.isDirect && (table.routeTable.lookup id).isNone then table
  else
    { routeKeyOwner :=
        if route.isDirect && (table.routeKeyOwner.lookup key).isNone then
          table.routeKeyOwner.insert key id
        else table.routeKeyOwner
      routeKeyTime := table.routeKeyTime.insert (id, key) now
      routeTable := table.routeTable.insert id (placeRoute (table.routes id) route) }

def addRouteIfAbsent (table : RouteTable) (now : Instant) (id : Ipv4Addr) (route : Route) :
    RouteTable :=
  if (table.routeTable.lookup id).isSome then table else table.addRoute now id route

/-- Take a route out of the list of a peer, and the peer with its last route. -/
def dropRoute (table : AList fun _ : Ipv4Addr => List Route) (id : Ipv4Addr) (key : RouteKey) :
    AList fun _ : Ipv4Addr => List Route :=
  match table.lookup id with
  | none => table
  | some list =>
      let kept := list.filter fun held => held.routeKey != key
      if kept.isEmpty then table.erase id else table.insert id kept

def dropOwner (owners : AList fun _ : RouteKey => Ipv4Addr) (id : Ipv4Addr) (key : RouteKey) :
    AList fun _ : RouteKey => Ipv4Addr :=
  if owners.lookup key = some id then owners.erase key else owners

def removeRoute (table : RouteTable) (id : Ipv4Addr) (key : RouteKey) : RouteTable where
  routeTable := dropRoute table.routeTable id key
  routeKeyOwner := dropOwner table.routeKeyOwner id key
  routeKeyTime := table.routeKeyTime.erase (id, key)

/-- The first part of `remove_oldest_route`: the keys whose time is over leave
the time map. -/
def scanExpired (table : RouteTable) (expiredTime : Instant) :
    List (Ipv4Addr × RouteKey) × RouteTable :=
  ((table.routeKeyTime.entries.filter fun entry => entry.2 ≤ expiredTime).map Sigma.fst,
    { table with routeKeyTime := Table.retain (fun _ time => expiredTime < time) table.routeKeyTime })

/-- The second part: their routes and owners are taken out. -/
def deleteExpired (table : RouteTable) (keys : List (Ipv4Addr × RouteKey)) : RouteTable :=
  keys.foldl (fun table expired =>
    { table with
      routeTable := dropRoute table.routeTable expired.1 expired.2
      routeKeyOwner := dropOwner table.routeKeyOwner expired.1 expired.2 }) table

def removeOldestRoute (table : RouteTable) (expiredTime : Instant) : RouteTable :=
  let scanned := table.scanExpired expiredTime
  if scanned.1.isEmpty then scanned.2 else scanned.2.deleteExpired scanned.1

theorem mem_bubbleFront {list : List Route} {i : Nat} {route : Route}
    (member : route ∈ (bubbleFront list i).1) : route ∈ list := by
  induction i generalizing list with
  | zero => exact member
  | succ i ih =>
      unfold bubbleFront at member
      split at member
      · rename_i here before atHere atBefore
        split at member
        · rcases List.mem_or_eq_of_mem_set (ih member) with moved | same
          · rcases List.mem_or_eq_of_mem_set moved with old | same
            · exact old
            · exact same ▸ List.mem_of_getElem? atBefore
          · exact same ▸ List.mem_of_getElem? atHere
        · exact member
      · exact member

theorem mem_bubbleBack {fuel i : Nat} {list : List Route} {route : Route}
    (member : route ∈ bubbleBack fuel list i) : route ∈ list := by
  induction fuel generalizing list i with
  | zero => exact member
  | succ fuel ih =>
      unfold bubbleBack at member
      split at member
      · rename_i here after atHere atAfter
        split at member
        · rcases List.mem_or_eq_of_mem_set (ih member) with moved | same
          · rcases List.mem_or_eq_of_mem_set moved with old | same
            · exact old
            · exact same ▸ List.mem_of_getElem? atHere
          · exact same ▸ List.mem_of_getElem? atAfter
        · exact member
      · exact member

theorem mem_insertByRtt {list : List Route} {route held : Route}
    (member : held ∈ insertByRtt route list) : held ∈ list ∨ held = route := by
  induction list with
  | nil => exact Or.inr (List.mem_singleton.mp member)
  | cons first rest ih =>
      unfold insertByRtt at member
      split at member
      · exact (List.mem_cons.mp member).symm
      · rcases List.mem_cons.mp member with same | later
        · exact Or.inl (same ▸ List.mem_cons_self)
        · exact (ih later).imp_left (List.mem_cons_of_mem _)

theorem mem_placeRoute {list : List Route} {route held : Route}
    (member : held ∈ placeRoute list route) : held ∈ list ∨ held = route := by
  unfold placeRoute at member
  split at member
  · exact List.mem_or_eq_of_mem_set (mem_bubbleFront (mem_bubbleBack member))
  · exact mem_insertByRtt member

theorem bubbleFront_length (list : List Route) (i : Nat) :
    (bubbleFront list i).1.length = list.length := by
  induction i generalizing list with
  | zero => rfl
  | succ i ih =>
      unfold bubbleFront
      split
      · split
        · rw [ih, List.length_set, List.length_set]
        · rfl
      · rfl

theorem bubbleBack_length (fuel : Nat) (list : List Route) (i : Nat) :
    (bubbleBack fuel list i).length = list.length := by
  induction fuel generalizing list i with
  | zero => rfl
  | succ fuel ih =>
      unfold bubbleBack
      split
      · split
        · rw [ih, List.length_set, List.length_set]
        · rfl
      · rfl

theorem placeRoute_ne_nil (list : List Route) (route : Route) : placeRoute list route ≠ [] := by
  unfold placeRoute
  split
  · rename_i i found
    have size : 0 < list.length := by
      cases list with
      | nil => cases found
      | cons first rest => exact Nat.succ_pos _
    apply List.ne_nil_of_length_pos
    rwa [bubbleBack_length, bubbleFront_length, List.length_set]
  · cases list with
    | nil => exact List.cons_ne_nil _ _
    | cons first rest =>
        unfold insertByRtt
        split <;> exact List.cons_ne_nil _ _

theorem routes_insert (table : RouteTable) (id other : Ipv4Addr) (list : List Route)
    (times : AList fun _ : Ipv4Addr × RouteKey => Instant) (owners : AList fun _ : RouteKey => Ipv4Addr) :
    routes ⟨table.routeTable.insert id list, times, owners⟩ other =
      if other = id then list else table.routes other := by
  by_cases same : other = id
  · subst same
    simp [routes]
  · simp [routes, same, AList.lookup_insert_ne same]

/-- Adding a route adds that route at that peer and nothing else. -/
theorem mem_addRoute {table : RouteTable} {now : Instant} {id other : Ipv4Addr}
    {route held : Route} (member : held ∈ (table.addRoute now id route).routes other) :
    held ∈ table.routes other ∨ other = id ∧ held = route := by
  simp only [addRoute] at member
  split at member
  · exact Or.inl member
  · rw [routes_insert] at member
    split at member
    · rename_i same
      subst same
      exact (mem_placeRoute member).imp_right fun eq => ⟨rfl, eq⟩
    · exact Or.inl member

theorem mem_addRouteIfAbsent {table : RouteTable} {now : Instant} {id other : Ipv4Addr}
    {route held : Route} (member : held ∈ (table.addRouteIfAbsent now id route).routes other) :
    held ∈ table.routes other ∨ other = id ∧ held = route := by
  unfold addRouteIfAbsent at member
  split at member
  · exact Or.inl member
  · exact mem_addRoute member

theorem mem_addOwnerRoute {table : RouteTable} {defaultRtt : UInt32} {now : Instant}
    {id other : Ipv4Addr} {key : RouteKey} {held : Route}
    (member : held ∈ (table.addOwnerRoute defaultRtt now id key).routes other) :
    held ∈ table.routes other ∨ other = id ∧ held = ⟨key, 1, defaultRtt⟩ := by
  simp only [addOwnerRoute, routes_insert] at member
  split at member
  · rename_i same
    subst same
    split at member
    · exact Or.inl member
    · rcases List.mem_append.mp member with old | added
      · exact Or.inl old
      · exact Or.inr ⟨rfl, List.mem_singleton.mp added⟩
  · exact Or.inl member

/-- A relayed route to an unknown peer is not added. -/
theorem addRoute_relayed (table : RouteTable) (now : Instant) (id : Ipv4Addr) (route : Route)
    (relayed : route.isDirect = false) (absent : table.routeTable.lookup id = none) :
    table.addRoute now id route = table := by
  simp [addRoute, relayed, absent]

end RouteTable

inductive Call where
  | addOwnerRoute (now : Instant) (id : Ipv4Addr) (key : RouteKey)
  | addRoute (now : Instant) (id : Ipv4Addr) (route : Route)
  | addRouteIfAbsent (now : Instant) (id : Ipv4Addr) (route : Route)
  | removeRoute (id : Ipv4Addr) (key : RouteKey)
  | removeOldestRoute (expiredTime : Instant)
deriving DecidableEq

def RouteTable.execute (defaultRtt : UInt32) (table : RouteTable) : Call → RouteTable
  | .addOwnerRoute now id key => table.addOwnerRoute defaultRtt now id key
  | .addRoute now id route => table.addRoute now id route
  | .addRouteIfAbsent now id route => table.addRouteIfAbsent now id route
  | .removeRoute id key => table.removeRoute id key
  | .removeOldestRoute expiredTime => table.removeOldestRoute expiredTime

end VntClient
