import VntClient.Machine
import VntClient.RouteTable

/-!
The order of a peer's routes. `get_route_by_id` takes the first route for the best one,
so every call has to leave the lists in order of round-trip time.
-/

namespace VntClient

section Ranked
variable {Item Rank : Type} [LinearOrder Rank] (rank : Item → Rank)

/-- In order of rank, equal ranks in any order. -/
def Ranked (items : List Item) : Prop := items.Pairwise fun left right => rank left ≤ rank right

variable {rank} {front back : List Item} {item : Item}

theorem Ranked.between (ranked : Ranked rank (front ++ back))
    (below : ∀ other ∈ front, rank other ≤ rank item)
    (above : ∀ other ∈ back, rank item ≤ rank other) : Ranked rank (front ++ item :: back) := by
  obtain ⟨first, second, across⟩ := List.pairwise_append.mp ranked
  refine List.pairwise_append.mpr ⟨first, List.pairwise_cons.mpr ⟨above, second⟩, ?_⟩
  intro left inFront right inRest
  rcases List.mem_cons.mp inRest with rfl | inBack
  · exact below left inFront
  · exact across left inFront right inBack

theorem Ranked.le_of_getLast (ranked : Ranked rank front) {bound : Rank}
    (last : ∀ other ∈ front.getLast?, rank other ≤ bound) :
    ∀ other ∈ front, rank other ≤ bound := by
  induction front using List.reverseRecOn with
  | nil => intro other member; cases member
  | append_singleton front end_ =>
      have top : rank end_ ≤ bound := last end_ (by simp)
      intro other member
      rcases List.mem_append.mp member with early | late
      · exact le_trans ((List.pairwise_append.mp ranked).2.2 other early end_ (by simp)) top
      · rwa [List.mem_singleton.mp late]

theorem Ranked.ge_of_head (ranked : Ranked rank back) {bound : Rank}
    (first : ∀ other ∈ back.head?, bound ≤ rank other) : ∀ other ∈ back, bound ≤ rank other := by
  cases back with
  | nil => intro other member; cases member
  | cons head rest =>
      have bottom : bound ≤ rank head := first head rfl
      intro other member
      rcases List.mem_cons.mp member with rfl | later
      · exact bottom
      · exact le_trans bottom ((List.pairwise_cons.mp ranked).1 other later)

theorem Ranked.sublist {items : List Item} (ranked : Ranked rank items)
    (inside : front.Sublist items) : Ranked rank front :=
  List.Pairwise.sublist inside ranked

end Ranked

def Route.delay (route : Route) : Nat := route.rtt.toNat

namespace RouteTable

theorem set_swap (before after : List Route) (first second : Route) :
    ((before ++ first :: second :: after).set (before.length + 1) first).set before.length second =
      before ++ second :: first :: after := by
  simp

/-- Where `bubbleFront` leaves the route: behind the last one that is not slower. -/
theorem bubbleFront_split (before after : List Route) (route : Route) :
    ∃ front passed, before = front ++ passed ∧
      bubbleFront (before ++ route :: after) before.length =
        (front ++ route :: (passed ++ after), front.length) ∧
      (∀ other ∈ passed, route.delay ≤ other.delay) ∧
      ∀ other ∈ front.getLast?, other.delay ≤ route.delay := by
  induction before using List.reverseRecOn generalizing after with
  | nil => exact ⟨[], [], rfl, rfl, by simp, by simp⟩
  | append_singleton before last ih =>
      have here : (before ++ [last] ++ route :: after)[before.length + 1]? = some route := by simp
      have there : (before ++ [last] ++ route :: after)[before.length]? = some last := by simp
      rw [List.length_append, List.length_singleton, bubbleFront, here, there]
      by_cases faster : route.rtt < last.rtt
      · have swapped := set_swap before after last route
        obtain ⟨front, passed, split, moved, slower, stop⟩ := ih (last :: after)
        refine ⟨front, passed ++ [last], by rw [split, List.append_assoc], ?_, ?_, stop⟩
        · simp only [if_pos faster, List.append_assoc, List.singleton_append, swapped, moved]
        · intro other member
          rcases List.mem_append.mp member with old | new
          · exact slower other old
          · rw [List.mem_singleton.mp new]
            exact UInt32.le_of_lt faster
      · refine ⟨before ++ [last], [], by simp, ?_, by simp, ?_⟩
        · simp only [if_neg faster, List.nil_append, List.length_append, List.length_singleton]
        · intro other same
          rw [List.getLast?_concat, Option.mem_some_iff] at same
          subst same
          exact UInt32.not_lt.mp faster

/-- Where `bubbleBack` leaves it: before the first one that is not faster. -/
theorem bubbleBack_split (fuel : Nat) (before after : List Route) (route : Route)
    (enough : after.length ≤ fuel) :
    ∃ passed back, after = passed ++ back ∧
      bubbleBack fuel (before ++ route :: after) before.length =
        before ++ (passed ++ route :: back) ∧
      (∀ other ∈ passed, other.delay ≤ route.delay) ∧
      ∀ other ∈ back.head?, route.delay ≤ other.delay := by
  induction fuel generalizing before after with
  | zero =>
      obtain rfl := List.length_eq_zero_iff.mp (Nat.le_zero.mp enough)
      exact ⟨[], [], rfl, rfl, by simp, by simp⟩
  | succ fuel ih =>
      cases after with
      | nil =>
          refine ⟨[], [], rfl, ?_, by simp, by simp⟩
          simp [bubbleBack]
      | cons next rest =>
          have here : (before ++ route :: next :: rest)[before.length]? = some route := by simp
          have there : (before ++ route :: next :: rest)[before.length + 1]? = some next := by simp
          rw [bubbleBack, here, there]
          by_cases slower : next.rtt < route.rtt
          · obtain ⟨passed, back, rfl, moved, faster, stop⟩ := ih (before ++ [next]) rest
              (Nat.le_of_succ_le_succ enough)
            refine ⟨next :: passed, back, rfl, ?_, ?_, stop⟩
            · have swapped := set_swap before (passed ++ back) route next
              have position : (before ++ [next]).length = before.length + 1 := by simp
              rw [position] at moved
              simp only [List.append_assoc, List.singleton_append] at moved
              simp only [if_pos slower, swapped, moved, List.cons_append]
            · intro other member
              rcases List.mem_cons.mp member with rfl | later
              · exact UInt32.le_of_lt slower
              · exact faster other later
          · refine ⟨[], next :: rest, rfl, ?_, by simp, ?_⟩
            · simp only [if_neg slower, List.nil_append]
            · intro other same
              rw [List.head?_cons, Option.mem_some_iff] at same
              subst same
              exact UInt32.not_lt.mp slower

theorem insertByRtt_split (route : Route) (list : List Route) :
    ∃ front back, list = front ++ back ∧ insertByRtt route list = front ++ route :: back ∧
      (∀ other ∈ front, other.delay ≤ route.delay) ∧
        ∀ other ∈ back.head?, route.delay ≤ other.delay := by
  induction list with
  | nil => exact ⟨[], [], rfl, rfl, by simp, by simp⟩
  | cons first rest ih =>
      unfold insertByRtt
      by_cases faster : route.rtt < first.rtt
      · refine ⟨[], first :: rest, rfl, if_pos faster, by simp, ?_⟩
        intro other same
        rw [List.head?_cons, Option.mem_some_iff] at same
        subst same
        exact UInt32.le_of_lt faster
      · obtain ⟨front, back, rfl, inserted, below, above⟩ := ih
        refine ⟨first :: front, back, rfl, ?_, ?_, above⟩
        · rw [if_neg faster, inserted]
          rfl
        · intro other member
          rcases List.mem_cons.mp member with rfl | later
          · exact UInt32.not_lt.mp faster
          · exact below other later

/-- What `place_route` does to a list: the route comes in place of the one with its key, or
anew, between two parts of the others. -/
theorem placeRoute_split (list : List Route) (route : Route) :
    ∃ front back before after,
      (list = before ++ after ∧ (∀ held ∈ list, held.routeKey ≠ route.routeKey) ∨
        ∃ old, old.routeKey = route.routeKey ∧ list = before ++ old :: after) ∧
      front ++ back = before ++ after ∧ placeRoute list route = front ++ route :: back ∧
      (Ranked Route.delay (before ++ after) → Ranked Route.delay (front ++ route :: back)) := by
  unfold placeRoute
  cases found : list.findIdx? fun held => held.routeKey == route.routeKey with
  | none =>
      obtain ⟨front, back, rfl, inserted, below, above⟩ := insertByRtt_split route list
      refine ⟨front, back, front, back, Or.inl ⟨rfl, ?_⟩, rfl, inserted, ?_⟩
      · intro held member same
        have missing := List.findIdx?_eq_none_iff.mp found held member
        simp [same] at missing
      · intro ranked
        have second : Ranked Route.delay back := (List.pairwise_append.mp ranked).2.1
        exact ranked.between below (second.ge_of_head above)
  | some i =>
      obtain ⟨inside, hit, _⟩ := List.findIdx?_eq_some_iff_getElem.mp found
      have cut : list = list.take i ++ list[i] :: list.drop (i + 1) := by
        rw [List.getElem_cons_drop, List.take_append_drop]
      have position : (list.take i).length = i := List.length_take_of_le (Nat.le_of_lt inside)
      have put : list.set i route = list.take i ++ route :: list.drop (i + 1) := by
        rw [List.set_eq_take_append_cons_drop, if_pos inside]
      -- The new route takes the old one's place and swaps forward, then backward.
      obtain ⟨front, passed, early, forward, _, stop⟩ :=
        bubbleFront_split (list.take i) (list.drop (i + 1)) route
      obtain ⟨skipped, back, late, backward, faster, rest⟩ :=
        bubbleBack_split list.length front (passed ++ list.drop (i + 1)) route (by
          have whole := congrArg List.length early
          rw [List.length_append, position] at whole
          rw [List.length_append, List.length_drop]
          omega)
      rw [position] at forward
      have others : (front ++ skipped) ++ back = list.take i ++ list.drop (i + 1) := by
        rw [List.append_assoc, ← late, early, List.append_assoc]
      refine ⟨front ++ skipped, back, list.take i, list.drop (i + 1),
        Or.inr ⟨list[i], beq_iff_eq.mp hit, cut⟩, others, ?_, ?_⟩
      · simp only [put, forward, backward, List.append_assoc]
      · intro ranked
        rw [← others] at ranked
        obtain ⟨first, second, _⟩ := List.pairwise_append.mp ranked
        have start : Ranked Route.delay front := (List.pairwise_append.mp first).1
        have end_ : Ranked Route.delay back := second
        refine ranked.between ?_ (end_.ge_of_head rest)
        intro other member
        rcases List.mem_append.mp member with before | between
        · exact start.le_of_getLast stop other before
        · exact faster other between

def InOrder (table : RouteTable) : Prop :=
  ∀ id list, table.routeTable.lookup id = some list → Ranked Route.delay list

/-- What `get_route_by_id` promises: no route of the peer is faster. -/
def BestFirst (table : RouteTable) : Prop :=
  table.InOrder ∧ ∀ id route, table.getRouteById id = some route →
    ∀ other ∈ table.routes id, route.rtt ≤ other.rtt

theorem InOrder.bestFirst {table : RouteTable} (ordered : table.InOrder) : table.BestFirst := by
  refine ⟨ordered, ?_⟩
  intro id route best other member
  rw [getRouteById] at best
  rw [routes] at member
  cases held : table.routeTable.lookup id with
  | none =>
      rw [held] at best
      cases best
  | some list =>
      rw [held, Option.bind_some] at best
      rw [held, Option.getD_some] at member
      cases list with
      | nil => cases best
      | cons first rest =>
          cases best
          rcases List.mem_cons.mp member with rfl | later
          · exact UInt32.le_refl _
          · exact UInt32.le_iff_toNat_le.mpr
              ((List.pairwise_cons.mp (ordered id _ held)).1 other later)

def step (defaultRtt : UInt32) (table : RouteTable) (call : Call) : RouteTable × List Empty :=
  (table.execute defaultRtt call, [])

/-- A new route with the default round-trip time comes after none that is slower. -/
def FitsDefault (defaultRtt : UInt32) (table : RouteTable) : Call → Prop
  | .addOwnerRoute _ id key => (∀ held ∈ table.routes id, held.routeKey ≠ key) →
      ∀ held ∈ table.routes id, held.rtt ≤ defaultRtt
  | _ => True

section InOrder
variable {table : RouteTable}

theorem InOrder.routes (ordered : table.InOrder) (id : Ipv4Addr) :
    Ranked Route.delay (table.routes id) := by
  rw [RouteTable.routes]
  cases held : table.routeTable.lookup id with
  | none => exact List.Pairwise.nil
  | some list => exact ordered id list held

/-- Only the list that is put in counts. -/
theorem inOrder_insert (ordered : table.InOrder) (id : Ipv4Addr) (list : List Route)
    (times : AList fun _ : Ipv4Addr × RouteKey => Instant)
    (owners : AList fun _ : RouteKey => Ipv4Addr) :
    InOrder ⟨table.routeTable.insert id list, times, owners⟩ ↔ Ranked Route.delay list := by
  constructor
  · intro after
    exact after id list (AList.lookup_insert _)
  · intro ranked other held found
    by_cases same : other = id
    · subst same
      rw [AList.lookup_insert] at found
      cases found
      exact ranked
    · rw [AList.lookup_insert_ne same] at found
      exact ordered other held found

theorem ranked_placeRoute {list : List Route} (route : Route) (ranked : Ranked Route.delay list) :
    Ranked Route.delay (placeRoute list route) := by
  obtain ⟨front, back, before, after, shape, _, placed, kept⟩ := placeRoute_split list route
  rw [placed]
  apply kept
  rcases shape with ⟨rfl, _⟩ | ⟨old, _, rfl⟩
  · exact ranked
  · exact ranked.sublist (List.Sublist.append_left (List.sublist_cons_self _ _) _)

theorem InOrder.addRoute (ordered : table.InOrder) (now : Instant) (id : Ipv4Addr)
    (route : Route) : (table.addRoute now id route).InOrder := by
  simp only [RouteTable.addRoute]
  split
  · exact ordered
  · exact (inOrder_insert ordered _ _ _ _).mpr (ranked_placeRoute route (ordered.routes id))

theorem ranked_concat {list : List Route} (ranked : Ranked Route.delay list) (route : Route) :
    Ranked Route.delay (list ++ [route]) ↔ ∀ held ∈ list, held.rtt ≤ route.rtt := by
  constructor
  · intro whole held member
    exact UInt32.le_iff_toNat_le.mpr
      ((List.pairwise_append.mp whole).2.2 held member route List.mem_cons_self)
  · intro below
    refine Ranked.between (by rwa [List.append_nil]) ?_ (by simp)
    intro held member
    exact UInt32.le_iff_toNat_le.mp (below held member)

theorem InOrder.drop {routes : AList fun _ : Ipv4Addr => List Route}
    (ordered : ∀ id list, routes.lookup id = some list → Ranked Route.delay list)
    (id : Ipv4Addr) (key : RouteKey) :
    ∀ other list, (dropRoute routes id key).lookup other = some list →
      Ranked Route.delay list := by
  intro other list found
  unfold dropRoute at found
  cases held : routes.lookup id with
  | none =>
      rw [held] at found
      exact ordered other list found
  | some kept =>
      rw [held] at found
      simp only at found
      split at found
      · by_cases same : other = id
        · subst same
          rw [AList.lookup_erase] at found
          cases found
        · rw [AList.lookup_erase_ne same] at found
          exact ordered other list found
      · by_cases same : other = id
        · subst same
          rw [AList.lookup_insert] at found
          cases found
          exact (ordered other kept held).sublist List.filter_sublist
        · rw [AList.lookup_insert_ne same] at found
          exact ordered other list found

theorem InOrder.deleteExpired (ordered : table.InOrder) (keys : List (Ipv4Addr × RouteKey)) :
    (table.deleteExpired keys).InOrder := by
  induction keys generalizing table with
  | nil => exact ordered
  | cons first rest ih =>
      have dropped := InOrder.drop ordered first.1 first.2
      exact ih dropped

/-- One call: the order is kept exactly if the default round-trip time fits. -/
theorem InOrder.execute (ordered : table.InOrder) (defaultRtt : UInt32) (call : Call) :
    (table.execute defaultRtt call).InOrder ↔ FitsDefault defaultRtt table call := by
  cases call with
  | addOwnerRoute now id key =>
      rw [RouteTable.execute, addOwnerRoute, inOrder_insert ordered]
      by_cases known : (table.routes id).any (fun held => held.routeKey == key) = true
      · rw [if_pos known]
        obtain ⟨held, member, same⟩ := List.any_eq_true.mp known
        refine iff_of_true (ordered.routes id) ?_
        intro absent
        exact absurd (beq_iff_eq.mp same) (absent held member)
      · rw [if_neg known, ranked_concat (ordered.routes id)]
        have absent : ∀ held ∈ table.routes id, held.routeKey ≠ key := by
          intro held member same
          exact known (List.any_eq_true.mpr ⟨held, member, beq_iff_eq.mpr same⟩)
        exact ⟨fun below _ => below, fun fits => fits absent⟩
  | addRoute now id route => exact iff_of_true (ordered.addRoute now id route) trivial
  | addRouteIfAbsent now id route =>
      refine iff_of_true ?_ trivial
      rw [RouteTable.execute, addRouteIfAbsent]
      split
      · exact ordered
      · exact ordered.addRoute now id route
  | removeRoute id key => exact iff_of_true (InOrder.drop ordered id key) trivial
  | removeOldestRoute expiredTime =>
      refine iff_of_true ?_ trivial
      have scanned : (table.scanExpired expiredTime).2.InOrder := ordered
      rw [RouteTable.execute, removeOldestRoute]
      split
      · exact scanned
      · exact scanned.deleteExpired _

end InOrder

/-- Over every run: the first route of a peer is its best one exactly if no route with the
default round-trip time is ever put behind a slower one. -/
theorem best_routes_iff (defaultRtt : UInt32) (calls : List Call) :
    Machine.Along (step defaultRtt) (fun table call => (table.execute defaultRtt call).BestFirst)
      new calls ↔ Machine.Along (step defaultRtt) (FitsDefault defaultRtt) new calls := by
  apply Machine.along_kept_iff (step defaultRtt) (fun _ => True)
  · intro table call _ ordered
    refine ⟨trivial, ?_⟩
    rw [← ordered.1.execute defaultRtt call]
    exact ⟨fun best => best.1, InOrder.bestFirst⟩
  · trivial
  · apply InOrder.bestFirst
    intro id list found
    cases found

/-- A measured route slower than the default, then a punched one. -/
def slowThenPunched : List Call :=
  [.addRoute 0 0x0A1A0002 ⟨⟨0, ⟨.v4 0xC0000202, 1000⟩⟩, 1, 12000⟩,
    .addOwnerRoute 1 0x0A1A0002 ⟨1, ⟨.v4 0xC0000203, 1000⟩⟩]

theorem slower_route_first :
    ¬ Machine.Along (step 9999) (fun table call => (table.execute 9999 call).BestFirst) new
      slowThenPunched := by
  rintro ⟨_, ⟨_, best⟩, _⟩
  exact absurd (best 0x0A1A0002 ⟨⟨0, ⟨.v4 0xC0000202, 1000⟩⟩, 1, 12000⟩ (by decide)
    ⟨⟨1, ⟨.v4 0xC0000203, 1000⟩⟩, 1, 9999⟩ (by decide)) (by decide)

end RouteTable
end VntClient
