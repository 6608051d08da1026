import VntClient.RouteOrder
import VntClient.RouteView

/-!
What the three maps of a route table have to do with each other: a time for every route,
an owner only with a route, and whether the owner map knows every direct route.
-/

namespace VntClient

namespace RouteView
variable {view : RouteView}

def keys (list : List Route) : List RouteKey := list.map Route.routeKey

def Holds (view : RouteView) (id : Ipv4Addr) (key : RouteKey) : Prop :=
  ∃ list, view.routes id = some list ∧ key ∈ keys list

/-- No list is empty or has a key twice; routes and times are there for the same keys; an
owner has a route. -/
structure Represented (view : RouteView) : Prop where
  filled : ∀ id list, view.routes id = some list → list ≠ []
  distinct : ∀ id list, view.routes id = some list → (keys list).Nodup
  timed : ∀ id key, view.time (id, key) ≠ none ↔ view.Holds id key
  owned : ∀ key id, view.owner key = some id → view.Holds id key

theorem mem_keys_getD (id : Ipv4Addr) (key : RouteKey) :
    key ∈ keys ((view.routes id).getD []) ↔ view.Holds id key := by
  unfold Holds
  cases view.routes id with
  | none => simp [keys]
  | some list => simp

theorem update_eq_some {Key Value : Type} [DecidableEq Key] (table : Key → Option Value)
    (key other : Key) (value found : Value) :
    Function.update table key (some value) other = some found ↔
      other = key ∧ found = value ∨ other ≠ key ∧ table other = some found := by
  by_cases same : other = key
  · subst same
    simp [eq_comm]
  · simp [same]

theorem Represented.put (represented : view.Represented) (now : Instant) (id : Ipv4Addr)
    (key : RouteKey) (list : List Route) (owner : RouteKey → Option Ipv4Addr)
    (distinct : (keys list).Nodup)
    (added : ∀ other, other ∈ keys list ↔ other = key ∨ view.Holds id other)
    (owners : ∀ other peer, owner other = some peer →
      other = key ∧ peer = id ∨ view.owner other = some peer) :
    Represented ⟨Function.update view.routes id (some list),
      Function.update view.time (id, key) (some now), owner⟩ := by
  have holds : ∀ peer other, Holds ⟨Function.update view.routes id (some list),
      Function.update view.time (id, key) (some now), owner⟩ peer other ↔
        peer = id ∧ other = key ∨ view.Holds peer other := by
    intro peer other
    by_cases here : peer = id
    · subst here
      simp only [Holds, Function.update_self, Option.some.injEq, exists_eq_left', true_and]
      exact added other
    · simp only [Holds, Function.update_of_ne here, here, false_and, false_or]
  constructor
  · intro peer held found
    rcases (update_eq_some _ _ _ _ _).mp found with ⟨_, rfl⟩ | ⟨_, old⟩
    · rintro rfl
      have member := (added key).mpr (Or.inl rfl)
      cases member
    · exact represented.filled peer held old
  · intro peer held found
    rcases (update_eq_some _ _ _ _ _).mp found with ⟨_, rfl⟩ | ⟨_, old⟩
    · exact distinct
    · exact represented.distinct peer held old
  · intro peer other
    rw [holds]
    show Function.update view.time (id, key) (some now) (peer, other) ≠ none ↔ _
    by_cases here : (peer, other) = (id, key)
    · rw [here, Function.update_self]
      obtain ⟨rfl, rfl⟩ := Prod.mk.inj here
      simp
    · rw [Function.update_of_ne here, represented.timed]
      refine ⟨Or.inr, ?_⟩
      rintro (⟨rfl, rfl⟩ | old)
      · exact absurd rfl here
      · exact old
  · intro other peer found
    rw [holds]
    rcases owners other peer found with ⟨rfl, rfl⟩ | old
    · exact Or.inl ⟨rfl, rfl⟩
    · exact Or.inr (represented.owned other peer old)

open Classical in
theorem Represented.routes_delete (represented : view.Represented)
    (removed : Set (Ipv4Addr × RouteKey)) (id : Ipv4Addr) (list : List Route) :
    (view.delete removed).routes id = some list ↔ list ≠ [] ∧
      ∃ old, view.routes id = some old ∧
        list = old.filter fun route => (id, route.routeKey) ∉ removed := by
  have kept : ∀ rest : List Route, held rest = some list ↔ list ≠ [] ∧ list = rest := by
    intro rest
    unfold held
    by_cases empty : rest = []
    · simp [empty]
    · rw [if_neg empty]
      constructor
      · rintro ⟨rfl⟩
        exact ⟨empty, rfl⟩
      · rintro ⟨_, rfl⟩
        rfl
  unfold delete
  simp only
  split
  · rw [Option.bind_eq_some_iff]
    simp only [kept]
    constructor
    · rintro ⟨old, found, filled, rfl⟩
      exact ⟨filled, old, found, rfl⟩
    · rintro ⟨filled, old, found, rfl⟩
      exact ⟨old, found, filled, rfl⟩
  · rename_i untouched
    have whole : ∀ old : List Route,
        (old.filter fun route => (id, route.routeKey) ∉ removed) = old := by
      intro old
      apply List.filter_eq_self.mpr
      intro route _
      exact decide_eq_true fun gone => untouched ⟨_, gone⟩
    simp only [whole]
    constructor
    · intro found
      exact ⟨represented.filled id list found, list, found, rfl⟩
    · rintro ⟨_, old, found, rfl⟩
      exact found

theorem Represented.holds_delete (represented : view.Represented)
    (removed : Set (Ipv4Addr × RouteKey)) (id : Ipv4Addr) (key : RouteKey) :
    (view.delete removed).Holds id key ↔ view.Holds id key ∧ (id, key) ∉ removed := by
  classical
  constructor
  · rintro ⟨list, found, member⟩
    obtain ⟨_, old, before, rfl⟩ := (represented.routes_delete removed id list).mp found
    obtain ⟨route, inside, rfl⟩ := List.mem_map.mp member
    obtain ⟨held, stays⟩ := List.mem_filter.mp inside
    exact ⟨⟨old, before, List.mem_map_of_mem held⟩, of_decide_eq_true stays⟩
  · rintro ⟨⟨old, before, member⟩, stays⟩
    obtain ⟨route, held, rfl⟩ := List.mem_map.mp member
    have inside : route ∈ old.filter fun route => (id, route.routeKey) ∉ removed :=
      List.mem_filter.mpr ⟨held, decide_eq_true stays⟩
    refine ⟨_, (represented.routes_delete removed id _).mpr
      ⟨List.ne_nil_of_mem inside, old, before, rfl⟩, List.mem_map_of_mem inside⟩

theorem Represented.delete (represented : view.Represented)
    (removed : Set (Ipv4Addr × RouteKey)) (time : Ipv4Addr × RouteKey → Option Instant)
    (times : ∀ key, time key ≠ none ↔ view.time key ≠ none ∧ key ∉ removed) :
    Represented { view.delete removed with time } := by
  classical
  constructor
  · intro id list found
    exact ((represented.routes_delete removed id list).mp found).1
  · intro id list found
    obtain ⟨_, old, before, rfl⟩ := (represented.routes_delete removed id list).mp found
    exact (represented.distinct id old before).sublist (List.filter_sublist.map _)
  · intro id key
    exact (times (id, key)).trans ((and_congr_left' (represented.timed id key)).trans
      (represented.holds_delete removed id key).symm)
  · intro key id found
    obtain ⟨owner, before, kept⟩ := Option.bind_eq_some_iff.mp found
    by_cases gone : (owner, key) ∈ removed
    · rw [if_pos gone] at kept
      cases kept
    · rw [if_neg gone] at kept
      cases kept
      exact (represented.holds_delete removed id key).mpr ⟨represented.owned key id before, gone⟩

theorem mem_keys_placeRoute (list : List Route) (route : Route) (key : RouteKey) :
    key ∈ keys (RouteTable.placeRoute list route) ↔ key = route.routeKey ∨ key ∈ keys list := by
  obtain ⟨front, back, before, after, shape, others, placed, _⟩ :=
    RouteTable.placeRoute_split list route
  have parts : keys front ++ keys back = keys before ++ keys after := by
    simpa [keys] using congrArg keys others
  have rest : key ∈ keys (RouteTable.placeRoute list route) ↔
      key = route.routeKey ∨ key ∈ keys before ++ keys after := by
    rw [placed, ← parts]
    simp only [keys, List.map_append, List.map_cons, List.mem_append, List.mem_cons]
    tauto
  rw [rest]
  rcases shape with ⟨rfl, _⟩ | ⟨old, same, rfl⟩
  · rw [keys, keys, keys, List.map_append]
  · simp only [keys, List.map_append, List.map_cons, List.mem_append, List.mem_cons, same]
    tauto

theorem nodup_keys_placeRoute {list : List Route} (route : Route) (distinct : (keys list).Nodup) :
    (keys (RouteTable.placeRoute list route)).Nodup := by
  obtain ⟨front, back, before, after, shape, others, placed, _⟩ :=
    RouteTable.placeRoute_split list route
  have parts : keys front ++ keys back = keys before ++ keys after := by
    simpa [keys] using congrArg keys others
  have moved : (keys (RouteTable.placeRoute list route)).Perm
      (route.routeKey :: (keys before ++ keys after)) := by
    rw [placed, ← parts]
    simp only [keys, List.map_append, List.map_cons]
    exact List.perm_middle
  rw [moved.nodup_iff]
  rcases shape with ⟨rfl, absent⟩ | ⟨old, same, rfl⟩
  · rw [keys, List.map_append] at distinct
    refine List.nodup_cons.mpr ⟨?_, distinct⟩
    intro member
    rw [keys, keys, ← List.map_append] at member
    obtain ⟨held, inside, hit⟩ := List.mem_map.mp member
    exact absent held inside hit
  · rw [keys, List.map_append, List.map_cons, same] at distinct
    exact List.perm_middle.nodup_iff.mp distinct

theorem Represented.nodup_getD (represented : view.Represented) (id : Ipv4Addr) :
    (keys ((view.routes id).getD [])).Nodup := by
  cases found : view.routes id with
  | none => exact List.nodup_nil
  | some list => exact represented.distinct id list found

theorem Represented.addOwnerRoute (represented : view.Represented) (defaultRtt : UInt32)
    (now : Instant) (id : Ipv4Addr) (key : RouteKey) :
    (view.addOwnerRoute defaultRtt now id key).Represented := by
  have distinct := represented.nodup_getD id
  have members : ∀ other, other ∈ keys ((view.routes id).getD []) ↔ view.Holds id other :=
    mem_keys_getD id
  apply represented.put now id key
  · split
    · exact distinct
    · rename_i absent
      rw [keys, List.map_append, List.map_singleton]
      refine List.nodup_append'.mpr ⟨distinct, List.nodup_singleton _, ?_⟩
      intro other member here
      obtain ⟨route, inside, same⟩ := List.mem_map.mp member
      apply absent
      exact List.any_eq_true.mpr
        ⟨route, inside, beq_iff_eq.mpr (same.trans (List.mem_singleton.mp here))⟩
  · intro other
    rw [← members]
    split
    · rename_i known
      obtain ⟨route, inside, same⟩ := List.any_eq_true.mp known
      refine ⟨Or.inr, ?_⟩
      rintro (rfl | old)
      · exact List.mem_map.mpr ⟨route, inside, beq_iff_eq.mp same⟩
      · exact old
    · rw [keys, List.map_append, List.map_singleton, List.mem_append, List.mem_singleton, or_comm]
      rfl
  · intro other peer found
    rcases (update_eq_some _ _ _ _ _).mp found with ⟨rfl, rfl⟩ | ⟨_, old⟩
    · exact Or.inl ⟨rfl, rfl⟩
    · exact Or.inr old

theorem Represented.addRoute (represented : view.Represented) (now : Instant) (id : Ipv4Addr)
    (route : Route) : (view.addRoute now id route).Represented := by
  unfold RouteView.addRoute
  simp only
  split
  · exact represented
  · apply represented.put now id route.routeKey
    · exact nodup_keys_placeRoute route (represented.nodup_getD id)
    · intro other
      rw [mem_keys_placeRoute, mem_keys_getD]
    · intro other peer found
      split at found
      · rcases (update_eq_some _ _ _ _ _).mp found with ⟨rfl, rfl⟩ | ⟨_, old⟩
        · exact Or.inl ⟨rfl, rfl⟩
        · exact Or.inr old
      · exact Or.inr found

theorem Represented.removeRoute (represented : view.Represented) (id : Ipv4Addr)
    (key : RouteKey) : (view.removeRoute id key).Represented := by
  apply represented.delete {(id, key)}
  intro other
  by_cases same : other = (id, key)
  · simp [same]
  · simp [same]

theorem Represented.removeOldestRoute (represented : view.Represented) (expiredTime : Instant) :
    (view.removeOldestRoute expiredTime).Represented := by
  apply represented.delete (view.expired expiredTime)
  intro key
  show (view.time key).filter _ ≠ none ↔ _
  cases found : view.time key with
  | none => simp
  | some time =>
      have outdated : key ∈ view.expired expiredTime ↔ time ≤ expiredTime := by
        simp [expired, found]
      rw [outdated]
      by_cases passed : time ≤ expiredTime
      · simp [Option.filter, passed]
      · simp [Option.filter, passed, Nat.lt_of_not_le passed]

end RouteView

/-- After any calls: no list is empty or has a key twice, routes and times are there for
the same keys, and an owner has a route. -/
theorem RouteTable.always_represented (defaultRtt : UInt32) (calls : List Call) :
    (calls.foldl (RouteTable.execute defaultRtt) RouteTable.new).view.Represented := by
  have fresh : RouteTable.new.view.Represented := by
    constructor
    · intro id list found; cases found
    · intro id list found; cases found
    · intro id key
      refine iff_of_false (fun found => found rfl) ?_
      rintro ⟨list, found, _⟩
      cases found
    · intro key id found; cases found
  apply RouteTable.serial_invariant RouteView.Represented defaultRtt
  · exact fun view now id key represented => represented.addOwnerRoute defaultRtt now id key
  · exact fun view now id route represented => represented.addRoute now id route
  · exact fun view id key represented => represented.removeRoute id key
  · exact fun view expiredTime represented => represented.removeOldestRoute expiredTime
  · exact fresh

end VntClient
