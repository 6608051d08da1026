import VntClient.Machine
import VntClient.RouteView

/-!
Concurrent calls on one route table. Each section under a lock is one step;
`add_route_if_absent` and `remove_oldest_route` consist of two. A removal takes
effect with its second section: until then a serial execution still holds the
times that its scan took out.
-/

namespace VntClient

inductive LockedSection where
  | addOwnerRoute (id : Ipv4Addr) (key : RouteKey)
  | addRoute (id : Ipv4Addr) (route : Route)
  | removeRoute (id : Ipv4Addr) (key : RouteKey)
  | checkAbsent (id : Ipv4Addr) (route : Route)
  | insertAbsent (index : Nat)
  | scanExpired (expiredTime : Instant)
  | deleteExpired (index : Nat)

/-- A section and the time that passed before it. -/
structure TableEvent where
  elapsed : Nat
  locked : LockedSection

/-- A removal between its two sections. -/
structure Removal where
  expiredTime : Instant
  keys : List (Ipv4Addr × RouteKey)

/-- The table, the clock and the calls that are between two sections. -/
structure SharedTable where
  table : RouteTable
  now : Instant
  inserts : List (Ipv4Addr × Route)
  removals : List Removal

namespace SharedTable

def new : SharedTable := ⟨RouteTable.new, 0, [], []⟩

/-- The calls that end with the section are put out. -/
def step (defaultRtt : UInt32) (shared : SharedTable) (event : TableEvent) :
    SharedTable × List Call :=
  let now := shared.now + event.elapsed
  let shared := { shared with now }
  match event.locked with
  | .addOwnerRoute id key =>
      ({ shared with table := shared.table.addOwnerRoute defaultRtt now id key },
        [.addOwnerRoute now id key])
  | .addRoute id route =>
      ({ shared with table := shared.table.addRoute now id route }, [.addRoute now id route])
  | .removeRoute id key =>
      ({ shared with table := shared.table.removeRoute id key }, [.removeRoute id key])
  | .checkAbsent id route =>
      if (shared.table.routeTable.lookup id).isSome then
        (shared, [.addRouteIfAbsent now id route])
      else ({ shared with inserts := shared.inserts ++ [(id, route)] }, [])
  | .insertAbsent index =>
      match shared.inserts[index]? with
      | none => (shared, [])
      | some (id, route) =>
          ({ shared with table := shared.table.addRoute now id route
                         inserts := shared.inserts.eraseIdx index },
            [.addRouteIfAbsent now id route])
  | .scanExpired expiredTime =>
      let scanned := shared.table.scanExpired expiredTime
      if scanned.1.isEmpty then
        ({ shared with table := scanned.2 }, [.removeOldestRoute expiredTime])
      else
        ({ shared with table := scanned.2
                       removals := shared.removals ++ [⟨expiredTime, scanned.1⟩] }, [])
  | .deleteExpired index =>
      match shared.removals[index]? with
      | none => (shared, [])
      | some removal =>
          ({ shared with table := shared.table.deleteExpired removal.keys
                         removals := shared.removals.eraseIdx index },
            [.removeOldestRoute removal.expiredTime])

/-- The peer is still absent when it is inserted; a scan looks back in time, and
finds nothing while another removal waits; nothing scanned was refreshed. -/
def Careful (shared : SharedTable) (event : TableEvent) : Prop :=
  match event.locked with
  | .insertAbsent index => ∀ id route, shared.inserts[index]? = some (id, route) →
      shared.table.routeTable.lookup id = none
  | .scanExpired expiredTime => expiredTime < shared.now + event.elapsed ∧
      (shared.removals = [] ∨ (shared.table.scanExpired expiredTime).1 = [])
  | .deleteExpired index => ∀ removal, shared.removals[index]? = some removal →
      ∀ key ∈ removal.keys, shared.table.routeKeyTime.lookup key = none
  | _ => True

end SharedTable

namespace RouteView

/-- Every route and every owner has a time, and no peer has an empty list. -/
structure Known (view : RouteView) : Prop where
  timed : ∀ id list, view.routes id = some list →
    list ≠ [] ∧ ∀ route ∈ list, view.time (id, route.routeKey) ≠ none
  owned : ∀ key id, view.owner key = some id → view.time (id, key) ≠ none

theorem Known.place {view : RouteView} (known : view.Known) {id : Ipv4Addr} {key : RouteKey}
    {now : Instant} {list : List Route} {owner : RouteKey → Option Ipv4Addr}
    (nonempty : list ≠ [])
    (grown : ∀ route ∈ list, route ∈ (view.routes id).getD [] ∨ route.routeKey = key)
    (owns : ∀ other, owner other = view.owner other ∨ other = key ∧ owner other = some id) :
    Known ⟨Function.update view.routes id (some list),
      Function.update view.time (id, key) (some now), owner⟩ := by
  have kept : ∀ other, view.time other ≠ none →
      Function.update view.time (id, key) (some now) other ≠ none := by
    intro other present
    by_cases same : other = (id, key)
    · simp [same]
    · rwa [Function.update_of_ne same]
  constructor
  · intro other list' found
    simp only at found ⊢
    by_cases same : other = id
    · subst same
      rw [Function.update_self] at found
      cases found
      refine ⟨nonempty, fun route member => ?_⟩
      rcases grown route member with old | new
      · apply kept
        cases held : view.routes other with
        | none => simp [held] at old
        | some list' =>
            simp only [held, Option.getD_some] at old
            exact (known.timed other list' held).2 route old
      · simp [new]
    · rw [Function.update_of_ne same] at found
      obtain ⟨nonempty', times⟩ := known.timed other list' found
      exact ⟨nonempty', fun route member => kept _ (times route member)⟩
  · intro other owned found
    simp only at found ⊢
    rcases owns other with same | ⟨rfl, mine⟩
    · exact kept _ (known.owned other owned (same ▸ found))
    · rw [mine] at found
      cases found
      simp

theorem Known.delete {view : RouteView} (known : view.Known) (keys : Set (Ipv4Addr × RouteKey))
    {time : Ipv4Addr × RouteKey → Option Instant}
    (kept : ∀ key ∉ keys, view.time key ≠ none → time key ≠ none) :
    Known { view.delete keys with time } := by
  classical
  constructor
  · intro id list found
    simp only [RouteView.delete] at found
    split at found
    · obtain ⟨before, here, rest⟩ := Option.bind_eq_some_iff.mp found
      obtain ⟨_, times⟩ := known.timed id before here
      unfold held at rest
      split at rest
      · cases rest
      · rename_i nonempty
        cases rest
        refine ⟨nonempty, fun route member => ?_⟩
        obtain ⟨old, spared⟩ := List.mem_filter.mp member
        exact kept _ (of_decide_eq_true spared) (times route old)
    · rename_i untouched
      obtain ⟨nonempty, times⟩ := known.timed id list found
      exact ⟨nonempty, fun route member =>
        kept _ (fun touched => untouched ⟨_, touched⟩) (times route member)⟩
  · intro key id found
    simp only [RouteView.delete] at found
    obtain ⟨owner, here, rest⟩ := Option.bind_eq_some_iff.mp found
    split at rest
    · cases rest
    · rename_i spared
      cases rest
      exact kept _ spared (known.owned key id here)

theorem Known.delete_routes {view : RouteView} (known : view.Known)
    (keys : Set (Ipv4Addr × RouteKey)) [DecidablePred (· ∈ keys)] (id : Ipv4Addr) :
    (view.delete keys).routes id = (view.routes id).bind fun list =>
      held (list.filter fun route => !decide ((id, route.routeKey) ∈ keys)) := by
  cases here : view.routes id with
  | none => simp [RouteView.delete, here]
  | some list =>
      simp only [RouteView.delete, here, Option.bind_some]
      split
      · congr 1
        apply List.filter_congr
        intro route _
        by_cases member : (id, route.routeKey) ∈ keys <;> simp [member]
      · rename_i untouched
        have all : list.filter (fun route => !decide ((id, route.routeKey) ∈ keys)) = list := by
          apply List.filter_eq_self.mpr
          intro route _
          simp [not_exists.mp untouched]
        rw [all, held, if_neg (known.timed id list here).1]

-- Only keys that have a time are in the table.
theorem Known.delete_congr {view : RouteView} (known : view.Known)
    {first second : Set (Ipv4Addr × RouteKey)}
    (same : ∀ key, view.time key ≠ none → (key ∈ first ↔ key ∈ second)) :
    view.delete first = view.delete second := by
  classical
  ext1
  · funext id
    rw [known.delete_routes first, known.delete_routes second]
    cases here : view.routes id with
    | none => rfl
    | some list =>
        simp only [Option.bind_some]
        congr 1
        apply List.filter_congr
        intro route member
        rw [decide_eq_decide.mpr (same _ ((known.timed id list here).2 route member))]
  · rfl
  · funext key
    simp only [RouteView.delete]
    cases here : view.owner key with
    | none => rfl
    | some id => simp only [Option.bind_some, same _ (known.owned key id here)]

theorem Known.addOwnerRoute {view : RouteView} (known : view.Known) (defaultRtt : UInt32)
    (now : Instant) (id : Ipv4Addr) (key : RouteKey) :
    (view.addOwnerRoute defaultRtt now id key).Known := by
  apply known.place
  · split
    · rename_i present
      intro empty
      rw [empty] at present
      cases present
    · simp
  · intro route member
    split at member
    · exact Or.inl member
    · rcases List.mem_append.mp member with old | new
      · exact Or.inl old
      · exact Or.inr (by rw [List.mem_singleton.mp new])
  · intro other
    by_cases same : other = key
    · exact Or.inr ⟨same, by rw [same, Function.update_self]⟩
    · exact Or.inl (Function.update_of_ne same _ _)

theorem Known.addRoute {view : RouteView} (known : view.Known) (now : Instant) (id : Ipv4Addr)
    (route : Route) : (view.addRoute now id route).Known := by
  unfold RouteView.addRoute
  split
  · exact known
  · apply known.place (RouteTable.placeRoute_ne_nil _ _)
    · intro held member
      exact (RouteTable.mem_placeRoute member).imp_right fun same => by rw [same]
    · intro other
      split
      · by_cases same : other = route.routeKey
        · exact Or.inr ⟨same, by rw [same, Function.update_self]⟩
        · exact Or.inl (Function.update_of_ne same _ _)
      · exact Or.inl rfl

theorem Known.removeOldestRoute {view : RouteView} (known : view.Known) (expiredTime : Instant) :
    (view.removeOldestRoute expiredTime).Known := by
  apply known.delete (view.expired expiredTime)
  intro key spared present
  cases found : view.time key with
  | none => exact absurd found present
  | some time =>
      have late : expiredTime < time :=
        Nat.lt_of_not_le fun passed => spared ⟨time, found, passed⟩
      change (view.time key).filter _ ≠ none
      simp [found, late]

theorem Known.removeRoute {view : RouteView} (known : view.Known) (id : Ipv4Addr)
    (key : RouteKey) : (view.removeRoute id key).Known := by
  apply known.delete {(id, key)}
  intro other spared present
  rwa [Function.update_of_ne spared]

end RouteView

theorem known_serial (defaultRtt : UInt32) (calls : List Call) :
    (calls.foldl (RouteTable.execute defaultRtt) RouteTable.new).view.Known := by
  apply RouteTable.serial_invariant RouteView.Known defaultRtt
  · exact fun view now id key known => known.addOwnerRoute defaultRtt now id key
  · exact fun view now id route known => known.addRoute now id route
  · exact fun view id key known => known.removeRoute id key
  · exact fun view expiredTime known => known.removeOldestRoute expiredTime
  · exact ⟨fun _ _ found => (by cases found), fun _ _ found => (by cases found)⟩

/-- The times of a serial execution: those of the table, and those a waiting
removal has scanned and nothing has replaced. -/
def Timed (time serial : Ipv4Addr × RouteKey → Option Instant) (removals : List Removal) : Prop :=
  ∀ key, serial key = time key ∨ time key = none ∧ ∃ removal ∈ removals, key ∈ removal.keys ∧
    ∃ scanned, serial key = some scanned ∧ scanned ≤ removal.expiredTime

theorem Timed.update {time serial : Ipv4Addr × RouteKey → Option Instant} {removals : List Removal}
    (timed : Timed time serial removals) (key : Ipv4Addr × RouteKey) (value : Option Instant) :
    Timed (Function.update time key value) (Function.update serial key value) removals := by
  intro other
  by_cases same : other = key
  · subst same
    left
    rw [Function.update_self, Function.update_self]
  · rw [Function.update_of_ne same, Function.update_of_ne same]
    exact timed other

/-- Every time of the table is later than what the removals look back to. -/
def Fresh (time : Ipv4Addr × RouteKey → Option Instant) (scans : List Instant) : Prop :=
  ∀ key held, time key = some held → ∀ expiredTime ∈ scans, expiredTime < held

theorem Fresh.update {time : Ipv4Addr × RouteKey → Option Instant} {scans : List Instant}
    (fresh : Fresh time scans) (key : Ipv4Addr × RouteKey) {value : Option Instant}
    (later : ∀ held, value = some held → ∀ expiredTime ∈ scans, expiredTime < held) :
    Fresh (Function.update time key value) scans := by
  intro other held found
  by_cases same : other = key
  · rw [same, Function.update_self] at found
    exact later held found
  · rw [Function.update_of_ne same] at found
    exact fresh other held found

/-- A removal that looks back to before every time changes nothing. -/
theorem RouteView.removeOldestRoute_fresh {view : RouteView} {expiredTime : Instant}
    (fresh : Fresh view.time [expiredTime]) : view.removeOldestRoute expiredTime = view := by
  have nothing : view.expired expiredTime = ∅ := by
    apply Set.eq_empty_of_forall_notMem
    rintro key ⟨held, found, passed⟩
    have late := fresh key held found expiredTime (by simp)
    exact Nat.not_le_of_lt late passed
  rw [RouteView.removeOldestRoute, nothing]
  ext1
  · simp [RouteView.delete, RouteView.retainTime]
  · funext key
    change (view.time key).filter _ = view.time key
    cases found : view.time key with
    | none => rfl
    | some held =>
        have late := fresh key held found expiredTime (by simp)
        simp [late]
  · simp [RouteView.delete, RouteView.retainTime]

/-- The shared table against the serial execution of the calls that took effect.
`later` are removals that found nothing while another one was waiting. -/
structure Simulates (shared : SharedTable) (serial : RouteView) (later : List Instant) : Prop where
  routes : serial.routes = shared.table.view.routes
  owner : serial.owner = shared.table.view.owner
  timed : Timed shared.table.view.time serial.time shared.removals
  fresh : Fresh shared.table.view.time (shared.removals.map Removal.expiredTime ++ later)
  past : ∀ expiredTime ∈ shared.removals.map Removal.expiredTime ++ later, expiredTime < shared.now
  single : shared.removals.length ≤ 1
  idle : shared.removals = [] → later = []

namespace Simulates
variable {shared : SharedTable} {serial : RouteView} {later : List Instant}

theorem advance (simulates : Simulates shared serial later) (elapsed : Nat) :
    Simulates { shared with now := shared.now + elapsed } serial later :=
  { simulates with past := fun expiredTime member =>
      Nat.lt_of_lt_of_le (simulates.past expiredTime member) (Nat.le_add_right _ _) }

theorem operate (simulates : Simulates shared serial later) {table : RouteTable} {view : RouteView}
    (key : Ipv4Addr × RouteKey) (value : Option Instant)
    (recent : ∀ held, value = some held → held = shared.now)
    (routes : view.routes = table.view.routes) (owner : view.owner = table.view.owner)
    (time : table.view.time = Function.update shared.table.view.time key value)
    (times : view.time = Function.update serial.time key value) :
    Simulates { shared with table } view later where
  routes := routes
  owner := owner
  timed := by
    simp only [time, times]
    exact simulates.timed.update key value
  fresh := by
    simp only [time]
    apply simulates.fresh.update key
    intro held eq expiredTime member
    rw [recent held eq]
    exact simulates.past expiredTime member
  past := simulates.past
  single := simulates.single
  idle := simulates.idle

theorem addOwnerRoute (simulates : Simulates shared serial later) (defaultRtt : UInt32)
    (id : Ipv4Addr) (key : RouteKey) :
    Simulates { shared with table := shared.table.addOwnerRoute defaultRtt shared.now id key }
      (serial.addOwnerRoute defaultRtt shared.now id key) later := by
  have view := shared.table.view_addOwnerRoute defaultRtt shared.now id key
  apply simulates.operate (id, key) (some shared.now)
  · intro held eq
    exact (Option.some.inj eq).symm
  · rw [view, RouteView.addOwnerRoute, RouteView.addOwnerRoute, simulates.routes]
  · rw [view, RouteView.addOwnerRoute, RouteView.addOwnerRoute, simulates.owner]
  · rw [view]
    rfl
  · rfl

theorem addRoute (simulates : Simulates shared serial later) (id : Ipv4Addr) (route : Route) :
    Simulates { shared with table := shared.table.addRoute shared.now id route }
      (serial.addRoute shared.now id route) later := by
  have view := shared.table.view_addRoute shared.now id route
  by_cases refused : (!route.isDirect && (serial.routes id).isNone) = true
  · have same : (!route.isDirect && (shared.table.view.routes id).isNone) = true := by
      rwa [simulates.routes] at refused
    have kept : shared.table.addRoute shared.now id route = shared.table := if_pos same
    rw [RouteView.addRoute, if_pos refused, kept]
    exact simulates
  · have same : ¬ (!route.isDirect && (shared.table.view.routes id).isNone) = true := by
      rwa [simulates.routes] at refused
    rw [RouteView.addRoute, if_neg same] at view
    rw [RouteView.addRoute, if_neg refused]
    apply simulates.operate (id, route.routeKey) (some shared.now)
    · intro held eq
      exact (Option.some.inj eq).symm
    · rw [view, simulates.routes]
    · rw [view, simulates.owner]
    · rw [view]
    · rfl

theorem removeRoute (simulates : Simulates shared serial later) (id : Ipv4Addr) (key : RouteKey) :
    Simulates { shared with table := shared.table.removeRoute id key }
      (serial.removeRoute id key) later := by
  have view := shared.table.view_removeRoute id key
  apply simulates.operate (id, key) none
  · intro held eq
    cases eq
  · rw [view, RouteView.removeRoute, RouteView.removeRoute, RouteView.delete, RouteView.delete,
      simulates.routes]
  · rw [view, RouteView.removeRoute, RouteView.removeRoute, RouteView.delete, RouteView.delete,
      simulates.owner]
  · rw [view]
    rfl
  · rfl

theorem scan (simulates : Simulates shared serial later) (idle : shared.removals = [])
    {expiredTime : Instant} (before : expiredTime < shared.now) :
    Simulates { shared with table := (shared.table.scanExpired expiredTime).2
                            removals := [⟨expiredTime, (shared.table.scanExpired expiredTime).1⟩] }
      serial later where
  routes := by rw [simulates.routes, RouteTable.view_scanExpired]; rfl
  owner := by rw [simulates.owner, RouteTable.view_scanExpired]; rfl
  timed key := by
    have same : serial.time key = shared.table.view.time key := by
      rcases simulates.timed key with same | ⟨_, removal, member, _⟩
      · exact same
      · rw [idle] at member
        cases member
    rw [RouteTable.view_scanExpired, same]
    cases found : shared.table.view.time key with
    | none => exact Or.inl (by simp [RouteView.retainTime, found])
    | some held =>
        by_cases passed : held ≤ expiredTime
        · refine Or.inr ⟨by simp [RouteView.retainTime, found, passed], _, List.mem_singleton_self _,
            ?_, held, rfl, passed⟩
          exact (shared.table.mem_scanExpired expiredTime key).mpr ⟨held, found, passed⟩
        · have late : expiredTime < held := Nat.lt_of_not_le passed
          have kept : (some held).filter (fun time => expiredTime < time) = some held := by
            simp [late]
          exact Or.inl (by simp only [RouteView.retainTime, found, kept])
  fresh key held found scan member := by
    rw [RouteTable.view_scanExpired] at found
    rw [simulates.idle idle, List.append_nil] at member
    obtain ⟨_, late⟩ := Option.filter_eq_some_iff.mp found
    rw [List.mem_singleton.mp member]
    exact of_decide_eq_true late
  past scan member := by
    rw [simulates.idle idle, List.append_nil] at member
    rw [List.mem_singleton.mp member]
    exact before
  single := Nat.le_refl 1
  idle none := by cases none

theorem scan_nothing {expiredTime : Instant}
    (nothing : (shared.table.scanExpired expiredTime).1 = []) :
    (shared.table.scanExpired expiredTime).2.view = shared.table.view ∧
      Fresh shared.table.view.time [expiredTime] := by
  have late : ∀ key held, shared.table.view.time key = some held → expiredTime < held := by
    intro key held found
    by_contra passed
    have member := (shared.table.mem_scanExpired expiredTime key).mpr
      ⟨held, found, Nat.le_of_not_lt passed⟩
    rw [nothing] at member
    cases member
  constructor
  · rw [RouteTable.view_scanExpired]
    ext1
    · rfl
    · funext key
      change (shared.table.view.time key).filter _ = _
      cases found : shared.table.view.time key with
      | none => rfl
      | some held => simp [late key held found]
    · rfl
  · intro key held found scan member
    rw [List.mem_singleton.mp member]
    exact late key held found

theorem of_view (simulates : Simulates shared serial later) (table : RouteTable)
    (same : table.view = shared.table.view) : Simulates { shared with table } serial later where
  routes := by rw [simulates.routes, same]
  owner := by rw [simulates.owner, same]
  timed := by simp only [same]; exact simulates.timed
  fresh := by simp only [same]; exact simulates.fresh
  past := simulates.past
  single := simulates.single
  idle := simulates.idle

/-- While a removal waits, one that finds nothing is put off until it is over. -/
theorem postpone (simulates : Simulates shared serial later) {expiredTime : Instant}
    (waiting : shared.removals ≠ []) (before : expiredTime < shared.now)
    (fresh : Fresh shared.table.view.time [expiredTime]) :
    Simulates shared serial (later ++ [expiredTime]) :=
  { simulates with
    fresh := by
      intro key held found scan member
      rw [← List.append_assoc] at member
      rcases List.mem_append.mp member with old | new
      · exact simulates.fresh key held found scan old
      · exact fresh key held found scan new
    past := by
      intro scan member
      rw [← List.append_assoc] at member
      rcases List.mem_append.mp member with old | new
      · exact simulates.past scan old
      · rw [List.mem_singleton.mp new]
        exact before
    idle := fun none => absurd none waiting }

theorem times (simulates : Simulates shared serial later) (idle : shared.removals = []) :
    serial.time = shared.table.view.time := by
  funext key
  rcases simulates.timed key with same | ⟨_, removal, member, _⟩
  · exact same
  · rw [idle] at member
    cases member

theorem view_eq (simulates : Simulates shared serial later) (idle : shared.removals = []) :
    shared.table.view = serial :=
  RouteView.ext simulates.routes.symm (simulates.times idle).symm simulates.owner.symm

/-- The deletion is the whole removal, done now: nothing it scanned came back. -/
theorem delete (simulates : Simulates shared serial later) (known : serial.Known)
    {removal : Removal} (only : shared.removals = [removal])
    (unrefreshed : ∀ key ∈ removal.keys, shared.table.view.time key = none) :
    Simulates { shared with table := shared.table.deleteExpired removal.keys, removals := [] }
      (serial.removeOldestRoute removal.expiredTime) [] := by
  have scanned : ∀ key, serial.time key = shared.table.view.time key ∨
      shared.table.view.time key = none ∧ key ∈ removal.keys ∧
        ∃ held, serial.time key = some held ∧ held ≤ removal.expiredTime := by
    intro key
    rcases simulates.timed key with same | ⟨gone, waiting, member, rest⟩
    · exact Or.inl same
    · rw [only] at member
      rw [List.mem_singleton.mp member] at rest
      exact Or.inr ⟨gone, rest⟩
  have late : ∀ key held, shared.table.view.time key = some held → removal.expiredTime < held := by
    intro key held found
    exact simulates.fresh key held found removal.expiredTime (by simp [only])
  -- What the serial table holds expired is what the scan took out.
  have same : ∀ key, serial.time key ≠ none →
      (key ∈ serial.expired removal.expiredTime ↔ key ∈ { key | key ∈ removal.keys }) := by
    intro key present
    rcases scanned key with same | ⟨_, member, held, found, passed⟩
    · constructor
      · rintro ⟨held, found, passed⟩
        exact absurd (late key held (same ▸ found)) (Nat.not_lt_of_le passed)
      · intro member
        exact absurd (same.trans (unrefreshed key member)) present
    · exact iff_of_true ⟨held, found, passed⟩ member
  have deleted := known.delete_congr same
  have view := shared.table.view_deleteExpired removal.keys
  have routes : (serial.removeOldestRoute removal.expiredTime).routes =
      (shared.table.view.delete { key | key ∈ removal.keys }).routes := by
    change (serial.delete (serial.expired removal.expiredTime)).routes = _
    rw [deleted, RouteView.delete, RouteView.delete, simulates.routes]
  have owner : (serial.removeOldestRoute removal.expiredTime).owner =
      (shared.table.view.delete { key | key ∈ removal.keys }).owner := by
    change (serial.delete (serial.expired removal.expiredTime)).owner = _
    rw [deleted, RouteView.delete, RouteView.delete, simulates.owner]
  have times : (serial.removeOldestRoute removal.expiredTime).time = shared.table.view.time := by
    funext key
    change (serial.time key).filter _ = _
    rcases scanned key with same | ⟨gone, _, held, found, passed⟩
    · rw [same]
      cases found : shared.table.view.time key with
      | none => rfl
      | some held => simp [late key held found]
    · rw [found, gone]
      simp [passed]
  exact
    { routes := by rw [view]; exact routes
      owner := by rw [view]; exact owner
      timed := fun key => Or.inl (by rw [view, times]; rfl)
      fresh := fun key held found scan member => (by cases member)
      past := fun scan member => (by cases member)
      single := Nat.zero_le 1
      idle := fun _ => rfl }

end Simulates

/-- The calls put out, in the order in which they took effect, lead to the table. -/
def Serialized (defaultRtt : UInt32) (shared : SharedTable) (calls : List Call) : Prop :=
  ∃ order later, (order ++ later.map Call.removeOldestRoute).Perm calls ∧
    Simulates shared (order.foldl (RouteTable.execute defaultRtt) RouteTable.new).view later

variable {defaultRtt : UInt32} {shared : SharedTable} {calls order : List Call}
  {later : List Instant}

theorem Serialized.call {call : Call}
    (perm : (order ++ later.map Call.removeOldestRoute).Perm calls)
    (simulates : Simulates shared ((order.foldl (RouteTable.execute defaultRtt)
      RouteTable.new).execute defaultRtt call).view later) :
    Serialized defaultRtt shared (calls ++ [call]) := by
  refine ⟨order ++ [call], later, ?_, by rwa [List.foldl_append]⟩
  have moved : (order ++ [call] ++ later.map Call.removeOldestRoute).Perm
      (order ++ later.map Call.removeOldestRoute ++ [call]) := by
    rw [List.append_assoc, List.append_assoc]
    exact (List.perm_append_comm).append_left order
  exact moved.trans (perm.append_right [call])

theorem serial_later (defaultRtt : UInt32) (later : List Instant) (table : RouteTable)
    (fresh : Fresh table.view.time later) :
    ((later.map Call.removeOldestRoute).foldl (RouteTable.execute defaultRtt) table).view =
      table.view := by
  induction later generalizing table with
  | nil => rfl
  | cons first rest ih =>
      have nothing : (table.execute defaultRtt (.removeOldestRoute first)).view = table.view := by
        rw [RouteTable.execute, RouteTable.view_removeOldestRoute]
        apply RouteView.removeOldestRoute_fresh
        intro key held found expiredTime member
        rw [List.mem_singleton.mp member]
        exact fresh key held found first List.mem_cons_self
      rw [List.map_cons, List.foldl_cons, ih, nothing]
      rw [nothing]
      exact fun key held found expiredTime member =>
        fresh key held found expiredTime (List.mem_cons_of_mem _ member)

theorem checkAbsent_serialized (elapsed : Nat) (id : Ipv4Addr) (route : Route)
    (serialized : Serialized defaultRtt shared calls) :
    Serialized defaultRtt (shared.step defaultRtt ⟨elapsed, .checkAbsent id route⟩).1
      (calls ++ (shared.step defaultRtt ⟨elapsed, .checkAbsent id route⟩).2) := by
  obtain ⟨order, later, perm, simulates⟩ := serialized
  have now := simulates.advance elapsed
  simp only [SharedTable.step]
  by_cases present : (shared.table.routeTable.lookup id).isSome = true
  · rw [if_pos present]
    apply Serialized.call perm
    have same : ((order.foldl (RouteTable.execute defaultRtt) RouteTable.new).view.routes
        id).isSome = true := by rw [simulates.routes]; exact present
    rw [RouteTable.execute, RouteTable.view_addRouteIfAbsent, RouteView.addRouteIfAbsent,
      if_pos same]
    exact now
  · rw [if_neg present, List.append_nil]
    exact ⟨order, later, perm, { now with }⟩

theorem insertAbsent_serialized (elapsed : Nat) (index : Nat)
    (serialized : Serialized defaultRtt shared calls)
    (careful : shared.Careful ⟨elapsed, .insertAbsent index⟩) :
    Serialized defaultRtt (shared.step defaultRtt ⟨elapsed, .insertAbsent index⟩).1
      (calls ++ (shared.step defaultRtt ⟨elapsed, .insertAbsent index⟩).2) := by
  obtain ⟨order, later, perm, simulates⟩ := serialized
  have now := simulates.advance elapsed
  simp only [SharedTable.step]
  cases found : shared.inserts[index]? with
  | none =>
      rw [List.append_nil]
      exact ⟨order, later, perm, now⟩
  | some waiting =>
      obtain ⟨id, route⟩ := waiting
      -- The peer is absent in the serial table too, so the whole call inserts there.
      have absent : shared.table.routeTable.lookup id = none := careful id route found
      have same : ((order.foldl (RouteTable.execute defaultRtt) RouteTable.new).view.routes
          id).isSome = false := by
        rw [simulates.routes]
        change (shared.table.routeTable.lookup id).isSome = false
        rw [absent]
        rfl
      apply Serialized.call perm
      rw [RouteTable.execute, RouteTable.view_addRouteIfAbsent, RouteView.addRouteIfAbsent,
        if_neg (Bool.eq_false_iff.mp same)]
      exact { now.addRoute id route with }

/-- A scan that finds nothing ends its call, which is put off while another removal waits. -/
theorem scanExpired_serialized (elapsed : Nat) (expiredTime : Instant)
    (serialized : Serialized defaultRtt shared calls)
    (careful : shared.Careful ⟨elapsed, .scanExpired expiredTime⟩) :
    Serialized defaultRtt (shared.step defaultRtt ⟨elapsed, .scanExpired expiredTime⟩).1
      (calls ++ (shared.step defaultRtt ⟨elapsed, .scanExpired expiredTime⟩).2) := by
  obtain ⟨order, later, perm, simulates⟩ := serialized
  have now := simulates.advance elapsed
  obtain ⟨before, idle⟩ := careful
  simp only at before idle
  simp only [SharedTable.step]
  by_cases nothing : (shared.table.scanExpired expiredTime).1.isEmpty = true
  · rw [if_pos nothing]
    obtain ⟨same, fresh⟩ := Simulates.scan_nothing (List.isEmpty_iff.mp nothing)
    have scanned := now.of_view (shared.table.scanExpired expiredTime).2 same
    by_cases waiting : shared.removals = []
    -- No time is held back, so the serial call finds nothing at once.
    · apply Serialized.call perm
      have times := simulates.times waiting
      rw [RouteTable.execute, RouteTable.view_removeOldestRoute,
        RouteView.removeOldestRoute_fresh (times ▸ fresh)]
      exact scanned
    · refine ⟨order, later ++ [expiredTime], ?_, scanned.postpone waiting before ?_⟩
      · rw [List.map_append, ← List.append_assoc]
        exact perm.append_right _
      · simp only [same]
        exact fresh
  · rw [if_neg nothing, List.append_nil]
    have waiting : shared.removals = [] :=
      idle.resolve_right fun empty => nothing (List.isEmpty_iff.mpr empty)
    have scanned := now.scan waiting before
    have none := simulates.idle waiting
    refine ⟨order, later, perm, ?_⟩
    rw [waiting]
    exact scanned

/-- A removal takes effect with its deletion, and the calls put off take theirs behind it. -/
theorem deleteExpired_serialized (elapsed : Nat) (index : Nat)
    (serialized : Serialized defaultRtt shared calls)
    (careful : shared.Careful ⟨elapsed, .deleteExpired index⟩) :
    Serialized defaultRtt (shared.step defaultRtt ⟨elapsed, .deleteExpired index⟩).1
      (calls ++ (shared.step defaultRtt ⟨elapsed, .deleteExpired index⟩).2) := by
  obtain ⟨order, later, perm, simulates⟩ := serialized
  have now := simulates.advance elapsed
  have known := known_serial defaultRtt order
  simp only [SharedTable.step]
  cases found : shared.removals[index]? with
  | none =>
      rw [List.append_nil]
      exact ⟨order, later, perm, now⟩
  | some removal =>
      -- A second removal would have found nothing and ended with its scan.
      have only : shared.removals = [removal] ∧ index = 0 := by
        obtain ⟨first, list⟩ := List.length_eq_one_iff.mp
          (Nat.le_antisymm simulates.single (List.length_pos_of_mem
            (List.mem_of_getElem? found)))
        rw [list] at found ⊢
        cases index with
        | zero => exact ⟨by cases found; rfl, rfl⟩
        | succ index => cases found
      obtain ⟨only, rfl⟩ := only
      have done := now.delete known only (careful removal found)
      have fresh : Fresh (((order.foldl (RouteTable.execute defaultRtt) RouteTable.new).execute
          defaultRtt (.removeOldestRoute removal.expiredTime)).view.time) later := by
        rw [RouteTable.execute, RouteTable.view_removeOldestRoute, done.times rfl]
        intro key held found scan member
        rw [RouteTable.view_deleteExpired] at found
        exact simulates.fresh key held found scan (List.mem_append_right _ member)
      have put := serial_later defaultRtt later _ fresh
      -- The order is what it was, this removal, then those put off.
      refine ⟨order ++ [.removeOldestRoute removal.expiredTime] ++
        later.map Call.removeOldestRoute, [], ?_, ?_⟩
      · have moved : (order ++ [Call.removeOldestRoute removal.expiredTime] ++
            later.map Call.removeOldestRoute).Perm
            (order ++ later.map Call.removeOldestRoute ++
              [.removeOldestRoute removal.expiredTime]) := by
          rw [List.append_assoc, List.append_assoc]
          exact List.perm_append_comm.append_left order
        simpa using moved.trans (perm.append_right _)
      · rw [List.foldl_append, List.foldl_append, List.foldl_cons, List.foldl_nil, put,
          RouteTable.execute, RouteTable.view_removeOldestRoute, only, List.eraseIdx_cons_zero]
        exact done

theorem step_serialized (event : TableEvent) (serialized : Serialized defaultRtt shared calls)
    (careful : shared.Careful event) :
    Serialized defaultRtt (shared.step defaultRtt event).1
      (calls ++ (shared.step defaultRtt event).2) := by
  obtain ⟨elapsed, locked⟩ := event
  cases locked with
  | addOwnerRoute id key =>
      obtain ⟨order, later, perm, simulates⟩ := serialized
      apply Serialized.call perm
      rw [RouteTable.execute, RouteTable.view_addOwnerRoute]
      exact (simulates.advance elapsed).addOwnerRoute defaultRtt id key
  | addRoute id route =>
      obtain ⟨order, later, perm, simulates⟩ := serialized
      apply Serialized.call perm
      rw [RouteTable.execute, RouteTable.view_addRoute]
      exact (simulates.advance elapsed).addRoute id route
  | removeRoute id key =>
      obtain ⟨order, later, perm, simulates⟩ := serialized
      apply Serialized.call perm
      rw [RouteTable.execute, RouteTable.view_removeRoute]
      exact (simulates.advance elapsed).removeRoute id key
  | checkAbsent id route => exact checkAbsent_serialized elapsed id route serialized
  | insertAbsent index => exact insertAbsent_serialized elapsed index serialized careful
  | scanExpired expiredTime => exact scanExpired_serialized elapsed expiredTime serialized careful
  | deleteExpired index => exact deleteExpired_serialized elapsed index serialized careful

theorem start_serialized (defaultRtt : UInt32) : Serialized defaultRtt SharedTable.new [] :=
  ⟨[], [], List.Perm.nil,
    { routes := rfl
      owner := rfl
      timed := fun _ => Or.inl rfl
      fresh := fun _ _ found => (by cases found)
      past := fun _ member => (by cases member)
      single := Nat.zero_le 1
      idle := fun _ => rfl }⟩

namespace SharedTable

/-- Expiry spares what was refreshed, and a Ping what was measured. -/
def Intact (defaultRtt : UInt32) (shared : SharedTable) (event : TableEvent) : Prop :=
  match event.locked with
  | .deleteExpired _ => ∀ id, ∀ route ∈ shared.table.routes id,
      (shared.table.routeKeyTime.lookup (id, route.routeKey)).isSome →
        route ∈ (shared.step defaultRtt event).1.table.routes id
  | .insertAbsent _ => ∀ id list, shared.table.routeTable.lookup id = some list →
      (shared.step defaultRtt event).1.table.routeTable.lookup id = some list
  | _ => True

theorem delete_spares {table : RouteTable} {keys : List (Ipv4Addr × RouteKey)} {id : Ipv4Addr}
    {route : Route} (member : route ∈ table.routes id) (spared : (id, route.routeKey) ∉ keys) :
    route ∈ (table.deleteExpired keys).routes id := by
  classical
  cases here : table.routeTable.lookup id with
  | none => simp [RouteTable.routes, here] at member
  | some list =>
      simp only [RouteTable.routes, here, Option.getD_some] at member
      have after := congrFun (congrArg RouteView.routes (table.view_deleteExpired keys)) id
      change (table.deleteExpired keys).routeTable.lookup id = _ at after
      have before : table.view.routes id = some list := here
      simp only [RouteTable.routes, after, RouteView.delete, before, Option.bind_some]
      split
      · rw [RouteView.held]
        split
        · rename_i empty
          have dropped := List.filter_eq_nil_iff.mp empty route member
          exact absurd (by simpa using dropped) spared
        · exact List.mem_filter.mpr ⟨member, by simpa using spared⟩
      · exact member

theorem careful_intact (defaultRtt : UInt32) (shared : SharedTable) (event : TableEvent)
    (careful : shared.Careful event) : shared.Intact defaultRtt event := by
  obtain ⟨elapsed, locked⟩ := event
  cases locked with
  | deleteExpired index =>
      intro id route member refreshed
      simp only [step]
      cases found : shared.removals[index]? with
      | none => exact member
      | some removal =>
          apply delete_spares member
          intro scanned
          rw [careful removal found _ scanned] at refreshed
          cases refreshed
  | insertAbsent index =>
      intro id list present
      simp only [step]
      cases found : shared.inserts[index]? with
      | none => exact present
      | some waiting =>
          obtain ⟨other, route⟩ := waiting
          have absent : shared.table.routeTable.lookup other = none := careful other route found
          have different : id ≠ other := by
            rintro rfl
            rw [absent] at present
            cases present
          simp only [RouteTable.addRoute]
          split
          · exact present
          · rwa [AList.lookup_insert_ne different]
  | _ => trivial

end SharedTable

/-- The calls of a run in some order, one after the other, give its table. -/
def Serializable (defaultRtt : UInt32) (events : List TableEvent) : Prop :=
  ∃ order : List Call,
    order.Perm (Machine.run (SharedTable.step defaultRtt) SharedTable.new events).2 ∧
    (Machine.run (SharedTable.step defaultRtt) SharedTable.new events).1.table.view =
      (order.foldl (RouteTable.execute defaultRtt) RouteTable.new).view

/-- A run whose steps are all careful spares what it has to, and its calls are
serializable when no removal is left half done. -/
theorem calls_serializable (defaultRtt : UInt32) (events : List TableEvent)
    (careful : Machine.Along (SharedTable.step defaultRtt) SharedTable.Careful SharedTable.new events)
    (finished : (Machine.run (SharedTable.step defaultRtt) SharedTable.new events).1.removals = []) :
    Machine.Along (SharedTable.step defaultRtt) (SharedTable.Intact defaultRtt) SharedTable.new
        events ∧ Serializable defaultRtt events := by
  constructor
  · exact Machine.along_of_invariant _ (fun _ => True) SharedTable.Careful _ events
      (fun shared event _ _ careful =>
        ⟨SharedTable.careful_intact defaultRtt shared event careful, trivial⟩) _ trivial careful
  · obtain ⟨order, later, perm, simulates⟩ := Machine.run_along (SharedTable.step defaultRtt)
      (Serialized defaultRtt) SharedTable.Careful
      (fun shared calls event serialized careful => step_serialized event serialized careful)
      events SharedTable.new [] (start_serialized defaultRtt) careful
    rw [simulates.idle finished, List.map_nil, List.append_nil] at perm
    exact ⟨order, perm, simulates.view_eq finished⟩

def sampleKey : RouteKey := ⟨0, ⟨.v4 0xC0A80002, 1⟩⟩

/-- A Pong of another peer between the check of a Ping and its insertion; then a Pong over a
new address and the check of a second Ping between the scan of both routes and the deletion. -/
def interleavedCalls : List TableEvent :=
  [⟨1, .checkAbsent 0x0A1A0002 ⟨sampleKey, 1, 1000⟩⟩,
    ⟨1, .addRoute 0x0A1A0004 ⟨⟨0, ⟨.v4 0xC0A80004, 1⟩⟩, 1, 7⟩⟩, ⟨1, .insertAbsent 0⟩,
    ⟨10, .scanExpired 5⟩, ⟨1, .addRoute 0x0A1A0004 ⟨⟨0, ⟨.v4 0xC0A80004, 2⟩⟩, 2, 9⟩⟩,
    ⟨0, .checkAbsent 0x0A1A0006 ⟨⟨0, ⟨.v4 0xC0A80006, 1⟩⟩, 1, 1000⟩⟩, ⟨1, .deleteExpired 0⟩,
    ⟨1, .insertAbsent 0⟩]

theorem interleaved_calls_serializable :
    Machine.Along (SharedTable.step 1000) SharedTable.Careful SharedTable.new interleavedCalls ∧
      Machine.Along (SharedTable.step 1000) (SharedTable.Intact 1000) SharedTable.new
        interleavedCalls ∧ Serializable 1000 interleavedCalls := by
  have careful : Machine.Along (SharedTable.step 1000) SharedTable.Careful SharedTable.new
      interleavedCalls := by
    refine ⟨trivial, trivial, fun id route found => ?_, ⟨by decide, Or.inl rfl⟩, trivial, trivial,
      fun removal found key member => ?_, fun id route found => ?_, trivial⟩
    · cases found
      rfl
    · cases found
      rcases List.mem_pair.mp member with rfl | rfl
      · rfl
      · rfl
    · cases found
      rfl
  exact ⟨careful, calls_serializable 1000 interleavedCalls careful rfl⟩

/-- A route that is scanned, refreshed by a Pong and deleted all the same. -/
def refreshedRoute : List TableEvent :=
  [⟨1, .addRoute 0x0A1A0002 ⟨sampleKey, 1, 7⟩⟩, ⟨10, .scanExpired 5⟩,
    ⟨1, .addRoute 0x0A1A0002 ⟨sampleKey, 1, 9⟩⟩, ⟨1, .deleteExpired 0⟩]

/-- A route that a Pong measures while a Ping finds the peer absent. -/
def measuredRoute : List TableEvent :=
  [⟨1, .checkAbsent 0x0A1A0002 ⟨sampleKey, 1, 1000⟩⟩, ⟨1, .addRoute 0x0A1A0002 ⟨sampleKey, 1, 7⟩⟩,
    ⟨1, .insertAbsent 0⟩]

theorem concurrent_calls_lose :
    ¬ Serializable 1000 refreshedRoute ∧ ¬ Serializable 1000 measuredRoute := by
  constructor
  · rintro ⟨order, perm, same⟩
    have serial : ∀ order ∈ (Machine.run (SharedTable.step 1000) SharedTable.new
        refreshedRoute).2.permutations',
        (order.foldl (RouteTable.execute 1000) RouteTable.new).routeTable.lookup 0x0A1A0002 = none →
          (order.foldl (RouteTable.execute 1000) RouteTable.new).routeKeyTime.lookup
            (0x0A1A0002, sampleKey) ≠ some 12 := by decide +kernel
    apply serial order (List.mem_permutations'.mpr perm)
    · exact (congrFun (congrArg RouteView.routes same) 0x0A1A0002).symm.trans (by decide +kernel)
    · exact (congrFun (congrArg RouteView.time same) (0x0A1A0002, sampleKey)).symm.trans
        (by decide +kernel)
  · rintro ⟨order, perm, same⟩
    have serial : ∀ order ∈ (Machine.run (SharedTable.step 1000) SharedTable.new
        measuredRoute).2.permutations',
        (order.foldl (RouteTable.execute 1000) RouteTable.new).routeTable.lookup 0x0A1A0002 ≠
          some [⟨sampleKey, 1, 1000⟩] := by decide +kernel
    apply serial order (List.mem_permutations'.mpr perm)
    exact (congrFun (congrArg RouteView.routes same) 0x0A1A0002).symm.trans (by decide +kernel)

end VntClient
