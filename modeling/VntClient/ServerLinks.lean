import VntClient.Node
import VntClient.ServerLink

/-!
The tasks of all servers in one task group: the one whose registration is answered otherwise
stops the group, and an aborted task ends where it waits next. Each runs as if it were alone,
and their registrations are rounds of `NetworkManager`, which ends when one of them ends its task.
-/

namespace VntClient

/-- An exchange with no request or with one. -/
def exchangeOf (registered : List RegRequestMsg × Except String ResponseMessage) : Exchange :=
  match registered with
  | ([], .error message) => .unreachable message
  | (_, answer) => .answered answer

theorem ServerTask.connectAndReg_exchange (task : ServerTask) (mode : RegistrationMode)
    (attempt : Attempt) (transport : TransportClient) :
    task.manager.connectAndReg mode (exchangeOf (task.connectAndReg mode attempt transport).2) =
      (task.connectAndReg mode attempt transport).2 := by
  obtain ⟨message, same⟩ | same := task.connectAndReg_requests mode attempt transport
  · rw [same]
    rfl
  · generalize (task.connectAndReg mode attempt transport).2 = registered at same ⊢
    obtain ⟨requests, answer⟩ := registered
    cases same
    rfl

/-- Whether the loop of a server goes on after an answer. -/
def goesOn (network : NetworkAddr) : Except String ResponseMessage → Bool
  | .error _ => true
  | .ok (.reg reg) => reg.unchanged network
  | .ok _ => false

theorem NetworkManager.step_running {network : NetworkManager} (running : network.running = true)
    {index : Nat} {manager : ServerTurnManager} (found : network.managers[index]? = some manager)
    (exchange : Exchange) :
    network.step ⟨index, exchange⟩ =
      let sent := manager.connectAndReg .normal exchange
      ({ network with running := goesOn network.network sent.2 }, sent.1) := by
  obtain ⟨managers, address, _⟩ := network
  cases running
  rw [step, if_pos rfl, found]
  dsimp only
  cases (manager.connectAndReg .normal exchange).2 with
  | error message => rfl
  | ok response =>
      cases response with
      | error | confirmReg => rfl
      | reg reg =>
          cases same : reg.unchanged address with
          | false | true => simp only [goesOn, same, Bool.false_eq_true, ↓reduceIte]

theorem NetworkManager.step_stopped {network : NetworkManager} (stopped : network.running = false)
    (round : Reconnect) : network.step round = (network, []) := by
  rw [step, stopped]
  rfl

theorem NetworkManager.run_stopped {network : NetworkManager} (stopped : network.running = false)
    (rounds : List Reconnect) : Machine.run step network rounds = (network, []) := by
  induction rounds with
  | nil => rfl
  | cons round rest ih => rw [Machine.run_cons, network.step_stopped stopped, ih, List.append_nil]

theorem NetworkManager.step_going {network : NetworkManager} (running : network.running = true)
    {round : Reconnect} (going : (network.step round).1.running = true) :
    (network.step round).1 = network := by
  obtain ⟨managers, address⟩ := network.step_managers round
  exact NetworkManager.mk.injEq .. ▸ ⟨managers, address, going.trans running.symm⟩

/-- Until it stops a manager sends what its rounds send, and nothing more afterwards. -/
theorem NetworkManager.run_prefix {network : NetworkManager} (running : network.running = true)
    (rounds : List Reconnect) :
    (Machine.run step network rounds).2 <+: rounds.flatMap (fun round => (network.step round).2) ∧
      ((Machine.run step network rounds).1.running = true →
        Machine.run step network rounds =
          (network, rounds.flatMap fun round => (network.step round).2)) := by
  induction rounds with
  | nil => exact ⟨List.prefix_rfl, fun _ => rfl⟩
  | cons round rest ih =>
      rw [Machine.run_cons, List.flatMap_cons]
      cases going : (network.step round).1.running with
      | false =>
          rw [run_stopped going, List.append_nil]
          refine ⟨List.prefix_append _ _, fun absurd => ?_⟩
          rw [going] at absurd
          cases absurd
      | true =>
          rw [step_going running going]
          refine ⟨(List.prefix_append_right_inj _).mpr ih.1, fun last => ?_⟩
          rw [ih.2 last]

namespace ServerLink

def requestOf : LinkNote → Option RegRequestMsg
  | .requested request => some request
  | _ => none

variable (task : ServerTask) (link : ServerLink)

theorem drain_requests : link.drain.filterMap requestOf = [] := by
  rw [drain, List.filterMap_map]
  exact List.filterMap_eq_nil_iff.mpr fun packet _ => rfl

theorem stop_requests (now : Int) : (link.stop now).2.filterMap requestOf = [] := by
  rw [stop, List.filterMap_append, drain_requests]
  rfl

theorem abort_requests : link.abort.2.filterMap requestOf = [] := by
  rw [abort, List.filterMap_append, drain_requests]
  rfl

/-- The exchange of a registration, if an event is one. -/
def exchangeAt : LinkEvent → Option Exchange
  | .attempt attempt _ =>
      if link.phase = .connecting then
        some (exchangeOf (task.connectAndReg .normal attempt link.transport).2)
      else none
  | _ => none

/-- What the registration of a link sends, and what answers end the task. -/
theorem reconnect_cases (attempt : Attempt) (now : Int) :
    (link.reconnect task attempt now).2.filterMap requestOf =
        (task.connectAndReg .normal attempt link.transport).2.1 ∧
      ((link.reconnect task attempt now).1.phase = .stopped ↔
        goesOn task.network (task.connectAndReg .normal attempt link.transport).2.2 = false) := by
  rw [reconnect]
  generalize task.connectAndReg .normal attempt link.transport = registered
  obtain ⟨transport, requests, answer⟩ := registered
  have sent : (requests.map LinkNote.requested).filterMap requestOf = requests := by
    rw [List.filterMap_map]
    exact List.filterMap_some
  have stopped := stop_requests { link with transport } now
  cases answer with
  | error message =>
      refine ⟨?_, by simp [goesOn]⟩
      rw [List.filterMap_append, sent]
      exact List.append_nil requests
  | ok response =>
      cases response with
      | error | confirmReg =>
          refine ⟨?_, by simp [goesOn, stop]⟩
          rw [List.filterMap_append, sent, stopped, List.append_nil]
      | reg reg =>
          by_cases same : reg.unchanged task.network
          · simp only [same, ↓reduceIte, List.filterMap_append, sent, goesOn]
            exact ⟨List.append_nil requests, by simp⟩
          · simp only [same, Bool.false_eq_true, ↓reduceIte, goesOn]
            refine ⟨?_, by simp [stop]⟩
            rw [List.filterMap_append, sent, stopped, List.append_nil]

theorem recv_going (now : Instant) (written : Bool) (going : link.phase ≠ .stopped) :
    (link.recv now written).1.phase ≠ .stopped ∧
      (link.recv now written).2.filterMap requestOf = [] := by
  rw [recv]
  split
  · exact ⟨going, rfl⟩
  · dsimp only
    split
    · exact ⟨going, rfl⟩
    · split
      · exact ⟨going, rfl⟩
      · exact ⟨Phase.noConfusion, rfl⟩

theorem next_going (clock : Clock) (reading : Reading) (state : NodeState) :
    (link.next task clock reading state).1.phase ≠ .stopped ∧
      (link.next task clock reading state).2.filterMap requestOf = [] := by
  rw [next]
  split
  · exact ⟨Phase.noConfusion, rfl⟩
  · dsimp only
    split
    · refine ⟨Phase.noConfusion, ?_⟩
      rw [List.filterMap_append, abort_requests]
      rfl
    · exact ⟨Phase.noConfusion, rfl⟩

theorem tick_going (time now : Int) (dataVersion : UInt64) (written : Bool)
    (going : link.phase ≠ .stopped) :
    (link.tick time now dataVersion written).1.phase ≠ .stopped ∧
      (link.tick time now dataVersion written).2.filterMap requestOf = [] := by
  rw [tick]
  split
  · exact ⟨Phase.noConfusion, rfl⟩
  · split
    · exact ⟨going, rfl⟩
    · exact ⟨Phase.noConfusion, rfl⟩

theorem looping_going {time : Int} (looping : link.phase = .looping time) :
    link.phase ≠ .stopped := by
  rw [looping]
  exact Phase.noConfusion

theorem step_cases (event : LinkEvent) :
    (∃ attempt now, event = .attempt attempt now ∧
      link.exchangeAt task event =
        some (exchangeOf (task.connectAndReg .normal attempt link.transport).2) ∧
      link.step task event = link.reconnect task attempt now ∧ link.phase ≠ .stopped) ∨
    link.exchangeAt task event = none ∧ (link.step task event).2.filterMap requestOf = [] ∧
      ((link.step task event).1.phase = .stopped ↔ link.phase = .stopped) := by
  cases event with
  | attempt attempt now =>
      by_cases connecting : link.phase = .connecting
      · refine .inl ⟨attempt, now, rfl, if_pos connecting, if_pos connecting, ?_⟩
        rw [connecting]
        exact Phase.noConfusion
      · refine .inr ⟨if_neg connecting, ?_⟩
        rw [step, if_neg connecting]
        exact ⟨rfl, Iff.rfl⟩
  | queue packet =>
      refine .inr ⟨rfl, ?_⟩
      rw [step, enqueue]
      split
      · exact ⟨rfl, Iff.rfl⟩
      · exact ⟨rfl, Iff.rfl⟩
  | recv now written =>
      refine .inr ⟨rfl, ?_⟩
      rw [step]
      split
      · rename_i time looping
        have going := link.looping_going looping
        obtain ⟨later, silent⟩ := link.recv_going now written going
        exact ⟨silent, iff_of_false later going⟩
      · exact ⟨rfl, Iff.rfl⟩
  | next clock reading state =>
      refine .inr ⟨rfl, ?_⟩
      rw [step]
      split
      · rename_i time looping
        obtain ⟨later, silent⟩ := next_going task link clock reading state
        exact ⟨silent, iff_of_false later (link.looping_going looping)⟩
      · exact ⟨rfl, Iff.rfl⟩
  | tick now dataVersion written =>
      refine .inr ⟨rfl, ?_⟩
      rw [step]
      split
      · rename_i time looping
        have going := link.looping_going looping
        obtain ⟨later, silent⟩ := link.tick_going time now dataVersion written going
        exact ⟨silent, iff_of_false later going⟩
      · exact ⟨rfl, Iff.rfl⟩
  | wake now =>
      refine .inr ⟨rfl, ?_⟩
      rw [step]
      split
      · rename_i sleeping
        refine ⟨rfl, iff_of_false Phase.noConfusion ?_⟩
        rw [sleeping]
        exact Phase.noConfusion
      · exact ⟨rfl, Iff.rfl⟩
  | abort =>
      refine .inr ⟨rfl, ?_⟩
      rw [step]
      split
      · exact ⟨rfl, Iff.rfl⟩
      · rename_i ended
        refine ⟨abort_requests link, iff_of_false Phase.noConfusion fun stopped => ended ?_⟩
        simp [ServerLink.ended, stopped]

end ServerLink

structure LinkTask where
  task : ServerTask
  link : ServerLink

/-- The tasks that `NetworkManager` spawns, numbered as their servers. -/
structure ServerLinks where
  links : List LinkTask
  stopping : Bool

inductive LinksEvent
  | link (index : Nat) (event : LinkEvent)
  | stop

namespace ServerLinks

/-- `TaskGroup::stop`, from outside or from a task that ends. Nothing is aborted before. -/
def step (group : ServerLinks) : LinksEvent → ServerLinks × List (Nat × LinkNote)
  | .stop => ({ group with stopping := true }, [])
  | .link index event =>
      match group.links[index]?, event, group.stopping with
      | none, _, _ => (group, [])
      | some _, .abort, false => (group, [])
      | some running, event, stopping =>
          let moved := running.link.step running.task event
          (⟨group.links.set index ⟨running.task, moved.1⟩,
              stopping || decide (moved.1.phase = .stopped)⟩,
            moved.2.map fun note => (index, note))

/-- The registration that an event is, as a round of the manager. -/
def roundOf (group : ServerLinks) : LinksEvent → Option Reconnect
  | .stop => none
  | .link index event =>
      (group.links[index]?.bind fun running => running.link.exchangeAt running.task event).map
        fun exchange => ⟨index, exchange⟩

/-- The registrations of a run, each with what the server made of it. -/
def rounds : ServerLinks → List LinksEvent → List Reconnect
  | _, [] => []
  | group, event :: rest => (group.roundOf event).toList ++ rounds (group.step event).1 rest

/-- A step of the group is one of its tasks', or none of them moves. -/
theorem step_cases (group : ServerLinks) (event : LinksEvent) :
    (event = .stop ∧ group.step event = ({ group with stopping := true }, [])) ∨
    (event ≠ .stop ∧ group.roundOf event = none ∧ group.step event = (group, [])) ∨
    ∃ index running inner, event = .link index inner ∧ group.links[index]? = some running ∧
      group.step event = (⟨group.links.set index
          ⟨running.task, (running.link.step running.task inner).1⟩,
        group.stopping || decide ((running.link.step running.task inner).1.phase = .stopped)⟩,
        (running.link.step running.task inner).2.map fun note => (index, note)) := by
  cases event with
  | stop => exact .inl ⟨rfl, rfl⟩
  | link index event =>
      refine .inr ?_
      simp only [step]
      split
      · rename_i none
        exact .inl ⟨LinksEvent.noConfusion, by rw [roundOf, none]; rfl, rfl⟩
      · rename_i running found _
        exact .inl ⟨LinksEvent.noConfusion, by rw [roundOf, found]; rfl, rfl⟩
      · rename_i inner _ _ _ running found _
        exact .inr ⟨index, running, inner, rfl, found, rfl⟩

def notedBy (index : Nat) (noted : Nat × LinkNote) : Option LinkNote :=
  if noted.1 = index then some noted.2 else none

theorem filterMap_notedBy (notes : List LinkNote) (index other : Nat) :
    (notes.map fun note => (other, note)).filterMap (notedBy index) =
      if other = index then notes else [] := by
  rw [List.filterMap_map]
  by_cases same : other = index
  · rw [if_pos same]
    exact (List.filterMap_congr fun note _ => by simp [notedBy, same]).trans List.filterMap_some
  · rw [if_neg same]
    exact List.filterMap_eq_nil_iff.mpr fun note _ => if_neg same

/-- Whatever the others do, a task runs as it would alone. -/
theorem run_alone (group : ServerLinks) (events : List LinksEvent) {index : Nat}
    {running : LinkTask} (found : group.links[index]? = some running) :
    ∃ own, (Machine.run step group events).1.links[index]? = some ⟨running.task,
        (Machine.run (ServerLink.step running.task) running.link own).1⟩ ∧
      (Machine.run step group events).2.filterMap (notedBy index) =
        (Machine.run (ServerLink.step running.task) running.link own).2 := by
  apply Machine.run_simulates step (ServerLink.step running.task)
    (fun group link => group.links[index]? = some ⟨running.task, link⟩)
  · intro group link event found
    obtain ⟨_, still⟩ | ⟨_, _, still⟩ | ⟨other, task, inner, _, there, moved⟩ :=
      step_cases group event
    · exact ⟨[], by rw [still]; exact found, by rw [still]; rfl⟩
    · exact ⟨[], by rw [still]; exact found, by rw [still]; rfl⟩
    · rw [moved]
      by_cases same : other = index
      · subst same
        cases found.symm.trans there
        obtain ⟨within, _⟩ := List.getElem?_eq_some_iff.mp there
        refine ⟨[inner], ?_, ?_⟩
        · simp [within]
        · rw [filterMap_notedBy, if_pos rfl, Machine.run_cons, Machine.run_nil, List.append_nil]
      · refine ⟨[], ?_, ?_⟩
        · simpa [List.getElem?_set_ne same] using found
        · rw [filterMap_notedBy, if_neg same, Machine.run_nil]
  · exact found

theorem managers_set {group : ServerLinks} {index : Nat} {running : LinkTask}
    (found : group.links[index]? = some running) (link : ServerLink) :
    (group.links.set index ⟨running.task, link⟩).map (fun running => running.task) =
      group.links.map fun running => running.task := by
  rw [List.map_set]
  obtain ⟨within, rfl⟩ := List.getElem?_eq_some_iff.mp found
  have bound : index < (group.links.map fun running => running.task).length := by simpa using within
  have same : group.links[index].task = (group.links.map fun running => running.task)[index] := by
    rw [List.getElem_map]
  rw [same, List.set_getElem_self]

/-- The managers of the tasks, while the group is running. -/
def networkManager (group : ServerLinks) (network : NetworkAddr) : NetworkManager :=
  ⟨group.links.map fun running => running.task.manager, network, true⟩

def requestOf (noted : Nat × LinkNote) : Option RegRequestMsg := ServerLink.requestOf noted.2

def Stopped (group : ServerLinks) : Prop :=
  ∃ running ∈ group.links, running.link.phase = .stopped

theorem stopped_set {links : List LinkTask} {index : Nat} {running : LinkTask} {link : ServerLink}
    (ends : Prop) (found : links[index]? = some running)
    (moved : link.phase = .stopped ↔ running.link.phase = .stopped ∨ ends) :
    (∃ one ∈ links.set index ⟨running.task, link⟩, one.link.phase = .stopped) ↔
      (∃ one ∈ links, one.link.phase = .stopped) ∨ ends := by
  obtain ⟨within, here⟩ := List.getElem?_eq_some_iff.mp found
  have now (stopped : link.phase = .stopped) :
      ∃ other ∈ links.set index ⟨running.task, link⟩, other.link.phase = .stopped :=
    ⟨_, List.mem_set within _, stopped⟩
  constructor
  · rintro ⟨other, member, stopped⟩
    rcases List.mem_or_eq_of_mem_set member with kept | same
    · exact .inl ⟨other, kept, stopped⟩
    · rw [same] at stopped
      exact (moved.mp stopped).imp_left fun before => ⟨running, List.mem_of_getElem? found, before⟩
  · rintro (⟨other, member, stopped⟩ | ends)
    · obtain ⟨place, there⟩ := List.mem_iff_getElem?.mp member
      by_cases same : index = place
      · rw [← same, found] at there
        rw [← Option.some.inj there] at stopped
        exact now (moved.mpr (.inl stopped))
      · exact ⟨other, List.mem_of_getElem? (by rw [List.getElem?_set_ne same, there]), stopped⟩
    · exact now (moved.mpr (.inr ends))

theorem step_tasks (group : ServerLinks) (event : LinksEvent) :
    (group.step event).1.links.map (fun running => running.task) =
      group.links.map fun running => running.task := by
  obtain ⟨_, still⟩ | ⟨_, _, still⟩ | ⟨index, running, inner, _, found, moved⟩ :=
    step_cases group event
  · rw [still]
  · rw [still]
  · rw [moved, managers_set found]

section Shared
variable {network : NetworkAddr}

theorem networkManager_step (group : ServerLinks) (event : LinksEvent) :
    (group.step event).1.networkManager network = group.networkManager network := by
  have same := congrArg (List.map ServerTask.manager) (step_tasks group event)
  rw [List.map_map, List.map_map] at same
  exact congrArg (NetworkManager.mk · network true) same

theorem shared_step {group : ServerLinks}
    (shared : ∀ running ∈ group.links, running.task.network = network) (event : LinksEvent) :
    ∀ running ∈ (group.step event).1.links, running.task.network = network := by
  intro running member
  have there : running.task ∈ group.links.map fun running => running.task :=
    step_tasks group event ▸ List.mem_map_of_mem member
  obtain ⟨other, known, same⟩ := List.mem_map.mp there
  exact same ▸ shared other known

/-- A step sends what its round sends, and a task ends where its round ends the manager. -/
theorem step_refines {group : ServerLinks}
    (shared : ∀ running ∈ group.links, running.task.network = network) (event : LinksEvent) :
    (group.step event).2.filterMap requestOf = (group.roundOf event).toList.flatMap
        (fun round => ((group.networkManager network).step round).2) ∧
      ((group.step event).1.Stopped ↔ group.Stopped ∨ ∃ round ∈ group.roundOf event,
        ((group.networkManager network).step round).1.running = false) := by
  obtain ⟨rfl, still⟩ | ⟨_, none, still⟩ | ⟨index, running, inner, rfl, found, moved⟩ :=
    step_cases group event
  · rw [still]
    exact ⟨rfl, by simp [Stopped, roundOf]⟩
  · rw [still, none]
    exact ⟨rfl, by simp⟩
  · have requests : ((running.link.step running.task inner).2.map fun note =>
        (index, note)).filterMap requestOf =
        (running.link.step running.task inner).2.filterMap ServerLink.requestOf :=
      List.filterMap_map
    rw [moved, requests, roundOf, found, Option.bind_some]
    obtain ⟨attempt, now, rfl, exchange, tried, going⟩ | ⟨none, silent, same⟩ :=
      running.link.step_cases running.task inner
    · obtain ⟨sent, ends⟩ := running.link.reconnect_cases running.task attempt now
      have manager : (group.networkManager network).managers[index]? = some running.task.manager := by
        rw [networkManager, List.getElem?_map, found]
        rfl
      have round := NetworkManager.step_running rfl manager
        (exchangeOf (running.task.connectAndReg .normal attempt running.link.transport).2)
      rw [running.task.connectAndReg_exchange] at round
      rw [exchange, tried, Option.map_some]
      constructor
      · rw [Option.toList_some, List.flatMap_singleton, round, sent]
      · rw [shared running (List.mem_of_getElem? found)] at ends
        refine (stopped_set _ found (ends.trans (or_iff_right going).symm)).trans
          (or_congr_right ?_)
        simp only [Option.mem_def, Option.some.injEq, exists_eq_left', round]
        rfl
    · rw [none]
      refine ⟨silent, ?_⟩
      simpa [Stopped] using stopped_set False found (same.trans (or_false _).symm.to_iff)

/-- The group stops when it is told to and when a task of it ends. -/
theorem step_stopping {group : ServerLinks} (stops : group.Stopped → group.stopping = true)
    (event : LinksEvent) :
    (group.step event).1.stopping = true ↔
      group.stopping = true ∨ event = .stop ∨ (group.step event).1.Stopped := by
  obtain ⟨rfl, still⟩ | ⟨other, _, still⟩ | ⟨index, running, inner, rfl, found, moved⟩ :=
    step_cases group event
  · rw [still]
    simp
  · rw [still]
    simpa [other] using stops
  · obtain ⟨within, _⟩ := List.getElem?_eq_some_iff.mp found
    rw [moved]
    simp only [Bool.or_eq_true, decide_eq_true_eq, reduceCtorEq, false_or]
    constructor
    · rintro (before | ended)
      · exact .inl before
      · exact .inr ⟨_, List.mem_set within _, ended⟩
    · rintro (before | ⟨one, member, ended⟩)
      · exact .inl before
      · rcases List.mem_or_eq_of_mem_set member with kept | same
        · exact .inl (stops ⟨one, kept, ended⟩)
        · rw [same] at ended
          exact .inr ended

/-- What a run sends, what ends its tasks, and what stops it. -/
theorem run_refines (events : List LinksEvent) {group : ServerLinks}
    (shared : ∀ running ∈ group.links, running.task.network = network)
    (stops : group.Stopped → group.stopping = true) :
    (Machine.run step group events).2.filterMap requestOf = (group.rounds events).flatMap
        (fun round => ((group.networkManager network).step round).2) ∧
      ((Machine.run step group events).1.Stopped ↔ group.Stopped ∨
        (Machine.run NetworkManager.step (group.networkManager network)
          (group.rounds events)).1.running = false) ∧
      ((Machine.run step group events).1.stopping = true ↔
        group.stopping = true ∨ .stop ∈ events ∨ (Machine.run step group events).1.Stopped) := by
  induction events generalizing group with
  | nil => exact ⟨rfl, by simp [networkManager, rounds], by simpa using stops⟩
  | cons event rest ih =>
      obtain ⟨sent, ended⟩ := step_refines shared event
      have stopping := step_stopping stops event
      obtain ⟨later, ends, told⟩ := ih (shared_step shared event)
        fun stopped => stopping.mpr (.inr (.inr stopped))
      rw [networkManager_step] at later ends
      rw [Machine.run_cons, rounds, List.filterMap_append, List.flatMap_append, sent, later,
        Machine.run_append]
      refine ⟨rfl, ?_, ?_⟩
      · rw [ends, ended, or_assoc]
        refine or_congr_right ?_
        cases group.roundOf event with
        | none => simp
        | some round =>
            rw [Option.toList_some, Machine.run_cons, Machine.run_nil]
            cases going : ((group.networkManager network).step round).1.running with
            | false => simp [NetworkManager.run_stopped going, going]
            | true =>
                have runs : (group.networkManager network).running = true := rfl
                simp [NetworkManager.step_going runs going, runs]
      · have lasts : (group.step event).1.Stopped →
            (Machine.run step (group.step event).1 rest).1.Stopped :=
          fun stopped => ends.mpr (.inl stopped)
        refine told.trans ?_
        rw [stopping, List.mem_cons, eq_comm (a := event)]
        constructor
        · rintro ((before | told | early) | told | late)
          · exact .inl before
          · exact .inr (.inl (.inl told))
          · exact .inr (.inr (lasts early))
          · exact .inr (.inl (.inr told))
          · exact .inr (.inr late)
        · rintro (before | (told | told) | late)
          · exact .inl (.inl before)
          · exact .inl (.inr (.inl told))
          · exact .inr (.inl told)
          · exact .inr (.inr late)

/-- The registrations of the tasks are rounds of `NetworkManager`. Each sends what its round
sends; the manager ends exactly where a task ends on account of an answer, which stops the
group; and until then the requests are those of the manager, of which a task that is not yet
aborted may add more afterwards. -/
theorem requests_refine {group : ServerLinks}
    (shared : ∀ running ∈ group.links, running.task.network = network)
    (going : ¬ group.Stopped) (started : group.stopping = false) (events : List LinksEvent) :
    let manager := group.networkManager network
    let final := Machine.run step group events
    let managed := Machine.run NetworkManager.step manager (group.rounds events)
    final.2.filterMap requestOf =
        (group.rounds events).flatMap (fun round => (manager.step round).2) ∧
      managed.2 <+: final.2.filterMap requestOf ∧
      (managed.1.running = true → managed = (manager, final.2.filterMap requestOf)) ∧
      (managed.1.running = false ↔ final.1.Stopped) ∧
      (final.1.stopping = true ↔ .stop ∈ events ∨ managed.1.running = false) := by
  obtain ⟨sent, ends, told⟩ := run_refines events shared fun stopped => absurd stopped going
  have running : (group.networkManager network).running = true := rfl
  obtain ⟨early, whole⟩ := NetworkManager.run_prefix running (group.rounds events)
  rw [or_iff_right going] at ends
  simp only [started, Bool.false_eq_true, false_or] at told
  refine ⟨sent, ?_, ?_, ends.symm, ?_⟩
  · rw [sent]
    exact early
  · rw [sent]
    exact whole
  · rw [told, ends]

end Shared

/-- Whatever the servers, the network and the other tasks do: a task serves its channel in order,
every packet once and none after its time; it uses only connections it has registered, and keeps
none that is silent. -/
theorem run_lawful {group : ServerLinks} {index : Nat} {task : ServerTask}
    {transport : TransportClient} {now : Int} {info : LinkInfo}
    (found : group.links[index]? = some ⟨task, .start transport now info⟩)
    (framed : transport.framed = true) (events : List LinksEvent) :
    ∃ link, (Machine.run step group events).1.links[index]? = some ⟨task, link⟩ ∧
      link.Lawful
        (.connected now :: (Machine.run step group events).2.filterMap (notedBy index)) ∧
      Chronicle (LinkNote.Fits task)
        (.connected now :: (Machine.run step group events).2.filterMap (notedBy index)) := by
  obtain ⟨own, alone, notes⟩ := run_alone group events found
  rw [notes]
  exact ⟨_, alone, ServerLink.run_kept task transport framed now info own⟩

def sampleTask : ServerTask :=
  ⟨⟨0, sampleConfig.toConnectConfig⟩, ⟨.tlsTcp, "10.0.0.1:29872"⟩,
    RustText.unicodeCase (fun _ => true) (fun _ => false), .plain sampleNetwork, sampleNetwork⟩

def sampleLinks : ServerLinks :=
  ⟨[⟨sampleTask, .start (.tlsTcp true) 7 ⟨false, none, none, none⟩⟩], false⟩

def sampleRun : List LinksEvent :=
  [.link 0 (.queue ⟨[1], 9⟩), .link 0 (.recv 8 true), .link 0 (.tick 20008 0 true),
    .link 0 (.wake 21008), .link 0 (.attempt ⟨.ok none, .ok (), some (.ok ()), true, none⟩ 21009)]

def sampleRefused : List LinksEvent :=
  sampleRun ++ [.link 0 (.wake 26009), .link 0 (.attempt ⟨.ok none, .ok (), some (.ok ()), true,
    some (.data (ResponseMessage.error ⟨1, "full"⟩).encode)⟩ 26010)]

theorem sample_requests_refine :
    (Machine.run step sampleLinks sampleRefused).2.filterMap requestOf =
        [sampleTask.request .normal, sampleTask.request .normal] ∧
      ((Machine.run NetworkManager.step (sampleLinks.networkManager sampleNetwork)
          (sampleLinks.rounds sampleRefused)).1.running = false ↔
        (Machine.run step sampleLinks sampleRefused).1.Stopped) ∧
      (Machine.run step sampleLinks sampleRefused).1.Stopped := by
  have shared : ∀ running ∈ sampleLinks.links, running.task.network = sampleNetwork := by
    intro running member
    cases List.mem_singleton.mp member
    rfl
  have going : ¬ sampleLinks.Stopped := by
    rintro ⟨running, member, stopped⟩
    cases List.mem_singleton.mp member
    cases stopped
  obtain ⟨_, _, _, ends, _⟩ := requests_refine shared going rfl sampleRefused
  exact ⟨rfl, ends, _, List.mem_singleton_self _, rfl⟩

theorem sample_run_lawful :
    ∃ link, (Machine.run step sampleLinks sampleRun).1.links[0]? = some ⟨sampleTask, link⟩ ∧
      link.Lawful
        (.connected 7 :: (Machine.run step sampleLinks sampleRun).2.filterMap (notedBy 0)) ∧
      Chronicle (LinkNote.Fits sampleTask)
        (.connected 7 :: (Machine.run step sampleLinks sampleRun).2.filterMap (notedBy 0)) :=
  run_lawful rfl rfl sampleRun

end ServerLinks
end VntClient
