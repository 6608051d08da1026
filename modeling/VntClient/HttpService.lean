import VntClient.Machine

/-!
The HTTP service: one status, one stored handler and one task group, shared by all
requests. A start request goes on as a start attempt and leaves a second task behind
that waits for its network to end. What one task does under one lock, or between two
awaits, is one step; tasks interleave freely between steps. A guard is dropped where
the task that holds it ends, and an await that fails or is cancelled ends it alike.
-/

namespace VntClient

inductive VntStatus
  | stopped
  | starting
  | running
deriving DecidableEq

inductive HttpTask
  -- stop_vnt_handler
  | stop
  | stopGroup
  -- restart_vnt_handler
  | restart
  | restartStop
  | restartWait (left : Nat)
  -- start_vnt_internal, holding on_error_guard once it has begun
  | start
  | readConfig (attempt : Nat)
  | createTask (attempt : Nat)
  -- start_vnt_network, holding task_group_guard and then vnt_cleanup_guard as well
  | createNetwork (attempt : Nat)
  | storeHandler (attempt : Nat)
  | register (attempt : Nat)
  | startingToRunning (attempt : Nat)
  | spawnMonitor (attempt : Nat)
  | recordCurrent (attempt : Nat)
  -- the group has stopped and drops the waiting task with its guards unstarted
  | dropRefused (attempt : Nat)
  | cleanupRefused (attempt : Nat)
  -- start_vnt_network has failed
  | cleanupFailed (attempt : Nat)
  | dropFailed (attempt : Nat)
  | recordStopped (attempt : Nat)
  | dropOnError (attempt : Nat)
  -- the waiting task, which holds the other two guards
  | monitor (attempt : Nat)
  | cleanupMonitor (attempt : Nat)
  | finished
deriving DecidableEq

/-- A start attempt is known by its number: `vnt` and `taskGroup` name the attempt
they come from. The code does not keep the last two fields: how many attempts have
begun, and which of them set the status last. -/
structure HttpAppState where
  vnt : Option Nat
  status : VntStatus
  taskGroup : Option Nat
  stoppedGroups : List Nat
  tasks : List HttpTask
  attempts : Nat
  setBy : Nat

namespace HttpAppState

def new : HttpAppState := ⟨none, .stopped, none, [], [], 0, 0⟩

def starting (state : HttpAppState) : Option HttpAppState :=
  if state.status ≠ .stopped then none
  else if state.vnt.isSome then none
  else some { state with
    status := .starting, attempts := state.attempts + 1, setBy := state.attempts + 1 }

def stopped (attempt : Nat) (state : HttpAppState) : HttpAppState :=
  { state with vnt := none, status := .stopped, setBy := attempt }

def startingToStopped (attempt : Nat) (state : HttpAppState) : HttpAppState :=
  if state.status ≠ .starting then state
  else { state with vnt := none, status := .stopped, setBy := attempt }

def startingToRunning (attempt : Nat) (state : HttpAppState) : HttpAppState :=
  if state.status ≠ .starting then state
  else { state with status := .running, setBy := attempt }

/-- It leaves the handler where it is. -/
def recordLogAndStopped (attempt : Nat) (state : HttpAppState) : HttpAppState :=
  if state.status ≠ .starting then state
  else { state with status := .stopped, setBy := attempt }

/-- `TaskGroupManager::stop`: the group stays. -/
def stopGroup (state : HttpAppState) : HttpAppState :=
  match state.taskGroup with
  | none => state
  | some group => { state with stoppedGroups := group :: state.stoppedGroups }

/-- `TaskGroupGuard::drop`, whichever group is there. -/
def dropGroup (state : HttpAppState) : HttpAppState :=
  { state.stopGroup with taskGroup := none }

def proceed (state : HttpAppState) (index : Nat) (next : HttpTask) : HttpAppState :=
  { state with tasks := state.tasks.set index next }

def advance (state : HttpAppState) (index : Nat) (ok : Bool) : HttpTask → HttpAppState
  | .stop => state.proceed index (if state.status = .stopped then .finished else .stopGroup)
  | .stopGroup => state.stopGroup.proceed index .finished
  | .restart => state.proceed index (if state.status = .stopped then .start else .restartStop)
  | .restartStop => state.stopGroup.proceed index (.restartWait 50)
  | .restartWait 0 => state.proceed index .start
  | .restartWait (left + 1) => state.proceed index
      (if state.status = .stopped then .start else if ok then .restartWait left else .finished)
  | .start =>
      match state.starting with
      | none => state.proceed index .finished
      | some begun => begun.proceed index (.readConfig begun.attempts)
  | .readConfig attempt =>
      state.proceed index (if ok then .createTask attempt else .dropOnError attempt)
  | .createTask attempt =>
      match state.taskGroup with
      | some _ => state.proceed index (.dropOnError attempt)
      | none => { state with taskGroup := some attempt }.proceed index (.createNetwork attempt)
  | .createNetwork attempt =>
      state.proceed index (if ok then .storeHandler attempt else .dropFailed attempt)
  | .storeHandler attempt =>
      match state.vnt with
      | some _ => state.proceed index (.dropFailed attempt)
      | none => { state with vnt := some attempt }.proceed index (.register attempt)
  | .register attempt =>
      state.proceed index (if ok then .startingToRunning attempt else .cleanupFailed attempt)
  | .startingToRunning attempt =>
      (state.startingToRunning attempt).proceed index (.spawnMonitor attempt)
  | .spawnMonitor attempt =>
      if attempt ∈ state.stoppedGroups then state.proceed index (.dropRefused attempt)
      else { state with tasks := state.tasks.set index (.recordCurrent attempt) ++ [.monitor attempt] }
  | .recordCurrent attempt => state.proceed index (.dropOnError attempt)
  | .dropRefused attempt => state.dropGroup.proceed index (.cleanupRefused attempt)
  | .cleanupRefused attempt => (state.stopped attempt).proceed index (.recordCurrent attempt)
  | .cleanupFailed attempt => (state.stopped attempt).proceed index (.dropFailed attempt)
  -- The network manager stops its own group, which the guard takes next.
  | .dropFailed attempt => state.dropGroup.proceed index (.recordStopped attempt)
  | .recordStopped attempt =>
      (state.recordLogAndStopped attempt).proceed index (.dropOnError attempt)
  | .dropOnError attempt => (state.startingToStopped attempt).proceed index .finished
  -- A stopped group aborts its tasks, and each drops what it holds.
  | .monitor attempt =>
      if attempt ∈ state.stoppedGroups then
        state.dropGroup.proceed index (.cleanupMonitor attempt)
      else state
  | .cleanupMonitor attempt => (state.stopped attempt).proceed index .finished
  | .finished => state

end HttpAppState

/-- A request whose file name has been found valid and present. -/
inductive HttpRequest
  | start
  | stop
  | restart

def HttpRequest.task : HttpRequest → HttpTask
  | .start => .start
  | .stop => .stop
  | .restart => .restart

inductive HttpEvent
  | arrive (request : HttpRequest)
  | advance (index : Nat) (ok : Bool)
  /-- The last task of a group ends by itself. -/
  | tasksEnd (group : Nat)
  /-- A task of a network stops the group it is in. -/
  | taskStops (group : Nat)

namespace HttpAppState

def step (state : HttpAppState) : HttpEvent → HttpAppState × List Empty
  | .arrive request => ({ state with tasks := state.tasks ++ [request.task] }, [])
  | .advance index ok =>
      match state.tasks[index]? with
      | none => (state, [])
      | some task => (state.advance index ok task, [])
  | .tasksEnd group =>
      -- The waiting task is one of them.
      (if .monitor group ∈ state.tasks then state
        else { state with stoppedGroups := group :: state.stoppedGroups }, [])
  | .taskStops group => ({ state with stoppedGroups := group :: state.stoppedGroups }, [])

end HttpAppState

def HttpTask.attempt : HttpTask → Option Nat
  | .stop | .stopGroup | .restart | .restartStop | .restartWait _ | .start | .finished => none
  | .readConfig attempt | .createTask attempt | .createNetwork attempt | .storeHandler attempt
  | .register attempt | .startingToRunning attempt | .spawnMonitor attempt
  | .recordCurrent attempt | .dropRefused attempt | .cleanupRefused attempt
  | .cleanupFailed attempt | .dropFailed attempt | .recordStopped attempt | .dropOnError attempt
  | .monitor attempt | .cleanupMonitor attempt => some attempt

namespace HttpAppState

/-- Nothing is stored while the status is `Stopped`. -/
def Matches (state : HttpAppState) : Prop := state.status = .stopped → state.vnt = none

/-- The status and the handler that a later attempt has set are what they were. -/
def Leaves (attempt : Nat) (before after : HttpAppState) : Prop :=
  (attempt < before.setBy → after.status = before.status) ∧
    ∀ later, before.vnt = some later → attempt < later → after.vnt = some later

def Respects (state : HttpAppState) (event : HttpEvent) : Prop :=
  ∀ index ok task attempt, event = .advance index ok → state.tasks[index]? = some task →
    task.attempt = some attempt → Leaves attempt state (state.step event).1

/-- An attempt that records a failure, or drops its `on_error_guard`, finds no
later attempt starting. -/
def Careful (state : HttpAppState) : HttpEvent → Prop
  | .advance index _ => ∀ attempt, state.tasks[index]? = some (.recordStopped attempt) ∨
      state.tasks[index]? = some (.dropOnError attempt) →
        state.status = .starting → state.attempts = attempt
  | _ => True

end HttpAppState

/-- What an attempt that is under way has made of the status and the handler. -/
structure Claim where
  attempt : Nat
  status : VntStatus
  vnt : Option Nat

def HttpTask.claim : HttpTask → Option Claim
  | .readConfig attempt | .createTask attempt | .createNetwork attempt
  | .storeHandler attempt => some ⟨attempt, .starting, none⟩
  | .register attempt | .startingToRunning attempt
  | .cleanupFailed attempt => some ⟨attempt, .starting, some attempt⟩
  | .spawnMonitor attempt | .dropRefused attempt | .cleanupRefused attempt | .monitor attempt
  | .cleanupMonitor attempt => some ⟨attempt, .running, some attempt⟩
  | _ => none

/-- The attempt of a task, the waiting task left out. -/
def HttpTask.starter : HttpTask → Option Nat
  | .monitor _ | .cleanupMonitor _ => none
  | task => task.attempt

theorem HttpTask.claim_attempt {task : HttpTask} {claim : Claim} (claimed : task.claim = some claim) :
    task.attempt = some claim.attempt ∧ claim.status ≠ .stopped ∧
      (claim.vnt = none ∨ claim.vnt = some claim.attempt) := by
  cases task <;> simp only [HttpTask.claim, Option.some.injEq, reduceCtorEq] at claimed <;>
    subst claimed <;> simp [HttpTask.attempt]

theorem HttpTask.starter_attempt {task : HttpTask} {attempt : Nat}
    (starter : task.starter = some attempt) : task.attempt = some attempt := by
  cases task <;> first | exact starter | cases starter

theorem filterMap_around {Entry Value : Type} (read : Entry → Option Value) {list : List Entry}
    {index : Nat} {entry : Entry} (found : list[index]? = some entry) :
    ∃ before after, list.filterMap read = before ++ (read entry).toList ++ after ∧
      ∀ next, (list.set index next).filterMap read = before ++ (read next).toList ++ after := by
  obtain ⟨inside, here⟩ := List.getElem?_eq_some_iff.mp found
  have single : ∀ next, (read next).toList ++ (list.drop (index + 1)).filterMap read =
      (next :: list.drop (index + 1)).filterMap read := by
    intro next
    cases filled : read next <;> simp [filled]
  have split : list = list.take index ++ entry :: list.drop (index + 1) := by
    rw [← here, List.getElem_cons_drop, List.take_append_drop]
  refine ⟨(list.take index).filterMap read, (list.drop (index + 1)).filterMap read, ?_, ?_⟩
  · rw [List.append_assoc, single, ← List.filterMap_append, ← split]
  · intro next
    rw [List.append_assoc, single, ← List.filterMap_append, List.set_eq_take_append_cons_drop,
      if_pos inside]

namespace HttpAppState

def claims (state : HttpAppState) : List Claim := state.tasks.filterMap HttpTask.claim

def starters (state : HttpAppState) : List Nat := state.tasks.filterMap HttpTask.starter

/-- At most one attempt is under way, the latest, and the status and the handler are its own. -/
structure Orderly (state : HttpAppState) : Prop where
  owned : state.claims = [] ∧ state.vnt = none ∧ state.status ≠ .running ∨
    ∃ claim, state.claims = [claim] ∧ state.vnt = claim.vnt ∧ state.status = claim.status ∧
      state.attempts = claim.attempt
  latest : state.status ≠ .stopped → state.setBy = state.attempts
  begun : ∀ task ∈ state.tasks, ∀ attempt, task.attempt = some attempt → attempt ≤ state.attempts
  once : state.starters.Nodup

variable {state after : HttpAppState} {index : Nat} {task next : HttpTask}

theorem Orderly.matches (orderly : state.Orderly) : state.Matches := by
  intro stopped
  rcases orderly.owned with ⟨_, none, _⟩ | ⟨claim, owns, _, status, _⟩
  · exact none
  · have member : claim ∈ state.claims := by simp [owns]
    obtain ⟨task, _, claimed⟩ := List.mem_filterMap.mp member
    exact absurd (status.symm.trans stopped) (HttpTask.claim_attempt claimed).2.1

/-- The handler is never a later attempt's than the latest. -/
theorem Orderly.handler (orderly : state.Orderly) {owner : Nat} (stored : state.vnt = some owner) :
    owner = state.attempts := by
  rcases orderly.owned with ⟨_, none, _⟩ | ⟨claim, owns, vnt, _, attempt⟩
  · rw [none] at stored
    cases stored
  · have member : claim ∈ state.claims := by simp [owns]
    obtain ⟨task, _, claimed⟩ := List.mem_filterMap.mp member
    rw [vnt] at stored
    rcases (HttpTask.claim_attempt claimed).2.2 with none | own
    · rw [none] at stored
      cases stored
    · rw [own] at stored
      rw [attempt]
      exact (Option.some.inj stored).symm

/-- Nothing the latest attempt does can touch a later one. -/
theorem Orderly.leaves (orderly : state.Orderly) (active : state.status ≠ .stopped) :
    Leaves state.attempts state after := by
  constructor
  · intro later
    rw [orderly.latest active] at later
    exact absurd later (Nat.lt_irrefl _)
  · intro owner stored later
    rw [orderly.handler stored] at later
    exact absurd later (Nat.lt_irrefl _)

theorem Orderly.alone (orderly : state.Orderly) (found : state.tasks[index]? = some task)
    {claim : Claim} (claimed : task.claim = some claim) :
    state.vnt = claim.vnt ∧ state.status = claim.status ∧ state.attempts = claim.attempt ∧
      ∀ next, (state.tasks.set index next).filterMap HttpTask.claim = next.claim.toList := by
  obtain ⟨before, later, split, sets⟩ := filterMap_around HttpTask.claim found
  rw [claimed] at split
  rcases orderly.owned with ⟨empty, _⟩ | ⟨owner, owns, vnt, status, attempt⟩
  · rw [claims, split] at empty
    simp at empty
  · rw [claims, split] at owns
    have short := congrArg List.length owns
    simp only [List.length_append, Option.toList_some, List.length_singleton] at short
    have first : before = [] := List.length_eq_zero_iff.mp (by omega)
    have last : later = [] := List.length_eq_zero_iff.mp (by omega)
    rw [first, last] at owns sets
    cases owns
    exact ⟨vnt, status, attempt, fun next => by simpa using sets next⟩

/-- The parts of order that do not speak of claims. -/
theorem Orderly.moves (orderly : state.Orderly) (found : state.tasks[index]? = some task)
    (tasks : after.tasks = state.tasks.set index next) (attempts : after.attempts = state.attempts)
    (attempt : next.attempt = task.attempt ∨ next.attempt = none)
    (starter : next.starter = task.starter ∨ next.starter = none) :
    (∀ task ∈ after.tasks, ∀ attempt, task.attempt = some attempt → attempt ≤ after.attempts) ∧
      after.starters.Nodup := by
  constructor
  · intro other member number numbered
    rw [tasks] at member
    rw [attempts]
    rcases List.mem_or_eq_of_mem_set member with old | rfl
    · exact orderly.begun other old number numbered
    · rcases attempt with same | none
      · rw [same] at numbered
        exact orderly.begun task (List.mem_of_getElem? found) number numbered
      · rw [none] at numbered
        cases numbered
  · obtain ⟨before, later, split, sets⟩ := filterMap_around HttpTask.starter found
    have once := orderly.once
    rw [starters, split] at once
    rw [starters, tasks, sets]
    rcases starter with same | none
    · rw [same]
      exact once
    · rw [none]
      apply List.Nodup.sublist _ once
      simp

theorem Orderly.quiet (orderly : state.Orderly) (found : state.tasks[index]? = some task)
    (tasks : after.tasks = state.tasks.set index next)
    (same : after.vnt = state.vnt ∧ after.status = state.status ∧
      after.attempts = state.attempts ∧ after.setBy = state.setBy)
    (attempt : next.attempt = task.attempt ∨ next.attempt = none)
    (starter : next.starter = task.starter ∨ next.starter = none)
    (claim : next.claim = task.claim ∨ next.claim = none ∧
      ∀ claim, task.claim = some claim → claim.vnt = none ∧ claim.status ≠ .running) :
    after.Orderly ∧ ∀ number, Leaves number state after := by
  obtain ⟨vnt, status, attempts, setBy⟩ := same
  obtain ⟨begun, once⟩ := orderly.moves found tasks attempts attempt starter
  refine ⟨⟨?_, by rw [status, setBy, attempts]; exact orderly.latest, begun, once⟩, ?_⟩
  · rw [vnt, status, attempts]
    obtain ⟨before, later, split, sets⟩ := filterMap_around HttpTask.claim found
    rcases claim with kept | ⟨gone, harmless⟩
    · have claims : after.claims = state.claims := by
        rw [HttpAppState.claims, tasks, sets, kept, ← split, HttpAppState.claims]
      rw [claims]
      exact orderly.owned
    · cases claimed : task.claim with
      | none =>
          have claims : after.claims = state.claims := by
            rw [HttpAppState.claims, tasks, sets, gone, ← claimed, ← split, HttpAppState.claims]
          rw [claims]
          exact orderly.owned
      | some claim =>
          obtain ⟨ownVnt, ownStatus, _, alone⟩ := orderly.alone found claimed
          obtain ⟨none, running⟩ := harmless claim claimed
          left
          rw [HttpAppState.claims, tasks, alone, gone, ownVnt, ownStatus]
          exact ⟨rfl, none, running⟩
  · intro number
    constructor
    · intro _
      exact status
    · intro owner stored _
      exact vnt.trans stored

theorem Orderly.hands (orderly : state.Orderly) (found : state.tasks[index]? = some task)
    {claim : Claim} (claimed : task.claim = some claim)
    (tasks : after.tasks = state.tasks.set index next) (attempts : after.attempts = state.attempts)
    (owned : next.claim = none ∧ after.vnt = none ∧ after.status = .stopped ∨
      ∃ own, next.claim = some own ∧ after.vnt = own.vnt ∧ after.status = own.status ∧
        own.attempt = claim.attempt ∧ after.setBy = claim.attempt)
    (attempt : next.attempt = task.attempt ∨ next.attempt = none)
    (starter : next.starter = task.starter ∨ next.starter = none) :
    after.Orderly ∧ ∀ number, task.attempt = some number → Leaves number state after := by
  obtain ⟨begun, once⟩ := orderly.moves found tasks attempts attempt starter
  obtain ⟨_, status, latest, alone⟩ := orderly.alone found claimed
  obtain ⟨own, active, _⟩ := HttpTask.claim_attempt claimed
  constructor
  · rcases owned with ⟨gone, vnt, stopped⟩ | ⟨own, here, vnt, status, same, setBy⟩
    · refine ⟨Or.inl ⟨?_, vnt, ?_⟩, fun active => absurd stopped active, begun, once⟩
      · rw [claims, tasks, alone, gone]
        rfl
      · rw [stopped]
        exact VntStatus.noConfusion
    · refine ⟨Or.inr ⟨own, ?_, vnt, status, ?_⟩, fun _ => ?_, begun, once⟩
      · rw [claims, tasks, alone, here]
        rfl
      · rw [attempts, latest, same]
      · rw [setBy, attempts, latest]
  · intro number numbered
    rw [own] at numbered
    cases numbered
    rw [← latest]
    apply orderly.leaves
    rw [status]
    exact active

theorem Orderly.starting (orderly : state.Orderly) (found : state.tasks[index]? = some .start)
    {begun : HttpAppState} (begins : state.starting = some begun) :
    (begun.proceed index (.readConfig begun.attempts)).Orderly := by
  rw [HttpAppState.starting] at begins
  split at begins
  · cases begins
  · rename_i stopped
    split at begins
    · cases begins
    · rename_i vacant
      cases begins
      -- A claim would mean a status other than Stopped.
      have idle : state.claims = [] := by
        rcases orderly.owned with ⟨empty, _⟩ | ⟨claim, owns, _, status, _⟩
        · exact empty
        · have member : claim ∈ state.claims := by simp [owns]
          obtain ⟨task, _, claimed⟩ := List.mem_filterMap.mp member
          rw [Decidable.not_not.mp stopped] at status
          exact absurd status.symm (HttpTask.claim_attempt claimed).2.1
      obtain ⟨before, later, split, sets⟩ := filterMap_around HttpTask.claim found
      obtain ⟨first, second, starts, begins⟩ := filterMap_around HttpTask.starter found
      rw [claims, split] at idle
      simp only [List.append_eq_nil_iff] at idle
      constructor
      · right
        refine ⟨⟨state.attempts + 1, .starting, none⟩, ?_, ?_, rfl, rfl⟩
        · simp only [claims, proceed]
          rw [sets, idle.1.1, idle.2]
          rfl
        · exact Option.not_isSome_iff_eq_none.mp vacant
      · intro _
        rfl
      · intro task member number numbered
        rcases List.mem_or_eq_of_mem_set member with old | rfl
        · exact Nat.le_succ_of_le (orderly.begun task old number numbered)
        · cases numbered
          exact Nat.le_refl _
      · have once := orderly.once
        rw [starters, starts] at once
        simp only [starters, proceed]
        rw [begins]
        -- The new number is above all that were given out.
        have fresh : state.attempts + 1 ∉ first ++ second := by
          intro member
          have known : state.attempts + 1 ∈ state.starters := by
            rw [starters, starts]
            simpa [HttpTask.starter, HttpTask.attempt] using member
          obtain ⟨task, member, starter⟩ := List.mem_filterMap.mp known
          have bound := orderly.begun task member _ (HttpTask.starter_attempt starter)
          exact absurd bound (Nat.not_succ_le_self _)
        have both : (first ++ second).Nodup := by simpa [HttpTask.starter, HttpTask.attempt] using once
        have moved : (first ++ [state.attempts + 1] ++ second).Perm
            ((state.attempts + 1) :: (first ++ second)) := by
          rw [List.append_assoc]
          exact List.perm_middle
        exact moved.nodup_iff.mpr (List.nodup_cons.mpr ⟨fresh, both⟩)

/-- Where the status is `Starting` and a task without a claim is the latest attempt's,
no attempt is under way. -/
theorem Orderly.failing (orderly : state.Orderly) (found : state.tasks[index]? = some task)
    (unclaimed : task.claim = none) (starter : task.starter = some state.attempts)
    (starting : state.status = .starting) : state.claims = [] ∧ state.vnt = none := by
  rcases orderly.owned with ⟨empty, none, _⟩ | ⟨claim, owns, vnt, status, latest⟩
  · exact ⟨empty, none⟩
  · exfalso
    have member : claim ∈ state.claims := by simp [owns]
    obtain ⟨other, inside, claimed⟩ := List.mem_filterMap.mp member
    have begins : other.starter = some state.attempts := by
      rw [starting] at status
      rw [latest]
      cases other <;> simp only [HttpTask.claim, Option.some.injEq, reduceCtorEq] at claimed <;>
        subst claimed <;> first | rfl | cases status
    obtain ⟨i, here⟩ := List.getElem?_eq_some_iff.mp found
    obtain ⟨j, there, atOther⟩ := List.getElem_of_mem inside
    have pairs := List.pairwise_iff_getElem.mp (List.pairwise_filterMap.mp orderly.once)
    rcases Nat.lt_trichotomy index j with less | same | more
    · exact pairs index j i there less state.attempts (by rw [here]; exact starter)
        state.attempts (by rw [atOther]; exact begins) rfl
    · subst same
      rw [← here, atOther, claimed] at unclaimed
      cases unclaimed
    · exact pairs j index there i more state.attempts (by rw [atOther]; exact begins)
        state.attempts (by rw [here]; exact starter) rfl

/-- A failed attempt that stops what it finds starting: its own, if it is the latest. -/
theorem Orderly.stops (orderly : state.Orderly) (found : state.tasks[index]? = some task)
    {attempt : Nat} (unclaimed : task.claim = none) (starter : task.starter = some attempt)
    (number : next.attempt = task.attempt ∨ next.attempt = none)
    (starts : next.starter = task.starter ∨ next.starter = none) (gone : next.claim = none)
    (tasks : after.tasks = state.tasks.set index next) (attempts : after.attempts = state.attempts)
    (same : state.status ≠ .starting →
      after.vnt = state.vnt ∧ after.status = state.status ∧ after.setBy = state.setBy)
    (stops : state.status = .starting → (after.vnt = none ∨ after.vnt = state.vnt) ∧
      after.status = .stopped) :
    ((state.status = .starting → state.attempts = attempt) →
      after.Orderly ∧ Leaves attempt state after) ∧
    (Leaves attempt state after → state.status = .starting → state.attempts = attempt) := by
  constructor
  · intro careful
    by_cases starting : state.status = .starting
    · have latest := careful starting
      obtain ⟨begun, once⟩ := orderly.moves found tasks attempts number starts
      obtain ⟨empty, vacant⟩ := orderly.failing found unclaimed (latest ▸ starter) starting
      obtain ⟨vnt, stopped⟩ := stops starting
      obtain ⟨before, later, split, sets⟩ := filterMap_around HttpTask.claim found
      constructor
      · constructor
        · left
          rw [claims, tasks, sets, gone, ← unclaimed, ← split, stopped]
          exact ⟨empty, vnt.elim id fun same => same.trans vacant, VntStatus.noConfusion⟩
        · exact fun active => absurd stopped active
        · exact begun
        · exact once
      · rw [← latest]
        apply orderly.leaves
        rw [starting]
        exact VntStatus.noConfusion
    · obtain ⟨vnt, status, setBy⟩ := same starting
      have quiet := orderly.quiet found tasks ⟨vnt, status, attempts, setBy⟩ number starts
        (Or.inl (gone.trans unclaimed.symm))
      exact ⟨quiet.1, quiet.2 attempt⟩
  · intro leaves starting
    by_contra older
    have bound := orderly.begun task (List.mem_of_getElem? found) attempt
      (HttpTask.starter_attempt starter)
    have set := orderly.latest (by rw [starting]; exact VntStatus.noConfusion)
    have kept := leaves.1 (by omega)
    rw [(stops starting).2, starting] at kept
    cases kept

@[simp] theorem stopGroup_tasks (state : HttpAppState) : state.stopGroup.tasks = state.tasks := by
  unfold stopGroup
  split <;> rfl

theorem stopGroup_same (state : HttpAppState) :
    state.stopGroup.vnt = state.vnt ∧ state.stopGroup.status = state.status ∧
      state.stopGroup.attempts = state.attempts ∧ state.stopGroup.setBy = state.setBy := by
  unfold stopGroup
  split <;> exact ⟨rfl, rfl, rfl, rfl⟩

theorem Orderly.spawns (orderly : state.Orderly) {attempt : Nat}
    (found : state.tasks[index]? = some (.spawnMonitor attempt)) :
    Orderly { state with
      tasks := state.tasks.set index (.recordCurrent attempt) ++ [.monitor attempt] } := by
  obtain ⟨vnt, status, latest, alone⟩ := orderly.alone found rfl
  obtain ⟨begun, once⟩ := @moves state (state.proceed index (.recordCurrent attempt)) _ _ _
    orderly found rfl rfl (Or.inl rfl) (Or.inl rfl)
  constructor
  · right
    refine ⟨_, ?_, vnt, status, latest⟩
    simp only [claims, List.filterMap_append, alone]
    rfl
  · exact orderly.latest
  · intro task member
    rcases List.mem_append.mp member with old | new
    · exact begun task old
    · rw [List.mem_singleton.mp new]
      rintro _ ⟨⟩
      exact Nat.le_of_eq latest.symm
  · simp only [starters, List.filterMap_append]
    exact (List.append_nil _).symm ▸ once

/-- A step of a task that leaves the status and the handler alone. -/
theorem Orderly.proceeds (orderly : state.Orderly) (found : state.tasks[index]? = some task)
    {middle : HttpAppState} (tasks : middle.tasks = state.tasks)
    (same : middle.vnt = state.vnt ∧ middle.status = state.status ∧
      middle.attempts = state.attempts ∧ middle.setBy = state.setBy) (next : HttpTask)
    (attempt : next.attempt = task.attempt ∨ next.attempt = none)
    (starter : next.starter = task.starter ∨ next.starter = none)
    (claim : next.claim = task.claim ∨ next.claim = none ∧
      ∀ claim, task.claim = some claim → claim.vnt = none ∧ claim.status ≠ .running) :
    (middle.proceed index next).Orderly ∧ ∀ number, task.attempt = some number →
      Leaves number state (middle.proceed index next) := by
  have sets : (middle.proceed index next).tasks = state.tasks.set index next := by
    rw [proceed, tasks]
  have quiet := orderly.quiet found sets same attempt starter claim
  exact ⟨quiet.1, fun number _ => quiet.2 number⟩

theorem advance_orderly (orderly : state.Orderly) (found : state.tasks[index]? = some task)
    (ok : Bool) (recording : ∀ attempt, task ≠ .recordStopped attempt)
    (dropping : ∀ attempt, task ≠ .dropOnError attempt) :
    (state.advance index ok task).Orderly ∧
      ∀ number, task.attempt = some number → Leaves number state (state.advance index ok task) := by
  have proceeds := orderly.proceeds found rfl ⟨rfl, rfl, rfl, rfl⟩
  have stops := orderly.proceeds found state.stopGroup_tasks state.stopGroup_same
  have drops : ∀ next, _ := @Orderly.proceeds _ _ _ orderly found state.dropGroup
    state.stopGroup_tasks state.stopGroup_same
  cases task with
  | stop =>
      rw [advance]
      split
      · exact proceeds _ (Or.inl rfl) (Or.inl rfl) (Or.inl rfl)
      · exact proceeds _ (Or.inl rfl) (Or.inl rfl) (Or.inl rfl)
  | stopGroup => exact stops _ (Or.inl rfl) (Or.inl rfl) (Or.inl rfl)
  | restart =>
      rw [advance]
      split
      · exact proceeds _ (Or.inl rfl) (Or.inl rfl) (Or.inl rfl)
      · exact proceeds _ (Or.inl rfl) (Or.inl rfl) (Or.inl rfl)
  | restartStop => exact stops _ (Or.inl rfl) (Or.inl rfl) (Or.inl rfl)
  | restartWait left =>
      cases left with
      | zero => exact proceeds _ (Or.inl rfl) (Or.inl rfl) (Or.inl rfl)
      | succ left =>
          rw [advance]
          split
          · exact proceeds _ (Or.inl rfl) (Or.inl rfl) (Or.inl rfl)
          · cases ok
            · exact proceeds _ (Or.inl rfl) (Or.inl rfl) (Or.inl rfl)
            · exact proceeds _ (Or.inl rfl) (Or.inl rfl) (Or.inl rfl)
  | start =>
      rw [advance]
      cases begins : state.starting with
      | none => exact proceeds _ (Or.inl rfl) (Or.inl rfl) (Or.inl rfl)
      | some begun => exact ⟨orderly.starting found begins, fun _ numbered => by cases numbered⟩
  | readConfig attempt =>
      -- A failed start keeps its claim and goes on to its own cleanup.
      cases ok
      · exact proceeds _ (Or.inl rfl) (Or.inl rfl) (Or.inr ⟨rfl, by rintro _ ⟨⟩; simp⟩)
      · exact proceeds _ (Or.inl rfl) (Or.inl rfl) (Or.inl rfl)
  | createTask attempt =>
      rw [advance]
      split
      · exact proceeds _ (Or.inl rfl) (Or.inl rfl) (Or.inr ⟨rfl, by rintro _ ⟨⟩; simp⟩)
      · exact @Orderly.proceeds _ _ _ orderly found { state with taskGroup := some attempt } rfl
          ⟨rfl, rfl, rfl, rfl⟩ _ (Or.inl rfl) (Or.inl rfl) (Or.inl rfl)
  | createNetwork attempt =>
      cases ok
      · exact proceeds _ (Or.inl rfl) (Or.inl rfl) (Or.inr ⟨rfl, by rintro _ ⟨⟩; simp⟩)
      · exact proceeds _ (Or.inl rfl) (Or.inl rfl) (Or.inl rfl)
  | storeHandler attempt =>
      obtain ⟨vacant, status, latest, _⟩ := orderly.alone found rfl
      have setBy := orderly.latest (by rw [status]; exact VntStatus.noConfusion)
      rw [advance, vacant]
      exact orderly.hands found rfl rfl rfl
        (Or.inr ⟨_, rfl, rfl, status, rfl, setBy.trans latest⟩) (Or.inl rfl) (Or.inl rfl)
  | register attempt =>
      cases ok
      · exact proceeds _ (Or.inl rfl) (Or.inl rfl) (Or.inl rfl)
      · exact proceeds _ (Or.inl rfl) (Or.inl rfl) (Or.inl rfl)
  | startingToRunning attempt =>
      obtain ⟨vnt, status, _⟩ := orderly.alone found rfl
      rw [advance, startingToRunning, if_neg (by rw [status]; simp)]
      exact orderly.hands found rfl rfl rfl (Or.inr ⟨_, rfl, vnt, rfl, rfl, rfl⟩)
        (Or.inl rfl) (Or.inl rfl)
  | spawnMonitor attempt =>
      rw [advance]
      split
      · exact proceeds _ (Or.inl rfl) (Or.inl rfl) (Or.inl rfl)
      · refine ⟨orderly.spawns found, fun number _ => ⟨fun _ => rfl, ?_⟩⟩
        exact fun owner stored _ => stored
  | recordCurrent attempt => exact proceeds _ (Or.inl rfl) (Or.inl rfl) (Or.inl rfl)
  | dropRefused attempt => exact drops _ (Or.inl rfl) (Or.inl rfl) (Or.inl rfl)
  | cleanupRefused attempt =>
      exact orderly.hands found rfl rfl rfl (Or.inl ⟨rfl, rfl, rfl⟩) (Or.inl rfl) (Or.inl rfl)
  | cleanupFailed attempt =>
      exact orderly.hands found rfl rfl rfl (Or.inl ⟨rfl, rfl, rfl⟩) (Or.inl rfl) (Or.inl rfl)
  | dropFailed attempt => exact drops _ (Or.inl rfl) (Or.inl rfl) (Or.inl rfl)
  | recordStopped attempt => exact absurd rfl (recording attempt)
  | dropOnError attempt => exact absurd rfl (dropping attempt)
  | monitor attempt =>
      rw [advance]
      split
      · exact drops _ (Or.inl rfl) (Or.inl rfl) (Or.inl rfl)
      · exact ⟨orderly, fun number _ => ⟨fun _ => rfl, fun owner stored _ => stored⟩⟩
  | cleanupMonitor attempt =>
      exact orderly.hands found rfl rfl rfl (Or.inl ⟨rfl, rfl, rfl⟩) (Or.inr rfl) (Or.inr rfl)
  | finished => exact ⟨orderly, fun _ numbered => by cases numbered⟩

theorem recordStopped_exact (orderly : state.Orderly) {attempt : Nat}
    (found : state.tasks[index]? = some (.recordStopped attempt)) (ok : Bool) :
    let after := state.advance index ok (.recordStopped attempt)
    ((state.status = .starting → state.attempts = attempt) →
      after.Orderly ∧ Leaves attempt state after) ∧
    (Leaves attempt state after → state.status = .starting → state.attempts = attempt) := by
  apply @Orderly.stops _ _ _ _ (.dropOnError attempt) orderly found _ rfl rfl (Or.inl rfl)
    (Or.inl rfl) rfl
  · simp only [advance, recordLogAndStopped, proceed]
    split <;> rfl
  · simp only [advance, recordLogAndStopped, proceed]
    split <;> rfl
  · intro other
    simp [advance, recordLogAndStopped, proceed, other]
  · intro starting
    simp [advance, recordLogAndStopped, proceed, starting]

theorem dropOnError_exact (orderly : state.Orderly) {attempt : Nat}
    (found : state.tasks[index]? = some (.dropOnError attempt)) (ok : Bool) :
    let after := state.advance index ok (.dropOnError attempt)
    ((state.status = .starting → state.attempts = attempt) →
      after.Orderly ∧ Leaves attempt state after) ∧
    (Leaves attempt state after → state.status = .starting → state.attempts = attempt) := by
  apply @Orderly.stops _ _ _ _ .finished orderly found _ rfl rfl (Or.inr rfl) (Or.inr rfl) rfl
  · simp only [advance, startingToStopped, proceed]
    split <;> rfl
  · simp only [advance, startingToStopped, proceed]
    split <;> rfl
  · intro other
    simp [advance, startingToStopped, proceed, other]
  · intro starting
    simp [advance, startingToStopped, proceed, starting]

theorem Orderly.arrives (orderly : state.Orderly) (request : HttpRequest) :
    Orderly { state with tasks := state.tasks ++ [request.task] } := by
  constructor
  · have claims : claims { state with tasks := state.tasks ++ [request.task] } = state.claims := by
      cases request <;> simp [HttpAppState.claims, HttpRequest.task, HttpTask.claim]
    rw [claims]
    exact orderly.owned
  · exact orderly.latest
  · intro task member
    rcases List.mem_append.mp member with old | new
    · exact orderly.begun task old
    · rw [List.mem_singleton.mp new]
      cases request <;> rintro _ ⟨⟩
  · have starters : starters { state with tasks := state.tasks ++ [request.task] } =
        state.starters := by
      cases request <;> simp [HttpAppState.starters, HttpRequest.task, HttpTask.starter,
        HttpTask.attempt]
    rw [starters]
    exact orderly.once

/-- What a step of a task does, by whether it may meet a later attempt. -/
theorem advance_exact (orderly : state.Orderly) (found : state.tasks[index]? = some task)
    (ok : Bool) :
    (state.Careful (.advance index ok) → (state.advance index ok task).Orderly) ∧
      ((∀ number, task.attempt = some number → Leaves number state (state.advance index ok task)) ↔
        state.Careful (.advance index ok)) := by
  by_cases late : ∃ attempt, task = .recordStopped attempt ∨ task = .dropOnError attempt
  · obtain ⟨attempt, stopping⟩ := late
    have numbered : task.attempt = some attempt := by
      rcases stopping with rfl | rfl <;> rfl
    have judged : ((state.status = .starting → state.attempts = attempt) →
          (state.advance index ok task).Orderly ∧
            Leaves attempt state (state.advance index ok task)) ∧
        (Leaves attempt state (state.advance index ok task) →
          state.status = .starting → state.attempts = attempt) := by
      rcases stopping with rfl | rfl
      · exact recordStopped_exact orderly found ok
      · exact dropOnError_exact orderly found ok
    have careful : state.Careful (.advance index ok) ↔
        (state.status = .starting → state.attempts = attempt) := by
      rcases stopping with rfl | rfl <;> simp [Careful, found]
    rw [careful, numbered]
    simp only [Option.some.injEq, forall_eq']
    exact ⟨fun met => (judged.1 met).1, judged.2, fun met => (judged.1 met).2⟩
  · have kept := advance_orderly orderly found ok
      (fun attempt same => late ⟨attempt, Or.inl same⟩)
      fun attempt same => late ⟨attempt, Or.inr same⟩
    have careful : state.Careful (.advance index ok) := by
      rintro attempt (here | here) _
      · exact absurd ⟨attempt, Or.inl (Option.some.inj (found.symm.trans here))⟩ late
      · exact absurd ⟨attempt, Or.inr (Option.some.inj (found.symm.trans here))⟩ late
    exact ⟨fun _ => kept.1, iff_of_true kept.2 careful⟩

theorem step_exact (orderly : state.Orderly) (event : HttpEvent) :
    (state.Careful event → (state.step event).1.Orderly) ∧
      ((state.step event).1.Matches ∧ state.Respects event ↔ state.Careful event) := by
  cases event with
  | arrive request =>
      have arrived := orderly.arrives request
      exact ⟨fun _ => arrived, iff_of_true ⟨arrived.matches, by rintro _ _ _ _ ⟨⟩⟩ trivial⟩
  | tasksEnd group =>
      have ended : (state.step (.tasksEnd group)).1.Orderly := by
        rw [step]
        split
        · exact orderly
        · exact { orderly with }
      exact ⟨fun _ => ended, iff_of_true ⟨ended.matches, by rintro _ _ _ _ ⟨⟩⟩ trivial⟩
  | taskStops group =>
      have ended : (state.step (.taskStops group)).1.Orderly := { orderly with }
      exact ⟨fun _ => ended, iff_of_true ⟨ended.matches, by rintro _ _ _ _ ⟨⟩⟩ trivial⟩
  | advance index ok =>
      cases found : state.tasks[index]? with
      | none =>
          have same : (state.step (.advance index ok)).1 = state := by rw [step, found]
          rw [same]
          refine ⟨fun _ => orderly, iff_of_true ⟨orderly.matches, ?_⟩ ?_⟩
          · rintro _ _ task _ ⟨⟩ here
            rw [found] at here
            cases here
          · rintro attempt (here | here)
            · rw [found] at here
              cases here
            · rw [found] at here
              cases here
      | some task =>
          have steps : (state.step (.advance index ok)).1 = state.advance index ok task := by
            rw [step, found]
          obtain ⟨kept, judged⟩ := advance_exact orderly found ok
          rw [steps]
          refine ⟨kept, ?_⟩
          constructor
          · rintro ⟨_, respects⟩
            apply judged.mp
            intro number numbered
            rw [← steps]
            exact respects index ok task number rfl found numbered
          · intro careful
            refine ⟨(kept careful).matches, ?_⟩
            rintro _ _ other number ⟨⟩ here numbered
            rw [found] at here
            cases here
            rw [steps]
            exact judged.mpr careful number numbered

theorem new_orderly : new.Orderly where
  owned := Or.inl ⟨rfl, rfl, VntStatus.noConfusion⟩
  latest := fun active => absurd rfl active
  begun := fun _ member => (by cases member)
  once := List.nodup_nil

/-- In a run of the service the status matches the network, and no attempt undoes
what a later one has set, exactly if every step is careful. -/
theorem status_matches_iff (events : List HttpEvent) :
    Machine.Along step (fun state event => (state.step event).1.Matches ∧ state.Respects event)
      new events ↔ Machine.Along step Careful new events := by
  apply Machine.along_iff step Orderly
  · intro state event _ orderly careful
    exact (step_exact orderly event).1 careful
  · intro state event _ orderly
    exact (step_exact orderly event).2
  · exact new_orderly

/-- The first network is up, is stopped and gone while its attempt still writes the
current configuration, and a second attempt has begun when that ends. -/
def overtaken : List HttpEvent :=
  [.arrive .start, .advance 0 true, .advance 0 true, .advance 0 true, .advance 0 true,
    .advance 0 true, .advance 0 true, .advance 0 true, .advance 0 true,
    .arrive .stop, .advance 2 true, .advance 2 true, .advance 1 true, .advance 1 true,
    .arrive .start, .advance 3 true, .advance 0 true, .advance 0 true,
    .advance 3 true, .advance 3 true, .advance 3 true, .advance 3 true]

-- The guard of the first attempt stops the second, which stores its handler all the same.
theorem overtaken_mismatched :
    (Machine.run step new overtaken).1.status = .stopped ∧
      (Machine.run step new overtaken).1.vnt = some 2 ∧
      ¬ Machine.Along step (fun state event => (state.step event).1.Matches ∧
        state.Respects event) new overtaken := by
  have status : (Machine.run step new overtaken).1.status = .stopped := by decide +kernel
  have stored : (Machine.run step new overtaken).1.vnt = some 2 := by decide +kernel
  refine ⟨status, stored, fun along => ?_⟩
  have matched := Machine.run_along step (fun state _ => state.Matches) _
    (fun _ _ _ _ met => met.1) overtaken new [] (fun _ => rfl) along
  rw [matched status] at stored
  cases stored

end HttpAppState
end VntClient
