import VntClient.Machine

/-!
`utils/task_control.rs`. The handles of a group's tasks are in a map; a task that
is over takes its own out, and the one that leaves the map empty marks the group
stopped and notifies the waiters. `stop`, `join_all` and `SubTask::stop` take
handles out of the map while their tasks still run.
-/

namespace VntClient

/-- How far a call of `wait_all_stopped` is: before the check, after it, with a
`Notified` that no notification has reached or one has, suspended on it, or back. -/
inductive Waiter where
  | ready
  | checked
  | created
  | notified
  | suspended
  | returned
deriving DecidableEq

namespace Waiter

/-- `notify_waiters`, for the futures created before it. -/
def wake : Waiter → Waiter
  | created => notified
  | suspended => ready
  | waiter => waiter

/-- Past a check that failed, with no notification since the future was created. -/
def Waits (waiter : Waiter) : Prop := waiter = checked ∨ waiter = created ∨ waiter = suspended

end Waiter

/-- Tasks are numbered as they are spawned. A task is running until its guard takes it
out of the map; some guards are then about to notify. -/
structure TaskGroup where
  stopped : Bool
  tasks : Finset Nat
  spawned : Nat
  running : Finset Nat
  notifying : Finset Nat
  waiter : Nat → Waiter

/-- The sections of the calls. A task ends, aborted or not, in two: its guard takes
the handle out under the lock and notifies after it. -/
inductive TaskEvent where
  | spawn
  | removeTask (id : Nat)
  | notifyWaiters (id : Nat)
  | abortTask (id : Nat)
  | stop
  | joinAll
  | check (index : Nat)
  | create (index : Nat)
  | await (index : Nat)
deriving DecidableEq

namespace TaskGroup

def new : TaskGroup := ⟨false, ∅, 0, ∅, ∅, fun _ => .ready⟩

def allTasksStopped (group : TaskGroup) : Bool := group.stopped && decide (group.tasks = ∅)

def spawn (group : TaskGroup) : TaskGroup :=
  if group.stopped then group
  else
    { group with
      tasks := insert group.spawned group.tasks
      running := insert group.spawned group.running
      spawned := group.spawned + 1 }

/-- The handles are drained and the tasks told to end, which they do later. -/
def stop (group : TaskGroup) : TaskGroup := { group with stopped := true, tasks := ∅ }

/-- The guard of a task, under the lock. -/
def removeTask (group : TaskGroup) (id : Nat) : TaskGroup :=
  if id ∈ group.running then
    if group.tasks.erase id = ∅ then
      { group with
        stopped := true
        tasks := ∅
        running := group.running.erase id
        notifying := insert id group.notifying }
    else { group with tasks := group.tasks.erase id, running := group.running.erase id }
  else group

def notifyWaiters (group : TaskGroup) (id : Nat) : TaskGroup :=
  if id ∈ group.notifying then
    { group with
      notifying := group.notifying.erase id
      waiter := fun index => (group.waiter index).wake }
  else group

/-- The handle is taken out, the task told to end, and its end awaited. -/
def abortTask (group : TaskGroup) (id : Nat) : TaskGroup :=
  { group with tasks := group.tasks.erase id }

def joinAll (group : TaskGroup) : TaskGroup := { group with tasks := ∅ }

def setWaiter (group : TaskGroup) (index : Nat) (waiter : Waiter) : TaskGroup :=
  { group with waiter := Function.update group.waiter index waiter }

def check (group : TaskGroup) (index : Nat) : TaskGroup :=
  if group.waiter index = .ready then
    group.setWaiter index (if group.allTasksStopped then .returned else .checked)
  else group

def create (group : TaskGroup) (index : Nat) : TaskGroup :=
  if group.waiter index = .checked then group.setWaiter index .created else group

def await (group : TaskGroup) (index : Nat) : TaskGroup :=
  match group.waiter index with
  | .created => group.setWaiter index .suspended
  | .notified => group.setWaiter index .ready
  | _ => group

def step (group : TaskGroup) (event : TaskEvent) : TaskGroup × List Empty :=
  match event with
  | .spawn => (group.spawn, [])
  | .removeTask id => (group.removeTask id, [])
  | .notifyWaiters id => (group.notifyWaiters id, [])
  | .abortTask id => (group.abortTask id, [])
  | .stop => (group.stop, [])
  | .joinAll => (group.joinAll, [])
  | .check index => (group.check index, [])
  | .create index => (group.create index, [])
  | .await index => (group.await index, [])

/-- A stopped group has no handles and gets none; a guard notifies a stopped group. -/
structure Sound (group : TaskGroup) : Prop where
  drained : group.stopped = true → group.tasks = ∅
  numbered : ∀ id ∈ group.running, id < group.spawned
  told : group.notifying ≠ ∅ → group.stopped = true

variable {group : TaskGroup}

theorem allTasksStopped_iff :
    group.allTasksStopped = true ↔ group.stopped = true ∧ group.tasks = ∅ := by
  rw [allTasksStopped, Bool.and_eq_true, decide_eq_true_eq]

theorem Sound.stopped_iff (sound : group.Sound) :
    group.allTasksStopped = true ↔ group.stopped = true :=
  allTasksStopped_iff.trans ⟨And.left, fun stopped => ⟨stopped, sound.drained stopped⟩⟩

/-- What a waiter does to the group. -/
theorem step_waiter (group : TaskGroup) (index : Nat) (event : TaskEvent)
    (waiting : event = .check index ∨ event = .create index ∨ event = .await index) :
    ∃ waiter, (group.step event).1 = group.setWaiter index waiter := by
  have same : group = group.setWaiter index (group.waiter index) := by
    rw [setWaiter, Function.update_eq_self]
  rcases waiting with rfl | rfl | rfl
  · simp only [step, check]
    split
    · exact ⟨_, rfl⟩
    · exact ⟨_, same⟩
  · simp only [step, create]
    split
    · exact ⟨_, rfl⟩
    · exact ⟨_, same⟩
  · simp only [step, await]
    split
    · exact ⟨_, rfl⟩
    · exact ⟨_, rfl⟩
    · exact ⟨_, same⟩

/-- What holds whatever the waiters do holds after a step of a waiter. -/
theorem step_waiting (property : TaskGroup → Prop)
    (kept : ∀ index waiter, property (group.setWaiter index waiter)) (index : Nat)
    (event : TaskEvent)
    (waiting : event = .check index ∨ event = .create index ∨ event = .await index) :
    property (group.step event).1 := by
  obtain ⟨waiter, eq⟩ := group.step_waiter index event waiting
  rw [eq]
  exact kept index waiter

theorem Sound.setWaiter (sound : group.Sound) (index : Nat) (waiter : Waiter) :
    (group.setWaiter index waiter).Sound := ⟨sound.drained, sound.numbered, sound.told⟩

theorem Sound.step (sound : group.Sound) (event : TaskEvent) : (group.step event).1.Sound := by
  have waiting := step_waiting Sound sound.setWaiter
  cases event with
  | spawn =>
      simp only [TaskGroup.step, spawn]
      split
      · exact sound
      · rename_i going
        refine ⟨fun stopped => absurd stopped going, ?_, sound.told⟩
        intro id member
        rcases Finset.mem_insert.mp member with rfl | old
        · exact Nat.lt_succ_self _
        · exact Nat.lt_succ_of_lt (sound.numbered id old)
  | removeTask id =>
      have fewer : ∀ other ∈ group.running.erase id, other < group.spawned :=
        fun other member => sound.numbered other (Finset.mem_of_mem_erase member)
      simp only [TaskGroup.step, removeTask]
      split
      · split
        · exact ⟨fun _ => rfl, fewer, fun _ => rfl⟩
        · refine ⟨fun stopped => ?_, fewer, sound.told⟩
          simp [sound.drained stopped]
      · exact sound
  | notifyWaiters id =>
      simp only [TaskGroup.step, notifyWaiters]
      split
      · rename_i guard
        exact ⟨sound.drained, sound.numbered, fun _ => sound.told (Finset.ne_empty_of_mem guard)⟩
      · exact sound
  | abortTask id =>
      refine ⟨fun stopped => ?_, sound.numbered, sound.told⟩
      simp [TaskGroup.step, abortTask, sound.drained stopped]
  | stop => exact ⟨fun _ => rfl, sound.numbered, fun _ => rfl⟩
  | joinAll => exact ⟨fun _ => rfl, sound.numbered, sound.told⟩
  | check index => exact waiting index _ (Or.inl rfl)
  | create index => exact waiting index _ (Or.inr (Or.inl rfl))
  | await index => exact waiting index _ (Or.inr (Or.inr rfl))

theorem sound_new : new.Sound :=
  ⟨fun _ => rfl, fun _ member => (by cases member), fun told => absurd rfl told⟩

section Termination

/-- Where a waiter would return, every task that was ever spawned is over. -/
def NothingRuns (group : TaskGroup) : Prop :=
  group.allTasksStopped = true → ∀ id, id < group.spawned → id ∉ group.running

/-- A stop finds no task running; a task that leaves the map empty was the last. -/
def Orderly (group : TaskGroup) : TaskEvent → Prop
  | .stop => group.running = ∅
  | .removeTask id => id ∈ group.running → group.tasks.erase id = ∅ → group.running.erase id = ∅
  | _ => True

theorem Sound.nothingRuns_iff (sound : group.Sound) :
    group.NothingRuns ↔ (group.stopped = true → group.running = ∅) := by
  rw [NothingRuns, sound.stopped_iff]
  apply imp_congr_right
  intro _
  constructor
  · intro ended
    apply Finset.eq_empty_of_forall_notMem
    intro id member
    exact ended id (sound.numbered id member) member
  · intro none id _
    rw [none]
    exact Finset.notMem_empty id

/-- One step: nothing runs behind a stopped group exactly if the step is orderly. -/
theorem nothingRuns_step (sound : group.Sound) (idle : group.NothingRuns) (event : TaskEvent) :
    (group.step event).1.NothingRuns ↔ group.Orderly event := by
  rw [(sound.step event).nothingRuns_iff]
  rw [sound.nothingRuns_iff] at idle
  have waiting := @step_waiting group (fun group => group.stopped = true → group.running = ∅)
    fun _ _ => idle
  cases event with
  | spawn =>
      refine iff_of_true ?_ trivial
      simp only [step, spawn]
      split
      · exact idle
      · rename_i going
        exact fun stopped => absurd stopped going
  | removeTask id =>
      simp only [step, removeTask, Orderly]
      by_cases member : id ∈ group.running
      · rw [if_pos member]
        by_cases last : group.tasks.erase id = ∅
        · simp [last, member]
        · rw [if_neg last]
          refine iff_of_true (fun stopped => ?_) fun _ empty => absurd empty last
          rw [idle stopped] at member
          cases member
      · rw [if_neg member]
        exact iff_of_true idle fun inside => absurd inside member
  | notifyWaiters id =>
      refine iff_of_true ?_ trivial
      simp only [step, notifyWaiters]
      split <;> exact idle
  | abortTask id => exact iff_of_true idle trivial
  | stop => exact ⟨fun ended => ended rfl, fun ended _ => ended⟩
  | joinAll => exact iff_of_true idle trivial
  | check index => exact iff_of_true (waiting index _ (Or.inl rfl)) trivial
  | create index => exact iff_of_true (waiting index _ (Or.inr (Or.inl rfl))) trivial
  | await index => exact iff_of_true (waiting index _ (Or.inr (Or.inr rfl))) trivial

/-- In every run all tasks are over wherever the group counts as stopped, exactly as
far as no stop meets a running task, and no task ends as the last in the map while
another one runs. -/
theorem nothing_runs_iff (events : List TaskEvent) :
    Machine.Along step (fun group event => (group.step event).1.NothingRuns) new events ↔
      Machine.Along step Orderly new events := by
  apply Machine.along_kept_iff step Sound NothingRuns
  · intro group event sound idle
    exact ⟨sound.step event, nothingRuns_step sound idle event⟩
  · exact sound_new
  · intro _ id small
    cases small

/-- A task is spawned and the group stopped; two tasks are awaited by `join_all` and
the first ends. -/
theorem stopped_group_runs :
    ¬ Machine.Along step (fun group event => (group.step event).1.NothingRuns) new [.spawn, .stop] ∧
      ¬ Machine.Along step (fun group event => (group.step event).1.NothingRuns) new
        [.spawn, .spawn, .joinAll, .removeTask 0] := by
  constructor
  · rintro ⟨-, ended, -⟩
    exact ended rfl 0 (by decide) (by decide)
  · rintro ⟨-, -, -, ended, -⟩
    exact ended rfl 1 (by decide) (by decide)

end Termination

section Waiting

/-- Stopped, and no guard is left that will notify. -/
def Quiet (group : TaskGroup) : Prop :=
  group.allTasksStopped = true ∧ group.running = ∅ ∧ group.notifying = ∅

/-- Nothing will wake the waiter any more. -/
def Lost (group : TaskGroup) (index : Nat) : Prop := group.waiter index = .suspended ∧ group.Quiet

def proceed (group : TaskGroup) (index : Nat) : TaskGroup := (group.create index).await index

/-- No waiter is lost, and none gets lost by going on. -/
def Responsive (group : TaskGroup) : Prop :=
  ∀ index, ¬ group.Lost index ∧ ¬ (group.proceed index).Lost index

/-- A stop with no task running and no guard to notify finds no waiter past its check;
the last notification finds none that has yet to create its future. -/
def InTime (group : TaskGroup) : TaskEvent → Prop
  | .stop => group.running = ∅ → group.notifying = ∅ → ∀ index, ¬ (group.waiter index).Waits
  | .notifyWaiters id => group.running = ∅ → group.notifying = {id} →
      ∀ index, group.waiter index ≠ .checked
  | _ => True

theorem proceed_suspended (group : TaskGroup) (index : Nat) :
    ((group.proceed index).waiter index = .suspended ↔ (group.waiter index).Waits) ∧
      ((group.proceed index).Quiet ↔ group.Quiet) := by
  simp only [proceed, create, await, Waiter.Waits]
  cases here : group.waiter index <;>
    simp [here, setWaiter, Quiet, allTasksStopped]

theorem responsive_iff :
    group.Responsive ↔ (group.Quiet → ∀ index, ¬ (group.waiter index).Waits) := by
  constructor
  · intro responsive quiet index waits
    have proceeding := group.proceed_suspended index
    exact (responsive index).2 ⟨proceeding.1.mpr waits, proceeding.2.mpr quiet⟩
  · intro settled index
    have proceeding := group.proceed_suspended index
    constructor
    · rintro ⟨suspended, quiet⟩
      exact settled quiet index (Or.inr (Or.inr suspended))
    · rintro ⟨suspended, quiet⟩
      exact settled (proceeding.2.mp quiet) index (proceeding.1.mp suspended)

/-- A check of a quiet group returns, so its steps bring no waiter to wait. -/
theorem settled_waiter (settled : group.Quiet → ∀ index, ¬ (group.waiter index).Waits)
    (index : Nat) (event : TaskEvent)
    (waiting : event = .check index ∨ event = .create index ∨ event = .await index) :
    (group.step event).1.Quiet → ∀ other, ¬ ((group.step event).1.waiter other).Waits := by
  have quiet_same : (group.step event).1.Quiet → group.Quiet := by
    obtain ⟨waiter, eq⟩ := group.step_waiter index event waiting
    rw [eq]
    exact id
  intro quiet other
  have before := settled (quiet_same quiet)
  by_cases same : other = index
  · subst same
    have stays := before other
    rcases waiting with rfl | rfl | rfl
    · simp only [step, check]
      split
      · simp [setWaiter, (quiet_same quiet).1, Waiter.Waits]
      · exact stays
    · simp only [step, create]
      split
      · rename_i checked
        exact absurd (Or.inl checked) stays
      · exact stays
    · simp only [step, await]
      split
      · rename_i created
        exact absurd (Or.inr (Or.inl created)) stays
      · simp [setWaiter, Waiter.Waits]
      · exact stays
  · have others : (group.step event).1.waiter other = group.waiter other := by
      obtain ⟨waiter, eq⟩ := group.step_waiter index event waiting
      rw [eq]
      exact Function.update_of_ne same _ _
    rw [others]
    exact before other

theorem wake_waits (waiter : Waiter) : waiter.wake.Waits ↔ waiter = .checked := by
  cases waiter <;> simp [Waiter.wake, Waiter.Waits]

/-- One step: the waiters stay responsive exactly if it is in time. -/
theorem responsive_step (sound : group.Sound) (responsive : group.Responsive)
    (event : TaskEvent) : (group.step event).1.Responsive ↔ group.InTime event := by
  rw [responsive_iff] at responsive ⊢
  cases event with
  | spawn =>
      refine iff_of_true ?_ trivial
      simp only [step, spawn]
      split
      · exact responsive
      · rintro ⟨_, none, _⟩
        exact absurd none (Finset.insert_ne_empty _ _)
  | removeTask id =>
      refine iff_of_true ?_ trivial
      simp only [step, removeTask]
      split
      · split
        · rintro ⟨_, _, none⟩
          exact absurd none (Finset.insert_ne_empty _ _)
        · rename_i others
          rintro ⟨stopped, _⟩
          exact absurd (allTasksStopped_iff.mp stopped).2 others
      · exact responsive
  | notifyWaiters id =>
      simp only [step, notifyWaiters, InTime]
      by_cases guard : id ∈ group.notifying
      · have stopped := sound.told (Finset.ne_empty_of_mem guard)
        have last : group.notifying.erase id = ∅ ↔ group.notifying = {id} := by
          rw [Finset.erase_eq_empty_iff, or_iff_right (Finset.ne_empty_of_mem guard)]
        rw [if_pos guard]
        simp only [Quiet, wake_waits, last]
        constructor
        · intro settled none only
          exact settled ⟨sound.stopped_iff.mpr stopped, none, only⟩
        · intro inTime quiet
          exact inTime quiet.2.1 quiet.2.2
      · rw [if_neg guard]
        refine iff_of_true responsive fun _ only => absurd ?_ guard
        simp [only]
  | abortTask id =>
      refine iff_of_true ?_ trivial
      rintro ⟨stopped, rest⟩
      have before : group.stopped = true := (allTasksStopped_iff.mp stopped).1
      exact responsive ⟨sound.stopped_iff.mpr before, rest⟩
  | stop =>
      constructor
      · intro settled none still
        exact settled ⟨rfl, none, still⟩
      · intro inTime quiet
        exact inTime quiet.2.1 quiet.2.2
  | joinAll =>
      refine iff_of_true ?_ trivial
      rintro ⟨stopped, rest⟩
      have before : group.stopped = true := (allTasksStopped_iff.mp stopped).1
      exact responsive ⟨sound.stopped_iff.mpr before, rest⟩
  | check index => exact iff_of_true (settled_waiter responsive index _ (Or.inl rfl)) trivial
  | create index =>
      exact iff_of_true (settled_waiter responsive index _ (Or.inr (Or.inl rfl))) trivial
  | await index =>
      exact iff_of_true (settled_waiter responsive index _ (Or.inr (Or.inr rfl))) trivial

/-- In every run no waiter is lost, wherever it goes on from, exactly as far as every
stop and every last notification is in time. -/
theorem no_lost_wakeup_iff (events : List TaskEvent) :
    Machine.Along step (fun group event => (group.step event).1.Responsive) new events ↔
      Machine.Along step InTime new events := by
  apply Machine.along_kept_iff step Sound Responsive
  · intro group event sound responsive
    exact ⟨sound.step event, responsive_step sound responsive event⟩
  · exact sound_new
  · apply responsive_iff.mpr
    intro quiet
    cases quiet.1

/-- The last task ends between the check and the creation of the future; a group without
tasks is stopped. -/
theorem waiter_lost :
    (Machine.run step new
        [.spawn, .check 0, .removeTask 0, .notifyWaiters 0, .create 0, .await 0]).1.Lost 0 ∧
      (Machine.run step new [.check 0, .create 0, .await 0, .stop]).1.Lost 0 := by
  constructor
  · exact ⟨by decide, by decide, by decide, by decide⟩
  · exact ⟨by decide, by decide, by decide, by decide⟩

end Waiting

end TaskGroup
end VntClient
