import VntClient.Chronicle
import VntClient.Table

/-!
A loop that hands each item to a worker of its key through a bounded channel: it looks
the channel up or opens one with a new worker, and then tries to send; meanwhile workers
take, fail and end. Seen from one key the table is a single line, and what becomes of
the items is settled there.
-/

namespace KeyedQueues

theorem filterMap_sublist {Source Target : Type} {less more : Source → Option Target}
    {list : List Source}
    (weaker : ∀ source ∈ list, ∀ target, less source = some target → more source = some target) :
    (list.filterMap less).Sublist (list.filterMap more) := by
  induction list with
  | nil => exact .slnil
  | cons source rest ih =>
      have others := ih fun inner within => weaker inner (List.mem_cons_of_mem _ within)
      rw [List.filterMap_cons, List.filterMap_cons]
      cases kept : less source with
      | none =>
          cases more source with
          | none => exact others
          | some target => exact others.cons target
      | some target =>
          rw [weaker source List.mem_cons_self target kept]
          exact others.cons_cons target

inductive Fate (Item : Type) where
  | arrived (item : Item)
  | taken (item : Item)
  /-- Dropped in front of that many waiting items. -/
  | full (item : Item) (waiting : Nat)
  /-- Dropped because the worker had ended. -/
  | refused (item : Item)
  /-- Given up by a worker together with the rest of its channel. -/
  | abandoned (item : Item)
  | ended

namespace Fate
variable {Item : Type}

def arrival : Fate Item → Option Item
  | arrived item => some item
  | _ => none

def taking : Fate Item → Option Item
  | taken item => some item
  | _ => none

def loss : Fate Item → Option Item
  | full item _ | refused item | abandoned item => some item
  | _ => none

def isRefused : Fate Item → Bool
  | refused _ => true
  | _ => false

def isEnded : Fate Item → Bool
  | ended => true
  | _ => false

end Fate

section Line
variable {Item : Type}

/-- The worker of one key. -/
inductive Phase (Item : Type) where
  | absent
  | running (queue : List Item)
  | stopped

structure Line (Item : Type) where
  phase : Phase Item
  /-- Looked up and not sent yet. -/
  sending : Option Item

inductive LineEvent (Item : Type) where
  | receive (item : Item)
  | send
  | take (written : Bool)
  | finish

namespace Line

def empty : Line Item := ⟨.absent, none⟩

def queue (line : Line Item) : List Item :=
  match line.phase with
  | .running queue => queue
  | _ => []

def waiting (line : Line Item) : List Item := line.queue ++ line.sending.toList

def isStopped (line : Line Item) : Bool :=
  match line.phase with
  | .stopped => true
  | _ => false

def giveUp (line : Line Item) (queue : List Item) : Line Item × List (Fate Item) :=
  ({ line with phase := .stopped }, queue.map .abandoned ++ [.ended])

def step (capacity : Nat) (line : Line Item) : LineEvent Item → Line Item × List (Fate Item)
  | .receive item =>
      match line.sending with
      | some _ => (line, [])
      | none =>
          match line.phase with
          | .absent => (⟨.running [], some item⟩, [.arrived item])
          | phase => (⟨phase, some item⟩, [.arrived item])
  | .send =>
      match line.sending with
      | none => (line, [])
      | some item =>
          match line.phase with
          | .absent => (line, [])
          | .stopped => (⟨.absent, none⟩, [.refused item])
          | .running queue =>
              if queue.length < capacity then (⟨.running (queue ++ [item]), none⟩, [])
              else (⟨.running queue, none⟩, [.full item queue.length])
  | .take written =>
      match line.phase with
      | .running (item :: rest) =>
          if written then ({ line with phase := .running rest }, [.taken item])
          else line.giveUp (item :: rest)
      | _ => (line, [])
  | .finish =>
      match line.phase with
      | .running queue => line.giveUp queue
      | _ => (line, [])

/-- Nothing is invented, doubled or overtaken; an item is dropped in front of a full channel
or because of a worker that ended, and each of these costs one item besides its channel. -/
structure Accounts (capacity : Nat) (line : Line Item) (fates : List (Fate Item)) : Prop where
  order : (fates.filterMap Fate.taking ++ line.waiting).Sublist (fates.filterMap Fate.arrival)
  total : (fates.filterMap Fate.arrival).Perm
    (fates.filterMap Fate.taking ++ line.waiting ++ fates.filterMap Fate.loss)
  ends : fates.countP Fate.isEnded =
    fates.countP Fate.isRefused + if line.isStopped then 1 else 0
  full : ∀ item waiting, .full item waiting ∈ fates → waiting = capacity
  bounded : line.queue.length ≤ capacity

variable {capacity : Nat} {line : Line Item} {fates : List (Fate Item)}

theorem accounts_empty : Accounts capacity (empty : Line Item) [] where
  order := .slnil
  total := .nil
  ends := rfl
  full _ _ noted := absurd noted List.not_mem_nil
  bounded := Nat.zero_le _

/-- A step keeps the accounts if what it takes, loses and leaves comes from what waited and
what arrived, in this order. -/
theorem Accounts.extend {after : Line Item} {new : List (Fate Item)}
    (accounts : Accounts capacity line fates)
    (order : (new.filterMap Fate.taking ++ after.waiting).Sublist
      (line.waiting ++ new.filterMap Fate.arrival))
    (total : (line.waiting ++ new.filterMap Fate.arrival).Perm
      (new.filterMap Fate.taking ++ after.waiting ++ new.filterMap Fate.loss))
    (ends : (new.countP Fate.isEnded + if line.isStopped then 1 else 0) =
      new.countP Fate.isRefused + if after.isStopped then 1 else 0)
    (full : ∀ item waiting, .full item waiting ∈ new → waiting = capacity)
    (bounded : after.queue.length ≤ capacity) : Accounts capacity after (fates ++ new) where
  order := by
    rw [List.filterMap_append, List.filterMap_append, List.append_assoc]
    refine (order.append_left _).trans ?_
    rw [← List.append_assoc]
    exact accounts.order.append_right _
  total := by
    have before := accounts.total
    rw [← Multiset.coe_eq_coe] at before total ⊢
    simp only [List.filterMap_append, ← Multiset.coe_add] at before total ⊢
    rw [before, add_right_comm, add_assoc (Multiset.ofList (fates.filterMap Fate.taking)), total]
    abel
  ends := by
    rw [List.countP_append, List.countP_append, accounts.ends]
    omega
  full item waiting noted := (List.mem_append.mp noted).elim (accounts.full item waiting)
    (full item waiting)
  bounded := bounded

/-- Where nothing was lost, all is taken or waits, in its order. -/
theorem Accounts.lossless (accounts : Accounts capacity line fates)
    (none : fates.filterMap Fate.loss = []) :
    fates.filterMap Fate.taking ++ line.waiting = fates.filterMap Fate.arrival := by
  have total := accounts.total.length_eq
  rw [none, List.append_nil] at total
  exact accounts.order.eq_of_length total.symm

theorem giveUp_accounts {queue : List Item} (running : line.phase = .running queue)
    (accounts : Accounts capacity line fates) :
    Accounts capacity (line.giveUp queue).1 (fates ++ (line.giveUp queue).2) := by
  obtain ⟨phase, sending⟩ := line
  cases running
  have loss : (giveUp ⟨.running queue, sending⟩ queue).2.filterMap Fate.loss = queue := by
    simp [giveUp, Function.comp_def, Fate.loss]
  have taking : (giveUp ⟨.running queue, sending⟩ queue).2.filterMap Fate.taking = [] := by
    simp [giveUp, Function.comp_def, Fate.taking]
  have arrival : (giveUp ⟨.running queue, sending⟩ queue).2.filterMap Fate.arrival = [] := by
    simp [giveUp, Function.comp_def, Fate.arrival]
  apply accounts.extend
  · rw [taking, arrival, List.append_nil]
    exact List.sublist_append_right queue _
  · rw [taking, arrival, loss, List.append_nil]
    exact List.perm_append_comm
  · simp [giveUp, Function.comp_def, Fate.isEnded, Fate.isRefused, isStopped]
  · intro item waiting noted
    simp [giveUp] at noted
  · exact Nat.zero_le _

theorem step_accounts (event : LineEvent Item) (accounts : Accounts capacity line fates) :
    Accounts capacity (line.step capacity event).1 (fates ++ (line.step capacity event).2) := by
  have same : Accounts capacity line (fates ++ []) := by rwa [List.append_nil]
  have bounded := accounts.bounded
  obtain ⟨phase, sending⟩ := line
  cases event with
  | receive item =>
      cases sending with
      | some held => exact same
      | none =>
          cases phase with
          | absent =>
              exact accounts.extend (.refl _) (.refl _) rfl (by simp [step]) (Nat.zero_le _)
          | stopped =>
              exact accounts.extend (.refl _) (.refl _) rfl (by simp [step]) (Nat.zero_le _)
          | running queue =>
              have lined : waiting ⟨.running queue, some item⟩ =
                  waiting ⟨.running queue, none⟩ ++ [item] := by simp [waiting, Line.queue]
              apply accounts.extend
              · rw [step, lined]
                exact .refl _
              · rw [step, lined]
                simp [List.filterMap_cons, Fate.taking, Fate.arrival, Fate.loss]
              · rfl
              · simp [step]
              · exact bounded
  | send =>
      cases sending with
      | none => exact same
      | some item =>
          cases phase with
          | absent => exact same
          | stopped =>
              exact accounts.extend (List.nil_sublist _) (.refl _) rfl (by simp [step])
                (Nat.zero_le _)
          | running queue =>
              rw [step]
              by_cases room : queue.length < capacity
              · simp only [room, ↓reduceIte]
                apply accounts.extend
                · simp [waiting, Line.queue]
                · simp [waiting, Line.queue]
                · rfl
                · simp
                · simp only [Line.queue, List.length_append, List.length_singleton]
                  omega
              · simp only [room, ↓reduceIte]
                have brim : queue.length = capacity := by
                  simp only [Line.queue] at bounded
                  omega
                apply accounts.extend
                · simp [waiting, Line.queue, Fate.taking, Fate.arrival]
                · simp [List.filterMap_cons, waiting, Line.queue, Fate.taking, Fate.arrival, Fate.loss]
                · rfl
                · rintro other waiting noted
                  cases List.mem_singleton.mp noted
                  exact brim
                · exact bounded
  | take written =>
      cases phase with
      | absent | stopped => exact same
      | running queue =>
          cases queue with
          | nil => exact same
          | cons item rest =>
              cases written with
              | true =>
                  apply accounts.extend
                  · simp [step, waiting, Line.queue, Fate.taking, Fate.arrival]
                  · simp [List.filterMap_cons, step, waiting, Line.queue, Fate.taking, Fate.arrival,
                      Fate.loss]
                  · rfl
                  · simp [step]
                  · exact (Nat.le_succ _).trans bounded
              | false => exact giveUp_accounts rfl accounts
  | finish =>
      cases phase with
      | absent | stopped => exact same
      | running queue => exact giveUp_accounts rfl accounts

theorem run_accounts (capacity : Nat) (events : List (LineEvent Item)) :
    Accounts capacity (Machine.run (step capacity) empty events).1
      (Machine.run (step capacity) empty events).2 :=
  Machine.run_invariant (step capacity) (Accounts capacity) events
    (fun _ _ event _ => step_accounts event) empty [] accounts_empty

end Line
end Line

variable {Key Item : Type}

structure Worker (Key Item : Type) where
  key : Key
  queue : List Item
  running : Bool
deriving DecidableEq

structure Sending (Key Item : Type) where
  key : Key
  worker : Nat
  item : Item

/-- Workers are known by their number; `sending` stands between the look-up and the send. -/
structure State (Key Item : Type) where
  map : AList fun _ : Key => Nat
  workers : List (Worker Key Item)
  sending : Option (Sending Key Item)

inductive Event (Key Item : Type) where
  | receive (key : Key) (item : Item)
  | send
  | take (worker : Nat) (written : Bool)
  | finish (worker : Nat)

structure Note (Key Item : Type) where
  key : Key
  worker : Nat
  fate : Fate Item

def Worker.phase (worker : Worker Key Item) : Phase Item :=
  if worker.running then .running worker.queue else .stopped

namespace State

def empty : State Key Item := ⟨∅, [], none⟩

def setWorker (state : State Key Item) (number : Nat) (worker : Worker Key Item) :
    State Key Item :=
  { state with workers := state.workers.set number worker }

def stop (state : State Key Item) (number : Nat) (worker : Worker Key Item) :
    State Key Item × List (Note Key Item) :=
  (state.setWorker number { worker with queue := [], running := false },
    (worker.queue.map Fate.abandoned ++ [Fate.ended]).map fun fate => ⟨worker.key, number, fate⟩)

variable [DecidableEq Key]

def step (capacity : Nat) (state : State Key Item) :
    Event Key Item → State Key Item × List (Note Key Item)
  | .receive key item =>
      match state.sending with
      | some _ => (state, [])
      | none =>
          match state.map.lookup key with
          | some number =>
              ({ state with sending := some ⟨key, number, item⟩ }, [⟨key, number, .arrived item⟩])
          | none =>
              let number := state.workers.length
              (⟨state.map.insert key number, state.workers ++ [⟨key, [], true⟩],
                some ⟨key, number, item⟩⟩, [⟨key, number, .arrived item⟩])
  | .send =>
      match state.sending with
      | none => (state, [])
      | some ⟨key, number, item⟩ =>
          match state.workers[number]? with
          | none => (state, [])
          | some worker =>
              if !worker.running then
                ({ state with map := state.map.erase key, sending := none },
                  [⟨key, number, .refused item⟩])
              else if worker.queue.length < capacity then
                ({ state.setWorker number { worker with queue := worker.queue ++ [item] } with
                  sending := none }, [])
              else ({ state with sending := none },
                [⟨key, number, .full item worker.queue.length⟩])
  | .take number written =>
      match state.workers[number]? with
      | none => (state, [])
      | some worker =>
          if !worker.running then (state, [])
          else match worker.queue with
            | [] => (state, [])
            | item :: rest =>
                if written then
                  (state.setWorker number { worker with queue := rest },
                    [⟨worker.key, number, .taken item⟩])
                else state.stop number worker
  | .finish number =>
      match state.workers[number]? with
      | none => (state, [])
      | some worker => if worker.running then state.stop number worker else (state, [])

/-- The table names workers of its keys, and every worker that runs. -/
structure Sound (state : State Key Item) : Prop where
  named : ∀ key number, state.map.lookup key = some number →
    ∃ worker, state.workers[number]? = some worker ∧ worker.key = key
  held : ∀ number worker, state.workers[number]? = some worker → worker.running = true →
    state.map.lookup worker.key = some number
  ready : ∀ key number item, state.sending = some ⟨key, number, item⟩ →
    state.map.lookup key = some number

def phase (state : State Key Item) (key : Key) : Phase Item :=
  match (state.map.lookup key).bind fun number => state.workers[number]? with
  | none => .absent
  | some worker => worker.phase

def line (state : State Key Item) (key : Key) : Line Item where
  phase := state.phase key
  sending := (state.sending.filter fun sending => sending.key = key).map Sending.item

end State

def Note.about [DecidableEq Key] (key : Key) (note : Note Key Item) : Option (Fate Item) :=
  if note.key = key then some note.fate else none

namespace State
variable [DecidableEq Key] {capacity : Nat} {state : State Key Item}

theorem sound_empty : Sound (empty : State Key Item) where
  named _ _ found := by cases found
  held _ _ found := by cases found
  ready _ _ _ found := by cases found

theorem phase_of_lookup (sound : state.Sound) {key : Key} {number : Nat}
    (found : state.map.lookup key = some number) :
    ∃ worker, state.workers[number]? = some worker ∧ worker.key = key ∧
      state.phase key = worker.phase := by
  obtain ⟨worker, there, named⟩ := sound.named key number found
  refine ⟨worker, there, named, ?_⟩
  rw [phase, found, Option.bind_some, there]

/-- A running worker that changes is a change for its own key only. -/
theorem sound_setWorker (sound : state.Sound) {number : Nat} {worker after : Worker Key Item}
    (there : state.workers[number]? = some worker) (running : worker.running = true)
    (kept : after.key = worker.key) : (state.setWorker number after).Sound where
  named key other found := by
    obtain ⟨held, inside, named⟩ := sound.named key other found
    by_cases same : other = number
    · subst same
      rw [there] at inside
      obtain rfl := Option.some.inj inside
      exact ⟨after, by simp [setWorker, List.getElem?_set_self', there], kept.trans named⟩
    · exact ⟨held, by rwa [setWorker, List.getElem?_set_ne (Ne.symm same)], named⟩
  held other held inside runs := by
    by_cases same : other = number
    · subst same
      have new : after = held := by simpa [setWorker, List.getElem?_set_self', there] using inside
      rw [← new, kept]
      exact sound.held other worker there running
    · rw [setWorker, List.getElem?_set_ne (Ne.symm same)] at inside
      exact sound.held other held inside runs
  ready := sound.ready

theorem phase_setWorker (sound : state.Sound) {number : Nat} {worker : Worker Key Item}
    (after : Worker Key Item) (there : state.workers[number]? = some worker)
    (running : worker.running = true) (key : Key) :
    (state.setWorker number after).phase key =
      if worker.key = key then after.phase else state.phase key := by
  by_cases same : worker.key = key
  · subst same
    rw [if_pos rfl, phase, setWorker, sound.held number worker there running, Option.bind_some,
      List.getElem?_set_self', there]
    rfl
  · rw [if_neg same, phase, phase]
    cases found : state.map.lookup key with
    | none => simp [setWorker, found]
    | some other =>
        obtain ⟨held, inside, named⟩ := sound.named key other found
        have apart : number ≠ other := by
          rintro rfl
          rw [there] at inside
          exact same (Option.some.inj inside ▸ named)
        simp [setWorker, found, List.getElem?_set_ne apart]

theorem line_setWorker (sound : state.Sound) {number : Nat} {worker after : Worker Key Item}
    (there : state.workers[number]? = some worker) (running : worker.running = true) (key : Key) :
    (state.setWorker number after).line key =
      if worker.key = key then ⟨after.phase, (state.line key).sending⟩ else state.line key := by
  rw [line, phase_setWorker sound after there running key]
  split <;> rfl

/-- What the notes of one worker say of a key. -/
theorem about_notes (key own : Key) (number : Nat) (fates : List (Fate Item)) :
    (fates.map fun fate => Note.mk own number fate).filterMap (Note.about key) =
      if own = key then fates else [] := by
  by_cases same : own = key
  · simp [List.filterMap_map, Function.comp_def, Note.about, same]
  · simp [List.filterMap_map, Function.comp_def, Note.about, same]

theorem stop_simulated (sound : state.Sound) {number : Nat} {worker : Worker Key Item}
    (there : state.workers[number]? = some worker) (running : worker.running = true) (key : Key)
    (same : worker.key = key) :
    (state.stop number worker).1.line key = ((state.line key).giveUp worker.queue).1 ∧
      (state.stop number worker).2.filterMap (Note.about key) =
        ((state.line key).giveUp worker.queue).2 := by
  constructor
  · rw [stop, line_setWorker sound there running, if_pos same]
    rfl
  · rw [stop, about_notes, if_pos same]
    rfl

theorem stop_apart (sound : state.Sound) {number : Nat} {worker : Worker Key Item}
    (there : state.workers[number]? = some worker) (running : worker.running = true) (key : Key)
    (apart : worker.key ≠ key) :
    (state.stop number worker).1.line key = state.line key ∧
      (state.stop number worker).2.filterMap (Note.about key) = [] := by
  constructor
  · rw [stop, line_setWorker sound there running, if_neg apart]
  · rw [stop, about_notes, if_neg apart]

theorem phase_running (sound : state.Sound) {number : Nat} {worker : Worker Key Item}
    (there : state.workers[number]? = some worker) (running : worker.running = true) :
    state.phase worker.key = .running worker.queue := by
  rw [phase, sound.held number worker there running, Option.bind_some, there]
  simp [Worker.phase, running]

def opened (state : State Key Item) (key : Key) : State Key Item :=
  { state with
    map := state.map.insert key state.workers.length
    workers := state.workers ++ [⟨key, [], true⟩] }

theorem workers_opened {number : Nat} {worker : Worker Key Item} (key : Key)
    (there : state.workers[number]? = some worker) :
    (state.opened key).workers[number]? = some worker := by
  have inside := (List.getElem?_eq_some_iff.mp there).1
  rwa [opened, List.getElem?_append_left inside]

theorem phase_opened (sound : state.Sound) (own key : Key) :
    (state.opened own).phase key = if own = key then .running [] else state.phase key := by
  by_cases same : own = key
  · subst same
    simp [opened, phase, Worker.phase]
  · rw [if_neg same, phase, phase, opened, AList.lookup_insert_ne (Ne.symm same)]
    cases found : state.map.lookup key with
    | none => rfl
    | some number =>
        obtain ⟨worker, there, _⟩ := sound.named key number found
        have still := workers_opened own there
        rw [opened] at still
        rw [Option.bind_some, Option.bind_some, there, still]

theorem sound_opened (sound : state.Sound) {own : Key} (absent : state.map.lookup own = none)
    (idle : state.sending = none) : (state.opened own).Sound where
  named key number found := by
    by_cases same : key = own
    · subst same
      rw [opened, AList.lookup_insert] at found
      obtain rfl := Option.some.inj found
      exact ⟨⟨key, [], true⟩, by simp [opened], rfl⟩
    · rw [opened, AList.lookup_insert_ne same] at found
      obtain ⟨worker, there, named⟩ := sound.named key number found
      exact ⟨worker, workers_opened own there, named⟩
  held number worker there running := by
    by_cases inside : number < state.workers.length
    · rw [opened, List.getElem?_append_left inside] at there
      have before := sound.held number worker there running
      have apart : worker.key ≠ own := by
        rintro rfl
        rw [absent] at before
        cases before
      rw [opened, AList.lookup_insert_ne apart, before]
    · rw [opened, List.getElem?_append_right (by omega)] at there
      have last := List.getElem?_eq_some_iff.mp there
      have first : number = state.workers.length := by
        have bound := last.1
        simp only [List.length_singleton] at bound
        omega
      subst first
      obtain rfl : (⟨own, [], true⟩ : Worker Key Item) = worker := by simpa using there
      exact AList.lookup_insert _
  ready key number item found := by
    rw [opened, idle] at found
    cases found

variable (capacity) in
theorem step_receive (idle : state.sending = none) (key : Key) (item : Item) :
    (∃ number, state.map.lookup key = some number ∧
      state.step capacity (.receive key item) =
        ({ state with sending := some ⟨key, number, item⟩ }, [⟨key, number, .arrived item⟩])) ∨
    (state.map.lookup key = none ∧ state.step capacity (.receive key item) =
      ({ state.opened key with sending := some ⟨key, state.workers.length, item⟩ },
        [⟨key, state.workers.length, .arrived item⟩])) := by
  rw [step, idle]
  cases found : state.map.lookup key with
  | some number => exact .inl ⟨number, rfl, rfl⟩
  | none => exact .inr ⟨rfl, rfl⟩

/-- An item that arrives is looked up on the line of its key. -/
theorem receive_simulated (sound : state.Sound) (idle : state.sending = none) (own : Key)
    (item : Item) (key : Key) :
    ((state.step capacity (.receive own item)).1.line key = state.line key ∧
      (state.step capacity (.receive own item)).2.filterMap (Note.about key) = []) ∨
    ((state.step capacity (.receive own item)).1.line key =
        ((state.line key).step capacity (.receive item)).1 ∧
      (state.step capacity (.receive own item)).2.filterMap (Note.about key) =
        ((state.line key).step capacity (.receive item)).2) := by
  have before : state.line key = ⟨state.phase key, none⟩ := by rw [line, idle]; rfl
  rcases step_receive capacity idle own item with
    ⟨number, found, stepped⟩ | ⟨absent, stepped⟩
  · rw [stepped]
    by_cases same : own = key
    · subst same
      obtain ⟨worker, _, _, phased⟩ := phase_of_lookup sound found
      refine .inr ?_
      rw [before, phased]
      have after : ({ state with sending := some ⟨own, number, item⟩ } : State Key Item).line own =
          ⟨worker.phase, some item⟩ := by
        rw [← phased]
        simp [line, phase]
      rw [after]
      unfold Worker.phase
      cases worker.running <;> simp [Line.step, Note.about]
    · refine .inl ?_
      simp [line, phase, idle, same, Note.about]
  · rw [stepped]
    -- A key without a worker gets a new one, which nobody else sends to yet.
    by_cases same : own = key
    · subst same
      refine .inr ?_
      have none : state.phase own = .absent := by simp [phase, absent]
      have after : ({ state.opened own with
          sending := some ⟨own, state.workers.length, item⟩ } : State Key Item).line own =
            ⟨.running [], some item⟩ := by
        have opening := phase_opened sound own own
        rw [if_pos rfl] at opening
        rw [line]
        exact congrArg₂ Line.mk opening (by simp)
      rw [before, none, after]
      simp [Line.step, Note.about]
    · refine .inl ?_
      have after : ({ state.opened own with
          sending := some ⟨own, state.workers.length, item⟩ } : State Key Item).line key =
            ⟨state.phase key, none⟩ := by
        have opening := phase_opened sound own key
        rw [if_neg same] at opening
        rw [line]
        exact congrArg₂ Line.mk opening (by simp [same])
      rw [before, after]
      simp [Note.about, same]

theorem line_sending {own : Key} {number : Nat} {item : Item}
    (pending : state.sending = some ⟨own, number, item⟩) (key : Key) :
    state.line key = ⟨state.phase key, if own = key then some item else none⟩ := by
  rw [line, pending]
  by_cases same : own = key <;> simp [same]

variable (capacity) in
/-- The three ways an item that was looked up goes. -/
theorem step_send (sound : state.Sound) {own : Key} {number : Nat} {item : Item}
    (pending : state.sending = some ⟨own, number, item⟩) :
    ∃ worker, state.workers[number]? = some worker ∧ worker.key = own ∧
      ((worker.running = false ∧ state.step capacity .send =
          ({ state with map := state.map.erase own, sending := none },
            [⟨own, number, .refused item⟩])) ∨
        (worker.running = true ∧ worker.queue.length < capacity ∧ state.step capacity .send =
          ({ state.setWorker number { worker with queue := worker.queue ++ [item] } with
            sending := none }, [])) ∨
        (worker.running = true ∧ capacity ≤ worker.queue.length ∧ state.step capacity .send =
          ({ state with sending := none }, [⟨own, number, .full item worker.queue.length⟩]))) := by
  obtain ⟨worker, there, named, _⟩ := phase_of_lookup sound (sound.ready own number item pending)
  refine ⟨worker, there, named, ?_⟩
  rw [step, pending]
  cases running : worker.running with
  | false => exact .inl ⟨rfl, by simp [there, running]⟩
  | true =>
      by_cases room : worker.queue.length < capacity
      · exact .inr (.inl ⟨rfl, room, by simp [there, running, room]⟩)
      · exact .inr (.inr ⟨rfl, Nat.le_of_not_lt room, by simp [there, running, room]⟩)

inductive WorkerStep (capacity : Nat) (state : State Key Item) (event : Event Key Item)
    (lineEvent : LineEvent Item) : Prop
  | idle (same : state.step capacity event = (state, []))
  | took (number : Nat) (worker : Worker Key Item) (item : Item) (rest : List Item)
      (there : state.workers[number]? = some worker) (running : worker.running = true)
      (queue : worker.queue = item :: rest) (given : lineEvent = .take true)
      (stepped : state.step capacity event =
        (state.setWorker number { worker with queue := rest },
          [⟨worker.key, number, .taken item⟩]))
  | ended (number : Nat) (worker : Worker Key Item)
      (there : state.workers[number]? = some worker) (running : worker.running = true)
      (given : lineEvent = .finish ∨ (lineEvent = .take false ∧ worker.queue ≠ []))
      (stepped : state.step capacity event = state.stop number worker)

theorem step_take (number : Nat) (written : Bool) :
    WorkerStep capacity state (.take number written) (.take written) := by
  cases there : state.workers[number]? with
  | none => exact .idle (by rw [step, there])
  | some worker =>
      cases running : worker.running with
      | false => exact .idle (by simp [step, there, running])
      | true =>
          cases queue : worker.queue with
          | nil => exact .idle (by simp [step, there, running, queue])
          | cons item rest =>
              cases written with
              | true =>
                  exact .took number worker item rest there running queue rfl
                    (by simp [step, there, running, queue])
              | false =>
                  exact .ended number worker there running (.inr ⟨rfl, by simp [queue]⟩)
                    (by simp [step, there, running, queue])

theorem step_finish (number : Nat) :
    WorkerStep capacity state (.finish number) .finish := by
  cases there : state.workers[number]? with
  | none => exact .idle (by rw [step, there])
  | some worker =>
      cases running : worker.running with
      | false => exact .idle (by simp [step, there, running])
      | true =>
          exact .ended number worker there running (.inl rfl) (by simp [step, there, running])

theorem send_simulated (sound : state.Sound) {own : Key} {number : Nat} {item : Item}
    (pending : state.sending = some ⟨own, number, item⟩) (key : Key) :
    ((state.step capacity .send).1.line key = state.line key ∧
      (state.step capacity .send).2.filterMap (Note.about key) = []) ∨
    ((state.step capacity .send).1.line key = ((state.line key).step capacity .send).1 ∧
      (state.step capacity .send).2.filterMap (Note.about key) =
        ((state.line key).step capacity .send).2) := by
  have before := line_sending pending key
  obtain ⟨worker, there, rfl, sent⟩ := step_send capacity sound pending
  have named := sound.ready worker.key number item pending
  -- Its worker has ended, or has room, or its channel is full.
  rcases sent with ⟨running, stepped⟩ | ⟨running, room, stepped⟩ | ⟨running, brim, stepped⟩
  · rw [stepped]
    by_cases same : worker.key = key
    · subst same
      have stopped : state.phase worker.key = .stopped := by
        simp [phase, named, there, Worker.phase, running]
      refine .inr ?_
      rw [before, if_pos rfl, stopped]
      simp [line, phase, Line.step, Note.about]
    · refine .inl ?_
      rw [before, if_neg same]
      simp [line, phase, AList.lookup_erase_ne (Ne.symm same), Note.about, same]
  · have moved := phase_setWorker sound { worker with queue := worker.queue ++ [item] } there
      running key
    have after : (state.step capacity .send).1.line key =
        ⟨(state.setWorker number { worker with queue := worker.queue ++ [item] }).phase key,
          none⟩ := by
      rw [stepped]
      rfl
    rw [after, moved, before, stepped]
    by_cases same : worker.key = key
    · subst same
      refine .inr ?_
      rw [if_pos rfl, if_pos rfl, phase_running sound there running]
      simp [Line.step, room, Worker.phase, running]
    · exact .inl ⟨by rw [if_neg same, if_neg same], rfl⟩
  · have after : (state.step capacity .send).1.line key = ⟨state.phase key, none⟩ := by
      rw [stepped]
      rfl
    rw [after, before, stepped]
    by_cases same : worker.key = key
    · subst same
      refine .inr ?_
      rw [if_pos rfl, phase_running sound there running]
      simp [Line.step, Nat.not_lt.mpr brim, Note.about]
    · exact .inl ⟨by rw [if_neg same], by simp [Note.about, same]⟩

theorem worker_simulated (sound : state.Sound) {event : Event Key Item}
    {lineEvent : LineEvent Item} (made : WorkerStep capacity state event lineEvent) (key : Key) :
    ((state.step capacity event).1.line key = state.line key ∧
      (state.step capacity event).2.filterMap (Note.about key) = []) ∨
    ((state.step capacity event).1.line key = ((state.line key).step capacity lineEvent).1 ∧
      (state.step capacity event).2.filterMap (Note.about key) =
        ((state.line key).step capacity lineEvent).2) := by
  -- A worker touches the line of its key only.
  cases made with
  | idle same => exact .inl (by rw [same]; exact ⟨rfl, rfl⟩)
  | took number worker item rest there running queue given stepped =>
      have runs := phase_running sound there running
      rw [queue] at runs
      rw [stepped, line_setWorker sound there running, given]
      by_cases same : worker.key = key
      · subst same
        refine .inr ?_
        rw [if_pos rfl]
        simp [line, runs, Line.step, Worker.phase, running, Note.about]
      · exact .inl ⟨if_neg same, by simp [Note.about, same]⟩
  | ended number worker there running given stepped =>
      rw [stepped]
      by_cases same : worker.key = key
      · have stopped := stop_simulated sound there running key same
        subst same
        have runs := phase_running sound there running
        have gives : (state.line worker.key).step capacity lineEvent =
            (state.line worker.key).giveUp worker.queue := by
          rcases given with rfl | ⟨rfl, some⟩
          · simp [Line.step, line, runs]
          · obtain ⟨item, rest, split⟩ := List.exists_cons_of_ne_nil some
            simp [Line.step, line, runs, split]
        exact .inr (by rwa [gives])
      · exact .inl (stop_apart sound there running key same)

/-- A step of the table is a step of the line of its key and nothing to the other lines. -/
theorem step_simulated (sound : state.Sound) (event : Event Key Item) (key : Key) :
    ((state.step capacity event).1.line key = state.line key ∧
      (state.step capacity event).2.filterMap (Note.about key) = []) ∨
    ∃ lineEvent, (state.step capacity event).1.line key =
        ((state.line key).step capacity lineEvent).1 ∧
      (state.step capacity event).2.filterMap (Note.about key) =
        ((state.line key).step capacity lineEvent).2 := by
  cases event with
  | receive own item =>
      cases busy : state.sending with
      | some sending => exact .inl (by rw [step, busy]; exact ⟨rfl, rfl⟩)
      | none => exact (receive_simulated sound busy own item key).imp_right fun here => ⟨_, here⟩
  | send =>
      cases pending : state.sending with
      | none => exact .inl (by rw [step, pending]; exact ⟨rfl, rfl⟩)
      | some sending => exact (send_simulated sound pending key).imp_right fun here => ⟨_, here⟩
  | take number written =>
      exact (worker_simulated sound (step_take number written) key).imp_right fun here => ⟨_, here⟩
  | finish number =>
      exact (worker_simulated sound (step_finish number) key).imp_right fun here => ⟨_, here⟩

theorem Sound.idle (sound : state.Sound) : Sound { state with sending := none } where
  named := sound.named
  held := sound.held
  ready _ _ _ found := by cases found

theorem sound_erase (sound : state.Sound) {number : Nat} {worker : Worker Key Item}
    (there : state.workers[number]? = some worker) (stopped : worker.running = false)
    (named : state.map.lookup worker.key = some number) :
    Sound { state with map := state.map.erase worker.key, sending := none } where
  named key other found := by
    by_cases same : key = worker.key
    · rw [same, AList.lookup_erase] at found
      cases found
    · rw [AList.lookup_erase_ne same] at found
      exact sound.named key other found
  held other held inside running := by
    have before := sound.held other held inside running
    have apart : held.key ≠ worker.key := by
      intro same
      rw [same, named] at before
      obtain rfl := Option.some.inj before
      rw [there] at inside
      rw [Option.some.inj inside, running] at stopped
      cases stopped
    rw [AList.lookup_erase_ne apart, before]
  ready _ _ _ found := by cases found

theorem sound_worker (sound : state.Sound) {event : Event Key Item} {lineEvent : LineEvent Item}
    (made : WorkerStep capacity state event lineEvent) : (state.step capacity event).1.Sound := by
  cases made with
  | idle same => rwa [same]
  | took number worker item rest there running queue given stepped =>
      rw [stepped]
      exact sound_setWorker sound there running rfl
  | ended number worker there running given stepped =>
      rw [stepped]
      exact sound_setWorker sound there running rfl

theorem sound_step (sound : state.Sound) (event : Event Key Item) :
    (state.step capacity event).1.Sound := by
  cases event with
  | receive own item =>
      cases busy : state.sending with
      | some sending => rwa [step, busy]
      | none =>
          rcases step_receive capacity busy own item with
            ⟨number, found, stepped⟩ | ⟨absent, stepped⟩
          · rw [stepped]
            exact ⟨sound.named, sound.held, fun key other held same => by cases same; exact found⟩
          · rw [stepped]
            have opened := sound_opened sound absent busy
            refine ⟨opened.named, opened.held, fun key other held same => ?_⟩
            cases same
            exact AList.lookup_insert _
  | send =>
      cases pending : state.sending with
      | none => rwa [step, pending]
      | some sending =>
          obtain ⟨worker, there, same, sent⟩ := step_send capacity sound pending
          rcases sent with ⟨stopped, stepped⟩ | ⟨running, _, stepped⟩ | ⟨_, _, stepped⟩
          · rw [stepped, ← same]
            exact sound_erase sound there stopped (same ▸ sound.ready _ _ _ pending)
          · have queued : (state.setWorker sending.worker
                { worker with queue := worker.queue ++ [sending.item] }).Sound :=
              sound_setWorker sound there running rfl
            rw [stepped]
            exact queued.idle
          · rw [stepped]
            exact sound.idle
  | take number written => exact sound_worker sound (step_take number written)
  | finish number => exact sound_worker sound (step_finish number)

theorem run_sound (events : List (Event Key Item)) (sound : state.Sound) :
    (Machine.run (step capacity) state events).1.Sound :=
  Machine.run_invariant (step capacity) (fun state _ => state.Sound) events
    (fun _ _ event _ kept => sound_step kept event) state [] sound

/-- Two workers of one key never run side by side. -/
theorem Sound.single (sound : state.Sound) {first second : Nat} {one two : Worker Key Item}
    (here : state.workers[first]? = some one) (there : state.workers[second]? = some two)
    (same : one.key = two.key) (oneRuns : one.running = true) (twoRuns : two.running = true) :
    first = second := by
  have found := sound.held first one here oneRuns
  rw [same, sound.held second two there twoRuns] at found
  exact (Option.some.inj found).symm

/-- Whatever is interleaved, each key's items are accounted for on a line of their own. -/
theorem run_accounts (capacity : Nat) (events : List (Event Key Item)) (key : Key) :
    Line.Accounts capacity ((Machine.run (step capacity) empty events).1.line key)
      ((Machine.run (step capacity) empty events).2.filterMap (Note.about key)) := by
  obtain ⟨lineEvents, same, seen⟩ := Machine.run_project (step capacity) (Line.step capacity) Sound
    (fun state : State Key Item => state.line key) (Note.about key)
    (fun _ event sound => sound_step sound event)
    (fun _ event sound => step_simulated sound event key) events empty sound_empty
  have start : (empty : State Key Item).line key = Line.empty := rfl
  rw [same, seen, start]
  exact Line.run_accounts capacity lineEvents

end State

def Note.written (number : Nat) (note : Note Key Item) : Option Item :=
  if note.worker = number then note.fate.taking else none

namespace State

/-- Notes are about workers there are, under the key the worker was made for. -/
def Signed (state : State Key Item) (notes : List (Note Key Item)) : Prop :=
  ∀ note ∈ notes, ∃ worker, state.workers[note.worker]? = some worker ∧ worker.key = note.key

/-- Workers keep their number and their key. -/
def Keeps (before after : State Key Item) : Prop :=
  ∀ (number : Nat) (worker : Worker Key Item), before.workers[number]? = some worker →
    ∃ later : Worker Key Item, after.workers[number]? = some later ∧ later.key = worker.key

theorem keeps_refl (state : State Key Item) : state.Keeps state :=
  fun _ worker there => ⟨worker, there, rfl⟩

theorem keeps_setWorker {state : State Key Item} {number : Nat} {worker after : Worker Key Item}
    (there : state.workers[number]? = some worker) (kept : after.key = worker.key) :
    state.Keeps (state.setWorker number after) := by
  intro other held inside
  by_cases same : other = number
  · subst same
    rw [there] at inside
    obtain rfl := Option.some.inj inside
    exact ⟨after, by simp [setWorker, List.getElem?_set_self', there], kept⟩
  · exact ⟨held, by rwa [setWorker, List.getElem?_set_ne (Ne.symm same)], rfl⟩

variable [DecidableEq Key] {capacity : Nat}

structure Follows (before after : State Key Item) (new : List (Note Key Item)) : Prop where
  keeps : before.Keeps after
  signed : after.Signed new

theorem follows_worker {state : State Key Item} {event : Event Key Item}
    {lineEvent : LineEvent Item} (made : WorkerStep capacity state event lineEvent) :
    Follows state (state.step capacity event).1 (state.step capacity event).2 := by
  cases made with
  | idle same =>
      rw [same]
      exact ⟨keeps_refl state, fun note noted => absurd noted List.not_mem_nil⟩
  | took number worker item rest there running queue given stepped =>
      have keeps : state.Keeps (state.setWorker number { worker with queue := rest }) :=
        keeps_setWorker there rfl
      rw [stepped]
      refine ⟨keeps, fun note noted => ?_⟩
      rw [List.mem_singleton.mp noted]
      exact keeps number worker there
  | ended number worker there running given stepped =>
      have keeps : state.Keeps
          (state.setWorker number { worker with queue := [], running := false }) :=
        keeps_setWorker there rfl
      rw [stepped]
      refine ⟨keeps, fun note noted => ?_⟩
      obtain ⟨fate, _, rfl⟩ := List.mem_map.mp noted
      exact keeps number worker there

variable (capacity) in
theorem follows_step {state : State Key Item} (sound : state.Sound) (event : Event Key Item) :
    Follows state (state.step capacity event).1 (state.step capacity event).2 := by
  have still : Follows state state [] :=
    ⟨keeps_refl state, fun note noted => absurd noted List.not_mem_nil⟩
  cases event with
  | receive own item =>
      cases busy : state.sending with
      | some sending => rwa [step, busy]
      | none =>
          rcases step_receive capacity busy own item with
            ⟨number, found, stepped⟩ | ⟨absent, stepped⟩
          · rw [stepped]
            refine ⟨keeps_refl state, fun note noted => ?_⟩
            rw [List.mem_singleton.mp noted]
            exact sound.named own number found
          · rw [stepped]
            refine ⟨fun number worker there => ⟨worker, workers_opened own there, rfl⟩,
              fun note noted => ?_⟩
            rw [List.mem_singleton.mp noted]
            exact ⟨⟨own, [], true⟩, by simp [opened], rfl⟩
  | send =>
      cases pending : state.sending with
      | none => rwa [step, pending]
      | some sending =>
          obtain ⟨worker, there, same, sent⟩ := step_send capacity sound pending
          rcases sent with ⟨_, stepped⟩ | ⟨_, _, stepped⟩ | ⟨_, _, stepped⟩
          · rw [stepped]
            refine ⟨keeps_refl state, fun note noted => ?_⟩
            rw [List.mem_singleton.mp noted]
            exact ⟨worker, there, same⟩
          · rw [stepped]
            exact ⟨keeps_setWorker there rfl, fun note noted => absurd noted List.not_mem_nil⟩
          · rw [stepped]
            refine ⟨keeps_refl state, fun note noted => ?_⟩
            rw [List.mem_singleton.mp noted]
            exact ⟨worker, there, same⟩
  | take number written => exact follows_worker (step_take number written)
  | finish number => exact follows_worker (step_finish number)

theorem run_signed (capacity : Nat) (events : List (Event Key Item)) :
    (Machine.run (step capacity) empty events).1.Signed
      (Machine.run (step capacity) empty events).2 := by
  have kept := Machine.run_invariant (step capacity)
    (fun (state : State Key Item) notes => state.Sound ∧ state.Signed notes) events
    (fun state notes event _ before => by
      obtain ⟨keeps, signed⟩ := follows_step capacity before.1 event
      refine ⟨sound_step before.1 event, fun note noted => ?_⟩
      rcases List.mem_append.mp noted with earlier | new
      · obtain ⟨worker, there, same⟩ := before.2 note earlier
        obtain ⟨later, inside, kept⟩ := keeps note.worker worker there
        exact ⟨later, inside, kept.trans same⟩
      · exact signed note new) empty [] ⟨sound_empty, fun note noted => absurd noted List.not_mem_nil⟩
  exact kept.2

/-- What one worker wrote came in under its key, in this order. -/
theorem written_sublist (capacity : Nat) (events : List (Event Key Item)) {number : Nat}
    {worker : Worker Key Item}
    (there : (Machine.run (step capacity) empty events).1.workers[number]? = some worker) :
    ((Machine.run (step capacity) empty events).2.filterMap (Note.written number)).Sublist
      (((Machine.run (step capacity) empty events).2.filterMap (Note.about worker.key)).filterMap
        Fate.arrival) := by
  have taken : ((Machine.run (step capacity) empty events).2.filterMap
      (Note.written number)).Sublist
        (((Machine.run (step capacity) empty events).2.filterMap (Note.about worker.key)).filterMap
          Fate.taking) := by
    rw [List.filterMap_filterMap]
    apply filterMap_sublist
    intro note noted item own
    obtain ⟨signer, signs, same⟩ := run_signed capacity events note noted
    unfold Note.written at own
    split at own
    · rename_i mine
      rw [mine, there] at signs
      obtain rfl := Option.some.inj signs
      rw [Note.about, if_pos same.symm]
      exact own
    · cases own
  exact taken.trans ((List.sublist_append_left _ _).trans (run_accounts capacity events _).order)

end State
end KeyedQueues
