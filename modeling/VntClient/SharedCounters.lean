import VntClient.Chronicle

/-!
A table of counters that many tasks share. The table has a lock of readers and writers and
each counter its own, and a task may still hold a counter that the table has let go. A call
runs in sections, one for each lock it takes; whatever the order of the sections, each call
has its effect at one moment between its start and its end.
-/

namespace SharedCounters

/-- What a walk over the table does to a counter under its lock. -/
inductive Deed
  | read
  | empty
deriving DecidableEq

inductive Call (Key Change : Type) where
  | record (key : Key) (change : Change)
  | walk (deed : Deed) (only : Option Key)
  | clear

/-- How far a call is. A walk keeps the table locked for reading. -/
inductive Task (Key Change : Type) where
  | called (call : Call Key Change)
  | missed (key : Key) (change : Change)
  | holding (key : Key) (change : Change) (cell : Nat)
  | walking (deed : Deed) (ahead : List (Key × Nat))
  | returned

/-- What happened, with the number of the call that did it. -/
inductive Note (Key Counter Change : Type) where
  | called (index : Nat) (call : Call Key Change)
  | created (index : Nat) (key : Key)
  | recorded (index : Nat) (key : Key) (change : Change)
  | found (index : Nat) (keys : List Key)
  | read (index : Nat) (key : Key) (counter : Counter)
  | emptied (index : Nat) (key : Key)
  | cleared (index : Nat)
  | returned (index : Nat)

inductive Event (Key Change : Type) where
  | call (call : Call Key Change)
  | proceed (index : Nat)

/-- The table, the counters that were ever made, and the calls. -/
structure State (Key Counter Change : Type) where
  cells : AList fun _ : Key => Nat
  counters : List Counter
  tasks : List (Task Key Change)

variable {Key Counter Change : Type} {notes more : List (Note Key Counter Change)}

namespace Task

def walks : Task Key Change → Bool
  | walking _ _ => true
  | _ => false

end Task

namespace Note

def index : Note Key Counter Change → Nat
  | called index _ | created index _ | recorded index _ _ | found index _ | read index _ _
  | emptied index _ | cleared index | returned index => index

def Open (notes : List (Note Key Counter Change)) (index : Nat) (call : Call Key Change) : Prop :=
  called index call ∈ notes ∧ returned index ∉ notes

def Did (notes : List (Note Key Counter Change)) (index : Nat) (key : Key) : Deed → Prop
  | .read => ∃ counter, read index key counter ∈ notes
  | .empty => emptied index key ∈ notes

def Awaits (notes : List (Note Key Counter Change)) (index : Nat) (key : Key) (deed : Deed) : Prop :=
  (∃ only, Open notes index (.walk deed only)) ∧
    (∃ keys, found index keys ∈ notes ∧ key ∈ keys) ∧ ¬ Did notes index key deed

def Done (notes : List (Note Key Counter Change)) (index : Nat) : Call Key Change → Prop
  | .record key change => recorded index key change ∈ notes
  | .walk deed _ => ∃ keys, found index keys ∈ notes ∧ ∀ key ∈ keys, Did notes index key deed
  | .clear => cleared index ∈ notes

theorem mem_later {index : Nat} (others : ∀ note ∈ more, note.index ≠ index)
    {note : Note Key Counter Change} (own : note.index = index) :
    note ∈ notes ++ more ↔ note ∈ notes := by
  rw [List.mem_append, or_iff_left]
  intro member
  exact others note member own

theorem Open.later {index : Nat} (others : ∀ note ∈ more, note.index ≠ index)
    {call : Call Key Change} (opened : Open notes index call) : Open (notes ++ more) index call :=
  ⟨List.mem_append_left _ opened.1, fun ended => opened.2 ((mem_later others rfl).mp ended)⟩

theorem did_later {index : Nat} (others : ∀ note ∈ more, note.index ≠ index) (key : Key)
    (deed : Deed) : Did (notes ++ more) index key deed ↔ Did notes index key deed := by
  cases deed with
  | read => exact exists_congr fun counter => mem_later others rfl
  | empty => exact mem_later others rfl

theorem Did.mono {index : Nat} {key : Key} {deed : Deed} (did : Did notes index key deed)
    (more : List (Note Key Counter Change)) : Did (notes ++ more) index key deed := by
  cases deed with
  | read =>
      obtain ⟨counter, member⟩ := did
      exact ⟨counter, List.mem_append_left _ member⟩
  | empty => exact List.mem_append_left _ did

end Note

variable [DecidableEq Key] (zero : Counter) (alter : Change → Counter → Counter)

namespace State

def new : State Key Counter Change := ⟨∅, [], []⟩

/-- While anybody walks, nobody gets the table for writing. -/
def locked (state : State Key Counter Change) : Bool := state.tasks.any Task.walks

def proceedTo (state : State Key Counter Change) (index : Nat) (task : Task Key Change) :
    State Key Counter Change :=
  { state with tasks := state.tasks.set index task }

def ahead (state : State Key Counter Change) : Option Key → List (Key × Nat)
  | none => state.cells.entries.map fun entry => (entry.1, entry.2)
  | some key => (state.cells.lookup key).toList.map fun cell => (key, cell)

/-- A record under way whose counter is the table's. -/
def underWay (state : State Key Counter Change) (index : Nat) : Option (Nat × Key × Change) :=
  match state.tasks[index]? with
  | some (.holding key change cell) =>
      if state.cells.lookup key = some cell then some (index, key, change) else none
  | _ => none

/-- What is still added to the counters that are about to go. -/
def lastWords (state : State Key Counter Change) : List (Note Key Counter Change) :=
  ((List.range state.tasks.length).filterMap state.underWay).map fun late =>
    .recorded late.1 late.2.1 late.2.2

def alterCell (state : State Key Counter Change) (cell : Nat) (change : Counter → Counter) :
    State Key Counter Change :=
  { state with counters := state.counters.modify cell change }

def start (state : State Key Counter Change) (index : Nat) :
    Call Key Change → State Key Counter Change × List (Note Key Counter Change)
  | .record key change =>
      match state.cells.lookup key with
      | some cell => (state.proceedTo index (.holding key change cell), [])
      | none => (state.proceedTo index (.missed key change), [])
  | .walk deed only =>
      (state.proceedTo index (.walking deed (state.ahead only)),
        [.found index ((state.ahead only).map Prod.fst)])
  | .clear =>
      if state.locked then (state, [])
      else (({ state with cells := ∅ } : State Key Counter Change).proceedTo index .returned,
        state.lastWords ++ [.cleared index, .returned index])

/-- The second look at the table, with the lock for writing. -/
def insert (state : State Key Counter Change) (index : Nat) (key : Key) (change : Change) :
    State Key Counter Change × List (Note Key Counter Change) :=
  if state.locked then (state, [])
  else
    match state.cells.lookup key with
    | some cell => (state.proceedTo index (.holding key change cell), [])
    | none =>
        (({ state with
            cells := state.cells.insert key state.counters.length
            counters := state.counters ++ [zero] } : State Key Counter Change).proceedTo index
          (.holding key change state.counters.length), [.created index key])

def visit (state : State Key Counter Change) (index : Nat) (deed : Deed) (key : Key) (cell : Nat)
    (rest : List (Key × Nat)) :
    State Key Counter Change × List (Note Key Counter Change) :=
  match deed with
  | .read =>
      (state.proceedTo index (.walking .read rest),
        (state.counters[cell]?).toList.map fun counter => .read index key counter)
  | .empty =>
      ((state.alterCell cell fun _ => zero).proceedTo index (.walking .empty rest),
        [.emptied index key])

def proceed (state : State Key Counter Change) (index : Nat) :
    Task Key Change → State Key Counter Change × List (Note Key Counter Change)
  | .called call => state.start index call
  | .missed key change => state.insert zero index key change
  | .holding key change cell =>
      ((state.alterCell cell (alter change)).proceedTo index .returned,
        -- what is added to a counter that has gone was counted when it went
        (if state.cells.lookup key = some cell then [.recorded index key change] else []) ++
          [.returned index])
  | .walking _ [] => (state.proceedTo index .returned, [.returned index])
  | .walking deed ((key, cell) :: rest) => state.visit zero index deed key cell rest
  | .returned => (state, [])

def step (state : State Key Counter Change) :
    Event Key Change → State Key Counter Change × List (Note Key Counter Change)
  | .call call =>
      ({ state with tasks := state.tasks ++ [.called call] }, [.called state.tasks.length call])
  | .proceed index =>
      match state.tasks[index]? with
      | none => (state, [])
      | some task => state.proceed zero alter index task

def view (state : State Key Counter Change) (key : Key) : Option Counter :=
  (state.cells.lookup key).bind fun cell => state.counters[cell]?

end State

namespace Note

/-- The same on a plain table, all at once. -/
def apply (table : Key → Option Counter) : Note Key Counter Change → Key → Option Counter
  | created _ key => Function.update table key (some zero)
  | recorded _ key change => Function.update table key ((table key).map (alter change))
  | emptied _ key => Function.update table key ((table key).map fun _ => zero)
  | cleared _ => fun _ => none
  | called _ _ | found _ _ | read _ _ _ | returned _ => table

end Note

def replay (notes : List (Note Key Counter Change)) : Key → Option Counter :=
  notes.foldl (Note.apply zero alter) fun _ => none

@[simp] theorem replay_append : replay zero alter (notes ++ more) =
    more.foldl (Note.apply zero alter) (replay zero alter notes) := List.foldl_append

/-- What was recorded for a key since its counter was last empty. -/
def sinceEmptied (key : Key) (notes : List (Note Key Counter Change)) : List Change :=
  notes.foldl (fun changes note =>
    match note with
    | .recorded _ other change => if other = key then changes ++ [change] else changes
    | .emptied _ other => if other = key then [] else changes
    | .cleared _ => []
    | .called _ _ | .created _ _ | .found _ _ | .read _ _ _ | .returned _ => changes) []

namespace Note

/-- Each call starts once, does what it is for once and while it is open, and returns when it
has; what it finds and reads is what the table has at that moment. -/
def Fits (before : List (Note Key Counter Change)) : Note Key Counter Change → Prop
  | called index _ => ∀ note ∈ before, note.index ≠ index
  | created index key => (∃ change, Open before index (.record key change)) ∧
      replay zero alter before key = none
  | recorded index key change => Open before index (.record key change) ∧
      (∀ key change, recorded index key change ∉ before) ∧
      ∃ counter, replay zero alter before key = some counter
  | found index keys => keys.Nodup ∧ ∃ deed only, Open before index (.walk deed only) ∧
      ∀ key, key ∈ keys ↔ (∀ one ∈ only, key = one) ∧
        ∃ counter, replay zero alter before key = some counter
  | read index key counter => Awaits before index key .read ∧
      replay zero alter before key = some counter
  | emptied index key => Awaits before index key .empty ∧
      ∃ counter, replay zero alter before key = some counter
  | cleared index => Open before index .clear
  | returned index => ∃ call, Open before index call ∧ Done before index call

end Note

open Note

/-- What stands written of a call, by how far it is. A record is written down when it is
added to a counter of the table, or when the counter goes before that. -/
def Task.Sound (cells : AList fun _ : Key => Nat) (size : Nat)
    (notes : List (Note Key Counter Change)) (index : Nat) : Task Key Change → Prop
  | .called call => Open notes index call ∧
      ∀ note ∈ notes, note.index = index → note = .called index call
  | .missed key change => Open notes index (.record key change) ∧
      ∀ note ∈ notes, note.index = index → note = .called index (.record key change)
  | .holding key change cell => Open notes index (.record key change) ∧ cell < size ∧
      (∀ other, cells.lookup other = some cell → other = key) ∧
      if cells.lookup key = some cell then ∀ key change, .recorded index key change ∉ notes
      else .recorded index key change ∈ notes
  | .walking deed ahead => (∃ only, Open notes index (.walk deed only)) ∧
      (ahead.map Prod.fst).Nodup ∧ ∃ keys, .found index keys ∈ notes ∧
        (∀ pair ∈ ahead, pair.1 ∈ keys ∧ cells.lookup pair.1 = some pair.2 ∧
          ¬ Did notes index pair.1 deed) ∧
        ∀ key ∈ keys, key ∈ ahead.map Prod.fst ∨ Did notes index key deed
  | .returned => .returned index ∈ notes

theorem Task.Sound.later {cells : AList fun _ : Key => Nat} {size grown index : Nat}
    {task : Task Key Change} (sound : task.Sound cells size notes index)
    (others : ∀ note ∈ more, note.index ≠ index) (least : size ≤ grown) :
    task.Sound cells grown (notes ++ more) index := by
  cases task with
  | called call =>
      obtain ⟨opened, alone⟩ := sound
      refine ⟨opened.later others, fun note member own => ?_⟩
      exact alone note ((mem_later others own).mp member) own
  | missed key change =>
      obtain ⟨opened, alone⟩ := sound
      refine ⟨opened.later others, fun note member own => ?_⟩
      exact alone note ((mem_later others own).mp member) own
  | holding key change cell =>
      obtain ⟨opened, made, owner, counted⟩ := sound
      refine ⟨opened.later others, by omega, owner, ?_⟩
      split at counted
      · rename_i live
        rw [if_pos live]
        intro key change member
        exact counted key change ((mem_later others rfl).mp member)
      · rename_i gone
        rw [if_neg gone]
        exact List.mem_append_left _ counted
  | walking deed ahead =>
      obtain ⟨⟨only, opened⟩, distinct, keys, found, ahead, behind⟩ := sound
      refine ⟨⟨only, opened.later others⟩, distinct, keys, List.mem_append_left _ found, ?_, ?_⟩
      · intro pair member
        rw [did_later others]
        exact ahead pair member
      · intro key member
        exact (behind key member).imp_right fun did => did.mono more
  | returned => exact List.mem_append_left _ sound

/-- A counter is made that nobody holds yet. -/
theorem Task.Sound.insert {cells : AList fun _ : Key => Nat} {size index : Nat}
    {task : Task Key Change} (sound : task.Sound cells size notes index) {inserted : Key}
    (absent : cells.lookup inserted = none) (still : task.walks = false) :
    task.Sound (cells.insert inserted size) (size + 1) notes index := by
  cases task with
  | walking deed ahead => cases still
  | holding key change cell =>
      obtain ⟨opened, made, owner, counted⟩ := sound
      have differs : some size ≠ some cell := by simpa using Nat.ne_of_gt made
      refine ⟨opened, by omega, ?_, ?_⟩
      · intro other held
        by_cases same : other = inserted
        · rw [same, AList.lookup_insert] at held
          exact absurd held differs
        · rw [AList.lookup_insert_ne same] at held
          exact owner other held
      · by_cases same : key = inserted
        · subst same
          rw [absent, if_neg (by simp)] at counted
          rwa [AList.lookup_insert, if_neg differs]
        · rwa [AList.lookup_insert_ne same]
  | called call | missed key change | returned => exact sound

theorem Task.Sound.clear {cells : AList fun _ : Key => Nat} {size index : Nat}
    {task : Task Key Change} (sound : task.Sound cells size notes index)
    (still : task.walks = false)
    (own : ∀ note ∈ more, note.index = index → ∃ key change cell,
      task = .holding key change cell ∧ cells.lookup key = some cell ∧
        note = .recorded index key change)
    (last : ∀ key change cell, task = .holding key change cell → cells.lookup key = some cell →
      .recorded index key change ∈ more) :
    task.Sound ∅ size (notes ++ more) index := by
  cases task with
  | walking deed ahead => cases still
  | holding key change cell =>
      obtain ⟨opened, made, owner, counted⟩ := sound
      refine ⟨⟨List.mem_append_left _ opened.1, ?_⟩, made, by simp, ?_⟩
      -- Its record may be written down now, but it has not returned.
      · intro ended
        rcases List.mem_append.mp ended with before | late
        · exact opened.2 before
        · obtain ⟨_, _, _, _, _, differs⟩ := own _ late rfl
          cases differs
      · rw [AList.lookup_empty, if_neg (by simp)]
        split at counted
        · rename_i live
          exact List.mem_append_right _ (last key change cell rfl live)
        · exact List.mem_append_left _ counted
  | called call | missed key change | returned =>
      have others : ∀ note ∈ more, note.index ≠ index := by
        intro note member same
        obtain ⟨_, _, _, differs, _⟩ := own note member same
        cases differs
      exact sound.later others (le_refl _)

/-- The table is what the notes say, and every call is where they say. -/
structure State.Sound (state : State Key Counter Change) (notes : List (Note Key Counter Change)) :
    Prop where
  view : replay zero alter notes = state.view
  made : ∀ key cell, state.cells.lookup key = some cell → cell < state.counters.length
  distinct : ∀ key other cell, state.cells.lookup key = some cell →
    state.cells.lookup other = some cell → other = key
  tasks : ∀ index (task : Task Key Change), state.tasks[index]? = some task →
    task.Sound state.cells state.counters.length notes index
  known : ∀ note ∈ notes, note.index < state.tasks.length

namespace State
variable {zero alter} {state : State Key Counter Change}

/-- A key that the table has is one with a counter. -/
theorem Sound.has (sound : state.Sound zero alter notes) {key : Key} {cell : Nat}
    (held : state.cells.lookup key = some cell) :
    ∃ counter, replay zero alter notes key = some counter ∧ state.counters[cell]? = some counter := by
  obtain ⟨counter, there⟩ : ∃ counter, state.counters[cell]? = some counter :=
    ⟨_, List.getElem?_eq_getElem (sound.made key cell held)⟩
  exact ⟨counter, by rw [sound.view, State.view, held, Option.bind_some, there], there⟩

theorem Sound.has_iff (sound : state.Sound zero alter notes) (key : Key) :
    (∃ counter, replay zero alter notes key = some counter) ↔
      ∃ cell, state.cells.lookup key = some cell := by
  constructor
  · rintro ⟨counter, there⟩
    rw [sound.view, State.view] at there
    obtain ⟨cell, held, _⟩ := Option.bind_eq_some_iff.mp there
    exact ⟨cell, held⟩
  · rintro ⟨cell, held⟩
    obtain ⟨counter, there, _⟩ := sound.has held
    exact ⟨counter, there⟩

theorem view_alterCell (distinct : ∀ key other cell, state.cells.lookup key = some cell →
      state.cells.lookup other = some cell → other = key) {key : Key} {cell : Nat}
    (held : state.cells.lookup key = some cell) (change : Counter → Counter) :
    (state.alterCell cell change).view =
      Function.update state.view key ((state.view key).map change) := by
  funext other
  by_cases same : other = key
  · subst same
    simp only [Function.update_self, view, alterCell, held, Option.bind_some,
      List.getElem?_modify_eq, Option.map_eq_map]
  · simp only [Function.update_of_ne same, view, alterCell]
    cases there : state.cells.lookup other with
    | none => rfl
    | some apart =>
        have differs : cell ≠ apart := by
          rintro rfl
          exact same (distinct key other cell held there)
        simp only [Option.bind_some, List.getElem?_modify_ne _ _ differs]

/-- Nobody sees a counter that the table has let go. -/
theorem view_alterCell_gone {cell : Nat}
    (gone : ∀ key, state.cells.lookup key ≠ some cell) (change : Counter → Counter) :
    (state.alterCell cell change).view = state.view := by
  funext key
  simp only [view, alterCell]
  cases there : state.cells.lookup key with
  | none => rfl
  | some apart =>
      have differs : cell ≠ apart := by
        rintro rfl
        exact gone key there
      simp only [Option.bind_some, List.getElem?_modify_ne _ _ differs]

/-- A call goes on and writes of itself only; the table has the keys it had. -/
theorem Sound.advance (sound : state.Sound zero alter notes) {index : Nat}
    {before after : Task Key Change} (found : state.tasks[index]? = some before)
    {counters : List Counter} (size : counters.length = state.counters.length)
    (own : ∀ note ∈ more, note.index = index)
    (view : replay zero alter (notes ++ more) =
      ({ state with counters } : State Key Counter Change).view)
    (mine : after.Sound state.cells state.counters.length (notes ++ more) index) :
    (({ state with counters } : State Key Counter Change).proceedTo index after).Sound zero alter
      (notes ++ more) := by
  have inside : index < state.tasks.length := (List.getElem?_eq_some_iff.mp found).1
  refine ⟨view, fun key cell held => size ▸ sound.made key cell held, sound.distinct, ?_, ?_⟩
  · intro other task there
    simp only [proceedTo, size] at there ⊢
    by_cases same : other = index
    · subst same
      rw [List.getElem?_set_self inside] at there
      exact Option.some.inj there ▸ mine
    · rw [List.getElem?_set_ne (Ne.symm same)] at there
      apply (sound.tasks other task there).later _ (le_refl _)
      rintro note member rfl
      exact same (own note member)
  · intro note member
    simp only [proceedTo, List.length_set]
    rcases List.mem_append.mp member with old | new
    · exact sound.known note old
    · exact own note new ▸ inside

theorem Sound.move (sound : state.Sound zero alter notes) {index : Nat}
    {before after : Task Key Change} (found : state.tasks[index]? = some before)
    (mine : after.Sound state.cells state.counters.length notes index) :
    (state.proceedTo index after).Sound zero alter notes := by
  have moved : (state.proceedTo index after).Sound zero alter (notes ++ []) :=
    sound.advance found rfl (fun note none => (by cases none))
      (by rw [List.append_nil]; exact sound.view) (by rwa [List.append_nil])
  rwa [List.append_nil] at moved

theorem mem_ahead (only : Option Key) (pair : Key × Nat) : pair ∈ state.ahead only ↔
    (∀ one ∈ only, pair.1 = one) ∧ state.cells.lookup pair.1 = some pair.2 := by
  obtain ⟨key, cell⟩ := pair
  cases only with
  | none =>
      rw [ahead, ← Option.mem_def, AList.mem_lookup_iff]
      simp
  | some one =>
      simp only [ahead, List.mem_map, Option.mem_toList, Option.mem_def, Prod.mk.injEq,
        Option.some.injEq, forall_eq']
      constructor
      · rintro ⟨cell, held, rfl, rfl⟩
        exact ⟨rfl, held⟩
      · rintro ⟨rfl, held⟩
        exact ⟨cell, held, rfl, rfl⟩

omit [DecidableEq Key] in
/-- When the table is not locked nobody walks. -/
theorem unlocked_still (unlocked : ¬ state.locked = true) {index : Nat} {task : Task Key Change}
    (found : state.tasks[index]? = some task) : task.walks = false := by
  rw [locked, List.any_eq_true] at unlocked
  by_contra walks
  exact unlocked ⟨task, List.mem_of_getElem? found, by simpa using walks⟩

theorem Sound.view_insert (sound : state.Sound zero alter notes) (key : Key) :
    ({ state with
        cells := state.cells.insert key state.counters.length
        counters := state.counters ++ [zero] } : State Key Counter Change).view =
      Function.update state.view key (some zero) := by
  funext other
  by_cases same : other = key
  · subst same
    simp [State.view]
  · simp only [State.view, AList.lookup_insert_ne same, Function.update_of_ne same]
    cases there : state.cells.lookup other with
    | none => rfl
    | some cell =>
        rw [Option.bind_some, Option.bind_some,
          List.getElem?_append_left (sound.made other cell there)]

theorem Sound.distinct_insert (sound : state.Sound zero alter notes) (inserted key other : Key)
    (cell : Nat)
    (held : (state.cells.insert inserted state.counters.length).lookup key = some cell)
    (there : (state.cells.insert inserted state.counters.length).lookup other = some cell) :
    other = key := by
  by_cases first : key = inserted
  · by_cases second : other = inserted
    · rw [first, second]
    · rw [first, AList.lookup_insert] at held
      rw [AList.lookup_insert_ne second] at there
      cases held
      exact absurd (sound.made other _ there) (Nat.lt_irrefl _)
  · rw [AList.lookup_insert_ne first] at held
    by_cases second : other = inserted
    · rw [second, AList.lookup_insert] at there
      cases there
      exact absurd (sound.made key _ held) (Nat.lt_irrefl _)
    · rw [AList.lookup_insert_ne second] at there
      exact sound.distinct key other cell held there

theorem mem_lastWords_iff {note : Note Key Counter Change} : note ∈ state.lastWords ↔
    ∃ index key change cell, state.tasks[index]? = some (.holding key change cell) ∧
      state.cells.lookup key = some cell ∧ note = .recorded index key change := by
  simp only [lastWords, List.mem_map, List.mem_filterMap, List.mem_range]
  constructor
  · rintro ⟨late, ⟨index, _, way⟩, rfl⟩
    rw [underWay] at way
    split at way
    · rename_i key change cell found
      split at way
      · rename_i live
        cases way
        exact ⟨index, key, change, cell, found, live, rfl⟩
      · cases way
    · cases way
  · rintro ⟨index, key, change, cell, found, live, rfl⟩
    refine ⟨(index, key, change), ⟨index, (List.getElem?_eq_some_iff.mp found).1, ?_⟩, rfl⟩
    simp only [underWay, found, live, ↓reduceIte]

theorem underWay_index {index : Nat} {late : Nat × Key × Change}
    (way : state.underWay index = some late) : late.1 = index := by
  rw [underWay] at way
  split at way
  · split at way
    · cases way
      rfl
    · cases way
  · cases way

/-- Records of different calls fit one after another where each of them fits. -/
theorem records_fit {late : List (Nat × Key × Change)}
    (chronicle : Chronicle (Fits zero alter) notes) (distinct : (late.map Prod.fst).Nodup)
    (ready : ∀ one ∈ late, Open notes one.1 (.record one.2.1 one.2.2) ∧
      (∀ key change, .recorded one.1 key change ∉ notes) ∧
      ∃ counter, replay zero alter notes one.2.1 = some counter) :
    Chronicle (Fits zero alter) (notes ++ late.map fun one => .recorded one.1 one.2.1 one.2.2) := by
  induction late generalizing notes with
  | nil => simpa using chronicle
  | cons first rest ih =>
      rw [List.map_cons, List.nodup_cons] at distinct
      have fits : Fits zero alter notes (.recorded first.1 first.2.1 first.2.2) :=
        ready first List.mem_cons_self
      rw [List.map_cons, Chronicle.append_cons_iff]
      apply ih (chronicle.add fits) distinct.2
      intro one member
      obtain ⟨opened, uncounted, counter, there⟩ := ready one (List.mem_cons_of_mem _ member)
      have apart : first.1 ≠ one.1 := by
        intro same
        exact distinct.1 (same ▸ List.mem_map_of_mem member)
      have others : ∀ note ∈ [(.recorded first.1 first.2.1 first.2.2 : Note Key Counter Change)],
          note.index ≠ one.1 := by
        intro note inside
        rw [List.mem_singleton.mp inside]
        exact apart
      refine ⟨opened.later others, ?_, ?_⟩
      · intro key change counted
        exact uncounted key change ((mem_later others rfl).mp counted)
      · simp only [replay_append, List.foldl_cons, List.foldl_nil, Note.apply]
        by_cases same : one.2.1 = first.2.1
        · rw [← same, Function.update_self, there]
          exact ⟨_, rfl⟩
        · rw [Function.update_of_ne same]
          exact ⟨counter, there⟩

theorem Sound.lastWords_fit (sound : state.Sound zero alter notes)
    (chronicle : Chronicle (Fits zero alter) notes) :
    Chronicle (Fits zero alter) (notes ++ state.lastWords) := by
  apply records_fit chronicle
  · rw [List.Nodup, List.pairwise_map, List.pairwise_filterMap]
    apply List.Pairwise.imp _ List.nodup_range
    intro first second differs one way other later same
    exact differs (by rw [← underWay_index way, ← underWay_index later, same])
  · intro one member
    obtain ⟨index, _, way⟩ := List.mem_filterMap.mp member
    have same := underWay_index way
    rw [underWay] at way
    split at way
    · rename_i key change cell found
      split at way
      · rename_i live
        cases way
        obtain ⟨opened, _, _, counted⟩ := sound.tasks index _ found
        rw [if_pos live] at counted
        obtain ⟨counter, there, _⟩ := sound.has live
        exact ⟨opened, counted, counter, there⟩
      · cases way
    · cases way

variable (zero alter) in
/-- What a step leaves: the notes fit, and the state is what they say. -/
def Kept (notes : List (Note Key Counter Change))
    (stepped : State Key Counter Change × List (Note Key Counter Change)) : Prop :=
  stepped.1.Sound zero alter (notes ++ stepped.2) ∧
    Chronicle (Fits zero alter) (notes ++ stepped.2)

section Steps
variable (sound : state.Sound zero alter notes) (chronicle : Chronicle (Fits zero alter) notes)
  {index : Nat}
include sound

theorem Sound.same (chronicle : Chronicle (Fits zero alter) notes) :
    Kept zero alter notes (state, []) := by
  simpa [Kept] using ⟨sound, chronicle⟩

theorem Sound.holding {key : Key} {change : Change} {cell : Nat}
    (opened : Open notes index (.record key change))
    (alone : ∀ note ∈ notes, note.index = index → note = .called index (.record key change))
    (held : state.cells.lookup key = some cell) :
    (Task.holding key change cell).Sound state.cells state.counters.length notes index := by
  refine ⟨opened, sound.made key cell held, fun other => sound.distinct key other cell held, ?_⟩
  rw [if_pos held]
  intro other late member
  cases alone _ member rfl

include chronicle

theorem start_record_kept {key : Key} {change : Change}
    (found : state.tasks[index]? = some (.called (.record key change))) :
    Kept zero alter notes (state.start index (.record key change)) := by
  obtain ⟨opened, alone⟩ := sound.tasks index _ found
  rw [start]
  cases held : state.cells.lookup key with
  | some cell =>
      simpa [Kept] using ⟨sound.move found (sound.holding opened alone held), chronicle⟩
  | none =>
      have missed : (Task.missed key change).Sound state.cells state.counters.length notes index :=
        ⟨opened, alone⟩
      simpa [Kept] using ⟨sound.move found missed, chronicle⟩

theorem start_walk_kept {deed : Deed} {only : Option Key}
    (found : state.tasks[index]? = some (.called (.walk deed only))) :
    Kept zero alter notes (state.start index (.walk deed only)) := by
  obtain ⟨opened, alone⟩ := sound.tasks index _ found
  have nodup : ((state.ahead only).map Prod.fst).Nodup := by
    cases only with
    | none =>
        rw [ahead, List.map_map]
        exact state.cells.nodupKeys
    | some key => cases held : state.cells.lookup key <;> simp [ahead, held]
  have mine : (Task.walking deed (state.ahead only) : Task Key Change).Sound state.cells
      state.counters.length (notes ++ [.found index ((state.ahead only).map Prod.fst)]) index := by
    refine ⟨⟨only, List.mem_append_left _ opened.1, by simpa using opened.2⟩, nodup,
      (state.ahead only).map Prod.fst, by simp, ?_, fun key member => .inl member⟩
    intro pair member
    refine ⟨List.mem_map_of_mem member, ((mem_ahead only pair).mp member).2, ?_⟩
    cases deed with
    | read =>
        rintro ⟨counter, did⟩
        rcases List.mem_append.mp did with before | here
        · cases alone _ before rfl
        · simp at here
    | empty =>
        intro did
        rcases List.mem_append.mp did with before | here
        · cases alone _ before rfl
        · simp at here
  rw [start]
  refine ⟨?_, ?_⟩
  · exact sound.advance found rfl (by simp [Note.index]) (by simpa [Note.apply] using sound.view) mine
  · apply chronicle.add
    refine ⟨nodup, deed, only, opened, fun key => ?_⟩
    rw [sound.has_iff]
    simp [List.mem_map, mem_ahead]

theorem add_kept {key : Key} {change : Change} {cell : Nat}
    (found : state.tasks[index]? = some (.holding key change cell)) :
    Kept zero alter notes (state.proceed zero alter index (.holding key change cell)) := by
  obtain ⟨opened, made, owner, counted⟩ := sound.tasks index _ found
  have size : (state.counters.modify cell (alter change)).length = state.counters.length :=
    List.length_modify ..
  rw [proceed]
  by_cases live : state.cells.lookup key = some cell
  · rw [if_pos live] at counted ⊢
    obtain ⟨counter, there, _⟩ := sound.has live
    refine ⟨?_, ?_⟩
    · refine sound.advance found size (by simp [Note.index]) ?_ (by simp [Task.Sound])
      have altered := view_alterCell sound.distinct live (alter change)
      rw [alterCell, ← sound.view] at altered
      rw [altered]
      simp [Note.apply]
    · refine chronicle.add_two ⟨opened, counted, counter, there⟩
        ⟨.record key change, ?_, by simp [Done]⟩
      exact ⟨List.mem_append_left _ opened.1, by simpa using opened.2⟩
  · rw [if_neg live] at counted ⊢
    have gone : ∀ other, state.cells.lookup other ≠ some cell := by
      intro other held
      exact live (owner other held ▸ held)
    refine ⟨?_, ?_⟩
    · refine sound.advance found size (by simp [Note.index]) ?_ (by simp [Task.Sound])
      have altered := view_alterCell_gone gone (alter change)
      rw [alterCell, ← sound.view] at altered
      rw [altered]
      simp [Note.apply]
    · exact chronicle.add ⟨.record key change, opened, counted⟩

theorem finish_kept {deed : Deed} (found : state.tasks[index]? = some (.walking deed [])) :
    Kept zero alter notes (state.proceed zero alter index (.walking deed [])) := by
  obtain ⟨⟨only, opened⟩, _, keys, there, _, behind⟩ := sound.tasks index _ found
  rw [proceed]
  refine ⟨?_, ?_⟩
  · exact sound.advance found rfl (by simp [Note.index]) (by simpa [Note.apply] using sound.view)
      (by simp [Task.Sound])
  · refine chronicle.add ⟨.walk deed only, opened, keys, there, fun key member => ?_⟩
    exact (behind key member).resolve_left (by simp)

omit chronicle in
theorem Sound.walked {deed : Deed} {key : Key} {cell : Nat} {rest : List (Key × Nat)}
    (found : state.tasks[index]? = some (.walking deed ((key, cell) :: rest)))
    {note : Note Key Counter Change} (remains : .returned index ≠ note)
    (did : ∀ other, Did (notes ++ [note]) index other deed ↔
      Did notes index other deed ∨ other = key) :
    (Task.walking deed rest : Task Key Change).Sound state.cells state.counters.length
      (notes ++ [note]) index := by
  obtain ⟨⟨only, opened⟩, distinct, keys, there, ahead, behind⟩ := sound.tasks index _ found
  simp only [List.map_cons, List.nodup_cons] at distinct
  have ended : .returned index ∉ notes ++ [note] := by simpa using ⟨opened.2, remains⟩
  refine ⟨⟨only, List.mem_append_left _ opened.1, ended⟩, distinct.2, keys,
    List.mem_append_left _ there, ?_, ?_⟩
  · intro pair member
    obtain ⟨inside, held, undone⟩ := ahead pair (List.mem_cons_of_mem _ member)
    refine ⟨inside, held, fun done => ?_⟩
    rcases (did pair.1).mp done with before | same
    · exact undone before
    · exact distinct.1 (same ▸ List.mem_map_of_mem member)
  · intro other member
    rw [did]
    rcases behind other member with still | done
    · rcases List.mem_cons.mp still with same | later
      · exact .inr (.inr same)
      · exact .inl later
    · exact .inr (.inl done)

theorem visit_kept {deed : Deed} {key : Key} {cell : Nat} {rest : List (Key × Nat)}
    (found : state.tasks[index]? = some (.walking deed ((key, cell) :: rest))) :
    Kept zero alter notes (state.visit zero index deed key cell rest) := by
  obtain ⟨opened, _, keys, there, ahead, _⟩ := sound.tasks index _ found
  obtain ⟨inside, held, undone⟩ := ahead (key, cell) List.mem_cons_self
  obtain ⟨counter, known, counted⟩ := sound.has held
  have awaits : Awaits notes index key deed := ⟨opened, ⟨keys, there, inside⟩, undone⟩
  cases deed with
  | read =>
      simp only [visit, counted, Option.toList_some, List.map_singleton]
      refine ⟨?_, chronicle.add ⟨awaits, known⟩⟩
      refine sound.advance found rfl (by simp [Note.index]) (by simpa [Note.apply] using sound.view) ?_
      refine sound.walked found (by simp) fun other => ?_
      simp [Did, exists_or]
  | empty =>
      rw [visit]
      refine ⟨?_, chronicle.add ⟨awaits, counter, known⟩⟩
      refine sound.advance found (List.length_modify ..) (by simp [Note.index]) ?_ ?_
      · have altered := view_alterCell sound.distinct held fun _ => zero
        rw [alterCell, ← sound.view] at altered
        rw [altered]
        simp [Note.apply]
      · refine sound.walked found (by simp) fun other => ?_
        simp [Did]

theorem insert_kept {key : Key} {change : Change}
    (found : state.tasks[index]? = some (.missed key change)) :
    Kept zero alter notes (state.insert zero index key change) := by
  obtain ⟨opened, alone⟩ := sound.tasks index _ found
  have inside : index < state.tasks.length := (List.getElem?_eq_some_iff.mp found).1
  rw [insert]
  split
  · exact sound.same chronicle
  · rename_i unlocked
    -- The second look: another task may have made the counter since the first.
    cases held : state.cells.lookup key with
    | some cell =>
        simpa [Kept] using ⟨sound.move found (sound.holding opened alone held), chronicle⟩
    | none =>
        have absent : replay zero alter notes key = none := by
          rw [sound.view, view, held, Option.bind_none]
        refine ⟨⟨?_, ?_, ?_, ?_, ?_⟩, chronicle.add ⟨⟨change, opened⟩, absent⟩⟩
        · simp only [replay_append, List.foldl_cons, List.foldl_nil, Note.apply, sound.view]
          exact (sound.view_insert key).symm
        · intro other cell there
          simp only [proceedTo, List.length_append, List.length_singleton] at there ⊢
          by_cases same : other = key
          · rw [same, AList.lookup_insert] at there
            cases there
            omega
          · rw [AList.lookup_insert_ne same] at there
            have := sound.made other cell there
            omega
        · exact sound.distinct_insert key
        · intro other task there
          simp only [proceedTo, List.length_append, List.length_singleton] at there ⊢
          by_cases same : other = index
          · subst same
            rw [List.getElem?_set_self inside] at there
            cases there
            refine ⟨⟨List.mem_append_left _ opened.1, by simpa using opened.2⟩, by omega, ?_, ?_⟩
            · intro other there
              exact sound.distinct_insert key key other _ (AList.lookup_insert _) there
            · rw [if_pos (AList.lookup_insert _)]
              intro other late member
              rcases List.mem_append.mp member with before | here
              · cases alone _ before rfl
              · simp at here
          · rw [List.getElem?_set_ne (Ne.symm same)] at there
            have still := unlocked_still unlocked there
            apply ((sound.tasks other task there).insert held still).later _ (le_refl _)
            intro note member
            rw [List.mem_singleton.mp member]
            exact Ne.symm same
        · intro note member
          simp only [proceedTo, List.length_set]
          rcases List.mem_append.mp member with old | new
          · exact sound.known note old
          · rw [List.mem_singleton.mp new]
            exact inside

omit chronicle in
/-- When the table is cleared, every record under way has been written down. -/
theorem Sound.clear (unlocked : ¬ state.locked = true)
    (found : state.tasks[index]? = some (.called .clear)) :
    (({ state with cells := ∅ } : State Key Counter Change).proceedTo index .returned).Sound zero
      alter (notes ++ (state.lastWords ++ [.cleared index, .returned index])) := by
  have inside : index < state.tasks.length := (List.getElem?_eq_some_iff.mp found).1
  refine ⟨?_, fun key cell held => ?_, fun key other cell held => ?_, ?_, ?_⟩
  · rw [← List.append_assoc, replay_append]
    rfl
  · simp [proceedTo] at held
  · simp [proceedTo] at held
  · intro other task there
    simp only [proceedTo] at there
    by_cases same : other = index
    · subst same
      rw [List.getElem?_set_self inside] at there
      cases there
      simp [Task.Sound]
    · rw [List.getElem?_set_ne (Ne.symm same)] at there
      have quiet : ∀ note ∈ ([.cleared index, .returned index] : List (Note Key Counter Change)),
          note.index ≠ other := by
        rintro note member rfl
        simp only [List.mem_cons, List.not_mem_nil, or_false] at member
        rcases member with rfl | rfl <;> exact same rfl
      rw [← List.append_assoc]
      refine Task.Sound.later ?_ quiet (le_refl _)
      exact (sound.tasks other task there).clear (unlocked_still unlocked there)
        (fun note member own => by
          obtain ⟨index, key, change, cell, holding, live, rfl⟩ := mem_lastWords_iff.mp member
          obtain rfl : index = other := own
          exact ⟨key, change, cell, Option.some.inj (there.symm.trans holding), live, rfl⟩)
        fun key change cell holding live =>
          mem_lastWords_iff.mpr ⟨other, key, change, cell, holding ▸ there, live, rfl⟩
  · intro note member
    simp only [proceedTo, List.length_set]
    rcases List.mem_append.mp member with old | new
    · exact sound.known note old
    · rcases List.mem_append.mp new with last | own
      · obtain ⟨other, key, change, cell, there, _, rfl⟩ := mem_lastWords_iff.mp last
        exact (List.getElem?_eq_some_iff.mp there).1
      · simp only [List.mem_cons, List.not_mem_nil, or_false] at own
        rcases own with rfl | rfl <;> exact inside

theorem start_clear_kept (found : state.tasks[index]? = some (.called .clear)) :
    Kept zero alter notes (state.start index .clear) := by
  obtain ⟨opened, alone⟩ := sound.tasks index _ found
  rw [start]
  split
  · exact sound.same chronicle
  · rename_i unlocked
    refine ⟨sound.clear unlocked found, ?_⟩
    have silent : ∀ note ∈ (state.lastWords : List (Note Key Counter Change)),
        note.index ≠ index := by
      intro note member own
      obtain ⟨other, key, change, cell, there, _, rfl⟩ := mem_lastWords_iff.mp member
      obtain rfl : other = index := own
      rw [found] at there
      cases there
    have late : Open (notes ++ state.lastWords) index .clear := opened.later silent
    rw [← List.append_assoc]
    refine (sound.lastWords_fit chronicle).add_two late ⟨.clear, ⟨?_, ?_⟩, by simp [Done]⟩
    · exact List.mem_append_left _ late.1
    · simpa using late.2

end Steps

theorem call_kept (sound : state.Sound zero alter notes)
    (chronicle : Chronicle (Fits zero alter) notes) (call : Call Key Change) :
    Kept zero alter notes (state.step zero alter (.call call)) := by
  have unknown : ∀ note ∈ notes, note.index ≠ state.tasks.length := by
    intro note member
    exact Nat.ne_of_lt (sound.known note member)
  rw [step]
  refine ⟨⟨?_, sound.made, sound.distinct, ?_, ?_⟩, chronicle.add unknown⟩
  · simp only [replay_append, List.foldl_cons, List.foldl_nil, Note.apply]
    exact sound.view
  -- The tasks before it have nothing to do with a call that nothing is written of.
  · intro index task there
    simp only [List.getElem?_append] at there
    split at there
    · rename_i before
      apply (sound.tasks index task there).later _ (le_refl _)
      intro note member
      rw [List.mem_singleton.mp member]
      exact Nat.ne_of_gt before
    · obtain ⟨rfl, rfl⟩ : index = state.tasks.length ∧ task = .called call := by
        rw [List.getElem?_singleton] at there
        split at there
        · exact ⟨by omega, (Option.some.inj there).symm⟩
        · cases there
      refine ⟨⟨by simp, ?_⟩, ?_⟩
      · intro member
        rcases List.mem_append.mp member with before | here
        · exact unknown _ before rfl
        · simp at here
      · intro note member own
        rcases List.mem_append.mp member with before | here
        · exact absurd own (unknown note before)
        · exact List.mem_singleton.mp here
  · intro note member
    simp only [List.length_append, List.length_singleton]
    rcases List.mem_append.mp member with old | new
    · exact Nat.lt_succ_of_lt (sound.known note old)
    · rw [List.mem_singleton.mp new]
      exact Nat.lt_succ_self _

theorem step_kept (sound : state.Sound zero alter notes)
    (chronicle : Chronicle (Fits zero alter) notes) (event : Event Key Change) :
    Kept zero alter notes (state.step zero alter event) := by
  cases event with
  | call call => exact call_kept sound chronicle call
  | proceed index =>
      rw [step]
      cases found : state.tasks[index]? with
      | none => exact sound.same chronicle
      | some task =>
          cases task with
          | called call =>
              cases call with
              | record key change => exact start_record_kept sound chronicle found
              | walk deed only => exact start_walk_kept sound chronicle found
              | clear => exact start_clear_kept sound chronicle found
          | missed key change => exact insert_kept sound chronicle found
          | holding key change cell => exact add_kept sound chronicle found
          | walking deed ahead =>
              cases ahead with
              | nil => exact finish_kept sound chronicle found
              | cons pair rest => exact visit_kept sound chronicle found
          | returned => exact sound.same chronicle

variable (zero alter) in
/-- However the sections of the calls come one after another, the notes of a run fit, and what
the table has is what they say. -/
theorem run_recorded (events : List (Event Key Change)) :
    Chronicle (Fits zero alter) (Machine.run (step zero alter) new events).2 ∧
      (Machine.run (step zero alter) new events).1.view =
        replay zero alter (Machine.run (step zero alter) new events).2 := by
  have initial : (new : State Key Counter Change).Sound zero alter [] := by
    refine ⟨?_, ?_, ?_, ?_, ?_⟩
    · funext key
      simp [replay, view, new]
    · simp [new]
    · simp [new]
    · simp [new]
    · simp
  obtain ⟨sound, chronicle⟩ := Chronicle.run (Sound zero alter)
    (fun state notes event sound chronicle => step_kept sound chronicle event) initial
    Chronicle.nil events
  exact ⟨chronicle, sound.view.symm⟩

end State

variable {zero alter}

/-- A counter is the sum of what was recorded since it was empty, and where the table has
none nothing was. -/
theorem replay_sinceEmptied (chronicle : Chronicle (Fits zero alter) notes) (key : Key) :
    replay zero alter notes key = none ∧ sinceEmptied key notes = [] ∨
      replay zero alter notes key = some ((sinceEmptied key notes).foldl
        (fun counter change => alter change counter) zero) := by
  induction notes using List.reverseRecOn with
  | nil => exact .inl ⟨rfl, rfl⟩
  | append_singleton notes note ih =>
      obtain ⟨before, fits⟩ := (Chronicle.concat_iff notes note).mp chronicle
      have earlier := ih before
      rw [replay_append, sinceEmptied, List.foldl_append, ← sinceEmptied]
      simp only [List.foldl_cons, List.foldl_nil]
      cases note with
      | called index call | found index keys | read index other counter | returned index =>
          exact earlier
      | cleared index => exact .inl ⟨rfl, rfl⟩
      | created index other =>
          by_cases same : other = key
          · subst same
            rw [fits.2] at earlier
            obtain ⟨_, none⟩ := earlier.resolve_right (by simp)
            simp [Note.apply, none]
          · simpa only [Note.apply, Function.update_of_ne (Ne.symm same)] using earlier
      | emptied index other =>
          by_cases same : other = key
          · subst same
            obtain ⟨counter, there⟩ := fits.2
            simp [Note.apply, there]
          · simpa only [Note.apply, Function.update_of_ne (Ne.symm same), if_neg same] using earlier
      | recorded index other change =>
          by_cases same : other = key
          · subst same
            obtain ⟨counter, there⟩ := fits.2.2
            rw [there] at earlier
            have total := Option.some.inj (earlier.resolve_left (by simp))
            simp [Note.apply, there, total, List.foldl_append]
          · simpa only [Note.apply, Function.update_of_ne (Ne.symm same), if_neg same] using earlier

/-- What a call reads is the sum of what was recorded before it. -/
theorem read_total (chronicle : Chronicle (Fits zero alter) notes)
    {before after : List (Note Key Counter Change)} {index : Nat} {key : Key} {counter : Counter}
    (split : notes = before ++ .read index key counter :: after) :
    counter = (sinceEmptied key before).foldl (fun counter change => alter change counter) zero := by
  have fits := (chronicle before _ after split).2
  rcases replay_sinceEmptied (chronicle.before split) key with ⟨none, _⟩ | total
  · rw [none] at fits
    cases fits
  · exact Option.some.inj (fits.symm.trans total)

end SharedCounters
