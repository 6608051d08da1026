import Mathlib

/-!
Runs of a machine that answers each event with a new state and some outputs.
An invariant speaks of the state and of everything put out so far; keeping it
over one step keeps it over a run.
-/

namespace Machine
variable {State Event Output : Type} (step : State → Event → State × List Output)

def run : State → List Event → State × List Output
  | state, [] => (state, [])
  | state, event :: rest =>
      ((run (step state event).1 rest).1, (step state event).2 ++ (run (step state event).1 rest).2)

@[simp] theorem run_nil (state : State) : run step state [] = (state, []) := rfl

@[simp] theorem run_cons (state : State) (event : Event) (rest : List Event) :
    run step state (event :: rest) = ((run step (step state event).1 rest).1,
      (step state event).2 ++ (run step (step state event).1 rest).2) := rfl

theorem run_append (first second : List Event) (state : State) :
    run step state (first ++ second) = ((run step (run step state first).1 second).1,
      (run step state first).2 ++ (run step (run step state first).1 second).2) := by
  induction first generalizing state with
  | nil => simp
  | cons event rest ih => simp only [List.cons_append, run_cons, ih, List.append_assoc]

/-- What every step of a run keeps holds when the run is over. -/
theorem run_invariant (invariant : State → List Output → Prop) (events : List Event)
    (preserved : ∀ state outputs, ∀ event ∈ events, invariant state outputs →
      invariant (step state event).1 (outputs ++ (step state event).2))
    (state : State) (outputs : List Output) (initial : invariant state outputs) :
    invariant (run step state events).1 (outputs ++ (run step state events).2) := by
  induction events generalizing state outputs with
  | nil => simpa using initial
  | cons event rest ih =>
      rw [run_cons, ← List.append_assoc]
      exact ih (fun state outputs event member =>
          preserved state outputs event (List.mem_cons_of_mem _ member)) _ _
        (preserved state outputs event (by simp) initial)

/-- The same for an invariant that counts the steps. -/
theorem run_counted (invariant : Nat → State → List Output → Prop) (events : List Event)
    (preserved : ∀ count state outputs, ∀ event ∈ events, invariant count state outputs →
      invariant (count + 1) (step state event).1 (outputs ++ (step state event).2))
    (count : Nat) (state : State) (outputs : List Output)
    (initial : invariant count state outputs) :
    invariant (count + events.length) (run step state events).1
      (outputs ++ (run step state events).2) := by
  induction events generalizing count state outputs with
  | nil => simpa using initial
  | cons event rest ih =>
      have later := ih (fun count state outputs event member =>
          preserved count state outputs event (List.mem_cons_of_mem _ member)) _ _ _
        (preserved count state outputs event (by simp) initial)
      rw [run_cons, ← List.append_assoc, List.length_cons]
      rwa [Nat.add_assoc, Nat.add_comm 1] at later

/-- A property of every step of a run: the state before it and its event. -/
def Along (property : State → Event → Prop) : State → List Event → Prop
  | _, [] => True
  | state, event :: rest => property state event ∧ Along property (step state event).1 rest

theorem along_of_forall (property : State → Event → Prop) (events : List Event) (state : State)
    (always : ∀ event ∈ events, ∀ state, property state event) :
    Along step property state events := by
  induction events generalizing state with
  | nil => trivial
  | cons event rest ih =>
      exact ⟨always event List.mem_cons_self state,
        ih _ fun event member => always event (List.mem_cons_of_mem _ member)⟩

/-- An invariant of the state and the outputs that the steps which meet a
condition keep. -/
theorem run_along (invariant : State → List Output → Prop) (condition : State → Event → Prop)
    (kept : ∀ state outputs event, invariant state outputs → condition state event →
      invariant (step state event).1 (outputs ++ (step state event).2))
    (events : List Event) (state : State) (outputs : List Output)
    (initial : invariant state outputs) (careful : Along step condition state events) :
    invariant (run step state events).1 (outputs ++ (run step state events).2) := by
  induction events generalizing state outputs with
  | nil => simpa using initial
  | cons event rest ih =>
      rw [run_cons, ← List.append_assoc]
      exact ih _ _ (kept state outputs event initial careful.1) careful.2

/-- Steps that meet a condition keep the invariant and have the property, so a
run whose steps all meet the condition has the property at every step. -/
theorem along_of_invariant (invariant : State → Prop) (condition property : State → Event → Prop)
    (events : List Event)
    (kept : ∀ state, ∀ event ∈ events, invariant state → condition state event →
      property state event ∧ invariant (step state event).1)
    (state : State) (initial : invariant state) (careful : Along step condition state events) :
    Along step property state events := by
  induction events generalizing state with
  | nil => trivial
  | cons event rest ih =>
      obtain ⟨here, next⟩ := kept state event (by simp) initial careful.1
      exact ⟨here, ih (fun state event member => kept state event (List.mem_cons_of_mem _ member))
        _ next careful.2⟩

/-- Where an invariant makes two properties of a step the same and the second keeps
it, a run has one exactly if it has the other. -/
theorem along_iff (invariant : State → Prop) (property condition : State → Event → Prop)
    (events : List Event)
    (kept : ∀ state, ∀ event ∈ events, invariant state → condition state event →
      invariant (step state event).1)
    (same : ∀ state, ∀ event ∈ events, invariant state →
      (property state event ↔ condition state event))
    (state : State) (initial : invariant state) :
    Along step property state events ↔ Along step condition state events := by
  induction events generalizing state with
  | nil => rfl
  | cons event rest ih =>
      have tail := ih (fun state event member => kept state event (List.mem_cons_of_mem _ member))
        fun state event member => same state event (List.mem_cons_of_mem _ member)
      have head := same state event List.mem_cons_self initial
      constructor
      · rintro ⟨here, later⟩
        have careful := head.mp here
        exact ⟨careful, (tail _ (kept state event List.mem_cons_self initial careful)).mp later⟩
      · rintro ⟨careful, later⟩
        exact ⟨head.mpr careful,
          (tail _ (kept state event List.mem_cons_self initial careful)).mpr later⟩

/-- Where a step keeps an invariant exactly if it meets a condition, an invariant
that holds at first holds after every step exactly if every step meets it. -/
theorem along_kept_iff (base invariant : State → Prop) (condition : State → Event → Prop)
    (events : List Event) (met : ∀ state event, base state → invariant state →
      base (step state event).1 ∧ (invariant (step state event).1 ↔ condition state event))
    (state : State) (sound : base state) (initial : invariant state) :
    Along step (fun state event => invariant (step state event).1) state events ↔
      Along step condition state events := by
  apply along_iff step (fun state => base state ∧ invariant state)
  · rintro state event _ ⟨based, here⟩ careful
    exact ⟨(met state event based here).1, (met state event based here).2.mpr careful⟩
  · rintro state event _ ⟨based, here⟩
    exact (met state event based here).2
  · exact ⟨sound, initial⟩

/-- An event of two runs side by side: of both, or of one of them only. -/
inductive Paired (Event : Type) where
  | both (event : Event)
  | first (event : Event)
  | second (event : Event)

namespace Paired

def inFirst : Paired Event → Option Event
  | both event | first event => some event
  | second _ => none

def inSecond : Paired Event → Option Event
  | both event | second event => some event
  | first _ => none

def apart : Paired Event → Option Event
  | both _ => none
  | first event | second event => some event

end Paired

/-- Two runs end alike and show the same as long as the events only one of them has
neither change the state nor show anything. -/
theorem run_unwinding {View : Type} (observe : Output → Option View) (pairs : List (Paired Event))
    (quiet : ∀ pair ∈ pairs, ∀ event, pair.apart = some event → ∀ state,
      (step state event).1 = state ∧ (step state event).2.filterMap observe = [])
    (state : State) :
    (run step state (pairs.filterMap Paired.inFirst)).1 =
        (run step state (pairs.filterMap Paired.inSecond)).1 ∧
      (run step state (pairs.filterMap Paired.inFirst)).2.filterMap observe =
        (run step state (pairs.filterMap Paired.inSecond)).2.filterMap observe := by
  induction pairs generalizing state with
  | nil => exact ⟨rfl, rfl⟩
  | cons pair rest ih =>
      have later := ih fun pair member => quiet pair (List.mem_cons_of_mem _ member)
      have here := quiet pair List.mem_cons_self
      cases pair with
      | both event =>
          obtain ⟨same, seen⟩ := later (step state event).1
          simp only [List.filterMap_cons, Paired.inFirst, Paired.inSecond, run_cons,
            List.filterMap_append]
          exact ⟨same, congrArg _ seen⟩
      | first event =>
          obtain ⟨kept, silent⟩ := here event rfl state
          simp only [List.filterMap_cons, Paired.inFirst, Paired.inSecond, run_cons,
            List.filterMap_append, kept, silent, List.nil_append]
          exact later state
      | second event =>
          obtain ⟨kept, silent⟩ := here event rfl state
          simp only [List.filterMap_cons, Paired.inFirst, Paired.inSecond, run_cons,
            List.filterMap_append, kept, silent, List.nil_append]
          exact later state

end Machine
