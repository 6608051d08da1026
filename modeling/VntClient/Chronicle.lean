import VntClient.Machine

/-!
Runs beside a smaller machine, and what a run put out as a record in which each entry fits
what stands before it. A property of a record speaks of order ("nothing is sent before a
connection"), where an invariant of the state speaks of the present.
-/

namespace Machine
variable {State Event Output Small SmallEvent SmallOutput : Type}

/-- A machine whose steps are runs of a smaller one runs as that one does. -/
theorem run_simulates (step : State → Event → State × List Output)
    (small : Small → SmallEvent → Small × List SmallOutput) (related : State → Small → Prop)
    (seen : Output → Option SmallOutput)
    (simulated : ∀ state inner event, related state inner → ∃ smallEvents,
      related (step state event).1 (run small inner smallEvents).1 ∧
        (step state event).2.filterMap seen = (run small inner smallEvents).2)
    (events : List Event) (state : State) (inner : Small) (initial : related state inner) :
    ∃ smallEvents, related (run step state events).1 (run small inner smallEvents).1 ∧
      (run step state events).2.filterMap seen = (run small inner smallEvents).2 := by
  induction events generalizing state inner with
  | nil => exact ⟨[], initial, rfl⟩
  | cons event rest ih =>
      obtain ⟨here, moved, shown⟩ := simulated state inner event initial
      obtain ⟨later, ended, rest⟩ := ih _ _ moved
      refine ⟨here ++ later, ?_, ?_⟩
      · rw [run_append]
        exact ended
      · rw [run_append, run_cons, List.filterMap_append, shown, rest]

/-- The same where a step is at most one step of the smaller machine, which is a view of the
other. -/
theorem run_project (step : State → Event → State × List Output)
    (small : Small → SmallEvent → Small × List SmallOutput) (invariant : State → Prop)
    (view : State → Small) (seen : Output → Option SmallOutput)
    (kept : ∀ state event, invariant state → invariant (step state event).1)
    (simulated : ∀ state event, invariant state →
      (view (step state event).1 = view state ∧ (step state event).2.filterMap seen = []) ∨
      ∃ smallEvent, view (step state event).1 = (small (view state) smallEvent).1 ∧
        (step state event).2.filterMap seen = (small (view state) smallEvent).2)
    (events : List Event) (state : State) (sound : invariant state) :
    ∃ smallEvents, view (run step state events).1 = (run small (view state) smallEvents).1 ∧
      (run step state events).2.filterMap seen = (run small (view state) smallEvents).2 := by
  obtain ⟨smallEvents, ⟨_, same⟩, shown⟩ := run_simulates step small
    (fun state inner => invariant state ∧ view state = inner) seen (by
      rintro state inner event ⟨sound, rfl⟩
      rcases simulated state event sound with ⟨still, silent⟩ | ⟨smallEvent, moved, shown⟩
      · exact ⟨[], ⟨kept state event sound, still⟩, silent⟩
      · exact ⟨[smallEvent], ⟨kept state event sound, moved⟩, by simpa using shown⟩)
    events state (view state) ⟨sound, rfl⟩
  exact ⟨smallEvents, same, shown⟩

end Machine

/-- Each entry fits the entries before it. -/
def Chronicle {Note : Type} (fitting : List Note → Note → Prop) (notes : List Note) : Prop :=
  ∀ before note after, notes = before ++ note :: after → fitting before note

namespace Chronicle
variable {Note State Event : Type} {fitting : List Note → Note → Prop}

theorem nil : Chronicle fitting [] := by
  intro before note after split
  simp at split

theorem concat_iff (notes : List Note) (note : Note) :
    Chronicle fitting (notes ++ [note]) ↔ Chronicle fitting notes ∧ fitting notes note := by
  constructor
  · intro chronicle
    refine ⟨?_, chronicle notes note [] rfl⟩
    intro before entry after split
    exact chronicle before entry (after ++ [note]) (by simp [split])
  · rintro ⟨chronicle, fits⟩ before entry after split
    cases after using List.reverseRecOn with
    | nil =>
        obtain ⟨same, last⟩ := List.append_inj' split rfl
        cases last
        exact same ▸ fits
    | append_singleton after last =>
        have split : notes ++ [note] = (before ++ entry :: after) ++ [last] := by simp [split]
        exact chronicle before entry after (List.append_inj' split rfl).1

/-- Entries are added one after another. -/
theorem append_cons_iff (notes : List Note) (note : Note) (rest : List Note) :
    Chronicle fitting (notes ++ note :: rest) ↔ Chronicle fitting ((notes ++ [note]) ++ rest) := by
  rw [List.append_assoc, List.singleton_append]

theorem add {notes : List Note} {note : Note} (chronicle : Chronicle fitting notes)
    (fits : fitting notes note) : Chronicle fitting (notes ++ [note]) :=
  (concat_iff notes note).mpr ⟨chronicle, fits⟩

theorem add_two {notes : List Note} {first second : Note} (chronicle : Chronicle fitting notes)
    (one : fitting notes first) (two : fitting (notes ++ [first]) second) :
    Chronicle fitting (notes ++ [first, second]) := by
  rw [append_cons_iff]
  exact (chronicle.add one).add two

theorem append {notes : List Note} (chronicle : Chronicle fitting notes) (more : List Note)
    (fits : ∀ before, ∀ note ∈ more, fitting before note) : Chronicle fitting (notes ++ more) := by
  induction more generalizing notes with
  | nil => simpa using chronicle
  | cons note rest ih =>
      rw [append_cons_iff]
      exact ih (chronicle.add (fits notes note List.mem_cons_self)) fun before entry member =>
        fits before entry (List.mem_cons_of_mem _ member)

/-- What stands before an entry is a record of its own. -/
theorem before {notes before after : List Note} {note : Note} (chronicle : Chronicle fitting notes)
    (split : notes = before ++ note :: after) : Chronicle fitting before := by
  intro front entry back inner
  exact chronicle front entry (back ++ note :: after) (by simp [split, inner])

/-- Every step keeps an invariant of the state and the record, and adds what fits. -/
theorem run {step : State → Event → State × List Note} (invariant : State → List Note → Prop)
    (kept : ∀ state notes event, invariant state notes → Chronicle fitting notes →
      invariant (step state event).1 (notes ++ (step state event).2) ∧
        Chronicle fitting (notes ++ (step state event).2))
    {state : State} {notes : List Note} (initial : invariant state notes)
    (chronicle : Chronicle fitting notes) (events : List Event) :
    invariant (Machine.run step state events).1 (notes ++ (Machine.run step state events).2) ∧
      Chronicle fitting (notes ++ (Machine.run step state events).2) :=
  Machine.run_invariant step (fun state notes => invariant state notes ∧ Chronicle fitting notes)
    events (fun state notes event _ held => kept state notes event held.1 held.2) state notes
    ⟨initial, chronicle⟩

end Chronicle
