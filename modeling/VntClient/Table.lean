import Mathlib

/-!
What a hash table needs beyond the library's association lists: dropping the
entries that fail a test and updating every value in place. Iteration order is
the order of the list.
-/

namespace Table
variable {Key Value : Type}

def retain (keep : Key → Value → Bool) (table : AList fun _ : Key => Value) :
    AList fun _ : Key => Value :=
  ⟨table.entries.filter fun entry => keep entry.1 entry.2,
    List.NodupKeys.sublist List.filter_sublist table.nodupKeys⟩

def mapValues (update : Key → Value → Value) (table : AList fun _ : Key => Value) :
    AList fun _ : Key => Value :=
  ⟨table.entries.map fun entry => ⟨entry.1, update entry.1 entry.2⟩,
    List.NodupKeys.map₂ update table.entries table.nodupKeys⟩

variable [DecidableEq Key]

theorem lookup_retain (keep : Key → Value → Bool) (table : AList fun _ : Key => Value) (key : Key) :
    (retain keep table).lookup key = (table.lookup key).filter (keep key) := by
  ext value
  rw [Option.filter_eq_some_iff, ← Option.mem_def, ← Option.mem_def, AList.mem_lookup_iff,
    AList.mem_lookup_iff]
  exact List.mem_filter

theorem lookup_mapValues (update : Key → Value → Value) (table : AList fun _ : Key => Value)
    (key : Key) :
    (mapValues update table).lookup key = (table.lookup key).map (update key) :=
  List.dlookup_map₂ key

theorem lookup_insert_update (table : AList fun _ : Key => Value) (key : Key) (value : Value) :
    (fun other => (table.insert key value).lookup other) =
      Function.update (fun other => table.lookup other) key (some value) := by
  funext other
  by_cases same : other = key
  · subst same
    rw [AList.lookup_insert, Function.update_self]
  · rw [AList.lookup_insert_ne same, Function.update_of_ne same]

theorem lookup_erase_update (table : AList fun _ : Key => Value) (key : Key) :
    (fun other => (table.erase key).lookup other) =
      Function.update (fun other => table.lookup other) key none := by
  funext other
  by_cases same : other = key
  · subst same
    rw [AList.lookup_erase, Function.update_self]
  · rw [AList.lookup_erase_ne same, Function.update_of_ne same]

theorem lookup_erases (keys : List Key) (table : AList fun _ : Key => Value) (key : Key) :
    (keys.foldl (fun table key => table.erase key) table).lookup key =
      if key ∈ keys then none else table.lookup key := by
  induction keys generalizing table with
  | nil => simp
  | cons first rest ih =>
      rw [List.foldl_cons, ih]
      by_cases same : key = first
      · subst same
        simp [AList.lookup_erase]
      · simp only [List.mem_cons, same, false_or, AList.lookup_erase_ne same]

/-- What holds of a table's values and of one more holds when that is put in under any keys. -/
theorem lookup_inserts (property : Value → Prop) {value : Value} (here : property value)
    (keys : List Key) (table : AList fun _ : Key => Value)
    (all : ∀ key held, table.lookup key = some held → property held) (key : Key) (held : Value)
    (found : (keys.foldl (fun table key => table.insert key value) table).lookup key = some held) :
    property held := by
  induction keys generalizing table with
  | nil => exact all key held found
  | cons first rest ih =>
      apply ih (table.insert first value) _ found
      intro other inside known
      by_cases same : other = first
      · rw [same, AList.lookup_insert] at known
        rwa [← Option.some.inj known]
      · rw [AList.lookup_insert_ne same] at known
        exact all other inside known

/-- A value that has a property exactly if the one it replaces had it. -/
theorem exists_lookup_insert {property : Value → Prop} {table : AList fun _ : Key => Value}
    {key : Key} {value : Value}
    (same : property value ↔ ∃ old, table.lookup key = some old ∧ property old) :
    (∃ other held, (table.insert key value).lookup other = some held ∧ property held) ↔
      ∃ other held, table.lookup other = some held ∧ property held := by
  constructor
  · rintro ⟨other, held, found, holds⟩
    by_cases here : other = key
    · rw [here, AList.lookup_insert] at found
      rw [← Option.some.inj found, same] at holds
      exact ⟨key, holds⟩
    · rw [AList.lookup_insert_ne here] at found
      exact ⟨other, held, found, holds⟩
  · rintro ⟨other, held, found, holds⟩
    by_cases here : other = key
    · rw [here] at found
      exact ⟨key, value, AList.lookup_insert _, same.2 ⟨held, found, holds⟩⟩
    · exact ⟨other, held, by rwa [AList.lookup_insert_ne here], holds⟩

end Table
