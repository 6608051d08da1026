import Mathlib

/-!
Files as a program sees them on a POSIX system, through the texts of their paths: a tree of
directories and files, and the walk along the parts of a text. There are no links in the tree.
-/

namespace FilePaths

abbrev Location := List (List Char)

inductive Entry
  | directory
  | file (content : List UInt8)
deriving DecidableEq

abbrev Tree := Location → Option Entry

/-- A part may name anything or nothing, but the next one needs a directory there. -/
def walk (tree : Tree) (here : Location) : List (List Char) → Option Location
  | [] => some here
  | part :: rest =>
      if tree here ≠ some .directory then none
      else if part = [] ∨ part = ['.'] then walk tree here rest
      else if part = ['.', '.'] then walk tree here.dropLast rest
      else walk tree (here ++ [part]) rest

/-- `Path::join`. -/
def join (path child : List Char) : List Char :=
  if child.head? = some '/' then child
  else if path = [] ∨ path.getLast? = some '/' then path ++ child
  else path ++ '/' :: child

def fileName (path : List Char) : Option (List Char) :=
  ((path.splitOn '/').filter fun part => part ≠ [] ∧ part ≠ ['.']).getLast?.filter
    fun part => part ≠ ['.', '.']

/-- `Path::extension` of a path that ends in the name. -/
def extension (name : List Char) : Option (List Char) :=
  if '.' ∈ name.tail ∧ name ≠ ['.', '.'] then some (name.reverse.takeWhile (· ≠ '.')).reverse
  else none

section Locations
variable (tree : Tree) (current : Location)

def locate (path : List Char) : Option Location :=
  if path = [] ∨ '\x00' ∈ path then none
  else walk tree (if path.head? = some '/' then [] else current) (path.splitOn '/')

def pathExists (path : List Char) : Bool := ((locate tree current path).bind tree).isSome

def read (path : List Char) : Option (List UInt8) :=
  (locate tree current path).bind fun location =>
    match tree location with
    | some (.file content) => some content
    | some .directory | none => none

end Locations

inductive Change
  | write (location : Location) (content : List UInt8)
  | remove (location : Location)
deriving DecidableEq

namespace Change

def location : Change → Location
  | write location _ | remove location => location

def apply (tree : Tree) : Change → Tree
  | write location content => Function.update tree location (some (.file content))
  | remove location => Function.update tree location none

end Change

def replay (tree : Tree) (changes : List Change) : Tree := changes.foldl Change.apply tree

section Operations
variable (tree : Tree) (current : Location)

/-- `File::create`, which empties what is there. -/
def create (path : List Char) : Option Location :=
  (locate tree current path).filter fun location => tree location ≠ some .directory

def contentAt (location : Location) : List UInt8 :=
  match tree location with
  | some (.file content) => content
  | some .directory | none => []

def remove (path : List Char) : Option Change :=
  (locate tree current path).bind fun location =>
    match tree location with
    | some (.file _) => some (.remove location)
    | some .directory | none => none

end Operations

/-- What a write at an offset makes of a file, with zeros where it has nothing before it. -/
def patch (content : List UInt8) (offset : Nat) (bytes : List UInt8) : List UInt8 :=
  (content ++ List.replicate (offset - content.length) 0).take offset ++ bytes ++
    content.drop (offset + bytes.length)

structure Plain (name : List Char) : Prop where
  nonempty : name ≠ []
  notHere : name ≠ ['.']
  notParent : name ≠ ['.', '.']
  single : '/' ∉ name

instance (name : List Char) : Decidable (Plain name) :=
  decidable_of_iff (name ≠ [] ∧ name ≠ ['.'] ∧ name ≠ ['.', '.'] ∧ '/' ∉ name)
    ⟨fun ⟨nonempty, notHere, notParent, single⟩ => ⟨nonempty, notHere, notParent, single⟩,
      fun plain => ⟨plain.nonempty, plain.notHere, plain.notParent, plain.single⟩⟩

variable {tree : Tree} {current : Location} {directory name : List Char}

theorem Plain.head_ne (plain : Plain directory) : directory.head? ≠ some '/' :=
  fun absolute => plain.single (List.mem_of_head? absolute)

theorem Plain.getLast_ne (plain : Plain directory) : directory.getLast? ≠ some '/' :=
  fun ends => plain.single (List.mem_of_getLast? ends)

theorem join_plain (plain : Plain directory) (single : '/' ∉ name) :
    join directory name = directory ++ '/' :: name := by
  rw [join, if_neg fun absolute => single (List.mem_of_head? absolute), if_neg]
  exact not_or.mpr ⟨plain.nonempty, plain.getLast_ne⟩

theorem join_parts (plain : Plain directory) (single : '/' ∉ name) :
    (join directory name).splitOn '/' = [directory, name] := by
  rw [join_plain plain single, List.splitOn_append_cons_self_of_not_mem plain.single,
    List.splitOn_eq_singleton single]

theorem walk_plain (plain : Plain name) (rest : List (List Char)) :
    walk tree current (name :: rest) =
      if tree current = some .directory then walk tree (current ++ [name]) rest else none := by
  rw [walk]
  by_cases there : tree current = some .directory
  · rw [if_neg (not_not.mpr there), if_neg (not_or.mpr ⟨plain.nonempty, plain.notHere⟩),
      if_neg plain.notParent, if_pos there]
  · rw [if_pos there, if_neg there]

theorem locate_plain (plain : Plain name) : locate tree current name =
    if '\x00' ∉ name ∧ tree current = some .directory then some (current ++ [name]) else none := by
  rw [locate, if_neg plain.head_ne, List.splitOn_eq_singleton plain.single, walk_plain plain]
  by_cases null : '\x00' ∈ name
  · simp [null]
  · simp [null, plain.nonempty, walk]

theorem locate_inside (inside : Plain directory) (single : '/' ∉ name) {location : Location}
    (found : locate tree current (join directory name) = some location) :
    walk tree (current ++ [directory]) [name] = some location := by
  have relative : (join directory name).head? ≠ some '/' := by
    rw [join_plain inside single, List.head?_append_of_ne_nil _ inside.nonempty]
    exact inside.head_ne
  rw [locate, if_neg relative, join_parts inside single, walk_plain inside] at found
  split at found
  · cases found
  · split at found
    · exact found
    · cases found

theorem locate_join_plain (inside : Plain directory) (plain : Plain name) {location : Location}
    (found : locate tree current (join directory name) = some location) :
    location = current ++ [directory, name] := by
  have inner := locate_inside inside plain.single found
  rw [walk_plain plain] at inner
  split at inner
  · cases inner
    simp
  · cases inner

/-- A name without a slash leads out of a directory only as the parent's. -/
theorem locate_join (inside : Plain directory) (single : '/' ∉ name) (notParent : name ≠ ['.', '.'])
    {location : Location} (found : locate tree current (join directory name) = some location) :
    location = current ++ [directory, name] ∨
      location = current ++ [directory] ∧ tree location = some .directory := by
  by_cases here : name = [] ∨ name = ['.']
  · have inner := locate_inside inside single found
    by_cases below : tree (current ++ [directory]) = some .directory
    · rw [walk, if_neg (not_not.mpr below), if_pos here] at inner
      cases inner
      exact .inr ⟨rfl, below⟩
    · rw [walk, if_pos below] at inner
      cases inner
  · obtain ⟨nonempty, notHere⟩ := not_or.mp here
    exact .inl (locate_join_plain inside ⟨nonempty, notHere, notParent, single⟩ found)

theorem fileName_join (inside : Plain directory) (single : '/' ∉ name) :
    fileName (join directory name) =
      if name = ['.', '.'] then none
      else if name = [] ∨ name = ['.'] then some directory else some name := by
  rw [fileName, join_parts inside single]
  by_cases parent : name = ['.', '.']
  · simp [parent, inside.nonempty, inside.notHere]
  · by_cases here : name = [] ∨ name = ['.']
    · rw [if_neg parent, if_pos here]
      rcases here with rfl | rfl <;> simp [inside.nonempty, inside.notHere, inside.notParent]
    · rw [if_neg parent, if_neg here]
      obtain ⟨nonempty, notHere⟩ := not_or.mp here
      simp [inside.nonempty, inside.notHere, nonempty, notHere, parent]

theorem mem_of_mem_part {path part : List Char} (member : part ∈ path.splitOn '/') {char : Char}
    (inside : char ∈ part) : char ∈ path ∧ char ≠ '/' := by
  induction path generalizing part with
  | nil =>
      rw [List.splitOn_nil, List.mem_singleton] at member
      simp [member] at inside
  | cons first rest ih =>
      rw [List.splitOn_cons_eq_if_modifyHead] at member
      split at member
      · rcases List.mem_cons.mp member with rfl | later
        · cases inside
        · exact (ih later inside).imp_left (List.mem_cons_of_mem first)
      · rename_i other
        cases split : rest.splitOn '/' with
        | nil => simp [split] at member
        | cons part others =>
            rw [split, List.modifyHead_cons] at member
            rcases List.mem_cons.mp member with rfl | later
            · rcases List.mem_cons.mp inside with rfl | within
              · exact ⟨List.mem_cons_self, fun same => other (beq_iff_eq.mpr same)⟩
              · exact (ih (split ▸ List.mem_cons_self) within).imp_left
                  (List.mem_cons_of_mem first)
            · exact (ih (split ▸ List.mem_cons_of_mem _ later) inside).imp_left
                (List.mem_cons_of_mem first)

theorem plain_fileName {path : List Char} (named : fileName path = some name) : Plain name := by
  obtain ⟨last, notParent⟩ := Option.filter_eq_some_iff.mp named
  obtain ⟨part, present⟩ := List.mem_filter.mp (List.mem_of_getLast? last)
  simp only [ne_eq, decide_eq_true_eq] at present notParent
  exact ⟨present.1, present.2, notParent, fun slash => (mem_of_mem_part part slash).2 rfl⟩

theorem read_eq_some {path : List Char} {content : List UInt8} :
    read tree current path = some content ↔
      ∃ location, locate tree current path = some location ∧
        tree location = some (.file content) := by
  rw [read, Option.bind_eq_some_iff]
  apply exists_congr
  intro location
  apply and_congr_right
  intro _
  cases tree location with
  | none => simp
  | some entry => cases entry <;> simp

theorem remove_eq_some {path : List Char} {change : Change} :
    remove tree current path = some change ↔
      ∃ location content, locate tree current path = some location ∧
        tree location = some (.file content) ∧ change = .remove location := by
  rw [remove, Option.bind_eq_some_iff]
  apply exists_congr
  intro location
  cases tree location with
  | none => simp
  | some entry => cases entry <;> simp [eq_comm]

theorem create_eq_some {path : List Char} {location : Location} :
    create tree current path = some location ↔
      locate tree current path = some location ∧ tree location ≠ some .directory := by
  rw [create, Option.filter_eq_some_iff]
  simp

/-- The next bytes of a text, put behind those that are there. -/
theorem patch_take {text : List UInt8} {written : Nat} (within : written ≤ text.length)
    (count : Nat) : patch (text.take written) written ((text.drop written).take count) =
      text.take (written + ((text.drop written).take count).length) := by
  have length : (text.take written).length = written := List.length_take_of_le within
  have behind : (text.take written).drop (written + ((text.drop written).take count).length) = [] :=
    List.drop_eq_nil_of_le (by omega)
  rw [patch, length, Nat.sub_self, List.replicate_zero, List.append_nil, behind, List.append_nil,
    List.take_take, Nat.min_self, List.take_add, List.length_take, ← List.take_eq_take_min]

@[simp] theorem replay_append (tree : Tree) (first second : List Change) :
    replay tree (first ++ second) = replay (replay tree first) second := List.foldl_append

theorem Change.apply_ne {change : Change} {location : Location}
    (apart : change.location ≠ location) : change.apply tree location = tree location := by
  cases change with
  | write | remove => exact Function.update_of_ne (Ne.symm apart) _ _

theorem replay_untouched {changes : List Change} {location : Location}
    (apart : ∀ change ∈ changes, change.location ≠ location) :
    replay tree changes location = tree location := by
  induction changes generalizing tree with
  | nil => rfl
  | cons change rest ih =>
      have later : replay (change.apply tree) rest location = change.apply tree location :=
        ih fun other member => apart other (List.mem_cons_of_mem _ member)
      rw [replay, List.foldl_cons, ← replay, later]
      exact Change.apply_ne (apart change List.mem_cons_self)

/-- Two trees with the same directories: every path leads to the same place. -/
def SameDirectories (tree other : Tree) : Prop :=
  ∀ here, tree here = some .directory ↔ other here = some .directory

section SameDirectories
variable {other : Tree} (same : SameDirectories tree other)
include same

theorem walk_congr (here : Location) (parts : List (List Char)) :
    walk tree here parts = walk other here parts := by
  induction parts generalizing here with
  | nil => rfl
  | cons part rest ih => simp only [walk, ne_eq, same here, ih]

theorem locate_congr (path : List Char) : locate tree current path = locate other current path := by
  simp only [locate, walk_congr same]

end SameDirectories

theorem Change.sameDirectories {change : Change}
    (clear : tree change.location ≠ some .directory) : SameDirectories (change.apply tree) tree := by
  intro here
  by_cases own : change.location = here
  · subst own
    cases change with
    | write | remove => simpa [apply, Change.location] using clear
  · rw [apply_ne own]

theorem pathExists_removed {path : List Char} {location : Location}
    (there : locate tree current path = some location)
    (clear : tree location ≠ some .directory) :
    pathExists ((Change.remove location).apply tree) current path = false := by
  have same : SameDirectories ((Change.remove location).apply tree) tree :=
    Change.sameDirectories clear
  rw [pathExists, locate_congr same, there]
  simp [Change.apply]

theorem walk_below {parts : List (List Char)} {here location : Location}
    (found : walk tree here parts = some location) (downwards : ['.', '.'] ∉ parts) :
    here <+: location := by
  induction parts generalizing here with
  | nil =>
      cases found
      exact List.prefix_refl _
  | cons part rest ih =>
      have later : ['.', '.'] ∉ rest := fun member => downwards (List.mem_cons_of_mem _ member)
      rw [walk] at found
      split at found
      · cases found
      · split at found
        · exact ih found later
        · split at found
          · rename_i parent
            exact absurd (parent ▸ List.mem_cons_self) downwards
          · exact (List.prefix_append _ _).trans (ih found later)

/-- A walk goes up some way from where it begins, and from there down along parts of the text. -/
theorem walk_reaches {parts : List (List Char)} {here location : Location}
    (found : walk tree here parts = some location) :
    ∃ count names, location = here.take count ++ names ∧ ∀ name ∈ names, name ∈ parts := by
  induction parts generalizing here with
  | nil =>
      cases found
      exact ⟨location.length, [], by simp⟩
  | cons part rest ih =>
      rw [walk] at found
      split at found
      · cases found
      · split at found
        · obtain ⟨count, names, same, within⟩ := ih found
          exact ⟨count, names, same, fun name member => List.mem_cons_of_mem _ (within name member)⟩
        · split at found
          · obtain ⟨count, names, same, within⟩ := ih found
            rw [List.dropLast_eq_take, List.take_take] at same
            exact ⟨_, names, same, fun name member => List.mem_cons_of_mem _ (within name member)⟩
          · obtain ⟨count, names, same, within⟩ := ih found
            rw [List.take_append, List.append_assoc] at same
            refine ⟨count, _, same, fun name member => ?_⟩
            rcases List.mem_append.mp member with own | further
            · rw [List.mem_singleton.mp ((List.take_sublist _ _).subset own)]
              exact List.mem_cons_self
            · exact List.mem_cons_of_mem _ (within name further)

/-- Whatever is there is in a directory, under a name. -/
structure Rooted (tree : Tree) : Prop where
  inside : ∀ here name, tree (here ++ [name]) ≠ none → tree here = some .directory
  named : ∀ location, tree location ≠ none → ∀ name ∈ location, Plain name ∧ '\x00' ∉ name

theorem Rooted.above (rooted : Rooted tree) {here more : Location}
    (there : tree (here ++ more) ≠ none) (below : more ≠ []) : tree here = some .directory := by
  induction more using List.reverseRecOn with
  | nil => exact absurd rfl below
  | append_singleton more name ih =>
      rw [← List.append_assoc] at there
      have outer := rooted.inside _ _ there
      by_cases direct : more = []
      · rwa [direct, List.append_nil] at outer
      · exact ih (by simp [outer]) direct

/-- As many parents as there are names lead up past these. -/
theorem walk_up (rooted : Rooted tree) {here names : Location}
    (there : tree (here ++ names) = some .directory) (rest : List (List Char)) :
    walk tree (here ++ names) (List.replicate names.length ['.', '.'] ++ rest) =
      walk tree here rest := by
  induction names using List.reverseRecOn with
  | nil => rw [List.append_nil, List.length_nil, List.replicate_zero, List.nil_append]
  | append_singleton front name ih =>
      rw [← List.append_assoc] at there ⊢
      have outer := rooted.inside (here ++ front) name (by rw [there]; simp)
      rw [List.length_append, List.length_singleton, List.replicate_succ, List.cons_append, walk,
        if_neg (not_not.mpr there), if_neg (by simp), if_pos rfl, List.dropLast_concat]
      exact ih outer

theorem walk_down (rooted : Rooted tree) {here names : Location}
    (there : tree (here ++ names) ≠ none) : walk tree here names = some (here ++ names) := by
  induction names generalizing here with
  | nil => simp [walk]
  | cons name rest ih =>
      have outer := rooted.above there (List.cons_ne_nil name rest)
      have plain := (rooted.named _ there name (by simp)).1
      have inner : here ++ name :: rest = (here ++ [name]) ++ rest := by simp
      rw [inner] at there ⊢
      rw [walk_plain plain, if_pos outer]
      exact ih there

theorem mem_intercalate {char sep : Char} {texts : List (List Char)}
    (member : char ∈ [sep].intercalate texts) : char = sep ∨ ∃ text ∈ texts, char ∈ text := by
  induction texts with
  | nil => simp [List.intercalate_nil] at member
  | cons text rest ih =>
      by_cases last : rest = []
      · subst last
        rw [List.intercalate_singleton] at member
        exact .inr ⟨text, List.mem_cons_self, member⟩
      · rw [List.intercalate_cons_of_ne_nil last, List.mem_append, List.mem_append,
          List.mem_singleton] at member
        rcases member with (first | same) | later
        · exact .inr ⟨text, List.mem_cons_self, first⟩
        · exact .inl same
        · obtain same | ⟨other, inside, held⟩ := ih later
          · exact .inl same
          · exact .inr ⟨other, List.mem_cons_of_mem _ inside, held⟩

end FilePaths
