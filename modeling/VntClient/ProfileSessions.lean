import VntClient.Machine
import VntClient.Table

/-!
The child processes of `vntc-manager/src/main.rs`. Every critical section of a
request on the manager's state is one step, and so is the start of a child,
which happens outside of them, and the end of the manager's own process, which
leaves the children to themselves. A child is known by its number.
-/

namespace VntClient

structure Child where
  profile : String
  alive : Bool
deriving DecidableEq

inductive Launch where
  | tomlMissing | ioError | spawnFailed | spawned
deriving DecidableEq

inductive Request where
  | connect (ids : List String)
  | checking (id : String) (rest : List String)
  | looking (id : String) (rest : List String)
  | starting (id : String) (rest : List String)
  | holding (id : String) (child : Nat) (rest : List String)
  | disconnect (ids : List String)
  | killing (ids : List String)
  | stopAll
  | listing
  | status (sections : Nat)
  | finished
deriving DecidableEq

structure Surroundings where
  profiles : Option (List String)
  waitFails : Nat → Bool
  killFails : Nat → Bool
  launch : Launch

structure ManagerState where
  sessions : AList fun _ : String => Nat
  children : List Child
  requests : List Request

inductive ManagerEvent where
  | arrive (request : Request)
  | advance (index : Nat) (surroundings : Surroundings)
  | exit (child : Nat)

namespace ManagerState

def new : ManagerState := ⟨∅, [], []⟩

def isAlive (manager : ManagerState) (child : Nat) : Bool :=
  (manager.children[child]?).any Child.alive

/-- `cleanup_exited_sessions`: exited children go, and those whose wait fails. -/
def cleanup (manager : ManagerState) (waitFails : Nat → Bool) : ManagerState :=
  { manager with sessions :=
      Table.retain (fun _ child => manager.isAlive child && !waitFails child) manager.sessions }

/-- A child exits, by itself or killed. -/
def die (manager : ManagerState) (child : Nat) : ManagerState :=
  { manager with children :=
      manager.children.modify child fun held => { held with alive := false } }

def drop (manager : ManagerState) (id : String) : ManagerState :=
  { manager with sessions := manager.sessions.erase id }

/-- One turn of the loop of `disconnect_profiles`: the session goes first. -/
def kill (killFails : Nat → Bool) (manager : ManagerState) (id : String) : ManagerState :=
  match manager.sessions.lookup id with
  | none => manager
  | some child =>
      if killFails child then manager.drop id else (manager.drop id).die child

def spawn (manager : ManagerState) (id : String) : ManagerState :=
  { manager with children := manager.children ++ [⟨id, true⟩] }

/-- The insertion overwrites what the profile had. -/
def insert (manager : ManagerState) (id : String) (child : Nat) : ManagerState :=
  { manager with sessions := manager.sessions.insert id child }

def proceed (manager : ManagerState) (index : Nat) (next : Request) : ManagerState :=
  { manager with requests := manager.requests.set index next }

def nextProfile : List String → Request
  | [] => .finished
  | id :: rest => .checking id rest

def advance (manager : ManagerState) (index : Nat) (around : Surroundings) :
    Request → ManagerState
  | .connect ids =>
      let cleaned := manager.cleanup around.waitFails
      match around.profiles with
      | none => cleaned.proceed index .finished
      | some profiles => cleaned.proceed index (nextProfile (ids.filter (· ∈ profiles)))
  | .checking id rest => (manager.cleanup around.waitFails).proceed index (.looking id rest)
  | .looking id rest =>
      manager.proceed index
        (if (manager.sessions.lookup id).isSome then nextProfile rest else .starting id rest)
  | .starting id rest =>
      match around.launch with
      | .tomlMissing | .spawnFailed => manager.proceed index (nextProfile rest)
      | .ioError => manager.proceed index .finished
      | .spawned =>
          (manager.spawn id).proceed index (.holding id manager.children.length rest)
  | .holding id child rest => (manager.insert id child).proceed index (nextProfile rest)
  | .disconnect ids => (manager.cleanup around.waitFails).proceed index (.killing ids)
  | .killing ids => (ids.foldl (kill around.killFails) manager).proceed index .finished
  | .stopAll => (manager.cleanup around.waitFails).proceed index .listing
  | .listing => manager.proceed index (.disconnect manager.sessions.keys)
  | .status 0 => manager.proceed index .finished
  | .status (sections + 1) =>
      (manager.cleanup around.waitFails).proceed index (.status sections)
  | .finished => manager

def arrives : Request → Bool
  | .connect _ | .disconnect _ | .stopAll | .status _ => true
  | _ => false

def step (manager : ManagerState) : ManagerEvent → ManagerState × List Empty
  | .arrive request =>
      (if arrives request then { manager with requests := manager.requests ++ [request] }
        else manager, [])
  | .advance index around =>
      match manager.requests[index]? with
      | none => (manager, [])
      | some request => (manager.advance index around request, [])
  | .exit child => (manager.die child, [])

end ManagerState

/-- Who answers for which child: the table of sessions, and the requests that
have spawned a child and not inserted it yet. -/
structure Custody where
  sessions : String → Option Nat
  children : Nat → Option Child
  holds : Nat → Option (String × Nat)

namespace Custody

/-- Sessions and requests hold children of their own profile, each its own. -/
structure Sound (custody : Custody) : Prop where
  owned : ∀ id child, custody.sessions id = some child →
    ∃ alive, custody.children child = some ⟨id, alive⟩
  spawned : ∀ i id child, custody.holds i = some (id, child) →
    ∃ alive, custody.children child = some ⟨id, alive⟩
  outside : ∀ i id child, custody.holds i = some (id, child) → custody.sessions id ≠ some child
  apart : ∀ i j id other child, custody.holds i = some (id, child) →
    custody.holds j = some (other, child) → i = j

/-- Every live child is in the table, or with the request about to put it there,
and a profile has one at most. -/
structure Kept (custody : Custody) : Prop where
  stored : ∀ id child, custody.children child = some ⟨id, true⟩ →
    custody.sessions id = some child ∨ ∃ i, custody.holds i = some (id, child)
  single : ∀ id child other, custody.children child = some ⟨id, true⟩ →
    custody.children other = some ⟨id, true⟩ → child = other

/-- Sessions are lost and children die, and nothing else. -/
structure Loses (before after : Custody) : Prop where
  sessions : ∀ id child, after.sessions id = some child → before.sessions id = some child
  children : ∀ child, after.children child = before.children child ∨
    ∃ id alive, before.children child = some ⟨id, alive⟩ ∧ after.children child = some ⟨id, false⟩
  holds : after.holds = before.holds

variable {before after : Custody}

theorem Loses.refl (custody : Custody) : Loses custody custody where
  sessions _ _ found := found
  children _ := Or.inl rfl
  holds := rfl

theorem Loses.trans {middle : Custody} (first : Loses before middle)
    (second : Loses middle after) : Loses before after where
  sessions id child found := first.sessions id child (second.sessions id child found)
  children child := by
    rcases first.children child with same | ⟨id, alive, was, dead⟩
    · rw [← same]
      exact second.children child
    · right
      rcases second.children child with same | ⟨owner, _, was', dead'⟩
      · exact ⟨id, alive, was, same.trans dead⟩
      · rw [dead] at was'
        cases was'
        exact ⟨id, alive, was, dead'⟩
  holds := second.holds.trans first.holds

theorem Loses.alive (loses : Loses before after) {id : String} {child : Nat}
    (live : after.children child = some ⟨id, true⟩) :
    before.children child = some ⟨id, true⟩ := by
  rcases loses.children child with same | ⟨_, _, _, dead⟩
  · exact same ▸ live
  · rw [dead] at live
    cases live

theorem Loses.owner (loses : Loses before after) {id : String} {child : Nat} {alive : Bool}
    (here : before.children child = some ⟨id, alive⟩) :
    ∃ alive, after.children child = some ⟨id, alive⟩ := by
  rcases loses.children child with same | ⟨owner, _, was, dead⟩
  · exact ⟨alive, same.trans here⟩
  · rw [here] at was
    cases was
    exact ⟨false, dead⟩

theorem Loses.sound (loses : Loses before after) (sound : before.Sound) : after.Sound where
  owned id child found := by
    obtain ⟨_, here⟩ := sound.owned id child (loses.sessions id child found)
    exact loses.owner here
  spawned i id child held := by
    obtain ⟨_, here⟩ := sound.spawned i id child (loses.holds ▸ held)
    exact loses.owner here
  outside i id child held found :=
    sound.outside i id child (loses.holds ▸ held) (loses.sessions id child found)
  apart i j id other child one two :=
    sound.apart i j id other child (loses.holds ▸ one) (loses.holds ▸ two)

/-- Nothing is orphaned exactly if the lost sessions are those of dead children. -/
theorem Loses.kept_iff (loses : Loses before after) (sound : before.Sound) (kept : before.Kept) :
    after.Kept ↔ ∀ id child, before.sessions id = some child →
      after.children child = some ⟨id, true⟩ → after.sessions id = some child := by
  constructor
  · intro kept' id child found live
    rcases kept'.stored id child live with there | ⟨i, held⟩
    · exact there
    · rw [loses.holds] at held
      exact absurd found (sound.outside i id child held)
  · intro spared
    constructor
    · intro id child live
      rcases kept.stored id child (loses.alive live) with found | ⟨i, held⟩
      · exact Or.inl (spared id child found live)
      · exact Or.inr ⟨i, loses.holds ▸ held⟩
    · intro id child other one two
      exact kept.single id child other (loses.alive one) (loses.alive two)

structure Spawns (before after : Custody) (i : Nat) (id : String) (child : Nat) : Prop where
  fresh : before.children child = none
  free : before.holds i = none
  sessions : after.sessions = before.sessions
  children : after.children = Function.update before.children child (some ⟨id, true⟩)
  holds : after.holds = Function.update before.holds i (some (id, child))

section Spawns
variable {i : Nat} {id : String} {child : Nat}

theorem Spawns.children_of_ne (spawns : Spawns before after i id child) {other : Nat}
    {held : Child} (here : before.children other = some held) :
    after.children other = some held := by
  have different : other ≠ child := by
    rintro rfl
    rw [spawns.fresh] at here
    cases here
  rw [spawns.children, Function.update_of_ne different, here]

theorem Spawns.sound (spawns : Spawns before after i id child) (sound : before.Sound) :
    after.Sound where
  owned owner held found := by
    rw [spawns.sessions] at found
    obtain ⟨alive, here⟩ := sound.owned owner held found
    exact ⟨alive, spawns.children_of_ne here⟩
  spawned j owner held found := by
    rw [spawns.holds] at found
    by_cases same : j = i
    · rw [same, Function.update_self] at found
      cases found
      exact ⟨true, by rw [spawns.children, Function.update_self]⟩
    · rw [Function.update_of_ne same] at found
      obtain ⟨alive, here⟩ := sound.spawned j owner held found
      exact ⟨alive, spawns.children_of_ne here⟩
  outside j owner held found stored := by
    rw [spawns.holds] at found
    rw [spawns.sessions] at stored
    by_cases same : j = i
    · rw [same, Function.update_self] at found
      cases found
      obtain ⟨_, here⟩ := sound.owned id child stored
      rw [spawns.fresh] at here
      cases here
    · rw [Function.update_of_ne same] at found
      exact sound.outside j owner held found stored
  apart j k owner other held one two := by
    -- Nobody held the number of the new child before.
    have old : ∀ j owner, before.holds j = some (owner, child) → False := by
      intro j owner found
      obtain ⟨_, here⟩ := sound.spawned j owner child found
      rw [spawns.fresh] at here
      cases here
    rw [spawns.holds] at one two
    by_cases first : j = i
    · by_cases second : k = i
      · exact first.trans second.symm
      · rw [first, Function.update_self] at one
        rw [Function.update_of_ne second] at two
        cases one
        exact (old k other two).elim
    · rw [Function.update_of_ne first] at one
      by_cases second : k = i
      · rw [second, Function.update_self] at two
        cases two
        exact (old j owner one).elim
      · rw [Function.update_of_ne second] at two
        exact sound.apart j k owner other held one two

/-- A new child is the only live one of its profile exactly if there was none. -/
theorem Spawns.kept_iff (spawns : Spawns before after i id child) (kept : before.Kept) :
    after.Kept ↔ ∀ other, before.children other ≠ some ⟨id, true⟩ := by
  have new : after.children child = some ⟨id, true⟩ := by
    rw [spawns.children, Function.update_self]
  constructor
  · intro kept' other live
    cases kept'.single id child other new (spawns.children_of_ne live)
    rw [spawns.fresh] at live
    cases live
  · intro none
    have old : ∀ owner other, other ≠ child → after.children other = some ⟨owner, true⟩ →
        before.children other = some ⟨owner, true⟩ := by
      intro owner other different live
      rwa [spawns.children, Function.update_of_ne different] at live
    constructor
    · intro owner other live
      by_cases same : other = child
      · cases same
        cases new.symm.trans live
        exact Or.inr ⟨i, by rw [spawns.holds, Function.update_self]⟩
      · rw [spawns.sessions, spawns.holds]
        rcases kept.stored owner other (old owner other same live) with found | ⟨j, held⟩
        · exact Or.inl found
        · have different : j ≠ i := by
            rintro rfl
            rw [spawns.free] at held
            cases held
          exact Or.inr ⟨j, by rw [Function.update_of_ne different, held]⟩
    · intro owner one two first second
      by_cases left : one = child
      · by_cases right : two = child
        · exact left.trans right.symm
        · cases left
          cases new.symm.trans first
          exact absurd (old id two right second) (none two)
      · by_cases right : two = child
        · cases right
          cases new.symm.trans second
          exact absurd (old id one left first) (none one)
        · exact kept.single owner one two (old owner one left first) (old owner two right second)

end Spawns

structure Inserts (before after : Custody) (i : Nat) (id : String) (child : Nat) : Prop where
  held : before.holds i = some (id, child)
  sessions : after.sessions = Function.update before.sessions id (some child)
  children : after.children = before.children
  holds : after.holds = Function.update before.holds i none

section Inserts
variable {i : Nat} {id : String} {child : Nat}

theorem Inserts.holds_of (inserts : Inserts before after i id child) {j : Nat}
    {held : String × Nat} (found : after.holds j = some held) :
    j ≠ i ∧ before.holds j = some held := by
  rw [inserts.holds] at found
  by_cases same : j = i
  · rw [same, Function.update_self] at found
    cases found
  · exact ⟨same, by rwa [Function.update_of_ne same] at found⟩

theorem Inserts.sound (inserts : Inserts before after i id child) (sound : before.Sound) :
    after.Sound where
  owned owner other found := by
    rw [inserts.sessions] at found
    rw [inserts.children]
    by_cases same : owner = id
    · rw [same, Function.update_self] at found
      cases found
      rw [same]
      exact sound.spawned i id child inserts.held
    · rw [Function.update_of_ne same] at found
      exact sound.owned owner other found
  spawned j owner other found := by
    rw [inserts.children]
    exact sound.spawned j owner other (inserts.holds_of found).2
  outside j owner other found stored := by
    obtain ⟨different, held⟩ := inserts.holds_of found
    rw [inserts.sessions] at stored
    by_cases same : owner = id
    · rw [same, Function.update_self] at stored
      cases stored
      exact different (sound.apart j i owner id child held inserts.held)
    · rw [Function.update_of_ne same] at stored
      exact sound.outside j owner other held stored
  apart j k owner other held one two :=
    sound.apart j k owner other held (inserts.holds_of one).2 (inserts.holds_of two).2

/-- The insertion orphans nothing exactly if it does not overwrite a live child. -/
theorem Inserts.kept_iff (inserts : Inserts before after i id child) (sound : before.Sound)
    (kept : before.Kept) : after.Kept ↔ ∀ other, before.sessions id = some other →
      before.children other ≠ some ⟨id, true⟩ := by
  constructor
  · intro kept' other found live
    rcases kept'.stored id other (by rw [inserts.children, live]) with stored | ⟨j, held⟩
    · rw [inserts.sessions, Function.update_self] at stored
      cases stored
      exact sound.outside i id child inserts.held found
    · exact sound.outside j id other (inserts.holds_of held).2 found
  · intro spared
    constructor
    · intro owner other live
      rw [inserts.children] at live
      rw [inserts.sessions, inserts.holds]
      rcases kept.stored owner other live with found | ⟨j, held⟩
      · have different : owner ≠ id := by
          rintro rfl
          exact spared other found live
        exact Or.inl (by rw [Function.update_of_ne different, found])
      · by_cases same : j = i
        · rw [same, inserts.held] at held
          cases held
          exact Or.inl (Function.update_self _ _ _)
        · exact Or.inr ⟨j, by rw [Function.update_of_ne same, held]⟩
    · rw [inserts.children]
      exact kept.single

end Inserts
end Custody
def Request.held : Request → Option (String × Nat)
  | .holding id child _ => some (id, child)
  | _ => none

def Request.cleans : Request → Bool
  | .connect _ | .checking _ _ | .disconnect _ | .stopAll | .status (_ + 1) => true
  | _ => false

namespace ManagerState

def custody (manager : ManagerState) : Custody where
  sessions id := manager.sessions.lookup id
  children child := manager.children[child]?
  holds i := (manager.requests[i]?).bind Request.held

theorem custody_holds (manager : ManagerState) (i : Nat) :
    manager.custody.holds i = (manager.requests[i]?).bind Request.held := rfl

/-- What a step needs to keep every live child in custody. -/
def Careful (manager : ManagerState) : ManagerEvent → Prop
  | .advance index around =>
      match manager.requests[index]? with
      | some (.starting id _) => around.launch = .spawned →
          ∀ child : Nat, manager.children[child]? ≠ some ⟨id, true⟩
      | some (.holding id _ _) => ∀ other, manager.sessions.lookup id = some other →
          manager.children[other]? ≠ some ⟨id, true⟩
      | some (.killing ids) => ∀ id ∈ ids, ∀ child, manager.sessions.lookup id = some child →
          manager.isAlive child = true → around.killFails child = false
      | some request => request.cleans = true → ∀ id child,
          manager.sessions.lookup id = some child → manager.isAlive child = true →
            around.waitFails child = false
      | none => True
  | _ => True

variable {manager : ManagerState}

theorem isAlive_of {child : Nat} {id : String}
    (live : manager.children[child]? = some ⟨id, true⟩) : manager.isAlive child = true := by
  rw [isAlive, live]
  rfl

theorem children_of_isAlive (sound : manager.custody.Sound) {id : String} {child : Nat}
    (found : manager.sessions.lookup id = some child) (live : manager.isAlive child = true) :
    manager.children[child]? = some ⟨id, true⟩ := by
  obtain ⟨alive, here⟩ := sound.owned id child found
  change manager.children[child]? = some ⟨id, alive⟩ at here
  rw [isAlive, here] at live
  rw [here]
  exact congrArg (fun alive => some (Child.mk id alive)) live

theorem getElem?_die (manager : ManagerState) (child other : Nat) :
    (manager.die child).children[other]? =
      if child = other then (manager.children[other]?).map fun held => Child.mk held.profile false
      else manager.children[other]? := by
  rw [die, List.getElem?_modify]
  by_cases same : child = other
  · simp [same]
  · simp [same]

theorem die_loses (manager : ManagerState) (child : Nat) :
    Custody.Loses manager.custody (manager.die child).custody where
  sessions _ _ found := found
  children other := by
    simp only [custody, getElem?_die]
    by_cases same : child = other
    · subst same
      rw [if_pos rfl]
      cases here : manager.children[child]? with
      | none => exact Or.inl rfl
      | some held => exact Or.inr ⟨held.profile, held.alive, rfl, rfl⟩
    · rw [if_neg same]
      exact Or.inl rfl
  holds := rfl

theorem drop_loses (manager : ManagerState) (id : String) :
    Custody.Loses manager.custody (manager.drop id).custody where
  sessions other held found := by
    by_cases same : other = id
    · simp [custody, drop, same, AList.lookup_erase] at found
    · simpa [custody, drop, AList.lookup_erase_ne same] using found
  children _ := Or.inl rfl
  holds := rfl

theorem cleanup_loses (manager : ManagerState) (waitFails : Nat → Bool) :
    Custody.Loses manager.custody (manager.cleanup waitFails).custody where
  sessions id child found := by
    simp only [custody, cleanup, Table.lookup_retain, Option.filter_eq_some_iff] at found
    exact found.1
  children _ := Or.inl rfl
  holds := rfl

theorem kill_loses (killFails : Nat → Bool) (manager : ManagerState) (id : String) :
    Custody.Loses manager.custody (manager.kill killFails id).custody := by
  unfold kill
  split
  · exact Custody.Loses.refl _
  · split
    · exact manager.drop_loses id
    · exact (manager.drop_loses id).trans ((manager.drop id).die_loses _)

theorem kills_loses (killFails : Nat → Bool) (ids : List String) (manager : ManagerState) :
    Custody.Loses manager.custody (ids.foldl (kill killFails) manager).custody := by
  induction ids generalizing manager with
  | nil => exact Custody.Loses.refl _
  | cons id rest ih => exact (kill_loses killFails manager id).trans (ih _)

theorem kills_requests (killFails : Nat → Bool) (ids : List String) (manager : ManagerState) :
    (ids.foldl (kill killFails) manager).requests = manager.requests := by
  induction ids generalizing manager with
  | nil => rfl
  | cons id rest ih =>
      rw [List.foldl_cons, ih, kill]
      split
      · rfl
      · split <;> rfl

theorem kill_sessions (killFails : Nat → Bool) (manager : ManagerState) (id : String) :
    (manager.kill killFails id).sessions.lookup id = none := by
  unfold kill
  cases found : manager.sessions.lookup id with
  | none => exact found
  | some child =>
      simp only
      split <;> exact AList.lookup_erase _ _

theorem kills_sessions (killFails : Nat → Bool) (ids : List String) (manager : ManagerState)
    {id : String} (member : id ∈ ids) :
    (ids.foldl (kill killFails) manager).sessions.lookup id = none := by
  induction ids generalizing manager with
  | nil => cases member
  | cons first rest ih =>
      rcases List.mem_cons.mp member with rfl | later
      · have gone := kill_sessions killFails manager id
        cases found : (rest.foldl (kill killFails) (manager.kill killFails id)).sessions.lookup id with
        | none => exact found
        | some child =>
            have before := (kills_loses killFails rest (manager.kill killFails id)).sessions id child
              found
            exact absurd before (by simp [custody, gone])
      · exact ih _ later

theorem kills_outside (killFails : Nat → Bool) (ids : List String) (manager : ManagerState)
    {child : Nat} (outside : ∀ id, manager.sessions.lookup id ≠ some child) :
    (ids.foldl (kill killFails) manager).children[child]? = manager.children[child]? := by
  induction ids generalizing manager with
  | nil => rfl
  | cons id rest ih =>
      have same : (manager.kill killFails id).children[child]? = manager.children[child]? := by
        unfold kill
        cases found : manager.sessions.lookup id with
        | none => rfl
        | some other =>
            have different : other ≠ child := by
              rintro rfl
              exact outside id found
            simp only
            split
            · rfl
            · rw [getElem?_die, if_neg different]
              rfl
      rw [List.foldl_cons, ih, same]
      intro other found
      exact outside other ((kill_loses killFails manager id).sessions other child found)

theorem sessions_inj (sound : manager.custody.Sound) {id other : String} {child : Nat}
    (one : manager.sessions.lookup id = some child)
    (two : manager.sessions.lookup other = some child) : id = other := by
  obtain ⟨_, first⟩ := sound.owned id child one
  obtain ⟨_, second⟩ := sound.owned other child two
  cases first.symm.trans second
  rfl

theorem kill_sessions_ne (killFails : Nat → Bool) (manager : ManagerState) {id other : String}
    (different : id ≠ other) :
    (manager.kill killFails other).sessions.lookup id = manager.sessions.lookup id := by
  unfold kill
  split
  · rfl
  · split <;> exact AList.lookup_erase_ne different

theorem kills_sessions_ne (killFails : Nat → Bool) (ids : List String) (manager : ManagerState)
    {id : String} (absent : id ∉ ids) :
    (ids.foldl (kill killFails) manager).sessions.lookup id = manager.sessions.lookup id := by
  induction ids generalizing manager with
  | nil => rfl
  | cons first rest ih =>
      rw [List.foldl_cons, ih _ fun later => absent (List.mem_cons_of_mem _ later)]
      exact kill_sessions_ne killFails manager fun same => absent (same ▸ List.mem_cons_self)

theorem kill_other (killFails : Nat → Bool) (sound : manager.custody.Sound) {id other : String}
    {child : Nat} (found : manager.sessions.lookup id = some child) (different : id ≠ other) :
    (manager.kill killFails other).children[child]? = manager.children[child]? := by
  unfold kill
  cases there : manager.sessions.lookup other with
  | none => rfl
  | some victim =>
      have apart : victim ≠ child := by
        rintro rfl
        exact different (sessions_inj sound found there)
      simp only
      split
      · rfl
      · rw [getElem?_die, if_neg apart]
        rfl

theorem kills_alive (killFails : Nat → Bool) (ids : List String) (manager : ManagerState)
    (sound : manager.custody.Sound) {id : String} (member : id ∈ ids) {child : Nat}
    (found : manager.sessions.lookup id = some child) :
    (ids.foldl (kill killFails) manager).children[child]? = some ⟨id, true⟩ ↔
      manager.children[child]? = some ⟨id, true⟩ ∧ killFails child = true := by
  induction ids generalizing manager with
  | nil => cases member
  | cons first rest ih =>
      have loses := kill_loses killFails manager first
      rw [List.foldl_cons]
      by_cases same : id = first
      · subst same
        have outside : ∀ other, (manager.kill killFails id).sessions.lookup other ≠ some child := by
          intro other there
          cases sessions_inj sound found (loses.sessions other child there)
          rw [kill_sessions] at there
          cases there
        rw [kills_outside killFails rest _ outside, kill, found]
        simp only
        by_cases fails : killFails child = true
        · rw [if_pos fails]
          exact (and_iff_left fails).symm
        · rw [if_neg fails, getElem?_die, if_pos rfl]
          simp [fails]
      · have later : id ∈ rest := (List.mem_cons.mp member).resolve_left same
        have kept := (kill_sessions_ne killFails manager same).trans found
        rw [ih _ (loses.sound sound) later kept, kill_other killFails sound found same]

theorem proceed_custody {index : Nat} {request : Request} (next : Request)
    (found : manager.requests[index]? = some request) (before : request.held = none)
    (after : next.held = none) : (manager.proceed index next).custody = manager.custody := by
  have holds : (manager.proceed index next).custody.holds = manager.custody.holds := by
    funext i
    simp only [custody, proceed, List.getElem?_set]
    by_cases same : index = i
    · subst same
      have inside := (List.getElem?_eq_some_iff.mp found).1
      rw [if_pos rfl, if_pos inside, found]
      exact after.trans before.symm
    · rw [if_neg same]
  exact congrArg (Custody.mk _ _) holds

theorem nextProfile_held (ids : List String) : (nextProfile ids).held = none := by
  cases ids <;> rfl

theorem cleanup_kept_iff (sound : manager.custody.Sound) (kept : manager.custody.Kept)
    (waitFails : Nat → Bool) : (manager.cleanup waitFails).custody.Kept ↔
      ∀ id child, manager.sessions.lookup id = some child → manager.isAlive child = true →
        waitFails child = false := by
  rw [(cleanup_loses manager waitFails).kept_iff sound kept]
  have lookup : ∀ id child, manager.sessions.lookup id = some child →
      ((manager.cleanup waitFails).custody.sessions id = some child ↔
        (manager.isAlive child && !waitFails child) = true) := by
    intro id child found
    simp [custody, cleanup, Table.lookup_retain, found, Option.filter_eq_some_iff]
  constructor
  · intro spared id child found live
    have there := (lookup id child found).mp
      (spared id child found (children_of_isAlive sound found live))
    simpa [live] using there
  · intro careful id child found live
    apply (lookup id child found).mpr
    have alive : manager.isAlive child = true := isAlive_of live
    rw [alive, careful id child found alive]
    rfl

theorem kills_kept_iff (sound : manager.custody.Sound) (kept : manager.custody.Kept)
    (killFails : Nat → Bool) (ids : List String) :
    (ids.foldl (kill killFails) manager).custody.Kept ↔
      ∀ id ∈ ids, ∀ child, manager.sessions.lookup id = some child →
        manager.isAlive child = true → killFails child = false := by
  have loses := kills_loses killFails ids manager
  rw [loses.kept_iff sound kept]
  constructor
  · intro spared id member child found live
    by_contra fails
    have here := children_of_isAlive sound found live
    have survives := (kills_alive killFails ids manager sound member found).mpr
      ⟨here, by simpa using fails⟩
    have stored := spared id child found survives
    change (ids.foldl (kill killFails) manager).sessions.lookup id = some child at stored
    rw [kills_sessions killFails ids manager member] at stored
    cases stored
  · intro careful id child found live
    by_cases member : id ∈ ids
    · obtain ⟨here, fails⟩ := (kills_alive killFails ids manager sound member found).mp live
      rw [careful id member child found (isAlive_of here)] at fails
      cases fails
    · exact (kills_sessions_ne killFails ids manager member).trans found

theorem arrives_held {request : Request} (first : arrives request = true) : request.held = none := by
  cases request <;> first | rfl | cases first

theorem arrive_custody (manager : ManagerState) {request : Request}
    (first : arrives request = true) :
    { manager with requests := manager.requests ++ [request] }.custody = manager.custody := by
  have holds : (fun i => ((manager.requests ++ [request])[i]?).bind Request.held) =
      manager.custody.holds := by
    funext i
    by_cases inside : i < manager.requests.length
    · rw [List.getElem?_append_left inside]
      rfl
    · have past := Nat.le_of_not_lt inside
      rw [List.getElem?_append_right past, custody_holds, List.getElem?_eq_none past]
      cases i - manager.requests.length with
      | zero => exact arrives_held first
      | succ j => rfl
  exact congrArg (Custody.mk _ _) holds

theorem spawns_custody {index : Nat} {id : String} {rest : List String}
    (found : manager.requests[index]? = some (.starting id rest)) :
    Custody.Spawns manager.custody
      ((manager.spawn id).proceed index (.holding id manager.children.length rest)).custody
      index id manager.children.length where
  fresh := List.getElem?_eq_none (Nat.le_refl _)
  free := by rw [custody_holds, found]; rfl
  sessions := rfl
  children := by
    funext child
    simp only [custody, proceed, spawn]
    by_cases same : child = manager.children.length
    · simp [same]
    · rw [Function.update_of_ne same]
      by_cases inside : child < manager.children.length
      · exact List.getElem?_append_left inside
      · have past : manager.children.length + 1 ≤ child := by omega
        rw [List.getElem?_eq_none (by simpa using past), List.getElem?_eq_none (by omega)]
  holds := by
    funext i
    simp only [custody, proceed, spawn, List.getElem?_set]
    by_cases same : i = index
    · have inside := (List.getElem?_eq_some_iff.mp found).1
      subst same
      rw [if_pos rfl, if_pos inside, Function.update_self]
      rfl
    · rw [if_neg (Ne.symm same), Function.update_of_ne same]

theorem inserts_custody {index child : Nat} {id : String} {rest : List String}
    (found : manager.requests[index]? = some (.holding id child rest)) :
    Custody.Inserts manager.custody
      ((manager.insert id child).proceed index (nextProfile rest)).custody index id child where
  held := by rw [custody_holds, found]; rfl
  sessions := Table.lookup_insert_update _ _ _
  children := rfl
  holds := by
    funext i
    simp only [custody, proceed, insert, List.getElem?_set]
    by_cases same : i = index
    · have inside := (List.getElem?_eq_some_iff.mp found).1
      subst same
      rw [if_pos rfl, if_pos inside, Function.update_self]
      exact nextProfile_held rest
    · rw [if_neg (Ne.symm same), Function.update_of_ne same]

section Advance
variable {index : Nat} {request next : Request} {around : Surroundings}

theorem proceed_exact (sound : manager.custody.Sound) (kept : manager.custody.Kept)
    (found : manager.requests[index]? = some request) (before : request.held = none)
    (after : next.held = none) (careful : manager.Careful (.advance index around)) :
    (manager.proceed index next).custody.Sound ∧
      ((manager.proceed index next).custody.Kept ↔ manager.Careful (.advance index around)) := by
  rw [proceed_custody next found before after]
  exact ⟨sound, iff_of_true kept careful⟩

theorem cleanup_exact (sound : manager.custody.Sound) (kept : manager.custody.Kept)
    (found : manager.requests[index]? = some request) (before : request.held = none)
    (after : next.held = none)
    (careful : manager.Careful (.advance index around) ↔ ∀ id child,
      manager.sessions.lookup id = some child → manager.isAlive child = true →
        around.waitFails child = false) :
    ((manager.cleanup around.waitFails).proceed index next).custody.Sound ∧
      (((manager.cleanup around.waitFails).proceed index next).custody.Kept ↔
        manager.Careful (.advance index around)) := by
  have same : ((manager.cleanup around.waitFails).proceed index next).custody =
      (manager.cleanup around.waitFails).custody := proceed_custody next found before after
  rw [same, careful]
  exact ⟨(cleanup_loses manager _).sound sound, cleanup_kept_iff sound kept _⟩

/-- What a section does to custody, and exactly when it orphans nothing. -/
theorem advance_exact (sound : manager.custody.Sound) (kept : manager.custody.Kept)
    (found : manager.requests[index]? = some request) :
    (manager.advance index around request).custody.Sound ∧
      ((manager.advance index around request).custody.Kept ↔
        manager.Careful (.advance index around)) := by
  cases request with
  | connect ids =>
      simp only [advance]
      split
      · exact cleanup_exact sound kept found rfl rfl (by simp [Careful, found, Request.cleans])
      · exact cleanup_exact sound kept found rfl (nextProfile_held _)
          (by simp [Careful, found, Request.cleans])
  | checking id rest =>
      exact cleanup_exact sound kept found rfl rfl (by simp [Careful, found, Request.cleans])
  | looking id rest =>
      have idle : manager.Careful (.advance index around) := by
        simp [Careful, found, Request.cleans]
      simp only [advance]
      split
      · exact proceed_exact sound kept found rfl (nextProfile_held rest) idle
      · exact proceed_exact sound kept found rfl rfl idle
  | starting id rest =>
      have careful : manager.Careful (.advance index around) ↔ (around.launch = .spawned →
          ∀ child : Nat, manager.children[child]? ≠ some ⟨id, true⟩) := by simp [Careful, found]
      cases launch : around.launch with
      | tomlMissing | spawnFailed =>
          simp only [advance, launch]
          exact proceed_exact sound kept found rfl (nextProfile_held rest)
            (careful.mpr fun spawned => by simp [launch] at spawned)
      | ioError =>
          simp only [advance, launch]
          exact proceed_exact sound kept found rfl rfl
            (careful.mpr fun spawned => by simp [launch] at spawned)
      | spawned =>
          simp only [advance, launch]
          have spawns := spawns_custody found
          rw [careful]
          exact ⟨spawns.sound sound, (spawns.kept_iff kept).trans ⟨fun none _ => none,
            fun none => none launch⟩⟩
  | holding id child rest =>
      have inserts := inserts_custody found
      refine ⟨inserts.sound sound, (inserts.kept_iff sound kept).trans ?_⟩
      simp [Careful, found, custody]
  | disconnect ids =>
      exact cleanup_exact sound kept found rfl rfl (by simp [Careful, found, Request.cleans])
  | killing ids =>
      -- Killing touches the children alone, so the request is still there to proceed.
      have loses := kills_loses around.killFails ids manager
      have requests : (ids.foldl (kill around.killFails) manager).requests[index]? =
          some (.killing ids) := by
        rw [kills_requests, found]
      have same := proceed_custody .finished requests rfl rfl
      simp only [advance]
      rw [same]
      refine ⟨loses.sound sound, (kills_kept_iff sound kept around.killFails ids).trans ?_⟩
      simp [Careful, found]
  | stopAll =>
      exact cleanup_exact sound kept found rfl rfl (by simp [Careful, found, Request.cleans])
  | listing =>
      exact proceed_exact sound kept found rfl rfl (by simp [Careful, found, Request.cleans])
  | status sections =>
      cases sections with
      | zero => exact proceed_exact sound kept found rfl rfl (by simp [Careful, found, Request.cleans])
      | succ sections =>
          exact cleanup_exact sound kept found rfl rfl (by simp [Careful, found, Request.cleans])
  | finished => exact ⟨sound, iff_of_true kept (by simp [Careful, found, Request.cleans])⟩

end Advance

theorem step_exact (manager : ManagerState) (event : ManagerEvent) (sound : manager.custody.Sound)
    (kept : manager.custody.Kept) : (manager.step event).1.custody.Sound ∧
      ((manager.step event).1.custody.Kept ↔ manager.Careful event) := by
  cases event with
  | arrive request =>
      simp only [step]
      split
      · rename_i first
        rw [arrive_custody manager first]
        exact ⟨sound, iff_of_true kept trivial⟩
      · exact ⟨sound, iff_of_true kept trivial⟩
  | advance index around =>
      simp only [step]
      cases found : manager.requests[index]? with
      | none => exact ⟨sound, iff_of_true kept (by simp [Careful, found])⟩
      | some request => exact advance_exact sound kept found
  | exit child =>
      have loses := manager.die_loses child
      refine ⟨loses.sound sound, iff_of_true ((loses.kept_iff sound kept).mpr ?_) trivial⟩
      exact fun id child found _ => found

end ManagerState

/-- The process of the manager: a shutdown ends it when its `stop_all` is through, 120 ms later
or, after Ctrl-C, when the open requests are answered. The children are processes of their
own. -/
structure ManagerProcess where
  manager : ManagerState
  /-- the requests that are a shutdown -/
  shutdowns : List Nat
  exited : Bool

inductive ProcessEvent where
  | inside (event : ManagerEvent)
  | quit

namespace ManagerProcess

def new : ManagerProcess := ⟨ManagerState.new, [], false⟩

def quits (process : ManagerProcess) : Bool :=
  !process.exited &&
    process.shutdowns.any fun index => process.manager.requests[index]? = some .finished

/-- Nothing is left of the process but the children it started. -/
def vanish (manager : ManagerState) : ManagerState :=
  { manager with sessions := ∅, requests := [] }

def step (process : ManagerProcess) : ProcessEvent → ManagerProcess × List Empty
  | .inside (.arrive request) =>
      if process.exited then (process, [])
      else
        let index := process.manager.requests.length
        ({ process with
            manager := (process.manager.step (.arrive request)).1
            shutdowns :=
              if request = .stopAll then process.shutdowns ++ [index] else process.shutdowns }, [])
  | .inside event => ({ process with manager := (process.manager.step event).1 }, [])
  | .quit =>
      if process.quits then
        ({ process with manager := vanish process.manager, exited := true }, [])
      else (process, [])

/-- A step inside is careful as it stands; the process ends with no live child in a session or
with a request. -/
def Careful (process : ManagerProcess) : ProcessEvent → Prop
  | .inside event => process.manager.Careful event
  | .quit => process.quits = true →
      (∀ id child, process.manager.sessions.lookup id = some child →
        process.manager.isAlive child = false) ∧
      ∀ (index child : Nat) id rest,
        process.manager.requests[index]? = some (.holding id child rest) →
          process.manager.isAlive child = false

theorem vanish_sound (manager : ManagerState) : (vanish manager).custody.Sound :=
  ⟨fun _ _ found => (by cases found), fun _ _ _ found => (by cases found),
    fun _ _ _ found => (by cases found), fun _ _ _ _ _ found => (by cases found)⟩

/-- The end of the process orphans whoever is alive. -/
theorem vanish_kept_iff (manager : ManagerState) : (vanish manager).custody.Kept ↔
    ∀ id child, manager.custody.children child ≠ some ⟨id, true⟩ := by
  constructor
  · intro kept id child live
    rcases kept.stored id child live with stored | ⟨i, held⟩
    · cases stored
    · cases held
  · intro dead
    exact ⟨fun id child live => absurd live (dead id child),
      fun id child _ live _ => absurd live (dead id child)⟩

theorem quit_exact (process : ManagerProcess) (sound : process.manager.custody.Sound)
    (kept : process.manager.custody.Kept) (quits : process.quits = true) :
    (vanish process.manager).custody.Kept ↔ process.Careful .quit := by
  rw [vanish_kept_iff]
  constructor
  · intro dead _
    have silent : ∀ id child, (∃ alive, process.manager.custody.children child =
        some ⟨id, alive⟩) → process.manager.isAlive child = false := by
      rintro id child ⟨alive, here⟩
      cases alive with
      | true => exact absurd here (dead id child)
      | false =>
          change process.manager.children[child]? = some ⟨id, false⟩ at here
          rw [ManagerState.isAlive, here]
          rfl
    refine ⟨fun id child found => silent id child (sound.owned id child found), ?_⟩
    intro index child id rest found
    refine silent id child (sound.spawned index id child ?_)
    rw [ManagerState.custody_holds, found]
    rfl
  · intro careful id child live
    obtain ⟨stored, held⟩ := careful quits
    have alive : process.manager.isAlive child = true := ManagerState.isAlive_of live
    rcases kept.stored id child live with found | ⟨index, holding⟩
    · rw [stored id child found] at alive
      cases alive
    · rw [ManagerState.custody_holds] at holding
      obtain ⟨request, found, owner⟩ := Option.bind_eq_some_iff.mp holding
      cases request with
      | holding id' child' rest =>
          cases owner
          rw [held index child id rest found] at alive
          cases alive
      | _ => cases owner

theorem step_exact (process : ManagerProcess) (event : ProcessEvent)
    (sound : process.manager.custody.Sound) (kept : process.manager.custody.Kept) :
    (process.step event).1.manager.custody.Sound ∧
      ((process.step event).1.manager.custody.Kept ↔ process.Careful event) := by
  cases event with
  | inside event =>
      have inner := process.manager.step_exact event sound kept
      cases event with
      | arrive request =>
          simp only [step]
          split
          · exact ⟨sound, iff_of_true kept trivial⟩
          · exact inner
      | advance index around => exact inner
      | exit child => exact inner
  | quit =>
      simp only [step]
      split
      · rename_i quits
        exact ⟨vanish_sound _, quit_exact process sound kept quits⟩
      · rename_i stays
        exact ⟨sound, iff_of_true kept fun quits => absurd quits stays⟩

/-- In a run of the manager every live child stays in custody exactly if every step is
careful. -/
theorem children_kept_iff (events : List ProcessEvent) :
    Machine.Along step (fun process event => (process.step event).1.manager.custody.Kept) new
        events ↔
      Machine.Along step Careful new events := by
  apply Machine.along_kept_iff step (fun process => process.manager.custody.Sound)
    (fun process => process.manager.custody.Kept) Careful events step_exact
  · exact vanish_sound ManagerState.new
  · exact ⟨fun _ _ found => (by cases found), fun _ _ _ found => (by cases found)⟩

def smooth : Surroundings := ⟨some ["a"], fun _ => false, fun _ => false, .spawned⟩

def doubleConnect : List ProcessEvent :=
  [.inside (.arrive (.connect ["a"])), .inside (.arrive (.connect ["a"])),
    .inside (.advance 0 smooth), .inside (.advance 0 smooth), .inside (.advance 0 smooth),
    .inside (.advance 1 smooth), .inside (.advance 1 smooth), .inside (.advance 1 smooth),
    .inside (.advance 0 smooth), .inside (.advance 0 smooth), .inside (.advance 1 smooth),
    .inside (.advance 1 smooth)]

-- The second insertion overwrites the first: child 0 lives on unknown.
theorem double_connect_orphans :
    ¬ Machine.Along step (fun process event => (process.step event).1.manager.custody.Kept) new
      doubleConnect := by
  intro kept
  obtain ⟨_, _, _, _, _, _, _, _, _, _, _, last, _⟩ := kept
  rcases last.stored "a" 0 (by decide +kernel) with stored | ⟨i, held⟩
  · exact absurd stored (by decide +kernel)
  · have idle : (Machine.run step new doubleConnect).1.manager.requests =
        [.finished, .finished] := by
      decide +kernel
    have none : ((Machine.run step new doubleConnect).1.manager.requests[i]?).bind Request.held =
        some ("a", 0) := held
    rw [idle] at none
    rcases i with _ | _ | i <;> cases none

end ManagerProcess
end VntClient
