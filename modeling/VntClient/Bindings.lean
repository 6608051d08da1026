import Mathlib

/-!
A table of resources by key, and workers that each own a resource under a key. An entry
is made with its worker; a worker that ends takes out whatever is under its key; entries
can also be dropped on their own.
-/

/-- Resources and workers are numbered as they are made. -/
@[ext]
structure Bindings (Key : Type) where
  stored : Key → Option Nat
  owner : Nat → Option (Key × Nat)
  resources : Nat
  workers : Nat

namespace Bindings
variable {Key : Type}

inductive Action (Key : Type) where
  | skip
  | reserve
  | connect (key : Key)
  | finish (id : Nat)
  | expire (gone : Key → Bool)

def empty : Bindings Key := ⟨fun _ => none, fun _ => none, 0, 0⟩

def reserve (bindings : Bindings Key) : Bindings Key :=
  { bindings with resources := bindings.resources + 1 }

def expire (bindings : Bindings Key) (gone : Key → Bool) : Bindings Key :=
  { bindings with stored := fun key => if gone key then none else bindings.stored key }

section Updates
variable [DecidableEq Key]

def connect (bindings : Bindings Key) (key : Key) : Bindings Key where
  stored := Function.update bindings.stored key (some bindings.resources)
  owner := Function.update bindings.owner bindings.workers (some (key, bindings.resources))
  resources := bindings.resources + 1
  workers := bindings.workers + 1

def finish (bindings : Bindings Key) (id : Nat) (key : Key) : Bindings Key :=
  { bindings with
    stored := Function.update bindings.stored key none
    owner := Function.update bindings.owner id none }

def apply (bindings : Bindings Key) : Action Key → Bindings Key
  | .skip => bindings
  | .reserve => bindings.reserve
  | .connect key => if bindings.stored key = none then bindings.connect key else bindings
  | .finish id =>
      match bindings.owner id with
      | none => bindings
      | some held => bindings.finish id held.1
  | .expire gone => bindings.expire gone

end Updates

/-- Every entry has a worker, and no two workers share a resource. -/
structure Sound (bindings : Bindings Key) : Prop where
  served : ∀ key resource, bindings.stored key = some resource →
    ∃ id, bindings.owner id = some (key, resource)
  numbered : ∀ id held, bindings.owner id = some held →
    id < bindings.workers ∧ held.2 < bindings.resources
  distinct : ∀ id other held held', bindings.owner id = some held →
    bindings.owner other = some held' → held.2 = held'.2 → id = other

/-- Every worker owns what is stored under its key, and every entry has one worker. -/
structure Matched (bindings : Bindings Key) : Prop where
  holds : ∀ id held, bindings.owner id = some held → bindings.stored held.1 = some held.2
  served : ∀ key resource, bindings.stored key = some resource →
    ∃! id, bindings.owner id = some (key, resource)

variable {bindings : Bindings Key}

/-- Only the first half of the match can fail. -/
theorem Sound.matched_iff (sound : bindings.Sound) :
    bindings.Matched ↔
      ∀ id held, bindings.owner id = some held → bindings.stored held.1 = some held.2 := by
  refine ⟨Matched.holds, fun holds => ⟨holds, ?_⟩⟩
  intro key resource present
  obtain ⟨id, owned⟩ := sound.served key resource present
  exact ⟨id, owned, fun other owns => sound.distinct other id _ _ owns owned rfl⟩

theorem sound_empty : (empty : Bindings Key).Sound :=
  ⟨fun _ _ present => (by cases present), fun _ _ owned => (by cases owned),
    fun _ _ _ _ owned => (by cases owned)⟩

theorem matched_empty : (empty : Bindings Key).Matched :=
  ⟨fun _ _ owned => (by cases owned), fun _ _ present => (by cases present)⟩

theorem Sound.reserve (sound : bindings.Sound) : bindings.reserve.Sound := by
  refine ⟨sound.served, ?_, sound.distinct⟩
  intro id held owned
  exact ⟨(sound.numbered id held owned).1, Nat.lt_succ_of_lt (sound.numbered id held owned).2⟩

theorem Sound.expire (sound : bindings.Sound) (gone : Key → Bool) :
    (bindings.expire gone).Sound := by
  refine ⟨?_, sound.numbered, sound.distinct⟩
  intro key resource present
  simp only [Bindings.expire] at present
  split at present
  · cases present
  · exact sound.served key resource present

/-- Dropping entries leaves their workers behind. -/
theorem expire_matched_iff (sound : bindings.Sound) (matched : bindings.Matched)
    (gone : Key → Bool) :
    (bindings.expire gone).Matched ↔ ∀ key, gone key = true → bindings.stored key = none := by
  rw [(sound.expire gone).matched_iff]
  constructor
  · intro holds key dropped
    by_contra present
    obtain ⟨resource, present⟩ := Option.ne_none_iff_exists'.mp present
    obtain ⟨id, owned⟩ := sound.served key resource present
    have kept := holds id _ owned
    simp only [expire, if_pos dropped] at kept
    cases kept
  · intro idle id held owned
    have present := matched.holds id held owned
    simp only [expire]
    split
    · rename_i dropped
      rw [idle held.1 dropped] at present
      cases present
    · exact present

variable [DecidableEq Key]

theorem connect_owner {key : Key} {id : Nat} {held : Key × Nat}
    (owned : (bindings.connect key).owner id = some held) :
    id = bindings.workers ∧ held = (key, bindings.resources) ∨ bindings.owner id = some held := by
  simp only [connect] at owned
  by_cases new : id = bindings.workers
  · subst new
    rw [Function.update_self] at owned
    exact Or.inl ⟨rfl, (Option.some.inj owned).symm⟩
  · rw [Function.update_of_ne new] at owned
    exact Or.inr owned

theorem finish_owner {id other : Nat} {key : Key} {held : Key × Nat}
    (owned : (bindings.finish id key).owner other = some held) :
    other ≠ id ∧ bindings.owner other = some held := by
  simp only [finish] at owned
  by_cases same : other = id
  · subst same
    rw [Function.update_self] at owned
    cases owned
  · rw [Function.update_of_ne same] at owned
    exact ⟨same, owned⟩

theorem Sound.connect (sound : bindings.Sound) (key : Key) : (bindings.connect key).Sound := by
  constructor
  · intro other resource present
    simp only [Bindings.connect] at present ⊢
    by_cases same : other = key
    · subst same
      rw [Function.update_self] at present
      cases present
      exact ⟨bindings.workers, Function.update_self _ _ _⟩
    · rw [Function.update_of_ne same] at present
      obtain ⟨id, owned⟩ := sound.served other resource present
      refine ⟨id, ?_⟩
      rwa [Function.update_of_ne (sound.numbered id _ owned).1.ne]
  · intro id held owned
    rcases connect_owner owned with ⟨rfl, rfl⟩ | old
    · exact ⟨Nat.lt_succ_self _, Nat.lt_succ_self _⟩
    · exact (sound.numbered id held old).imp Nat.lt_succ_of_lt Nat.lt_succ_of_lt
  · intro id other held held' owned owned' same
    rcases connect_owner owned with ⟨rfl, rfl⟩ | old
    · rcases connect_owner owned' with ⟨rfl, -⟩ | old'
      · rfl
      · exact absurd same (sound.numbered other held' old').2.ne'
    · rcases connect_owner owned' with ⟨rfl, rfl⟩ | old'
      · exact absurd same (sound.numbered id held old).2.ne
      · exact sound.distinct id other held held' old old' same

theorem Sound.finish (sound : bindings.Sound) {id : Nat} {held : Key × Nat}
    (owned : bindings.owner id = some held) : (bindings.finish id held.1).Sound := by
  constructor
  · intro key resource present
    simp only [Bindings.finish] at present ⊢
    by_cases same : key = held.1
    · subst same
      rw [Function.update_self] at present
      cases present
    · rw [Function.update_of_ne same] at present
      obtain ⟨other, owns⟩ := sound.served key resource present
      refine ⟨other, ?_⟩
      rw [Function.update_of_ne, owns]
      rintro rfl
      rw [owned] at owns
      cases owns
      exact same rfl
  · intro other held' owns
    exact sound.numbered other held' (finish_owner owns).2
  · intro other another held' held'' owns owns'
    exact sound.distinct other another held' held'' (finish_owner owns).2 (finish_owner owns').2

theorem Sound.apply (sound : bindings.Sound) (action : Action Key) :
    (bindings.apply action).Sound := by
  cases action with
  | skip => exact sound
  | reserve => exact sound.reserve
  | connect key =>
      simp only [Bindings.apply]
      split
      · exact sound.connect key
      · exact sound
  | finish id =>
      simp only [Bindings.apply]
      split
      · exact sound
      · rename_i held owned
        exact sound.finish owned
  | expire gone => exact sound.expire gone

/-- The only action that can undo the match is to drop an entry. -/
theorem apply_matched_iff (sound : bindings.Sound) (matched : bindings.Matched)
    (action : Action Key) :
    (bindings.apply action).Matched ↔
      ∀ gone, action = .expire gone → ∀ key, gone key = true → bindings.stored key = none := by
  cases action with
  | skip => exact iff_of_true matched fun _ same => (by cases same)
  | reserve =>
      refine iff_of_true ?_ fun _ same => (by cases same)
      exact sound.reserve.matched_iff.mpr matched.holds
  | connect key =>
      refine iff_of_true ?_ fun _ same => (by cases same)
      simp only [apply]
      split
      · rename_i absent
        apply (sound.connect key).matched_iff.mpr
        intro id held owned
        rcases connect_owner owned with ⟨rfl, rfl⟩ | old
        · exact Function.update_self _ _ _
        · have present := matched.holds id held old
          have other : held.1 ≠ key := by
            rintro rfl
            rw [absent] at present
            cases present
          simp only [connect]
          rwa [Function.update_of_ne other]
      · exact matched
  | finish id =>
      refine iff_of_true ?_ fun _ same => (by cases same)
      simp only [apply]
      split
      · exact matched
      · rename_i held owned
        apply (sound.finish owned).matched_iff.mpr
        intro other held' owns
        obtain ⟨different, old⟩ := finish_owner owns
        have present := matched.holds other held' old
        have apart : held'.1 ≠ held.1 := by
          intro same
          rw [same, matched.holds id held owned] at present
          have resource := Option.some.inj present
          exact different (sound.distinct other id held' held old owned resource.symm)
        simp only [finish]
        rwa [Function.update_of_ne apart]
  | expire gone =>
      rw [apply, expire_matched_iff sound matched]
      exact ⟨fun idle other same => (by cases same; exact idle), fun idle => idle gone rfl⟩

end Bindings
