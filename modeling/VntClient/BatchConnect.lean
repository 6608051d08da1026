import VntClient.NetPacket
import VntClient.ProfileSessions
import VntClient.Profiles

/-!
`connect_profiles` of `vntc-manager/src/main.rs` with what it reports. Between its locks
other requests and the children go on, so they do as they please there.
-/

namespace VntClient

structure OperationFailure where
  profileId : String
  reason : String
deriving DecidableEq

structure OperationResult where
  requestedIds : List String
  connectedIds : List String
  disconnectedIds : List String
  skippedIds : List String
  failed : List OperationFailure
deriving DecidableEq

/-- What can fail once a profile is known to have its `vnt.toml`. -/
inductive IoStep
  | createDirAll
  | openLog
  | writeLog
  | cloneStdout
  | cloneStderr
  | spawn
deriving DecidableEq

/-- One requested profile with its surroundings: the steps that fail with their errors,
and what others do before it, between its check of the sessions and their cleanup, and
while its child is started. -/
structure ConnectAttempt where
  id : String
  tomlExists : Bool
  io : IoStep → Option String
  timestamp : String
  waitFails : Nat → Bool
  before : List ManagerEvent
  beforeCheck : List ManagerEvent
  beforeStore : List ManagerEvent

inductive ConnectEffect
  | logged (id line : String)
  | spawned (id : String) (child : Nat)
  | stored (id : String) (child : Nat)

def ConnectEffect.storedId : ConnectEffect → Option String
  | stored id _ => some id
  | _ => none

/-- How it went for one requested profile; `aborted` leaves the loop. -/
inductive ConnectTurn
  | skipped
  | failed (reason : String)
  | connected (child : Nat)
  | aborted (error : String)

structure ManagerPaths where
  cliExecutable : String
  profileLogPath : String → String

namespace OperationResult

def default : OperationResult := ⟨[], [], [], [], []⟩

def request (result : OperationResult) (id : String) : OperationResult :=
  { result with requestedIds := result.requestedIds ++ [id] }

def record (result : OperationResult) (id : String) : ConnectTurn → OperationResult
  | .skipped => { result with skippedIds := result.skippedIds ++ [id] }
  | .failed reason => { result with failed := result.failed ++ [⟨id, reason⟩] }
  | .connected _ => { result with connectedIds := result.connectedIds ++ [id] }
  | .aborted _ => result

def sorted (result : OperationResult) : List String :=
  result.connectedIds ++ result.skippedIds ++ result.failed.map OperationFailure.profileId

end OperationResult

namespace ConnectAttempt
variable (paths : ManagerPaths) (profiles : List ProfileMeta) (manager : ManagerState)
  (attempt : ConnectAttempt)

/-- Of profiles with the same id the map keeps the last. -/
def profile : Option ProfileMeta := profiles.reverse.find? fun profile => profile.id == attempt.id

def others (manager : ManagerState) (events : List ManagerEvent) : ManagerState :=
  (Machine.run ManagerState.step manager events).1

def atCheck : ManagerState :=
  others ((others manager attempt.before).cleanup attempt.waitFails) attempt.beforeCheck

/-- The error that `?` takes out of the loop. -/
def prepareError : Option String :=
  (attempt.io .createDirAll).or <|
    ((attempt.io .openLog).map fun _ =>
      s!"open log failed: {paths.profileLogPath attempt.id}").or <|
    (attempt.io .writeLog).or <| (attempt.io .cloneStdout).or <| attempt.io .cloneStderr

def logged (profile : ProfileMeta) : List ConnectEffect :=
  if (attempt.io .createDirAll).isNone && (attempt.io .openLog).isNone &&
      (attempt.io .writeLog).isNone then
    [.logged attempt.id s!"[{attempt.timestamp}] 启动 {profile.name} ({profile.server})"]
  else []

def connectOne : ManagerState × List ConnectEffect × ConnectTurn :=
  match attempt.profile profiles with
  | none => (others manager attempt.before, [], .failed "配置不存在")
  | some profile =>
      let manager := attempt.atCheck manager
      if (manager.sessions.lookup attempt.id).isSome then (manager, [], .skipped)
      else if !attempt.tomlExists then (manager, [], .failed "缺少 vnt.toml")
      else
        match attempt.prepareError paths with
        | some error => (manager, attempt.logged profile, .aborted error)
        | none =>
            match attempt.io .spawn with
            | some _ =>
                (manager, attempt.logged profile,
                  .failed s!"start cli failed: {paths.cliExecutable}")
            | none =>
                let child := manager.children.length
                ((others (manager.spawn attempt.id) attempt.beforeStore).insert attempt.id child,
                  attempt.logged profile ++ [.spawned attempt.id child, .stored attempt.id child],
                  .connected child)

def connectRest (manager : ManagerState) (result : OperationResult) :
    List ConnectAttempt → ManagerState × List ConnectEffect × Outcome OperationResult
  | [] => (manager, [], .ok result)
  | attempt :: rest =>
      let one := attempt.connectOne paths profiles manager
      match one.2.2 with
      | .aborted error => (one.1, one.2.1, .err error)
      | turn =>
          let later := connectRest one.1 ((result.request attempt.id).record attempt.id turn) rest
          (later.1, one.2.1 ++ later.2.1, later.2.2)

/-- `connect_profiles` once the profiles are loaded. -/
def connectProfiles (waitFails : Nat → Bool) (attempts : List ConnectAttempt) :
    ManagerState × List ConnectEffect × Outcome OperationResult :=
  connectRest paths profiles (manager.cleanup waitFails) .default attempts

/-- A result that accounts for every requested profile, each time it is requested. -/
structure Accounts (ids : List String) (effects : List ConnectEffect) (result : OperationResult) :
    Prop where
  requested : result.requestedIds = ids
  once : result.sorted.Perm ids
  started : ∀ id, id ∈ result.connectedIds ↔
    ∃ child, .spawned id child ∈ effects ∧ .stored id child ∈ effects

def turn (manager : ManagerState) (attempt : ConnectAttempt) :
    ManagerState × List (String × List ConnectEffect × ConnectTurn) :=
  ((attempt.connectOne paths profiles manager).1,
    [(attempt.id, (attempt.connectOne paths profiles manager).2)])

structure Attempted (attempts : List ConnectAttempt) (last : ManagerState)
    (effects : List ConnectEffect) (result : OperationResult) : Prop where
  left : last = (Machine.run (turn paths profiles) manager attempts).1
  done : effects = (Machine.run (turn paths profiles) manager attempts).2.flatMap
    fun turn => turn.2.1
  went : result = (Machine.run (turn paths profiles) manager attempts).2.foldl
    (fun result turn => (result.request turn.1).record turn.1 turn.2.2) .default

/-- The call answers, accounts for every profile and has attempted each of them. -/
def Tolerant (attempts : List ConnectAttempt)
    (call : ManagerState × List ConnectEffect × Outcome OperationResult) : Prop :=
  ∃ result, call.2.2 = .ok result ∧ Accounts (attempts.map ConnectAttempt.id) call.2.1 result ∧
    Attempted paths profiles manager attempts call.1 call.2.1 result

/-- Nothing but the start itself fails for a stopped profile that is all there. -/
def Careful (manager : ManagerState) (attempt : ConnectAttempt) : Prop :=
  (attempt.profile profiles).isSome = true →
    (attempt.atCheck manager).sessions.lookup attempt.id = none → attempt.tomlExists = true →
      ∀ step, attempt.io step ≠ none → step = .spawn

variable {paths profiles manager attempt}

theorem prepareError_eq_none_iff :
    attempt.prepareError paths = none ↔ ∀ step, attempt.io step ≠ none → step = .spawn := by
  simp only [prepareError, Option.or_eq_none_iff, Option.map_eq_none_iff]
  constructor
  · rintro ⟨createDirAll, openLog, writeLog, cloneStdout, cloneStderr⟩ step fails
    cases step with
    | createDirAll => exact absurd createDirAll fails
    | openLog => exact absurd openLog fails
    | writeLog => exact absurd writeLog fails
    | cloneStdout => exact absurd cloneStdout fails
    | cloneStderr => exact absurd cloneStderr fails
    | spawn => rfl
  · intro only
    have works : ∀ step, step ≠ .spawn → attempt.io step = none :=
      fun step different => not_not.mp fun fails => different (only step fails)
    exact ⟨works _ (by decide), works _ (by decide), works _ (by decide), works _ (by decide),
      works _ (by decide)⟩

variable (paths profiles manager attempt) in
/-- A turn starts one child and stores it for its profile, or does neither. -/
theorem connectOne_effects : (∃ child lines,
      (∀ effect ∈ lines, ∃ line, effect = .logged attempt.id line) ∧
      (attempt.connectOne paths profiles manager).2 =
        (lines ++ [.spawned attempt.id child, .stored attempt.id child], .connected child) ∧
      (attempt.connectOne paths profiles manager).1.sessions.lookup attempt.id = some child) ∨
    (∀ effect ∈ (attempt.connectOne paths profiles manager).2.1,
        ∃ line, effect = .logged attempt.id line) ∧
      ∀ child, (attempt.connectOne paths profiles manager).2.2 ≠ .connected child := by
  have logs : ∀ profile, ∀ effect ∈ attempt.logged profile,
      ∃ line, effect = .logged attempt.id line := by
    intro profile effect member
    rw [logged] at member
    split at member
    · exact ⟨_, List.mem_singleton.mp member⟩
    · cases member
  rw [connectOne]
  split
  · exact .inr ⟨fun _ member => by (cases member), fun _ same => by cases same⟩
  · rename_i profile _
    dsimp only
    split
    · exact .inr ⟨fun _ member => by (cases member), fun _ same => by cases same⟩
    · split
      · exact .inr ⟨fun _ member => by (cases member), fun _ same => by cases same⟩
      · split
        · exact .inr ⟨logs profile, fun _ same => by cases same⟩
        · split
          · exact .inr ⟨logs profile, fun _ same => by cases same⟩
          · exact .inl ⟨_, _, logs profile, rfl, AList.lookup_insert _⟩

/-- A turn leaves the loop exactly if a step before the start fails. -/
theorem connectOne_aborted_iff : (∃ error, (attempt.connectOne paths profiles manager).2.2 =
    .aborted error) ↔ ¬ attempt.Careful profiles manager := by
  rw [connectOne, Careful, ← @prepareError_eq_none_iff paths attempt]
  cases known : attempt.profile profiles with
  | none => simp
  | some profile =>
      dsimp only
      cases session : (attempt.atCheck manager).sessions.lookup attempt.id with
      | some child => simp
      | none =>
          cases toml : attempt.tomlExists with
          | false => simp
          | true =>
              cases prepared : attempt.prepareError paths with
              | some error => simp
              | none =>
                  cases spawn : attempt.io .spawn with
                  | some error => simp
                  | none => simp

variable {start result : OperationResult} {rest attempts : List ConnectAttempt}

theorem connectRest_aborted {error : String}
    (aborted : (attempt.connectOne paths profiles manager).2.2 = .aborted error) :
    connectRest paths profiles manager start (attempt :: rest) =
      ((attempt.connectOne paths profiles manager).1,
        (attempt.connectOne paths profiles manager).2.1, .err error) := by
  simp only [connectRest, aborted]

theorem connectRest_continued
    (goes : ¬ ∃ error, (attempt.connectOne paths profiles manager).2.2 = .aborted error) :
    connectRest paths profiles manager start (attempt :: rest) =
      let one := attempt.connectOne paths profiles manager
      let later := connectRest paths profiles one.1
        ((start.request attempt.id).record attempt.id one.2.2) rest
      (later.1, one.2.1 ++ later.2.1, later.2.2) := by
  cases turn : (attempt.connectOne paths profiles manager).2.2 with
  | aborted error => exact absurd ⟨error, turn⟩ goes
  | skipped | failed _ | connected _ => simp only [connectRest, turn]

theorem connectRest_ok_iff (attempts : List ConnectAttempt) (manager : ManagerState)
    (start : OperationResult) :
    (∃ result, (connectRest paths profiles manager start attempts).2.2 = .ok result) ↔
      Machine.Along (turn paths profiles) (Careful profiles) manager attempts := by
  induction attempts generalizing manager start with
  | nil => exact iff_of_true ⟨start, rfl⟩ trivial
  | cons attempt rest ih =>
      by_cases aborts : ∃ error, (attempt.connectOne paths profiles manager).2.2 = .aborted error
      · have careless := connectOne_aborted_iff.mp aborts
        obtain ⟨error, aborts⟩ := aborts
        rw [connectRest_aborted aborts]
        exact iff_of_false (fun ⟨_, ok⟩ => by cases ok) fun along => careless along.1
      · have careful := not_not.mp (mt connectOne_aborted_iff.mpr aborts)
        rw [connectRest_continued aborts]
        exact (ih _ _).trans ⟨fun later => ⟨careful, later⟩, fun along => along.2⟩

theorem record_requestedIds (turn : ConnectTurn) (id : String) :
    (result.record id turn).requestedIds = result.requestedIds := by
  cases turn <;> rfl

theorem record_sorted (turn : ConnectTurn) (id : String) (goes : ¬ ∃ error, turn = .aborted error) :
    ((result.record id turn).sorted).Perm (result.sorted ++ [id]) := by
  cases turn with
  | aborted error => exact absurd ⟨error, rfl⟩ goes
  | failed reason =>
      simp only [OperationResult.record, OperationResult.sorted, List.map_append, List.map_cons,
        List.map_nil, List.append_assoc]
      exact List.Perm.refl _
  | skipped =>
      simp only [OperationResult.record, OperationResult.sorted, List.append_assoc]
      exact (List.perm_append_comm.append_left _).append_left _
  | connected child =>
      simp only [OperationResult.record, OperationResult.sorted, List.append_assoc]
      exact List.perm_append_comm.append_left _ |>.trans (by simp)

theorem filterMap_logged {effects : List ConnectEffect} {id : String}
    (logs : ∀ effect ∈ effects, ∃ line, effect = .logged id line) :
    effects.filterMap ConnectEffect.storedId = [] := by
  apply List.filterMap_eq_nil_iff.mpr
  intro effect member
  obtain ⟨_, rfl⟩ := logs effect member
  rfl

/-- Each turn lists the profile exactly as often as it stores a child for it. -/
theorem connectOne_connectedIds :
    (start.record attempt.id (attempt.connectOne paths profiles manager).2.2).connectedIds =
      start.connectedIds ++
        (attempt.connectOne paths profiles manager).2.1.filterMap ConnectEffect.storedId := by
  rcases connectOne_effects paths profiles manager attempt with
    ⟨child, lines, logs, same, _⟩ | ⟨logs, other⟩
  · rw [same, List.filterMap_append, filterMap_logged logs]
    rfl
  · rw [filterMap_logged logs, List.append_nil]
    cases turn : (attempt.connectOne paths profiles manager).2.2 with
    | connected child => exact absurd turn (other child)
    | skipped | failed _ | aborted _ => rfl

theorem connectOne_paired (id : String) (child : Nat) :
    .spawned id child ∈ (attempt.connectOne paths profiles manager).2.1 ↔
      .stored id child ∈ (attempt.connectOne paths profiles manager).2.1 := by
  have silent : ∀ {lines : List ConnectEffect},
      (∀ effect ∈ lines, ∃ line, effect = .logged attempt.id line) →
        .spawned id child ∉ lines ∧ .stored id child ∉ lines := by
    intro lines logs
    constructor
    · intro member
      obtain ⟨_, same⟩ := logs _ member
      cases same
    · intro member
      obtain ⟨_, same⟩ := logs _ member
      cases same
  rcases connectOne_effects paths profiles manager attempt with
    ⟨other, lines, logs, same, _⟩ | ⟨logs, _⟩
  · simp [same, silent logs]
  · simp [silent logs]

theorem connectRest_paired (attempts : List ConnectAttempt) (manager : ManagerState)
    (start : OperationResult) (id : String) (child : Nat) :
    .spawned id child ∈ (connectRest paths profiles manager start attempts).2.1 ↔
      .stored id child ∈ (connectRest paths profiles manager start attempts).2.1 := by
  induction attempts generalizing manager start with
  | nil => exact iff_of_false List.not_mem_nil List.not_mem_nil
  | cons attempt rest ih =>
      by_cases aborts : ∃ error, (attempt.connectOne paths profiles manager).2.2 = .aborted error
      · obtain ⟨error, aborts⟩ := aborts
        rw [connectRest_aborted aborts]
        exact connectOne_paired id child
      · rw [connectRest_continued aborts]
        simp only [List.mem_append]
        rw [connectOne_paired, ih]

theorem connectRest_accounts (attempts : List ConnectAttempt) (manager : ManagerState)
    (start : OperationResult)
    (ok : (connectRest paths profiles manager start attempts).2.2 = .ok result) :
    result.requestedIds = start.requestedIds ++ attempts.map ConnectAttempt.id ∧
      result.sorted.Perm (start.sorted ++ attempts.map ConnectAttempt.id) ∧
      result.connectedIds = start.connectedIds ++
        (connectRest paths profiles manager start attempts).2.1.filterMap
          ConnectEffect.storedId := by
  induction attempts generalizing manager start with
  | nil =>
      cases ok
      simp [connectRest]
  | cons attempt rest ih =>
      by_cases aborts : ∃ error, (attempt.connectOne paths profiles manager).2.2 = .aborted error
      · obtain ⟨error, aborts⟩ := aborts
        rw [connectRest_aborted aborts] at ok
        cases ok
      · rw [connectRest_continued aborts] at ok ⊢
        obtain ⟨requested, sorted, connected⟩ := ih _ _ ok
        refine ⟨?_, ?_, ?_⟩
        · rw [requested, record_requestedIds, List.map_cons, ← List.singleton_append,
            ← List.append_assoc]
          rfl
        · rw [List.map_cons, ← List.singleton_append, ← List.append_assoc]
          exact sorted.trans ((record_sorted _ _ aborts).append_right _)
        · rw [connected, connectOne_connectedIds, List.filterMap_append, ← List.append_assoc]
          rfl

theorem connectRest_turns (attempts : List ConnectAttempt) (manager : ManagerState)
    (start : OperationResult)
    (ok : (connectRest paths profiles manager start attempts).2.2 = .ok result) :
    (connectRest paths profiles manager start attempts).1 =
        (Machine.run (turn paths profiles) manager attempts).1 ∧
      (connectRest paths profiles manager start attempts).2.1 =
        ((Machine.run (turn paths profiles) manager attempts).2.flatMap fun turn => turn.2.1) ∧
      result = (Machine.run (turn paths profiles) manager attempts).2.foldl
        (fun result turn => (result.request turn.1).record turn.1 turn.2.2) start := by
  induction attempts generalizing manager start with
  | nil =>
      cases ok
      exact ⟨rfl, rfl, rfl⟩
  | cons attempt rest ih =>
      by_cases aborts : ∃ error, (attempt.connectOne paths profiles manager).2.2 = .aborted error
      · obtain ⟨error, aborts⟩ := aborts
        rw [connectRest_aborted aborts] at ok
        cases ok
      · rw [connectRest_continued aborts] at ok ⊢
        obtain ⟨last, effects, folded⟩ := ih _ _ ok
        rw [Machine.run_cons]
        refine ⟨last, ?_, folded⟩
        simp only [turn, List.cons_append, List.nil_append, List.flatMap_cons] at effects ⊢
        rw [effects]

/-- `connect_profiles` answers for every requested profile, and attempts each, exactly if no
turn is left through an error before its start. -/
theorem connectProfiles_tolerant_iff (paths : ManagerPaths) (profiles : List ProfileMeta)
    (manager : ManagerState) (waitFails : Nat → Bool) (attempts : List ConnectAttempt) :
    Tolerant paths profiles (manager.cleanup waitFails) attempts
        (connectProfiles paths profiles manager waitFails attempts) ↔
      Machine.Along (turn paths profiles) (Careful profiles) (manager.cleanup waitFails)
        attempts := by
  rw [← connectRest_ok_iff attempts _ OperationResult.default]
  constructor
  · exact fun ⟨result, ok, _⟩ => ⟨result, ok⟩
  · rintro ⟨result, ok⟩
    obtain ⟨requested, sorted, connected⟩ := connectRest_accounts attempts _ _ ok
    obtain ⟨last, effects, went⟩ := connectRest_turns attempts _ _ ok
    refine ⟨result, ok, ⟨requested, sorted, fun id => ?_⟩, ⟨last, effects, went⟩⟩
    rw [connected]
    simp only [connectProfiles, OperationResult.default, List.nil_append, List.mem_filterMap]
    constructor
    · rintro ⟨effect, member, same⟩
      cases effect with
      | logged id line => cases same
      | spawned id child => cases same
      | stored other child =>
          cases same
          exact ⟨child, (connectRest_paired _ _ _ _ _).mpr member, member⟩
    · rintro ⟨child, _, member⟩
      exact ⟨_, member, rfl⟩

def listed (id : String) : ProfileMeta := ⟨id, id, "", "", "", 0, "", false, true, "", true⟩

def secondLog : List ConnectAttempt :=
  [⟨"a", true, fun _ => none, "0", fun _ => false, [], [], []⟩,
    ⟨"b", true, fun step => if step = .openLog then some "denied" else none, "0", fun _ => false,
      [], [], []⟩]

-- The child of the first one runs on, and nobody is told.
theorem connectProfiles_not_tolerant :
    ¬ ∀ (paths : ManagerPaths) (profiles : List ProfileMeta) (manager : ManagerState)
      (waitFails : Nat → Bool) (attempts : List ConnectAttempt),
      Tolerant paths profiles (manager.cleanup waitFails) attempts
        (connectProfiles paths profiles manager waitFails attempts) := by
  intro tolerant
  obtain ⟨result, ok, _⟩ := tolerant ⟨"vnt", fun id => id⟩ [listed "a", listed "b"] .new
    (fun _ => false) secondLog
  have aborted : (connectProfiles ⟨"vnt", fun id => id⟩ [listed "a", listed "b"] .new
      (fun _ => false) secondLog).2.2 = .err "open log failed: b" := by decide +kernel
  rw [aborted] at ok
  cases ok

end ConnectAttempt
end VntClient
