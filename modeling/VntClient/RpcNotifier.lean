import VntClient.Machine
import VntClient.Table
import VntClient.NetPacket

/-!
`tunnel_core/server/rpc.rs`. A request takes its id in one critical section and is
registered in another; a response takes the sender of its id out of the map, and a
waiter takes out its own when it is dropped. Seen from one request, the others and
the map are not there.
-/

namespace VntClient

structure RpcResponse where
  id : UInt64
  payload : Option Bytes
deriving DecidableEq

/-- A request that has its id, a waiter that waits, one that has its result but is not
dropped yet, and a dropped one. -/
inductive Stage where
  | allocated
  | waiting
  | leaving
  | dropped
deriving DecidableEq

/-- A call of `create_request_and_waiter` and what was sent into its channel. -/
structure RpcRequest where
  id : UInt64
  stage : Stage
  answer : Option RpcResponse
deriving DecidableEq

inductive RpcEvent where
  | allocate
  | register (index : Nat)
  | notifyResponse (response : RpcResponse)
  | receive (index : Nat)
  | expire (index : Nat)
  | drop (index : Nat)
deriving DecidableEq

namespace RpcRequest

def Live (request : RpcRequest) : Prop := request.stage = .waiting ∨ request.stage = .leaving

instance (request : RpcRequest) : Decidable request.Live := by
  unfold Live
  exact inferInstance

def register (request : RpcRequest) : RpcRequest :=
  if request.stage = .allocated then { request with stage := .waiting } else request

/-- `tx.send`; an error is ignored. -/
def send (request : RpcRequest) (response : RpcResponse) : RpcRequest :=
  if request.Live then { request with answer := some response } else request

def receive (request : RpcRequest) : RpcRequest × List RpcResponse :=
  match request.answer with
  | some response =>
      if request.stage = .waiting then ({ request with stage := .leaving }, [response])
      else (request, [])
  | none => (request, [])

/-- The time is up with nothing in the channel. -/
def expire (request : RpcRequest) : RpcRequest :=
  if request.stage = .waiting ∧ request.answer = none then { request with stage := .leaving }
  else request

def drop (request : RpcRequest) : RpcRequest :=
  if request.Live then { request with stage := .dropped } else request

/-- What an event is to the request with this number alone: the first response with its
id that comes while there is a waiter is its answer. -/
def follow (index : Nat) (request : RpcRequest) : RpcEvent → RpcRequest × List RpcResponse
  | .allocate => (request, [])
  | .register other => (if other = index then request.register else request, [])
  | .notifyResponse response =>
      (if response.id = request.id ∧ request.answer = none then request.send response else request,
        [])
  | .receive other => if other = index then request.receive else (request, [])
  | .expire other => (if other = index then request.expire else request, [])
  | .drop other => (if other = index then request.drop else request, [])

end RpcRequest

/-- The counter, the map from ids to the channels of requests, and the requests made. -/
structure RpcNotifier where
  rpcId : UInt64
  pendingRequests : AList fun _ : UInt64 => Nat
  requests : List RpcRequest

namespace RpcNotifier

def new : RpcNotifier := ⟨0, ∅, []⟩

def allocate (notifier : RpcNotifier) : RpcNotifier :=
  { notifier with
    rpcId := notifier.rpcId + 1
    requests := notifier.requests ++ [⟨notifier.rpcId + 1, .allocated, none⟩] }

def register (notifier : RpcNotifier) (index : Nat) : RpcNotifier :=
  match notifier.requests[index]? with
  | none => notifier
  | some request =>
      if request.stage = .allocated then
        { notifier with
          pendingRequests := notifier.pendingRequests.insert request.id index
          requests := notifier.requests.modify index RpcRequest.register }
      else notifier

def notifyResponse (notifier : RpcNotifier) (response : RpcResponse) : RpcNotifier :=
  match notifier.pendingRequests.lookup response.id with
  | none => notifier
  | some index =>
      { notifier with
        pendingRequests := notifier.pendingRequests.erase response.id
        requests := notifier.requests.modify index fun request => request.send response }

def receive (notifier : RpcNotifier) (index : Nat) : RpcNotifier × List (Nat × RpcResponse) :=
  match notifier.requests[index]? with
  | none => (notifier, [])
  | some request =>
      ({ notifier with
          requests := notifier.requests.modify index fun request => request.receive.1 },
        request.receive.2.map fun response => (index, response))

def expire (notifier : RpcNotifier) (index : Nat) : RpcNotifier :=
  { notifier with requests := notifier.requests.modify index RpcRequest.expire }

def drop (notifier : RpcNotifier) (index : Nat) : RpcNotifier :=
  match notifier.requests[index]? with
  | none => notifier
  | some request =>
      if request.Live then
        { notifier with
          pendingRequests := notifier.pendingRequests.erase request.id
          requests := notifier.requests.modify index RpcRequest.drop }
      else notifier

/-- The responses that waiters obtain are put out. -/
def step (notifier : RpcNotifier) (event : RpcEvent) : RpcNotifier × List (Nat × RpcResponse) :=
  match event with
  | .allocate => (notifier.allocate, [])
  | .register index => (notifier.register index, [])
  | .notifyResponse response => (notifier.notifyResponse response, [])
  | .receive index => notifier.receive index
  | .expire index => (notifier.expire index, [])
  | .drop index => (notifier.drop index, [])

end RpcNotifier

namespace RpcRequest

def Open (request : RpcRequest) : Prop := request.Live ∧ request.answer = none

variable {request : RpcRequest}

@[simp] theorem register_id : request.register.id = request.id := by
  unfold register
  split <;> rfl

@[simp] theorem send_id (response : RpcResponse) : (request.send response).id = request.id := by
  unfold send
  split <;> rfl

@[simp] theorem receive_id : request.receive.1.id = request.id := by
  unfold receive
  split
  · split <;> rfl
  · rfl

@[simp] theorem expire_id : request.expire.id = request.id := by
  unfold expire
  split <;> rfl

@[simp] theorem drop_id : request.drop.id = request.id := by
  unfold drop
  split <;> rfl

theorem open_register (allocated : request.stage = .allocated) (empty : request.answer = none) :
    request.register.Open := by
  rw [register, if_pos allocated]
  exact ⟨Or.inl rfl, empty⟩

theorem not_open_send (live : request.Live) (response : RpcResponse) :
    ¬ (request.send response).Open := by
  rw [send, if_pos live]
  rintro ⟨_, empty⟩
  cases empty

theorem open_receive : request.receive.1.Open ↔ request.Open := by
  unfold receive
  split
  · rename_i response answered
    split
    · simp [Open, answered]
    · rfl
  · rfl

theorem open_expire : request.expire.Open ↔ request.Open := by
  unfold expire
  split
  · rename_i waiting
    simp [Open, Live, waiting]
  · rfl

theorem not_open_drop : ¬ request.drop.Open := by
  unfold drop
  split
  · rintro ⟨live, _⟩
    simp [Live] at live
  · rename_i gone
    exact fun still => gone still.1

/-- Without a waiter there is nothing in the channel. -/
def Fresh (request : RpcRequest) : Prop := request.stage = .allocated → request.answer = none

theorem fresh_register (fresh : request.Fresh) : request.register.Fresh := by
  unfold register
  split
  · exact fun _ => fresh ‹_›
  · exact fresh

theorem fresh_send (fresh : request.Fresh) (response : RpcResponse) :
    (request.send response).Fresh := by
  unfold send
  split
  · rename_i live
    intro allocated
    rcases live with waiting | leaving
    · exact absurd (waiting.symm.trans allocated) (by decide)
    · exact absurd (leaving.symm.trans allocated) (by decide)
  · exact fresh

theorem fresh_receive (fresh : request.Fresh) : request.receive.1.Fresh := by
  unfold receive
  split
  · split
    · intro allocated
      cases allocated
    · exact fresh
  · exact fresh

theorem fresh_expire (fresh : request.Fresh) : request.expire.Fresh := by
  unfold expire
  split
  · intro allocated
    cases allocated
  · exact fresh

theorem fresh_drop (fresh : request.Fresh) : request.drop.Fresh := by
  unfold drop
  split
  · intro allocated
    cases allocated
  · exact fresh

end RpcRequest

namespace RpcNotifier

/-- The request with this number has the id and waits for its answer. -/
def OpenAt (requests : List RpcRequest) (id : UInt64) (index : Nat) : Prop :=
  ∃ request, requests[index]? = some request ∧ request.id = id ∧ request.Open

/-- Ids are given out in order; as long as they do not wrap, the map leads from the ids
of the requests that wait to the requests. -/
structure Sound (notifier : RpcNotifier) : Prop where
  counted : notifier.rpcId = UInt64.ofNat notifier.requests.length
  numbered : ∀ index request, notifier.requests[index]? = some request →
    request.id = UInt64.ofNat (index + 1)
  fresh : ∀ request ∈ notifier.requests, request.Fresh
  pending : notifier.requests.length < 2 ^ 64 → ∀ id index,
    notifier.pendingRequests.lookup id = some index ↔ OpenAt notifier.requests id index

variable {notifier : RpcNotifier}

/-- No two requests have one id. -/
theorem Sound.unique (sound : notifier.Sound) (few : notifier.requests.length < 2 ^ 64)
    {index other : Nat} {request held : RpcRequest}
    (here : notifier.requests[index]? = some request)
    (there : notifier.requests[other]? = some held) (same : request.id = held.id) :
    index = other := by
  obtain ⟨small, _⟩ := List.getElem?_eq_some_iff.mp here
  obtain ⟨smaller, _⟩ := List.getElem?_eq_some_iff.mp there
  rw [sound.numbered index request here, sound.numbered other held there] at same
  have numbers := congrArg UInt64.toNat same
  rw [UInt64.toNat_ofNat', UInt64.toNat_ofNat'] at numbers
  omega

theorem getElem?_modify_eq_some {requests : List RpcRequest} {other index : Nat}
    {change : RpcRequest → RpcRequest} {request : RpcRequest} :
    (requests.modify other change)[index]? = some request ↔ ∃ held, requests[index]? = some held ∧
      request = if other = index then change held else held := by
  rw [List.getElem?_modify]
  cases requests[index]? with
  | none => simp
  | some held => simp [eq_comm]

theorem openAt_modify {requests : List RpcRequest} {other : Nat} {change : RpcRequest → RpcRequest}
    (keeps : ∀ request, (change request).id = request.id) (id : UInt64) (index : Nat) :
    OpenAt (requests.modify other change) id index ↔ ∃ request, requests[index]? = some request ∧
      request.id = id ∧ (if other = index then change request else request).Open := by
  simp only [OpenAt, getElem?_modify_eq_some]
  constructor
  · rintro ⟨_, ⟨held, here, rfl⟩, same, still⟩
    refine ⟨held, here, ?_, still⟩
    split at same
    · exact (keeps held).symm.trans same
    · exact same
  · rintro ⟨held, here, same, still⟩
    refine ⟨_, ⟨held, here, rfl⟩, ?_, still⟩
    split
    · exact (keeps held).trans same
    · exact same

theorem Sound.modify (sound : notifier.Sound) {other : Nat} {change : RpcRequest → RpcRequest}
    (keeps : ∀ request, (change request).id = request.id)
    (fresh : ∀ request : RpcRequest, request.Fresh → (change request).Fresh)
    {pending : AList fun _ : UInt64 => Nat}
    (points : notifier.requests.length < 2 ^ 64 → ∀ id index, pending.lookup id = some index ↔
      OpenAt (notifier.requests.modify other change) id index) :
    Sound ⟨notifier.rpcId, pending, notifier.requests.modify other change⟩ := by
  constructor
  · rw [sound.counted, List.length_modify]
  · intro index request here
    obtain ⟨held, before, rfl⟩ := getElem?_modify_eq_some.mp here
    rw [← sound.numbered index held before]
    split
    · exact keeps held
    · rfl
  · intro request member
    obtain ⟨index, here⟩ := List.mem_iff_getElem?.mp member
    obtain ⟨held, before, rfl⟩ := getElem?_modify_eq_some.mp here
    have old := sound.fresh held (List.mem_of_getElem? before)
    split
    · exact fresh held old
    · exact old
  · rw [List.length_modify]
    exact points

theorem Sound.close (sound : notifier.Sound) (few : notifier.requests.length < 2 ^ 64)
    {other : Nat} {request : RpcRequest} (known : notifier.requests[other]? = some request)
    {change : RpcRequest → RpcRequest} (keeps : ∀ request, (change request).id = request.id)
    (closes : ¬ (change request).Open) (id : UInt64) (index : Nat) :
    (notifier.pendingRequests.erase request.id).lookup id = some index ↔
      OpenAt (notifier.requests.modify other change) id index := by
  rw [openAt_modify keeps]
  by_cases same : id = request.id
  · subst same
    rw [AList.lookup_erase]
    refine iff_of_false (by simp) ?_
    rintro ⟨held, here, sameId, still⟩
    cases sound.unique few here known sameId
    cases known.symm.trans here
    rw [if_pos rfl] at still
    exact closes still
  · rw [AList.lookup_erase_ne same, sound.pending few]
    constructor
    · rintro ⟨held, here, sameId, still⟩
      refine ⟨held, here, sameId, ?_⟩
      rw [if_neg]
      · exact still
      · rintro rfl
        cases known.symm.trans here
        exact same sameId.symm
    · rintro ⟨held, here, sameId, still⟩
      refine ⟨held, here, sameId, ?_⟩
      rwa [if_neg] at still
      rintro rfl
      cases known.symm.trans here
      exact same sameId.symm

theorem openAt_modify_iff {requests : List RpcRequest} {other : Nat}
    {change : RpcRequest → RpcRequest} (keeps : ∀ request, (change request).id = request.id)
    (same : ∀ request : RpcRequest, (change request).Open ↔ request.Open) (id : UInt64)
    (index : Nat) :
    OpenAt (requests.modify other change) id index ↔ OpenAt requests id index := by
  rw [openAt_modify keeps]
  apply exists_congr
  intro request
  split
  · rw [same]
  · rfl

theorem OpenAt.append {requests : List RpcRequest} {request : RpcRequest} (shut : ¬ request.Open)
    (id : UInt64) (index : Nat) :
    OpenAt (requests ++ [request]) id index ↔ OpenAt requests id index := by
  constructor
  · rintro ⟨held, here, same, still⟩
    rw [List.getElem?_append] at here
    split at here
    · exact ⟨held, here, same, still⟩
    · cases List.mem_singleton.mp (List.mem_of_getElem? here)
      exact absurd still shut
  · rintro ⟨held, here, same, still⟩
    have small := (List.getElem?_eq_some_iff.mp here).1
    exact ⟨held, (List.getElem?_append_left small).trans here, same, still⟩

theorem Sound.allocate (sound : notifier.Sound) : notifier.allocate.Sound := by
  constructor
  · rw [RpcNotifier.allocate, List.length_append, sound.counted]
    exact (UInt64.ofNat_add _ 1).symm
  · intro index request here
    simp only [RpcNotifier.allocate, List.getElem?_append] at here
    split at here
    · exact sound.numbered index request here
    · rename_i late
      have last := (List.getElem?_eq_some_iff.mp here).1
      have position : index = notifier.requests.length := by
        rw [List.length_singleton] at last
        omega
      cases List.mem_singleton.mp (List.mem_of_getElem? here)
      rw [position, sound.counted]
      exact (UInt64.ofNat_add _ 1).symm
  · intro request member
    rcases List.mem_append.mp member with old | new
    · exact sound.fresh request old
    · cases List.mem_singleton.mp new
      exact fun _ => rfl
  · intro few id index
    have shut : ¬ RpcRequest.Open ⟨notifier.rpcId + 1, .allocated, none⟩ := by
      rintro ⟨live, _⟩
      simp [RpcRequest.Live] at live
    rw [RpcNotifier.allocate, OpenAt.append shut]
    apply sound.pending
    rw [RpcNotifier.allocate, List.length_append] at few
    omega

theorem Sound.register (sound : notifier.Sound) (index : Nat) :
    (notifier.register index).Sound := by
  unfold RpcNotifier.register
  cases known : notifier.requests[index]? with
  | none => exact sound
  | some request =>
      simp only
      split
      · rename_i allocated
        have empty := sound.fresh request (List.mem_of_getElem? known) allocated
        apply sound.modify (fun _ => RpcRequest.register_id) (fun _ => RpcRequest.fresh_register)
        intro few id other
        rw [openAt_modify fun _ => RpcRequest.register_id]
        by_cases same : id = request.id
        · subst same
          rw [AList.lookup_insert, Option.some_inj]
          constructor
          · rintro rfl
            refine ⟨request, known, rfl, ?_⟩
            rw [if_pos rfl]
            exact RpcRequest.open_register allocated empty
          · rintro ⟨held, here, sameId, _⟩
            exact sound.unique few known here sameId.symm
        · rw [AList.lookup_insert_ne same, sound.pending few]
          apply exists_congr
          intro held
          refine and_congr_right fun here => and_congr_right fun sameId => ?_
          rw [if_neg]
          rintro rfl
          cases known.symm.trans here
          exact same sameId.symm
      · exact sound

theorem Sound.notifyResponse (sound : notifier.Sound) (few : notifier.requests.length < 2 ^ 64)
    (response : RpcResponse) : (notifier.notifyResponse response).Sound := by
  unfold RpcNotifier.notifyResponse
  cases found : notifier.pendingRequests.lookup response.id with
  | none => exact sound
  | some index =>
      obtain ⟨request, known, same, live, _⟩ := (sound.pending few _ _).mp found
      apply sound.modify (fun _ => RpcRequest.send_id response)
        fun _ fresh => RpcRequest.fresh_send fresh response
      intro _ id other
      rw [← same]
      exact sound.close few known (fun _ => RpcRequest.send_id response)
        (RpcRequest.not_open_send live response) id other

theorem Sound.receive (sound : notifier.Sound) (index : Nat) :
    (notifier.receive index).1.Sound := by
  unfold RpcNotifier.receive
  cases notifier.requests[index]? with
  | none => exact sound
  | some request =>
      apply sound.modify (fun _ => RpcRequest.receive_id) (fun _ => RpcRequest.fresh_receive)
      intro few id other
      rw [openAt_modify_iff (fun _ => RpcRequest.receive_id) fun _ => RpcRequest.open_receive]
      exact sound.pending few id other

theorem Sound.expire (sound : notifier.Sound) (index : Nat) : (notifier.expire index).Sound := by
  apply sound.modify (fun _ => RpcRequest.expire_id) (fun _ => RpcRequest.fresh_expire)
  intro few id other
  rw [openAt_modify_iff (fun _ => RpcRequest.expire_id) fun _ => RpcRequest.open_expire]
  exact sound.pending few id other

theorem Sound.drop (sound : notifier.Sound) (index : Nat) : (notifier.drop index).Sound := by
  unfold RpcNotifier.drop
  cases known : notifier.requests[index]? with
  | none => exact sound
  | some request =>
      simp only
      split
      · apply sound.modify (fun _ => RpcRequest.drop_id) (fun _ => RpcRequest.fresh_drop)
        intro few
        exact sound.close few known (fun _ => RpcRequest.drop_id) RpcRequest.not_open_drop
      · exact sound

theorem Sound.step (sound : notifier.Sound) (few : notifier.requests.length < 2 ^ 64)
    (event : RpcEvent) : (notifier.step event).1.Sound := by
  cases event with
  | allocate => exact sound.allocate
  | register index => exact sound.register index
  | notifyResponse response => exact sound.notifyResponse few response
  | receive index => exact sound.receive index
  | expire index => exact sound.expire index
  | drop index => exact sound.drop index

theorem sound_new : new.Sound where
  counted := rfl
  numbered := fun _ _ here => by cases here
  fresh := fun _ member => by cases member
  pending := fun _ id index => by
    refine iff_of_false (by simp [new]) ?_
    rintro ⟨_, here, _⟩
    cases here

theorem modify_of_unchanged {requests : List RpcRequest} {other : Nat}
    {change : RpcRequest → RpcRequest}
    (unchanged : ∀ request, requests[other]? = some request → change request = request) :
    requests.modify other change = requests := by
  apply List.ext_getElem?
  intro index
  rw [List.getElem?_modify]
  by_cases same : other = index
  · subst same
    cases known : requests[other]? with
    | none => rfl
    | some request => simp [unchanged request known]
  · simp [same]

/-! What is done with one request changes it alone, and not where it is not in the stage for it. -/

theorem register_requests (notifier : RpcNotifier) (other : Nat) :
    (notifier.register other).requests = notifier.requests.modify other RpcRequest.register := by
  rw [register]
  cases known : notifier.requests[other]? with
  | none => exact (List.modify_eq_self (List.getElem?_eq_none_iff.mp known)).symm
  | some request =>
      simp only
      split
      · rfl
      · rename_i later
        refine (modify_of_unchanged fun held here => ?_).symm
        cases known.symm.trans here
        rw [RpcRequest.register, if_neg later]

theorem receive_requests (notifier : RpcNotifier) (other : Nat) :
    (notifier.receive other).1.requests =
      notifier.requests.modify other fun request => request.receive.1 := by
  rw [receive]
  cases known : notifier.requests[other]? with
  | none => exact (List.modify_eq_self (List.getElem?_eq_none_iff.mp known)).symm
  | some request => rfl

theorem drop_requests (notifier : RpcNotifier) (other : Nat) :
    (notifier.drop other).requests = notifier.requests.modify other RpcRequest.drop := by
  rw [drop]
  cases known : notifier.requests[other]? with
  | none => exact (List.modify_eq_self (List.getElem?_eq_none_iff.mp known)).symm
  | some request =>
      simp only
      split
      · rfl
      · rename_i gone
        refine (modify_of_unchanged fun held here => ?_).symm
        cases known.symm.trans here
        rw [RpcRequest.drop, if_neg gone]

theorem step_length (notifier : RpcNotifier) (event : RpcEvent) :
    (notifier.step event).1.requests.length =
      notifier.requests.length + if event = .allocate then 1 else 0 := by
  cases event with
  | allocate => simp [step, allocate]
  | register index => exact (congrArg _ (register_requests ..)).trans (List.length_modify _ _ _)
  | notifyResponse response =>
      simp only [step, notifyResponse]
      split
      · rfl
      · exact List.length_modify _ _ _
  | receive index => exact (congrArg _ (receive_requests ..)).trans (List.length_modify _ _ _)
  | expire index => exact List.length_modify _ _ _
  | drop index => exact (congrArg _ (drop_requests ..)).trans (List.length_modify _ _ _)

theorem run_length (events : List RpcEvent) (notifier : RpcNotifier) :
    notifier.requests.length ≤ (Machine.run step notifier events).1.requests.length := by
  induction events generalizing notifier with
  | nil => exact le_refl _
  | cons event rest ih =>
      have grown := step_length notifier event
      have later := ih (notifier.step event).1
      show _ ≤ (Machine.run step (notifier.step event).1 rest).1.requests.length
      omega

def obtainedBy (index : Nat) (output : Nat × RpcResponse) : Option RpcResponse :=
  if output.1 = index then some output.2 else none

theorem getElem?_modify_self {requests : List RpcRequest} {other index : Nat}
    {change : RpcRequest → RpcRequest} {request : RpcRequest}
    (known : requests[index]? = some request) :
    (requests.modify other change)[index]? =
      some (if other = index then change request else request) :=
  getElem?_modify_eq_some.mpr ⟨request, known, rfl⟩

/-- The map leads a response to the request it is for. -/
theorem Sound.notifyResponse_follow (sound : notifier.Sound)
    (few : notifier.requests.length < 2 ^ 64) (response : RpcResponse) {index : Nat}
    {request : RpcRequest} (known : notifier.requests[index]? = some request) :
    (notifier.notifyResponse response).requests[index]? =
      some (request.follow index (.notifyResponse response)).1 := by
  simp only [RpcNotifier.notifyResponse, RpcRequest.follow]
  have points := sound.pending few response.id
  cases found : notifier.pendingRequests.lookup response.id with
  | none =>
      simp only
      split
      · rename_i mine
        rw [known, RpcRequest.send, if_neg]
        intro live
        have there := (points index).mpr ⟨request, known, mine.1.symm, live, mine.2⟩
        rw [found] at there
        cases there
      · exact known
  | some other =>
      obtain ⟨held, there, same, live, empty⟩ := (points other).mp found
      simp only
      rw [getElem?_modify_self known]
      by_cases here : other = index
      · subst here
        cases known.symm.trans there
        rw [if_pos rfl, if_pos ⟨same.symm, empty⟩]
      · rw [if_neg here, if_neg]
        rintro ⟨mine, _⟩
        exact here (sound.unique few there known (same.trans mine))

/-- What one waiter obtains is put out under its number. -/
theorem receive_obtained (notifier : RpcNotifier) (other : Nat) {index : Nat} {request : RpcRequest}
    (known : notifier.requests[index]? = some request) :
    (notifier.receive other).2.filterMap (obtainedBy index) =
      if other = index then request.receive.2 else [] := by
  rw [RpcNotifier.receive]
  by_cases same : other = index
  · subst same
    have own : obtainedBy other ∘ (fun response => (other, response)) = some := by
      funext response
      simp [obtainedBy]
    rw [known, if_pos rfl]
    simp only
    rw [List.filterMap_map, own, List.filterMap_some]
  · rw [if_neg same]
    split
    · rfl
    · rw [List.filterMap_map]
      refine List.filterMap_eq_nil_iff.mpr fun response _ => ?_
      simp [obtainedBy, same]

/-- Each step is to a request what it would be without the others and the map. -/
theorem Sound.step_follow (sound : notifier.Sound) (few : notifier.requests.length < 2 ^ 64)
    (event : RpcEvent) {index : Nat} {request : RpcRequest}
    (known : notifier.requests[index]? = some request) :
    (notifier.step event).1.requests[index]? = some (request.follow index event).1 ∧
      (notifier.step event).2.filterMap (obtainedBy index) = (request.follow index event).2 := by
  cases event with
  | allocate =>
      have small := (List.getElem?_eq_some_iff.mp known).1
      exact ⟨(List.getElem?_append_left small).trans known, rfl⟩
  | register other =>
      refine ⟨?_, rfl⟩
      simp only [RpcNotifier.step, RpcRequest.follow]
      rw [register_requests, getElem?_modify_self known]
  | notifyResponse response => exact ⟨sound.notifyResponse_follow few response known, rfl⟩
  | receive other =>
      simp only [RpcNotifier.step, RpcRequest.follow]
      rw [receive_requests, getElem?_modify_self known, receive_obtained notifier other known]
      split
      · exact ⟨rfl, rfl⟩
      · exact ⟨rfl, rfl⟩
  | expire other =>
      refine ⟨(getElem?_modify_self known).trans ?_, rfl⟩
      simp only [RpcRequest.follow]
  | drop other =>
      refine ⟨?_, rfl⟩
      simp only [RpcNotifier.step, RpcRequest.follow]
      rw [drop_requests, getElem?_modify_self known]

theorem step_absent {event : RpcEvent} {index : Nat} (absent : notifier.requests.length ≤ index) :
    (notifier.step event).2.filterMap (obtainedBy index) = [] := by
  cases event with
  | receive other =>
      simp only [step, receive]
      split
      · rfl
      · rename_i request known
        have small := (List.getElem?_eq_some_iff.mp known).1
        rw [List.filterMap_map, List.filterMap_eq_nil_iff]
        intro response _
        have differs : other ≠ index := by omega
        simp [obtainedBy, differs]
  | _ => rfl

end RpcNotifier
end VntClient
