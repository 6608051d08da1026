import VntClient.RpcNotifier

/-!
Responses reach the right waiters: a run of the notifier is, for each request, the run
of that request alone, and alone it obtains the first response that carries its id
while it waits.
-/

namespace VntClient

namespace RpcEvent

/-- The events after the allocation of the request with this number. -/
def sinceAllocation : Nat → List RpcEvent → List RpcEvent
  | _, [] => []
  | 0, .allocate :: rest => rest
  | index + 1, .allocate :: rest => sinceAllocation index rest
  | index, _ :: rest => sinceAllocation index rest

def sinceRegistration (index : Nat) : List RpcEvent → List RpcEvent
  | [] => []
  | .register other :: rest => if other = index then rest else sinceRegistration index rest
  | _ :: rest => sinceRegistration index rest

/-- The first response with the id before the waiter gives up or is dropped. -/
def firstArrival (index : Nat) (id : UInt64) : List RpcEvent → Option RpcResponse
  | [] => none
  | .notifyResponse response :: rest =>
      if response.id = id then some response else firstArrival index id rest
  | .expire other :: rest => if other = index then none else firstArrival index id rest
  | .drop other :: rest => if other = index then none else firstArrival index id rest
  | _ :: rest => firstArrival index id rest

def response : RpcEvent → Option RpcResponse
  | .notifyResponse response => some response
  | _ => none

end RpcEvent

namespace RpcRequest
open RpcEvent
variable {index : Nat} {id : UInt64} {answer : Option RpcResponse}

theorem run_past (events : List RpcEvent) (request : RpcRequest)
    (past : request.stage = .leaving ∨ request.stage = .dropped) :
    (Machine.run (follow index) request events).2 = [] := by
  induction events generalizing request with
  | nil => rfl
  | cons event rest ih =>
      have here : (request.follow index event).2 = [] ∧
          ((request.follow index event).1.stage = .leaving ∨
            (request.follow index event).1.stage = .dropped) := by
        obtain ⟨id, stage, answer⟩ := request
        cases event with
        | allocate => exact ⟨rfl, past⟩
        | receive other =>
            rcases past with rfl | rfl <;> cases answer <;> simp [follow, receive]
        | drop other =>
            refine ⟨rfl, ?_⟩
            by_cases own : other = index <;> rcases past with rfl | rfl <;>
              simp [follow, own, drop, Live]
        | _ =>
            refine ⟨rfl, ?_⟩
            rcases past with rfl | rfl <;>
              simp [follow, register, send, expire, apply_ite RpcRequest.stage]
      rw [Machine.run_cons]
      simp only [here.1, ih _ here.2, List.append_nil]

/-- With a response in its channel, a waiter obtains that or nothing. -/
theorem run_answered (events : List RpcEvent) (response : RpcResponse) :
    (Machine.run (follow index) ⟨id, .waiting, some response⟩ events).2 = [] ∨
      (Machine.run (follow index) ⟨id, .waiting, some response⟩ events).2 = [response] := by
  induction events with
  | nil => exact Or.inl rfl
  | cons event rest ih =>
      have stays : follow index ⟨id, .waiting, some response⟩ event =
            (⟨id, .waiting, some response⟩, []) ∨
          follow index ⟨id, .waiting, some response⟩ event =
            (⟨id, .leaving, some response⟩, [response]) ∨
          follow index ⟨id, .waiting, some response⟩ event =
            (⟨id, .dropped, some response⟩, []) := by
        cases event with
        | receive other =>
            by_cases own : other = index <;> simp [follow, own, receive]
        | drop other =>
            by_cases own : other = index <;> simp [follow, own, drop, Live]
        | _ => simp [follow, register, expire]
      rw [Machine.run_cons]
      rcases stays with here | here | here
      · simpa only [here, List.nil_append] using ih
      · right
        simp only [here]
        rw [run_past rest ⟨id, .leaving, some response⟩ (Or.inl rfl)]
        rfl
      · left
        simp only [here]
        rw [run_past rest ⟨id, .dropped, some response⟩ (Or.inr rfl)]
        rfl

/-- While its waiter neither looks nor ends, the first response with the id is kept. -/
theorem run_kept (events : List RpcEvent) (answer : Option RpcResponse)
    (waits : ∀ event ∈ events, event ∉ [.receive index, .expire index, .drop index]) :
    Machine.run (follow index) ⟨id, .waiting, answer⟩ events =
      (⟨id, .waiting, answer.or ((events.filterMap response).find? fun one => one.id = id)⟩, []) := by
  induction events generalizing answer with
  | nil => rw [List.filterMap_nil, List.find?_nil, Option.or_none, Machine.run_nil]
  | cons event rest ih =>
      have later (answer : Option RpcResponse) :=
        ih answer fun event member => waits event (List.mem_cons_of_mem _ member)
      have own := waits event List.mem_cons_self
      simp only [List.mem_cons, List.not_mem_nil, or_false, not_or] at own
      rw [Machine.run_cons, List.filterMap_cons]
      cases event with
      | notifyResponse one =>
          simp only [response, List.find?_cons]
          cases answer with
          | some answer =>
              have here : follow index ⟨id, .waiting, some answer⟩ (.notifyResponse one) =
                  (⟨id, .waiting, some answer⟩, []) := by simp [follow]
              rw [here, later]
              rfl
          | none =>
              by_cases same : one.id = id
              · have here : follow index ⟨id, .waiting, none⟩ (.notifyResponse one) =
                    (⟨id, .waiting, some one⟩, []) := by simp [follow, same, send, Live]
                rw [here, later]
                simp [same]
              · have here : follow index ⟨id, .waiting, none⟩ (.notifyResponse one) =
                    (⟨id, .waiting, none⟩, []) := by simp [follow, same]
                rw [here, later]
                simp [same]
      | receive other | expire other | drop other =>
          have differs : other ≠ index := by
            rintro rfl
            simp at own
          simp [response, follow, differs, later]
      | register other =>
          simp [response, follow, register, later]
      | allocate => simp [response, follow, later]

/-- At most one response, with the own id: the first that arrives. -/
def ObtainsFirst (id : UInt64) (first : Option RpcResponse) (obtained : List RpcResponse) : Prop :=
  obtained = [] ∨ ∃ response, obtained = [response] ∧ response.id = id ∧ first = some response

theorem run_waiting (events : List RpcEvent) :
    ObtainsFirst id (firstArrival index id events)
      (Machine.run (follow index) ⟨id, .waiting, none⟩ events).2 := by
  induction events with
  | nil => exact Or.inl rfl
  | cons event rest ih =>
      rw [Machine.run_cons]
      cases event with
      | notifyResponse response =>
          by_cases own : response.id = id
          · have here : follow index ⟨id, .waiting, none⟩ (.notifyResponse response) =
                (⟨id, .waiting, some response⟩, []) := by
              simp [follow, own, send, Live]
            simp only [here, firstArrival, if_pos own, List.nil_append]
            apply (run_answered rest response).imp_right
            intro obtained
            exact ⟨response, obtained, own, rfl⟩
          · have here : follow index ⟨id, .waiting, none⟩ (.notifyResponse response) =
                (⟨id, .waiting, none⟩, []) := by
              simp [follow, own]
            simpa only [here, firstArrival, if_neg own, List.nil_append] using ih
      | expire other =>
          by_cases own : other = index
          · left
            have here : follow index ⟨id, .waiting, none⟩ (.expire other) =
                (⟨id, .leaving, none⟩, []) := by
              simp [follow, own, expire]
            simp only [here, List.nil_append]
            exact run_past rest _ (Or.inl rfl)
          · simpa only [follow, firstArrival, if_neg own, List.nil_append] using ih
      | drop other =>
          by_cases own : other = index
          · left
            have here : follow index ⟨id, .waiting, none⟩ (.drop other) =
                (⟨id, .dropped, none⟩, []) := by
              simp [follow, own, drop, Live]
            simp only [here, List.nil_append]
            exact run_past rest _ (Or.inr rfl)
          · simpa only [follow, firstArrival, if_neg own, List.nil_append] using ih
      | allocate => simpa only [follow, firstArrival, List.nil_append] using ih
      | register other =>
          have here : follow index ⟨id, .waiting, none⟩ (.register other) =
              (⟨id, .waiting, none⟩, []) := by
            simp [follow, register]
          simpa only [here, firstArrival, List.nil_append] using ih
      | receive other =>
          have here : follow index ⟨id, .waiting, none⟩ (.receive other) =
              (⟨id, .waiting, none⟩, []) := by
            simp [follow, receive]
          simpa only [here, firstArrival, List.nil_append] using ih

theorem run_allocated (events : List RpcEvent) :
    ObtainsFirst id (firstArrival index id (sinceRegistration index events))
      (Machine.run (follow index) ⟨id, .allocated, none⟩ events).2 := by
  induction events with
  | nil => exact Or.inl rfl
  | cons event rest ih =>
      rw [Machine.run_cons]
      by_cases own : event = .register index
      · subst own
        have here : follow index ⟨id, .allocated, none⟩ (.register index) =
            (⟨id, .waiting, none⟩, []) := by
          simp [follow, register]
        simp only [here, sinceRegistration, ↓reduceIte, List.nil_append]
        exact run_waiting rest
      · have here : follow index ⟨id, .allocated, none⟩ event = (⟨id, .allocated, none⟩, []) ∧
            sinceRegistration index (event :: rest) = sinceRegistration index rest := by
          cases event with
          | register other =>
              have differs : other ≠ index := fun same => own (same ▸ rfl)
              simp [follow, sinceRegistration, differs]
          | _ => simp [follow, sinceRegistration, send, receive, expire, drop, Live]
        simpa only [here.1, here.2, List.nil_append] using ih

/-- A registered request stays registered, and a dropped one dropped. -/
theorem follow_stage (request : RpcRequest) (event : RpcEvent) :
    (request.stage ≠ .allocated → (request.follow index event).1.stage ≠ .allocated) ∧
      (request.stage = .dropped → (request.follow index event).1.stage = .dropped) := by
  obtain ⟨id, stage, answer⟩ := request
  cases event with
  | allocate => exact ⟨fun there => there, fun gone => gone⟩
  | receive other =>
      simp only [follow, receive]
      split
      · cases answer with
        | none => exact ⟨fun there => there, fun gone => gone⟩
        | some response => cases stage <;> simp
      · exact ⟨fun there => there, fun gone => gone⟩
  | _ =>
      simp only [follow]
      split
      · cases stage <;> cases answer <;> simp [register, send, expire, drop, Live]
      · exact ⟨fun there => there, fun gone => gone⟩

theorem run_dropped (events : List RpcEvent) (request : RpcRequest)
    (gone : request.stage = .dropped) :
    (Machine.run (follow index) request events).1.stage = .dropped :=
  Machine.run_invariant (follow index) (fun request _ => request.stage = .dropped) events
    (fun request _ event _ => (request.follow_stage event).2) request [] gone

theorem run_drop (events : List RpcEvent) (request : RpcRequest)
    (there : request.stage ≠ .allocated) (member : RpcEvent.drop index ∈ events) :
    (Machine.run (follow index) request events).1.stage = .dropped := by
  induction events generalizing request with
  | nil => cases member
  | cons event rest ih =>
      rw [Machine.run_cons]
      by_cases own : event = .drop index
      · subst own
        apply run_dropped
        obtain ⟨id, stage, answer⟩ := request
        cases stage with
        | allocated => exact absurd rfl there
        | _ => simp [follow, drop, Live]
      · apply ih _ ((request.follow_stage event).1 there)
        exact (List.mem_cons.mp member).resolve_left fun same => own same.symm

theorem run_sections (events : List RpcEvent) (request : RpcRequest)
    (sections : [RpcEvent.register index, .drop index].Sublist events) :
    (Machine.run (follow index) request events).1.stage = .dropped := by
  induction events generalizing request with
  | nil => cases sections
  | cons event rest ih =>
      rw [Machine.run_cons]
      rcases List.sublist_cons_iff.mp sections with later | ⟨tail, shape, dropped⟩
      · exact ih _ later
      · cases shape
        apply run_drop rest _ _ (List.singleton_sublist.mp dropped)
        obtain ⟨id, stage, answer⟩ := request
        cases stage <;> simp [follow, register]

end RpcRequest

namespace RpcNotifier
open RpcEvent
variable {notifier : RpcNotifier}

/-- Seen from a request, a run is that of the request alone. -/
theorem Sound.run_follow (events : List RpcEvent) (sound : notifier.Sound)
    (few : (Machine.run RpcNotifier.step notifier events).1.requests.length < 2 ^ 64) {index : Nat}
    {request : RpcRequest} (known : notifier.requests[index]? = some request) :
    (Machine.run RpcNotifier.step notifier events).1.requests[index]? =
        some (Machine.run (RpcRequest.follow index) request events).1 ∧
      (Machine.run RpcNotifier.step notifier events).2.filterMap (obtainedBy index) =
        (Machine.run (RpcRequest.follow index) request events).2 := by
  induction events generalizing notifier request with
  | nil => exact ⟨known, rfl⟩
  | cons event rest ih =>
      have now := (run_length (event :: rest) notifier).trans_lt few
      obtain ⟨here, obtained⟩ := sound.step_follow now event known
      obtain ⟨later, rest_obtained⟩ := ih (sound.step now event) few here
      simp only [Machine.run_cons, List.filterMap_append]
      exact ⟨later, by rw [obtained, rest_obtained]⟩

theorem Sound.run_allocated (events : List RpcEvent) (sound : notifier.Sound)
    (few : (Machine.run RpcNotifier.step notifier events).1.requests.length < 2 ^ 64) (ahead : Nat)
    (comes : notifier.requests.length + ahead <
      (Machine.run RpcNotifier.step notifier events).1.requests.length) :
    (Machine.run RpcNotifier.step notifier events).1.requests[notifier.requests.length + ahead]? =
        some (Machine.run (RpcRequest.follow (notifier.requests.length + ahead))
          ⟨UInt64.ofNat (notifier.requests.length + ahead + 1), .allocated, none⟩
          (sinceAllocation ahead events)).1 ∧
      (Machine.run RpcNotifier.step notifier events).2.filterMap
          (obtainedBy (notifier.requests.length + ahead)) =
        (Machine.run (RpcRequest.follow (notifier.requests.length + ahead))
          ⟨UInt64.ofNat (notifier.requests.length + ahead + 1), .allocated, none⟩
          (sinceAllocation ahead events)).2 := by
  induction events generalizing notifier ahead with
  | nil => exact absurd comes (Nat.not_lt.mpr (Nat.le_add_right _ _))
  | cons event rest ih =>
      have now := (run_length (event :: rest) notifier).trans_lt few
      have silent := @step_absent notifier event _ (Nat.le_add_right notifier.requests.length ahead)
      have grown := step_length notifier event
      simp only [Machine.run_cons, List.filterMap_append, silent, List.nil_append]
      by_cases allocation : event = .allocate
      · subst allocation
        rw [if_pos rfl] at grown
        cases ahead with
        | zero =>
            apply (sound.step now .allocate).run_follow rest few
            simp only [RpcNotifier.step, RpcNotifier.allocate, sound.counted]
            rw [Nat.add_zero, List.getElem?_concat_length, UInt64.ofNat_add]
            rfl
        | succ ahead =>
            have position : notifier.requests.length + (ahead + 1) =
                (notifier.step .allocate).1.requests.length + ahead := by omega
            rw [position] at comes ⊢
            exact ih (sound.step now .allocate) few ahead comes
      · rw [if_neg allocation, Nat.add_zero] at grown
        have skipped : sinceAllocation ahead (event :: rest) = sinceAllocation ahead rest := by
          cases event with
          | allocate => exact absurd rfl allocation
          | _ => cases ahead <;> rfl
        rw [skipped, ← grown]
        rw [← grown] at comes
        exact ih (sound.step now event) few ahead comes

theorem run_count (events : List RpcEvent) (notifier : RpcNotifier) :
    (Machine.run RpcNotifier.step notifier events).1.requests.length =
      notifier.requests.length + events.count .allocate := by
  induction events generalizing notifier with
  | nil => rfl
  | cons event rest ih =>
      have grown := step_length notifier event
      rw [Machine.run_cons, ih, grown, List.count_cons]
      simp only [beq_iff_eq]
      omega

theorem Sound.run (events : List RpcEvent) (sound : notifier.Sound)
    (few : (Machine.run RpcNotifier.step notifier events).1.requests.length < 2 ^ 64) :
    (Machine.run RpcNotifier.step notifier events).1.Sound := by
  induction events generalizing notifier with
  | nil => exact sound
  | cons event rest ih =>
      exact ih (sound.step ((run_length (event :: rest) notifier).trans_lt few) event) few

/-- The sections of a call of `client_list_target` after its id is taken: the request is
not sent, or its time runs out, or there is a response, expected or not. -/
inductive CallEnd where
  | unsent
  | timedOut
  | answered
deriving DecidableEq

def clientListTarget (index : Nat) : CallEnd → List RpcEvent
  | .unsent => [.register index, .drop index]
  | .timedOut => [.register index, .expire index, .drop index]
  | .answered => [.register index, .receive index, .drop index]

theorem clientListTarget_sections (index : Nat) (ending : CallEnd) :
    [RpcEvent.register index, .drop index].Sublist (clientListTarget index ending) := by
  cases ending with
  | unsent => exact List.Sublist.refl _
  | timedOut => exact (List.sublist_cons_self _ _).cons_cons _
  | answered => exact (List.sublist_cons_self _ _).cons_cons _

/-- The notifier after a run, and the responses obtained in it. -/
def after (events : List RpcEvent) : RpcNotifier × List (Nat × RpcResponse) :=
  Machine.run RpcNotifier.step new events

/-- What becomes of a request alone, from its allocation on. -/
def aloneAfter (index : Nat) (id : UInt64) (events : List RpcEvent) :
    RpcRequest × List RpcResponse :=
  Machine.run (RpcRequest.follow index) ⟨id, .allocated, none⟩ (sinceAllocation index events)

/-- No two requests have one id; each fares as if it were alone, and obtains the first
response that arrives for it; the map has the ids of the waiters without an answer, and
never that of a call that is over. -/
structure Matched (events : List RpcEvent) : Prop where
  distinct : ((after events).1.requests.map RpcRequest.id).Nodup
  alone : ∀ index request, (after events).1.requests[index]? = some request →
    request = (aloneAfter index request.id events).1 ∧
      (after events).2.filterMap (obtainedBy index) = (aloneAfter index request.id events).2
  first : ∀ index request, (after events).1.requests[index]? = some request →
    RpcRequest.ObtainsFirst request.id
      (firstArrival index request.id (sinceRegistration index (sinceAllocation index events)))
      ((after events).2.filterMap (obtainedBy index))
  pending : ∀ id, id ∈ (after events).1.pendingRequests ↔
    ∃ request ∈ (after events).1.requests, request.id = id ∧ request.Open
  noLeak : ∀ index request ending,
    (after events).1.requests[index]? = some request →
      (clientListTarget index ending).Sublist (sinceAllocation index events) →
        request.id ∉ (after events).1.pendingRequests

/-- With fewer than 2⁶⁴ requests every response goes where it belongs, and the map has
the ids of the waiters without an answer. -/
theorem responses_matched (events : List RpcEvent) (few : events.count .allocate < 2 ^ 64) :
    Matched events := by
  have total : (after events).1.requests.length = 0 + events.count .allocate := run_count events new
  have bound : (after events).1.requests.length < 2 ^ 64 := by omega
  have sound : (after events).1.Sound := sound_new.run events bound
  have alone : ∀ index request,
      (after events).1.requests[index]? = some request →
        request = (aloneAfter index request.id events).1 ∧
          (after events).2.filterMap (obtainedBy index) =
            (aloneAfter index request.id events).2 := by
    intro index request known
    obtain ⟨small, _⟩ := List.getElem?_eq_some_iff.mp known
    have numbered := sound.numbered index request known
    have position : new.requests.length + index = index := Nat.zero_add index
    have run := sound_new.run_allocated events bound index (position.symm ▸ small)
    rw [position, ← numbered] at run
    exact ⟨Option.some.inj (known.symm.trans run.1), run.2⟩
  have pending : ∀ id, id ∈ (after events).1.pendingRequests ↔
      ∃ request ∈ (after events).1.requests,
        request.id = id ∧ request.Open := by
    intro id
    rw [← AList.lookup_isSome, Option.isSome_iff_exists]
    simp only [sound.pending bound, OpenAt, List.mem_iff_getElem?]
    constructor
    · rintro ⟨index, request, known, open_⟩
      exact ⟨request, ⟨index, known⟩, open_⟩
    · rintro ⟨request, ⟨index, known⟩, open_⟩
      exact ⟨index, request, known, open_⟩
  constructor
  · apply List.pairwise_iff_getElem.mpr
    intro first second below beyond less same
    rw [List.getElem_map, List.getElem_map] at same
    have equal := sound.unique bound (List.getElem?_eq_getElem _) (List.getElem?_eq_getElem _) same
    omega
  · exact alone
  · intro index request known
    rw [(alone index request known).2]
    exact RpcRequest.run_allocated _
  · exact pending
  · intro index request ending known sections member
    obtain ⟨held, inside, same, live, _⟩ := (pending request.id).mp member
    obtain ⟨other, there⟩ := List.mem_iff_getElem?.mp inside
    cases sound.unique bound there known same
    cases known.symm.trans there
    have gone : (aloneAfter index request.id events).1.stage = .dropped :=
      RpcRequest.run_sections _ _ ((clientListTarget_sections index ending).trans sections)
    rw [← (alone index request known).1] at gone
    rcases live with waiting | leaving
    · exact absurd (waiting.symm.trans gone) (by decide)
    · exact absurd (leaving.symm.trans gone) (by decide)

/-- Two requests side by side: an unknown id, an answer twice, one after the time is up
and one after the waiter is gone. -/
def mixedResponses : List RpcEvent :=
  [.allocate, .allocate, .register 1, .notifyResponse ⟨1, none⟩, .register 0,
    .notifyResponse ⟨2, some [7]⟩, .notifyResponse ⟨2, none⟩, .receive 1, .expire 0, .drop 1,
    .notifyResponse ⟨1, some [9]⟩, .drop 0, .notifyResponse ⟨1, none⟩]

theorem mixed_responses_matched : Matched mixedResponses ∧
    (after mixedResponses).2 = [(1, ⟨2, some [7]⟩)] ∧
    (after mixedResponses).1.pendingRequests.keys = [] := by
  exact ⟨responses_matched mixedResponses (by decide), by decide +kernel, by decide +kernel⟩

end RpcNotifier
end VntClient
