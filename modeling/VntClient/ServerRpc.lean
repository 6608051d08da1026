import VntClient.NetPacket
import VntClient.RpcMatching
import VntClient.RpcProto
import VntClient.Table

/-!
`ServerRPC::client_list`: every server is asked in turn for the clients it knows, and what
comes back is merged by the ids of the clients.
-/

namespace VntClient
open Proto (ClientInfo ClientListResponse RpcMessageRequest RpcMessageResponse)

namespace ServerRpc

/-- What becomes of a request to one server; the payloads are those of the responses that
arrive until the time is up. -/
inductive TargetReply
  | noNotifier
  | unsent (message : String)
  | closed
  | arrived (payloads : List Bytes)

def requestPacket (id : UInt64) : Outcome NetPacket :=
  let buf := (RpcMessageRequest.mk id (some ⟨⟩)).encode
  ((((NetPacket.zeroed buf.length).setMsgType .rpcReq).setGatewayFlag true).setTtl 1).setPayload buf

/-- A payload that is no response ends its packet, and one for another caller goes there. -/
def waitForResponse (id : UInt64) : List Bytes → Option RpcMessageResponse
  | [] => none
  | payload :: rest =>
      match RpcMessageResponse.decode payload with
      | none => waitForResponse id rest
      | some response => if response.id = id then some response else waitForResponse id rest

/-- What the notifier is given of a response. -/
def notified (response : RpcMessageResponse) : RpcResponse :=
  ⟨response.id, response.clientListRes.map ClientListResponse.encode⟩

theorem waitForResponse_eq (id : UInt64) (payloads : List Bytes) : waitForResponse id payloads =
    (payloads.filterMap RpcMessageResponse.decode).find? fun response => response.id = id := by
  induction payloads with
  | nil => rfl
  | cons payload rest ih =>
      rw [waitForResponse, List.filterMap_cons]
      cases RpcMessageResponse.decode payload with
      | none => exact ih
      | some response =>
          by_cases own : response.id = id
          · simp [own]
          · simpa [own] using ih

/-- It is what a waiter of the notifier obtains: in any run in which these payloads come in
while it waits, between the sections of any other calls. -/
theorem waitForResponse_obtained {notifier : RpcNotifier} (sound : notifier.Sound) {index : Nat}
    {id : UInt64} (waiting : notifier.requests[index]? = some ⟨id, .waiting, none⟩)
    {events : List RpcEvent} {payloads : List Bytes}
    (few : (Machine.run RpcNotifier.step notifier
      (events ++ [.receive index])).1.requests.length < 2 ^ 64)
    (arrive : events.filterMap RpcEvent.response =
      (payloads.filterMap RpcMessageResponse.decode).map notified)
    (waits : ∀ event ∈ events, event ∉ [RpcEvent.receive index, .expire index, .drop index]) :
    (Machine.run RpcNotifier.step notifier (events ++ [.receive index])).2.filterMap
        (RpcNotifier.obtainedBy index) = ((waitForResponse id payloads).map notified).toList := by
  have obtains (answer : Option RpcResponse) :
      (Machine.run (RpcRequest.follow index) ⟨id, .waiting, answer⟩ [.receive index]).2 =
        answer.toList := by
    cases answer with
    | none | some _ => simp [RpcRequest.follow, RpcRequest.receive]
  rw [(sound.run_follow _ few waiting).2, Machine.run_append, RpcRequest.run_kept events none waits,
    arrive, List.find?_map, waitForResponse_eq]
  exact obtains _

-- `{:?}` of a response
variable (debug : RpcMessageResponse → String)

def clientListTarget (id : UInt64) : TargetReply → Except String ClientListResponse
  | .noNotifier => .error "no RPC notifier"
  | .unsent message => .error message
  | .closed => .error "closed connection"
  | .arrived payloads =>
      match waitForResponse id payloads with
      | none => .error "timeout waiting for response"
      | some response =>
          match response.clientListRes with
          | some list => .ok list
          | none => .error s!"unexpected response: {debug response}"

/-- `entry(..).or_insert(..)`. -/
def orInsert (map : AList fun _ : String => ClientInfo) (client : ClientInfo) :
    AList fun _ : String => ClientInfo :=
  if client.id ∈ map then map else map.insert client.id client

def merge (map : AList fun _ : String => ClientInfo) (answer : Except String ClientListResponse) :
    AList fun _ : String => ClientInfo :=
  match answer with
  | .ok response => response.list.foldl orInsert map
  | .error _ => map

def clientList (servers : List (UInt64 × TargetReply)) : ClientListResponse :=
  let map := servers.foldl (fun map server => merge map (clientListTarget debug server.1 server.2)) ∅
  ⟨map.entries.map Sigma.snd⟩

/-- A server reads the number off the request, and no other request has its bytes. -/
theorem requestPacket_reads (id : UInt64) : ∃ packet, requestPacket id = .ok packet ∧
    packet.msgType = .ok .rpcReq ∧ packet.isGateway = true ∧
      RpcMessageRequest.decode packet.payload = some ⟨id, some ⟨⟩⟩ := by
  have typed : MsgType.tryFrom (NetHeader.zeroed.setMsgType MsgType.rpcReq.toByte).msgType =
      .ok .rpcReq := by decide
  have flagged : (NetHeader.zeroed.flagsByte ||| gateway) &&& gateway ≠ 0 := by decide
  refine ⟨_, NetPacket.setPayload_exact _ _ List.length_replicate, ?_, ?_,
    RpcMessageRequest.decode_encode _⟩
  · exact typed
  · exact bne_iff_ne.mpr flagged

/-- The first response with the number, whatever comes before it and after. -/
theorem waitForResponse_first {id : UInt64} {response : RpcMessageResponse}
    (fits : ∀ list ∈ response.clientListRes, list.Fits) (own : response.id = id)
    {before : List Bytes} (others : ∀ payload ∈ before, ∀ other,
      RpcMessageResponse.decode payload = some other → other.id ≠ id) (after : List Bytes) :
    waitForResponse id (before ++ response.encode :: after) = some response := by
  induction before with
  | nil => simp only [List.nil_append, waitForResponse, RpcMessageResponse.decode_encode fits, own,
      ↓reduceIte]
  | cons payload rest ih =>
      have later := ih fun other member => others other (List.mem_cons_of_mem _ member)
      rw [List.cons_append, waitForResponse]
      cases read : RpcMessageResponse.decode payload with
      | none => exact later
      | some other =>
          simp only [if_neg (others payload List.mem_cons_self other read)]
          exact later

/-- The clients that the servers which answer know, one server after the other. -/
def heard (servers : List (UInt64 × TargetReply)) : List ClientInfo :=
  servers.flatMap fun server =>
    match clientListTarget debug server.1 server.2 with
    | .ok response => response.list
    | .error _ => []

theorem lookup_orInserts (clients : List ClientInfo) (map : AList fun _ : String => ClientInfo)
    (id : String) : (clients.foldl orInsert map).lookup id =
      (map.lookup id).or (clients.find? fun client => client.id = id) := by
  induction clients generalizing map with
  | nil => simp
  | cons client rest ih =>
      rw [List.foldl_cons, ih, orInsert, List.find?_cons]
      by_cases same : client.id = id
      · subst same
        split
        · rename_i held
          obtain ⟨first, there⟩ := Option.isSome_iff_exists.mp (AList.lookup_isSome.mpr held)
          simp [there]
        · rename_i absent
          simp [AList.lookup_eq_none.mpr absent]
      · split
        · simp [same]
        · simp [same, AList.lookup_insert_ne (Ne.symm same)]

theorem clientList_folds (servers : List (UInt64 × TargetReply))
    (map : AList fun _ : String => ClientInfo) :
    servers.foldl (fun map server => merge map (clientListTarget debug server.1 server.2)) map =
      (heard debug servers).foldl orInsert map := by
  induction servers generalizing map with
  | nil => rfl
  | cons server rest ih =>
      have split : heard debug (server :: rest) =
          (match clientListTarget debug server.1 server.2 with
            | .ok response => response.list
            | .error _ => []) ++ heard debug rest := List.flatMap_cons
      rw [List.foldl_cons, ih, split, List.foldl_append]
      cases clientListTarget debug server.1 server.2 with
      | ok response => rfl
      | error message => rfl

/-- Every client that some server told is in the list once, as the first such server told it,
and nobody else is; a list is what its server wrote, whatever other responses arrive. -/
theorem client_list_merges :
    (∀ servers : List (UInt64 × TargetReply),
      ((clientList debug servers).list.map ClientInfo.id).Nodup ∧
      ∀ client, client ∈ (clientList debug servers).list ↔
        (heard debug servers).find? (fun other => other.id = client.id) = some client) ∧
    ∀ (id : UInt64) (list : ClientListResponse), list.Fits → ∀ before : List Bytes,
      (∀ payload ∈ before, ∀ other, RpcMessageResponse.decode payload = some other →
        other.id ≠ id) → ∀ after : List Bytes,
      clientListTarget debug id
        (.arrived (before ++ (RpcMessageResponse.mk id (some list)).encode :: after)) = .ok list := by
  constructor
  · intro servers
    have keyed : ∀ id client, ((heard debug servers).foldl orInsert ∅).lookup id = some client ↔
        (heard debug servers).find? (fun other => other.id = id) = some client := by
      intro id client
      rw [lookup_orInserts, AList.lookup_empty, Option.none_or]
    have own : ∀ entry ∈ ((heard debug servers).foldl orInsert ∅).entries, entry.2.id = entry.1 := by
      intro entry member
      have found := (keyed entry.1 entry.2).mp (AList.mem_lookup_iff.mpr member)
      simpa using List.find?_some found
    simp only [clientList, clientList_folds]
    constructor
    · rw [List.map_map]
      have keys := List.map_congr_left own
      simp only [Function.comp_def, keys]
      exact ((heard debug servers).foldl orInsert ∅).nodupKeys
    · intro client
      rw [← keyed, ← Option.mem_def, AList.mem_lookup_iff, List.mem_map]
      constructor
      · rintro ⟨entry, member, rfl⟩
        rw [own entry member]
        exact member
      · intro member
        exact ⟨_, member, rfl⟩
  · intro id list fits before others after
    have held : ∀ inner ∈ (RpcMessageResponse.mk id (some list)).clientListRes, inner.Fits :=
      fun inner known => Option.some.inj known ▸ fits
    rw [clientListTarget, waitForResponse_first held rfl others after]

def sampleClients : ClientListResponse :=
  ⟨[⟨"a", "2.0.0", 0x0A1A0003, some "k", true, -1, "d1"⟩,
    ⟨"b", "", 0x0A1A0004, none, false, 9, "d2"⟩]⟩

def sampleArrivals : List Bytes :=
  [(RpcMessageResponse.mk 6 none).encode, (RpcMessageResponse.mk 7 (some sampleClients)).encode,
    [0xFF]]

theorem sample_client_list_merges :
    ((clientList (fun _ => "") [(7, .arrived sampleArrivals), (3, .noNotifier),
      (8, .arrived [])]).list.map ClientInfo.id).Nodup ∧
    clientListTarget (fun _ => "") 7 (.arrived sampleArrivals) = .ok sampleClients :=
  ⟨((client_list_merges fun _ => "").1 _).1,
    (client_list_merges fun _ => "").2 7 sampleClients
      ⟨fun client member => by
        simp only [sampleClients, List.mem_cons, List.not_mem_nil, or_false] at member
        rcases member with rfl | rfl <;> exact ⟨⟨by decide, by decide⟩, by decide +kernel⟩,
        by decide +kernel⟩
      [(RpcMessageResponse.mk 6 none).encode]
      (fun payload member other read => by
        rw [List.mem_singleton.mp member,
          RpcMessageResponse.decode_encode fun _ none => by cases none] at read
        cases read
        decide) [[0xFF]]⟩

end ServerRpc
end VntClient
