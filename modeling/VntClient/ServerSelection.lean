import VntClient.Broadcast
import VntClient.ClientList

/-!
Which server a packet to a client goes through, and what is said about it: whether
the client is reachable, `exists_route`, and how far away, `get_server_rtt`. The
packet takes the first of the fastest connected servers; `exists_route` asks the
merged list, and `get_server_rtt` the first server that the hash map offers.
-/

namespace VntClient

def ServerNodeInfo.serves (node : ServerNodeInfo) (ip : Ipv4Addr) : Bool :=
  node.connected && ((node.clientMap.lookup ip).any ClientSimpleInfo.online)

theorem ServerNodeInfo.serves_iff {node : ServerNodeInfo} {ip : Ipv4Addr} :
    node.serves ip = true ↔ node.connected = true ∧ ip ∈ node.onlineIps := by
  rw [serves, Bool.and_eq_true, onlineIps, ClientMap.mem_onlineIps, Option.any_eq_true]
  rfl

namespace ServerInfoCollection
variable (servers : ServerInfoCollection)

/-- The servers of the list that serve the client, with the times they are chosen by. -/
def candidates (serverIds : List UInt32) (ip : Ipv4Addr) : List (UInt32 × UInt32) :=
  serverIds.filterMap fun id =>
    match servers.serverNodeMap.lookup id with
    | none => none
    | some server => if server.serves ip then some (id, server.rtt.getD 0xFFFFFFFF) else none

/-- `min_by_key`: the first of the fastest. -/
def findIpToServer (serverIds : List UInt32) (ip : Ipv4Addr) : Option UInt32 :=
  ((servers.candidates serverIds ip).argmin fun entry => entry.2.toNat).map Prod.fst

def existsOnlineClientIp (ip : Ipv4Addr) : Bool :=
  servers.clientSimpleList.any fun info => info.ip == ip && info.online

/-- The time of the first server that serves the client, as the map is visited. -/
def getServerRtt (visited : List (Sigma fun _ : UInt32 => ServerNodeInfo)) (ip : Ipv4Addr) :
    Option UInt32 :=
  (visited.find? fun entry => entry.2.serves ip).bind fun entry => entry.2.rtt

def rtt (id : UInt32) : Option UInt32 :=
  (servers.serverNodeMap.lookup id).bind ServerNodeInfo.rtt

def Serves (id : UInt32) (ip : Ipv4Addr) : Prop :=
  ∃ node, servers.serverNodeMap.lookup id = some node ∧ node.connected = true ∧
    ip ∈ node.onlineIps

variable {servers}

theorem existsOnlineClientIp_iff {ip : Ipv4Addr} :
    servers.existsOnlineClientIp ip = true ↔ servers.serverNodeMap.Online ip := by
  rw [← servers.listed]
  simp [existsOnlineClientIp]

theorem mem_candidates {serverIds : List UInt32} {ip : Ipv4Addr} {id : UInt32} :
    (∃ time, (id, time) ∈ servers.candidates serverIds ip) ↔
      id ∈ serverIds ∧ servers.Serves id ip := by
  simp only [candidates, List.mem_filterMap]
  constructor
  · rintro ⟨time, other, member, chosen⟩
    cases found : servers.serverNodeMap.lookup other with
    | none => simp [found] at chosen
    | some node =>
        simp only [found] at chosen
        split at chosen
        · rename_i serving
          cases chosen
          exact ⟨member, node, found, ServerNodeInfo.serves_iff.mp serving⟩
        · cases chosen
  · rintro ⟨member, node, found, serving⟩
    refine ⟨node.rtt.getD 0xFFFFFFFF, id, member, ?_⟩
    simp only [found]
    rw [if_pos (ServerNodeInfo.serves_iff.mpr serving)]

/-- A server that is found is one of the list and serves the client. -/
theorem Serves.of_find {serverIds : List UInt32} {ip : Ipv4Addr} {id : UInt32}
    (found : servers.findIpToServer serverIds ip = some id) :
    id ∈ serverIds ∧ servers.Serves id ip := by
  obtain ⟨entry, least, rfl⟩ := Option.map_eq_some_iff.mp found
  exact mem_candidates.mp ⟨entry.2, List.argmin_mem least⟩

theorem findIpToServer_eq_none_iff {serverIds : List UInt32} {ip : Ipv4Addr} :
    servers.findIpToServer serverIds ip = none ↔ ∀ id ∈ serverIds, ¬ servers.Serves id ip := by
  rw [findIpToServer, Option.map_eq_none_iff, List.argmin_eq_none]
  constructor
  · intro nobody id member serves
    obtain ⟨time, inside⟩ := mem_candidates.mpr ⟨member, serves⟩
    rw [nobody] at inside
    cases inside
  · intro nobody
    apply List.eq_nil_iff_forall_not_mem.mpr
    intro entry member
    obtain ⟨inside, serves⟩ := mem_candidates.mp ⟨entry.2, member⟩
    exact nobody entry.1 inside serves

end ServerInfoCollection

section Routes

def RouteTable.exists (table : RouteTable) (id : Ipv4Addr) : Bool := (table.getRouteById id).isSome

namespace ServerOutbound
variable (outbound : ServerOutbound)

def existsRoute (dest : Ipv4Addr) : Bool := outbound.servers.existsOnlineClientIp dest

/-- Through the server that is found for the destination. -/
def sendRaw (dest : Ipv4Addr) (packet : NetPacket) : Outcome Transmission :=
  match outbound.servers.findIpToServer outbound.sender dest with
  | none => .err s!"not found ip route: {displayIp dest}"
  | some id =>
      if id ∈ outbound.sender then .ok (.server id (.direct packet)) else .err "not found server"

end ServerOutbound

namespace BasicOutbound
variable (basic : BasicOutbound)

def getRouteById (dest : Ipv4Addr) : Option Route :=
  basic.p2pOutbound.bind fun table => table.getRouteById dest

/-- Where `send_raw` hands the packet over. -/
def sendRaw (dest : Ipv4Addr) (packet : NetPacket) : Outcome Transmission :=
  match basic.getRouteById dest with
  | some route => .ok (.p2p dest route.routeKey packet)
  | none => basic.serverOutbound.sendRaw dest packet

def existsRoute (dest : Ipv4Addr) : Bool :=
  (basic.p2pOutbound.any fun table => table.exists dest) || basic.serverOutbound.existsRoute dest

/-- A route exists exactly if a packet finds its way; otherwise it fails for want of one. -/
structure RoutesAgree (dest : Ipv4Addr) (packet : NetPacket) : Prop where
  selects : basic.existsRoute dest = true ↔ ∃ sent, basic.sendRaw dest packet = .ok sent
  fails : basic.existsRoute dest = false ↔
    basic.sendRaw dest packet = .err s!"not found ip route: {displayIp dest}"

variable {basic} {dest : Ipv4Addr}

theorem existsRoute_iff : basic.existsRoute dest = true ↔
    basic.getRouteById dest ≠ none ∨ basic.servers.serverNodeMap.Online dest := by
  rw [existsRoute, Bool.or_eq_true, ServerOutbound.existsRoute,
    ServerInfoCollection.existsOnlineClientIp_iff, getRouteById]
  cases basic.p2pOutbound with
  | none => simp [servers]
  | some table => simp [servers, RouteTable.exists, Option.isSome_iff_ne_none]

theorem sendRaw_nowhere {packet : NetPacket} (unrouted : basic.getRouteById dest = none)
    (unfound : basic.servers.findIpToServer basic.serverOutbound.sender dest = none) :
    basic.sendRaw dest packet = .err s!"not found ip route: {displayIp dest}" := by
  rw [servers] at unfound
  simp only [sendRaw, unrouted, ServerOutbound.sendRaw, unfound]

/-- A packet goes by a route, by a server that serves the destination, or nowhere. -/
theorem sendRaw_cases (basic : BasicOutbound) (dest : Ipv4Addr) (packet : NetPacket) :
    (∃ sent, basic.sendRaw dest packet = .ok sent) ∧
        (basic.getRouteById dest ≠ none ∨ ∃ id, basic.servers.Serves id dest) ∨
      basic.sendRaw dest packet = .err s!"not found ip route: {displayIp dest}" ∧
        ¬ (basic.getRouteById dest ≠ none ∨ ∃ id, basic.servers.Serves id dest) := by
  cases routed : basic.getRouteById dest with
  | some route =>
      refine Or.inl ⟨⟨.p2p dest route.routeKey packet, ?_⟩, Or.inl (Option.some_ne_none route)⟩
      simp only [sendRaw, routed]
  | none =>
      cases found : basic.servers.findIpToServer basic.serverOutbound.sender dest with
      | some id =>
          obtain ⟨member, serves⟩ := ServerInfoCollection.Serves.of_find found
          refine Or.inl ⟨⟨.server id (.direct packet), ?_⟩, Or.inr ⟨id, serves⟩⟩
          rw [servers] at found
          simp only [sendRaw, routed, ServerOutbound.sendRaw, found, if_pos member]
      | none =>
          refine Or.inr ⟨sendRaw_nowhere routed found, ?_⟩
          rintro (route | ⟨id, node, known, serves⟩)
          · exact route rfl
          · have member := basic.serverOutbound.covered id
              (AList.lookup_isSome.mp (Option.isSome_of_eq_some known))
            exact ServerInfoCollection.findIpToServer_eq_none_iff.mp found id member
              ⟨node, known, serves⟩

/-- Existence and routability agree exactly unless the only servers that have the
destination online are disconnected and there is no route to it. -/
theorem routes_agree_iff (basic : BasicOutbound) (dest : Ipv4Addr) (packet : NetPacket) :
    basic.RoutesAgree dest packet ↔
      basic.getRouteById dest ≠ none ∨ ¬ basic.servers.serverNodeMap.Online dest ∨
        ∃ id, basic.servers.Serves id dest := by
  have serving : (∃ id, basic.servers.Serves id dest) → basic.servers.serverNodeMap.Online dest :=
    fun ⟨id, node, known, _, online⟩ => ⟨id, node, known, online⟩
  have exists_iff := @existsRoute_iff basic dest
  rcases sendRaw_cases basic dest packet with ⟨⟨sent, ok⟩, way⟩ | ⟨failed, nowhere⟩
  · refine iff_of_true ⟨?_, ?_⟩ (way.imp_right Or.inr)
    · exact iff_of_true (exists_iff.mpr (way.imp_right serving)) ⟨sent, ok⟩
    · rw [ok, exists_iff.mpr (way.imp_right serving)]
      simp
  · rw [not_or] at nowhere
    constructor
    · intro agree
      refine Or.inr (Or.inl fun online => ?_)
      obtain ⟨sent, ok⟩ := agree.selects.mp (exists_iff.mpr (Or.inr online))
      rw [failed] at ok
      cases ok
    · rintro (route | offline | served)
      · exact absurd route nowhere.1
      · have absent : basic.existsRoute dest = false :=
          Bool.eq_false_iff.mpr fun present => (exists_iff.mp present).elim nowhere.1 offline
        constructor
        · rw [absent, failed]
          simp
        · exact iff_of_true absent failed
      · exact absurd served nowhere.2

def lostServer : BasicOutbound where
  serverOutbound :=
    { servers := (((ServerInfoCollection.updateServer [0]).setServerConnected 0 true)
        |>.updateClientSimpleList 0 0x0A1A0001 ⟨[⟨0x0A1A0002, true⟩], true, 0⟩ 5)
        |>.setServerConnected 0 false
      sender := [0]
      covered := fun _ member => member }
  p2pOutbound := some RouteTable.new

theorem lost_server_route : ServerInfoCollection.Reached 0x0A1A0001 lostServer.servers ∧
    ¬ lostServer.RoutesAgree 0x0A1A0002 ⟨NetHeader.zeroed, []⟩ := by
  constructor
  · exact .setServerConnected 0 false ((ServerInfoCollection.Reached.setServerConnected 0 true
      (.updateServer [0] .new)).push 0 _ 5)
  · intro agree
    obtain ⟨sent, ok⟩ := agree.selects.mp (by decide +kernel)
    rw [sendRaw_nowhere rfl (by decide +kernel)] at ok
    cases ok

end BasicOutbound
end Routes

namespace ServerInfoCollection
variable {servers : ServerInfoCollection}

/-- The time that is told is that of the server a packet would take, in whatever order
the map and the list of all servers are visited. -/
def TellsSelected (servers : ServerInfoCollection) (ip : Ipv4Addr) : Prop :=
  ∀ visited, visited.Perm servers.serverNodeMap.entries →
    ∀ serverIds, serverIds.Perm servers.serverNodeMap.keys →
      getServerRtt visited ip = (servers.findIpToServer serverIds ip).bind servers.rtt ∧
        (getServerRtt visited ip = none → (∀ id, ¬ servers.Serves id ip) ∨
          ∃ id, servers.findIpToServer serverIds ip = some id ∧ servers.rtt id = none)

theorem Serves.rtt_eq {id : UInt32} {node : ServerNodeInfo}
    (known : servers.serverNodeMap.lookup id = some node) : servers.rtt id = node.rtt := by
  rw [rtt, known, Option.bind_some]

/-- Visited first, a server that serves the client is the one whose time is told. -/
theorem Serves.told {id : UInt32} {ip : Ipv4Addr} (serves : servers.Serves id ip) :
    ∃ visited, visited.Perm servers.serverNodeMap.entries ∧
      getServerRtt visited ip = servers.rtt id := by
  obtain ⟨node, known, serving⟩ := serves
  obtain ⟨before, after, shape⟩ := List.append_of_mem (AList.mem_lookup_iff.mp known)
  refine ⟨⟨id, node⟩ :: (before ++ after), ?_, ?_⟩
  · rw [shape]
    exact List.perm_middle.symm
  · have first : node.serves ip = true := ServerNodeInfo.serves_iff.mpr serving
    rw [Serves.rtt_eq known, getServerRtt, List.find?_cons, first]
    rfl

/-- The time told is that of some server that serves the client, if there is one. -/
theorem getServerRtt_cases {visited : List (Sigma fun _ : UInt32 => ServerNodeInfo)}
    (shuffled : visited.Perm servers.serverNodeMap.entries) (ip : Ipv4Addr) :
    (∃ id, servers.Serves id ip ∧ getServerRtt visited ip = servers.rtt id) ∨
      (∀ id, ¬ servers.Serves id ip) ∧ getServerRtt visited ip = none := by
  rw [getServerRtt]
  cases found : visited.find? fun entry => entry.2.serves ip with
  | some entry =>
      have known := AList.mem_lookup_iff.mpr (shuffled.mem_iff.mp (List.mem_of_find?_eq_some found))
      have serving := List.find?_some found
      exact Or.inl ⟨entry.1, ⟨entry.2, known, ServerNodeInfo.serves_iff.mp serving⟩,
        (Serves.rtt_eq known).symm⟩
  | none =>
      refine Or.inr ⟨?_, rfl⟩
      rintro id ⟨node, known, serving⟩
      have member := shuffled.mem_iff.mpr (AList.mem_lookup_iff.mp known)
      exact List.find?_eq_none.mp found _ member (ServerNodeInfo.serves_iff.mpr serving)

theorem Serves.mem_keys {id : UInt32} {ip : Ipv4Addr} (serves : servers.Serves id ip) :
    id ∈ servers.serverNodeMap.keys := by
  obtain ⟨node, known, _⟩ := serves
  exact AList.mem_keys.mp (AList.lookup_isSome.mp (Option.isSome_of_eq_some known))

/-- The time that is told is that of the selected server, whatever the order, exactly
if all connected servers with the client have the same. -/
theorem tells_selected_iff (servers : ServerInfoCollection) (ip : Ipv4Addr) :
    servers.TellsSelected ip ↔ ∀ id other, servers.Serves id ip → servers.Serves other ip →
      servers.rtt id = servers.rtt other := by
  constructor
  · intro tells id other serves others
    obtain ⟨first, shuffled, told⟩ := serves.told
    obtain ⟨second, reshuffled, retold⟩ := others.told
    rw [← told, ← retold, (tells first shuffled _ (.refl _)).1, (tells second reshuffled _ (.refl _)).1]
  · intro alike visited shuffled serverIds permuted
    rcases getServerRtt_cases shuffled ip with ⟨id, serves, told⟩ | ⟨nobody, told⟩
    · cases found : servers.findIpToServer serverIds ip with
      | none =>
          exact absurd serves
            (findIpToServer_eq_none_iff.mp found id (permuted.mem_iff.mpr serves.mem_keys))
      | some other =>
          have same := alike id other serves (Serves.of_find found).2
          refine ⟨told.trans same, fun absent => Or.inr ⟨other, rfl, ?_⟩⟩
          rw [← same, ← told, absent]
    · have unfound : servers.findIpToServer serverIds ip = none :=
        findIpToServer_eq_none_iff.mpr fun id _ => nobody id
      exact ⟨by rw [told, unfound]; rfl, fun _ => Or.inl nobody⟩

def twoServers : ServerInfoCollection :=
  (((((updateServer [0, 1]).setServerConnected 0 true).setServerConnected 1 true)
    |>.updateClientSimpleList 0 0x0A1A0001 ⟨[⟨0x0A1A0002, true⟩], true, 0⟩ 200)
    |>.updateClientSimpleList 1 0x0A1A0001 ⟨[⟨0x0A1A0002, true⟩], true, 0⟩ 20)

theorem two_servers_told : Reached 0x0A1A0001 twoServers ∧
    ¬ twoServers.TellsSelected 0x0A1A0002 := by
  constructor
  · exact ((Reached.setServerConnected 1 true
      (.setServerConnected 0 true (.updateServer [0, 1] .new))).push 0 _ 200).push 1 _ 20
  · intro tells
    have told := (tells twoServers.serverNodeMap.entries.reverse (List.reverse_perm _)
      twoServers.serverNodeMap.keys (.refl _)).1
    exact absurd told (by decide +kernel)

end ServerInfoCollection

end VntClient
