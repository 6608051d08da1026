import VntClient.Table
import VntClient.EnhancedInbound

/-!
`ServerInfoCollection`: for each server its connection, round-trip time and clients,
and beside them one list of all clients. A client is online in the list if some server
has it online; every operation keeps that.
-/

namespace VntClient

structure ClientSimpleInfo where
  ip : Ipv4Addr
  online : Bool
deriving DecidableEq

structure ClientSimpleInfoList where
  list : List ClientSimpleInfo
  isAll : Bool
  time : Int

abbrev ClientMap := AList fun _ : Ipv4Addr => ClientSimpleInfo

namespace ClientMap

def Keyed (map : ClientMap) : Prop := ∀ ip info, map.lookup ip = some info → info.ip = ip

def Online (map : ClientMap) (ip : Ipv4Addr) : Prop :=
  ∃ info, map.lookup ip = some info ∧ info.online = true

theorem Keyed.insert {map : ClientMap} (keyed : map.Keyed) (info : ClientSimpleInfo) :
    Keyed (AList.insert info.ip info map) := by
  intro ip held found
  by_cases same : ip = info.ip
  · subst same
    rw [AList.lookup_insert] at found
    rw [Option.some.inj found]
  · rw [AList.lookup_insert_ne same] at found
    exact keyed ip held found

theorem Keyed.union {first second : ClientMap} (one : first.Keyed) (two : second.Keyed) :
    Keyed (first ∪ second) := by
  intro ip info found
  rcases AList.mem_lookup_union.mp found with here | ⟨_, there⟩
  · exact one ip info here
  · exact two ip info there

/-- The clients of a pushed list; a later entry replaces an earlier one. -/
def collect (list : List ClientSimpleInfo) : ClientMap :=
  list.foldl (fun map info => map.insert info.ip info) ∅

theorem collect_keyed (list : List ClientSimpleInfo) : (collect list).Keyed := by
  have folds : ∀ (list : List ClientSimpleInfo) (map : ClientMap), map.Keyed →
      Keyed (list.foldl (fun map info => AList.insert info.ip info map) map) := by
    intro list
    induction list with
    | nil => exact fun _ keyed => keyed
    | cons info rest ih => exact fun map keyed => ih _ (keyed.insert info)
  exact folds list ∅ fun _ _ found => (by cases found)

/-- A client that is there already only ever comes online. -/
def merge (map : ClientMap) (info : ClientSimpleInfo) : ClientMap :=
  match map.lookup info.ip with
  | some held => if info.online then map.insert held.ip { held with online := true } else map
  | none => map.insert info.ip info

theorem merge_keyed {map : ClientMap} (keyed : map.Keyed) (info : ClientSimpleInfo) :
    (merge map info).Keyed := by
  unfold merge
  split
  · rename_i held found
    split
    · exact keyed.insert { held with online := true }
    · exact keyed
  · exact keyed.insert info

theorem online_insert {map : ClientMap} (info : ClientSimpleInfo) (ip : Ipv4Addr) :
    Online (map.insert info.ip info) ip ↔
      ip = info.ip ∧ info.online = true ∨ ip ≠ info.ip ∧ map.Online ip := by
  by_cases same : ip = info.ip
  · subst same
    simp [Online, AList.lookup_insert]
  · simp [Online, AList.lookup_insert_ne same, same]

theorem online_merge {map : ClientMap} (keyed : map.Keyed) (info : ClientSimpleInfo)
    (ip : Ipv4Addr) :
    (merge map info).Online ip ↔ map.Online ip ∨ info.ip = ip ∧ info.online = true := by
  unfold merge
  split
  · rename_i held found
    have own := keyed _ _ found
    split
    · rename_i online
      have inserted := @online_insert map { held with online := true } ip
      simp only [own] at inserted ⊢
      rw [inserted]
      by_cases same : ip = info.ip
      · simp [same, online]
      · simp [same, Ne.symm same]
    · rename_i offline
      simp [offline]
  · rename_i absent
    rw [online_insert]
    by_cases same : ip = info.ip
    · subst same
      simp [Online, absent]
    · simp [same, Ne.symm same]

theorem online_merges (infos : List ClientSimpleInfo) (map : ClientMap) (keyed : map.Keyed)
    (ip : Ipv4Addr) :
    (infos.foldl merge map).Keyed ∧ ((infos.foldl merge map).Online ip ↔
      map.Online ip ∨ ∃ info ∈ infos, info.ip = ip ∧ info.online = true) := by
  induction infos generalizing map with
  | nil => simpa using keyed
  | cons info rest ih =>
      obtain ⟨kept, online⟩ := ih (merge map info) (merge_keyed keyed info)
      refine ⟨kept, online.trans ?_⟩
      rw [online_merge keyed, or_assoc]
      simp

theorem Keyed.values_ips {map : ClientMap} (keyed : map.Keyed) :
    (map.entries.map Sigma.snd).map ClientSimpleInfo.ip = map.keys := by
  rw [List.map_map]
  apply List.map_congr_left
  intro entry member
  exact keyed _ _ (AList.mem_lookup_iff.mpr member)

theorem Keyed.values_online {map : ClientMap} (keyed : map.Keyed) (ip : Ipv4Addr) :
    (∃ info ∈ map.entries.map Sigma.snd, info.ip = ip ∧ info.online = true) ↔ map.Online ip := by
  constructor
  · rintro ⟨info, member, rfl, up⟩
    obtain ⟨entry, held, rfl⟩ := List.mem_map.mp member
    have found := AList.mem_lookup_iff.mpr held
    exact ⟨entry.2, (keyed _ _ found).symm ▸ found, up⟩
  · rintro ⟨info, found, up⟩
    exact ⟨info, List.mem_map.mpr ⟨_, AList.mem_lookup_iff.mp found, rfl⟩, keyed _ _ found, up⟩

theorem merges_keyed (infos : List ClientSimpleInfo) : (infos.foldl merge ∅).Keyed :=
  (online_merges infos ∅ (fun _ _ found => by cases found) 0).1

/-- The merged clients: online if one of them is. -/
theorem merges_online (infos : List ClientSimpleInfo) (ip : Ipv4Addr) :
    (∃ info ∈ (infos.foldl merge ∅).entries.map Sigma.snd, info.ip = ip ∧ info.online = true) ↔
      ∃ info ∈ infos, info.ip = ip ∧ info.online = true := by
  have none : ¬ Online ∅ ip := by
    rintro ⟨info, found, _⟩
    cases found
  rw [(merges_keyed infos).values_online,
    (online_merges infos ∅ (fun _ _ found => by cases found) ip).2, or_iff_right none]

def onlineIps (map : ClientMap) : List Ipv4Addr :=
  (map.entries.filter fun entry => entry.2.online).map Sigma.fst

theorem mem_onlineIps {map : ClientMap} {ip : Ipv4Addr} : ip ∈ map.onlineIps ↔ map.Online ip := by
  simp only [onlineIps, List.mem_map, List.mem_filter, Online]
  constructor
  · rintro ⟨entry, ⟨member, online⟩, rfl⟩
    exact ⟨entry.2, AList.mem_lookup_iff.mpr member, online⟩
  · rintro ⟨info, found, online⟩
    exact ⟨⟨ip, info⟩, ⟨AList.mem_lookup_iff.mp found, online⟩, rfl⟩

end ClientMap

structure ServerNodeInfo where
  connected : Bool
  rtt : Option UInt32
  clientMap : ClientMap
  keyed : clientMap.Keyed

namespace ServerNodeInfo

def empty : ServerNodeInfo := ⟨false, none, ∅, fun _ _ found => (by cases found)⟩

def onlineIps (node : ServerNodeInfo) : List Ipv4Addr := node.clientMap.onlineIps

@[simp] theorem onlineIps_empty : empty.onlineIps = [] := rfl

end ServerNodeInfo

abbrev ServerNodeMap := AList fun _ : UInt32 => ServerNodeInfo

namespace ServerNodeMap

/-- Some server has the client online. -/
def Online (map : ServerNodeMap) (ip : Ipv4Addr) : Prop :=
  ∃ id node, map.lookup id = some node ∧ ip ∈ node.onlineIps

def clients (map : ServerNodeMap) : List ClientSimpleInfo :=
  map.entries.flatMap fun entry => entry.2.clientMap.entries.map Sigma.snd

theorem mem_clients {map : ServerNodeMap} {info : ClientSimpleInfo} : info ∈ map.clients ↔
    ∃ id node, map.lookup id = some node ∧ node.clientMap.lookup info.ip = some info := by
  constructor
  · intro member
    obtain ⟨entry, inside, there⟩ := List.mem_flatMap.mp member
    obtain ⟨client, held, rfl⟩ := List.mem_map.mp there
    have found := AList.mem_lookup_iff.mpr held
    refine ⟨entry.1, entry.2, AList.mem_lookup_iff.mpr inside, ?_⟩
    rw [entry.2.keyed _ _ found]
    exact found
  · rintro ⟨id, node, found, held⟩
    exact List.mem_flatMap.mpr ⟨_, AList.mem_lookup_iff.mp found,
      List.mem_map.mpr ⟨_, AList.mem_lookup_iff.mp held, rfl⟩⟩

theorem online_clients (map : ServerNodeMap) (ip : Ipv4Addr) :
    (∃ info ∈ map.clients, info.ip = ip ∧ info.online = true) ↔ map.Online ip := by
  constructor
  · rintro ⟨info, member, rfl, online⟩
    obtain ⟨id, node, found, held⟩ := mem_clients.mp member
    exact ⟨id, node, found, ClientMap.mem_onlineIps.mpr ⟨info, held, online⟩⟩
  · rintro ⟨id, node, found, member⟩
    obtain ⟨info, held, online⟩ := ClientMap.mem_onlineIps.mp member
    obtain rfl := node.keyed _ _ held
    exact ⟨info, mem_clients.mpr ⟨id, node, found, held⟩, rfl, online⟩

theorem online_insert {map : ServerNodeMap} {id : UInt32} {node : ServerNodeInfo}
    (same : node.onlineIps = ((map.lookup id).map ServerNodeInfo.onlineIps).getD [])
    (ip : Ipv4Addr) : Online (map.insert id node) ip ↔ map.Online ip := by
  apply Table.exists_lookup_insert
  rw [same]
  cases map.lookup id with
  | none => simp
  | some old => simp

end ServerNodeMap

structure ServerInfoCollection where
  clientSimpleList : List ClientSimpleInfo
  serverNodeMap : ServerNodeMap
  distinct : (clientSimpleList.map ClientSimpleInfo.ip).Nodup
  listed : ∀ ip, (∃ info ∈ clientSimpleList, info.ip = ip ∧ info.online = true) ↔
    serverNodeMap.Online ip

namespace ServerInfoCollection

def relist (serverNodeMap : ServerNodeMap) : ServerInfoCollection where
  clientSimpleList := (serverNodeMap.clients.foldl ClientMap.merge ∅).entries.map Sigma.snd
  serverNodeMap := serverNodeMap
  distinct := by
    rw [(ClientMap.merges_keyed _).values_ips]
    exact AList.keys_nodup _
  listed := fun ip =>
    (ClientMap.merges_online serverNodeMap.clients ip).trans (serverNodeMap.online_clients ip)

/-- A server that keeps its clients, or a new one without any. -/
def withNode (servers : ServerInfoCollection) (id : UInt32) (node : ServerNodeInfo)
    (same : node.onlineIps =
      ((servers.serverNodeMap.lookup id).map ServerNodeInfo.onlineIps).getD []) :
    ServerInfoCollection :=
  { servers with
    serverNodeMap := servers.serverNodeMap.insert id node
    listed := fun ip => (servers.listed ip).trans (ServerNodeMap.online_insert same ip).symm }

def bare (serverNodeMap : ServerNodeMap)
    (none : ∀ id node, serverNodeMap.lookup id = some node → node.onlineIps = []) :
    ServerInfoCollection where
  clientSimpleList := []
  serverNodeMap := serverNodeMap
  distinct := List.nodup_nil
  listed := by
    intro ip
    constructor
    · rintro ⟨info, member, _⟩
      cases member
    · rintro ⟨id, node, found, member⟩
      rw [none id node found] at member
      cases member

theorem lookup_updates (addr : List UInt32) (map : ServerNodeMap)
    (none : ∀ id node, map.lookup id = some node → node.onlineIps = []) (id : UInt32)
    (node : ServerNodeInfo)
    (found : (addr.foldl (fun map id => AList.insert id ServerNodeInfo.empty map) map).lookup id =
      some node) : node.onlineIps = [] :=
  Table.lookup_inserts (fun node => node.onlineIps = []) rfl addr map none id node found

def updateServer (addr : List UInt32) : ServerInfoCollection :=
  bare (addr.foldl (fun map id => AList.insert id ServerNodeInfo.empty map) ∅)
    (lookup_updates addr ∅ fun _ _ found => (by cases found))

/-- A pushed list, whole or in part, for one server; the own address is left out. -/
def updateClientSimpleList (servers : ServerInfoCollection) (serverId : UInt32)
    (selfIp : Ipv4Addr) (pushed : ClientSimpleInfoList) (now : Int) : ServerInfoCollection :=
  let node := (servers.serverNodeMap.lookup serverId).getD ServerNodeInfo.empty
  let list := pushed.list.filter fun info => info.ip != selfIp
  let rtt := if pushed.time < now then some (UInt32.ofNat (now - pushed.time).toNat) else node.rtt
  relist (servers.serverNodeMap.insert serverId
    (if pushed.isAll then
      { node with rtt, clientMap := ClientMap.collect list, keyed := ClientMap.collect_keyed list }
    else
      { node with
        rtt, clientMap := ClientMap.collect list ∪ node.clientMap
        keyed := (ClientMap.collect_keyed list).union node.keyed }))

def setServerConnected (servers : ServerInfoCollection) (serverId : UInt32) (val : Bool) :
    ServerInfoCollection :=
  let node := (servers.serverNodeMap.lookup serverId).getD ServerNodeInfo.empty
  servers.withNode serverId { node with connected := val } (by
    change node.onlineIps = _
    simp only [node]
    cases servers.serverNodeMap.lookup serverId <;> rfl)

def setServerRtt (servers : ServerInfoCollection) (serverId rtt : UInt32) : ServerInfoCollection :=
  match found : servers.serverNodeMap.lookup serverId with
  | none => servers
  | some node => servers.withNode serverId { node with rtt := some rtt } (by rw [found]; rfl)

def clear (servers : ServerInfoCollection) : ServerInfoCollection :=
  bare (Table.mapValues (fun _ _ => ServerNodeInfo.empty) servers.serverNodeMap) (by
    intro id node found
    rw [Table.lookup_mapValues] at found
    obtain ⟨_, _, rfl⟩ := Option.map_eq_some_iff.mp found
    rfl)

def clientOnlineIps (servers : ServerInfoCollection) : List Ipv4Addr :=
  (servers.clientSimpleList.filter ClientSimpleInfo.online).map ClientSimpleInfo.ip

/-- Every server with its online clients and its round-trip time, connected or not. -/
def serverClientIpMap (servers : ServerInfoCollection) :
    List (UInt32 × List Ipv4Addr × UInt32) :=
  servers.serverNodeMap.entries.map fun entry =>
    (entry.1, entry.2.onlineIps, entry.2.rtt.getD 500)

theorem clientOnlineIps_nodup (servers : ServerInfoCollection) : servers.clientOnlineIps.Nodup :=
  servers.distinct.sublist (List.filter_sublist.map _)

theorem mem_clientOnlineIps (servers : ServerInfoCollection) (ip : Ipv4Addr) :
    ip ∈ servers.clientOnlineIps ↔ servers.serverNodeMap.Online ip := by
  rw [← servers.listed]
  simp only [clientOnlineIps, List.mem_map, List.mem_filter]
  constructor
  · rintro ⟨info, ⟨member, online⟩, same⟩
    exact ⟨info, member, same, online⟩
  · rintro ⟨info, member, same, online⟩
    exact ⟨info, ⟨member, online⟩, same⟩

end ServerInfoCollection
end VntClient
