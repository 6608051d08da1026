import VntClient.ServerInfo

/-!
The merged client list after any sequence of calls: the clients of all servers,
each once, without the node itself. The hash maps may be visited in any order.
-/

namespace VntClient

namespace ClientMap

theorem mem_collect (list : List ClientSimpleInfo) (ip : Ipv4Addr) :
    ip ∈ collect list ↔ ∃ info ∈ list, info.ip = ip := by
  have folds : ∀ (list : List ClientSimpleInfo) (map : ClientMap),
      ip ∈ list.foldl (fun map info => AList.insert info.ip info map) map ↔
        ip ∈ map ∨ ∃ info ∈ list, info.ip = ip := by
    intro list
    induction list with
    | nil => simp
    | cons info rest ih =>
        intro map
        rw [List.foldl_cons, ih, AList.mem_insert, @eq_comm _ ip]
        simp only [List.mem_cons, exists_eq_or_imp]
        tauto
  rw [collect, folds]
  simp

theorem mem_merge {map : ClientMap} (keyed : map.Keyed) (info : ClientSimpleInfo)
    (ip : Ipv4Addr) : ip ∈ merge map info ↔ ip ∈ map ∨ info.ip = ip := by
  unfold merge
  cases found : map.lookup info.ip with
  | none => rw [AList.mem_insert, or_comm, @eq_comm _ ip]
  | some held =>
      have own := keyed _ _ found
      have present : info.ip ∈ map := AList.lookup_isSome.mp (by rw [found]; rfl)
      have known : ip ∈ map ↔ ip ∈ map ∨ info.ip = ip :=
        ⟨Or.inl, fun either => either.elim id fun same => same ▸ present⟩
      simp only
      split
      · rw [AList.mem_insert, own, or_comm, @eq_comm _ ip]
      · exact known

theorem mem_merges (infos : List ClientSimpleInfo) (map : ClientMap) (keyed : map.Keyed)
    (ip : Ipv4Addr) : ip ∈ infos.foldl merge map ↔ ip ∈ map ∨ ∃ info ∈ infos, info.ip = ip := by
  induction infos generalizing map with
  | nil => simp
  | cons info rest ih =>
      rw [List.foldl_cons, ih _ (merge_keyed keyed info), mem_merge keyed, or_assoc]
      simp

/-- The merged clients are those that were merged. -/
theorem merges_ips (infos : List ClientSimpleInfo) (ip : Ipv4Addr) :
    ip ∈ ((infos.foldl merge ∅).entries.map Sigma.snd).map ClientSimpleInfo.ip ↔
      ∃ info ∈ infos, info.ip = ip := by
  rw [(merges_keyed infos).values_ips, ← AList.mem_keys,
    mem_merges infos ∅ fun _ _ found => by cases found]
  simp

end ClientMap

namespace ServerNodeMap

def Lists (map : ServerNodeMap) (ip : Ipv4Addr) : Prop :=
  ∃ id node, map.lookup id = some node ∧ ip ∈ node.clientMap

theorem lists_clients (map : ServerNodeMap) (ip : Ipv4Addr) :
    (∃ info ∈ map.clients, info.ip = ip) ↔ map.Lists ip := by
  constructor
  · rintro ⟨info, member, rfl⟩
    obtain ⟨id, node, found, held⟩ := mem_clients.mp member
    exact ⟨id, node, found, AList.lookup_isSome.mp (by rw [held]; rfl)⟩
  · rintro ⟨id, node, found, member⟩
    obtain ⟨info, held⟩ := Option.isSome_iff_exists.mp (AList.lookup_isSome.mpr member)
    obtain rfl := node.keyed _ _ held
    exact ⟨info, mem_clients.mpr ⟨id, node, found, held⟩, rfl⟩

end ServerNodeMap

theorem ServerNodeInfo.empty_clients (ip : Ipv4Addr) : ip ∉ empty.clientMap :=
  AList.notMem_empty ip

namespace ServerInfoCollection

def new : ServerInfoCollection := bare ∅ fun _ _ found => by cases found

/-- The list that `update_client_simple_list` builds when it meets the clients in the
given order and takes the merged ones out in another. -/
def relistIn (nodes : ServerNodeMap) (order list : List ClientSimpleInfo)
    (visits : order.Perm nodes.clients)
    (shuffled : list.Perm ((order.foldl ClientMap.merge ∅).entries.map Sigma.snd)) :
    ServerInfoCollection where
  clientSimpleList := list
  serverNodeMap := nodes
  distinct := by
    rw [(shuffled.map _).nodup_iff, (ClientMap.merges_keyed order).values_ips]
    exact AList.keys_nodup _
  listed := by
    intro ip
    rw [← nodes.online_clients ip]
    simp only [shuffled.mem_iff, ← visits.mem_iff]
    exact ClientMap.merges_online order ip

/-- The states after any calls, with the own address in the pushes. -/
inductive Reached (selfIp : Ipv4Addr) : ServerInfoCollection → Prop where
  | new : Reached selfIp new
  | updateServer (addr : List UInt32) {servers} :
      Reached selfIp servers → Reached selfIp (updateServer addr)
  | updateClientSimpleList (serverId : UInt32) (pushed : ClientSimpleInfoList) (now : Int)
      (order list : List ClientSimpleInfo) {servers} (visits : order.Perm
        (servers.updateClientSimpleList serverId selfIp pushed now).serverNodeMap.clients)
      (shuffled : list.Perm ((order.foldl ClientMap.merge ∅).entries.map Sigma.snd)) :
      Reached selfIp servers → Reached selfIp (relistIn _ order list visits shuffled)
  | setServerConnected (serverId : UInt32) (val : Bool) {servers} :
      Reached selfIp servers → Reached selfIp (servers.setServerConnected serverId val)
  | setServerRtt (serverId rtt : UInt32) {servers} :
      Reached selfIp servers → Reached selfIp (servers.setServerRtt serverId rtt)
  | clear {servers} : Reached selfIp servers → Reached selfIp servers.clear

/-- The list is the union of the servers' clients. -/
structure Merged (selfIp : Ipv4Addr) (servers : ServerInfoCollection) : Prop where
  once : (servers.clientSimpleList.map ClientSimpleInfo.ip).Nodup
  union : ∀ ip, ip ∈ servers.clientSimpleList.map ClientSimpleInfo.ip ↔
    servers.serverNodeMap.Lists ip
  online : ∀ ip, (∃ info ∈ servers.clientSimpleList, info.ip = ip ∧ info.online = true) ↔
    servers.serverNodeMap.Online ip
  others : selfIp ∉ servers.clientSimpleList.map ClientSimpleInfo.ip

structure Covering (selfIp : Ipv4Addr) (servers : ServerInfoCollection) : Prop where
  union : ∀ ip, ip ∈ servers.clientSimpleList.map ClientSimpleInfo.ip ↔
    servers.serverNodeMap.Lists ip
  others : ¬ servers.serverNodeMap.Lists selfIp

variable {selfIp : Ipv4Addr} {servers : ServerInfoCollection}

theorem Covering.putNode (covering : servers.Covering selfIp) {after : ServerInfoCollection}
    {id : UInt32} {node : ServerNodeInfo}
    (list : after.clientSimpleList = servers.clientSimpleList)
    (nodes : after.serverNodeMap = servers.serverNodeMap.insert id node)
    (clients : ∀ ip, ip ∈ node.clientMap ↔
      ∃ old, servers.serverNodeMap.lookup id = some old ∧ ip ∈ old.clientMap) :
    after.Covering selfIp := by
  have kept : ∀ ip, ServerNodeMap.Lists (servers.serverNodeMap.insert id node) ip ↔
      servers.serverNodeMap.Lists ip := fun ip => Table.exists_lookup_insert (clients ip)
  constructor
  · intro ip
    rw [list, nodes, kept]
    exact covering.union ip
  · rw [nodes, kept]
    exact covering.others

theorem covering_bare (nodes : ServerNodeMap)
    (none : ∀ id node, nodes.lookup id = some node → node.onlineIps = [])
    (empty : ∀ id node, nodes.lookup id = some node → node.clientMap = ∅) :
    (bare nodes none).Covering selfIp := by
  have nobody : ∀ ip, ¬ nodes.Lists ip := by
    rintro ip ⟨id, node, found, member⟩
    rw [empty id node found] at member
    exact AList.notMem_empty ip member
  constructor
  · exact fun ip => iff_of_false List.not_mem_nil (nobody ip)
  · exact nobody selfIp

theorem lookup_registered (addr : List UInt32) (map : ServerNodeMap)
    (fresh : ∀ id node, map.lookup id = some node → node = ServerNodeInfo.empty) (id : UInt32)
    (node : ServerNodeInfo)
    (found : (addr.foldl (fun map id => AList.insert id ServerNodeInfo.empty map) map).lookup id =
      some node) : node = ServerNodeInfo.empty :=
  Table.lookup_inserts (· = ServerNodeInfo.empty) rfl addr map fresh id node found

theorem covering_updateServer (addr : List UInt32) : (updateServer addr).Covering selfIp := by
  apply covering_bare
  intro id node found
  rw [lookup_registered addr ∅ (fun _ _ found => by cases found) id node found]
  rfl

theorem covering_clear (servers : ServerInfoCollection) : servers.clear.Covering selfIp := by
  apply covering_bare
  intro id node found
  rw [Table.lookup_mapValues] at found
  obtain ⟨_, _, rfl⟩ := Option.map_eq_some_iff.mp found
  rfl

/-- A push brings no client but those it names, and never the node itself. -/
theorem Covering.pushed_others (covering : servers.Covering selfIp) (serverId : UInt32)
    (pushed : ClientSimpleInfoList) (now : Int) :
    ¬ (servers.updateClientSimpleList serverId selfIp pushed now).serverNodeMap.Lists selfIp := by
  have unnamed : selfIp ∉ ClientMap.collect (pushed.list.filter fun info => info.ip != selfIp) := by
    intro member
    obtain ⟨info, inside, same⟩ := (ClientMap.mem_collect _ selfIp).mp member
    exact bne_iff_ne.mp (List.mem_filter.mp inside).2 same
  have before : ∀ other node, servers.serverNodeMap.lookup other = some node →
      selfIp ∉ node.clientMap :=
    fun other node found member => covering.others ⟨other, node, found, member⟩
  rintro ⟨other, node, found, member⟩
  change AList.lookup other (AList.insert serverId _ servers.serverNodeMap) = some node at found
  by_cases here : other = serverId
  · subst here
    rw [AList.lookup_insert] at found
    cases found
    split at member
    · exact unnamed member
    · rcases AList.mem_union.mp member with new | old
      · exact unnamed new
      · cases known : servers.serverNodeMap.lookup other with
        | none =>
            rw [known] at old
            exact ServerNodeInfo.empty_clients selfIp old
        | some held =>
            rw [known] at old
            exact before other held known old
  · rw [AList.lookup_insert_ne here] at found
    exact before other node found member

theorem covering_relistIn {nodes : ServerNodeMap} {order list : List ClientSimpleInfo}
    (visits : order.Perm nodes.clients)
    (shuffled : list.Perm ((order.foldl ClientMap.merge ∅).entries.map Sigma.snd))
    (others : ¬ nodes.Lists selfIp) : (relistIn nodes order list visits shuffled).Covering selfIp := by
  constructor
  · intro ip
    show ip ∈ list.map ClientSimpleInfo.ip ↔ nodes.Lists ip
    rw [(shuffled.map _).mem_iff, ClientMap.merges_ips, ← nodes.lists_clients]
    simp only [visits.mem_iff]
  · exact others

theorem Reached.covering (reached : Reached selfIp servers) : servers.Covering selfIp := by
  induction reached with
  | new => exact covering_bare ∅ _ fun _ _ found => by cases found
  | updateServer addr _ _ => exact covering_updateServer addr
  | updateClientSimpleList serverId pushed now order list visits shuffled _ ih =>
      exact covering_relistIn visits shuffled (ih.pushed_others serverId pushed now)
  | @setServerConnected serverId val servers _ ih =>
      refine ih.putNode rfl rfl fun ip => ?_
      cases servers.serverNodeMap.lookup serverId with
      | none => simpa using ServerNodeInfo.empty_clients ip
      | some node => simp
  | @setServerRtt serverId rtt servers _ ih =>
      simp only [ServerInfoCollection.setServerRtt]
      split
      · exact ih
      · rename_i node found
        refine ih.putNode rfl rfl fun ip => ?_
        simp [found]
  | @clear servers _ _ => exact covering_clear servers

/-- After any sequence of calls the list is the union of the servers' clients: each
once, online if one server has it online, and never the node itself. -/
theorem Reached.merged (reached : Reached selfIp servers) : servers.Merged selfIp where
  once := servers.distinct
  union := reached.covering.union
  online := servers.listed
  others := fun listed => reached.covering.others ((reached.covering.union selfIp).mp listed)

/-- One of the orders is that of the entries. -/
theorem Reached.push (reached : Reached selfIp servers) (serverId : UInt32)
    (pushed : ClientSimpleInfoList) (now : Int) :
    Reached selfIp (servers.updateClientSimpleList serverId selfIp pushed now) :=
  .updateClientSimpleList serverId pushed now _ _ (.refl _) (.refl _) reached

def pushedTwice : ServerInfoCollection :=
  ((updateServer [0, 1]).updateClientSimpleList 0 0x0A1A0001
      ⟨[⟨0x0A1A0002, true⟩, ⟨0x0A1A0001, true⟩, ⟨0x0A1A0002, false⟩], true, 0⟩ 5)
    |>.updateClientSimpleList 1 0x0A1A0001 ⟨[⟨0x0A1A0002, true⟩, ⟨0x0A1A0003, false⟩], false, 0⟩ 5

theorem pushed_twice_merged : pushedTwice.Merged 0x0A1A0001 ∧
    pushedTwice.clientSimpleList = [⟨0x0A1A0002, true⟩, ⟨0x0A1A0003, false⟩] := by
  constructor
  · exact Reached.merged (((Reached.updateServer [0, 1] .new).push 0 _ 5).push 1 _ 5)
  · decide +kernel

end ServerInfoCollection

end VntClient
