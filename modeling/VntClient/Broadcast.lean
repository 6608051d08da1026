import VntClient.Outbound
import VntClient.ServerInfo

/-!
`ipv4_broadcast_outbound`: direct copies to the first sixteen online clients with a
direct route, then one broadcast through the server that scores best and targeted ones
through the others. The property is judged by what the servers do with a message, and
by what a disconnected one loses.
-/

namespace VntClient

/-- `n as f64 / d as f64`, for `n` that are exact and `d` of 33 bits at most: 53 bits
of the quotient, to nearest, ties to even. -/
def f64Quotient (n d : Nat) : ℚ :=
  let shift := 137 - Nat.log2 (n * 2 ^ 85 / d)
  let quotient := n * 2 ^ shift / d
  let remainder := n * 2 ^ shift % d
  let rounded :=
    if d < 2 * remainder ∨ d = 2 * remainder ∧ quotient % 2 = 1 then quotient + 1 else quotient
  mkRat rounded (2 ^ shift)

/-- `Iterator::max_by`: of equal entries the last. -/
def maxBy {Entry : Type} (score : Entry → ℚ) (list : List Entry) : Option Entry :=
  list.foldl (fun best entry =>
    match best with
    | none => some entry
    | some best => if score entry < score best then some best else some entry) none

/-- The last of the best entries. -/
def Leads {Entry : Type} (score : Entry → ℚ) (list : List Entry) (best : Entry) : Prop :=
  ∃ before after, list = before ++ best :: after ∧
    (∀ entry ∈ before, score entry ≤ score best) ∧ ∀ entry ∈ after, score entry < score best

structure ServerOutbound where
  servers : ServerInfoCollection
  sender : List UInt32
  covered : ∀ id, id ∈ servers.serverNodeMap → id ∈ sender

inductive ServerMessage
  | direct (packet : NetPacket)
  | exclude (ips : List Ipv4Addr) (packet : NetPacket)
  | target (ips : List Ipv4Addr) (packet : NetPacket)

inductive Transmission
  | p2p (id : Ipv4Addr) (routeKey : RouteKey) (packet : NetPacket)
  | server (id : UInt32) (message : ServerMessage)

def RouteTable.getP2pRouteById (table : RouteTable) (id : Ipv4Addr) : Option Route :=
  (table.getRouteById id).filter Route.isDirect

/-- The peers a direct copy goes to; `list` is who has one. -/
def RouteTable.p2pBroadcast (table : RouteTable) (max : Nat) :
    List Ipv4Addr → List (Ipv4Addr × RouteKey) → List (Ipv4Addr × RouteKey)
  | [], list => list
  | id :: ips, list =>
      match table.getP2pRouteById id with
      | none => table.p2pBroadcast max ips list
      | some route =>
          if max ≤ (list ++ [(id, route.routeKey)]).length then list ++ [(id, route.routeKey)]
          else table.p2pBroadcast max ips (list ++ [(id, route.routeKey)])

namespace ServerOutbound

def score (entry : UInt32 × List Ipv4Addr × UInt32) : ℚ :=
  f64Quotient entry.2.1.length (entry.2.2.toNat + 1)

def primaryMessage (packet : NetPacket) : Option (List Ipv4Addr) → ServerMessage
  | some ips => .exclude ips packet
  | none => .direct packet

def targetIps (excludeIps : Option (List Ipv4Addr)) (maxIps ips : List Ipv4Addr) : List Ipv4Addr :=
  ips.filter fun ip => !maxIps.contains ip && !(excludeIps.getD []).contains ip

def secondary (outbound : ServerOutbound) (excludeIps : Option (List Ipv4Addr)) (packet : NetPacket)
    (best entry : UInt32 × List Ipv4Addr × UInt32) : Option Transmission :=
  if entry.1 = best.1 then none
  else if (targetIps excludeIps best.2.1 entry.2.1).isEmpty then none
  else if entry.1 ∈ outbound.sender then
    some (.server entry.1 (.target (targetIps excludeIps best.2.1 entry.2.1) packet))
  else none

def sendRawBroadcast (outbound : ServerOutbound) (excludeIps : Option (List Ipv4Addr))
    (packet : NetPacket) : List Transmission × Outcome Unit :=
  match outbound.servers.serverClientIpMap with
  | [] => ([], .err "no connected servers with clients")
  | [(serverId, ips, _)] =>
      if ips.isEmpty then ([], .ok ())
      else if serverId ∈ outbound.sender then
        ([.server serverId (primaryMessage packet excludeIps)], .ok ())
      else ([], .err "server sender not found")
  | map =>
      match maxBy score map with
      | none => ([], .err "failed to find server with most IPs")
      | some best =>
          if best.2.1.isEmpty then ([], .ok ())
          else if best.1 ∈ outbound.sender then
            (.server best.1 (primaryMessage packet excludeIps) ::
              map.filterMap (outbound.secondary excludeIps packet best), .ok ())
          else ([], .err "max server sender not found")

end ServerOutbound

/-- The ways a packet leaves by; there are no routes when P2P is off. -/
structure BasicOutbound where
  serverOutbound : ServerOutbound
  p2pOutbound : Option RouteTable

namespace BasicOutbound
variable (basic : BasicOutbound)

def servers : ServerInfoCollection := basic.serverOutbound.servers

def p2pBroadcastTransmission (list : List Ipv4Addr) (max : Nat) : List (Ipv4Addr × RouteKey) :=
  match basic.p2pOutbound with
  | none => []
  | some table => table.p2pBroadcast max list []

def ipv4BroadcastOutbound (outbound : HybridOutbound) (net : NetworkAddr) (data : Bytes) :
    List Transmission × Outcome Unit :=
  let packet := outbound.sealPacket (outbound.node.packetCompression.compress
    (HybridOutbound.dataPacket .broadcast net.ip 0xFFFFFFFF data))
  let list := basic.servers.clientOnlineIps
  let direct := basic.p2pBroadcastTransmission list 16
  let copies := direct.map fun sent => Transmission.p2p sent.1 sent.2 packet
  if direct = [] then
    let rest := basic.serverOutbound.sendRawBroadcast none packet
    (copies ++ rest.1, rest.2)
  else if direct.length = list.length then (copies, .ok ())
  else
    let rest := basic.serverOutbound.sendRawBroadcast (some (direct.map Prod.fst)) packet
    (copies ++ rest.1, rest.2)

end BasicOutbound

def ServerMessage.reaches (message : ServerMessage) (online : List Ipv4Addr) (ip : Ipv4Addr) :
    Bool :=
  match message with
  | .direct _ => online.contains ip
  | .exclude ips _ => online.contains ip && !ips.contains ip
  | .target ips _ => online.contains ip && ips.contains ip

/-- How many copies a client gets; a disconnected server loses its message. -/
def Transmission.copies (servers : ServerInfoCollection) (ip : Ipv4Addr) : Transmission → Nat
  | .p2p id _ _ => if id = ip then 1 else 0
  | .server id message =>
      match servers.serverNodeMap.lookup id with
      | none => 0
      | some node => if node.connected && message.reaches node.onlineIps ip then 1 else 0

namespace ServerInfoCollection
variable (servers : ServerInfoCollection)

def copies (ip : Ipv4Addr) (sends : List Transmission) : Nat :=
  (sends.map (Transmission.copies servers ip)).sum

def Online (ip : Ipv4Addr) : Prop :=
  ∃ id node, servers.serverNodeMap.lookup id = some node ∧ node.connected = true ∧
    ip ∈ node.onlineIps

def ExactlyOnce (sends : List Transmission) : Prop :=
  ∀ ip, (servers.Online ip → servers.copies ip sends = 1) ∧
    (¬ servers.Online ip → servers.copies ip sends = 0)

def candidate (entry : (_ : UInt32) × ServerNodeInfo) : UInt32 × List Ipv4Addr × UInt32 :=
  (entry.1, entry.2.onlineIps, entry.2.rtt.getD 500)

/-- No server scores better, and none that comes later as good. -/
def Best (id : UInt32) (node : ServerNodeInfo) : Prop :=
  Leads (fun entry => ServerOutbound.score (candidate entry)) servers.serverNodeMap.entries ⟨id, node⟩

/-- Two connected servers that have a client online are one. -/
def Once (ip : Ipv4Addr) : Prop :=
  ∀ one other first second, servers.serverNodeMap.lookup one = some first →
    servers.serverNodeMap.lookup other = some second → first.connected = true →
      second.connected = true → ip ∈ first.onlineIps → ip ∈ second.onlineIps → one = other

end ServerInfoCollection

namespace BasicOutbound
variable (basic : BasicOutbound)

def directIps : List Ipv4Addr :=
  match basic.p2pOutbound with
  | none => []
  | some table =>
      (basic.servers.clientOnlineIps.filter fun id => (table.getP2pRouteById id).isSome).take 16

/-- What makes every connected client get one copy. -/
structure Covering : Prop where
  direct : ∀ ip ∈ basic.directIps, basic.servers.Online ip
  best : ∀ id node, basic.servers.Best id node → node.connected = true ∨
    ∀ ip ∈ node.onlineIps, ip ∉ basic.directIps → ¬ basic.servers.Online ip
  others : ∀ id node, basic.servers.Best id node → ∀ ip, ip ∉ basic.directIps →
    ip ∉ node.onlineIps → basic.servers.Once ip

end BasicOutbound

theorem scaled_pos {n d wide shift : Nat} (some : 0 < n) (small : 0 < d) (bound : d ≤ 2 ^ wide)
    (more : wide ≤ shift) : d ≤ n * 2 ^ (shift - Nat.log2 (n * 2 ^ wide / d)) := by
  have positive : n * 2 ^ wide / d ≠ 0 := by
    apply Nat.ne_of_gt
    apply Nat.div_pos _ small
    exact bound.trans (Nat.le_mul_of_pos_left _ some)
  have low : 2 ^ Nat.log2 (n * 2 ^ wide / d) * d ≤ n * 2 ^ wide :=
    (Nat.mul_le_mul_right d (Nat.log2_self_le positive)).trans (Nat.div_mul_le_self _ _)
  by_cases high : shift ≤ Nat.log2 (n * 2 ^ wide / d)
  · rw [Nat.sub_eq_zero_of_le high, pow_zero, mul_one]
    have wider : 2 ^ wide * d ≤ 2 ^ wide * n := by
      calc 2 ^ wide * d ≤ 2 ^ Nat.log2 (n * 2 ^ wide / d) * d :=
            Nat.mul_le_mul_right d (Nat.pow_le_pow_right (by decide) (more.trans high))
        _ ≤ n * 2 ^ wide := low
        _ = 2 ^ wide * n := Nat.mul_comm _ _
    exact Nat.le_of_mul_le_mul_left wider (Nat.two_pow_pos wide)
  · have split : shift = Nat.log2 (n * 2 ^ wide / d) + (shift - Nat.log2 (n * 2 ^ wide / d)) := by
      omega
    have scaled : 2 ^ wide * d ≤ 2 ^ wide * (n * 2 ^ (shift - Nat.log2 (n * 2 ^ wide / d))) := by
      calc 2 ^ wide * d ≤ 2 ^ shift * d :=
            Nat.mul_le_mul_right d (Nat.pow_le_pow_right (by decide) more)
        _ = 2 ^ Nat.log2 (n * 2 ^ wide / d) * d * 2 ^ (shift - Nat.log2 (n * 2 ^ wide / d)) := by
            conv_lhs => rw [split, pow_add]
            ring
        _ ≤ n * 2 ^ wide * 2 ^ (shift - Nat.log2 (n * 2 ^ wide / d)) :=
            Nat.mul_le_mul_right _ low
        _ = 2 ^ wide * (n * 2 ^ (shift - Nat.log2 (n * 2 ^ wide / d))) := by ring
    exact Nat.le_of_mul_le_mul_left scaled (Nat.two_pow_pos wide)

/-- A server with clients scores above zero, whatever its round-trip time. -/
theorem f64Quotient_pos {n d : Nat} (some : 0 < n) (small : 0 < d) (bound : d ≤ 2 ^ 85) :
    0 < f64Quotient n d := by
  have whole : 0 < n * 2 ^ (137 - Nat.log2 (n * 2 ^ 85 / d)) / d :=
    Nat.div_pos (scaled_pos some small bound (by decide)) small
  rw [f64Quotient, Rat.mkRat_eq_div]
  apply div_pos
  · split
    · positivity
    · exact_mod_cast whole
  · positivity

theorem f64Quotient_zero {d : Nat} (small : 0 < d) : f64Quotient 0 d = 0 := by
  simp only [f64Quotient, Nat.zero_mul, Nat.zero_div, Nat.zero_mod, Nat.mul_zero]
  rw [if_neg]
  · exact Rat.zero_mkRat _
  · rintro (less | ⟨same, _⟩)
    · exact absurd less (Nat.not_lt_zero _)
    · exact absurd same (Nat.ne_of_gt small)

section Choice
variable {Entry : Type} {score : Entry → ℚ} {list : List Entry}

theorem maxBy_append (list : List Entry) (last : Entry) :
    maxBy score (list ++ [last]) =
      match maxBy score list with
      | none => some last
      | some best => if score last < score best then some best else some last := by
  rw [maxBy, List.foldl_append]
  rfl

theorem mem_of_maxBy {best : Entry} (found : maxBy score list = some best) : best ∈ list := by
  induction list using List.reverseRecOn with
  | nil => cases found
  | append_singleton list last ih =>
      rw [maxBy_append] at found
      cases held : maxBy score list with
      | none =>
          rw [held] at found
          cases found
          simp
      | some best =>
          rw [held] at found ih
          simp only at found
          split at found
          · cases found
            exact List.mem_append_left _ (ih rfl)
          · cases found
            simp

theorem Leads.maxBy_eq {best : Entry} (leads : Leads score list best) :
    maxBy score list = some best := by
  obtain ⟨before, after, rfl, earlier, later⟩ := leads
  induction after using List.reverseRecOn with
  | nil =>
      rw [maxBy_append]
      cases held : maxBy score before with
      | none => rfl
      | some other => simp [not_lt.mpr (earlier other (mem_of_maxBy held))]
  | append_singleton after last ih =>
      have before_last : before ++ best :: (after ++ [last]) = (before ++ best :: after) ++ [last] := by
        simp
      rw [before_last, maxBy_append, ih fun entry member => later entry (List.mem_append_left _ member)]
      simp [later last (by simp)]

theorem Leads.le {best entry : Entry} (leads : Leads score list best) (member : entry ∈ list) :
    score entry ≤ score best := by
  obtain ⟨before, after, rfl, earlier, later⟩ := leads
  rcases List.mem_append.mp member with old | new
  · exact earlier entry old
  · rcases List.mem_cons.mp new with rfl | new
    · exact le_refl _
    · exact (later entry new).le

theorem exists_leads (nonempty : list ≠ []) : ∃ best, Leads score list best := by
  induction list using List.reverseRecOn with
  | nil => exact absurd rfl nonempty
  | append_singleton list last ih =>
      rcases list.eq_nil_or_concat with rfl | ⟨_, _, shape⟩
      · exact ⟨last, [], [], rfl, by simp, by simp⟩
      · obtain ⟨best, leads⟩ := ih (by rw [shape]; simp)
        by_cases less : score last < score best
        · obtain ⟨before, after, here, earlier, later⟩ := leads
          refine ⟨best, before, after ++ [last], by simp [here], earlier, ?_⟩
          intro entry member
          rcases List.mem_append.mp member with old | new
          · exact later entry old
          · rw [List.mem_singleton.mp new]
            exact less
        · refine ⟨last, list, [], rfl, ?_, by simp⟩
          exact fun entry member => (leads.le member).trans (not_lt.mp less)

theorem Leads.map {Source : Type} {read : Source → Entry} {sources : List Source} {best : Source}
    (leads : Leads (fun source => score (read source)) sources best) :
    Leads score (sources.map read) (read best) := by
  obtain ⟨before, after, rfl, earlier, later⟩ := leads
  refine ⟨before.map read, after.map read, by simp, ?_, ?_⟩
  · intro entry member
    obtain ⟨source, inside, rfl⟩ := List.mem_map.mp member
    exact earlier source inside
  · intro entry member
    obtain ⟨source, inside, rfl⟩ := List.mem_map.mp member
    exact later source inside

end Choice

theorem sum_filterMap {Entry Value : Type} (read : Entry → Option Value) (weigh : Value → Nat)
    (list : List Entry) : ((list.filterMap read).map weigh).sum =
      (list.map fun entry => ((read entry).map weigh).getD 0).sum := by
  induction list with
  | nil => rfl
  | cons entry rest ih =>
      cases found : read entry with
      | none => simp [found, ih]
      | some value => simp [found, ih]

theorem sum_indicator {Entry : Type} (test : Entry → Bool) (list : List Entry) :
    (list.map fun entry => if test entry then 1 else 0).sum = (list.filter test).length := by
  induction list with
  | nil => rfl
  | cons entry rest ih =>
      cases found : test entry with
      | false => simp [found, ih]
      | true => simp [found, ih, Nat.add_comm]

/-- One copy for each of the addresses. -/
theorem sum_distinct {list : List Ipv4Addr} (distinct : list.Nodup) (ip : Ipv4Addr) :
    (list.map fun id => if id = ip then 1 else 0).sum = if ip ∈ list then 1 else 0 := by
  induction list with
  | nil => rfl
  | cons first rest ih =>
      have fresh := List.nodup_cons.mp distinct
      rw [List.map_cons, List.sum_cons, ih fresh.2]
      by_cases same : first = ip
      · subst same
        simp [fresh.1]
      · simp [same, Ne.symm same]

theorem RouteTable.p2pBroadcast_eq (table : RouteTable) (max : Nat) (ips : List Ipv4Addr)
    (list : List (Ipv4Addr × RouteKey)) (room : list.length < max) :
    (table.p2pBroadcast max ips list).map Prod.fst = list.map Prod.fst ++
      (ips.filter fun id => (table.getP2pRouteById id).isSome).take (max - list.length) := by
  induction ips generalizing list with
  | nil => simp [p2pBroadcast]
  | cons id ips ih =>
      cases found : table.getP2pRouteById id with
      | none =>
          rw [p2pBroadcast, found]
          simp only
          rw [ih list room, List.filter_cons_of_neg (by simp [found])]
      | some route =>
          rw [p2pBroadcast, found]
          simp only
          rw [List.filter_cons_of_pos (by simp [found])]
          split
          · rename_i full
            have last : max - list.length = 1 := by
              simp only [List.length_append, List.length_singleton] at full
              omega
            rw [last]
            simp
          · rename_i more
            simp only [List.length_append, List.length_singleton, Nat.not_le] at more
            have left : max - list.length = max - (list.length + 1) + 1 := by omega
            rw [ih _ (by simpa using more), left, List.take_succ_cons]
            simp

namespace BasicOutbound
variable (basic : BasicOutbound)

theorem p2pBroadcast_directIps :
    (basic.p2pBroadcastTransmission basic.servers.clientOnlineIps 16).map Prod.fst =
      basic.directIps := by
  unfold p2pBroadcastTransmission directIps
  cases basic.p2pOutbound with
  | none => rfl
  | some table => exact table.p2pBroadcast_eq 16 _ [] (by decide)

theorem directIps_sublist : basic.directIps.Sublist basic.servers.clientOnlineIps := by
  unfold directIps
  split
  · exact List.nil_sublist _
  · exact (List.take_sublist _ _).trans List.filter_sublist

end BasicOutbound

namespace ServerInfoCollection
variable {servers : ServerInfoCollection} {id : UInt32} {node : ServerNodeInfo} {ip : Ipv4Addr}

def holders (servers : ServerInfoCollection) (ip : Ipv4Addr) :
    List ((_ : UInt32) × ServerNodeInfo) :=
  servers.serverNodeMap.entries.filter fun entry =>
    entry.2.connected && entry.2.onlineIps.contains ip

theorem mem_holders {entry : (_ : UInt32) × ServerNodeInfo} :
    entry ∈ servers.holders ip ↔ servers.serverNodeMap.lookup entry.1 = some entry.2 ∧
      entry.2.connected = true ∧ ip ∈ entry.2.onlineIps := by
  rw [holders, List.mem_filter, ← Option.mem_def, AList.mem_lookup_iff]
  simp

theorem online_iff : servers.Online ip ↔ 0 < (servers.holders ip).length := by
  rw [List.length_pos_iff_exists_mem]
  constructor
  · rintro ⟨id, node, found, up, member⟩
    exact ⟨⟨id, node⟩, mem_holders.mpr ⟨found, up, member⟩⟩
  · rintro ⟨entry, member⟩
    obtain ⟨found, up, online⟩ := mem_holders.mp member
    exact ⟨entry.1, entry.2, found, up, online⟩

theorem once_iff : servers.Once ip ↔ (servers.holders ip).length ≤ 1 := by
  constructor
  · intro once
    have distinct : (servers.holders ip).Nodup :=
      (List.NodupKeys.nodup servers.serverNodeMap.nodupKeys).sublist List.filter_sublist
    rcases here : servers.holders ip with _ | ⟨first, _ | ⟨second, rest⟩⟩
    · simp
    · simp
    · exfalso
      have one := mem_holders.mp (here ▸ (by simp) : first ∈ servers.holders ip)
      have other := mem_holders.mp (here ▸ (by simp) : second ∈ servers.holders ip)
      have same := once _ _ _ _ one.1 other.1 one.2.1 other.2.1 one.2.2 other.2.2
      have nodes : first.2 = second.2 := by
        have both := other.1
        rw [← same, one.1] at both
        exact Option.some.inj both
      rw [here] at distinct
      simp [Sigma.ext_iff, same, nodes] at distinct
  · intro few one other first second found there up connected online here
    have left : (⟨one, first⟩ : (_ : UInt32) × ServerNodeInfo) ∈ servers.holders ip :=
      mem_holders.mpr ⟨found, up, online⟩
    have right : (⟨other, second⟩ : (_ : UInt32) × ServerNodeInfo) ∈ servers.holders ip :=
      mem_holders.mpr ⟨there, connected, here⟩
    rcases shape : servers.holders ip with _ | ⟨entry, _ | ⟨next, rest⟩⟩
    · rw [shape] at left
      cases left
    · rw [shape, List.mem_singleton] at left right
      exact congrArg Sigma.fst (left.trans right.symm)
    · rw [shape] at few
      simp at few

theorem Best.empty (best : servers.Best id node) (none : node.onlineIps = [])
    {entry : (_ : UInt32) × ServerNodeInfo} (member : entry ∈ servers.serverNodeMap.entries) :
    entry.2.onlineIps = [] := by
  by_contra some
  have low : ServerOutbound.score (candidate ⟨id, node⟩) = 0 := by
    rw [ServerOutbound.score, candidate, none]
    exact f64Quotient_zero (Nat.succ_pos _)
  have high : 0 < ServerOutbound.score (candidate entry) := by
    apply f64Quotient_pos (List.length_pos_iff.mpr some) (Nat.succ_pos _)
    exact (Nat.succ_le_of_lt (UInt32.toNat_lt _)).trans
      (Nat.pow_le_pow_right (by decide) (by decide))
  have below : ServerOutbound.score (candidate entry) ≤ 0 := low ▸ best.le member
  exact absurd high (not_lt.mpr below)

theorem Best.found (best : servers.Best id node) : servers.serverNodeMap.lookup id = some node := by
  obtain ⟨before, after, split, _⟩ := best
  apply AList.mem_lookup_iff.mpr
  rw [split]
  simp

end ServerInfoCollection

namespace ServerOutbound
variable (outbound : ServerOutbound) {id : UInt32} {node : ServerNodeInfo}

theorem primary_copies (found : outbound.servers.serverNodeMap.lookup id = some node)
    (excludeIps : Option (List Ipv4Addr)) (packet : NetPacket) (ip : Ipv4Addr) :
    (Transmission.server id (primaryMessage packet excludeIps)).copies outbound.servers ip =
      if ip ∈ excludeIps.getD [] then 0
      else if ip ∈ node.onlineIps then (if node.connected then 1 else 0) else 0 := by
  simp only [Transmission.copies, found]
  cases excludeIps with
  | none =>
      by_cases member : ip ∈ node.onlineIps <;>
        simp [primaryMessage, ServerMessage.reaches, member]
  | some ips =>
      by_cases member : ip ∈ node.onlineIps <;> by_cases excluded : ip ∈ ips <;>
        simp [primaryMessage, ServerMessage.reaches, member, excluded]

/-- A server other than the best sends to those that are nowhere else to be reached. -/
theorem secondary_copies {entry : (_ : UInt32) × ServerNodeInfo}
    (member : entry ∈ outbound.servers.serverNodeMap.entries)
    (best : outbound.servers.Best id node) (excludeIps : Option (List Ipv4Addr))
    (packet : NetPacket) (ip : Ipv4Addr) :
    ((outbound.secondary excludeIps packet (ServerInfoCollection.candidate ⟨id, node⟩)
        (ServerInfoCollection.candidate entry)).map
      (Transmission.copies outbound.servers ip)).getD 0 =
      if (entry.2.connected && entry.2.onlineIps.contains ip) && (!node.onlineIps.contains ip &&
        !(excludeIps.getD []).contains ip) then 1 else 0 := by
  have found : outbound.servers.serverNodeMap.lookup entry.1 = some entry.2 :=
    AList.mem_lookup_iff.mpr member
  have reachable : entry.1 ∈ outbound.sender :=
    outbound.covered entry.1 (AList.lookup_isSome.mp (by simp [found]))
  unfold secondary
  split
  · rename_i same
    have own : entry.2 = node := by
      have both := best.found
      rw [← show entry.1 = id from same, found] at both
      exact Option.some.inj both
    rw [own]
    cases node.onlineIps.contains ip <;> simp
  · rename_i other
    have listed : (targetIps excludeIps (ServerInfoCollection.candidate ⟨id, node⟩).2.1
        (ServerInfoCollection.candidate entry).2.1).contains ip =
        (entry.2.onlineIps.contains ip && (!node.onlineIps.contains ip &&
          !(excludeIps.getD []).contains ip)) := by
      rw [Bool.eq_iff_iff, List.contains_iff_mem, targetIps, List.mem_filter]
      simp only [Bool.and_eq_true, ← List.contains_iff_mem]
      rfl
    by_cases nobody : (targetIps excludeIps (ServerInfoCollection.candidate ⟨id, node⟩).2.1
        (ServerInfoCollection.candidate entry).2.1).isEmpty = true
    · rw [if_pos nobody]
      rw [List.isEmpty_iff.mp nobody] at listed
      rw [Bool.and_assoc, ← listed]
      simp
    · have known : (ServerInfoCollection.candidate entry).1 ∈ outbound.sender := reachable
      rw [if_neg nobody, if_pos known, Option.map_some, Option.getD_some, Transmission.copies]
      have here : outbound.servers.serverNodeMap.lookup
          (ServerInfoCollection.candidate entry).1 = some entry.2 := found
      simp only [here, ServerMessage.reaches, listed]
      congr 1
      cases entry.2.connected <;> cases entry.2.onlineIps.contains ip <;> simp

theorem sendRawBroadcast_many {first second best : UInt32 × List Ipv4Addr × UInt32}
    {rest : List (UInt32 × List Ipv4Addr × UInt32)}
    (map : outbound.servers.serverClientIpMap = first :: second :: rest)
    (chosen : maxBy score outbound.servers.serverClientIpMap = some best)
    (reachable : best.1 ∈ outbound.sender) (some : best.2.1.isEmpty = false)
    (excludeIps : Option (List Ipv4Addr)) (packet : NetPacket) :
    (outbound.sendRawBroadcast excludeIps packet).1 =
      .server best.1 (primaryMessage packet excludeIps) ::
        outbound.servers.serverClientIpMap.filterMap
          (outbound.secondary excludeIps packet best) := by
  rw [map] at chosen ⊢
  rw [sendRawBroadcast, map]
  simp only [chosen, some, reachable, Bool.false_eq_true, ↓reduceIte]

theorem sendRawBroadcast_none {first second best : UInt32 × List Ipv4Addr × UInt32}
    {rest : List (UInt32 × List Ipv4Addr × UInt32)}
    (map : outbound.servers.serverClientIpMap = first :: second :: rest)
    (chosen : maxBy score outbound.servers.serverClientIpMap = some best)
    (none : best.2.1.isEmpty = true) (excludeIps : Option (List Ipv4Addr)) (packet : NetPacket) :
    (outbound.sendRawBroadcast excludeIps packet).1 = [] := by
  rw [map] at chosen
  rw [sendRawBroadcast, map]
  simp only [chosen, none, ↓reduceIte]

/-- Where the best server has nobody online, nobody has, and nothing is sent. -/
theorem nobody_copies (best : outbound.servers.Best id node) (empty : node.onlineIps = [])
    (excludeIps : Option (List Ipv4Addr)) (ip : Ipv4Addr) :
    outbound.servers.copies ip [] =
      if ip ∈ excludeIps.getD [] then 0
      else if ip ∈ node.onlineIps then (if node.connected then 1 else 0)
      else (outbound.servers.holders ip).length := by
  have others : (outbound.servers.holders ip).length = 0 := by
    rw [List.length_eq_zero_iff, List.eq_nil_iff_forall_not_mem]
    intro entry holds
    obtain ⟨there, _, online⟩ := ServerInfoCollection.mem_holders.mp holds
    rw [best.empty empty (AList.mem_lookup_iff.mp there)] at online
    cases online
  rw [others, empty]
  simp [ServerInfoCollection.copies]

/-- The servers beside the best one reach whom it does not have online. -/
theorem secondaries_copies (best : outbound.servers.Best id node)
    (excludeIps : Option (List Ipv4Addr)) (packet : NetPacket) (ip : Ipv4Addr) :
    ((outbound.servers.serverClientIpMap.filterMap (outbound.secondary excludeIps packet
        (ServerInfoCollection.candidate ⟨id, node⟩))).map
          (Transmission.copies outbound.servers ip)).sum =
      if ip ∈ excludeIps.getD [] then 0
      else if ip ∈ node.onlineIps then 0 else (outbound.servers.holders ip).length := by
  have weighed := List.map_congr_left fun entry member =>
    outbound.secondary_copies member best excludeIps packet ip
  rw [sum_filterMap, ServerInfoCollection.serverClientIpMap, List.map_map]
  refine (congrArg List.sum weighed).trans ?_
  rw [sum_indicator]
  by_cases excluded : ip ∈ excludeIps.getD []
  · simp [excluded]
  · by_cases online : ip ∈ node.onlineIps
    · simp [online]
    · simp [excluded, online, ServerInfoCollection.holders]

theorem sendRawBroadcast_copies (best : outbound.servers.Best id node)
    (excludeIps : Option (List Ipv4Addr)) (packet : NetPacket) (ip : Ipv4Addr) :
    outbound.servers.copies ip (outbound.sendRawBroadcast excludeIps packet).1 =
      if ip ∈ excludeIps.getD [] then 0
      else if ip ∈ node.onlineIps then (if node.connected then 1 else 0)
      else (outbound.servers.holders ip).length := by
  have found := best.found
  have reachable : id ∈ outbound.sender :=
    outbound.covered id (AList.lookup_isSome.mp (by simp [found]))
  have entries : outbound.servers.serverNodeMap.entries ≠ [] := by
    obtain ⟨before, after, split, _⟩ := best
    rw [split]
    simp
  rcases shape : outbound.servers.serverNodeMap.entries with _ | ⟨first, _ | ⟨second, rest⟩⟩
  · exact absurd shape entries
  -- The only server gets the broadcast without being compared.
  · have only : first = ⟨id, node⟩ := by
      have inside := AList.mem_lookup_iff.mp (Option.mem_def.mpr found)
      rw [shape, List.mem_singleton] at inside
      exact inside.symm
    rw [only] at shape
    have map : outbound.servers.serverClientIpMap = [(id, node.onlineIps, node.rtt.getD 500)] := by
      rw [ServerInfoCollection.serverClientIpMap, shape]
      rfl
    rw [sendRawBroadcast, map]
    simp only
    by_cases empty : node.onlineIps.isEmpty = true
    · rw [if_pos empty]
      exact outbound.nobody_copies best (List.isEmpty_iff.mp empty) excludeIps ip
    · rw [if_neg empty, if_pos reachable]
      simp only [ServerInfoCollection.copies, List.map_cons, List.map_nil, List.sum_cons,
        List.sum_nil, Nat.add_zero]
      rw [outbound.primary_copies found]
      have alone : ip ∉ node.onlineIps → (outbound.servers.holders ip).length = 0 := by
        intro absent
        simp [ServerInfoCollection.holders, shape, absent]
      split
      · rfl
      · split
        · rfl
        · rename_i absent
          exact (alone absent).symm
  · have chosen : maxBy score (outbound.servers.serverNodeMap.entries.map
        ServerInfoCollection.candidate) = some (ServerInfoCollection.candidate ⟨id, node⟩) :=
      (Leads.map best).maxBy_eq
    have map : outbound.servers.serverClientIpMap = ServerInfoCollection.candidate first ::
        ServerInfoCollection.candidate second :: rest.map ServerInfoCollection.candidate := by
      rw [ServerInfoCollection.serverClientIpMap, shape]
      rfl
    by_cases empty : node.onlineIps.isEmpty = true
    · rw [outbound.sendRawBroadcast_none map chosen empty]
      exact outbound.nobody_copies best (List.isEmpty_iff.mp empty) excludeIps ip
    · rw [outbound.sendRawBroadcast_many map chosen reachable (Bool.eq_false_iff.mpr empty)]
      rw [ServerInfoCollection.copies, List.map_cons, List.sum_cons,
        outbound.secondaries_copies best excludeIps packet ip,
        ServerInfoCollection.candidate, outbound.primary_copies found]
      by_cases excluded : ip ∈ excludeIps.getD []
      · simp [excluded]
      · by_cases online : ip ∈ node.onlineIps
        · simp [excluded, online]
        · simp [excluded, online]

end ServerOutbound

namespace BasicOutbound
variable (basic : BasicOutbound) (outbound : HybridOutbound) (net : NetworkAddr) (data : Bytes)

theorem direct_copies (packet : NetPacket) (ip : Ipv4Addr) :
    basic.servers.copies ip ((basic.p2pBroadcastTransmission basic.servers.clientOnlineIps 16).map
      fun sent => Transmission.p2p sent.1 sent.2 packet) =
      if ip ∈ basic.directIps then 1 else 0 := by
  have distinct := basic.servers.clientOnlineIps_nodup.sublist basic.directIps_sublist
  rw [← sum_distinct distinct, ← basic.p2pBroadcast_directIps, List.map_map,
    ServerInfoCollection.copies, List.map_map]
  rfl

theorem servers_copies_append (servers : ServerInfoCollection) (ip : Ipv4Addr)
    (first second : List Transmission) :
    servers.copies ip (first ++ second) = servers.copies ip first + servers.copies ip second := by
  rw [ServerInfoCollection.copies, List.map_append, List.sum_append]
  rfl

/-- A client nobody has a direct copy for is on no server when all online clients have one. -/
theorem all_direct (all : basic.directIps.length = basic.servers.clientOnlineIps.length)
    {ip : Ipv4Addr} (absent : ip ∉ basic.directIps) : (basic.servers.holders ip).length = 0 ∧
      ∀ id node, basic.servers.serverNodeMap.lookup id = some node → ip ∉ node.onlineIps := by
  rw [basic.directIps_sublist.eq_of_length all, basic.servers.mem_clientOnlineIps] at absent
  constructor
  · rw [List.length_eq_zero_iff, List.eq_nil_iff_forall_not_mem]
    intro entry holds
    obtain ⟨found, _, online⟩ := ServerInfoCollection.mem_holders.mp holds
    exact absent ⟨_, _, found, online⟩
  · exact fun id node found online => absent ⟨id, node, found, online⟩

theorem broadcast_copies {id : UInt32} {node : ServerNodeInfo} (best : basic.servers.Best id node)
    (ip : Ipv4Addr) :
    basic.servers.copies ip (basic.ipv4BroadcastOutbound outbound net data).1 =
      if ip ∈ basic.directIps then 1
      else if ip ∈ node.onlineIps then (if node.connected then 1 else 0)
      else (basic.servers.holders ip).length := by
  have same := basic.p2pBroadcast_directIps
  have raw : ∀ excludeIps packet,
      basic.servers.copies ip (basic.serverOutbound.sendRawBroadcast excludeIps packet).1 =
        if ip ∈ excludeIps.getD [] then 0
        else if ip ∈ node.onlineIps then (if node.connected then 1 else 0)
        else (basic.servers.holders ip).length :=
    fun excludeIps packet => basic.serverOutbound.sendRawBroadcast_copies best excludeIps packet ip
  simp only [ipv4BroadcastOutbound]
  by_cases none : basic.p2pBroadcastTransmission basic.servers.clientOnlineIps 16 = []
  · rw [if_pos none, servers_copies_append, basic.direct_copies]
    rw [none] at same
    refine (congrArg _ (raw Option.none _)).trans ?_
    rw [← same]
    simp
  · rw [if_neg none]
    by_cases all : (basic.p2pBroadcastTransmission basic.servers.clientOnlineIps 16).length =
        basic.servers.clientOnlineIps.length
    · rw [if_pos all, basic.direct_copies]
      by_cases here : ip ∈ basic.directIps
      · simp [here]
      · have short : basic.directIps.length = basic.servers.clientOnlineIps.length := by
          rw [← same, List.length_map, all]
        obtain ⟨zero, nowhere⟩ := basic.all_direct short here
        simp [here, nowhere id node best.found, zero]
    · rw [if_neg all, servers_copies_append, basic.direct_copies]
      refine (congrArg _ (raw (some _) _)).trans ?_
      rw [same, Option.getD_some]
      by_cases here : ip ∈ basic.directIps
      · simp [here]
      · simp [here]

theorem no_servers (none : basic.servers.serverNodeMap.entries = []) :
    basic.directIps = [] ∧ (∀ ip, ¬ basic.servers.Online ip) ∧
      (basic.ipv4BroadcastOutbound outbound net data).1 = [] := by
  have unknown : ∀ id node, basic.servers.serverNodeMap.lookup id ≠ some node := by
    intro id node found
    have member := AList.mem_lookup_iff.mp (Option.mem_def.mpr found)
    rw [none] at member
    cases member
  have clients : basic.servers.clientOnlineIps = [] := by
    rw [List.eq_nil_iff_forall_not_mem]
    intro ip member
    obtain ⟨id, node, found, _⟩ := (basic.servers.mem_clientOnlineIps ip).mp member
    exact unknown id node found
  have direct : basic.directIps = [] := by
    have sub := basic.directIps_sublist
    rw [clients] at sub
    exact List.eq_nil_of_sublist_nil sub
  refine ⟨direct, ?_, ?_⟩
  · rintro ip ⟨id, node, found, _⟩
    exact unknown id node found
  · have nobody : basic.p2pBroadcastTransmission basic.servers.clientOnlineIps 16 = [] := by
      apply List.map_eq_nil_iff.mp
      rw [basic.p2pBroadcast_directIps, direct]
    have map : basic.serverOutbound.servers.serverClientIpMap = [] := by
      change basic.servers.serverNodeMap.entries.map _ = []
      rw [none]
      rfl
    simp only [ipv4BroadcastOutbound, nobody, ↓reduceIte, List.map_nil, List.nil_append,
      ServerOutbound.sendRawBroadcast, map]

theorem best_unique {id other : UInt32} {node held : ServerNodeInfo}
    (best : basic.servers.Best id node) (same : basic.servers.Best other held) : held = node := by
  have both := (Leads.maxBy_eq best).symm.trans (Leads.maxBy_eq same)
  cases both
  rfl

/-- Every client that is online on a connected server gets one copy, and nobody else
any, exactly if the servers and routes are covering. -/
theorem broadcast_exactly_once_iff :
    basic.servers.ExactlyOnce (basic.ipv4BroadcastOutbound outbound net data).1 ↔
      basic.Covering := by
  by_cases servers : basic.servers.serverNodeMap.entries = []
  -- Without a server nobody is online and nothing is sent.
  · obtain ⟨direct, offline, nothing⟩ := basic.no_servers outbound net data servers
    apply iff_of_true
    · intro ip
      rw [nothing]
      exact ⟨fun online => absurd online (offline ip), fun _ => rfl⟩
    · constructor
      · intro ip member
        rw [direct] at member
        cases member
      · exact fun _ _ _ => Or.inr fun ip _ _ => offline ip
      · intro _ _ _ ip _ _ one _ first _ found _ up _ online
        exact absurd ⟨one, first, found, up, online⟩ (offline ip)
  · obtain ⟨⟨id, node⟩, best⟩ := @exists_leads _
      (fun entry => ServerOutbound.score (ServerInfoCollection.candidate entry)) _ servers
    have found := ServerInfoCollection.Best.found best
    have copies := basic.broadcast_copies outbound net data best
    constructor
    · intro once
      constructor
      · intro ip member
        by_contra offline
        have none := (once ip).2 offline
        rw [copies, if_pos member] at none
        cases none
      · intro other held same
        rw [basic.best_unique best same]
        by_cases up : node.connected = true
        · exact Or.inl up
        · right
          intro ip member undirected online
          have one := (once ip).1 online
          rw [copies, if_neg undirected, if_pos member, if_neg up] at one
          cases one
      · intro other held same ip undirected elsewhere
        rw [basic.best_unique best same] at elsewhere
        rw [ServerInfoCollection.once_iff]
        have judged := once ip
        rw [copies, if_neg undirected, if_neg elsewhere] at judged
        by_cases online : basic.servers.Online ip
        · exact (judged.1 online).le
        · rw [judged.2 online]
          exact Nat.zero_le 1
    -- Each client is reached directly, or by the best server, or by one of the others.
    · intro covering ip
      rw [copies]
      by_cases member : ip ∈ basic.directIps
      · rw [if_pos member]
        exact ⟨fun _ => rfl, fun offline => absurd (covering.direct ip member) offline⟩
      · rw [if_neg member]
        by_cases here : ip ∈ node.onlineIps
        · rw [if_pos here]
          by_cases up : node.connected = true
          · rw [if_pos up]
            exact ⟨fun _ => rfl, fun offline => absurd ⟨id, node, found, up, here⟩ offline⟩
          · rw [if_neg up]
            have offline := (covering.best id node best).resolve_left up ip here member
            exact ⟨fun online => absurd online offline, fun _ => rfl⟩
        · rw [if_neg here, ServerInfoCollection.online_iff]
          have few := ServerInfoCollection.once_iff.mp (covering.others id node best ip member here)
          omega

end BasicOutbound

def halfConnected : ServerInfoCollection :=
  (((ServerInfoCollection.updateServer [0, 1]).updateClientSimpleList 0 0x0A1A0003
    ⟨[⟨0x0A1A0004, true⟩], true, 0⟩ 10).updateClientSimpleList 1 0x0A1A0003
    ⟨[⟨0x0A1A0004, true⟩, ⟨0x0A1A0005, true⟩], true, 0⟩ 10).setServerConnected 0 true

def serversOnly : BasicOutbound where
  serverOutbound :=
    { servers := halfConnected
      sender := [0, 1]
      covered := by
        intro id member
        have keys : halfConnected.serverNodeMap.keys = [0, 1] := by decide +kernel
        rw [AList.mem_keys, keys] at member
        exact member }
  p2pOutbound := none

-- Server 1 scores best: its message is lost, and server 0 is not asked for that client.
theorem best_server_lost :
    ¬ serversOnly.servers.ExactlyOnce (serversOnly.ipv4BroadcastOutbound
      ⟨.plain sampleNetwork, []⟩ sampleNetwork [0x45]).1 := by
  intro once
  have online : serversOnly.servers.Online 0x0A1A0004 :=
    ServerInfoCollection.online_iff.mpr (by decide +kernel)
  have one := (once 0x0A1A0004).1 online
  have none : serversOnly.servers.copies 0x0A1A0004 (serversOnly.ipv4BroadcastOutbound
      ⟨.plain sampleNetwork, []⟩ sampleNetwork [0x45]).1 = 0 := by decide +kernel
  rw [none] at one
  cases one

end VntClient
