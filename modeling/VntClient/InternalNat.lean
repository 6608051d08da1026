import VntClient.RouteTable

/-!
`nat/internal_nat/`: which address each way into the NAT dials for a destination. The
TCP, UDP and ICMP tasks get their destinations from the IP stack, the other two from
QUIC handshakes. A node without a TUN is to be reached at 127.0.0.1 under its own
address, and nobody else of its network through it.
-/

namespace VntClient

def localhost : Ipv4Addr := 0x7F000001

/-- `Ipv4Addr::from_str` for one octet: up to three digits and no leading zero. -/
def parseOctet (digits : List Char) : Option Nat :=
  if digits.isEmpty || 3 < digits.length || !digits.all Char.isDigit then none
  else if 1 < digits.length && digits.head? == some '0' then none
  else
    let value := digits.foldl (fun value digit => value * 10 + (digit.toNat - '0'.toNat)) 0
    if value < 256 then some value else none

def parseIpv4 (text : String) : Option Ipv4Addr :=
  match (text.toList.splitOn '.').mapM parseOctet with
  | some [a, b, c, d] => some (fromBeBytes32 (UInt8.ofNat a) (UInt8.ofNat b) (UInt8.ofNat c)
      (UInt8.ofNat d))
  | _ => none

inductive DialTarget
  | addr (addr : SocketAddr)
  | text (host : String) (port : UInt16)

def DialTarget.ip : DialTarget → Option Ipv4Addr
  | .addr ⟨.v4 ip, _⟩ => some ip
  | .addr ⟨.v6 _, _⟩ => none
  | .text host _ => parseIpv4 host

inductive NatEffect
  | connectTcp (requested target : DialTarget)
  | connectUdp (requested target : DialTarget)
  | sendUdp (requested target : SocketAddr) (packet : Bytes)
  | sendIcmp (requested target : Ipv4Addr) (packet : Bytes)

def NatEffect.requested : NatEffect → Option Ipv4Addr
  | .connectTcp requested _ | .connectUdp requested _ => requested.ip
  | .sendUdp requested _ _ => (DialTarget.addr requested).ip
  | .sendIcmp requested _ _ => some requested

def NatEffect.target : NatEffect → Option Ipv4Addr
  | .connectTcp _ target | .connectUdp _ target => target.ip
  | .sendUdp _ target _ => (DialTarget.addr target).ip
  | .sendIcmp _ target _ => some target

/-- What the system connects a host to. An address in four parts is itself; names, and texts
such as `10.26.3`, are what the system makes of them. -/
structure Lookup where
  resolve : String → Option Ipv4Addr
  literal : ∀ host ip, parseIpv4 host = some ip → resolve host = some ip

def DialTarget.reached (lookup : Lookup) : DialTarget → Option Ipv4Addr
  | .addr ⟨.v4 ip, _⟩ => some ip
  | .addr ⟨.v6 _, _⟩ => none
  | .text host _ => lookup.resolve host

def NatEffect.reached (lookup : Lookup) : NatEffect → Option Ipv4Addr
  | .connectTcp _ target | .connectUdp _ target => target.reached lookup
  | .sendUdp _ target _ => (DialTarget.addr target).reached lookup
  | .sendIcmp _ target _ => some target

def listenTask (noTun : Bool) (network : Option NetworkAddr) (localAddr : SocketAddr) :
    Outcome (List NatEffect) :=
  if noTun then
    match localAddr.ip with
    | .v6 _ => .ok []
    | .v4 ip =>
        match network with
        | none => .err "not ip"
        | some net =>
            if ip = net.ip then
              .ok [.connectTcp (.addr localAddr) (.addr { localAddr with ip := .v4 localhost })]
            else .ok [.connectTcp (.addr localAddr) (.addr localAddr)]
  else .ok [.connectTcp (.addr localAddr) (.addr localAddr)]

structure NatEntry where
  target : SocketAddr
  lastActive : Instant

/-- The sockets of `udp_nat.rs` by source and destination; each is connected to its own. -/
structure NatTable where
  entries : AList fun _ : SocketAddr × SocketAddr => NatEntry
  own : ∀ key entry, entries.lookup key = some entry → entry.target = key.2

namespace NatTable

def empty : NatTable := ⟨∅, fun _ _ found => (by cases found)⟩

def insert (table : NatTable) (key : SocketAddr × SocketAddr) (now : Instant) : NatTable where
  entries := table.entries.insert key ⟨key.2, now⟩
  own := by
    intro other entry found
    by_cases same : other = key
    · subst same
      rw [AList.lookup_insert] at found
      rw [← Option.some.inj found]
    · rw [AList.lookup_insert_ne same] at found
      exact table.own other entry found

def remove (table : NatTable) (key : SocketAddr × SocketAddr) : NatTable where
  entries := table.entries.erase key
  own := by
    intro other entry found
    by_cases same : other = key
    · subst same
      rw [AList.lookup_erase] at found
      cases found
    · rw [AList.lookup_erase_ne same] at found
      exact table.own other entry found

/-- Sockets that have been idle for five minutes go. -/
def gc (table : NatTable) (now : Instant) : NatTable where
  entries := Table.retain (fun _ entry => now - entry.lastActive < fromSecs 300) table.entries
  own := by
    intro key entry found
    rw [Table.lookup_retain] at found
    exact table.own key entry (Option.filter_eq_some_iff.mp found).1

end NatTable

/-- One datagram of `udp_nat.rs`; `connects` is whether a new socket can be had. -/
def handleOutbound (table : NatTable) (now : Instant) (connects : Bool) (src dst : SocketAddr)
    (packet : Bytes) : NatTable × List NatEffect :=
  match table.entries.lookup (src, dst) with
  | some entry => (table.insert (src, dst) now, [.sendUdp dst entry.target packet])
  | none =>
      if connects then
        (table.insert (src, dst) now,
          [.connectUdp (.addr dst) (.addr dst), .sendUdp dst dst packet])
      else (table, [.connectUdp (.addr dst) (.addr dst)])

structure IcmpPacket where
  icmpType : UInt8
  payload : Bytes

def IcmpPacket.new (buf : Bytes) : Option IcmpPacket :=
  if 4 ≤ buf.length then some ⟨buf.getD 0 0, buf.drop 4⟩ else none

/-- An echo request or reply that is long enough for its identifier and sequence number. -/
def IcmpPacket.isEcho (icmp : IcmpPacket) : Bool :=
  (icmp.icmpType == 0 || icmp.icmpType == 8) && 4 ≤ icmp.payload.length

/-- Who waits for the answer of an address, by identifier and sequence number. -/
abbrev IcmpMap := AList fun _ : Ipv4Addr × Bytes × Bytes => Ipv4Addr

def innerIcmpSocketRecv (noTun : Bool) (network : Option NetworkAddr) (map : IcmpMap)
    (src dst : IpAddr) (buf : Bytes) : Outcome (IcmpMap × List NatEffect) :=
  match src, dst with
  | .v4 src, .v4 dst =>
      match IcmpPacket.new buf with
      | none => .ok (map, [])
      | some icmp =>
          if icmp.isEcho then
            let send := fun target : Ipv4Addr =>
              (map.insert (target, icmp.payload.take 2, (icmp.payload.drop 2).take 2) src,
                [NatEffect.sendIcmp dst target buf])
            if noTun then
              match network with
              | none => .err "not ip"
              | some net => .ok (send (if dst = net.ip then localhost else dst))
            else .ok (send dst)
          else .ok (map, [])
  | _, _ => .ok (map, [])

structure InternalNatManager extends InternalNatInbound where
  noTun : Bool
  network : Option NetworkAddr

namespace InternalNatManager

def networkContains (manager : InternalNatManager) (ip : Ipv4Addr) : Bool :=
  match manager.network with
  | none => false
  | some net => net.network.contains ip

def allowNat (manager : InternalNatManager) (dst : Ipv4Addr) : Bool :=
  allow manager.allowSubnet dst || manager.networkContains dst

def useNat (manager : InternalNatManager) (dst : Ipv4Addr) : Bool :=
  if manager.noTun then manager.allowNat dst
  else if manager.networkContains dst then false
  else allow manager.allowSubnet dst

def tcpNat (manager : InternalNatManager) (destIp : Ipv4Addr) (destPort : UInt16) :
    Outcome (List NatEffect) :=
  let requested := DialTarget.addr ⟨.v4 destIp, destPort⟩
  if manager.noTun then
    match manager.network with
    | none => .err "no network"
    | some net =>
        if destIp = net.ip then .ok [.connectTcp requested (.addr ⟨.v4 localhost, destPort⟩)]
        else if net.network.contains destIp then .ok []
        else .ok [.connectTcp requested requested]
  else .ok [.connectTcp requested requested]

end InternalNatManager

structure PortMappingManager where
  noTun : Bool
  allowPortMapping : Bool
  network : Option NetworkAddr

namespace PortMappingManager

def mapping (manager : PortMappingManager) (connect : DialTarget → DialTarget → NatEffect)
    (dest : String) (destPort : UInt16) : Outcome (List NatEffect) :=
  if !manager.allowPortMapping then .ok []
  else
    match if manager.noTun then parseIpv4 dest else none with
    | none => .ok [connect (.text dest destPort) (.text dest destPort)]
    | some destIp =>
        match manager.network with
        | none => .err "no network"
        | some net =>
            if destIp = net.ip then
              .ok [connect (.text dest destPort) (.addr ⟨.v4 localhost, destPort⟩)]
            else if net.network.contains destIp then .ok []
            else .ok [connect (.text dest destPort) (.text dest destPort)]

def tcpMapping (manager : PortMappingManager) : String → UInt16 → Outcome (List NatEffect) :=
  manager.mapping .connectTcp

def udpMapping (manager : PortMappingManager) : String → UInt16 → Outcome (List NatEffect) :=
  manager.mapping .connectUdp

end PortMappingManager

/-- A way in for one destination, with what it is given besides. -/
inductive NatPath (lookup : Lookup) (dest : Ipv4Addr)
  | listenTask (port : UInt16)
  | handleOutbound (table : NatTable) (now : Instant) (src : SocketAddr) (port : UInt16)
      (packet : Bytes)
  | innerIcmpSocketRecv (map : IcmpMap) (src : Ipv4Addr) (icmp : IcmpPacket) (buf : Bytes)
      (parsed : IcmpPacket.new buf = some icmp) (echo : icmp.isEcho = true)
  | tcpNat (allowSubnet : List Ipv4Net) (port : UInt16)
  | tcpMapping (allowPortMapping : Bool) (host : String)
      (resolves : lookup.resolve host = some dest) (port : UInt16)
  | udpMapping (allowPortMapping : Bool) (host : String)
      (resolves : lookup.resolve host = some dest) (port : UInt16)

namespace NatPath
variable {lookup : Lookup} {dest : Ipv4Addr}

/-- What the code does with the destination on a node without a TUN. -/
def effects (path : NatPath lookup dest) (net : NetworkAddr) : Outcome (List NatEffect) :=
  match path with
  | .listenTask port => VntClient.listenTask true (some net) ⟨.v4 dest, port⟩
  | .handleOutbound table now src port packet =>
      .ok (VntClient.handleOutbound table now true src ⟨.v4 dest, port⟩ packet).2
  | .innerIcmpSocketRecv map src _ buf _ _ =>
      (VntClient.innerIcmpSocketRecv true (some net) map (.v4 src) (.v4 dest) buf).bind fun sent =>
        .ok sent.2
  | .tcpNat allowSubnet port => InternalNatManager.tcpNat ⟨⟨allowSubnet⟩, true, some net⟩ dest port
  | .tcpMapping allowPortMapping host _ port =>
      PortMappingManager.tcpMapping ⟨true, allowPortMapping, some net⟩ host port
  | .udpMapping allowPortMapping host _ port =>
      PortMappingManager.udpMapping ⟨true, allowPortMapping, some net⟩ host port

/-- Port mapping may be switched off; what comes to the other ways has been let in. -/
def allowed : NatPath lookup dest → Bool
  | .tcpMapping allowPortMapping _ _ _ | .udpMapping allowPortMapping _ _ _ => allowPortMapping
  | _ => true

/-- The one rule: the own address is 127.0.0.1, the rest of the network is not dialed. -/
def rule (path : NatPath lookup dest) (net : NetworkAddr) : Option Ipv4Addr :=
  if !path.allowed then none
  else if dest = net.ip then some localhost
  else if net.network.contains dest then none
  else some dest

def Decides (lookup : Lookup) (effects : Outcome (List NatEffect)) : Option Ipv4Addr → Prop
  | none => effects = .ok []
  | some ip => ∃ list, effects = .ok list ∧ list ≠ [] ∧
      ∀ effect ∈ list, NatEffect.reached lookup effect = some ip

def Exempt (path : NatPath lookup dest) (net : NetworkAddr) : Prop :=
  match path with
  | .listenTask _ | .innerIcmpSocketRecv _ _ _ _ _ _ =>
      net.network.contains dest = true → dest = net.ip
  | .handleOutbound _ _ _ _ _ =>
      net.network.contains dest = true → dest = net.ip ∧ dest = localhost
  | .tcpNat _ _ => True
  | .tcpMapping allowPortMapping host _ _ | .udpMapping allowPortMapping host _ _ =>
      allowPortMapping = true → parseIpv4 host = none → net.network.contains dest = true →
        dest = net.ip ∧ dest = localhost

theorem decides_empty : Decides lookup (.ok []) none := rfl

theorem decides_ok {list : List NatEffect} {ip : Ipv4Addr} {decision : Option Ipv4Addr}
    (some : list ≠ []) (same : ∀ effect ∈ list, NatEffect.reached lookup effect = Option.some ip) :
    Decides lookup (.ok list) decision ↔ decision = Option.some ip := by
  cases decision with
  | none =>
      apply iff_of_false
      · intro empty
        exact some (Outcome.ok.inj empty)
      · exact fun same => by cases same
  | some other =>
      constructor
      · rintro ⟨_, ⟨⟩, _, sent⟩
        obtain ⟨effect, member⟩ := List.exists_mem_of_ne_nil list some
        exact (sent effect member).symm.trans (same effect member)
      · rintro ⟨⟩
        exact ⟨list, rfl, some, same⟩

theorem decides_single {effect : NatEffect} {ip : Ipv4Addr} {decision : Option Ipv4Addr}
    (target : effect.reached lookup = some ip) :
    Decides lookup (.ok [effect]) decision ↔ decision = some ip := by
  apply decides_ok (List.cons_ne_nil _ _)
  intro other member
  rw [List.mem_singleton.mp member]
  exact target

theorem contains_own (net : NetworkAddr) : net.network.contains net.ip = true := by
  rw [Ipv4Net.contains]
  exact beq_self_eq_true _

/-- An address that is dialed as it is, by a rule that always applies. -/
theorem rule_as_is {net : NetworkAddr} {path : NatPath lookup dest} (allowed : path.allowed = true) :
    path.rule net = some dest ↔
      (net.network.contains dest = true → dest = net.ip ∧ dest = localhost) := by
  rw [rule, allowed, Bool.not_true, if_neg Bool.false_ne_true]
  by_cases own : dest = net.ip
  · rw [if_pos own, Option.some.injEq]
    constructor
    · exact fun same _ => ⟨own, same.symm⟩
    · intro exempt
      exact (exempt (own ▸ contains_own net)).2.symm
  · rw [if_neg own]
    by_cases inside : net.network.contains dest = true
    · rw [if_pos inside]
      exact iff_of_false (fun same => by cases same) fun exempt => own (exempt inside).1
    · rw [if_neg inside]
      exact iff_of_true rfl fun inside' => absurd inside' inside

/-- The own address aside, what is dialed as it is lies outside the network. -/
theorem rule_translated {net : NetworkAddr} {path : NatPath lookup dest} (allowed : path.allowed = true) :
    path.rule net = some (if dest = net.ip then localhost else dest) ↔
      (net.network.contains dest = true → dest = net.ip) := by
  by_cases own : dest = net.ip
  · rw [if_pos own, rule, allowed, Bool.not_true, if_neg Bool.false_ne_true, if_pos own]
    exact iff_of_true rfl fun _ => own
  · rw [if_neg own, rule_as_is allowed]
    exact imp_congr_right fun _ => and_iff_left_of_imp fun same => absurd same own

theorem listenTask_exact (net : NetworkAddr) (port : UInt16) :
    Decides lookup ((listenTask port : NatPath lookup dest).effects net)
        ((listenTask port : NatPath lookup dest).rule net) ↔
      (listenTask port : NatPath lookup dest).Exempt net := by
  rw [Exempt, ← @rule_translated lookup dest net (listenTask port) rfl]
  simp only [effects, VntClient.listenTask, ↓reduceIte]
  split
  · exact decides_single rfl
  · exact decides_single rfl

theorem handleOutbound_exact (table : NatTable) (now : Instant) (src : SocketAddr) (port : UInt16)
    (packet : Bytes) (net : NetworkAddr) :
    let path : NatPath lookup dest := .handleOutbound table now src port packet
    Decides lookup (path.effects net) (path.rule net) ↔ path.Exempt net := by
  intro path
  rw [show path.Exempt net ↔ _ from Iff.rfl, Exempt, ← @rule_as_is lookup dest net path rfl]
  simp only [path, effects, VntClient.handleOutbound]
  cases found : table.entries.lookup (src, ⟨.v4 dest, port⟩) with
  | none =>
      apply decides_ok (List.cons_ne_nil _ _)
      intro effect member
      rcases List.mem_pair.mp member with rfl | rfl
      · rfl
      · rfl
  | some entry =>
      apply decides_single
      rw [NatEffect.reached, table.own _ _ found]
      rfl

theorem innerIcmpSocketRecv_exact (map : IcmpMap) (src : Ipv4Addr) (icmp : IcmpPacket)
    (buf : Bytes) (parsed : IcmpPacket.new buf = some icmp) (echo : icmp.isEcho = true)
    (net : NetworkAddr) :
    let path : NatPath lookup dest := .innerIcmpSocketRecv map src icmp buf parsed echo
    Decides lookup (path.effects net) (path.rule net) ↔ path.Exempt net := by
  intro path
  rw [show path.Exempt net ↔ _ from Iff.rfl, Exempt, ← @rule_translated lookup dest net path rfl]
  simp only [path, effects, VntClient.innerIcmpSocketRecv, parsed, echo, ↓reduceIte]
  exact decides_single rfl

/-- The rule as `tcp_nat` and the port mappings have it. -/
theorem rule_kept {net : NetworkAddr} {path : NatPath lookup dest} (allowed : path.allowed = true)
    {own as_is : NatEffect} (loopback : own.reached lookup = some localhost)
    (same : as_is.reached lookup = some dest) :
    Decides lookup (if dest = net.ip then .ok [own]
      else if net.network.contains dest then .ok [] else .ok [as_is]) (path.rule net) := by
  rw [rule, allowed, Bool.not_true, if_neg Bool.false_ne_true]
  by_cases own : dest = net.ip
  · rw [if_pos own, if_pos own]
    exact (decides_single loopback).mpr rfl
  · rw [if_neg own, if_neg own]
    split
    · exact decides_empty
    · exact (decides_single same).mpr rfl

/-- A mapping knows the rule for a host in four parts, and dials every other as it is. -/
theorem mapping_exact (connect : DialTarget → DialTarget → NatEffect)
    (connects : ∀ requested target, (connect requested target).reached lookup = target.reached lookup)
    (path : NatPath lookup dest) {host : String} (resolves : lookup.resolve host = some dest)
    (port : UInt16) (net : NetworkAddr) :
    Decides lookup (PortMappingManager.mapping ⟨true, path.allowed, some net⟩ connect host port)
        (path.rule net) ↔
      (path.allowed = true → parseIpv4 host = none → net.network.contains dest = true →
        dest = net.ip ∧ dest = localhost) := by
  have as_is : (connect (.text host port) (.text host port)).reached lookup = some dest := by
    rw [connects]
    exact resolves
  rw [PortMappingManager.mapping]
  by_cases allowed : path.allowed = true
  · simp only [allowed, Bool.not_true, Bool.false_eq_true, ↓reduceIte, forall_const]
    cases named : parseIpv4 host with
    | none =>
        simp only [forall_const]
        exact (decides_single as_is).trans (rule_as_is allowed)
    | some ip =>
        obtain rfl : ip = dest :=
          Option.some.inj ((lookup.literal host ip named).symm.trans resolves)
        apply iff_of_true _ fun unnamed => by cases unnamed
        exact rule_kept allowed (connects _ _) as_is
  · simp only [Bool.not_eq_true] at allowed
    rw [rule]
    simp only [allowed, Bool.not_false, ↓reduceIte]
    exact iff_of_true decides_empty fun on => by cases on

/-- A way in decides by the rule exactly where it is exempt from the differences. -/
theorem decides_iff (path : NatPath lookup dest) (net : NetworkAddr) :
    Decides lookup (path.effects net) (path.rule net) ↔ path.Exempt net := by
  cases path with
  | listenTask port => exact listenTask_exact net port
  | handleOutbound table now src port packet =>
      exact handleOutbound_exact table now src port packet net
  | innerIcmpSocketRecv map src icmp buf parsed echo =>
      exact innerIcmpSocketRecv_exact map src icmp buf parsed echo net
  | tcpNat allowSubnet port =>
      apply iff_of_true _ trivial
      simp only [effects, InternalNatManager.tcpNat, ↓reduceIte]
      exact rule_kept rfl rfl rfl
  | tcpMapping allowPortMapping host resolves port =>
      exact mapping_exact .connectTcp (fun _ _ => rfl)
        (.tcpMapping allowPortMapping host resolves port) resolves port net
  | udpMapping allowPortMapping host resolves port =>
      exact mapping_exact .connectUdp (fun _ _ => rfl)
        (.udpMapping allowPortMapping host resolves port) resolves port net

/-- A system that reads `10.26.3` as `10.26.0.3`. -/
def shortForm : Lookup where
  resolve host := if host = "10.26.3" then some 0x0A1A0003 else parseIpv4 host
  literal := by
    intro host ip named
    split
    · rename_i short
      have unnamed : parseIpv4 "10.26.3" = none := by decide +kernel
      rw [short, unnamed] at named
      cases named
    · exact named

-- 10.26.0.3 sends what is for itself to 10.26.0.3 over UDP and for a mapping to `10.26.3`,
-- and connects to its neighbour.
theorem ways_disagree :
    let own : NatPath shortForm 0x0A1A0003 := .handleOutbound .empty 0 ⟨.v4 0x0A1A0004, 53⟩ 53 []
    let neighbour : NatPath shortForm 0x0A1A0009 := .listenTask 80
    let short : NatPath shortForm 0x0A1A0003 := .tcpMapping true "10.26.3" rfl 80
    ¬ Decides shortForm (own.effects sampleNetwork) (own.rule sampleNetwork) ∧
      ¬ Decides shortForm (neighbour.effects sampleNetwork) (neighbour.rule sampleNetwork) ∧
        ¬ Decides shortForm (short.effects sampleNetwork) (short.rule sampleNetwork) := by
  intro own neighbour short
  refine ⟨?_, ?_, ?_⟩
  · have wanted : own.rule sampleNetwork = some localhost := by decide +kernel
    rw [wanted]
    rintro ⟨_, ⟨⟩, _, sent⟩
    exact absurd (sent _ (List.mem_cons_self ..)) (by decide +kernel)
  · have wanted : neighbour.rule sampleNetwork = none := by decide +kernel
    rw [wanted]
    exact fun sent => by cases sent
  · have wanted : short.rule sampleNetwork = some localhost := by decide +kernel
    have dialed : short.effects sampleNetwork =
        .ok [.connectTcp (.text "10.26.3" 80) (.text "10.26.3" 80)] := rfl
    rw [wanted, dialed, decides_single rfl]
    decide +kernel

end NatPath
end VntClient
