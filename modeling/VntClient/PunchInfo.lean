import VntClient.SubnetRoutes
import VntClient.RouteTable

/-!
`protocol/client_message.rs` with `context/nat.rs`: what a node knows of its NAT, and how
it tells another one. The local address is not sent: the other side takes the first of
the list that is.
-/

namespace VntClient

inductive NatType
  | cone
  | symmetric
deriving DecidableEq

structure NatInfo where
  natType : NatType
  publicIps : List Ipv4Addr
  publicUdpPorts : List UInt16
  mappingTcpAddr : List SocketAddr
  mappingUdpAddr : List SocketAddr
  publicPortRange : UInt16
  localIpv4 : Ipv4Addr
  localIpv4s : List Ipv4Addr
  ipv6 : Option (BitVec 128)
  localUdpPorts : List UInt16
  localTcpPort : UInt16
  publicTcpPort : UInt16
deriving DecidableEq

/-- The socket an address was seen through. -/
inductive NatIndex
  | mainV4 (index : Nat)
  | mainV6 (index : Nat)
  | subV4 (index : Nat)
  | tcp (index : Nat)
  | other

/-- IPv4 addresses, also those that IPv6 maps. -/
def mappingAddr (addr : SocketAddr) : Option (Ipv4Addr × UInt16) :=
  match addr.ip with
  | .v4 ip => some (ip, addr.port)
  | .v6 bits =>
      if bits.toNat / 2 ^ 32 = 0xFFFF then some (UInt32.ofNat (bits.toNat % 2 ^ 32), addr.port)
      else none

namespace NatInfo
-- `rust_p2p_core::extend::addr::is_ipv4_global`
variable (isIpv4Global : Ipv4Addr → Bool)

def build (localIpv4 : Ipv4Addr) (ipv6 : Option (BitVec 128)) (localUdpPorts : List UInt16)
    (localTcpPort : UInt16) (stun : NatType × List Ipv4Addr × UInt16) : NatInfo where
  natType := stun.1
  publicIps := stun.2.1
  publicUdpPorts := localUdpPorts.map fun _ => 0
  mappingTcpAddr := []
  mappingUdpAddr := []
  publicPortRange := stun.2.2
  localIpv4
  localIpv4s := [localIpv4]
  ipv6
  localUdpPorts
  localTcpPort
  publicTcpPort := 0

def pushIp (info : NatInfo) (ip : Ipv4Addr) : NatInfo :=
  if ip ∈ info.publicIps then info else { info with publicIps := info.publicIps ++ [ip] }

def updatePublicAddr (info : NatInfo) (index : NatIndex) (addr : SocketAddr) : NatInfo :=
  match mappingAddr addr with
  | none => info
  | some (ip, port) =>
      if isIpv4Global ip then
        let info := info.pushIp ip
        match index with
        | .mainV4 index | .mainV6 index =>
            { info with publicUdpPorts := info.publicUdpPorts.set index port }
        | .subV4 _ => info
        | .tcp _ => { info with publicTcpPort := port }
        | .other => info
      else info

def updateTcpPublicAddr (info : NatInfo) (addr : SocketAddr) : NatInfo :=
  match addr.ip with
  | .v6 _ => info
  | .v4 ip =>
      if isUnspecified ip && addr.port == 0 then { info with publicTcpPort := 0 }
      else if isIpv4Global ip then { info.pushIp ip with publicTcpPort := addr.port }
      else info

/-- Without the addresses of the network, which nobody reaches from outside. -/
def filterIp (networkContains : Ipv4Addr → Bool) (info : NatInfo) : NatInfo where
  __ := info
  localIpv4 := if networkContains info.localIpv4 then 0 else info.localIpv4
  localIpv4s := info.localIpv4s.filter fun ip => !networkContains ip

end NatInfo

inductive MyNatInfoEvent
  | replaceNatInfo (localIpv4 : Ipv4Addr) (ipv6 : Option (BitVec 128)) (localUdpPorts : List UInt16)
      (localTcpPort : UInt16) (stun : NatType × List Ipv4Addr × UInt16)
  | updatePublicAddr (index : NatIndex) (addr : SocketAddr)
  | updateTcpPublicAddr (addr : SocketAddr)
  | clear

namespace MyNatInfo
variable (isIpv4Global : Ipv4Addr → Bool)

def apply (natInfo : Option NatInfo) : MyNatInfoEvent → Option NatInfo
  | .replaceNatInfo localIpv4 ipv6 localUdpPorts localTcpPort stun =>
      some (.build localIpv4 ipv6 localUdpPorts localTcpPort stun)
  | .updatePublicAddr index addr =>
      natInfo.map fun info => info.updatePublicAddr isIpv4Global index addr
  | .updateTcpPublicAddr addr => natInfo.map fun info => info.updateTcpPublicAddr isIpv4Global addr
  | .clear => none

def replay (events : List MyNatInfoEvent) : Option NatInfo := events.foldl (apply isIpv4Global) none

/-- The one local address is the list of them. -/
def Own (info : NatInfo) : Prop := info.localIpv4s = [info.localIpv4]

theorem own_pushIp {info : NatInfo} (own : Own info) (ip : Ipv4Addr) : Own (info.pushIp ip) := by
  rw [NatInfo.pushIp]
  split
  · exact own
  · exact own

theorem own_updatePublicAddr {info : NatInfo} (own : Own info) (index : NatIndex)
    (addr : SocketAddr) : Own (info.updatePublicAddr isIpv4Global index addr) := by
  rw [NatInfo.updatePublicAddr]
  split
  · exact own
  · split
    · have pushed := own_pushIp own
      cases index with
      | mainV4 index | mainV6 index | subV4 index | tcp index | other => exact pushed _
    · exact own

theorem own_updateTcpPublicAddr {info : NatInfo} (own : Own info) (addr : SocketAddr) :
    Own (info.updateTcpPublicAddr isIpv4Global addr) := by
  rw [NatInfo.updateTcpPublicAddr]
  split
  · exact own
  · split
    · exact own
    · split
      · exact own_pushIp own _
      · exact own

theorem own_apply {natInfo : Option NatInfo} (own : ∀ info ∈ natInfo, Own info)
    (event : MyNatInfoEvent) : ∀ info ∈ apply isIpv4Global natInfo event, Own info := by
  intro info stored
  cases event with
  | clear => cases stored
  | replaceNatInfo =>
      cases stored
      rfl
  | updatePublicAddr index addr =>
      obtain ⟨before, there, rfl⟩ := Option.map_eq_some_iff.mp stored
      exact own_updatePublicAddr isIpv4Global (own before there) index addr
  | updateTcpPublicAddr addr =>
      obtain ⟨before, there, rfl⟩ := Option.map_eq_some_iff.mp stored
      exact own_updateTcpPublicAddr isIpv4Global (own before there) addr

/-- Whatever is stored has the one local address in its list. -/
theorem own_replay (events : List MyNatInfoEvent) :
    ∀ info ∈ replay isIpv4Global events, Own info := by
  induction events using List.reverseRecOn with
  | nil => exact fun _ none => by cases none
  | append_singleton events event ih =>
      rw [replay, List.foldl_concat]
      exact own_apply isIpv4Global ih event

end MyNatInfo

/-- `NatInfo` of `proto/client.proto`; an enumeration is whatever number came. -/
structure NatInfoMessage where
  natType : Int
  publicIps : List UInt32
  publicUdpPorts : List UInt32
  publicPortRange : UInt32
  localIpv4s : List UInt32
  ipv6 : Option Bytes
  localUdpPorts : List UInt32
  localTcpPort : UInt32
  publicTcpPort : UInt32
deriving DecidableEq

structure PunchInfoMessage where
  natInfo : Option NatInfoMessage
deriving DecidableEq

structure PunchInfoCodec where
  encode : PunchInfoMessage → Bytes
  decode : Bytes → Option PunchInfoMessage

def octets : Nat → Nat → Bytes
  | 0, _ => []
  | count + 1, value => octets count (value / 256) ++ [UInt8.ofNat value]

def ofOctets (bytes : Bytes) : Nat := bytes.foldl (fun value byte => value * 256 + byte.toNat) 0

theorem octets_length (count value : Nat) : (octets count value).length = count := by
  induction count generalizing value with
  | zero => rfl
  | succ count ih => rw [octets, List.length_append, ih, List.length_singleton]

theorem ofOctets_octets (count value : Nat) : ofOctets (octets count value) = value % 256 ^ count := by
  induction count generalizing value with
  | zero => simp [octets, ofOctets, Nat.mod_one]
  | succ count ih =>
      have last : (UInt8.ofNat value).toNat = value % 256 := UInt8.toNat_ofNat'
      rw [octets, ofOctets, List.foldl_append, List.foldl_cons, List.foldl_nil, last, ← ofOctets, ih,
        pow_succ, Nat.mul_comm (256 ^ count), Nat.mod_mul]
      omega

namespace NatInfo

def encodeNatInfo (info : NatInfo) : NatInfoMessage where
  natType := match info.natType with
    | .cone => 0
    | .symmetric => 1
  publicIps := info.publicIps
  publicUdpPorts := info.publicUdpPorts.map UInt16.toUInt32
  publicPortRange := info.publicPortRange.toUInt32
  localIpv4s := info.localIpv4s
  ipv6 := info.ipv6.map fun bits => octets 16 bits.toNat
  localUdpPorts := info.localUdpPorts.map UInt16.toUInt32
  localTcpPort := info.localTcpPort.toUInt32
  publicTcpPort := info.publicTcpPort.toUInt32

def validatePort (port : UInt32) : Outcome UInt16 :=
  if port.toNat < 65536 then .ok port.toUInt16 else .err s!"invalid port number: {port}"

/-- An unknown type is read as the default, and an IPv6 address of another length as none. -/
def decodeNatInfo (message : NatInfoMessage) : Outcome NatInfo := do
  let publicUdpPorts ← message.publicUdpPorts.mapM validatePort
  let publicPortRange ← validatePort message.publicPortRange
  let localUdpPorts ← message.localUdpPorts.mapM validatePort
  let localTcpPort ← validatePort message.localTcpPort
  let publicTcpPort ← validatePort message.publicTcpPort
  return {
    natType := if message.natType = 1 then .symmetric else .cone
    publicIps := message.publicIps
    publicUdpPorts
    mappingTcpAddr := []
    mappingUdpAddr := []
    publicPortRange
    localIpv4 := message.localIpv4s.head?.getD 0
    localIpv4s := message.localIpv4s
    ipv6 := (message.ipv6.filter fun bytes => bytes.length == 16).map fun bytes =>
      BitVec.ofNat 128 (ofOctets bytes)
    localUdpPorts, localTcpPort, publicTcpPort }

def withoutMappings (info : NatInfo) : NatInfo :=
  { info with mappingTcpAddr := [], mappingUdpAddr := [] }

theorem validatePort_toUInt32 (port : UInt16) : validatePort port.toUInt32 = .ok port := by
  have small : port.toUInt32.toNat < 65536 := by simpa using port.toNat_lt
  rw [validatePort, if_pos small]
  simp

theorem mapM_validatePort (ports : List UInt16) :
    (ports.map UInt16.toUInt32).mapM validatePort = .ok ports := by
  induction ports with
  | nil => rfl
  | cons port rest ih =>
      rw [List.map_cons, List.mapM_cons, validatePort_toUInt32, ih]
      rfl

theorem decode_ipv6 (ipv6 : Option (BitVec 128)) :
    (((ipv6.map fun bits => octets 16 bits.toNat).filter fun bytes => bytes.length == 16).map
      fun bytes => BitVec.ofNat 128 (ofOctets bytes)) = ipv6 := by
  cases ipv6 with
  | none => rfl
  | some bits =>
      have whole : bits.toNat % 256 ^ 16 = bits.toNat := Nat.mod_eq_of_lt bits.isLt
      simp only [Option.map_some, Option.filter_some, octets_length, beq_self_eq_true, ↓reduceIte,
        ofOctets_octets, whole, BitVec.ofNat_toNat, BitVec.setWidth_eq]

/-- What is decoded is what was encoded, where the local address heads its list. -/
theorem decodeNatInfo_encodeNatInfo {info : NatInfo}
    (first : info.localIpv4s.head?.getD 0 = info.localIpv4) :
    decodeNatInfo (encodeNatInfo info) = .ok info.withoutMappings := by
  simp only [decodeNatInfo, encodeNatInfo, mapM_validatePort, validatePort_toUInt32,
    Outcome.ok_bind, decode_ipv6, first]
  cases info with
  | mk natType =>
      cases natType with
      | cone => rfl
      | symmetric => rfl

end NatInfo

structure PunchInfo where
  natInfo : NatInfo
deriving DecidableEq

namespace PunchInfo

def message (info : PunchInfo) : PunchInfoMessage := ⟨some info.natInfo.encodeNatInfo⟩

def encode (codec : PunchInfoCodec) (info : PunchInfo) : Bytes := codec.encode info.message

def fromSlice (codec : PunchInfoCodec) (buf : Bytes) : Outcome PunchInfo :=
  match codec.decode buf with
  | none => .err "failed to decode Protobuf message"
  | some message =>
      match message.natInfo with
      | none => .err "Punched info decode failed."
      | some natInfo => do
          let natInfo ← NatInfo.decodeNatInfo natInfo
          return ⟨natInfo⟩

theorem fromSlice_encode {codec : PunchInfoCodec} {info : PunchInfo}
    (assumed : codec.decode (codec.encode info.message) = some info.message)
    (first : info.natInfo.localIpv4s.head?.getD 0 = info.natInfo.localIpv4) :
    fromSlice codec (info.encode codec) = .ok ⟨info.natInfo.withoutMappings⟩ := by
  rw [fromSlice, encode, assumed]
  simp only [message, NatInfo.decodeNatInfo_encodeNatInfo first, Outcome.ok_bind, Outcome.pure_eq]

end PunchInfo

structure AppState where
  natInfo : Option NatInfo
  network : Option NetworkAddr
  subnetRoute : SubnetExternalRoute

namespace AppState

/-- Without a network the subnets do not count either. -/
def networkContains (state : AppState) (ip : Ipv4Addr) : Bool :=
  match state.network with
  | none => false
  | some net => net.network.contains ip || (state.subnetRoute.route ip).isSome

def filterIp (state : AppState) (info : NatInfo) : NatInfo := info.filterIp state.networkContains

def getPunchInfo (state : AppState) : Option PunchInfo :=
  state.natInfo.map fun info => ⟨state.filterIp info⟩

end AppState

/-- The one local address is still the first after the filter, or was filtered with its list. -/
theorem MyNatInfo.Own.filterIp {info : NatInfo} (own : MyNatInfo.Own info)
    (networkContains : Ipv4Addr → Bool) :
    (info.filterIp networkContains).localIpv4s.head?.getD 0 =
      (info.filterIp networkContains).localIpv4 := by
  simp only [NatInfo.filterIp, show info.localIpv4s = [info.localIpv4] from own]
  cases contained : networkContains info.localIpv4 with
  | true => simp [contained]
  | false => simp [contained]

/-- The punch information of a node arrives as it was sent, without the addresses that the
wire does not carry, and tells nobody the addresses of the virtual network. -/
theorem getPunchInfo_fromSlice (isIpv4Global : Ipv4Addr → Bool) (codec : PunchInfoCodec)
    (events : List MyNatInfoEvent) (network : NetworkAddr) (subnetRoute : SubnetExternalRoute)
    (info : PunchInfo)
    (sent : (AppState.mk (MyNatInfo.replay isIpv4Global events) (some network) subnetRoute).getPunchInfo =
      some info)
    (assumed : codec.decode (codec.encode info.message) = some info.message) :
    ∃ decoded, PunchInfo.fromSlice codec (info.encode codec) = .ok decoded ∧
      decoded.natInfo = { info.natInfo with mappingTcpAddr := [], mappingUdpAddr := [] } ∧
      ∀ ip ∈ decoded.natInfo.localIpv4s,
        network.network.contains ip = false ∧ subnetRoute.route ip = none := by
  obtain ⟨stored, there, rfl⟩ := Option.map_eq_some_iff.mp sent
  have own := MyNatInfo.own_replay isIpv4Global events stored there
  refine ⟨_, PunchInfo.fromSlice_encode assumed (own.filterIp _), rfl, ?_⟩
  intro ip member
  have outside := (List.mem_filter.mp member).2
  simpa [AppState.networkContains, Option.isSome_eq_false_iff] using outside

def sampleEvents : List MyNatInfoEvent :=
  [.replaceNatInfo 0x0A1A0003 none [5000] 5000 (.symmetric, [], 0),
    .updatePublicAddr (.mainV4 0) ⟨.v4 0x08080808, 4000⟩]

def sampleNatInfo : NatInfo where
  natType := .symmetric
  publicIps := [0x08080808]
  publicUdpPorts := [4000]
  mappingTcpAddr := []
  mappingUdpAddr := []
  publicPortRange := 0
  localIpv4 := 0
  localIpv4s := []
  ipv6 := none
  localUdpPorts := [5000]
  localTcpPort := 5000
  publicTcpPort := 0

def sampleBytes : Bytes :=
  [0x0A, 0x13, 0x08, 0x01, 0x12, 0x04, 0x08, 0x08, 0x08, 0x08, 0x1A, 0x02, 0xA0, 0x1F,
    0x3A, 0x02, 0x88, 0x27, 0x40, 0x88, 0x27]

def sampleCodec : PunchInfoCodec where
  encode _ := sampleBytes
  decode bytes := if bytes = sampleBytes then some (PunchInfo.mk sampleNatInfo).message else none

theorem sample_getPunchInfo_fromSlice :
    MyNatInfo.replay (fun _ => true) sampleEvents =
        some { sampleNatInfo with localIpv4 := 0x0A1A0003, localIpv4s := [0x0A1A0003] } ∧
    ∃ decoded, PunchInfo.fromSlice sampleCodec (PunchInfo.encode sampleCodec ⟨sampleNatInfo⟩) =
        .ok decoded ∧
      decoded.natInfo = { sampleNatInfo with mappingTcpAddr := [], mappingUdpAddr := [] } ∧
      ∀ ip ∈ decoded.natInfo.localIpv4s, sampleNetwork.network.contains ip = false ∧
        SubnetExternalRoute.default.route ip = none :=
  ⟨by decide +kernel, getPunchInfo_fromSlice (fun _ => true) sampleCodec sampleEvents sampleNetwork
    .default ⟨sampleNatInfo⟩ (by decide +kernel) (by decide +kernel)⟩

end VntClient
