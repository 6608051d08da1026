import VntClient.InternalNat
import VntClient.UnicodeCase

/-!
The addresses of the configuration: `port_mapping/mod.rs` and
`tunnel_core/server/transport/config.rs`. Both grammars use characters to separate that also stand
in what they separate; what keeps them apart is the order they are looked for in.
-/

namespace VntClient

open RustText

def okOr {α : Type} (message : String) : Option α → Outcome α
  | some value => .ok value
  | none => .err message

theorem okOr_eq_ok {α : Type} {message : String} {option : Option α} {value : α} :
    okOr message option = .ok value ↔ option = some value := by
  cases option with
  | none => simp [okOr]
  | some found => simp [okOr]

section Ipv4Text

theorem toList_displayIp (ip : Ipv4Addr) :
    (displayIp ip).toList = ['.'].intercalate ([ip.toNat / 16777216, ip.toNat / 65536 % 256,
      ip.toNat / 256 % 256, ip.toNat % 256].map (Nat.toDigits 10)) := by
  have shape : displayIp ip = (ip.toNat / 16777216).repr ++ "." ++ (ip.toNat / 65536 % 256).repr ++
      "." ++ (ip.toNat / 256 % 256).repr ++ "." ++ (ip.toNat % 256).repr := rfl
  simp [shape, String.toList_append, Nat.toList_repr, List.intercalate]

theorem isDigit_of_mem {number : Nat} {char : Char} (member : char ∈ Nat.toDigits 10 number) :
    char.isDigit := Nat.isDigit_of_mem_toDigits (by decide) (by decide) member

theorem not_mem_toDigits (char : Char) (other : char.isDigit = false) (number : Nat) :
    char ∉ Nat.toDigits 10 number := by
  intro member
  exact absurd (isDigit_of_mem member) (by simp [other])

theorem parseOctet_toDigits : ∀ octet < 256, parseOctet (Nat.toDigits 10 octet) = some octet := by
  decide +kernel

theorem fromBeBytes32_octets (ip : Ipv4Addr) :
    fromBeBytes32 (UInt8.ofNat (ip.toNat / 16777216)) (UInt8.ofNat (ip.toNat / 65536 % 256))
      (UInt8.ofNat (ip.toNat / 256 % 256)) (UInt8.ofNat (ip.toNat % 256)) = ip := by
  have small := ip.toNat_lt
  apply UInt32.toNat_inj.1
  simp only [fromBeBytes32, UInt8.toNat_ofNat', UInt32.toNat_ofNat']
  omega

theorem parseIpv4_displayIp (ip : Ipv4Addr) : parseIpv4 (displayIp ip) = some ip := by
  have small := ip.toNat_lt
  have pieces : (displayIp ip).toList.splitOn '.' = [ip.toNat / 16777216, ip.toNat / 65536 % 256,
      ip.toNat / 256 % 256, ip.toNat % 256].map (Nat.toDigits 10) := by
    rw [toList_displayIp]
    apply List.splitOn_intercalate
    · intro piece member
      obtain ⟨number, -, rfl⟩ := List.mem_map.1 member
      exact not_mem_toDigits '.' (by decide) number
    · simp
  have first := parseOctet_toDigits (ip.toNat / 16777216) (by omega)
  have second := parseOctet_toDigits (ip.toNat / 65536 % 256) (Nat.mod_lt _ (by decide))
  have third := parseOctet_toDigits (ip.toNat / 256 % 256) (Nat.mod_lt _ (by decide))
  have fourth := parseOctet_toDigits (ip.toNat % 256) (Nat.mod_lt _ (by decide))
  simp [parseIpv4, pieces, first, second, third, fourth, fromBeBytes32_octets]

theorem hyphen_not_mem_displayIp (ip : Ipv4Addr) : '-' ∉ (displayIp ip).toList := by
  have digits := not_mem_toDigits '-' (by decide)
  simp [toList_displayIp, List.intercalate, digits]

end Ipv4Text

abbrev IpNextHeaderProtocol := UInt8

def protocolToStr (protocol : IpNextHeaderProtocol) : String :=
  if protocol = 6 then "tcp" else if protocol = 17 then "udp" else "unknown"

def strToProtocol (s : List Char) : Option IpNextHeaderProtocol :=
  if s.map Char.toLower = "tcp".toList then some 6
  else if s.map Char.toLower = "udp".toList then some 17
  else none

structure PortMapping (SocketAddr : Type) where
  protocol : IpNextHeaderProtocol
  srcAddr : SocketAddr
  virtualTargetIp : Ipv4Addr
  dstHost : String
  dstPort : UInt16
deriving DecidableEq

def parseU16 (text : List Char) : Outcome UInt16 :=
  match parseUnsigned 65536 text with
  | .ok value => .ok (UInt16.ofNat value)
  | .error error => .err s!"invalid dst_port: {error.display}"

theorem parseU16_toDigits (port : UInt16) :
    parseU16 (Nat.toDigits 10 port.toNat) = .ok port := by
  have read := parseUnsigned_toDigits port.toNat_lt
  simp [parseU16, read]

namespace PortMapping
-- `std::net::SocketAddr` with its text
variable {SocketAddr : Type} (parseSocketAddr : String → Option SocketAddr)
  (displaySocketAddr : SocketAddr → String)

def display (mapping : PortMapping SocketAddr) : String :=
  s!"{protocolToStr mapping.protocol}://{displaySocketAddr mapping.srcAddr}-" ++
    s!"{displayIp mapping.virtualTargetIp}-{mapping.dstHost}:{mapping.dstPort.toNat}"

def parseDst (dst : List Char) : Outcome (String × UInt16) := do
  let parts ← okOr "missing dst port" (rsplitOnce [':'] dst)
  let dstPort ← parseU16 parts.2
  if dstPort = 0 then .err "invalid dst port: 0" else .ok (String.ofList parts.1, dstPort)

def parseRest (protocol : IpNextHeaderProtocol) (rest : List Char) :
    Outcome (PortMapping SocketAddr) := do
  let parts := splitn ['-'] 3 rest
  let srcText ← okOr "missing src_addr" parts[0]?
  let srcAddr ← okOr "invalid src_addr: invalid socket address syntax"
    (parseSocketAddr (String.ofList srcText))
  let ipText ← okOr "missing virtual_target_ip" parts[1]?
  let virtualTargetIp ← okOr "invalid virtual_target_ip: invalid IPv4 address syntax"
    (parseIpv4 (String.ofList ipText))
  let dst ← okOr "missing destination" parts[2]?
  let host ← parseDst dst
  .ok ⟨protocol, srcAddr, virtualTargetIp, host.1, host.2⟩

def fromStr (s : String) : Outcome (PortMapping SocketAddr) := do
  let parts ← okOr "missing '://'" (splitOnce "://".toList s.toList)
  let protocol ← okOr s!"unknown protocol: {String.ofList parts.1}" (strToProtocol parts.1)
  parseRest parseSocketAddr protocol parts.2

structure Parsed (mapping : PortMapping SocketAddr) : Prop where
  protocol : mapping.protocol = 6 ∨ mapping.protocol = 17
  srcAddr : ∃ text, parseSocketAddr text = some mapping.srcAddr
  dstPort : mapping.dstPort ≠ 0

variable {parseSocketAddr displaySocketAddr} {mapping : PortMapping SocketAddr}

theorem strToProtocol_eq_some {s : List Char} {protocol : IpNextHeaderProtocol}
    (found : strToProtocol s = some protocol) : protocol = 6 ∨ protocol = 17 := by
  unfold strToProtocol at found
  split at found
  · exact Or.inl (Option.some.inj found).symm
  · split at found
    · exact Or.inr (Option.some.inj found).symm
    · contradiction

theorem parseDst_port {dst : List Char} {host : String × UInt16} (parsed : parseDst dst = .ok host) :
    host.2 ≠ 0 := by
  unfold parseDst at parsed
  obtain ⟨parts, -, parsed⟩ := Outcome.bind_eq_ok.1 parsed
  obtain ⟨port, -, parsed⟩ := Outcome.bind_eq_ok.1 parsed
  split at parsed
  · contradiction
  · next nonzero =>
      rw [← Outcome.ok.inj parsed]
      exact nonzero

theorem parsed_of_fromStr {s : String} (accepted : fromStr parseSocketAddr s = .ok mapping) :
    Parsed parseSocketAddr mapping := by
  unfold fromStr at accepted
  obtain ⟨parts, -, accepted⟩ := Outcome.bind_eq_ok.1 accepted
  obtain ⟨protocol, known, accepted⟩ := Outcome.bind_eq_ok.1 accepted
  unfold parseRest at accepted
  obtain ⟨srcText, -, accepted⟩ := Outcome.bind_eq_ok.1 accepted
  obtain ⟨srcAddr, src, accepted⟩ := Outcome.bind_eq_ok.1 accepted
  obtain ⟨ipText, -, accepted⟩ := Outcome.bind_eq_ok.1 accepted
  obtain ⟨ip, -, accepted⟩ := Outcome.bind_eq_ok.1 accepted
  obtain ⟨dst, -, accepted⟩ := Outcome.bind_eq_ok.1 accepted
  obtain ⟨host, parsed, accepted⟩ := Outcome.bind_eq_ok.1 accepted
  rw [← Outcome.ok.inj accepted]
  exact ⟨strToProtocol_eq_some (okOr_eq_ok.1 known), ⟨_, okOr_eq_ok.1 src⟩, parseDst_port parsed⟩

/-- The last ':' is the one before the port, whatever the host is. -/
theorem parseDst_display (host : String) {port : UInt16} (nonzero : port ≠ 0) :
    parseDst (host.toList ++ ':' :: Nat.toDigits 10 port.toNat) = .ok (host, port) := by
  have split := rsplitOnce_append (not_mem_toDigits ':' (by decide) port.toNat) host.toList
  simp [parseDst, split, okOr, parseU16_toDigits, nonzero]

/-- The first two '-' are those between the fields: neither address has one. -/
theorem parseRest_display (parsed : Parsed parseSocketAddr mapping)
    (trips : parseSocketAddr (displaySocketAddr mapping.srcAddr) = some mapping.srcAddr)
    (plain : '-' ∉ (displaySocketAddr mapping.srcAddr).toList) :
    parseRest parseSocketAddr mapping.protocol
      ((displaySocketAddr mapping.srcAddr).toList ++ '-' ::
        ((displayIp mapping.virtualTargetIp).toList ++ '-' ::
          (mapping.dstHost.toList ++ ':' :: Nat.toDigits 10 mapping.dstPort.toNat))) =
      .ok mapping := by
  have dst := parseDst_display mapping.dstHost parsed.dstPort
  have ip := parseIpv4_displayIp mapping.virtualTargetIp
  rw [parseRest, splitn_append plain, splitn_append (hyphen_not_mem_displayIp _), splitn]
  simp [okOr, trips, ip, dst]

theorem toList_display :
    (mapping.display displaySocketAddr).toList =
      (protocolToStr mapping.protocol).toList ++ "://".toList ++
        ((displaySocketAddr mapping.srcAddr).toList ++ '-' ::
          ((displayIp mapping.virtualTargetIp).toList ++ '-' ::
            (mapping.dstHost.toList ++ ':' :: Nat.toDigits 10 mapping.dstPort.toNat))) := by
  have shape : mapping.display displaySocketAddr = protocolToStr mapping.protocol ++ "://" ++
      displaySocketAddr mapping.srcAddr ++ "-" ++ (displayIp mapping.virtualTargetIp ++ "-" ++
        mapping.dstHost ++ ":" ++ mapping.dstPort.toNat.repr) := rfl
  simp [shape, String.toList_append, Nat.toList_repr]

theorem fromStr_display (parsed : Parsed parseSocketAddr mapping)
    (trips : parseSocketAddr (displaySocketAddr mapping.srcAddr) = some mapping.srcAddr)
    (plain : '-' ∉ (displaySocketAddr mapping.srcAddr).toList) :
    fromStr parseSocketAddr (mapping.display displaySocketAddr) = .ok mapping := by
  have rest := parseRest_display parsed trips plain
  have named : ':' ∉ (protocolToStr mapping.protocol).toList ∧
      strToProtocol (protocolToStr mapping.protocol).toList = some mapping.protocol := by
    obtain tcp | udp := parsed.protocol
    · rw [tcp]
      decide
    · rw [udp]
      decide
  have split := splitOnce_append named.1 "//".toList
  rw [fromStr, toList_display]
  simp at split
  simp [split, okOr, named.2, rest]

end PortMapping

inductive ProtocolType
  | quic
  | tlsTcp
  | wss
  | dynamic
deriving DecidableEq

namespace ProtocolType

def scheme : ProtocolType → String
  | quic => "quic://"
  | tlsTcp => "tcp://"
  | wss => "wss://"
  | dynamic => "dynamic://"

/-- In the order `parse_server` tries them. -/
def all : List ProtocolType := [quic, tlsTcp, wss, dynamic]

end ProtocolType

structure ProtocolAddress where
  protocolType : ProtocolType
  address : String
deriving DecidableEq

namespace ProtocolAddress
variable (mapping : CaseMapping)

def display (address : ProtocolAddress) : String :=
  address.protocolType.scheme ++ address.address

def normalize (val : List Char) : List Char :=
  mapping.toLowercase (RustText.trim RustText.isWhitespace val)

def stripScheme (val : List Char) : Option (ProtocolType × List Char) :=
  ProtocolType.all.findSome? fun protocol =>
    (val.dropPrefix? protocol.scheme.toList).map fun address => (protocol, address)

def parseNormalized (val : List Char) : Outcome (ProtocolType × List Char) :=
  match stripScheme val with
  | some server => .ok server
  | none =>
      if contains "://".toList val then
        .err s!"Unknown protocol in server address: {String.ofList val}"
      else .ok (.tlsTcp, val)

def parseServer (val : String) : Outcome (ProtocolType × String) := do
  let server ← parseNormalized (normalize mapping val.toList)
  .ok (server.1, String.ofList server.2)

def fromStr (s : String) : Outcome ProtocolAddress := do
  let server ← parseServer mapping s
  .ok ⟨server.1, server.2⟩

variable {mapping}

theorem stripScheme_scheme (protocol : ProtocolType) (address : List Char) :
    stripScheme (protocol.scheme.toList ++ address) = some (protocol, address) := by
  cases protocol <;>
    simp [stripScheme, ProtocolType.all, ProtocolType.scheme, List.dropPrefix?]

theorem suffix_of_stripScheme {val address : List Char} {protocol : ProtocolType}
    (found : stripScheme val = some (protocol, address)) : address <:+ val := by
  obtain ⟨tried, -, stripped⟩ := List.exists_of_findSome?_eq_some found
  obtain ⟨rest, dropped, same⟩ := Option.map_eq_some_iff.1 stripped
  obtain ⟨front, split, -⟩ := List.dropPrefix?_eq_some_iff.1 dropped
  rw [← (Prod.mk.inj same).2]
  exact ⟨front, split.symm⟩

/-- The address is what is left of the text, with or without a scheme. -/
theorem suffix_of_parseNormalized {val address : List Char} {protocol : ProtocolType}
    (parsed : parseNormalized val = .ok (protocol, address)) : address <:+ val := by
  unfold parseNormalized at parsed
  split at parsed
  · next server found =>
      rw [Outcome.ok.inj parsed] at found
      exact suffix_of_stripScheme found
  · split at parsed
    · contradiction
    · have same : val = address := (Prod.mk.inj (Outcome.ok.inj parsed)).2
      rw [same]

theorem plain_scheme (protocol : ProtocolType) : (protocol.scheme.toList.all fun char =>
    char.toNat < 0x80 && char.toLower == char && !RustText.isWhitespace char) = true := by
  cases protocol <;> decide +kernel

theorem lower_scheme (protocol : ProtocolType) : ∀ char ∈ protocol.scheme.toList,
    char.toNat < 0x80 ∧ char.toLower = char ∧ RustText.isWhitespace char = false := by
  intro char member
  have plain := List.all_eq_true.1 (plain_scheme protocol) char member
  simpa [and_assoc] using plain

theorem scheme_ne_nil (protocol : ProtocolType) : protocol.scheme.toList ≠ [] := by
  cases protocol <;> simp [ProtocolType.scheme]

/-- Behind a scheme nothing is trimmed or lowered that was not before. -/
theorem normalize_scheme (protocol : ProtocolType) {val address : List Char}
    (suffix : address <:+ normalize mapping val) :
    normalize mapping (protocol.scheme.toList ++ address) = protocol.scheme.toList ++ address := by
  have shown := fun char member => (lower_scheme protocol char member).2.2
  have trimmed : RustText.trim RustText.isWhitespace (protocol.scheme.toList ++ address) =
      protocol.scheme.toList ++ address := by
    apply trim_eq_self
    · intro first found
      rw [List.head?_append_of_ne_nil _ (scheme_ne_nil protocol)] at found
      exact shown first (List.mem_of_mem_head? found)
    · intro last found
      by_cases empty : address = []
      · rw [empty, List.append_nil] at found
        exact shown last (List.mem_of_getLast? found)
      · obtain ⟨front, split⟩ := suffix
        have ends : last ∈ (normalize mapping val).getLast? := by
          rw [List.getLast?_append_of_ne_nil _ empty] at found
          rwa [← split, List.getLast?_append_of_ne_nil _ empty]
        exact CaseMapping.toLowercase_getLast trim_getLast last ends
  rw [normalize, trimmed]
  apply CaseMapping.toLowercase_eq_self
  intro char member
  obtain here | behind := List.mem_append.1 member
  · obtain ⟨ascii, lower, -⟩ := lower_scheme protocol char here
    exact CaseMapping.fixed_ascii ascii lower
  · exact CaseMapping.fixed_toLowercase char (suffix.mem behind)

theorem parseNormalized_scheme (protocol : ProtocolType) (address : List Char) :
    parseNormalized (protocol.scheme.toList ++ address) = .ok (protocol, address) := by
  simp only [parseNormalized, stripScheme_scheme]

theorem fromStr_display {s : String} {address : ProtocolAddress}
    (accepted : fromStr mapping s = .ok address) :
    fromStr mapping address.display = .ok address := by
  unfold fromStr parseServer at accepted
  obtain ⟨server, read, built⟩ := Outcome.bind_eq_ok.1 accepted
  obtain ⟨⟨protocol, rest⟩, parsed, same⟩ := Outcome.bind_eq_ok.1 read
  have stable := normalize_scheme protocol (suffix_of_parseNormalized parsed)
  rw [← Outcome.ok.inj built, ← Outcome.ok.inj same]
  simp [fromStr, parseServer, display, String.toList_append, stable, parseNormalized_scheme]

end ProtocolAddress

/-- What is accepted is read back from its text. A socket address is read back from its own, which
has no hyphen. -/
theorem addresses_roundTrip {SocketAddr : Type} (mapping : CaseMapping)
    (parseSocketAddr : String → Option SocketAddr) (displaySocketAddr : SocketAddr → String)
    (trips : ∀ text addr, parseSocketAddr text = some addr →
      parseSocketAddr (displaySocketAddr addr) = some addr)
    (plain : ∀ addr, '-' ∉ (displaySocketAddr addr).toList) :
    (∀ s portMapping, PortMapping.fromStr parseSocketAddr s = .ok portMapping →
      PortMapping.fromStr parseSocketAddr (portMapping.display displaySocketAddr) =
        .ok portMapping) ∧
    ∀ s address, ProtocolAddress.fromStr mapping s = .ok address →
      ProtocolAddress.fromStr mapping address.display = .ok address := by
  constructor
  · intro s portMapping accepted
    have parsed := PortMapping.parsed_of_fromStr accepted
    obtain ⟨text, read⟩ := parsed.srcAddr
    exact PortMapping.fromStr_display parsed (trips text _ read) (plain _)
  · exact fun s address accepted => ProtocolAddress.fromStr_display accepted

def loopbackAddr : SocketAddr := ⟨.v6 1, 80⟩

def parseLoopback (text : String) : Option SocketAddr :=
  if text = "[::1]:80" then some loopbackAddr else none

def displayLoopback (_ : SocketAddr) : String := "[::1]:80"

def hyphenHost : PortMapping SocketAddr := ⟨6, loopbackAddr, 0x0A1A0002, "my-host:x", 90⟩

theorem loopback_addresses_roundTrip :
    PortMapping.fromStr parseLoopback (hyphenHost.display displayLoopback) = .ok hyphenHost ∧
    ProtocolAddress.fromStr (unicodeCase (fun _ => true) (fun _ => false))
      (ProtocolAddress.display ⟨.wss, "vnt:443"⟩) = .ok ⟨.wss, "vnt:443"⟩ := by
  have trips : ∀ text addr, parseLoopback text = some addr →
      parseLoopback (displayLoopback addr) = some addr := by
    intro text addr found
    unfold parseLoopback at found
    split at found
    · rw [← Option.some.inj found]
      rfl
    · contradiction
  have plain : ∀ addr, '-' ∉ (displayLoopback addr).toList := by
    intro addr
    simp [displayLoopback]
  have accepted : PortMapping.fromStr parseLoopback "TCP://[::1]:80-10.26.0.2-my-host:x:090" =
      .ok hyphenHost := by
    have octets : (List.splitOn '.' "10.26.0.2".toList).mapM parseOctet = some [10, 26, 0, 2] := by
      decide +kernel
    simp at octets
    simp [PortMapping.fromStr, PortMapping.parseRest, PortMapping.parseDst, splitOnce, splitn,
      rsplitOnce, List.dropPrefix?, okOr, strToProtocol, parseU16, parseUnsigned, parseDigits,
      parseIpv4, octets, parseLoopback, hyphenHost, fromBeBytes32]
  have lowered : ProtocolAddress.fromStr (unicodeCase (fun _ => true) (fun _ => false))
      " WSS://Vnt:443 " = .ok ⟨.wss, "vnt:443"⟩ := by
    have lower : ProtocolAddress.normalize (unicodeCase (fun _ => true) (fun _ => false))
        " WSS://Vnt:443 ".toList = "wss://vnt:443".toList := by
      decide +kernel
    have server := ProtocolAddress.parseNormalized_scheme .wss "vnt:443".toList
    simp [ProtocolType.scheme] at server
    rw [ProtocolAddress.fromStr, ProtocolAddress.parseServer, lower]
    simp [server]
  have both := addresses_roundTrip (unicodeCase (fun _ => true) (fun _ => false)) parseLoopback
    displayLoopback trips plain
  exact ⟨both.1 _ _ accepted, both.2 _ _ lowered⟩

end VntClient
