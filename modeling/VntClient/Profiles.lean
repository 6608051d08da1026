import VntClient.Table

/-!
A profile crosses four representations: the application's record, `meta.json`, the
manager's `ProfileMeta` and the JSON of `/profiles`, which the application reads back into
its record. JSON text is its tree here, and an object the list of its members.
-/

namespace VntClient

inductive JsonValue where
  | null
  | bool (value : Bool)
  | int (value : Int)
  | string (value : String)
  | strings (items : List String)
deriving DecidableEq

abbrev JsonObject := List (String × JsonValue)

namespace JsonValue

def asString : JsonValue → Option String
  | string value => some value
  | _ => none

def asBool : JsonValue → Option Bool
  | bool value => some value
  | _ => none

def asInt : JsonValue → Option Int
  | int value => some value
  | _ => none

/-- Serde's `u16`. -/
def asU16 : JsonValue → Option UInt16
  | int value => if 0 ≤ value ∧ value < 65536 then some (UInt16.ofNat value.toNat) else none
  | _ => none

def asStrings : JsonValue → Option (List String)
  | strings items => some items
  | _ => none

/-- Dart's cast to a nullable type. -/
def nullable {Value : Type} (cast : JsonValue → Option Value) :
    JsonValue → Option (Option Value)
  | null => some none
  | value => (cast value).map some

def orElse {Value : Type} (cast : JsonValue → Option Value) (fallback : Value)
    (value : JsonValue) : Option Value :=
  (value.nullable cast).map fun found => found.getD fallback

def ofText : Option String → JsonValue
  | none => null
  | some value => string value

end JsonValue

namespace JsonObject

/-- Dart's `json[key]`, null for an absent key. -/
def member (json : JsonObject) (key : String) : JsonValue := (List.lookup key json).getD .null

/-- A field with a serde default, which an absent key alone gets. -/
def memberOr {Value : Type} (json : JsonObject) (key : String)
    (cast : JsonValue → Option Value) (fallback : Value) : Option Value :=
  (List.lookup key json).elim (some fallback) cast

end JsonObject

structure VntProfile where
  id : String
  name : String
  server : String
  networkCode : String
  deviceId : String
  deviceName : String
  ctrlPort : Int
  tunName : String
  noTun : Bool
  rtx : Bool
  customIp : Option String
  password : Option String
  certMode : Option String
  compress : Bool
  fec : Bool
  noPunch : Bool
  noNat : Bool
  mtu : Option String
  allowMapping : Bool
  inputRoutes : List String
  outputRoutes : List String
  portMappings : List String
  udpStunServers : List String
  tcpStunServers : List String
  createdAtIso : String
  checked : Bool

structure DateTime where
  millisecondsSinceEpoch : Nat
  iso8601 : String

namespace VntProfile
open JsonValue (asString asBool asStrings)

def toJson (profile : VntProfile) : JsonObject :=
  [("id", .string profile.id),
   ("name", .string profile.name),
   ("server", .string profile.server),
   ("networkCode", .string profile.networkCode),
   ("deviceId", .string profile.deviceId),
   ("deviceName", .string profile.deviceName),
   ("ctrlPort", .int profile.ctrlPort),
   ("tunName", .string profile.tunName),
   ("noTun", .bool profile.noTun),
   ("rtx", .bool profile.rtx),
   ("customIp", .ofText profile.customIp),
   ("password", .ofText profile.password),
   ("certMode", .ofText profile.certMode),
   ("compress", .bool profile.compress),
   ("fec", .bool profile.fec),
   ("noPunch", .bool profile.noPunch),
   ("noNat", .bool profile.noNat),
   ("mtu", .ofText profile.mtu),
   ("allowMapping", .bool profile.allowMapping),
   ("inputRoutes", .strings profile.inputRoutes),
   ("outputRoutes", .strings profile.outputRoutes),
   ("portMappings", .strings profile.portMappings),
   ("udpStunServers", .strings profile.udpStunServers),
   ("tcpStunServers", .strings profile.tcpStunServers),
   ("createdAtIso", .string profile.createdAtIso),
   ("checked", .bool profile.checked)]

/-- The UTF-16 units of a character. -/
def utf16Units (char : Char) : Nat := if char.val < 0x10000 then 1 else 2

/-- The characters that fit into `units` UTF-16 units; Dart would keep half of a pair. -/
def utf16Prefix : Nat → List Char → List Char
  | _, [] => []
  | units, char :: rest =>
      if utf16Units char ≤ units then char :: utf16Prefix (units - utf16Units char) rest else []

def buildTunName (profileId : String) : String :=
  "vntc-" ++ String.ofList (utf16Prefix 24 profileId.toList)

-- `toUpperCase` is Dart's, over all of Unicode.
variable (toUpperCase : String → String)

def buildDeviceId (now : DateTime) (profileId : String) : String :=
  "VNTC-" ++ toUpperCase profileId ++ "-" ++
    String.ofList (Nat.toDigits 16 now.millisecondsSinceEpoch)

/-- None where a cast throws. -/
def fromJson (now : DateTime) (json : JsonObject) : Option VntProfile := do
  let id ← (json.member "id").asString
  return {
    id
    name := ← (json.member "name").asString
    server := ← (json.member "server").asString
    networkCode := ← (json.member "networkCode").asString
    deviceId := ← (json.member "deviceId").orElse asString (buildDeviceId toUpperCase now id)
    deviceName := ← (json.member "deviceName").orElse asString "Vntc2"
    ctrlPort := ← (if json.member "ctrlPort" = .null then json.member "apiPort"
      else json.member "ctrlPort").asInt
    tunName := ← (json.member "tunName").orElse asString (buildTunName id)
    noTun := ← (json.member "noTun").orElse asBool false
    rtx := ← (json.member "rtx").orElse asBool true
    customIp := ← (json.member "customIp").nullable asString
    password := ← (json.member "password").nullable asString
    certMode := ← (json.member "certMode").nullable asString
    compress := ← (json.member "compress").orElse asBool false
    fec := ← (json.member "fec").orElse asBool false
    noPunch := ← (json.member "noPunch").orElse asBool false
    noNat := ← (json.member "noNat").orElse asBool false
    mtu := ← (json.member "mtu").nullable asString
    allowMapping := ← (json.member "allowMapping").orElse asBool false
    inputRoutes := ← (json.member "inputRoutes").orElse asStrings []
    outputRoutes := ← (json.member "outputRoutes").orElse asStrings []
    portMappings := ← (json.member "portMappings").orElse asStrings []
    udpStunServers := ← (json.member "udpStunServers").orElse asStrings []
    tcpStunServers := ← (json.member "tcpStunServers").orElse asStrings []
    createdAtIso := ← (json.member "createdAtIso").orElse asString now.iso8601
    checked := ← (json.member "checked").orElse asBool false }

end VntProfile

structure ProfileMeta where
  id : String
  name : String
  server : String
  networkCode : String
  deviceName : String
  ctrlPort : UInt16
  tunName : String
  noTun : Bool
  rtx : Bool
  createdAtIso : String
  checked : Bool

namespace ProfileMeta
open JsonValue (asString asBool)

def defaultTunName : String := "vntc-default"
def defaultRtx : Bool := true

/-- `ctrlPort` under its name or its alias, not under both. -/
def ctrlPortMember (json : JsonObject) : Option UInt16 :=
  match List.lookup "ctrlPort" json, List.lookup "apiPort" json with
  | some port, none | none, some port => port.asU16
  | _, _ => none

def deserialize (json : JsonObject) : Option ProfileMeta := do
  return {
    id := ← (json.member "id").asString
    name := ← (json.member "name").asString
    server := ← (json.member "server").asString
    networkCode := ← (json.member "networkCode").asString
    deviceName := ← (json.member "deviceName").asString
    ctrlPort := ← ctrlPortMember json
    tunName := ← json.memberOr "tunName" asString defaultTunName
    noTun := ← json.memberOr "noTun" asBool false
    rtx := ← json.memberOr "rtx" asBool defaultRtx
    createdAtIso := ← (json.member "createdAtIso").asString
    checked := ← json.memberOr "checked" asBool false }

def serialize (profile : ProfileMeta) : JsonObject :=
  [("id", .string profile.id),
   ("name", .string profile.name),
   ("server", .string profile.server),
   ("networkCode", .string profile.networkCode),
   ("deviceName", .string profile.deviceName),
   ("ctrlPort", .int profile.ctrlPort.toNat),
   ("tunName", .string profile.tunName),
   ("noTun", .bool profile.noTun),
   ("rtx", .bool profile.rtx),
   ("createdAtIso", .string profile.createdAtIso),
   ("checked", .bool profile.checked)]

/-- The characters of the first `bytes` bytes; none if the cut is inside of one. -/
def bytePrefix : Nat → List Char → Option (List Char)
  | 0, _ => some []
  | _ + 1, [] => none
  | bytes + 1, char :: rest =>
      if char.utf8Size ≤ bytes + 1 then
        (bytePrefix (bytes + 1 - char.utf8Size) rest).map (char :: ·)
      else none

/-- None where slicing the id panics. -/
def buildTunName (profileId : String) : Option String :=
  if profileId.utf8ByteSize > 24 then
    (bytePrefix 24 profileId.toList).map fun suffix => "vntc-" ++ String.ofList suffix
  else some ("vntc-" ++ profileId)

def load (json : JsonObject) : Option ProfileMeta := do
  let profile ← deserialize json
  if profile.tunName.isEmpty then
    return { profile with tunName := ← buildTunName profile.id }
  else return profile

def loadProfiles (metas : List JsonObject) : Option (List ProfileMeta) :=
  (metas.mapM load).map
    (List.insertionSort fun first second => first.createdAtIso ≤ second.createdAtIso)

end ProfileMeta

/-- Dart's white space: Unicode's and the byte order mark. -/
def isWhitespace (char : Char) : Bool :=
  (0x9 ≤ char.val && char.val ≤ 0xD) || (0x2000 ≤ char.val && char.val ≤ 0x200A) ||
    [0x20, 0x85, 0xA0, 0x1680, 0x2028, 0x2029, 0x202F, 0x205F, 0x3000, 0xFEFF].contains char.val

def trim (text : String) : String :=
  String.ofList ((text.toList.dropWhile isWhitespace).reverse.dropWhile isWhitespace).reverse

def replaceAll (text : String) (char : Char) (replacement : String) : String :=
  String.ofList (text.toList.flatMap fun next => if next = char then replacement.toList else [next])

def quoteToml (value : String) : String :=
  "\"" ++ replaceAll (replaceAll value '\\' "\\\\") '"' "\\\"" ++ "\""

def quoteTomlList (values : List String) : String :=
  "[" ++ String.intercalate ", " (values.map quoteToml) ++ "]"

def hasText (value : Option String) : Bool := value.any fun text => !(trim text).isEmpty

def trimmed (value : Option String) : String := trim (value.getD "")

abbrev TomlLines := List (String × String)

/-- A line that is written under a condition. -/
def lineIf (condition : Bool) (key value : String) : TomlLines :=
  if condition then [(key, value)] else []

/-- The lines of `vnt.toml`, each a key and the text of its value. -/
def buildToml (profile : VntProfile) : TomlLines :=
  [("config_name", quoteToml profile.name),
   ("server", "[" ++ quoteToml profile.server ++ "]"),
   ("network_code", quoteToml profile.networkCode),
   ("device_id", quoteToml profile.deviceId),
   ("device_name", quoteToml profile.deviceName),
   ("tun_name", quoteToml profile.tunName),
   ("ctrl_port", toString profile.ctrlPort),
   ("no_tun", toString profile.noTun),
   ("rtx", toString profile.rtx),
   ("compress", toString profile.compress),
   ("fec", toString profile.fec),
   ("no_punch", toString profile.noPunch),
   ("no_nat", toString profile.noNat),
   ("allow_mapping", toString profile.allowMapping)] ++
  lineIf (hasText profile.customIp) "ip" (quoteToml (trimmed profile.customIp)) ++
  lineIf (hasText profile.password) "password" (quoteToml (trimmed profile.password)) ++
  lineIf (hasText profile.certMode) "cert_mode" (quoteToml (trimmed profile.certMode)) ++
  lineIf (hasText profile.mtu) "mtu" (trimmed profile.mtu) ++
  lineIf (!profile.inputRoutes.isEmpty) "input" (quoteTomlList profile.inputRoutes) ++
  lineIf (!profile.outputRoutes.isEmpty) "output" (quoteTomlList profile.outputRoutes) ++
  lineIf (!profile.portMappings.isEmpty) "port_mapping" (quoteTomlList profile.portMappings) ++
  lineIf (!profile.udpStunServers.isEmpty) "udp_stun" (quoteTomlList profile.udpStunServers) ++
  lineIf (!profile.tcpStunServers.isEmpty) "tcp_stun" (quoteTomlList profile.tcpStunServers)

inductive ProfileField where
  | id | name | server | networkCode | deviceId | deviceName | ctrlPort | tunName | noTun | rtx
  | customIp | password | certMode | compress | fec | noPunch | noNat | mtu | allowMapping
  | inputRoutes | outputRoutes | portMappings | udpStunServers | tcpStunServers | createdAtIso
  | checked
deriving DecidableEq

namespace ProfileField

/-- Where `meta.json` has the field. -/
def key : ProfileField → String
  | id => "id"
  | name => "name"
  | server => "server"
  | networkCode => "networkCode"
  | deviceId => "deviceId"
  | deviceName => "deviceName"
  | ctrlPort => "ctrlPort"
  | tunName => "tunName"
  | noTun => "noTun"
  | rtx => "rtx"
  | customIp => "customIp"
  | password => "password"
  | certMode => "certMode"
  | compress => "compress"
  | fec => "fec"
  | noPunch => "noPunch"
  | noNat => "noNat"
  | mtu => "mtu"
  | allowMapping => "allowMapping"
  | inputRoutes => "inputRoutes"
  | outputRoutes => "outputRoutes"
  | portMappings => "portMappings"
  | udpStunServers => "udpStunServers"
  | tcpStunServers => "tcpStunServers"
  | createdAtIso => "createdAtIso"
  | checked => "checked"

/-- Where `vnt.toml` has the field, if it does. -/
def tomlKey : ProfileField → Option String
  | id | createdAtIso | checked => none
  | name => some "config_name"
  | server => some "server"
  | networkCode => some "network_code"
  | deviceId => some "device_id"
  | deviceName => some "device_name"
  | ctrlPort => some "ctrl_port"
  | tunName => some "tun_name"
  | noTun => some "no_tun"
  | rtx => some "rtx"
  | customIp => some "ip"
  | password => some "password"
  | certMode => some "cert_mode"
  | compress => some "compress"
  | fec => some "fec"
  | noPunch => some "no_punch"
  | noNat => some "no_nat"
  | mtu => some "mtu"
  | allowMapping => some "allow_mapping"
  | inputRoutes => some "input"
  | outputRoutes => some "output"
  | portMappings => some "port_mapping"
  | udpStunServers => some "udp_stun"
  | tcpStunServers => some "tcp_stun"

def value (profile : VntProfile) : ProfileField → JsonValue
  | id => .string profile.id
  | name => .string profile.name
  | server => .string profile.server
  | networkCode => .string profile.networkCode
  | deviceId => .string profile.deviceId
  | deviceName => .string profile.deviceName
  | ctrlPort => .int profile.ctrlPort
  | tunName => .string profile.tunName
  | noTun => .bool profile.noTun
  | rtx => .bool profile.rtx
  | customIp => .ofText profile.customIp
  | password => .ofText profile.password
  | certMode => .ofText profile.certMode
  | compress => .bool profile.compress
  | fec => .bool profile.fec
  | noPunch => .bool profile.noPunch
  | noNat => .bool profile.noNat
  | mtu => .ofText profile.mtu
  | allowMapping => .bool profile.allowMapping
  | inputRoutes => .strings profile.inputRoutes
  | outputRoutes => .strings profile.outputRoutes
  | portMappings => .strings profile.portMappings
  | udpStunServers => .strings profile.udpStunServers
  | tcpStunServers => .strings profile.tcpStunServers
  | createdAtIso => .string profile.createdAtIso
  | checked => .bool profile.checked

/-- What a field reads as that the manager does not know of and the application does
not make up; none for the others. -/
def blank : ProfileField → Option JsonValue
  | customIp | password | certMode | mtu => some .null
  | compress | fec | noPunch | noNat | allowMapping => some (.bool false)
  | inputRoutes | outputRoutes | portMappings | udpStunServers | tcpStunServers =>
      some (.strings [])
  | _ => none

theorem lookup_toJson (profile : VntProfile) (field : ProfileField) :
    List.lookup field.key profile.toJson = some (field.value profile) := by
  cases field <;> rfl

theorem ofText_inj {first second : Option String} :
    JsonValue.ofText first = .ofText second ↔ first = second := by
  cases first <;> cases second <;> simp [JsonValue.ofText]

theorem lookup_lineIf (condition : Bool) (key value wanted : String) :
    List.lookup wanted (lineIf condition key value) =
      if condition ∧ wanted = key then some value else none := by
  unfold lineIf
  by_cases same : wanted = key <;> cases condition <;> simp [same]

/-- A line of `vnt.toml` tells of its own field alone. -/
theorem lookup_buildToml_congr {first second : VntProfile} {field : ProfileField} {key : String}
    (line : field.tomlKey = some key) (same : field.value first = field.value second) :
    List.lookup key (buildToml first) = List.lookup key (buildToml second) := by
  cases field <;> cases line <;> simp [value, ofText_inj] at same <;>
    simp [buildToml, List.lookup_append, lookup_lineIf, List.lookup, same]

end ProfileField

namespace ProfileMeta

/-- A profile as the manager's answer reads in the application. -/
def shown (toUpperCase : String → String) (now : DateTime) (profile : ProfileMeta) :
    VntProfile where
  id := profile.id
  name := profile.name
  server := profile.server
  networkCode := profile.networkCode
  deviceId := VntProfile.buildDeviceId toUpperCase now profile.id
  deviceName := profile.deviceName
  ctrlPort := profile.ctrlPort.toNat
  tunName := profile.tunName
  noTun := profile.noTun
  rtx := profile.rtx
  customIp := none
  password := none
  certMode := none
  compress := false
  fec := false
  noPunch := false
  noNat := false
  mtu := none
  allowMapping := false
  inputRoutes := []
  outputRoutes := []
  portMappings := []
  udpStunServers := []
  tcpStunServers := []
  createdAtIso := profile.createdAtIso
  checked := profile.checked

theorem fromJson_serialize (toUpperCase : String → String) (now : DateTime)
    (profile : ProfileMeta) :
    VntProfile.fromJson toUpperCase now profile.serialize = some (profile.shown toUpperCase now) :=
  rfl

theorem shown_blank (toUpperCase : String → String) (now : DateTime) (profile : ProfileMeta)
    {field : ProfileField} {value : JsonValue} (blank : field.blank = some value) :
    field.value (profile.shown toUpperCase now) = value := by
  cases field <;> cases blank <;> rfl

def ofProfile (profile : VntProfile) (ctrlPort : UInt16) : ProfileMeta where
  id := profile.id
  name := profile.name
  server := profile.server
  networkCode := profile.networkCode
  deviceName := profile.deviceName
  ctrlPort := ctrlPort
  tunName := profile.tunName
  noTun := profile.noTun
  rtx := profile.rtx
  createdAtIso := profile.createdAtIso
  checked := profile.checked

theorem deserialize_toJson (profile : VntProfile) :
    deserialize profile.toJson =
      (JsonValue.int profile.ctrlPort).asU16.map (ofProfile profile) := by
  have port : ctrlPortMember profile.toJson = (JsonValue.int profile.ctrlPort).asU16 := rfl
  unfold deserialize
  rw [port]
  cases (JsonValue.int profile.ctrlPort).asU16 <;> rfl

theorem load_id {profile : VntProfile} {loaded : ProfileMeta}
    (result : load profile.toJson = some loaded) : loaded.id = profile.id := by
  unfold load at result
  rw [deserialize_toJson] at result
  cases port : (JsonValue.int profile.ctrlPort).asU16 with
  | none =>
      rw [port] at result
      cases result
  | some known =>
      rw [port] at result
      simp only [Option.map_some, Option.bind_eq_bind, Option.bind_some] at result
      split at result
      · obtain ⟨tunName, _, same⟩ := Option.bind_eq_some_iff.mp result
        cases same
        rfl
      · cases result
        rfl

end ProfileMeta
end VntClient
