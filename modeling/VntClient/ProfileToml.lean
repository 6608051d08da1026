import VntClient.Toml
import VntClient.Profiles
import VntClient.ConfigLoaders

/-!
`vnt.toml` from both sides: `repository.dart` writes it from a profile, and
`FileConfig::load` reads it. The writer escapes backslashes and quotes and no other
character.
-/

namespace VntClient

open RustText

/-- The MTU is absent, blank or a decimal number of the size it is for. -/
def VntProfile.DecimalMtu (profile : VntProfile) : Prop :=
  hasText profile.mtu = true →
    ∃ value, parseUnsigned 65536 (trimmed profile.mtu).toList = .ok value

def tomlText (profile : VntProfile) : String :=
  String.intercalate "\n" ((buildToml profile).map fun line => line.1 ++ " = " ++ line.2) ++ "\n"

/-! ### The reader -/

namespace NetInput
-- `Ipv4Net::from_str`
variable (parseNet : List Char → Outcome Ipv4Net)

def fromStr (s : String) : Outcome NetInput :=
  match (s.toList.splitOn ',').map (RustText.trim RustText.isWhitespace) with
  | [net, targetIp] => do
      let net ← (parseNet net).mapErr fun e => s!"网络段格式错误: {e}"
      let targetIp ← okOr "目标 IP 格式错误: invalid IPv4 address syntax"
        (parseIpv4 (String.ofList targetIp))
      .ok ⟨net, targetIp⟩
  | _ => .err "格式错误，应为 net,target_ip  例如: 192.168.0.0/24,10.26.0.2"

end NetInput

def Outcome.toOption {α : Type} : Outcome α → Option α
  | .ok value => some value
  | _ => none

namespace FileConfig
open Toml (Value Document)

def keys : List String :=
  ["server", "network_code", "ip", "no_punch", "rtx", "compress", "fec", "input", "output",
   "no_nat", "no_tun", "mtu", "ctrl_port", "port_mapping", "allow_mapping", "device_id",
   "device_name", "tun_name", "password", "cert_mode", "udp_stun", "tcp_stun"]

def readString : Value → Option String
  | .scalar (.string text) => some text
  | _ => none

def readBool : Value → Option Bool
  | .scalar (.boolean value) => some value
  | _ => none

def readU16 : Value → Option UInt16
  | .scalar (.integer value) =>
      if 0 ≤ value ∧ value < 65536 then some (UInt16.ofNat value.toNat) else none
  | _ => none

def readStrings : Value → Option (List String)
  | .array items => items.mapM fun item => readString (.scalar item)
  | _ => none

/-- An `Option` field: none for an absent key, an error for a value of another type. -/
def field {Read : Type} (document : Document) (key : String) (read : Value → Option Read) :
    Option (Option Read) :=
  (List.lookup key document).elim (some none) fun value => (read value).map some

variable (parseNet : List Char → Outcome Ipv4Net)

def readInputs (value : Value) : Option (List NetInput) :=
  (readStrings value).bind (·.mapM fun s => (NetInput.fromStr parseNet s).toOption)

def readNets (value : Value) : Option (List Ipv4Net) :=
  (readStrings value).bind (·.mapM fun s => (parseNet s.toList).toOption)

def deserialize (document : Document) : Option FileConfig := do
  return {
    server := ← field document "server" readStrings
    networkCode := ← field document "network_code" readString
    ip := ← field document "ip" fun value => (readString value).bind parseIpv4
    noPunch := ← field document "no_punch" readBool
    rtx := ← field document "rtx" readBool
    compress := ← field document "compress" readBool
    fec := ← field document "fec" readBool
    input := ← field document "input" (readInputs parseNet)
    output := ← field document "output" (readNets parseNet)
    noNat := ← field document "no_nat" readBool
    noTun := ← field document "no_tun" readBool
    mtu := ← field document "mtu" readU16
    ctrlPort := ← field document "ctrl_port" readU16
    portMapping := ← field document "port_mapping" readStrings
    allowMapping := ← field document "allow_mapping" readBool
    deviceId := ← field document "device_id" readString
    deviceName := ← field document "device_name" readString
    tunName := ← field document "tun_name" readString
    password := ← field document "password" readString
    certMode := ← field document "cert_mode" readString
    udpStun := ← field document "udp_stun" readStrings
    tcpStun := ← field document "tcp_stun" readStrings }

def load (content : String) : Option FileConfig :=
  (Toml.parse content.toList).toOption.bind (deserialize parseNet)

end FileConfig

/-! ### The writer -/

namespace ProfileField
open Toml (Written Line)

def fileOrder : List (String × ProfileField) :=
  [("config_name", name), ("server", server), ("network_code", networkCode),
   ("device_id", deviceId), ("device_name", deviceName), ("tun_name", tunName),
   ("ctrl_port", ctrlPort), ("no_tun", noTun), ("rtx", rtx), ("compress", compress),
   ("fec", fec), ("no_punch", noPunch), ("no_nat", noNat), ("allow_mapping", allowMapping),
   ("ip", customIp), ("password", password), ("cert_mode", certMode), ("mtu", mtu),
   ("input", inputRoutes), ("output", outputRoutes), ("port_mapping", portMappings),
   ("udp_stun", udpStunServers), ("tcp_stun", tcpStunServers)]

def textWritten (value : Option String) : Option Written :=
  if hasText value then some (.string (trimmed value)) else none

def atomWritten (value : Option String) : Option Written :=
  if hasText value then some (.atom (trimmed value)) else none

def listWritten (items : List String) : Option Written :=
  if items.isEmpty then none else some (.strings items)

def written (profile : VntProfile) : ProfileField → Option Written
  | id | createdAtIso | checked => none
  | name => some (.string profile.name)
  | server => some (.strings [profile.server])
  | networkCode => some (.string profile.networkCode)
  | deviceId => some (.string profile.deviceId)
  | deviceName => some (.string profile.deviceName)
  | tunName => some (.string profile.tunName)
  | ctrlPort => some (.atom (toString profile.ctrlPort))
  | noTun => some (.atom (toString profile.noTun))
  | rtx => some (.atom (toString profile.rtx))
  | compress => some (.atom (toString profile.compress))
  | fec => some (.atom (toString profile.fec))
  | noPunch => some (.atom (toString profile.noPunch))
  | noNat => some (.atom (toString profile.noNat))
  | allowMapping => some (.atom (toString profile.allowMapping))
  | customIp => textWritten profile.customIp
  | password => textWritten profile.password
  | certMode => textWritten profile.certMode
  | mtu => atomWritten profile.mtu
  | inputRoutes => listWritten profile.inputRoutes
  | outputRoutes => listWritten profile.outputRoutes
  | portMappings => listWritten profile.portMappings
  | udpStunServers => listWritten profile.udpStunServers
  | tcpStunServers => listWritten profile.tcpStunServers

def line (profile : VntProfile) (entry : String × ProfileField) : List Line :=
  (entry.2.written profile).toList.map fun written => (entry.1, written)

def lines (profile : VntProfile) : List Line := fileOrder.flatMap (line profile)

theorem toList_quoteToml (value : String) :
    (quoteToml value).toList = Toml.quote value.toList := by
  have once : ∀ char : Char,
      ((if char = '\\' then ['\\', '\\'] else [char]).flatMap fun next =>
        if next = '"' then ['\\', '"'] else [next]) = Toml.escapeChar char := by
    intro char
    by_cases backslash : char = '\\'
    · subst backslash
      rfl
    · by_cases quote : char = '"'
      · subst quote
        rfl
      · simp [Toml.escapeChar, backslash, quote]
  have both : (replaceAll (replaceAll value '\\' "\\\\") '"' "\\\"").toList =
      Toml.escaped value.toList := by
    simp only [replaceAll, String.toList_ofList, List.flatMap_assoc]
    exact List.flatMap_congr fun char _ => once char
  rw [quoteToml, String.toList_append, String.toList_append, both]
  rfl

theorem text_quoteToml (value : String) :
    String.ofList (Written.string value).text = quoteToml value := by
  rw [Written.text, ← toList_quoteToml, String.ofList_toList]

theorem toList_quoteTomlList (values : List String) :
    (quoteTomlList values).toList = (Written.strings values).text := by
  have each : (values.map quoteToml).map String.toList =
      values.map fun text => Toml.quote text.toList := by
    rw [List.map_map]
    exact List.map_congr_left fun value _ => toList_quoteToml value
  rw [quoteTomlList, String.toList_append, String.toList_append, String.toList_intercalate, each]
  rfl

theorem text_quoteTomlList (values : List String) :
    String.ofList (Written.strings values).text = quoteTomlList values := by
  rw [← toList_quoteTomlList, String.ofList_toList]

theorem text_atom (text : String) : String.ofList (Written.atom text).text = text :=
  String.ofList_toList

/-- A line as the writer joins it, of its key and the text of its value. -/
def shown (line : Line) : String × String := (line.1, String.ofList line.2.text)

theorem shown_textWritten (key : String) (value : Option String) :
    ((textWritten value).toList.map fun written => shown (key, written)) =
      lineIf (hasText value) key (quoteToml (trimmed value)) := by
  unfold textWritten lineIf
  split
  · exact congrArg (fun text => [(key, text)]) (text_quoteToml _)
  · rfl

theorem shown_listWritten (key : String) (items : List String) :
    ((listWritten items).toList.map fun written => shown (key, written)) =
      lineIf (!items.isEmpty) key (quoteTomlList items) := by
  unfold listWritten lineIf
  cases items.isEmpty with
  | true => rfl
  | false => exact congrArg (fun text => [(key, text)]) (text_quoteTomlList _)

theorem shown_atomWritten (key : String) (value : Option String) :
    ((atomWritten value).toList.map fun written => shown (key, written)) =
      lineIf (hasText value) key (trimmed value) := by
  unfold atomWritten lineIf
  split
  · exact congrArg (fun text => [(key, text)]) (text_atom _)
  · rfl

theorem shown_string (key value : String) : shown (key, .string value) = (key, quoteToml value) :=
  congrArg (Prod.mk key) (text_quoteToml value)

theorem shown_atom (key text : String) : shown (key, .atom text) = (key, text) :=
  congrArg (Prod.mk key) (text_atom text)

theorem shown_server (profile : VntProfile) :
    shown ("server", .strings [profile.server]) = ("server", "[" ++ quoteToml profile.server ++ "]") :=
  congrArg (Prod.mk "server") (text_quoteTomlList [profile.server])

theorem buildToml_lines (profile : VntProfile) :
    buildToml profile = (lines profile).map shown := by
  have whole : (lines profile).map shown = fileOrder.flatMap fun entry =>
      (entry.2.written profile).toList.map fun written => shown (entry.1, written) := by
    rw [lines, List.map_flatMap]
    simp only [line, List.map_map]
    rfl
  rw [whole]
  simp only [fileOrder, List.flatMap_cons, List.flatMap_nil, written, shown_textWritten,
    shown_listWritten, shown_atomWritten, Option.toList_some, List.map_singleton, shown_server,
    shown_string, shown_atom, buildToml, List.append_assoc, List.cons_append, List.nil_append,
    List.append_nil]

/-- Joined and ended by one separator, texts are each followed by it. -/
theorem intercalate_append {Item : Type} (sep : List Item) {texts : List (List Item)}
    (nonempty : texts ≠ []) :
    sep.intercalate texts ++ sep = texts.flatMap (· ++ sep) := by
  induction texts with
  | nil => exact absurd rfl nonempty
  | cons text texts ih =>
      cases texts with
      | nil => simp
      | cons next texts =>
          rw [List.intercalate_cons_cons, List.append_assoc, ih (List.cons_ne_nil _ _)]
          rfl

theorem toList_tomlText (profile : VntProfile) :
    (tomlText profile).toList = (lines profile).flatMap Line.text := by
  have some : ((lines profile).map fun line =>
      line.1.toList ++ [' ', '=', ' '] ++ line.2.text) ≠ [] := by
    rw [lines, fileOrder, List.flatMap_cons]
    exact List.cons_ne_nil _ _
  have joined : ((buildToml profile).map fun line => line.1 ++ " = " ++ line.2).map String.toList =
      (lines profile).map fun line => line.1.toList ++ [' ', '=', ' '] ++ line.2.text := by
    rw [buildToml_lines, List.map_map, List.map_map]
    apply List.map_congr_left
    intro line _
    simp [shown]
  rw [tomlText, String.toList_append, String.toList_intercalate, joined]
  refine (intercalate_append _ some).trans ?_
  rw [List.flatMap_map]
  apply List.flatMap_congr
  intro line _
  simp [Line.text]

/-! ### What is read back -/

def tomlValue (profile : VntProfile) : ProfileField → Option Toml.Value
  | id | createdAtIso | checked => none
  | name => some (.scalar (.string profile.name))
  | server => some (.array [.string profile.server])
  | networkCode => some (.scalar (.string profile.networkCode))
  | deviceId => some (.scalar (.string profile.deviceId))
  | deviceName => some (.scalar (.string profile.deviceName))
  | tunName => some (.scalar (.string profile.tunName))
  | ctrlPort => some (.scalar (.integer profile.ctrlPort))
  | noTun => some (.scalar (.boolean profile.noTun))
  | rtx => some (.scalar (.boolean profile.rtx))
  | compress => some (.scalar (.boolean profile.compress))
  | fec => some (.scalar (.boolean profile.fec))
  | noPunch => some (.scalar (.boolean profile.noPunch))
  | noNat => some (.scalar (.boolean profile.noNat))
  | allowMapping => some (.scalar (.boolean profile.allowMapping))
  | customIp => textValue profile.customIp
  | password => textValue profile.password
  | certMode => textValue profile.certMode
  | mtu =>
      if hasText profile.mtu then
        (parseUnsigned 65536 (trimmed profile.mtu).toList).toOption.map fun value : Nat =>
          .scalar (.integer value)
      else none
  | inputRoutes => listValue profile.inputRoutes
  | outputRoutes => listValue profile.outputRoutes
  | portMappings => listValue profile.portMappings
  | udpStunServers => listValue profile.udpStunServers
  | tcpStunServers => listValue profile.tcpStunServers
where
  textValue (value : Option String) : Option Toml.Value :=
    if hasText value then some (.scalar (.string (trimmed value))) else none
  listValue (items : List String) : Option Toml.Value :=
    if items.isEmpty then none else some (.array (items.map .string))

def quoted (profile : VntProfile) : ProfileField → List String
  | id | createdAtIso | checked | ctrlPort | noTun | rtx | compress | fec | noPunch | noNat
  | allowMapping | mtu => []
  | name => [profile.name]
  | server => [profile.server]
  | networkCode => [profile.networkCode]
  | deviceId => [profile.deviceId]
  | deviceName => [profile.deviceName]
  | tunName => [profile.tunName]
  | customIp => textQuoted profile.customIp
  | password => textQuoted profile.password
  | certMode => textQuoted profile.certMode
  | inputRoutes => profile.inputRoutes
  | outputRoutes => profile.outputRoutes
  | portMappings => profile.portMappings
  | udpStunServers => profile.udpStunServers
  | tcpStunServers => profile.tcpStunServers
where
  textQuoted (value : Option String) : List String :=
    if hasText value then [trimmed value] else []

def unsigned : List Char → List Char
  | '+' :: digits => digits
  | digits => digits

/-- The digits that are written without quotes. -/
def digits (profile : VntProfile) : ProfileField → List Char
  | mtu => if hasText profile.mtu then unsigned (trimmed profile.mtu).toList else []
  | _ => []

/-- No control character in what is quoted, and no zero in front of other digits. -/
def plain (quoted : List String) (digits : List Char) : Bool :=
  quoted.all (Toml.visible ·.toList) && !Toml.leadingZero digits

theorem plain_textQuoted {value : Option String}
    (shown : Toml.visible (trimmed value).toList = true) :
    plain (quoted.textQuoted value) [] = true := by
  unfold quoted.textQuoted
  split
  · simp [plain, shown, Toml.leadingZero]
  · rfl

def Plain (profile : VntProfile) (field : ProfileField) : Prop :=
  (∀ text ∈ field.quoted profile, ∀ char ∈ text.toList, Toml.control char = false) ∧
    Toml.leadingZero (field.digits profile) = false

theorem plain_iff {profile : VntProfile} {field : ProfileField} :
    plain (field.quoted profile) (field.digits profile) = true ↔ field.Plain profile := by
  simp [plain, Plain, Toml.visible]

/-- What is written is read as the value, or left out with it, if it is plain; it is no TOML
otherwise. -/
inductive Reads : Bool → Option Toml.Value → Option Written → Prop where
  | absent : Reads true none none
  | plain {value : Toml.Value} {written : Written} (read : written.value = .ok value) :
      Reads true (some value) (some written)
  | hidden {value : Option Toml.Value} {written : Written}
      (read : written.value = .error .malformed) : Reads false value (some written)

namespace Reads
variable {plain : Bool} {value : Option Toml.Value} {written : Written}

theorem of_none (reads : Reads plain value none) : plain = true ∧ value = none := by
  cases reads
  exact ⟨rfl, rfl⟩

theorem of_plain (reads : Reads true value (some written)) :
    ∃ found, written.value = .ok found ∧ value = some found := by
  cases reads with
  | plain read => exact ⟨_, read, rfl⟩

theorem of_hidden (reads : Reads false value (some written)) :
    written.value = .error .malformed := by
  cases reads with
  | hidden read => exact read

theorem decided (reads : Reads plain value (some written)) : written.value ≠ .error .beyond := by
  intro beyond
  cases reads with
  | plain read =>
      rw [read] at beyond
      cases beyond
  | hidden read =>
      rw [read] at beyond
      cases beyond

end Reads

theorem reads_atom {text : String} {scalar : Toml.Scalar}
    (read : Toml.atom text.toList = .ok scalar) :
    Reads (plain [] []) (some (.scalar scalar)) (some (.atom text)) := by
  apply Reads.plain
  rw [Written.value, read]
  rfl

theorem reads_strings (texts : List String) :
    Reads (plain texts []) (some (.array (texts.map .string))) (some (.strings texts)) := by
  have same : plain texts [] = texts.all (Toml.visible ·.toList) := Bool.and_true _
  rw [same]
  cases shown : texts.all (Toml.visible ·.toList) with
  | true => exact .plain (if_pos shown)
  | false => exact .hidden (if_neg (Bool.eq_false_iff.mp shown))

theorem reads_string (text : String) :
    Reads (plain [text] []) (some (.scalar (.string text))) (some (.string text)) := by
  have same : plain [text] [] = Toml.visible text.toList := by
    simp [plain, Toml.leadingZero]
  rw [same]
  cases shown : Toml.visible text.toList with
  | true => exact .plain (if_pos shown)
  | false => exact .hidden (if_neg (Bool.eq_false_iff.mp shown))

theorem reads_text (value : Option String) :
    Reads (plain (quoted.textQuoted value) []) (tomlValue.textValue value) (textWritten value) := by
  unfold quoted.textQuoted tomlValue.textValue textWritten
  cases hasText value with
  | true => exact reads_string (trimmed value)
  | false => exact .absent

theorem reads_list (items : List String) :
    Reads (plain items []) (tomlValue.listValue items) (listWritten items) := by
  cases items with
  | nil => exact .absent
  | cons item items => exact reads_strings (item :: items)

theorem unsigned_digits {digits : List Char} (all : ∀ digit ∈ digits, digit.isDigit = true) :
    unsigned digits = digits := by
  cases digits with
  | nil => rfl
  | cons digit rest =>
      have isDigit := all digit List.mem_cons_self
      unfold unsigned
      split
      · rename_i same
        cases same
        exact absurd isDigit (by decide)
      · rfl

/-- A number that is read as such is one to TOML too, unless it begins with a zero. -/
theorem atom_of_parseUnsigned {bound value : Nat} {text : List Char}
    (read : parseUnsigned bound text = .ok value) :
    Toml.atom text = if Toml.leadingZero (unsigned text) then .error .malformed
      else .ok (.integer value) := by
  obtain ⟨digits, shape, nonempty, all, same, _⟩ := digits_of_parseUnsigned read
  have decimal : Toml.integer text = (Toml.decimal digits).map Int.ofNat := by
    rcases shape with rfl | rfl
    · exact Toml.integer_digits nonempty all
    · rfl
  have tail : unsigned text = digits := by
    rcases shape with rfl | rfl
    · exact unsigned_digits all
    · rfl
  rw [Toml.decimal_digits nonempty all] at decimal
  rw [tail]
  cases zero : Toml.leadingZero digits with
  | false =>
      rw [zero] at decimal
      rw [Toml.atom_eq_integer (by simp [decimal, Except.map]), decimal, ← same]
      rfl
  | true =>
      rw [zero] at decimal
      rw [Toml.atom_eq_integer (by simp [decimal, Except.map]), decimal]
      rfl

theorem reads_mtu {profile : VntProfile} (decimal : profile.DecimalMtu) :
    Reads (plain [] (mtu.digits profile)) (mtu.tomlValue profile) (mtu.written profile) := by
  simp only [digits, tomlValue, written, atomWritten]
  cases present : hasText profile.mtu with
  | false => exact .absent
  | true =>
      obtain ⟨value, parsed⟩ := decimal present
      have read := atom_of_parseUnsigned parsed
      simp only [if_true, parsed, Except.toOption, plain, List.all_nil, Bool.true_and]
      cases zero : Toml.leadingZero (unsigned (trimmed profile.mtu).toList) with
      | false =>
          apply Reads.plain
          rw [Written.value, read, zero]
          rfl
      | true =>
          apply Reads.hidden
          rw [Written.value, read, zero]
          rfl

theorem reads_field {profile : VntProfile} (decimal : profile.DecimalMtu) (field : ProfileField) :
    Reads (plain (field.quoted profile) (field.digits profile)) (field.tomlValue profile)
      (field.written profile) := by
  cases field
  case id | createdAtIso | checked => exact .absent
  case name | networkCode | deviceId | deviceName | tunName => exact reads_string _
  case server => exact reads_strings [profile.server]
  case ctrlPort => exact reads_atom (Toml.atom_toString_int _)
  case noTun | rtx | compress | fec | noPunch | noNat | allowMapping =>
    exact reads_atom (Toml.atom_toString_bool _)
  case customIp | password | certMode => exact reads_text _
  case mtu => exact reads_mtu decimal
  case inputRoutes | outputRoutes | portMappings | udpStunServers | tcpStunServers =>
    exact reads_list _

theorem bareChar_of_isDigit {char : Char} (isDigit : char.isDigit = true) :
    Toml.bareChar char = true := by
  apply Toml.bareChar_of_keyChar
  simp [Toml.keyChar, Char.isAlphanum, isDigit]

theorem bare_digits {digits : List Char} (nonempty : digits ≠ [])
    (all : ∀ digit ∈ digits, digit.isDigit = true) (sign : List Char)
    (bare : sign.all Toml.bareChar = true) {text : String} (same : text.toList = sign ++ digits) :
    (Written.atom text).Bare := by
  rw [Written.Bare, same]
  refine ⟨by simp [nonempty], fun char member => ?_⟩
  rcases List.mem_append.mp member with front | digit
  · exact List.all_eq_true.mp bare char front
  · exact bareChar_of_isDigit (all char digit)

theorem bare_int (value : Int) : (Written.atom (toString value)).Bare := by
  cases value with
  | ofNat number =>
      exact bare_digits Nat.toDigits_ne_nil (Toml.isDigit_toDigits number) [] rfl Nat.toList_repr
  | negSucc number =>
      apply bare_digits Nat.toDigits_ne_nil (Toml.isDigit_toDigits (number + 1)) ['-'] (by decide)
      rw [← Nat.toList_repr]
      exact String.toList_append

theorem bare_mtu {profile : VntProfile} (decimal : profile.DecimalMtu) :
    ∀ written ∈ atomWritten profile.mtu, written.Bare := by
  intro written here
  rw [Option.mem_def, atomWritten] at here
  split at here
  · rename_i present
    cases here
    obtain ⟨value, parsed⟩ := decimal present
    obtain ⟨digits, shape, nonempty, all, _, _⟩ := digits_of_parseUnsigned parsed
    rcases shape with same | same
    · exact bare_digits nonempty all [] rfl same
    · exact bare_digits nonempty all ['+'] (by decide) same
  · cases here

theorem bare_written {profile : VntProfile} (decimal : profile.DecimalMtu) (field : ProfileField) :
    ∀ written ∈ field.written profile, written.Bare := by
  have text : ∀ value : Option String, ∀ written ∈ textWritten value, written.Bare := by
    intro value written here
    rw [Option.mem_def, textWritten] at here
    split at here <;> cases here
    trivial
  have list : ∀ items : List String, ∀ written ∈ listWritten items, written.Bare := by
    intro items written here
    rw [Option.mem_def, listWritten] at here
    split at here <;> cases here
    trivial
  have bool : ∀ value : Bool, (Written.atom (toString value)).Bare := by
    intro value
    cases value with
    | false => exact ⟨by decide, List.all_eq_true.mp (by decide)⟩
    | true => exact ⟨by decide, List.all_eq_true.mp (by decide)⟩
  intro written here
  cases field
  case id | createdAtIso | checked => cases here
  case name | networkCode | deviceId | deviceName | tunName | server => cases here; trivial
  case ctrlPort => cases here; exact bare_int _
  case noTun | rtx | compress | fec | noPunch | noNat | allowMapping => cases here; exact bool _
  case customIp | password | certMode => exact text _ written here
  case mtu => exact bare_mtu decimal written here
  case inputRoutes | outputRoutes | portMappings | udpStunServers | tcpStunServers =>
    exact list _ written here

theorem keys_sublist (profile : VntProfile) (table : List (String × ProfileField)) :
    ((table.flatMap (line profile)).map Prod.fst).Sublist (table.map Prod.fst) := by
  induction table with
  | nil => exact List.Sublist.slnil
  | cons entry table ih =>
      rw [List.flatMap_cons, List.map_append, List.map_cons, line]
      cases entry.2.written profile with
      | none => exact ih.cons _
      | some written => exact ih.cons_cons _

theorem lookup_lines (profile : VntProfile) {table : List (String × ProfileField)}
    (distinct : (table.map Prod.fst).Nodup) {key : String} {field : ProfileField}
    (member : (key, field) ∈ table) :
    List.lookup key (table.flatMap (line profile)) = field.written profile := by
  induction table with
  | nil => cases member
  | cons entry table ih =>
      obtain ⟨first, here⟩ := entry
      rw [List.map_cons, List.nodup_cons] at distinct
      rw [List.flatMap_cons, List.lookup_append]
      rcases List.mem_cons.mp member with same | later
      · cases same
        have absent : List.lookup key (table.flatMap (line profile)) = none := by
          rw [List.lookup_eq_none_iff]
          intro written listed
          rw [bne_iff_ne]
          rintro rfl
          exact distinct.1 ((keys_sublist profile table).subset (List.mem_map_of_mem listed))
        rw [absent, line]
        cases field.written profile with
        | none => rfl
        | some written => simp
      · have other : (key == first) = false := by
          rw [beq_eq_false_iff_ne]
          rintro rfl
          exact distinct.1 (List.mem_map.mpr ⟨_, later, rfl⟩)
        rw [ih distinct.2 later, line]
        cases here.written profile with
        | none => rfl
        | some written => simp [List.lookup, other]

theorem mem_lines {profile : VntProfile} {written : Line} :
    written ∈ lines profile ↔ ∃ field, (written.1, field) ∈ fileOrder ∧
      field.written profile = some written.2 := by
  simp only [lines, line, List.mem_flatMap, List.mem_map, Option.mem_toList]
  constructor
  · rintro ⟨⟨key, field⟩, listed, found, here, rfl⟩
    exact ⟨field, listed, here⟩
  · rintro ⟨field, listed, here⟩
    exact ⟨(written.1, field), listed, written.2, here, rfl⟩

/-- The fields without a key are never written. -/
theorem listed_of_written {profile : VntProfile} {field : ProfileField} {written : Written}
    (here : field.written profile = some written) : ∃ key, (key, field) ∈ fileOrder := by
  have listed : field ∈ fileOrder.map Prod.snd ∨ field ∈ [id, createdAtIso, checked] := by
    cases field <;> decide
  rcases listed with listed | unlisted
  · obtain ⟨⟨key, _⟩, member, rfl⟩ := List.mem_map.mp listed
    exact ⟨key, member⟩
  · simp only [List.mem_cons, List.not_mem_nil, or_false] at unlisted
    rcases unlisted with rfl | rfl | rfl <;> cases here

theorem distinct_fileOrder : (fileOrder.map Prod.fst).Nodup := by decide

theorem bare_lines {profile : VntProfile} (decimal : profile.DecimalMtu) :
    ∀ line ∈ lines profile, line.Bare := by
  have keys : fileOrder.all (fun entry =>
      !entry.1.toList.isEmpty && entry.1.toList.all Toml.keyChar) = true := by decide
  intro line member
  obtain ⟨field, listed, here⟩ := mem_lines.mp member
  have key := List.all_eq_true.mp keys _ listed
  rw [Bool.and_eq_true, Bool.not_eq_true', List.isEmpty_eq_false_iff] at key
  exact ⟨key.1, List.all_eq_true.mp key.2, bare_written decimal field _ here⟩

theorem entry_decided {profile : VntProfile} (decimal : profile.DecimalMtu) :
    ∀ line ∈ lines profile, line.entry ≠ .error .beyond := by
  intro line member beyond
  obtain ⟨field, _, here⟩ := mem_lines.mp member
  have reads := reads_field decimal field
  rw [here] at reads
  apply reads.decided
  rw [Line.entry] at beyond
  cases read : line.2.value with
  | ok value =>
      rw [read] at beyond
      cases beyond
  | error fault =>
      rw [read] at beyond
      cases beyond
      rfl

theorem parse_tomlText {profile : VntProfile} (decimal : profile.DecimalMtu) :
    Toml.parse (tomlText profile).toList = (lines profile).mapM Line.entry := by
  rw [toList_tomlText]
  exact Toml.parse_lines (bare_lines decimal)
    ((keys_sublist profile fileOrder).nodup distinct_fileOrder) (entry_decided decimal)

theorem parse_plain {profile : VntProfile} (decimal : profile.DecimalMtu)
    (plain : ∀ field : ProfileField, field.Plain profile) :
    ∃ document, Toml.parse (tomlText profile).toList = .ok document ∧
      ∀ key field, (key, field) ∈ fileOrder →
        List.lookup key document = field.tomlValue profile := by
  have reads := fun field => reads_field decimal field
  simp only [plain_iff.mpr (plain _)] at reads
  have values : ∀ line ∈ lines profile, ∃ value, line.2.value = .ok value := by
    intro line member
    obtain ⟨field, _, here⟩ := mem_lines.mp member
    have read := reads field
    rw [here] at read
    obtain ⟨value, found, _⟩ := read.of_plain
    exact ⟨value, found⟩
  obtain ⟨document, parsed⟩ := Toml.entries_of_values values
  refine ⟨document, (parse_tomlText decimal).trans parsed, fun key field listed => ?_⟩
  rw [Toml.lookup_entries parsed, lines, lookup_lines profile distinct_fileOrder listed]
  have read := reads field
  cases here : field.written profile with
  | none =>
      rw [here] at read
      exact read.of_none.2.symm
  | some written =>
      rw [here] at read
      obtain ⟨value, found, same⟩ := read.of_plain
      rw [Option.bind_some, found, same]
      rfl

theorem parse_not_plain {profile : VntProfile} (decimal : profile.DecimalMtu) {field : ProfileField}
    (hidden : ¬field.Plain profile) :
    Toml.parse (tomlText profile).toList = .error .malformed := by
  have reads := reads_field decimal field
  rw [Bool.eq_false_iff.mpr (mt plain_iff.mp hidden)] at reads
  cases here : field.written profile with
  | none =>
      rw [here] at reads
      cases reads.of_none.1
  | some written =>
      rw [here] at reads
      obtain ⟨key, listed⟩ := listed_of_written here
      have member : (key, written) ∈ lines profile := mem_lines.mpr ⟨field, listed, here⟩
      have faulty : Line.entry (key, written) = .error .malformed := by
        rw [Line.entry, reads.of_hidden]
        rfl
      rw [parse_tomlText decimal]
      exact Toml.mapM_malformed (entry_decided decimal) ⟨_, member, faulty⟩

end ProfileField

namespace FileConfig
variable (parseNet : List Char → Outcome Ipv4Net)

/-- A field that is there under a condition, and then has to be read. -/
def fieldIf {Read : Type} (present : Bool) (read : Option Read) : Option (Option Read) :=
  if present then read.map some else some none

/-- The configuration a profile is written for, if its addresses, networks and numbers are
such. -/
def ofProfile (profile : VntProfile) : Option FileConfig := do
  let ip ← fieldIf (hasText profile.customIp) (parseIpv4 (trimmed profile.customIp))
  let input ← fieldIf (!profile.inputRoutes.isEmpty)
    (profile.inputRoutes.mapM fun s => (NetInput.fromStr parseNet s).toOption)
  let output ← fieldIf (!profile.outputRoutes.isEmpty)
    (profile.outputRoutes.mapM fun s => (parseNet s.toList).toOption)
  let mtu ← fieldIf (hasText profile.mtu)
    ((parseUnsigned 65536 (trimmed profile.mtu).toList).toOption.map UInt16.ofNat)
  let ctrlPort ← fieldIf true (if 0 ≤ profile.ctrlPort ∧ profile.ctrlPort < 65536 then
    some (UInt16.ofNat profile.ctrlPort.toNat) else none)
  return {
    server := some [profile.server]
    networkCode := some profile.networkCode
    ip
    noPunch := some profile.noPunch
    rtx := some profile.rtx
    compress := some profile.compress
    fec := some profile.fec
    input
    output
    noNat := some profile.noNat
    noTun := some profile.noTun
    mtu
    ctrlPort
    portMapping := listIf profile.portMappings
    allowMapping := some profile.allowMapping
    deviceId := some profile.deviceId
    deviceName := some profile.deviceName
    tunName := some profile.tunName
    password := textIf profile.password
    certMode := textIf profile.certMode
    udpStun := listIf profile.udpStunServers
    tcpStun := listIf profile.tcpStunServers }
where
  textIf (value : Option String) : Option String :=
    if hasText value then some (trimmed value) else none
  listIf (items : List String) : Option (List String) :=
    if items.isEmpty then none else some items

open ProfileField (fileOrder tomlValue tomlValue.textValue tomlValue.listValue)

theorem readString_string (text : String) : readString (.scalar (.string text)) = some text := rfl

theorem readBool_boolean (value : Bool) : readBool (.scalar (.boolean value)) = some value := rfl

theorem fieldIf_integer (value : Int) :
    (readU16 (.scalar (.integer value))).map some = fieldIf true
      (if 0 ≤ value ∧ value < 65536 then some (UInt16.ofNat value.toNat) else none) := rfl

theorem readStrings_strings (items : List String) :
    readStrings (.array (items.map .string)) = some items := by
  rw [readStrings, List.mapM_map]
  induction items with
  | nil => rfl
  | cons item items ih =>
      rw [List.mapM_cons, ih]
      rfl

theorem field_text {Read : Type} (value : Option String) (read : String → Option Read) :
    ((tomlValue.textValue value).elim (some none) fun found =>
      ((readString found).bind read).map some) = fieldIf (hasText value) (read (trimmed value)) := by
  unfold tomlValue.textValue fieldIf
  cases hasText value <;> rfl

theorem field_list {Read : Type} (items : List String) (read : List String → Option Read) :
    ((tomlValue.listValue items).elim (some none) fun found =>
      ((readStrings found).bind read).map some) = fieldIf (!items.isEmpty) (read items) := by
  unfold tomlValue.listValue fieldIf
  cases items.isEmpty with
  | true => rfl
  | false =>
      simp only [Bool.false_eq_true, if_false, Option.elim_some, readStrings_strings]
      rfl

theorem field_textIf (value : Option String) :
    ((tomlValue.textValue value).elim (some none) fun found => (readString found).map some) =
      some (ofProfile.textIf value) := by
  unfold tomlValue.textValue ofProfile.textIf
  cases hasText value <;> rfl

theorem field_listIf (items : List String) :
    ((tomlValue.listValue items).elim (some none) fun found => (readStrings found).map some) =
      some (ofProfile.listIf items) := by
  unfold tomlValue.listValue ofProfile.listIf
  cases items.isEmpty with
  | true => rfl
  | false =>
      simp only [Bool.false_eq_true, if_false, Option.elim_some, readStrings_strings]
      rfl

theorem readU16_natCast {value : Nat} (small : value < 65536) :
    readU16 (.scalar (.integer value)) = some (UInt16.ofNat value) := by
  have fits : (0 : Int) ≤ value ∧ (value : Int) < 65536 := by omega
  rw [readU16, if_pos fits, Int.toNat_natCast]

theorem field_mtu {profile : VntProfile} (decimal : profile.DecimalMtu) :
    ((tomlValue profile .mtu).elim (some none) fun found => (readU16 found).map some) =
      fieldIf (hasText profile.mtu)
        ((parseUnsigned 65536 (trimmed profile.mtu).toList).toOption.map UInt16.ofNat) := by
  simp only [tomlValue, fieldIf]
  cases present : hasText profile.mtu with
  | false => simp only [Bool.false_eq_true, if_false, Option.elim_none]
  | true =>
      obtain ⟨value, parsed⟩ := decimal present
      have small : value < 65536 := by
        obtain ⟨_, _, _, _, _, small⟩ := digits_of_parseUnsigned parsed
        exact small
      have read : (parseUnsigned 65536 (trimmed profile.mtu).toList).toOption = some value := by
        rw [parsed]
        rfl
      rw [if_pos rfl, if_pos rfl, read, Option.map_some, Option.map_some, Option.elim_some,
        readU16_natCast small]

theorem deserialize_of_lookups {profile : VntProfile} (decimal : profile.DecimalMtu)
    {document : Toml.Document} (same : ∀ key field, (key, field) ∈ fileOrder →
      List.lookup key document = tomlValue profile field) :
    deserialize parseNet document = ofProfile parseNet profile := by
  have read : ∀ {Read : Type} key field (read : Toml.Value → Option Read), (key, field) ∈ fileOrder →
      FileConfig.field document key read =
        (tomlValue profile field).elim (some none) fun value => (read value).map some := by
    intro Read key field read listed
    rw [FileConfig.field, same key field listed]
  unfold deserialize
  rw [read "server" .server _ (by decide), read "network_code" .networkCode _ (by decide),
    read "ip" .customIp _ (by decide), read "no_punch" .noPunch _ (by decide),
    read "rtx" .rtx _ (by decide), read "compress" .compress _ (by decide),
    read "fec" .fec _ (by decide), read "input" .inputRoutes _ (by decide),
    read "output" .outputRoutes _ (by decide), read "no_nat" .noNat _ (by decide),
    read "no_tun" .noTun _ (by decide), read "mtu" .mtu _ (by decide),
    read "ctrl_port" .ctrlPort _ (by decide), read "port_mapping" .portMappings _ (by decide),
    read "allow_mapping" .allowMapping _ (by decide), read "device_id" .deviceId _ (by decide),
    read "device_name" .deviceName _ (by decide), read "tun_name" .tunName _ (by decide),
    read "password" .password _ (by decide), read "cert_mode" .certMode _ (by decide),
    read "udp_stun" .udpStunServers _ (by decide), read "tcp_stun" .tcpStunServers _ (by decide)]
  rw [field_mtu decimal]
  have servers : readStrings (.array [.string profile.server]) = some [profile.server] :=
    readStrings_strings [profile.server]
  simp only [tomlValue, readInputs, readNets, field_text, field_list, field_textIf, field_listIf,
    servers, readString_string, readBool_boolean, fieldIf_integer, Option.elim_some,
    Option.map_some, Option.bind_eq_bind, Option.bind_some]
  simp only [ofProfile, Option.bind_eq_bind]

end FileConfig

/-- The text is TOML, and every key of the configuration has the value of its field. -/
def Means (profile : VntProfile) (content : String) : Prop :=
  ∃ document, Toml.parse content.toList = .ok document ∧
    ∀ key ∈ FileConfig.keys, ∃ field : ProfileField, field.tomlKey = some key ∧
      List.lookup key document = field.tomlValue profile

theorem exists_field {key : String} (listed : key ∈ FileConfig.keys) :
    ∃ field : ProfileField, (key, field) ∈ ProfileField.fileOrder ∧ field.tomlKey = some key := by
  have found : FileConfig.keys.all (fun key => ProfileField.fileOrder.any fun entry =>
      entry.1 = key && entry.2.tomlKey = some key) = true := by decide
  obtain ⟨⟨_, field⟩, member, same⟩ := List.any_eq_true.mp (List.all_eq_true.mp found key listed)
  rw [Bool.and_eq_true, decide_eq_true_eq, decide_eq_true_eq] at same
  obtain ⟨rfl, named⟩ := same
  exact ⟨field, member, named⟩

/-- The file means the profile exactly if no quoted text holds a control character and the
MTU has no leading zero. Then it is also loaded as the configuration the profile is for;
otherwise it is no TOML. -/
theorem tomlText_means (parseNet : List Char → Outcome Ipv4Net) (profile : VntProfile)
    (decimal : profile.DecimalMtu) :
    (Means profile (tomlText profile) ↔ ∀ field : ProfileField, field.Plain profile) ∧
      ((∀ field : ProfileField, field.Plain profile) →
        FileConfig.load parseNet (tomlText profile) = FileConfig.ofProfile parseNet profile) ∧
      ((¬∀ field : ProfileField, field.Plain profile) →
        Toml.parse (tomlText profile).toList = .error .malformed ∧
          FileConfig.load parseNet (tomlText profile) = none) := by
  have unread : (¬∀ field : ProfileField, field.Plain profile) →
      Toml.parse (tomlText profile).toList = .error .malformed := by
    intro hidden
    obtain ⟨field, hidden⟩ := not_forall.mp hidden
    exact ProfileField.parse_not_plain decimal hidden
  refine ⟨⟨?_, ?_⟩, ?_, ?_⟩
  · rintro ⟨document, parsed, _⟩
    by_contra hidden
    rw [unread hidden] at parsed
    cases parsed
  · intro plain
    obtain ⟨document, parsed, values⟩ := ProfileField.parse_plain decimal plain
    refine ⟨document, parsed, fun key listed => ?_⟩
    obtain ⟨field, member, named⟩ := exists_field listed
    exact ⟨field, named, values key field member⟩
  · intro plain
    obtain ⟨document, parsed, values⟩ := ProfileField.parse_plain decimal plain
    rw [FileConfig.load, parsed]
    exact FileConfig.deserialize_of_lookups parseNet decimal values
  · intro hidden
    refine ⟨unread hidden, ?_⟩
    rw [FileConfig.load, unread hidden]
    rfl

def homeProfile : VntProfile where
  id := "home"
  name := "Zuhause \"A\\B\""
  server := "quic://vnt.example.com:29872"
  networkCode := "home"
  deviceId := "VNTC-HOME-1"
  deviceName := "desk"
  ctrlPort := 11233
  tunName := "vntc-home"
  noTun := false
  rtx := true
  customIp := some " 10.26.0.2 "
  password := some ""
  certMode := none
  compress := false
  fec := false
  noPunch := false
  noNat := false
  mtu := some "1400"
  allowMapping := false
  inputRoutes := []
  outputRoutes := []
  portMappings := ["tcp://0.0.0.0:80-10.26.0.3-127.0.0.1:80", "udp://[::]:53-10.26.0.3-dns:53"]
  udpStunServers := []
  tcpStunServers := []
  createdAtIso := "2024-01-01T00:00:00.000"
  checked := false

theorem homeProfile_digits : (trimmed homeProfile.mtu).toList = ['1', '4', '0', '0'] :=
  String.toList_ofList

theorem homeProfile_address : (trimmed homeProfile.customIp).toList = "10.26.0.2".toList :=
  String.toList_ofList

theorem homeProfile_password : (trimmed homeProfile.password).toList = [] := String.toList_ofList

theorem homeProfile_mtu : parseUnsigned 65536 (trimmed homeProfile.mtu).toList = .ok 1400 := by
  rw [homeProfile_digits]
  rfl

theorem homeProfile_means : Means homeProfile (tomlText homeProfile) := by
  apply (tomlText_means (fun _ => .err "invalid IP address syntax") homeProfile
    fun _ => ⟨1400, homeProfile_mtu⟩).1.mpr
  intro field
  rw [← ProfileField.plain_iff]
  cases field
  case mtu =>
    rw [ProfileField.digits, homeProfile_digits]
    split <;> rfl
  case customIp =>
    apply ProfileField.plain_textQuoted
    rw [homeProfile_address]
    rfl
  case password =>
    apply ProfileField.plain_textQuoted
    rw [homeProfile_password]
    rfl
  all_goals decide +kernel

theorem lineBreak_unreadable :
    ¬∀ profile : VntProfile, profile.DecimalMtu → Means profile (tomlText profile) := by
  intro means
  let profile : VntProfile := { homeProfile with name := "home\nnet" }
  have decimal : profile.DecimalMtu := fun _ => ⟨1400, homeProfile_mtu⟩
  obtain ⟨document, parsed, _⟩ := means profile decimal
  have hidden : ¬ProfileField.name.Plain profile := by
    intro plain
    have allowed := plain.1 "home\nnet" (by decide) '\n' (by decide)
    cases allowed
  rw [ProfileField.parse_not_plain decimal hidden] at parsed
  cases parsed

end VntClient
