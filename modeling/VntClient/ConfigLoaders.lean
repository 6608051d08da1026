import VntClient.Addresses
import VntClient.Outbound

/-!
The three ways from a configuration to `Config`: `args_config.rs` loads a file, alone or under
the arguments of the command line, and `service_http.rs` what the web page sends. Each has its
own translation of the same fields.
-/

namespace VntClient

open RustText

def Outcome.mapErr {α : Type} (change : String → String) : Outcome α → Outcome α
  | .ok value => .ok value
  | .err message => .err (change message)
  | .panic => .panic

inductive CertValidationMode
  | insecureSkipVerification
  | verifyFingerprint (fingerprint : { bytes : Bytes // bytes.length = 32 })
  | standard
deriving DecidableEq

namespace CertValidationMode
-- `hex::decode`
variable (mapping : CaseMapping) (decodeHex : List Char → Outcome Bytes)

def fingerprint (hexStr : List Char) : Outcome CertValidationMode := do
  let decoded ← (decodeHex hexStr).mapErr fun e => s!"Invalid hex in fingerprint: {e}"
  if size : decoded.length = 32 then .ok (.verifyFingerprint ⟨decoded, size⟩)
  else .err s!"Fingerprint must be 32 bytes (64 hex chars), got {decoded.length} bytes"

def fromStr (value : String) : Outcome CertValidationMode :=
  let val := mapping.toLowercase (RustText.trim RustText.isWhitespace value.toList)
  if val = "skip".toList then .ok .insecureSkipVerification
  else if val = "standard".toList then .ok .standard
  else
    match val.dropPrefix? "finger:".toList with
    | some hexStr => fingerprint decodeHex hexStr
    | none => .err s!"Unknown certificate validation mode: {value}"

end CertValidationMode

structure CoreConfig (SocketAddr : Type) where
  serverAddr : List ProtocolAddress
  certMode : CertValidationMode
  networkCode : String
  deviceId : String
  deviceName : String
  tunName : Option String
  ip : Option Ipv4Addr
  password : Option String
  noPunch : Bool
  compress : Bool
  rtx : Bool
  fec : Bool
  input : List NetInput
  output : List Ipv4Net
  noNat : Bool
  noTun : Bool
  mtu : Option UInt16
  portMapping : List (PortMapping SocketAddr)
  allowPortMapping : Bool
  udpStun : List String
  tcpStun : List String
deriving DecidableEq

structure CtrlConfig where
  ctrlPort : Option UInt16

structure FileConfig where
  server : Option (List String)
  networkCode : Option String
  ip : Option Ipv4Addr
  noPunch : Option Bool
  rtx : Option Bool
  compress : Option Bool
  fec : Option Bool
  input : Option (List NetInput)
  output : Option (List Ipv4Net)
  noNat : Option Bool
  noTun : Option Bool
  mtu : Option UInt16
  ctrlPort : Option UInt16
  portMapping : Option (List String)
  allowMapping : Option Bool
  deviceId : Option String
  deviceName : Option String
  tunName : Option String
  password : Option String
  certMode : Option String
  udpStun : Option (List String)
  tcpStun : Option (List String)

/-- The command line, which has none of it when it is empty. -/
structure Args (SocketAddr : Type) where
  server : List ProtocolAddress := []
  networkCode : Option String := none
  ip : Option Ipv4Addr := none
  password : Option String := none
  rtx : Bool := false
  compress : Bool := false
  fec : Bool := false
  input : List NetInput := []
  output : List Ipv4Net := []
  deviceName : Option String := none
  deviceId : Option String := none
  noPunch : Bool := false
  certMode : Option CertValidationMode := none
  tunName : Option String := none
  noNat : Bool := false
  noTun : Bool := false
  portMapping : List (PortMapping SocketAddr) := []
  allowMapping : Bool := false
  mtu : Option UInt16 := none
  ctrlPort : Option UInt16 := none

structure StartConfig where
  server : List String
  certMode : Option String
  networkCode : String
  deviceId : Option String
  deviceName : Option String
  tunName : Option String
  ip : Option Ipv4Addr
  password : Option String
  noPunch : Bool
  compress : Bool
  rtx : Bool
  fec : Bool
  input : List NetInput
  output : List Ipv4Net
  noNat : Bool
  noTun : Bool
  mtu : Option UInt16
  portMapping : List String
  allowMapping : Bool
  udpStun : List String
  tcpStun : List String

def withStunPort (x : String) : String := if ':' ∈ x.toList then x else x ++ ":3478"

def parseAll {α : Type} (parse : String → Outcome α) (label : String) :
    List String → Outcome (List α)
  | [] => .ok []
  | x :: rest => do
      let first ← (parse x).mapErr fun e => s!"{label} '{x}': {e}"
      let others ← parseAll parse label rest
      .ok (first :: others)

def deviceIdOr (configured : Option String) (getDeviceId : Outcome String) : Outcome String :=
  match configured with
  | some id => .ok id
  | none => getDeviceId

structure LoadEnv (SocketAddr : Type) where
  mapping : CaseMapping
  parseSocketAddr : String → Option SocketAddr
  decodeHex : List Char → Outcome Bytes
  getDeviceId : Outcome String
  defaultHostname : String

namespace LoadEnv
variable {SocketAddr : Type} (env : LoadEnv SocketAddr)

def parseServerAddr (x : String) : Outcome ProtocolAddress := ProtocolAddress.fromStr env.mapping x

def parsePortMapping (x : String) : Outcome (PortMapping SocketAddr) :=
  PortMapping.fromStr env.parseSocketAddr x

def parseCertMode (s : String) : Outcome CertValidationMode :=
  CertValidationMode.fromStr env.mapping env.decodeHex s

def toServerAddr (file : FileConfig) : Outcome (List ProtocolAddress) :=
  match file.server with
  | some serverRaw => parseAll env.parseServerAddr "invalid server address" serverRaw
  | none => .ok []

def toPortMapping (file : FileConfig) : Outcome (List (PortMapping SocketAddr)) :=
  match file.portMapping with
  | some portMappingRaw => parseAll env.parsePortMapping "invalid port_mapping" portMappingRaw
  | none => .ok []

/-- `.and_then(|s| s.parse().ok())`: a text that does not parse is none. -/
def fileCertMode (file : FileConfig) : Option CertValidationMode :=
  file.certMode.bind fun s =>
    match env.parseCertMode s with
    | .ok mode => some mode
    | _ => none

def buildFromFileOnly (file : FileConfig) : Outcome (CoreConfig SocketAddr × CtrlConfig) := do
  let serverAddr ← env.toServerAddr file
  let portMapping ← env.toPortMapping file
  let certMode := (env.fileCertMode file).getD .insecureSkipVerification
  let deviceId ← deviceIdOr file.deviceId env.getDeviceId
  let udpStun := (file.udpStun.getD []).map withStunPort
  let tcpStun := (file.tcpStun.getD []).map withStunPort
  let networkCode ← okOr "network_code is required" file.networkCode
  .ok ({ serverAddr
         networkCode
         ip := file.ip
         noPunch := file.noPunch.getD false
         rtx := file.rtx.getD false
         input := file.input.getD []
         compress := file.compress.getD false
         fec := file.fec.getD false
         deviceId
         deviceName := file.deviceName.getD env.defaultHostname
         tunName := file.tunName
         password := file.password
         certMode
         output := file.output.getD []
         noNat := file.noNat.getD false
         noTun := file.noTun.getD false
         mtu := file.mtu
         portMapping
         allowPortMapping := file.allowMapping.getD false
         udpStun
         tcpStun },
    { ctrlPort := file.ctrlPort })

def buildFromArgsAndFile (args : Args SocketAddr) (file : FileConfig) :
    Outcome (CoreConfig SocketAddr × CtrlConfig) := do
  let serverAddr ← if args.server.isEmpty then env.toServerAddr file else .ok args.server
  let portMapping ←
    if args.portMapping.isEmpty then env.toPortMapping file else .ok args.portMapping
  let networkCode ← okOr "network_code is required" (args.networkCode.or file.networkCode)
  let certMode := (args.certMode.or (env.fileCertMode file)).getD .insecureSkipVerification
  let deviceId ← deviceIdOr (args.deviceId.or file.deviceId) env.getDeviceId
  let input := if args.input.isEmpty then file.input.getD [] else args.input
  let output := if args.output.isEmpty then file.output.getD [] else args.output
  let udpStun := (file.udpStun.getD []).map withStunPort
  let tcpStun := (file.tcpStun.getD []).map withStunPort
  .ok ({ serverAddr
         networkCode
         ip := args.ip.or file.ip
         noPunch := args.noPunch || file.noPunch.getD false
         rtx := args.rtx || file.rtx.getD false
         compress := args.compress || file.compress.getD false
         fec := args.fec || file.fec.getD false
         deviceId
         deviceName := (args.deviceName.or file.deviceName).getD env.defaultHostname
         tunName := args.tunName.or file.tunName
         password := args.password.or file.password
         certMode
         input
         output
         noNat := args.noNat || file.noNat.getD false
         noTun := args.noTun || file.noTun.getD false
         mtu := args.mtu.or file.mtu
         portMapping
         allowPortMapping := args.allowMapping || file.allowMapping.getD false
         udpStun
         tcpStun },
    { ctrlPort := args.ctrlPort.or file.ctrlPort })

def startCertMode : Option String → Outcome CertValidationMode
  | some s => (env.parseCertMode s).mapErr fun e => s!"invalid cert_mode '{s}': {e}"
  | none => .ok .insecureSkipVerification

def convertConfig (cfg : StartConfig) : Outcome (CoreConfig SocketAddr) := do
  let serverAddr ← parseAll env.parseServerAddr "invalid server address" cfg.server
  let portMapping ← parseAll env.parsePortMapping "invalid port_mapping" cfg.portMapping
  let certMode ← env.startCertMode cfg.certMode
  let deviceId ← deviceIdOr cfg.deviceId
    (env.getDeviceId.mapErr fun e => s!"failed to get device_id: {e}")
  .ok { serverAddr
        networkCode := cfg.networkCode
        ip := cfg.ip
        noPunch := cfg.noPunch
        rtx := cfg.rtx
        compress := cfg.compress
        deviceId
        deviceName := cfg.deviceName.getD env.defaultHostname
        tunName := cfg.tunName
        password := cfg.password
        certMode
        input := cfg.input
        output := cfg.output
        noNat := cfg.noNat
        noTun := cfg.noTun
        mtu := cfg.mtu
        portMapping
        allowPortMapping := cfg.allowMapping
        udpStun := cfg.udpStun.map withStunPort
        tcpStun := cfg.tcpStun.map withStunPort
        fec := cfg.fec }

end LoadEnv

/-- The web page's configuration with the values of a file. It always has a network code. -/
def FileConfig.toStart (file : FileConfig) : Option StartConfig :=
  file.networkCode.map fun networkCode =>
    { server := file.server.getD []
      certMode := file.certMode
      networkCode
      deviceId := file.deviceId
      deviceName := file.deviceName
      tunName := file.tunName
      ip := file.ip
      password := file.password
      noPunch := file.noPunch.getD false
      compress := file.compress.getD false
      rtx := file.rtx.getD false
      fec := file.fec.getD false
      input := file.input.getD []
      output := file.output.getD []
      noNat := file.noNat.getD false
      noTun := file.noTun.getD false
      mtu := file.mtu
      portMapping := file.portMapping.getD []
      allowMapping := file.allowMapping.getD false
      udpStun := file.udpStun.getD []
      tcpStun := file.tcpStun.getD [] }

theorem Outcome.mapErr_eq_ok {α : Type} {change : String → String} {outcome : Outcome α} {value : α} :
    outcome.mapErr change = .ok value ↔ outcome = .ok value := by
  cases outcome with
  | ok found => rfl
  | err message => simp [mapErr]
  | panic => rfl

theorem parseAll_isOk {α : Type} {parse : String → Outcome α} {label : String}
    {texts : List String} :
    (parseAll parse label texts).isOk = true ↔ ∀ x ∈ texts, (parse x).isOk = true := by
  induction texts with
  | nil => simp [parseAll, Outcome.isOk]
  | cons x rest ih =>
      rw [List.forall_mem_cons, ← ih]
      simp only [Outcome.isOk_iff, parseAll, Outcome.bind_eq_ok, Outcome.mapErr_eq_ok]
      constructor
      · rintro ⟨-, first, read, others, all, -⟩
        exact ⟨⟨first, read⟩, others, all⟩
      · rintro ⟨⟨first, read⟩, others, all⟩
        exact ⟨_, first, read, others, all, rfl⟩

namespace LoadEnv
variable {SocketAddr : Type} (env : LoadEnv SocketAddr)

def config (file : FileConfig) (serverAddr : List ProtocolAddress)
    (portMapping : List (PortMapping SocketAddr)) (deviceId networkCode : String)
    (certMode : CertValidationMode) : CoreConfig SocketAddr where
  serverAddr
  certMode
  networkCode
  deviceId
  deviceName := file.deviceName.getD env.defaultHostname
  tunName := file.tunName
  ip := file.ip
  password := file.password
  noPunch := file.noPunch.getD false
  compress := file.compress.getD false
  rtx := file.rtx.getD false
  fec := file.fec.getD false
  input := file.input.getD []
  output := file.output.getD []
  noNat := file.noNat.getD false
  noTun := file.noTun.getD false
  mtu := file.mtu
  portMapping
  allowPortMapping := file.allowMapping.getD false
  udpStun := (file.udpStun.getD []).map withStunPort
  tcpStun := (file.tcpStun.getD []).map withStunPort

/-- What the loaders have in common: all texts but that of the certificate mode. -/
def Fills (file : FileConfig) (certMode : CertValidationMode) (config : CoreConfig SocketAddr) : Prop :=
  ∃ serverAddr, parseAll env.parseServerAddr "invalid server address" (file.server.getD []) =
      .ok serverAddr ∧
  ∃ portMapping, parseAll env.parsePortMapping "invalid port_mapping" (file.portMapping.getD []) =
      .ok portMapping ∧
  ∃ deviceId, deviceIdOr file.deviceId env.getDeviceId = .ok deviceId ∧
  ∃ networkCode, file.networkCode = some networkCode ∧
    env.config file serverAddr portMapping deviceId networkCode certMode = config

variable {env} {file : FileConfig}

theorem toServerAddr_eq : env.toServerAddr file =
    parseAll env.parseServerAddr "invalid server address" (file.server.getD []) := by
  unfold toServerAddr
  cases file.server with
  | some serverRaw => rfl
  | none => rfl

theorem toPortMapping_eq : env.toPortMapping file =
    parseAll env.parsePortMapping "invalid port_mapping" (file.portMapping.getD []) := by
  unfold toPortMapping
  cases file.portMapping with
  | some portMappingRaw => rfl
  | none => rfl

theorem deviceIdOr_mapErr {configured : Option String} {getDeviceId : Outcome String}
    {change : String → String} {deviceId : String} :
    deviceIdOr configured (getDeviceId.mapErr change) = .ok deviceId ↔
      deviceIdOr configured getDeviceId = .ok deviceId := by
  cases configured with
  | some id => rfl
  | none => exact Outcome.mapErr_eq_ok

theorem buildFromFileOnly_eq_ok {loaded : CoreConfig SocketAddr × CtrlConfig} :
    env.buildFromFileOnly file = .ok loaded ↔
      env.Fills file ((env.fileCertMode file).getD .insecureSkipVerification) loaded.1 ∧
        loaded.2 = ⟨file.ctrlPort⟩ := by
  obtain ⟨config, ctrl⟩ := loaded
  simp only [buildFromFileOnly, toServerAddr_eq, toPortMapping_eq, Outcome.bind_eq_ok, okOr_eq_ok,
    Outcome.ok.injEq, Prod.mk.injEq]
  constructor
  · rintro ⟨servers, server, mappings, mapping, id, device, code, network, filled, rfl⟩
    exact ⟨⟨servers, server, mappings, mapping, id, device, code, network, filled⟩, rfl⟩
  · rintro ⟨⟨servers, server, mappings, mapping, id, device, code, network, filled⟩, rfl⟩
    exact ⟨servers, server, mappings, mapping, id, device, code, network, filled, rfl⟩

theorem buildFromArgsAndFile_eq_ok {loaded : CoreConfig SocketAddr × CtrlConfig} :
    env.buildFromArgsAndFile {} file = .ok loaded ↔
      env.Fills file ((env.fileCertMode file).getD .insecureSkipVerification) loaded.1 ∧
        loaded.2 = ⟨file.ctrlPort⟩ := by
  obtain ⟨config, ctrl⟩ := loaded
  simp only [buildFromArgsAndFile, List.isEmpty_nil, if_true, Option.none_or, Bool.false_or,
    toServerAddr_eq, toPortMapping_eq, Outcome.bind_eq_ok, okOr_eq_ok, Outcome.ok.injEq,
    Prod.mk.injEq]
  constructor
  · rintro ⟨servers, server, mappings, mapping, code, network, id, device, filled, rfl⟩
    exact ⟨⟨servers, server, mappings, mapping, id, device, code, network, filled⟩, rfl⟩
  · rintro ⟨⟨servers, server, mappings, mapping, id, device, code, network, filled⟩, rfl⟩
    exact ⟨servers, server, mappings, mapping, code, network, id, device, filled, rfl⟩

theorem convertConfig_eq_ok {start : StartConfig} (same : start ∈ file.toStart)
    {config : CoreConfig SocketAddr} :
    env.convertConfig start = .ok config ↔
      ∃ certMode, env.startCertMode file.certMode = .ok certMode ∧ env.Fills file certMode config := by
  obtain ⟨code, network, rfl⟩ := Option.map_eq_some_iff.1 same
  simp only [convertConfig, deviceIdOr_mapErr, Outcome.bind_eq_ok, Outcome.ok.injEq]
  constructor
  · rintro ⟨servers, server, mappings, mapping, mode, cert, id, device, filled⟩
    exact ⟨mode, cert, servers, server, mappings, mapping, id, device, code, network, filled⟩
  · rintro ⟨mode, cert, servers, server, mappings, mapping, id, device, other, network', filled⟩
    obtain rfl := Option.some.inj (network.symm.trans network')
    exact ⟨servers, server, mappings, mapping, mode, cert, id, device, filled⟩

variable (env) (file)

def Unparsable : Prop :=
  (∃ x ∈ file.server.getD [], (env.parseServerAddr x).isOk = false) ∨
  (∃ x ∈ file.portMapping.getD [], (env.parsePortMapping x).isOk = false) ∨
  ∃ s ∈ file.certMode, (env.parseCertMode s).isOk = false

structure LoadersAgree : Prop where
  args : ∀ loaded, env.buildFromArgsAndFile {} file = .ok loaded ↔
    env.buildFromFileOnly file = .ok loaded
  start : ∀ start ∈ file.toStart, ∀ config, env.convertConfig start = .ok config ↔
    ∃ ctrl, env.buildFromFileOnly file = .ok (config, ctrl)
  unparsable : env.Unparsable file →
    (env.buildFromFileOnly file).isOk = false ∧ (env.buildFromArgsAndFile {} file).isOk = false ∧
      ∀ start ∈ file.toStart, (env.convertConfig start).isOk = false

def CertModeParses : Prop := ∀ s ∈ file.certMode, (env.parseCertMode s).isOk = true

def Refused : Prop :=
  (∃ x ∈ file.server.getD [], (env.parseServerAddr x).isOk = false) ∨
  (∃ x ∈ file.portMapping.getD [], (env.parsePortMapping x).isOk = false) ∨
  file.networkCode = none ∨
  file.deviceId = none ∧ env.getDeviceId.isOk = false

variable {env file}

theorem not_fills_of_refused (refused : env.Refused file) {certMode : CertValidationMode}
    {config : CoreConfig SocketAddr} : ¬ env.Fills file certMode config := by
  rintro ⟨servers, server, mappings, mapping, id, device, code, network, -⟩
  obtain ⟨x, member, unread⟩ | ⟨x, member, unread⟩ | missing | ⟨missing, unknown⟩ := refused
  · have read := parseAll_isOk.1 (Outcome.isOk_iff.2 ⟨servers, server⟩) x member
    exact absurd read (by simp [unread])
  · have read := parseAll_isOk.1 (Outcome.isOk_iff.2 ⟨mappings, mapping⟩) x member
    exact absurd read (by simp [unread])
  · rw [missing] at network
    contradiction
  · rw [missing] at device
    exact absurd (Outcome.isOk_iff.2 ⟨id, device⟩) (by simp [deviceIdOr, unknown])

theorem fills_of_not_refused (accepted : ¬ env.Refused file) (certMode : CertValidationMode) :
    ∃ config, env.Fills file certMode config := by
  simp only [Refused, not_or, not_exists, not_and, Bool.not_eq_false] at accepted
  obtain ⟨servers, mappings, network, device⟩ := accepted
  obtain ⟨serverAddr, server⟩ := Outcome.isOk_iff.1 (parseAll_isOk.2 servers)
  obtain ⟨portMapping, mapping⟩ := Outcome.isOk_iff.1 (parseAll_isOk.2 mappings)
  obtain ⟨networkCode, network⟩ := Option.ne_none_iff_exists'.1 network
  have known : ∃ deviceId, deviceIdOr file.deviceId env.getDeviceId = .ok deviceId := by
    cases configured : file.deviceId with
    | some id => exact ⟨id, rfl⟩
    | none => exact Outcome.isOk_iff.1 (device configured)
  obtain ⟨deviceId, known⟩ := known
  exact ⟨_, serverAddr, server, portMapping, mapping, deviceId, known, networkCode, network, rfl⟩

theorem startCertMode_of_parses (parses : env.CertModeParses file) :
    env.startCertMode file.certMode =
      .ok ((env.fileCertMode file).getD .insecureSkipVerification) := by
  unfold fileCertMode
  cases given : file.certMode with
  | none => rfl
  | some s =>
      obtain ⟨mode, read⟩ := Outcome.isOk_iff.1 (parses s given)
      simp [startCertMode, read, Outcome.mapErr]

theorem refused_of_unparsable (parses : env.CertModeParses file)
    (unparsable : env.Unparsable file) : env.Refused file := by
  obtain server | mapping | ⟨s, given, unread⟩ := unparsable
  · exact Or.inl server
  · exact Or.inr (Or.inl mapping)
  · exact absurd (parses s given) (by simp [unread])

theorem fails_of_refused (refused : env.Refused file) :
    (env.buildFromFileOnly file).isOk = false ∧ (env.buildFromArgsAndFile {} file).isOk = false ∧
      ∀ start ∈ file.toStart, (env.convertConfig start).isOk = false := by
  simp only [Outcome.isOk_eq_false_iff]
  refine ⟨?_, ?_, ?_⟩
  · intro loaded built
    exact not_fills_of_refused refused (buildFromFileOnly_eq_ok.1 built).1
  · intro loaded built
    exact not_fills_of_refused refused (buildFromArgsAndFile_eq_ok.1 built).1
  · intro start same config built
    obtain ⟨mode, -, filled⟩ := (convertConfig_eq_ok same).1 built
    exact not_fills_of_refused refused filled

theorem start_iff_file {start : StartConfig} (same : start ∈ file.toStart)
    (hears : env.CertModeParses file ∨ env.Refused file) (config : CoreConfig SocketAddr) :
    env.convertConfig start = .ok config ↔
      ∃ ctrl, env.buildFromFileOnly file = .ok (config, ctrl) := by
  simp only [convertConfig_eq_ok same, buildFromFileOnly_eq_ok]
  obtain parses | refused := hears
  · rw [startCertMode_of_parses parses]
    constructor
    · rintro ⟨mode, cert, filled⟩
      obtain rfl := Outcome.ok.inj cert
      exact ⟨_, filled, rfl⟩
    · rintro ⟨ctrl, filled, -⟩
      exact ⟨_, rfl, filled⟩
  · constructor
    · rintro ⟨mode, -, filled⟩
      exact absurd filled (not_fills_of_refused refused)
    · rintro ⟨ctrl, filled, -⟩
      exact absurd filled (not_fills_of_refused refused)

/-- The loaders of a file take a certificate mode that does not parse for none, and skip the
verification; the web page refuses it. -/
theorem loadersAgree_iff (env : LoadEnv SocketAddr) (file : FileConfig) :
    env.LoadersAgree file ↔ env.CertModeParses file ∨ env.Refused file := by
  constructor
  · intro agree
    by_contra neither
    obtain ⟨unread, accepted⟩ := not_or.1 neither
    simp only [CertModeParses, not_forall, Bool.not_eq_true] at unread
    obtain ⟨s, given, unread⟩ := unread
    obtain ⟨config, filled⟩ := fills_of_not_refused accepted
      ((env.fileCertMode file).getD .insecureSkipVerification)
    have fails := (agree.unparsable (Or.inr (Or.inr ⟨s, given, unread⟩))).1
    have built : env.buildFromFileOnly file = .ok (config, ⟨file.ctrlPort⟩) :=
      buildFromFileOnly_eq_ok.2 ⟨filled, rfl⟩
    exact Outcome.isOk_eq_false_iff.1 fails _ built
  · intro hears
    refine ⟨?_, ?_, ?_⟩
    · intro loaded
      rw [buildFromArgsAndFile_eq_ok, buildFromFileOnly_eq_ok]
    · intro start same config
      exact start_iff_file same hears config
    · intro unparsable
      obtain parses | refused := hears
      · exact fails_of_refused (refused_of_unparsable parses unparsable)
      · exact fails_of_refused refused

end LoadEnv

namespace LoadEnv

def sampleEnv : LoadEnv SocketAddr where
  mapping := unicodeCase (fun _ => true) fun _ => false
  parseSocketAddr _ := none
  decodeHex _ := .err "Odd number of digits"
  getDeviceId := .ok "id"
  defaultHostname := "host"

def strictFile : FileConfig where
  server := none
  networkCode := some "code"
  ip := none
  noPunch := none
  rtx := none
  compress := none
  fec := none
  input := none
  output := none
  noNat := none
  noTun := none
  mtu := none
  ctrlPort := none
  portMapping := none
  allowMapping := none
  deviceId := none
  deviceName := none
  tunName := none
  password := none
  certMode := some "strict"
  udpStun := none
  tcpStun := none

theorem strict_not_loadersAgree :
    (∃ loaded, sampleEnv.buildFromFileOnly strictFile = .ok loaded ∧
      loaded.1.certMode = .insecureSkipVerification) ∧ ¬ sampleEnv.LoadersAgree strictFile := by
  have unread : (sampleEnv.parseCertMode "strict").isOk = false := by decide +kernel
  have skips : sampleEnv.fileCertMode strictFile = none := by
    cases read : sampleEnv.parseCertMode "strict" with
    | ok mode => simp [read, Outcome.isOk] at unread
    | err message => simp [fileCertMode, strictFile, read]
    | panic => simp [fileCertMode, strictFile, read]
  have filled : sampleEnv.Fills strictFile .insecureSkipVerification
      (sampleEnv.config strictFile [] [] "id" "code" .insecureSkipVerification) :=
    ⟨[], rfl, [], rfl, "id", rfl, "code", rfl, rfl⟩
  have built : sampleEnv.buildFromFileOnly strictFile =
      .ok (sampleEnv.config strictFile [] [] "id" "code" .insecureSkipVerification, ⟨none⟩) :=
    buildFromFileOnly_eq_ok.2 ⟨by rw [skips]; exact filled, rfl⟩
  refine ⟨⟨_, built, rfl⟩, ?_⟩
  intro agree
  have fails := (agree.unparsable (Or.inr (Or.inr ⟨"strict", rfl, unread⟩))).1
  exact Outcome.isOk_eq_false_iff.1 fails _ built

end LoadEnv

end VntClient
