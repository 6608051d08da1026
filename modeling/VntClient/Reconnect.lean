import VntClient.Registration

/-!
What follows a registration: one task a server that reconnects for as long as
the server hands out the same address, `data_handle_task_connected`.
-/

namespace VntClient

/-- `Ipv4Net::new` with the broadcast address of the network. -/
def broadcastOf (ip : Ipv4Addr) (prefixLen : Fin 33) : Ipv4Addr :=
  let size := 2 ^ (32 - prefixLen.val)
  UInt32.ofNat (ip.toNat / size * size + (size - 1))

def RegResponseMsg.networkAddr (reg : RegResponseMsg) : Option NetworkAddr :=
  if fits : reg.prefixLen.toNat < 33 then
    some ⟨reg.gateway, broadcastOf reg.ip ⟨reg.prefixLen.toNat, fits⟩, reg.ip,
      ⟨reg.prefixLen.toNat, fits⟩⟩
  else none

structure NetworkManager where
  managers : List ServerTurnManager
  network : NetworkAddr
  running : Bool

structure ServerAnswers where
  register : Exchange
  confirm : Except String ResponseMessage

/-- `create_server_tunnel`: a manager for each server, numbered in order. -/
def createServerTunnel (config : Config) (servers : List ServerAnswers) : List Party :=
  servers.zipIdx.map fun server =>
    ⟨⟨UInt32.ofNat server.2, config.toConnectConfig⟩, server.1.register, server.1.confirm⟩

/-- The managers afterwards and the registration response, from one server or
several. With no server the index of the first panics. -/
def registerWith (parties : List Party) :
    List ServerTurnManager × Except String RegResponseMsg :=
  if 1 < parties.length then coordinatedRegistration parties
  else
    match parties with
    | [] => ([], .error "index out of bounds")
    | party :: _ =>
        (parties.map Party.manager,
          match (party.manager.connectAndReg .normal party.register).2 with
          | .error e => .error e
          | .ok (.reg reg) => .ok reg
          | .ok (.error e) => .error s!"Registration failed: {e.message}"
          | .ok (.confirmReg _) => .error "Unexpected ConfirmReg response")

/-- `NetworkManager::register`: what is left to run, if the registration succeeds. -/
def NetworkManager.register (config : Config) (servers : List ServerAnswers) :
    Option NetworkManager :=
  let registered := registerWith (createServerTunnel config servers)
  match registered.2 with
  | .error _ => none
  | .ok reg => reg.networkAddr.map fun network => ⟨registered.1, network, true⟩

/-- One round of the loop of one server: it lost its connection and tries again. -/
structure Reconnect where
  index : Nat
  exchange : Exchange

/-- The answer lets the loop go on. -/
def RegResponseMsg.unchanged (reg : RegResponseMsg) (network : NetworkAddr) : Bool :=
  reg.ip == network.ip && reg.prefixLen.toNat == network.prefixLen.val &&
    reg.gateway == network.gateway

/-- A failed connection is tried again; any other answer than the same address
stops the task group. -/
def NetworkManager.step (network : NetworkManager) (reconnect : Reconnect) :
    NetworkManager × List RegRequestMsg :=
  if network.running then
    match network.managers[reconnect.index]? with
    | none => (network, [])
    | some manager =>
        let sent := manager.connectAndReg .normal reconnect.exchange
        match sent.2 with
        | .error _ => (network, sent.1)
        | .ok (.reg reg) =>
            if reg.unchanged network.network then (network, sent.1)
            else ({ network with running := false }, sent.1)
        | .ok _ => ({ network with running := false }, sent.1)
  else (network, [])

-- Only the managers behind the first are told the address.
theorem coordinatedRegistration_managers {first : Party} {rest : List Party} {reg : RegResponseMsg}
    (done : (coordinatedRegistration (first :: rest)).2 = .ok reg) :
    (coordinatedRegistration (first :: rest)).1 =
      first.manager :: rest.map fun party => party.manager.setIp reg.ip := by
  have registers := ((coordinatedRegistration_ok first rest reg).mp done).1
  have answer := (first.preRegister_reg reg).mpr registers.1
  simp only [coordinatedRegistration, answer, List.map_map] at done ⊢
  split at done
  · cases done
  · split at done
    · cases done
    · rename_i passed _ confirmed
      simp only [*]
      rfl

theorem createServerTunnel_ip (config : Config) (servers : List ServerAnswers) :
    ∀ party ∈ createServerTunnel config servers, party.manager.config.ip = config.ip := by
  intro party member
  obtain ⟨server, _, rfl⟩ := List.mem_map.mp member
  rfl

namespace NetworkManager
variable {config : Config} {servers : List ServerAnswers} {network : NetworkManager}

theorem registerWith_ip {parties : List Party} {reg : RegResponseMsg}
    (configured : ∀ party ∈ parties, party.manager.config.ip = config.ip)
    (done : (registerWith parties).2 = .ok reg) {i : Nat} {manager : ServerTurnManager}
    (found : (registerWith parties).1[i]? = some manager) :
    manager.config.ip = if i = 0 then config.ip else some reg.ip := by
  cases parties with
  | nil => cases done
  | cons first rest =>
      have own := configured first List.mem_cons_self
      by_cases several : 1 < (first :: rest).length
      · simp only [registerWith, several, ↓reduceIte] at done found
        rw [coordinatedRegistration_managers done] at found
        cases i with
        | zero =>
            cases found
            exact own
        | succ i =>
            rw [List.getElem?_cons_succ, List.getElem?_map] at found
            obtain ⟨party, _, rfl⟩ := Option.map_eq_some_iff.mp found
            rfl
      · have single : rest = [] := by
          cases rest with
          | nil => rfl
          | cons second rest => exact absurd (by simp) several
        subst single
        simp only [registerWith, several, ↓reduceIte] at found
        cases i with
        | zero =>
            cases found
            exact own
        | succ i => cases found

/-- The first manager asks for what the user configured, every other one for the
assigned address. -/
theorem register_ip (registered : register config servers = some network) {i : Nat}
    {manager : ServerTurnManager} (found : network.managers[i]? = some manager) :
    manager.config.ip = if i = 0 then config.ip else some network.network.ip := by
  simp only [register] at registered
  split at registered
  · cases registered
  · rename_i reg done
    obtain ⟨address, shape, rfl⟩ := Option.map_eq_some_iff.mp registered
    have given : address.ip = reg.ip := by
      simp only [RegResponseMsg.networkAddr] at shape
      split at shape
      · cases shape
        rfl
      · cases shape
    simp only [given]
    exact registerWith_ip (createServerTunnel_ip config servers) done found

theorem registerWith_first {parties : List Party} {reg : RegResponseMsg}
    (done : (registerWith parties).2 = .ok reg) :
    ∃ manager, (registerWith parties).1[0]? = some manager := by
  cases parties with
  | nil => cases done
  | cons first rest =>
      refine ⟨first.manager, ?_⟩
      by_cases several : 1 < (first :: rest).length
      · simp only [registerWith, several, ↓reduceIte] at done ⊢
        rw [coordinatedRegistration_managers done]
        rfl
      · simp only [registerWith, several, ↓reduceIte]
        rfl

theorem register_first (registered : register config servers = some network) :
    ∃ manager, network.managers[0]? = some manager := by
  simp only [register] at registered
  split at registered
  · cases registered
  · rename_i reg done
    obtain ⟨address, _, rfl⟩ := Option.map_eq_some_iff.mp registered
    exact registerWith_first done

/-- No reconnect changes the managers or the address. -/
theorem step_managers (network : NetworkManager) (reconnect : Reconnect) :
    (network.step reconnect).1.managers = network.managers ∧
      (network.step reconnect).1.network = network.network := by
  simp only [step]
  split
  · split
    · exact ⟨rfl, rfl⟩
    · split
      · exact ⟨rfl, rfl⟩
      · split <;> exact ⟨rfl, rfl⟩
      · exact ⟨rfl, rfl⟩
  · exact ⟨rfl, rfl⟩

/-- The request of a round, if one gets out. -/
theorem step_requests (network : NetworkManager) (reconnect : Reconnect) (request : RegRequestMsg) :
    request ∈ (network.step reconnect).2 ↔ network.running = true ∧
      ∃ manager, network.managers[reconnect.index]? = some manager ∧
        (∃ reply, reconnect.exchange = .answered reply) ∧
        request = manager.config.regMsgRequest manager.serverId .normal := by
  unfold step
  cases running : network.running with
  | false => simp
  | true =>
      cases found : network.managers[reconnect.index]? with
      | none => simp
      | some manager =>
          cases sent : reconnect.exchange with
          | unreachable message => simp [ServerTurnManager.connectAndReg]
          | answered reply =>
              cases reply with
              | error message => simp [ServerTurnManager.connectAndReg]
              | ok msg =>
                  cases msg with
                  | reg reg =>
                      simp only [ServerTurnManager.connectAndReg, ↓reduceIte]
                      split <;> simp
                  | error e => simp [ServerTurnManager.connectAndReg]
                  | confirmReg msg => simp [ServerTurnManager.connectAndReg]

-- The one manager that is not told the address is the first.
theorem step_keeps_address_iff (registered : register config servers = some network)
    {later : NetworkManager} (managers : later.managers = network.managers)
    (reconnect : Reconnect) :
    (∀ request ∈ (later.step reconnect).2, request.ip = some network.network.ip) ↔
      (later.running = true → reconnect.index = 0 →
        (∃ reply, reconnect.exchange = .answered reply) → config.ip = some network.network.ip) := by
  simp only [step_requests, managers]
  constructor
  · intro carried running index answered
    obtain ⟨manager, found⟩ := register_first registered
    have here := carried _ ⟨running, manager, index ▸ found, answered, rfl⟩
    have asked := register_ip registered found
    rw [if_pos rfl] at asked
    exact asked ▸ here
  · rintro careful request ⟨running, manager, found, answered, rfl⟩
    have asked := register_ip registered found
    change manager.config.ip = some network.network.ip
    by_cases first : reconnect.index = 0
    · rw [asked, if_pos first]
      exact careful running first answered
    · rw [asked, if_neg first]

/-- Every request of every reconnect asks for the assigned address, exactly if
the first server is only reached again where the user configured that address. -/
theorem reconnects_keep_address_iff (registered : register config servers = some network)
    (reconnects : List Reconnect) :
    Machine.Along step (fun later reconnect =>
        ∀ request ∈ (later.step reconnect).2, request.ip = some network.network.ip)
      network reconnects ↔
    Machine.Along step (fun later reconnect => later.running = true → reconnect.index = 0 →
        (∃ reply, reconnect.exchange = .answered reply) → config.ip = some network.network.ip)
      network reconnects := by
  apply Machine.along_iff step (fun later => later.managers = network.managers)
  · intro later reconnect _ managers _
    exact (step_managers later reconnect).1.trans managers
  · intro later reconnect _ managers
    exact step_keeps_address_iff registered managers reconnect
  · rfl

def sampleReg : RegResponseMsg := ⟨0x0A1A0003, 24, 0x0A1A0001, ""⟩

def sampleAnswers : ServerAnswers := ⟨.answered (.ok (.reg sampleReg)), .ok (.confirmReg ⟨true⟩)⟩

def sampleManager : NetworkManager where
  managers := [⟨0, sampleConfig.toConnectConfig⟩]
  network := sampleNetwork
  running := true

theorem configured_address_kept :
    register { sampleConfig with ip := some 0x0A1A0003 } [sampleAnswers] =
        some { sampleManager with managers :=
          [⟨0, ({ sampleConfig with ip := some 0x0A1A0003 } : Config).toConnectConfig⟩] } ∧
      Machine.Along step (fun later reconnect => ∀ request ∈ (later.step reconnect).2,
          request.ip = some 0x0A1A0003)
        { sampleManager with managers :=
          [⟨0, ({ sampleConfig with ip := some 0x0A1A0003 } : Config).toConnectConfig⟩] }
        [⟨0, .answered (.ok (.reg sampleReg))⟩] :=
  ⟨rfl, (@reconnects_keep_address_iff { sampleConfig with ip := some 0x0A1A0003 }
    [sampleAnswers] _ rfl _).mpr ⟨fun _ _ _ => rfl, trivial⟩⟩

-- One server, no configured address: the reconnect asks for any address.
theorem assigned_address_forgotten :
    register sampleConfig [sampleAnswers] = some sampleManager ∧
      ¬ Machine.Along step (fun later reconnect => ∀ request ∈ (later.step reconnect).2,
          request.ip = some 0x0A1A0003) sampleManager [⟨0, .answered (.ok (.reg sampleReg))⟩] := by
  refine ⟨rfl, ?_⟩
  rintro ⟨carried, _⟩
  exact absurd (carried _ List.mem_cons_self) (by decide)

end NetworkManager
end VntClient
