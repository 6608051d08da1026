import VntClient.EnhancedInbound
import VntClient.Machine

/-!
Registration with one or several servers: `server/connection_manager.rs` and
`NetworkManager::register` of `core/mod.rs`. A connection to a server is known by
what comes of it.
-/

namespace VntClient

inductive RegistrationMode where
  | normal | preRegister
deriving DecidableEq

structure RegRequestMsg where
  networkCode : String
  deviceId : String
  ip : Option Ipv4Addr
  name : String
  version : String
  keySign : Option String
  ipVariable : Bool
  serverId : UInt32
  registrationMode : RegistrationMode
deriving DecidableEq

structure RegResponseMsg where
  ip : Ipv4Addr
  prefixLen : UInt8
  gateway : Ipv4Addr
  serverVersion : String
deriving DecidableEq

structure ErrorResponseMsg where
  code : UInt32
  message : String
deriving DecidableEq

structure ConfirmRegResponseMsg where
  success : Bool
deriving DecidableEq

inductive ResponseMessage where
  | reg (msg : RegResponseMsg)
  | error (msg : ErrorResponseMsg)
  | confirmReg (msg : ConfirmRegResponseMsg)
deriving DecidableEq

structure ConnectRegConfig where
  networkCode : String
  deviceId : String
  deviceName : String
  ip : Option Ipv4Addr
  keySign : Option String
  ipVariable : Bool

structure Config where
  networkCode : String
  deviceId : String
  deviceName : String
  ip : Option Ipv4Addr
  keySign : Option String

def Config.toConnectConfig (config : Config) : ConnectRegConfig where
  networkCode := config.networkCode
  deviceId := config.deviceId
  deviceName := config.deviceName
  ip := config.ip
  keySign := config.keySign
  ipVariable := config.ip.isNone

def ConnectRegConfig.regMsgRequest (config : ConnectRegConfig) (serverId : UInt32)
    (mode : RegistrationMode) : RegRequestMsg where
  networkCode := config.networkCode
  deviceId := config.deviceId
  ip := config.ip
  name := config.deviceName
  version := "2.0.0"
  keySign := config.keySign
  ipVariable := config.ipVariable
  serverId := serverId
  registrationMode := mode

/-- No request got out, or one did and was answered or failed. -/
inductive Exchange where
  | unreachable (message : String)
  | answered (reply : Except String ResponseMessage)
deriving DecidableEq

structure ServerTurnManager where
  serverId : UInt32
  config : ConnectRegConfig

namespace ServerTurnManager

def connectAndReg (manager : ServerTurnManager) (mode : RegistrationMode) (exchange : Exchange) :
    List RegRequestMsg × Except String ResponseMessage :=
  match exchange with
  | .unreachable message => ([], .error message)
  | .answered reply => ([manager.config.regMsgRequest manager.serverId mode], reply)

def sendConfirm (reply : Except String ResponseMessage) : Except String ConfirmRegResponseMsg :=
  match reply with
  | .ok (.confirmReg msg) => .ok msg
  | .ok (.error e) => .error s!"Confirm failed: {e.message}"
  | .ok (.reg _) => .error "Unexpected response"
  | .error message => .error message

def setIp (manager : ServerTurnManager) (ip : Ipv4Addr) : ServerTurnManager :=
  { manager with config := { manager.config with ip := some ip } }

end ServerTurnManager

/-- A manager beside what its server answers to registration and confirmation. -/
structure Party where
  manager : ServerTurnManager
  register : Exchange
  confirm : Except String ResponseMessage

namespace Party

def preRegister (party : Party) : List RegRequestMsg × Except String ResponseMessage :=
  party.manager.connectAndReg .preRegister party.register

def setIp (party : Party) (ip : Ipv4Addr) : Party :=
  { party with manager := party.manager.setIp ip }

end Party

/-- The check of the other servers' answers, from a position on. -/
def checkPreRegistered (i : Nat) : List (Except String ResponseMessage) → Except String Unit
  | [] => .ok ()
  | .ok (.reg _) :: rest => checkPreRegistered (i + 1) rest
  | .ok (.error e) :: _ => .error s!"Server {i} registration failed: {e.message}"
  | .ok (.confirmReg _) :: _ => .error s!"Unexpected response from server {i}"
  | .error e :: _ => .error s!"Server {i} registration failed: {e}"

def checkConfirmed (i : Nat) : List (Except String ConfirmRegResponseMsg) → Except String Unit
  | [] => .ok ()
  | .ok msg :: rest =>
      if msg.success then checkConfirmed (i + 1) rest
      else .error s!"Server {i} confirmation failed"
  | .error e :: _ => .error s!"Server {i} confirmation failed: {e}"

/-- The managers as they are left, and the result. -/
def coordinatedRegistration :
    List Party → List ServerTurnManager × Except String RegResponseMsg
  | [] => ([], .error "No servers to register")
  | first :: rest =>
      let untouched := (first :: rest).map Party.manager
      match first.preRegister.2 with
      | .error e => (untouched, .error e)
      | .ok (.error e) => (untouched, .error s!"First server registration failed: {e.message}")
      | .ok (.confirmReg _) => (untouched, .error "Unexpected response from first server")
      | .ok (.reg reg) =>
          let others := rest.map fun party => party.setIp reg.ip
          let managers := first.manager :: others.map Party.manager
          match checkPreRegistered 1 (others.map fun party => party.preRegister.2) with
          | .error e => (managers, .error e)
          | .ok _ =>
              match checkConfirmed 0 ((first :: others).map fun party =>
                ServerTurnManager.sendConfirm party.confirm) with
              | .error e => (managers, .error e)
              | .ok _ => (managers, .ok reg)

theorem checkPreRegistered_ok (i : Nat) (replies : List (Except String ResponseMessage)) :
    checkPreRegistered i replies = .ok () ↔ ∀ reply ∈ replies, ∃ reg, reply = .ok (.reg reg) := by
  induction replies generalizing i with
  | nil => simp [checkPreRegistered]
  | cons reply rest ih =>
      cases reply with
      | error e => simp [checkPreRegistered]
      | ok msg =>
          cases msg with
          | reg msg => simp [checkPreRegistered, ih]
          | error e => simp [checkPreRegistered]
          | confirmReg msg => simp [checkPreRegistered]

theorem checkConfirmed_ok (i : Nat) (replies : List (Except String ConfirmRegResponseMsg)) :
    checkConfirmed i replies = .ok () ↔ ∀ reply ∈ replies, reply = .ok ⟨true⟩ := by
  induction replies generalizing i with
  | nil => simp [checkConfirmed]
  | cons reply rest ih =>
      cases reply with
      | error e => simp [checkConfirmed]
      | ok msg =>
          obtain ⟨success⟩ := msg
          cases success <;> simp [checkConfirmed, ih]

namespace Party

/-- The server pre-registers the client under an address and confirms it. -/
def Registers (party : Party) (reg : RegResponseMsg) : Prop :=
  party.register = .answered (.ok (.reg reg)) ∧ party.confirm = .ok (.confirmReg ⟨true⟩)

theorem preRegister_reg (party : Party) (reg : RegResponseMsg) :
    party.preRegister.2 = .ok (.reg reg) ↔ party.register = .answered (.ok (.reg reg)) := by
  unfold preRegister ServerTurnManager.connectAndReg
  cases party.register with
  | unreachable message => simp
  | answered reply => simp

theorem sendConfirm_true (reply : Except String ResponseMessage) :
    ServerTurnManager.sendConfirm reply = .ok ⟨true⟩ ↔ reply = .ok (.confirmReg ⟨true⟩) := by
  unfold ServerTurnManager.sendConfirm
  split <;> simp

end Party

-- Success takes a registration and a confirmation from every server, and no more.
theorem coordinatedRegistration_ok (first : Party) (rest : List Party) (reg : RegResponseMsg) :
    (coordinatedRegistration (first :: rest)).2 = .ok reg ↔
      first.Registers reg ∧ ∀ party ∈ rest, ∃ own, party.Registers own := by
  have answer := first.preRegister_reg
  simp only [coordinatedRegistration]
  split
  · rename_i e failed
    simp [Party.Registers, ← answer, failed]
  · rename_i e failed
    simp [Party.Registers, ← answer, failed]
  · rename_i e failed
    simp [Party.Registers, ← answer, failed]
  · rename_i got registered
    have preRegistered := checkPreRegistered_ok 1
      ((rest.map fun party => party.setIp got.ip).map fun party => party.preRegister.2)
    have confirmed := checkConfirmed_ok 0 ((first :: rest.map fun party => party.setIp got.ip).map
      fun party => ServerTurnManager.sendConfirm party.confirm)
    have others : (∀ reply ∈ (rest.map fun party => party.setIp got.ip).map
        fun party => party.preRegister.2, ∃ own, reply = .ok (.reg own)) ↔
        ∀ party ∈ rest, ∃ own, party.register = .answered (.ok (.reg own)) := by
      simp only [List.map_map, List.mem_map, forall_exists_index, and_imp,
        forall_apply_eq_imp_iff₂, Function.comp_apply, Party.preRegister_reg]
      rfl
    have all : (∀ reply ∈ (first :: rest.map fun party => party.setIp got.ip).map
        fun party => ServerTurnManager.sendConfirm party.confirm, reply = .ok ⟨true⟩) ↔
        first.confirm = .ok (.confirmReg ⟨true⟩) ∧
          ∀ party ∈ rest, party.confirm = .ok (.confirmReg ⟨true⟩) := by
      simp only [List.map_cons, List.map_map, List.mem_cons, List.mem_map, forall_eq_or_imp,
        forall_exists_index, and_imp, forall_apply_eq_imp_iff₂, Function.comp_apply,
        Party.sendConfirm_true]
      rfl
    rw [others] at preRegistered
    rw [all] at confirmed
    have first_eq : first.register = .answered (.ok (.reg got)) := (answer got).mp registered
    -- Both checks pass exactly if every party answered and confirmed.
    split
    · rename_i e failed
      have missing := failed ▸ preRegistered
      constructor
      · intro same
        cases same
      · rintro ⟨_, each⟩
        exact absurd (missing.mpr fun party member => (each party member).imp fun _ own => own.1)
          (by simp)
    · rename_i passed
      have each := preRegistered.mp passed
      split
      · rename_i e failed
        have missing := failed ▸ confirmed
        constructor
        · intro same
          cases same
        · rintro ⟨one, others⟩
          refine absurd (missing.mpr ⟨one.2, fun party member => ?_⟩) (by simp)
          obtain ⟨own, registers⟩ := others party member
          exact registers.2
      · rename_i done
        obtain ⟨one, others⟩ := confirmed.mp done
        simp only [Party.Registers, first_eq, one, and_true, Exchange.answered.injEq,
          Except.ok.injEq, ResponseMessage.reg.injEq]
        constructor
        · intro same
          refine ⟨same, fun party member => ?_⟩
          obtain ⟨own, registered⟩ := each party member
          exact ⟨own, registered, others party member⟩
        · exact fun both => both.1

/-- Every server that the result rests on gave the address of the result. -/
def Agreed (parties : List Party) : Prop :=
  ∀ reg, (coordinatedRegistration parties).2 = .ok reg →
    ∀ party ∈ parties, ∃ own, party.Registers own ∧
      own.ip = reg.ip ∧ own.prefixLen = reg.prefixLen ∧ own.gateway = reg.gateway

/-- All servers register and confirm, but one under another address than the first. -/
def Diverging : List Party → Prop
  | [] => False
  | first :: rest => ∃ reg, first.Registers reg ∧ (∀ party ∈ rest, ∃ own, party.Registers own) ∧
      ∃ party ∈ rest, ∃ own, party.Registers own ∧
        (own.ip ≠ reg.ip ∨ own.prefixLen ≠ reg.prefixLen ∨ own.gateway ≠ reg.gateway)

theorem Party.registers_inj {party : Party} {left right : RegResponseMsg}
    (one : party.Registers left) (other : party.Registers right) : left = right := by
  simpa using one.1.symm.trans other.1

/-- Coordinated registration agrees on an address exactly when the servers did. -/
theorem agreed_iff (parties : List Party) : Agreed parties ↔ ¬ Diverging parties := by
  cases parties with
  | nil =>
      refine iff_of_true ?_ id
      intro reg same
      cases same
  | cons first rest =>
      simp only [Agreed, Diverging, coordinatedRegistration_ok]
      constructor
      · rintro agreed ⟨reg, registers, all, party, member, own, registered, different⟩
        obtain ⟨again, same, ip, prefixLen, gateway⟩ :=
          agreed reg ⟨registers, all⟩ party (List.mem_cons_of_mem _ member)
        cases Party.registers_inj registered same
        rcases different with other | other | other
        · exact other ip
        · exact other prefixLen
        · exact other gateway
      · rintro uniform reg ⟨registers, all⟩ party member
        rcases List.mem_cons.mp member with rfl | later
        · exact ⟨reg, registers, rfl, rfl, rfl⟩
        · obtain ⟨own, registered⟩ := all party later
          refine ⟨own, registered, ?_⟩
          by_contra different
          apply uniform
          refine ⟨reg, registers, all, party, later, own, registered, ?_⟩
          by_cases ip : own.ip = reg.ip
          · by_cases prefixLen : own.prefixLen = reg.prefixLen
            · exact Or.inr (Or.inr fun gateway => different ⟨ip, prefixLen, gateway⟩)
            · exact Or.inr (Or.inl prefixLen)
          · exact Or.inl ip

def sampleConfig : Config := ⟨"net", "device", "name", none, none⟩

def granting (serverId : UInt32) (ip : Ipv4Addr) : Party where
  manager := ⟨serverId, sampleConfig.toConnectConfig⟩
  register := .answered (.ok (.reg ⟨ip, 24, 0x0A1A0001, ""⟩))
  confirm := .ok (.confirmReg ⟨true⟩)

-- The second server gives 10.26.0.4 where the first gave 10.26.0.3.
theorem disagreement_accepted : ¬ Agreed [granting 0 0x0A1A0003, granting 1 0x0A1A0004] := by
  intro agreed
  obtain ⟨own, registered, ip, _⟩ := agreed ⟨0x0A1A0003, 24, 0x0A1A0001, ""⟩ rfl
    (granting 1 0x0A1A0004) (by simp)
  cases registered.1
  exact absurd ip (by decide)

end VntClient
