import VntClient.NetPacket

/-!
`enhanced_tunnel/inbound.rs` with the two places it delivers IP packets to:
`tun/sender.rs` and `nat/internal_nat/mod.rs`. Both read the first byte of the
data before any length check.
-/

namespace VntClient

structure Ipv4Net where
  addr : Ipv4Addr
  prefixLen : Fin 33
deriving DecidableEq

def Ipv4Net.contains (net : Ipv4Net) (ip : Ipv4Addr) : Bool :=
  net.addr.toNat / 2 ^ (32 - net.prefixLen.val) == ip.toNat / 2 ^ (32 - net.prefixLen.val)

structure NetworkAddr where
  gateway : Ipv4Addr
  broadcast : Ipv4Addr
  ip : Ipv4Addr
  prefixLen : Fin 33
deriving DecidableEq

def NetworkAddr.network (net : NetworkAddr) : Ipv4Net := ⟨net.ip, net.prefixLen⟩

def isBroadcast (ip : Ipv4Addr) : Bool := ip == 0xFFFFFFFF
def isUnspecified (ip : Ipv4Addr) : Bool := ip == 0
def isMulticast (ip : Ipv4Addr) : Bool := ip.toNat / 2 ^ 28 == 14

/-- `data[i]`, which panics out of range. -/
def index (data : Bytes) (i : Nat) : Outcome UInt8 :=
  match data[i]? with
  | some byte => .ok byte
  | none => .panic

/-- A buffer long enough to be read as an IPv4 packet. -/
structure Ipv4Packet where
  data : Bytes
  sized : 20 ≤ data.length

def Ipv4Packet.new (data : Bytes) : Option Ipv4Packet :=
  if sized : 20 ≤ data.length then some ⟨data, sized⟩ else none

def Ipv4Packet.getDestination (packet : Ipv4Packet) : Ipv4Addr :=
  fromBeBytes32 (packet.data.getD 16 0) (packet.data.getD 17 0) (packet.data.getD 18 0)
    (packet.data.getD 19 0)

def allow (subnets : List Ipv4Net) (ip : Ipv4Addr) : Bool := subnets.any fun net => net.contains ip

inductive Output where
  | tun (data : Bytes)
  | ipStack (data : Bytes)
  | quic (src : Ipv4Addr) (data : Bytes)
deriving DecidableEq

structure Sinks where
  tun : Instant → Bytes → Bool
  ipStack : Instant → Bytes → Bool
  quic : Instant → Ipv4Addr → Bytes → Bool

def accepted (net : NetworkAddr) (allowSubnet : List Ipv4Net) (dest : Ipv4Addr) : Bool :=
  net.network.contains dest || dest == net.broadcast || isBroadcast dest || isMulticast dest ||
    allow allowSubnet dest

structure TunDataInbound where
  allowSubnet : List Ipv4Net

def TunDataInbound.send (inbound : TunDataInbound) (sinks : Sinks) (now : Instant) (data : Bytes)
    (net : NetworkAddr) : Outcome (Option Output) := do
  let first ← index data 0
  if first >>> 4 ≠ 4 then pure none
  else
    match Ipv4Packet.new data with
    | none => pure none
    | some ipv4 =>
        if accepted net inbound.allowSubnet ipv4.getDestination then
          if sinks.tun now data then pure (some (.tun data)) else .err "channel closed"
        else pure none

structure InternalNatInbound where
  allowSubnet : List Ipv4Net

def InternalNatInbound.send (inbound : InternalNatInbound) (sinks : Sinks) (now : Instant)
    (data : Bytes) (net : NetworkAddr) : Outcome (Option Output) := do
  let first ← index data 0
  if first >>> 4 ≠ 4 then pure none
  else
    match Ipv4Packet.new data with
    | none => pure none
    | some ipv4 =>
        if accepted net inbound.allowSubnet ipv4.getDestination then
          if sinks.ipStack now data then pure (some (.ipStack data)) else .err "send ip packet"
        else pure none

inductive EnhancedTunInbound where
  | tun (device : TunDataInbound)
  | nat (stack : InternalNatInbound)

def EnhancedTunInbound.inbound (inbound : EnhancedTunInbound) (sinks : Sinks) (now : Instant)
    (data : Bytes) (net : NetworkAddr) : Outcome (Option Output) :=
  match inbound with
  | .tun device => device.send sinks now data net
  | .nat stack => stack.send sinks now data net

structure EnhancedInbound where
  tunDataInbound : EnhancedTunInbound
  internalNatInbound : Option InternalNatInbound

def EnhancedInbound.inbound (inbound : EnhancedInbound) (sinks : Sinks) (now : Instant)
    (networkAddr : NetworkAddr) (msgType : MsgType) (src : Ipv4Addr) (packet : NetPacket) :
    Outcome (Option Output) :=
  let buf := packet.payload
  match msgType with
  | .turn =>
      match inbound.internalNatInbound with
      | some nat =>
          match Ipv4Packet.new buf with
          | none => .err "EnhancedInbound not ipv4"
          | some ipv4 =>
              let dest := ipv4.getDestination
              if dest ≠ networkAddr.ip ∧ ¬ networkAddr.network.contains dest then
                nat.send sinks now buf networkAddr
              else inbound.tunDataInbound.inbound sinks now buf networkAddr
      | none => inbound.tunDataInbound.inbound sinks now buf networkAddr
  | .broadcast | .excludeBroadcast => inbound.tunDataInbound.inbound sinks now buf networkAddr
  | .quic =>
      if sinks.quic now src buf then pure (some (.quic src buf)) else .err "inbound quic"
  | _ => pure none

theorem TunDataInbound.send_panic (inbound : TunDataInbound) (sinks : Sinks) (now : Instant)
    (data : Bytes) (net : NetworkAddr) : inbound.send sinks now data net = .panic ↔ data = [] := by
  cases data with
  | nil => exact iff_of_true rfl rfl
  | cons first rest =>
      refine iff_of_false ?_ (List.cons_ne_nil _ _)
      simp only [TunDataInbound.send, index, List.getElem?_cons_zero, Outcome.ok_bind,
        Outcome.pure_eq]
      repeat' split
      all_goals exact fun same => by cases same

theorem InternalNatInbound.send_panic (inbound : InternalNatInbound) (sinks : Sinks) (now : Instant)
    (data : Bytes) (net : NetworkAddr) : inbound.send sinks now data net = .panic ↔ data = [] := by
  cases data with
  | nil => exact iff_of_true rfl rfl
  | cons first rest =>
      refine iff_of_false ?_ (List.cons_ne_nil _ _)
      simp only [InternalNatInbound.send, index, List.getElem?_cons_zero, Outcome.ok_bind,
        Outcome.pure_eq]
      repeat' split
      all_goals exact fun same => by cases same

theorem EnhancedTunInbound.inbound_panic (inbound : EnhancedTunInbound) (sinks : Sinks)
    (now : Instant) (data : Bytes) (net : NetworkAddr) :
    inbound.inbound sinks now data net = .panic ↔ data = [] := by
  cases inbound with
  | tun device => exact device.send_panic sinks now data net
  | nat stack => exact stack.send_panic sinks now data net

/-- Types that go to the TUN or the NAT without a length check on the way. -/
def EnhancedInbound.unchecked (inbound : EnhancedInbound) (msgType : MsgType) : Bool :=
  match msgType with
  | .turn => inbound.internalNatInbound.isNone
  | .broadcast | .excludeBroadcast => true
  | _ => false

/-- Delivery panics on the empty payload of an unchecked type and on nothing else. -/
theorem EnhancedInbound.inbound_completes_iff (inbound : EnhancedInbound) (sinks : Sinks)
    (now : Instant) (networkAddr : NetworkAddr) (msgType : MsgType) (src : Ipv4Addr)
    (packet : NetPacket) :
    inbound.inbound sinks now networkAddr msgType src packet ≠ .panic ↔
      packet.payload ≠ [] ∨ inbound.unchecked msgType = false := by
  have tun := inbound.tunDataInbound.inbound_panic sinks now packet.payload networkAddr
  cases msgType with
  | turn =>
      cases nat : inbound.internalNatInbound with
      | none => simp [EnhancedInbound.inbound, EnhancedInbound.unchecked, nat, tun]
      | some nat' =>
          have checked : inbound.unchecked .turn = false := by
            simp [EnhancedInbound.unchecked, nat]
          refine iff_of_true ?_ (Or.inr checked)
          simp only [EnhancedInbound.inbound, nat]
          split
          · exact fun same => by cases same
          · rename_i ipv4 long
            have nonempty : packet.payload ≠ [] := by
              intro empty
              rw [empty] at long
              cases long
            split
            · exact (nat'.send_panic sinks now packet.payload networkAddr).not.mpr nonempty
            · exact tun.not.mpr nonempty
  | broadcast => simp [EnhancedInbound.inbound, EnhancedInbound.unchecked, tun]
  | excludeBroadcast => simp [EnhancedInbound.inbound, EnhancedInbound.unchecked, tun]
  | quic =>
      refine iff_of_true ?_ (Or.inr rfl)
      simp only [EnhancedInbound.inbound]
      split <;> exact fun same => by cases same
  | _ => exact iff_of_true (fun same => by cases same) (Or.inr rfl)

def sampleNetwork : NetworkAddr := ⟨0x0A1A0001, 0x0A1A00FF, 0x0A1A0003, 24⟩

def openSinks : Sinks := ⟨fun _ _ => true, fun _ _ => true, fun _ _ _ => true⟩

/-- A Turn packet that ends with its header, on a node with a TUN device. -/
theorem empty_turn_panics :
    EnhancedInbound.inbound ⟨.tun ⟨[]⟩, none⟩ openSinks 0 sampleNetwork .turn 0x0A1A0002
      ⟨⟨0x81, 0x54, 0, 0, 0, 0x0A1A0002, 0x0A1A0003⟩, []⟩ = .panic := by decide

end VntClient
