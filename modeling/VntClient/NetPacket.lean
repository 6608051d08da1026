import Mathlib

/-!
The packet header and payload of `protocol/ip_packet_protocol.rs`. A packet is
its sixteen header bytes, read as the fields of `NetHeader`, and the bytes
behind them.
-/

namespace VntClient

abbrev Bytes := List UInt8
abbrev Ipv4Addr := UInt32

/-- Nanoseconds on the monotonic clock. -/
abbrev Instant := Nat

def fromMillis (millis : Nat) : Nat := millis * 1000000
def fromSecs (secs : Nat) : Nat := secs * 1000000000

/-- An I/O result that also accounts for an index or slice out of range. -/
inductive Outcome (α : Type) where
  | ok (value : α)
  | err (message : String)
  | panic
deriving DecidableEq

namespace Outcome

def bind {α β : Type} (outcome : Outcome α) (next : α → Outcome β) : Outcome β :=
  match outcome with
  | ok value => next value
  | err message => err message
  | panic => panic

instance : Monad Outcome where
  pure := ok
  bind := bind

def isOk {α : Type} : Outcome α → Bool
  | ok _ => true
  | _ => false

@[simp] theorem ok_bind {α β : Type} (value : α) (next : α → Outcome β) :
    (ok value >>= next) = next value := rfl
@[simp] theorem err_bind {α β : Type} (message : String) (next : α → Outcome β) :
    (err message >>= next) = err message := rfl
@[simp] theorem panic_bind {α β : Type} (next : α → Outcome β) :
    ((panic : Outcome α) >>= next) = panic := rfl
@[simp] theorem pure_eq {α : Type} (value : α) : (pure value : Outcome α) = ok value := rfl

instance : LawfulMonad Outcome :=
  LawfulMonad.mk' Outcome (fun outcome => by cases outcome <;> rfl) (fun _ _ => rfl)
    (fun outcome _ _ => by cases outcome <;> rfl)

theorem bind_eq_ok {α β : Type} {outcome : Outcome α} {next : α → Outcome β} {value : β} :
    (outcome >>= next) = ok value ↔ ∃ result, outcome = ok result ∧ next result = ok value := by
  cases outcome with
  | ok result => simp
  | err message => simp
  | panic => simp

theorem isOk_iff {α : Type} {outcome : Outcome α} :
    outcome.isOk = true ↔ ∃ value, outcome = ok value := by
  cases outcome with
  | ok value => simp [isOk]
  | err message => simp [isOk]
  | panic => simp [isOk]

theorem isOk_eq_false_iff {α : Type} {outcome : Outcome α} :
    outcome.isOk = false ↔ ∀ value, outcome ≠ ok value := by
  rw [← Bool.not_eq_true, isOk_iff, not_exists]

end Outcome

def displayIp (ip : Ipv4Addr) : String :=
  let n := ip.toNat
  s!"{n / 16777216}.{n / 65536 % 256}.{n / 256 % 256}.{n % 256}"

structure NetHeader where
  typeByte : UInt8
  ttlByte : UInt8
  flagsByte : UInt8
  reserved : UInt8
  seq : UInt32
  srcId : UInt32
  destId : UInt32
deriving DecidableEq

def compressed : UInt8 := 0x80
def gateway : UInt8 := 0x40
def fec : UInt8 := 0x20

inductive MsgType where
  | turn | broadcast | excludeBroadcast | targetBroadcast
  | ping | pong | pingTurn | pongTurn
  | punchStart1 | punchStart2 | punchReq | punchRes
  | pushClientIps | rpcReq | rpcRes
  | quic
deriving DecidableEq

def MsgType.toByte : MsgType → UInt8
  | .turn => 1
  | .broadcast => 2
  | .excludeBroadcast => 3
  | .targetBroadcast => 4
  | .ping => 5
  | .pong => 6
  | .pingTurn => 7
  | .pongTurn => 8
  | .punchStart1 => 9
  | .punchStart2 => 10
  | .punchReq => 11
  | .punchRes => 12
  | .pushClientIps => 13
  | .rpcReq => 14
  | .rpcRes => 15
  | .quic => 17

def MsgType.tryFrom (value : UInt8) : Outcome MsgType :=
  if value = 1 then .ok .turn
  else if value = 2 then .ok .broadcast
  else if value = 3 then .ok .excludeBroadcast
  else if value = 4 then .ok .targetBroadcast
  else if value = 5 then .ok .ping
  else if value = 6 then .ok .pong
  else if value = 7 then .ok .pingTurn
  else if value = 8 then .ok .pongTurn
  else if value = 9 then .ok .punchStart1
  else if value = 10 then .ok .punchStart2
  else if value = 11 then .ok .punchReq
  else if value = 12 then .ok .punchRes
  else if value = 13 then .ok .pushClientIps
  else if value = 14 then .ok .rpcReq
  else if value = 15 then .ok .rpcRes
  else if value = 17 then .ok .quic
  else
    let number := value.toNat
    .err s!"invalid msg type:{number}"

@[simp] theorem MsgType.tryFrom_toByte (msgType : MsgType) :
    MsgType.tryFrom msgType.toByte = .ok msgType := by
  cases msgType <;> rfl

namespace NetHeader

def msgType (header : NetHeader) : UInt8 := header.typeByte &&& 0x7F
def setMsgType (header : NetHeader) (msgType : UInt8) : NetHeader :=
  { header with typeByte := (msgType &&& 0x7F) ||| 0x80 }

theorem msgType_setMsgType (header : NetHeader) (type : MsgType) :
    MsgType.tryFrom (header.setMsgType type.toByte).msgType = .ok type := by
  have kept : ((type.toByte &&& 0x7F) ||| 0x80) &&& 0x7F = type.toByte := by
    cases type <;> decide
  rw [msgType, setMsgType, kept, MsgType.tryFrom_toByte]

def maxTtl (header : NetHeader) : UInt8 := header.ttlByte >>> 4
def currTtl (header : NetHeader) : UInt8 := header.ttlByte &&& 0x0F
def setTtl (header : NetHeader) (max curr : UInt8) : NetHeader :=
  { header with ttlByte := (max <<< 4) ||| (curr &&& 0x0F) }

def decrTtl (header : NetHeader) : NetHeader :=
  let curr := header.currTtl
  if curr = 0 then header
  else { header with ttlByte := (header.ttlByte &&& 0xF0) ||| (curr - 1) }

def setFlag (header : NetHeader) (mask : UInt8) (val : Bool) : NetHeader :=
  if val then { header with flagsByte := header.flagsByte ||| mask }
  else { header with flagsByte := header.flagsByte &&& ~~~mask }

/-- The header a zeroed buffer holds. -/
def zeroed : NetHeader := ⟨0, 0, 0, 0, 0, 0, 0⟩

end NetHeader

def toBeBytes32 (word : UInt32) : Bytes :=
  [UInt8.ofNat (word.toNat / 16777216), UInt8.ofNat (word.toNat / 65536),
    UInt8.ofNat (word.toNat / 256), UInt8.ofNat word.toNat]

def fromBeBytes32 (a b c d : UInt8) : UInt32 :=
  UInt32.ofNat (a.toNat * 16777216 + b.toNat * 65536 + c.toNat * 256 + d.toNat)

def headLength : Nat := 16

structure NetPacket where
  header : NetHeader
  payload : Bytes
deriving DecidableEq

namespace NetPacket

def head (packet : NetPacket) : Bytes :=
  [packet.header.typeByte, packet.header.ttlByte, packet.header.flagsByte,
    packet.header.reserved] ++ toBeBytes32 packet.header.seq ++
    toBeBytes32 packet.header.srcId ++ toBeBytes32 packet.header.destId

def buffer (packet : NetPacket) : Bytes := packet.head ++ packet.payload

def new : Bytes → Outcome NetPacket
  | t :: l :: f :: r :: s0 :: s1 :: s2 :: s3 :: a0 :: a1 :: a2 :: a3 ::
      d0 :: d1 :: d2 :: d3 :: payload =>
    .ok { header := ⟨t, l, f, r, fromBeBytes32 s0 s1 s2 s3, fromBeBytes32 a0 a1 a2 a3,
            fromBeBytes32 d0 d1 d2 d3⟩
          payload }
  | _ => .err "invalid input"

theorem fromBeBytes32_toBeBytes32 (word : UInt32) :
    fromBeBytes32 (UInt8.ofNat (word.toNat / 16777216)) (UInt8.ofNat (word.toNat / 65536))
      (UInt8.ofNat (word.toNat / 256)) (UInt8.ofNat word.toNat) = word := by
  apply UInt32.toNat_inj.mp
  have bound := word.toNat_lt
  simp only [fromBeBytes32, UInt32.toNat_ofNat', UInt8.toNat_ofNat']
  omega

@[simp] theorem new_buffer (packet : NetPacket) : NetPacket.new packet.buffer = .ok packet := by
  simp only [buffer, head, toBeBytes32, List.cons_append, List.nil_append, new,
    fromBeBytes32_toBeBytes32]

theorem toBeBytes32_fromBeBytes32 (a b c d : UInt8) :
    toBeBytes32 (fromBeBytes32 a b c d) = [a, b, c, d] := by
  have ha := a.toNat_lt
  have hb := b.toNat_lt
  have hc := c.toNat_lt
  have hd := d.toNat_lt
  simp only [toBeBytes32, fromBeBytes32, UInt32.toNat_ofNat', List.cons.injEq, and_true]
  refine ⟨?_, ?_, ?_, ?_⟩ <;> apply UInt8.toNat_inj.mp <;> rw [UInt8.toNat_ofNat'] <;> omega

theorem buffer_of_new {data : Bytes} {packet : NetPacket} (read : NetPacket.new data = .ok packet) :
    packet.buffer = data := by
  unfold NetPacket.new at read
  split at read
  · cases read
    simp only [buffer, head, toBeBytes32_fromBeBytes32, List.cons_append, List.nil_append]
  · cases read

theorem head_length (packet : NetPacket) : packet.head.length = headLength := rfl

def zeroed (size : Nat) : NetPacket := ⟨NetHeader.zeroed, List.replicate size 0⟩

def msgType (packet : NetPacket) : Outcome MsgType := MsgType.tryFrom packet.header.msgType
def maxTtl (packet : NetPacket) : UInt8 := packet.header.maxTtl
def ttl (packet : NetPacket) : UInt8 := packet.header.currTtl
def seq (packet : NetPacket) : UInt32 := packet.header.seq
def srcId (packet : NetPacket) : UInt32 := packet.header.srcId
def destId (packet : NetPacket) : UInt32 := packet.header.destId
def isCompressed (packet : NetPacket) : Bool := packet.header.flagsByte &&& compressed != 0
def isGateway (packet : NetPacket) : Bool := packet.header.flagsByte &&& gateway != 0
def isFec (packet : NetPacket) : Bool := packet.header.flagsByte &&& fec != 0

def setMsgType (packet : NetPacket) (msgType : MsgType) : NetPacket :=
  { packet with header := packet.header.setMsgType msgType.toByte }
def decrTtl (packet : NetPacket) : NetPacket :=
  { packet with header := packet.header.decrTtl }
def setTtl (packet : NetPacket) (ttl : UInt8) : NetPacket :=
  { packet with header := packet.header.setTtl ttl ttl }
def setSrcId (packet : NetPacket) (id : UInt32) : NetPacket :=
  { packet with header := { packet.header with srcId := id } }
def setDestId (packet : NetPacket) (id : UInt32) : NetPacket :=
  { packet with header := { packet.header with destId := id } }
def setCompressedFlag (packet : NetPacket) (val : Bool) : NetPacket :=
  { packet with header := packet.header.setFlag compressed val }
def setGatewayFlag (packet : NetPacket) (val : Bool) : NetPacket :=
  { packet with header := packet.header.setFlag gateway val }
def setFecFlag (packet : NetPacket) (val : Bool) : NetPacket :=
  { packet with header := packet.header.setFlag fec val }

/-- `set_payload` writes over the front of the payload and fails when the data
does not fit. -/
def setPayload (packet : NetPacket) (data : Bytes) : Outcome NetPacket :=
  if packet.payload.length < data.length then .err "Invalid message length"
  else .ok { packet with payload := data ++ packet.payload.drop data.length }

@[simp] theorem setPayload_exact (packet : NetPacket) (data : Bytes)
    (fits : packet.payload.length = data.length) :
    packet.setPayload data = .ok { packet with payload := data } := by
  simp [setPayload, fits]

theorem setPayload_header {packet written : NetPacket} {data : Bytes}
    (wrote : packet.setPayload data = .ok written) : written.header = packet.header := by
  rw [setPayload] at wrote
  split at wrote
  · cases wrote
  · cases wrote
    rfl

end NetPacket
end VntClient
