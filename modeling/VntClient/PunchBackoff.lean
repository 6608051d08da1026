import VntClient.ClientProto
import VntClient.Machine
import VntClient.ServerInbound
import VntClient.Table

/-!
`context/nat.rs` and `p2p/transport/punch.rs`: when a node punches towards a peer.
A PunchStart2 is recorded and then punched without a check; a PunchStart1 is checked
against what is recorded, and records nothing.
-/

namespace VntClient

structure PunchState where
  count : Int
  lastTs : Int
deriving DecidableEq

structure PunchBackoff where
  inner : AList fun _ : Ipv4Addr => PunchState

namespace PunchBackoff

def maxBackoffMs : Int := 3600000

def baseMs : Int := 3000

def record (punchBackoff : PunchBackoff) (ip : Ipv4Addr) (now : Int) : PunchBackoff :=
  let entry := (punchBackoff.inner.lookup ip).getD ⟨0, 0⟩
  ⟨punchBackoff.inner.insert ip ⟨entry.count + 1, now⟩⟩

def shouldPunch (punchBackoff : PunchBackoff) (ip : Ipv4Addr) (now : Int) : Bool :=
  match punchBackoff.inner.lookup ip with
  | none => true
  | some state =>
      let elapsed := now - state.lastTs
      let backoff := baseMs * state.count
      decide (elapsed ≥ if backoff > maxBackoffMs then maxBackoffMs else backoff)

end PunchBackoff

structure PunchNow where
  srcIp : Ipv4Addr
  destIp : Ipv4Addr
  natInfo : Bytes
  delay : Option Nat
deriving DecidableEq

/-- What a call finds: the node's own address, the attempts so far, and whether there
is a puncher. -/
structure NatPuncher where
  network : Option Ipv4Addr
  punchBackoff : PunchBackoff
  puncher : Bool

namespace NatPuncher

/-- The task that is spawned, if one is. -/
def punchUncheckDelay (self : NatPuncher) (destIp : Ipv4Addr) (punchInfo : Bytes)
    (time : Option Nat) : Option PunchNow × Outcome Unit :=
  if !self.puncher then (none, .ok ())
  else
    match self.network with
    | none => (none, .err "not ip")
    | some srcIp => (some ⟨srcIp, destIp, punchInfo, time⟩, .ok ())

def punchUncheck (self : NatPuncher) (destIp : Ipv4Addr) (punchInfo : Bytes) :
    Option PunchNow × Outcome Unit :=
  self.punchUncheckDelay destIp punchInfo none

def punch (self : NatPuncher) (now : Int) (destIp : Ipv4Addr) (punchInfo : Bytes) :
    Option PunchNow × Outcome Bool :=
  if !self.puncher then (none, .ok false)
  else if !self.punchBackoff.shouldPunch destIp now then (none, .ok false)
  else
    let started := self.punchUncheckDelay destIp punchInfo (some 50)
    (started.1, started.2.bind fun _ => .ok true)

end NatPuncher

inductive PunchKind where
  | punchStart1
  | punchStart2
deriving DecidableEq

def PunchKind.msgType : PunchKind → MsgType
  | punchStart1 => .punchStart1
  | punchStart2 => .punchStart2

/-- A message of a peer, and what its handler finds: the time, the punch information of
the node and its address. -/
structure PunchMessage where
  kind : PunchKind
  src : Ipv4Addr
  payload : Bytes
  now : Int
  selfPunchInfo : Option Bytes
  network : Option Ipv4Addr
deriving DecidableEq

/-- The two branches of `process_decompressed_packet`: the attempts, and the task that
is spawned. -/
def NatPuncher.handle (parses : Bytes → Bool) (self : NatPuncher) (message : PunchMessage) :
    PunchBackoff × Option PunchNow :=
  match message.kind with
  | .punchStart1 =>
      if parses message.payload then
        match message.selfPunchInfo with
        | none => (self.punchBackoff, none)
        | some _ => (self.punchBackoff, (self.punch message.now message.src message.payload).1)
      else (self.punchBackoff, none)
  | .punchStart2 =>
      let punchBackoff := self.punchBackoff.record message.src message.now
      if parses message.payload then
        (punchBackoff, (self.punchUncheck message.src message.payload).1)
      else (punchBackoff, none)

section Branches
variable (parses : Bytes → Bool) {message : PunchMessage}

theorem NatPuncher.handle_punchStart1 (self : NatPuncher) (first : message.kind = .punchStart1) :
    (self.handle parses message).1 = self.punchBackoff := by
  simp only [NatPuncher.handle, first]
  repeat' split
  all_goals rfl

theorem NatPuncher.handle_punchStart2 (self : NatPuncher) (second : message.kind = .punchStart2) :
    (self.handle parses message).1 = self.punchBackoff.record message.src message.now := by
  simp only [NatPuncher.handle, second]
  split <;> rfl

theorem NatPuncher.handle_acted (self : NatPuncher) (first : message.kind = .punchStart1)
    (parsed : parses message.payload = true) {info : Bytes}
    (known : message.selfPunchInfo = some info) :
    (self.handle parses message).2 = (self.punch message.now message.src message.payload).1 := by
  simp only [NatPuncher.handle, first, parsed, known, if_true]

end Branches

section Handler
variable (config : NodeConfig) (puncher : NatPuncher) (clock : Clock)

def Effect.onPunch (punchBackoff : PunchBackoff) : Effect → PunchBackoff
  | .recordPunch ip => punchBackoff.record ip clock.ms
  | _ => punchBackoff

/-- What the handler of a server's packets finds for a packet. -/
def punchMessage (kind : PunchKind) (src : Ipv4Addr) (packet : NetPacket) : PunchMessage :=
  ⟨kind, src, packet.payload, clock.ms, config.punchInfo, puncher.network⟩

theorem processDecompressedPacket_punchBackoff (net : NetworkAddr) (kind : PunchKind)
    (src dest : Ipv4Addr) (state : NodeState) (packet : NetPacket) :
    (ServerTurnInboundHandler.processDecompressedPacket config clock net kind.msgType
        src dest state packet).effects.foldl (Effect.onPunch clock)
      puncher.punchBackoff =
    (puncher.handle config.parsesPunchInfo
      (punchMessage config puncher clock kind src packet)).1 := by
  cases kind with
  | punchStart1 =>
      rw [NatPuncher.handle_punchStart1 _ _ rfl]
      simp only [PunchKind.msgType, ServerTurnInboundHandler.processDecompressedPacket]
      repeat' split
      all_goals rfl
  | punchStart2 =>
      rw [NatPuncher.handle_punchStart2 _ _ rfl]
      simp only [PunchKind.msgType, ServerTurnInboundHandler.processDecompressedPacket]
      split <;> rfl

/-- A peer is answered only when a task was spawned for it. -/
theorem processDecompressedPacket_answered (net : NetworkAddr) (src dest : Ipv4Addr)
    (state : NodeState) (packet answer : NetPacket)
    (component : ∀ dest info,
      config.punch clock.now dest info = (puncher.punch clock.ms dest info).2)
    (answered : .sendTurn answer ∈ (ServerTurnInboundHandler.processDecompressedPacket config clock
      net .punchStart1 src dest state packet).effects) :
    ∃ spawned, (puncher.handle config.parsesPunchInfo
      (punchMessage config puncher clock .punchStart1 src packet)).2 = some spawned := by
  have punched : ∀ now dest info, (puncher.punch now dest info).2 = .ok true →
      ∃ spawned, (puncher.punch now dest info).1 = some spawned := by
    intro now dest info done
    simp only [NatPuncher.punch, NatPuncher.punchUncheckDelay] at done ⊢
    split at done
    · cases done
    · split at done
      · cases done
      · split at done
        · cases done
        · rename_i srcIp _
          simp_all
  simp only [ServerTurnInboundHandler.processDecompressedPacket, component] at answered
  split at answered
  · rename_i parsed
    cases known : config.punchInfo with
    | none => simp [known, Handled.done] at answered
    | some selfPunchInfo =>
        rw [NatPuncher.handle_acted _ _ rfl parsed known]
        simp only [known] at answered
        split at answered
        · rename_i done
          exact punched _ _ _ done
        all_goals simp at answered
  · cases answered

end Handler

/-- The attempts recorded, with what happened so far: for each peer the times of its
PunchStart2 and of the punches towards it, the last first, and whether one of these
answered a PunchStart1. -/
structure PunchNode where
  punchBackoff : PunchBackoff
  replies : Ipv4Addr → List Int
  punches : Ipv4Addr → List Int
  answered : Ipv4Addr → Bool

/-- As many milliseconds are over since the last of the attempts as their number asks for. -/
def Due (times : List Int) (now : Int) : Prop :=
  ∀ last ∈ times.head?, min (3000 * (times.length : Int)) 3600000 ≤ now - last

theorem PunchBackoff.capped (count : Int) :
    (if baseMs * count > maxBackoffMs then maxBackoffMs else baseMs * count) =
      min (3000 * count) 3600000 := by
  have named : min (3000 * count) 3600000 = min (baseMs * count) maxBackoffMs := rfl
  rw [named]
  split <;> omega

theorem shouldPunch_iff {punchBackoff : PunchBackoff} {ip : Ipv4Addr} {times : List Int}
    (counts : punchBackoff.inner.lookup ip = times.head?.map fun last => ⟨times.length, last⟩)
    (now : Int) : punchBackoff.shouldPunch ip now = true ↔ Due times now := by
  unfold PunchBackoff.shouldPunch Due
  rw [counts]
  cases times with
  | nil => simp
  | cons last rest =>
      simp only [List.head?_cons, Option.map_some, PunchBackoff.capped, ge_iff_le,
        decide_eq_true_eq, Option.mem_def, Option.some.injEq, forall_eq']

namespace PunchNode

def new : PunchNode := ⟨⟨∅⟩, fun _ => [], fun _ => [], fun _ => false⟩

section Messages
variable (parses : Bytes → Bool) (puncher : Bool)

def spawned (node : PunchNode) (message : PunchMessage) : Option PunchNow :=
  (NatPuncher.handle parses ⟨message.network, node.punchBackoff, puncher⟩ message).2

def step (node : PunchNode) (message : PunchMessage) : PunchNode × List PunchNow :=
  let handled := NatPuncher.handle parses ⟨message.network, node.punchBackoff, puncher⟩ message
  let first := decide (message.kind = .punchStart1)
  ({ punchBackoff := handled.1
     replies :=
       if first then node.replies
       else Function.update node.replies message.src (message.now :: node.replies message.src)
     punches :=
       if handled.2.isNone then node.punches
       else Function.update node.punches message.src (message.now :: node.punches message.src)
     answered :=
       if first && handled.2.isSome then Function.update node.answered message.src true
       else node.answered },
    handled.2.toList)

/-- Once a punch has answered a PunchStart1 of the peer, another one does so only after
the time that the number of punches asks for. -/
def Limited (node : PunchNode) (message : PunchMessage) : Prop :=
  message.kind = .punchStart1 → node.answered message.src = true →
    (node.spawned parses puncher message).isSome = true → Due (node.punches message.src) message.now

/-- The message can be acted on: it parses, and there is all that a punch needs. -/
def Actable (message : PunchMessage) : Prop :=
  parses message.payload = true ∧ message.selfPunchInfo.isSome = true ∧ puncher = true ∧
    message.network.isSome = true

/-- Once a punch has answered a PunchStart1 of the peer, another one that can be acted on
comes after that time, or while the peer's PunchStart2 hold it off. -/
def Spaced (node : PunchNode) (message : PunchMessage) : Prop :=
  message.kind = .punchStart1 → node.answered message.src = true → Actable parses puncher message →
    Due (node.punches message.src) message.now ∨ ¬ Due (node.replies message.src) message.now

/-- What is recorded are the PunchStart2. -/
def Counts (node : PunchNode) : Prop :=
  ∀ ip, node.punchBackoff.inner.lookup ip =
    (node.replies ip).head?.map fun last => ⟨(node.replies ip).length, last⟩

variable {node : PunchNode} {message : PunchMessage}

theorem Counts.step (counts : node.Counts) (message : PunchMessage) :
    (node.step parses puncher message).1.Counts := by
  cases kind : message.kind with
  | punchStart1 =>
      simp only [Counts, PunchNode.step, kind, decide_true, if_true]
      rw [NatPuncher.handle_punchStart1 _ _ kind]
      exact counts
  | punchStart2 =>
      simp only [Counts, PunchNode.step, kind, reduceCtorEq, decide_false, Bool.false_eq_true,
        if_false]
      rw [NatPuncher.handle_punchStart2 _ _ kind]
      intro ip
      rw [PunchBackoff.record, counts message.src]
      by_cases same : ip = message.src
      · subst same
        rw [AList.lookup_insert, Function.update_self]
        cases node.replies message.src <;> simp
      · rw [AList.lookup_insert_ne same, Function.update_of_ne same]
        exact counts ip

theorem spawned_iff (counts : node.Counts) (first : message.kind = .punchStart1) :
    (node.spawned parses puncher message).isSome = true ↔
      Actable parses puncher message ∧ Due (node.replies message.src) message.now := by
  have due := shouldPunch_iff (counts message.src) message.now
  simp only [spawned, NatPuncher.handle, first, NatPuncher.punch, NatPuncher.punchUncheckDelay,
    Actable, ← due]
  cases parses message.payload with
  | false => simp
  | true =>
      cases message.selfPunchInfo with
      | none => simp
      | some info =>
          cases puncher with
          | false => simp
          | true =>
              cases node.punchBackoff.shouldPunch message.src message.now with
              | false => simp
              | true => cases message.network <;> simp

end Messages

/-- In every run of messages, over any clock, the punches that answer a PunchStart1 are
limited exactly as far as these messages are spaced. -/
theorem punches_limited_iff (parses : Bytes → Bool) (puncher : Bool)
    (messages : List PunchMessage) :
    Machine.Along (step parses puncher) (Limited parses puncher) new messages ↔
      Machine.Along (step parses puncher) (Spaced parses puncher) new messages := by
  apply Machine.along_iff (step parses puncher) Counts
  · intro node message _ counts _
    exact counts.step parses puncher message
  · intro node message _ counts
    apply forall_congr'
    intro first
    apply forall_congr'
    intro _
    rw [spawned_iff parses puncher counts first]
    constructor
    · intro limited actable
      exact or_iff_not_imp_right.mpr fun due => limited ⟨actable, not_not.mp due⟩
    · rintro spaced ⟨actable, due⟩
      exact (spaced actable).resolve_right (not_not.mpr due)
  · intro ip
    rfl

def repeatedStart : List PunchMessage :=
  [⟨.punchStart1, 0x0A1A0002, [10, 0], 0, some [10, 0], some 0x0A1A0003⟩,
    ⟨.punchStart1, 0x0A1A0002, [10, 0], 1, some [10, 0], some 0x0A1A0003⟩]

/-- Both are punched at once. -/
theorem repeated_start_unlimited :
    ¬ Machine.Along (step PunchInfo.parses true) (Limited PunchInfo.parses true) new
      repeatedStart := by
  rintro ⟨-, limited, -⟩
  have due := limited rfl (by decide +kernel) (by decide +kernel) 0 (by decide +kernel)
  exact absurd due (by decide +kernel)

end PunchNode
end VntClient
