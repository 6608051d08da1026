import VntClient.Chronicle
import VntClient.ClientProto
import VntClient.PeerNetwork
import VntClient.PunchBackoff
import VntClient.PunchedRoutes

/-!
How two nodes agree to punch, `punch_task` against the handlers of PunchStart1 and
PunchStart2: only the lower of two addresses asks, the other one punches before it answers,
and the answer makes the first one punch. Messages on the way may be lost, repeated and
overtaken.
-/

namespace VntClient

structure PunchPacket where
  kind : PunchKind
  src : Ipv4Addr
  dest : Ipv4Addr
  payload : Bytes
deriving DecidableEq

/-- Both kinds are made alike, with a TTL that takes them over the server. -/
def PunchPacket.packet (packet : PunchPacket) : Outcome NetPacket :=
  controlPacket packet.payload.length packet.kind.msgType 2 packet.src packet.dest packet.payload

/-- What the receiver reads off the packet. -/
theorem PunchPacket.packet_reads (packet : PunchPacket) : ∃ sent, packet.packet = .ok sent ∧
    sent.msgType = .ok packet.kind.msgType ∧ sent.srcId = packet.src ∧
      sent.destId = packet.dest ∧ sent.payload = packet.payload := by
  refine ⟨_, NetPacket.setPayload_exact _ _ ?_, ?_, rfl, rfl, rfl⟩
  · exact List.length_replicate
  · exact NetHeader.msgType_setMsgType NetHeader.zeroed packet.kind.msgType

namespace PunchInfo

/-- As every node makes it: its own address is the first of those it tells. -/
def Announced (info : PunchInfo) : Prop :=
  info.natInfo.localIpv4s.head?.getD 0 = info.natInfo.localIpv4

end PunchInfo

/-- What a node knows of itself when it asks or answers. -/
structure PunchSelf where
  events : List MyNatInfoEvent
  network : Option NetworkAddr
  subnetRoute : SubnetExternalRoute

namespace PunchSelf

def state (isIpv4Global : Ipv4Addr → Bool) (self : PunchSelf) : AppState :=
  ⟨MyNatInfo.replay isIpv4Global self.events, self.network, self.subnetRoute⟩

def info (isIpv4Global : Ipv4Addr → Bool) (self : PunchSelf) : Option PunchInfo :=
  (self.state isIpv4Global).getPunchInfo

theorem announced {isIpv4Global : Ipv4Addr → Bool} {self : PunchSelf} {info : PunchInfo}
    (known : self.info isIpv4Global = some info) : info.Announced := by
  obtain ⟨stored, there, rfl⟩ := Option.map_eq_some_iff.mp known
  exact (MyNatInfo.own_replay isIpv4Global self.events stored there).filterIp _

end PunchSelf

/-- One peer in a round of `punch_task`, with what the round knows of it. -/
def punchCandidate (srcIp : Ipv4Addr) (punchInfo : PunchInfo) (anyServerConnected : Bool)
    (routeTable : RouteTable) (punchBackoff : PunchBackoff) (destIp : Ipv4Addr) (now : Int) :
    Option PunchPacket :=
  if destIp ≤ srcIp then none
  else if anyServerConnected && routeTable.needPunch destIp then
    if !punchBackoff.shouldPunch destIp now then none
    else some ⟨.punchStart1, srcIp, destIp, punchInfo.encode PunchInfo.codec⟩
  else none

theorem punchCandidate_eq_some {srcIp destIp : Ipv4Addr} {punchInfo : PunchInfo}
    {anyServerConnected : Bool} {routeTable : RouteTable} {punchBackoff : PunchBackoff} {now : Int}
    {packet : PunchPacket} (sent : punchCandidate srcIp punchInfo anyServerConnected routeTable
      punchBackoff destIp now = some packet) :
    srcIp < destIp ∧ packet = ⟨.punchStart1, srcIp, destIp, punchInfo.encode PunchInfo.codec⟩ := by
  rw [punchCandidate] at sent
  split at sent
  · cases sent
  · rename_i higher
    split at sent
    · split at sent
      · cases sent
      · exact ⟨UInt32.not_le.mp higher, (Option.some.inj sent).symm⟩
    · cases sent

structure PunchAnswer where
  punchBackoff : PunchBackoff
  spawned : Option PunchNow
  reply : Option PunchPacket

/-- A PunchStart1 is answered when a punch was spawned for it. -/
def replyTo (packet : PunchPacket) (spawned : Option PunchNow) (selfPunchInfo : Option PunchInfo) :
    Option PunchPacket :=
  match packet.kind, spawned, selfPunchInfo with
  | .punchStart1, some _, some info =>
      some ⟨.punchStart2, packet.dest, packet.src, info.encode PunchInfo.codec⟩
  | _, _, _ => none

def PunchPacket.message (packet : PunchPacket) (now : Int) (selfPunchInfo : Option PunchInfo) :
    PunchMessage :=
  ⟨packet.kind, packet.src, packet.payload, now,
    selfPunchInfo.map (PunchInfo.encode PunchInfo.codec), some packet.dest⟩

def answerPunch (puncher : Bool) (punchBackoff : PunchBackoff) (packet : PunchPacket) (now : Int)
    (selfPunchInfo : Option PunchInfo) : PunchAnswer :=
  let handled := NatPuncher.handle PunchInfo.parses ⟨some packet.dest, punchBackoff, puncher⟩
    (packet.message now selfPunchInfo)
  ⟨handled.1, handled.2, replyTo packet handled.2 selfPunchInfo⟩

namespace NatPuncher
variable {puncher : Bool} {punchBackoff : PunchBackoff} {destIp self : Ipv4Addr} {now : Int}
  {payload : Bytes} {task : PunchNow}

theorem punch_eq_some
    (spawned : (punch ⟨some self, punchBackoff, puncher⟩ now destIp payload).1 = some task) :
    task = ⟨self, destIp, payload, some 50⟩ := by
  cases puncher with
  | false => cases spawned
  | true =>
      simp only [punch, Bool.not_true, Bool.false_eq_true, ↓reduceIte] at spawned
      split at spawned
      · cases spawned
      · exact (Option.some.inj spawned).symm

theorem punch_spawned (destIp self : Ipv4Addr) (payload : Bytes) :
    (punch ⟨some self, punchBackoff, puncher⟩ now destIp payload).2 =
      .ok (punch ⟨some self, punchBackoff, puncher⟩ now destIp payload).1.isSome := by
  cases puncher with
  | false => rfl
  | true =>
      simp only [punch, Bool.not_true, Bool.false_eq_true, ↓reduceIte]
      split
      · rfl
      · rfl

theorem punchUncheck_eq_some
    (spawned : (punchUncheck ⟨some self, punchBackoff, puncher⟩ destIp payload).1 = some task) :
    task = ⟨self, destIp, payload, none⟩ := by
  cases puncher with
  | false => cases spawned
  | true => exact (Option.some.inj spawned).symm

end NatPuncher

section Answer
variable (puncher : Bool) (punchBackoff : PunchBackoff) {packet : PunchPacket} (now : Int)
  (selfPunchInfo : Option PunchInfo)

/-- A PunchStart1 changes nothing that is recorded; what it spawns waits for the answer. -/
theorem answerPunch_start1 (first : packet.kind = .punchStart1) :
    answerPunch puncher punchBackoff packet now selfPunchInfo = ⟨punchBackoff, none, none⟩ ∨
      answerPunch puncher punchBackoff packet now selfPunchInfo =
        ⟨punchBackoff, some ⟨packet.dest, packet.src, packet.payload, some 50⟩,
          selfPunchInfo.map fun info =>
            ⟨.punchStart2, packet.dest, packet.src, info.encode PunchInfo.codec⟩⟩ := by
  have recorded : (NatPuncher.handle PunchInfo.parses ⟨some packet.dest, punchBackoff, puncher⟩
      (packet.message now selfPunchInfo)).1 = punchBackoff :=
    NatPuncher.handle_punchStart1 _ _ first
  have spawns : ∀ task, (NatPuncher.handle PunchInfo.parses
      ⟨some packet.dest, punchBackoff, puncher⟩ (packet.message now selfPunchInfo)).2 = some task →
        task = ⟨packet.dest, packet.src, packet.payload, some 50⟩ := by
    intro task spawned
    simp only [NatPuncher.handle, PunchPacket.message, first] at spawned
    split at spawned
    · split at spawned
      · cases spawned
      · exact NatPuncher.punch_eq_some spawned
    · cases spawned
  rw [answerPunch]
  generalize NatPuncher.handle PunchInfo.parses ⟨some packet.dest, punchBackoff, puncher⟩
    (packet.message now selfPunchInfo) = handled at recorded spawns ⊢
  obtain ⟨kept, spawned⟩ := handled
  cases recorded
  cases spawned with
  | none => exact .inl (by simp [replyTo])
  | some task =>
      cases spawns task rfl
      refine .inr ?_
      cases selfPunchInfo with
      | none | some info => simp [replyTo, first]

/-- A PunchStart2 is recorded in any case and never answered. -/
theorem answerPunch_start2 (second : packet.kind = .punchStart2) :
    answerPunch puncher punchBackoff packet now selfPunchInfo =
        ⟨punchBackoff.record packet.src now, none, none⟩ ∨
      answerPunch puncher punchBackoff packet now selfPunchInfo =
        ⟨punchBackoff.record packet.src now,
          some ⟨packet.dest, packet.src, packet.payload, none⟩, none⟩ := by
  have recorded : (NatPuncher.handle PunchInfo.parses ⟨some packet.dest, punchBackoff, puncher⟩
      (packet.message now selfPunchInfo)).1 = punchBackoff.record packet.src now :=
    NatPuncher.handle_punchStart2 _ _ second
  have spawns : ∀ task, (NatPuncher.handle PunchInfo.parses
      ⟨some packet.dest, punchBackoff, puncher⟩ (packet.message now selfPunchInfo)).2 = some task →
        task = ⟨packet.dest, packet.src, packet.payload, none⟩ := by
    intro task spawned
    simp only [NatPuncher.handle, PunchPacket.message, second] at spawned
    split at spawned
    · exact NatPuncher.punchUncheck_eq_some spawned
    · cases spawned
  rw [answerPunch]
  generalize NatPuncher.handle PunchInfo.parses ⟨some packet.dest, punchBackoff, puncher⟩
    (packet.message now selfPunchInfo) = handled at recorded spawns ⊢
  obtain ⟨kept, spawned⟩ := handled
  obtain rfl : kept = punchBackoff.record packet.src now := recorded
  cases spawned with
  | none => exact .inl (by simp [replyTo])
  | some task =>
      cases spawns task rfl
      exact .inr (by simp [replyTo, second])

end Answer

section Handler
variable (config : NodeConfig) (clock : Clock) (net : NetworkAddr) (puncher : Bool)
  (punchBackoff : PunchBackoff) (selfPunchInfo : Option PunchInfo)

theorem processDecompressedPacket_reply (state : NodeState) (packet : PunchPacket)
    (netPacket : NetPacket) (payload : netPacket.payload = packet.payload)
    (parses : config.parsesPunchInfo = PunchInfo.parses)
    (info : config.punchInfo = selfPunchInfo.map (PunchInfo.encode PunchInfo.codec))
    (punch : ∀ destIp info, config.punch clock.now destIp info =
      (NatPuncher.punch ⟨some packet.dest, punchBackoff, puncher⟩ clock.ms destIp info).2)
    (answer : NetPacket) :
    .sendTurn answer ∈ (ServerTurnInboundHandler.processDecompressedPacket config clock net
        packet.kind.msgType packet.src packet.dest state netPacket).effects ↔
      ∃ reply sent, (answerPunch puncher punchBackoff packet clock.ms selfPunchInfo).reply =
        some reply ∧ reply.packet = .ok sent ∧ answer = config.packetCrypto.encryptInPlace sent := by
  obtain ⟨kind, src, dest, bytes⟩ := packet
  cases kind with
  | punchStart2 =>
      have silent : replyTo ⟨.punchStart2, src, dest, bytes⟩ = fun _ _ => none := rfl
      simp only [answerPunch, silent, reduceCtorEq, false_and, exists_false, iff_false]
      simp only [PunchKind.msgType, ServerTurnInboundHandler.processDecompressedPacket]
      split
      · simp
      · simp
  | punchStart1 =>
      simp only [PunchKind.msgType, ServerTurnInboundHandler.processDecompressedPacket, parses,
        payload, info, answerPunch, PunchPacket.message]
      simp only [NatPuncher.handle]
      cases PunchInfo.parses bytes with
      | false => simp [replyTo]
      | true =>
          cases selfPunchInfo with
          | none => simp [replyTo, Handled.done]
          | some selfInfo =>
              simp only [↓reduceIte, Option.map_some, punch, NatPuncher.punch_spawned]
              cases (NatPuncher.punch ⟨some dest, punchBackoff, puncher⟩ clock.ms src bytes).1 with
              | none => simp [replyTo]
              | some task =>
                  obtain ⟨sent, made, _⟩ := PunchPacket.packet_reads
                    ⟨.punchStart2, dest, src, selfInfo.encode PunchInfo.codec⟩
                  have built := made
                  rw [PunchPacket.packet] at built
                  simp only [PunchKind.msgType] at built
                  simp [replyTo, built, made]

end Handler

/-- What every node has recorded, and the messages sent so far, any of which may still arrive. -/
structure PunchNetwork where
  backoffs : Ipv4Addr → PunchBackoff
  flight : List PunchPacket

inductive PunchEvent
  | candidate (src dest : Ipv4Addr) (self : PunchSelf) (anyServerConnected : Bool)
      (routeTable : RouteTable) (now : Int)
  | deliver (index : Nat) (self : PunchSelf) (now : Int)

inductive PunchNote
  | sent (packet : PunchPacket) (info : PunchInfo)
  | spawned (task : PunchNow)
  | recorded (node peer : Ipv4Addr)

namespace PunchNetwork
variable (isIpv4Global : Ipv4Addr → Bool) (puncher : Ipv4Addr → Bool)

def new : PunchNetwork := ⟨fun _ => ⟨∅⟩, []⟩

def ask (network : PunchNetwork) (packet : PunchPacket) (info : PunchInfo) :
    PunchNetwork × List PunchNote :=
  ({ network with flight := network.flight ++ [packet] }, [.sent packet info])

def replied (answer : PunchAnswer) (selfPunchInfo : Option PunchInfo) : List PunchNote :=
  match answer.reply, selfPunchInfo with
  | some reply, some info => [.sent reply info]
  | _, _ => []

def receive (network : PunchNetwork) (packet : PunchPacket) (now : Int)
    (selfPunchInfo : Option PunchInfo) : PunchNetwork × List PunchNote :=
  let answer := answerPunch (puncher packet.dest) (network.backoffs packet.dest) packet now
    selfPunchInfo
  ({ backoffs := Function.update network.backoffs packet.dest answer.punchBackoff
     flight := network.flight ++ answer.reply.toList },
    (if packet.kind = .punchStart2 then [.recorded packet.dest packet.src] else []) ++
      answer.spawned.toList.map .spawned ++ replied answer selfPunchInfo)

def step (network : PunchNetwork) : PunchEvent → PunchNetwork × List PunchNote
  | .candidate src dest self anyServerConnected routeTable now =>
      match self.info isIpv4Global with
      | none => (network, [])
      | some info =>
          match punchCandidate src info anyServerConnected routeTable (network.backoffs src) dest
            now with
          | none => (network, [])
          | some packet => network.ask packet info
  | .deliver index self now =>
      match network.flight[index]? with
      | none => (network, [])
      | some packet => network.receive puncher packet now (self.info isIpv4Global)

end PunchNetwork

namespace PunchNote

/-- The higher of two nodes has punched towards the lower one. -/
def Punched (notes : List PunchNote) (high low : Ipv4Addr) : Prop :=
  low < high ∧ ∃ natInfo, spawned ⟨high, low, natInfo, some 50⟩ ∈ notes

/-- The lower node asks, and the higher one answers once it has punched. -/
def Role (notes : List PunchNote) (packet : PunchPacket) : Prop :=
  match packet.kind with
  | .punchStart1 => packet.src < packet.dest
  | .punchStart2 => Punched notes packet.src packet.dest

/-- The addresses to punch are those that the peer has told of itself. -/
def Informed (notes : List PunchNote) (task : PunchNow) : Prop :=
  ∃ packet info, sent packet info ∈ notes ∧ packet.src = task.destIp ∧ packet.dest = task.srcIp ∧
    packet.payload = task.natInfo ∧
    (task.natInfo.length < 2 ^ 64 →
      PunchInfo.fromSlice PunchInfo.codec task.natInfo = .ok ⟨info.natInfo.withoutMappings⟩)

/-- What comes before each note: nobody punches but for a message of the peer, and the lower
node only when the other one has. -/
def Fits (before : List PunchNote) : PunchNote → Prop
  | sent packet info => packet.payload = info.encode PunchInfo.codec ∧ Role before packet
  | spawned task => Informed before task ∧
      (task.delay = some 50 ∧ task.destIp < task.srcIp ∨
        task.delay = none ∧ Punched before task.destIp task.srcIp)
  | recorded node peer => Punched before peer node

variable {notes more : List PunchNote}

theorem Punched.mono {high low : Ipv4Addr} (opened : Punched notes high low) (more : List PunchNote) :
    Punched (notes ++ more) high low := by
  obtain ⟨lower, natInfo, member⟩ := opened
  exact ⟨lower, natInfo, List.mem_append_left _ member⟩

theorem Role.mono {packet : PunchPacket} (role : Role notes packet) (more : List PunchNote) :
    Role (notes ++ more) packet := by
  unfold Role at role ⊢
  cases kind : packet.kind with
  | punchStart1 =>
      rw [kind] at role
      exact role
  | punchStart2 =>
      rw [kind] at role
      exact Punched.mono role more

end PunchNote

namespace PunchNetwork
open PunchNote

/-- The messages on their way are the ones sent, and only the lower node has recorded attempts. -/
structure Sound (network : PunchNetwork) (notes : List PunchNote) : Prop where
  flight : ∀ packet ∈ network.flight, Role notes packet ∧ ∃ info : PunchInfo, info.Announced ∧
    packet.payload = info.encode PunchInfo.codec ∧ .sent packet info ∈ notes
  backoffs : ∀ node peer, peer ≤ node → (network.backoffs node).inner.lookup peer = none

variable {isIpv4Global : Ipv4Addr → Bool} {puncher : Ipv4Addr → Bool} {network : PunchNetwork}
  {notes : List PunchNote}

theorem Sound.later (sound : network.Sound notes) (more : List PunchNote) :
    network.Sound (notes ++ more) := by
  refine ⟨fun packet member => ?_, sound.backoffs⟩
  obtain ⟨role, info, announced, payload, sent⟩ := sound.flight packet member
  exact ⟨role.mono more, info, announced, payload, List.mem_append_left _ sent⟩

theorem Sound.send (sound : network.Sound notes) {packet : PunchPacket} {info : PunchInfo}
    (announced : info.Announced) (payload : packet.payload = info.encode PunchInfo.codec)
    (role : Role notes packet) :
    ({ network with flight := network.flight ++ [packet] } : PunchNetwork).Sound
      (notes ++ [.sent packet info]) := by
  refine ⟨fun other member => ?_, sound.backoffs⟩
  rcases List.mem_append.mp member with earlier | last
  · exact (sound.later _).flight other earlier
  · cases List.mem_singleton.mp last
    exact ⟨role.mono _, info, announced, payload, by simp⟩

theorem Sound.informed (sound : network.Sound notes) {packet : PunchPacket}
    (member : packet ∈ network.flight) (delay : Option Nat) :
    Informed notes ⟨packet.dest, packet.src, packet.payload, delay⟩ := by
  obtain ⟨_, info, announced, payload, sent⟩ := sound.flight packet member
  refine ⟨packet, info, sent, rfl, rfl, rfl, fun short => ?_⟩
  rw [payload] at short ⊢
  exact PunchInfo.fromSlice_codec announced short

theorem ask_kept (sound : network.Sound notes) (chronicle : Chronicle Fits notes)
    {packet : PunchPacket} {info : PunchInfo} (announced : info.Announced)
    (payload : packet.payload = info.encode PunchInfo.codec) (role : Role notes packet) :
    (network.ask packet info).1.Sound (notes ++ (network.ask packet info).2) ∧
      Chronicle Fits (notes ++ (network.ask packet info).2) :=
  ⟨sound.send announced payload role, chronicle.add ⟨payload, role⟩⟩

theorem receive_start1_kept (sound : network.Sound notes) (chronicle : Chronicle Fits notes)
    {packet : PunchPacket} (member : packet ∈ network.flight)
    (first : packet.kind = .punchStart1) (now : Int) {selfPunchInfo : Option PunchInfo}
    (announced : ∀ info ∈ selfPunchInfo, info.Announced) :
    (network.receive puncher packet now selfPunchInfo).1.Sound
        (notes ++ (network.receive puncher packet now selfPunchInfo).2) ∧
      Chronicle Fits (notes ++ (network.receive puncher packet now selfPunchInfo).2) := by
  -- The sender checked the order of the addresses, the receiver does not.
  have lower : packet.src < packet.dest := by
    have role := (sound.flight packet member).1
    rwa [Role, first] at role
  rw [receive]
  obtain ignored | punched := answerPunch_start1 (puncher packet.dest)
    (network.backoffs packet.dest) now selfPunchInfo first
  · simpa [ignored, first, replied] using ⟨sound, chronicle⟩
  · have spawned : Chronicle Fits (notes ++
        [.spawned ⟨packet.dest, packet.src, packet.payload, some 50⟩]) :=
      chronicle.add ⟨sound.informed member _, .inl ⟨rfl, lower⟩⟩
    simp only [punched, first, reduceCtorEq, ↓reduceIte, Function.update_eq_self,
      List.nil_append, Option.toList_some, List.map_singleton]
    cases selfPunchInfo with
    | none =>
        simpa [replied] using ⟨sound.later
          [.spawned ⟨packet.dest, packet.src, packet.payload, some 50⟩], spawned⟩
    | some info =>
        rw [← List.append_assoc]
        exact ask_kept (sound.later _) spawned (announced info rfl) rfl
          ⟨lower, packet.payload, by simp⟩

theorem receive_start2_kept (sound : network.Sound notes) (chronicle : Chronicle Fits notes)
    {packet : PunchPacket} (member : packet ∈ network.flight)
    (second : packet.kind = .punchStart2) (now : Int) (selfPunchInfo : Option PunchInfo) :
    (network.receive puncher packet now selfPunchInfo).1.Sound
        (notes ++ (network.receive puncher packet now selfPunchInfo).2) ∧
      Chronicle Fits (notes ++ (network.receive puncher packet now selfPunchInfo).2) := by
  have opened : Punched notes packet.src packet.dest := by
    have role := (sound.flight packet member).1
    rwa [Role, second] at role
  have informed := (sound.later [.recorded packet.dest packet.src]).informed member
  have recorded : Chronicle Fits (notes ++ [.recorded packet.dest packet.src]) :=
    chronicle.add opened
  have backoffs : ∀ node peer, peer ≤ node → (Function.update network.backoffs packet.dest
      ((network.backoffs packet.dest).record packet.src now) node).inner.lookup peer = none := by
    intro node peer below
    by_cases same : node = packet.dest
    · subst same
      rw [Function.update_self, PunchBackoff.record, AList.lookup_insert_ne]
      · exact sound.backoffs _ peer below
      · rintro rfl
        exact absurd opened.1 (UInt32.not_lt.mpr below)
    · rw [Function.update_of_ne same]
      exact sound.backoffs node peer below
  rw [receive]
  obtain ignored | punched := answerPunch_start2 (puncher packet.dest)
    (network.backoffs packet.dest) now selfPunchInfo second
  · simp only [ignored, second, ↓reduceIte, replied, Option.toList_none, List.map_nil,
      List.append_nil]
    exact ⟨⟨(sound.later _).flight, backoffs⟩, recorded⟩
  · simp only [punched, second, ↓reduceIte, replied, Option.toList_none, Option.toList_some,
      List.map_singleton, List.append_nil]
    rw [← List.append_assoc]
    exact ⟨⟨((sound.later _).later _).flight, backoffs⟩,
      recorded.add ⟨informed _, .inr ⟨rfl, opened.mono _⟩⟩⟩

variable (isIpv4Global puncher) in
theorem step_kept (sound : network.Sound notes) (chronicle : Chronicle Fits notes)
    (event : PunchEvent) :
    (network.step isIpv4Global puncher event).1.Sound
        (notes ++ (network.step isIpv4Global puncher event).2) ∧
      Chronicle Fits (notes ++ (network.step isIpv4Global puncher event).2) := by
  have unmoved : network.Sound (notes ++ []) ∧ Chronicle Fits (notes ++ []) := by
    rw [List.append_nil]
    exact ⟨sound, chronicle⟩
  cases event with
  | candidate src dest self anyServerConnected routeTable now =>
      rw [step]
      split
      · exact unmoved
      · rename_i info known
        split
        · exact unmoved
        · rename_i packet asked
          obtain ⟨lower, rfl⟩ := punchCandidate_eq_some asked
          exact ask_kept sound chronicle (PunchSelf.announced known) rfl lower
  | deliver index self now =>
      rw [step]
      split
      · exact unmoved
      · rename_i packet found
        have member := List.mem_of_getElem? found
        cases kind : packet.kind with
        | punchStart1 =>
            exact receive_start1_kept sound chronicle member kind now
              fun info known => PunchSelf.announced known
        | punchStart2 => exact receive_start2_kept sound chronicle member kind now _

/-- However messages are lost, repeated and overtaken among any nodes: only the lower of two
nodes asks and is ever held off; a node punches for a message of its peer only, at the
addresses the peer has told; and when the lower one does, the higher one has. -/
theorem punches_are_mutual (isIpv4Global : Ipv4Addr → Bool) (puncher : Ipv4Addr → Bool)
    (events : List PunchEvent) :
    Chronicle Fits (Machine.run (step isIpv4Global puncher) new events).2 ∧
    ∀ node peer, peer ≤ node → ∀ now, ((Machine.run (step isIpv4Global puncher) new
      events).1.backoffs node).shouldPunch peer now = true := by
  have initial : new.Sound [] := ⟨fun packet none => (by cases none), fun node peer _ => rfl⟩
  obtain ⟨sound, chronicle⟩ := Chronicle.run Sound (fun network notes event sound chronicle =>
    step_kept isIpv4Global puncher sound chronicle event) initial Chronicle.nil events
  refine ⟨chronicle, fun node peer below now => ?_⟩
  rw [PunchBackoff.shouldPunch, sound.backoffs node peer below]

end PunchNetwork
end VntClient
