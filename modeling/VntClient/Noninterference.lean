import VntClient.Acceptance

/-!
What packets without the key can do to the IP data a node takes: two runs of the handlers
that differ in nothing but such packets.
-/

namespace VntClient

/-- IP data on its way to `EnhancedInbound`. -/
def Effect.ipv4Payload : Effect → Option Bytes
  | .inbound .turn _ packet | .inbound .broadcast _ packet
  | .inbound .excludeBroadcast _ packet => some packet.payload
  | _ => none

def NodeConfig.ipv4Payloads (config : NodeConfig) (start : NodeState) (run : List Incoming) :
    List Bytes :=
  (Machine.run config.step start run).2.filterMap Effect.ipv4Payload

/-- A packet of a client that does not open under the key or is never opened. -/
def NodeConfig.Unauthenticated (config : NodeConfig) (packet : NetPacket) : Prop :=
  packet.isGateway = false ∧
    (packet.msgType = .ok .quic ∨ (config.packetCrypto.decryptInPlace packet).isOk = false)

def NodeConfig.Forged (config : NodeConfig) (incoming : Incoming) : Prop :=
  ∀ packet, NetPacket.new incoming.data = .ok packet → config.Unauthenticated packet

def ReadableShard (payload : Bytes) : Prop :=
  ∃ shard, FecPacket.decode payload = some shard ∧ shard.packetIndex.toNat ≤ maxNum

def NodeConfig.FeedsDecoder (config : NodeConfig) (incoming : Incoming) : Prop :=
  ∃ packet, NetPacket.new incoming.data = .ok packet ∧ packet.msgType = .ok .quic ∧
    packet.isFec = true ∧ incoming.entrance.takes config packet.header = true ∧
    ReadableShard packet.payload

/-- Two runs of a node that agree but for packets without the key. -/
def NodeConfig.DifferInForged (config : NodeConfig) (pairs : List (Machine.Paired Incoming)) : Prop :=
  ∀ pair ∈ pairs, ∀ incoming, pair.apart = some incoming → config.Forged incoming

section Quiet
variable {config : NodeConfig} {clock : Clock} {state : NodeState} {wire : NetPacket}

/-- Neither the state nor the IP data show anything of it. -/
def Handled.Quiet (handled : Handled) (state : NodeState) : Prop :=
  handled.state = state ∧ handled.effects.filterMap Effect.ipv4Payload = []

theorem quiet_attempt {α : Type} {outcome : Outcome α} {next : α → Handled}
    (later : ∀ value, outcome = .ok value → (next value).Quiet state) :
    (Handled.attempt state outcome next).Quiet state := by
  cases outcome with
  | ok value => exact later value rfl
  | err message => exact ⟨rfl, rfl⟩
  | panic => exact ⟨rfl, rfl⟩

/-- The decoder keeps its groups when it cannot file a shard. -/
theorem FecDecoder.receive_unreadable (decoder : FecDecoder) (now : Instant)
    (unreadable : ¬ ReadableShard wire.payload) :
    (decoder.receive now wire).1 = decoder ∧ ∀ packets, (decoder.receive now wire).2 ≠ .ok packets := by
  rw [receive]
  cases decoded : FecPacket.decode wire.payload with
  | none => exact ⟨rfl, fun packets same => by cases same⟩
  | some shard =>
      have large : maxNum < shard.packetIndex.toNat := by
        by_contra small
        exact unreadable ⟨shard, decoded, Nat.not_lt.mp small⟩
      simp only [if_pos large]
      exact ⟨trivial, fun packets same => by cases same⟩

theorem quiet_handleQuic (net : NetworkAddr) (src : Ipv4Addr)
    (harmless : wire.isFec = true → ¬ ReadableShard wire.payload) :
    (handleQuic config clock net src state wire).Quiet state := by
  rw [handleQuic]
  split
  · rename_i flagged
    obtain ⟨kept, failed⟩ :=
      state.decoder.receive_unreadable clock.now (harmless flagged)
    rw [handleFec, decodeFec, kept]
    cases result : (state.decoder.receive clock.now wire).2 with
    | ok packets => exact absurd result (failed packets)
    | err message => exact ⟨rfl, rfl⟩
    | panic => exact ⟨rfl, rfl⟩
  · exact ⟨rfl, rfl⟩

theorem isFec_decrTtl (packet : NetPacket) : packet.decrTtl.isFec = packet.isFec := by
  rw [NetPacket.isFec, NetPacket.decrTtl, NetHeader.decrTtl_eq]
  rfl

theorem decryptInPlace_fails {crypto : PacketCrypto}
    (closed : (crypto.decryptInPlace wire).isOk = false) (packet : NetPacket) :
    crypto.decryptInPlace wire ≠ .ok packet := by
  intro opened
  rw [opened] at closed
  cases closed

theorem P2pInboundHandler.quiet_nextHandle (routeKey : RouteKey)
    (closed : wire.msgType = .ok .quic ∨ (config.packetCrypto.decryptInPlace wire).isOk = false)
    (harmless : wire.msgType = .ok .quic → wire.isFec = true →
      (Entrance.p2p routeKey).takes config wire.header = true → ¬ ReadableShard wire.payload) :
    (nextHandle config clock routeKey state wire.buffer).Quiet state := by
  cases typed : wire.msgType with
  | err message =>
      simp only [nextHandle, triage, NetPacket.new_buffer, Outcome.ok_bind, typed,
        Outcome.err_bind]
      exact ⟨rfl, rfl⟩
  | panic =>
      simp only [nextHandle, triage, NetPacket.new_buffer, Outcome.ok_bind, typed,
        Outcome.panic_bind]
      exact ⟨rfl, rfl⟩
  | ok msgType =>
      cases taken : (Entrance.p2p routeKey).takes config wire.header with
      | false =>
          obtain ⟨kept, nothing | ⟨next, _, forwarded⟩⟩ :=
            nextHandle_refused clock routeKey state typed taken
          · exact ⟨kept, by rw [nothing]; rfl⟩
          · exact ⟨kept, by rw [forwarded]; rfl⟩
      | true =>
          obtain ⟨net, _, handled⟩ := nextHandle_takes clock routeKey state typed taken
          rw [handled, handleLocal]
          split
          · rename_i quic
            rw [typed] at harmless
            obtain rfl : msgType = .quic := quic
            refine quiet_handleQuic net _ fun flagged => harmless rfl ?_ taken
            rwa [isFec_decrTtl] at flagged
          · rename_i other
            have failing := closed.resolve_left fun quic =>
              other (Outcome.ok.inj (typed.symm.trans quic))
            apply quiet_attempt
            intro opened result
            rw [PacketCrypto.decrypt_decrTtl] at result
            cases first : config.packetCrypto.decryptInPlace wire with
            | ok packet => exact absurd first (decryptInPlace_fails failing packet)
            | err message =>
                rw [first] at result
                cases result
            | panic =>
                rw [first] at result
                cases result

theorem ServerTurnInboundHandler.quiet_handle (networkAddr : Option NetworkAddr)
    (client : wire.isGateway = false)
    (closed : wire.msgType = .ok .quic ∨ (config.packetCrypto.decryptInPlace wire).isOk = false)
    (harmless : wire.msgType = .ok .quic → wire.isFec = true →
      (Entrance.server networkAddr).takes config wire.header = true →
        ¬ ReadableShard wire.payload) :
    (handle config clock networkAddr state wire.buffer).Quiet state := by
  cases taken : (Entrance.server networkAddr).takes config wire.header with
  | false =>
      obtain ⟨kept, nothing⟩ := handle_refused clock state client taken
      exact ⟨kept, by rw [nothing]; rfl⟩
  | true =>
      cases networkAddr with
      | none => cases taken
      | some net =>
          rw [handle_takes clock state client taken, handleClientData, NetPacket.new_buffer]
          apply quiet_attempt
          intro packet same
          cases same
          apply quiet_attempt
          intro msgType typed
          simp only
          split
          · rename_i quic
            rw [quic] at typed
            exact quiet_handleQuic net _ fun flagged => harmless typed flagged taken
          · rename_i other
            have failing := closed.resolve_left fun quic =>
              other (Outcome.ok.inj (typed.symm.trans quic))
            cases result : config.packetCrypto.decryptInPlace wire with
            | ok packet => exact absurd result (decryptInPlace_fails failing packet)
            | err message => exact ⟨rfl, rfl⟩
            | panic => exact ⟨rfl, rfl⟩

/-- Either handler, with whatever bytes. -/
theorem NodeConfig.quiet_step {incoming : Incoming} (forged : config.Forged incoming)
    (harmless : ¬ config.FeedsDecoder incoming) :
    (config.step state incoming).1 = state ∧
      (config.step state incoming).2.filterMap Effect.ipv4Payload = [] := by
  obtain ⟨clock, entrance, data⟩ := incoming
  cases read : NetPacket.new data with
  | err message =>
      cases entrance with
      | p2p routeKey =>
          simp only [step, Entrance.receive, P2pInboundHandler.nextHandle,
            P2pInboundHandler.triage, read, Outcome.err_bind]
          exact ⟨rfl, rfl⟩
      | server networkAddr =>
          simp only [step, Entrance.receive, ServerTurnInboundHandler.handle, read]
          exact ⟨rfl, rfl⟩
  | panic =>
      cases entrance with
      | p2p routeKey =>
          simp only [step, Entrance.receive, P2pInboundHandler.nextHandle,
            P2pInboundHandler.triage, read, Outcome.panic_bind]
          exact ⟨rfl, rfl⟩
      | server networkAddr =>
          simp only [step, Entrance.receive, ServerTurnInboundHandler.handle, read]
          exact ⟨rfl, rfl⟩
  | ok packet =>
      obtain ⟨client, closed⟩ := forged packet read
      obtain rfl := NetPacket.buffer_of_new read
      have quiet : packet.msgType = .ok .quic → packet.isFec = true →
          entrance.takes config packet.header = true → ¬ ReadableShard packet.payload :=
        fun quic flagged taken shard => harmless ⟨packet, read, quic, flagged, taken, shard⟩
      cases entrance with
      | p2p routeKey => exact P2pInboundHandler.quiet_nextHandle routeKey closed quiet
      | server networkAddr =>
          exact ServerTurnInboundHandler.quiet_handle networkAddr client closed quiet

end Quiet

/-- Two runs that differ in packets without the key hand on the same IP data, as long as
none of these packets reaches the decoder. -/
theorem NodeConfig.forged_without_effect (config : NodeConfig) (start : NodeState)
    (pairs : List (Machine.Paired Incoming)) (forged : config.DifferInForged pairs)
    (harmless : ∀ pair ∈ pairs, ∀ incoming, pair.apart = some incoming →
      ¬ config.FeedsDecoder incoming) :
    config.ipv4Payloads start (pairs.filterMap Machine.Paired.inFirst) =
      config.ipv4Payloads start (pairs.filterMap Machine.Paired.inSecond) := by
  refine (Machine.run_unwinding config.step Effect.ipv4Payload pairs ?_ start).2
  intro pair member incoming apart state
  exact NodeConfig.quiet_step (forged pair member incoming apart)
    (harmless pair member incoming apart)

def keyedNode : NodeConfig :=
  { NodeConfig.plain sampleNetwork with packetCrypto := ⟨some transparentAead⟩ }

def shardPacket (typeByte : UInt8) (payload : Bytes) : NetPacket :=
  ⟨⟨typeByte, 0x55, fec, 0, 0, 0x0A1A0002, 0x0A1A0003⟩,
    FecPacket.encodeToVec ⟨0, 0, payload, none⟩⟩

def atServer (now : Instant) (packet : NetPacket) : Incoming :=
  ⟨⟨now, 0⟩, .server (some sampleNetwork), packet.buffer⟩

def sealedShard : Incoming :=
  atServer 1 (keyedNode.packetCrypto.encryptInPlace (shardPacket 0x81 [0x45]))

def strayPacket : NetPacket := ⟨⟨0x91, 0x55, 0, 0, 0, 0x0A1A0002, 0x0A1A0003⟩, [7]⟩
def forgedShard : NetPacket := shardPacket 0x91 [7]

theorem apart_packet {forged packet : NetPacket} {pair : Machine.Paired Incoming}
    {incoming : Incoming} (member : pair ∈ [.second (atServer 0 forged), .both sealedShard])
    (apart : pair.apart = some incoming) (read : NetPacket.new incoming.data = .ok packet) :
    packet = forged := by
  rcases List.mem_pair.mp member with rfl | rfl
  · cases apart
    rw [atServer, NetPacket.new_buffer] at read
    exact (Outcome.ok.inj read).symm
  · cases apart

/-- Without FEC it leaves no trace. -/
theorem NodeConfig.stray_quic_without_effect :
    keyedNode.ipv4Payloads ⟨FecDecoder.new 0, RouteTable.new⟩ [sealedShard] =
      keyedNode.ipv4Payloads ⟨FecDecoder.new 0, RouteTable.new⟩
        [atServer 0 strayPacket, sealedShard] := by
  refine NodeConfig.forged_without_effect keyedNode _
    [.second (atServer 0 strayPacket), .both sealedShard] ?_ ?_
  · intro pair member incoming apart packet read
    rw [apart_packet member apart read]
    exact ⟨by decide, Or.inl (by decide)⟩
  · rintro pair member incoming apart ⟨packet, read, _, flagged, _⟩
    rw [apart_packet member apart read] at flagged
    exact absurd flagged (by decide)

/-- A shard that anyone may have sent takes the place of the sealed one. -/
theorem forged_shard_suppresses :
    keyedNode.DifferInForged [.second (atServer 0 forgedShard), .both sealedShard] ∧
      ¬ keyedNode.ipv4Payloads ⟨FecDecoder.new 0, RouteTable.new⟩ [sealedShard] =
        keyedNode.ipv4Payloads ⟨FecDecoder.new 0, RouteTable.new⟩
          [atServer 0 forgedShard, sealedShard] := by
  constructor
  · intro pair member incoming apart packet read
    rw [apart_packet member apart read]
    exact ⟨by decide, Or.inl (by decide)⟩
  · decide +kernel

end VntClient
