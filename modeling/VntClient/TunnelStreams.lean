import VntClient.KeyedQueues
import VntClient.QuicHandshake

/-!
What goes into the QUIC streams of a node: `ip_listen_impl` and `spawn_dest_sender` of
`quic_client.rs`, `recv` and `udp_mapping_handle` of `udp_port_mapping.rs`. Both loops
keep one sender for each key in a table and write what it takes as frames behind a
handshake. While one packet is looked up and sent the senders go on, fail and end.
-/

namespace VntClient
open KeyedQueues

/-- What fits into the buffer of the loop. -/
abbrev ReceivedPacket : Type := { data : Bytes // data.length ≤ 65536 }

/-- `mpsc::channel::<Bytes>(128)`. -/
def channelCapacity : Nat := 128

section Run
variable {Key : Type} [DecidableEq Key]

abbrev StreamRun (Key : Type) := State Key ReceivedPacket × List (Note Key ReceivedPacket)

def runStreams (events : List (Event Key ReceivedPacket)) : StreamRun Key :=
  Machine.run (State.step channelCapacity) State.empty events

def StreamRun.frames (run : StreamRun Key) (number : Nat) : List Bytes :=
  (run.2.filterMap (Note.written number)).map Subtype.val

def StreamRun.fates (run : StreamRun Key) (key : Key) : List (Fate ReceivedPacket) :=
  run.2.filterMap (Note.about key)

def StreamRun.arrivals (run : StreamRun Key) (key : Key) : List Bytes :=
  ((run.fates key).filterMap Fate.arrival).map Subtype.val

omit [DecidableEq Key] in
theorem StreamRun.frames_short (run : StreamRun Key) (number : Nat) :
    ∀ frame ∈ run.frames number, frame.length ≤ maxFrameLength := by
  intro frame written
  obtain ⟨packet, _, rfl⟩ := List.mem_map.mp written
  exact packet.2.trans (by decide)

/-- One sender at a time for each key; its frames are packets of that key in their order; and
of all packets of a key none is doubled, and none is lost but in front of a full channel, in
the channel of a sender that ends, and one more for each sender that ended. -/
structure Orderly (run : StreamRun Key) : Prop where
  single : ∀ (first second : Nat) (one two : Worker Key ReceivedPacket),
    run.1.workers[first]? = some one → run.1.workers[second]? = some two →
    one.key = two.key → one.running = true → two.running = true → first = second
  frames : ∀ (number : Nat) (worker : Worker Key ReceivedPacket),
    run.1.workers[number]? = some worker → (run.frames number).Sublist (run.arrivals worker.key)
  accounts : ∀ key, Line.Accounts channelCapacity (run.1.line key) (run.fates key)

theorem runStreams_orderly (events : List (Event Key ReceivedPacket)) :
    Orderly (runStreams events) where
  single _ _ _ _ here there := (State.run_sound events State.sound_empty).single here there
  frames _ _ there := (State.written_sublist channelCapacity events there).map Subtype.val
  accounts := State.run_accounts channelCapacity events

end Run

/-- A key whose senders never ended and whose channel was never full. -/
theorem Orderly.lossless {Key : Type} [DecidableEq Key] {run : StreamRun Key}
    (orderly : Orderly run) {key : Key}
    (none : ∀ fate ∈ run.fates key, fate.loss = none) :
    ((run.fates key).filterMap Fate.taking ++ (run.1.line key).waiting).map Subtype.val =
      run.arrivals key := by
  have nothing : (run.fates key).filterMap Fate.loss = [] := by
    rw [List.filterMap_eq_nil_iff]
    exact none
  rw [(orderly.accounts key).lossless nothing, StreamRun.arrivals]

def ipStream (run : StreamRun IpKey) (number : Nat) (key : IpKey) : Bytes :=
  sendHandshake (destSender key) ++ encodeFrames (run.frames number)

def sampleIpKey : IpKey := ⟨1, 0x0A1A0003, 0x0A1A0004⟩

section PortMapping
variable (ipToString : IpAddr → String) (dstHost : String) (dstPort : UInt16)

def udpMappingStream (run : StreamRun SocketAddr) (number : Nat) (src : SocketAddr) : Bytes :=
  sendHandshake (udpMappingHandle ipToString src dstHost dstPort) ++
    encodeFrames (run.frames number)

end PortMapping

end VntClient
