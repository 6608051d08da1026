import VntClient.Compression

/-!
Two nodes with their own `compress` option each. The flag of a packet alone says whether
it is compressed, but a node without compression does not look at it.
-/

namespace VntClient
namespace PacketCompression

def HandsOnOriginal (sender receiver : PacketCompression) (packet : NetPacket) : Prop :=
  ∀ opened, receiver.decompress (sender.compress packet) = .ok opened →
    opened.payload = packet.payload ∧ opened.isCompressed = false

def Expands (codec : Lz4) (receiver : PacketCompression) (wire : NetPacket) : Prop :=
  ∀ opened, receiver.decompress wire = .ok opened →
    codec.decompress wire.payload = some opened.payload ∧ opened.isCompressed = false

def Shrinks (codec : Lz4) (sending : Bool) (payload : Bytes) : Prop :=
  sending = true ∧ 256 ≤ payload.length ∧ (codec.compress payload).length < payload.length

variable {codec : Lz4} {sending receiving : Bool} {packet wire : NetPacket}

theorem compress_new (shrinks : Shrinks codec sending packet.payload) :
    (new codec sending).compress packet =
      (⟨packet.header, codec.compress packet.payload⟩ : NetPacket).setCompressedFlag true := by
  obtain ⟨enabled, long, shorter⟩ := shrinks
  rw [new, enabled, compress]
  simp only [↓reduceIte, if_neg (Nat.not_lt.mpr long), if_neg (Nat.not_le.mpr shorter)]

theorem compress_unchanged (plain : ¬ Shrinks codec sending packet.payload) :
    (new codec sending).compress packet = packet := by
  rcases compress_cases (new codec sending) packet with same | ⟨lz4, enabled, shorter, changed⟩
  · exact same
  · cases sending with
    | false => cases enabled
    | true =>
        cases enabled
        by_cases long : 256 ≤ packet.payload.length
        · exact absurd ⟨rfl, long, shorter⟩ plain
        · rw [new, compress]
          simp only [↓reduceIte, if_pos (Nat.not_le.mp long)]

theorem expands_enabled (flagged : wire.isCompressed = true) :
    Expands codec (new codec true) wire := by
  intro opened result
  rw [new, decompress] at result
  simp only [↓reduceIte, flagged] at result
  cases expanded : codec.decompress wire.payload with
  | none =>
      rw [expanded] at result
      cases result
  | some data =>
      rw [expanded] at result
      cases result
      exact ⟨rfl, isCompressed_set _ _ false⟩

theorem expands_iff (flagged : wire.isCompressed = true) :
    Expands codec (new codec receiving) wire ↔ receiving = true := by
  constructor
  · intro expands
    cases receiving with
    | true => rfl
    | false =>
        obtain ⟨_, clear⟩ := expands wire rfl
        rw [flagged] at clear
        cases clear
  · rintro rfl
    exact expands_enabled flagged

/-- A payload arrives as it was exactly if the receiver expands or the sender does not
compress it; and a flagged packet, whoever sent it, is expanded exactly if the receiver
has compression on. -/
theorem delivered_expanded_iff (codec : Lz4)
    (lossless : ∀ data, codec.decompress (codec.compress data) = some data)
    (sending receiving : Bool) (packet : NetPacket) (clear : packet.isCompressed = false) :
    (HandsOnOriginal (new codec sending) (new codec receiving) packet ↔
        receiving = true ∨ ¬ Shrinks codec sending packet.payload) ∧
      ∀ wire : NetPacket, wire.isCompressed = true →
        (Expands codec (new codec receiving) wire ↔ receiving = true) := by
  refine ⟨?_, fun wire flagged => expands_iff flagged⟩
  by_cases shrinks : Shrinks codec sending packet.payload
  · have flagged := isCompressed_set packet.header (codec.compress packet.payload) true
    rw [HandsOnOriginal, compress_new shrinks]
    cases receiving with
    | true =>
        refine iff_of_true ?_ (Or.inl rfl)
        intro opened result
        obtain ⟨expanded, unflagged⟩ := expands_enabled flagged opened result
        rw [show (NetPacket.setCompressedFlag ⟨packet.header, codec.compress packet.payload⟩
          true).payload = codec.compress packet.payload from rfl, lossless] at expanded
        exact ⟨(Option.some.inj expanded).symm, unflagged⟩
    | false =>
        refine iff_of_false ?_ (by simp [shrinks])
        intro arrives
        have raw := (arrives _ rfl).2
        rw [flagged] at raw
        cases raw
  · rw [HandsOnOriginal, compress_unchanged shrinks, decompress_plain _ clear]
    refine iff_of_true ?_ (Or.inr shrinks)
    intro opened result
    cases result
    exact ⟨rfl, clear⟩

/-- A codec for runs of zeros that stores everything else. -/
def zeroRuns : Lz4 where
  compress data :=
    if data = List.replicate data.length 0 ∧ data.length < 65536 then
      [1, UInt8.ofNat (data.length / 256), UInt8.ofNat data.length]
    else 0 :: data
  decompress
    | [1, high, low] => some (List.replicate (high.toNat * 256 + low.toNat) 0)
    | 0 :: data => some data
    | _ => none

theorem zeroRuns_lossless (data : Bytes) :
    zeroRuns.decompress (zeroRuns.compress data) = some data := by
  by_cases run : data = List.replicate data.length 0 ∧ data.length < 65536
  · have marked : zeroRuns.compress data =
        [1, UInt8.ofNat (data.length / 256), UInt8.ofNat data.length] := if_pos run
    have size : (UInt8.ofNat (data.length / 256)).toNat * 256 + (UInt8.ofNat data.length).toNat =
        data.length := by
      have bound := run.2
      rw [UInt8.toNat_ofNat', UInt8.toNat_ofNat']
      omega
    rw [marked]
    show some (List.replicate _ 0) = some data
    rw [size, ← run.1]
  · have stored : zeroRuns.compress data = 0 :: data := if_neg run
    rw [stored]
    rfl

def zerosPacket : NetPacket :=
  ⟨⟨0x81, 0x55, 0, 0, 0, 0x0A1A0002, 0x0A1A0003⟩, List.replicate 256 0⟩

theorem zeros_arrive :
    HandsOnOriginal (new zeroRuns true) (new zeroRuns true) zerosPacket :=
  (delivered_expanded_iff zeroRuns zeroRuns_lossless true true zerosPacket (by decide)).1.mpr
    (Or.inl rfl)

/-- Without the option the receiver hands the compressed bytes on. -/
theorem compressed_bytes_handed_on :
    (∀ data, zeroRuns.decompress (zeroRuns.compress data) = some data) ∧
      ¬ HandsOnOriginal (new zeroRuns true) (new zeroRuns false) zerosPacket := by
  refine ⟨zeroRuns_lossless, ?_⟩
  intro arrives
  exact absurd (arrives ⟨⟨0x81, 0x55, 0x80, 0, 0, 0x0A1A0002, 0x0A1A0003⟩, [1, 1, 0]⟩
    (by decide +kernel)).2 (by decide)

end PacketCompression
end VntClient
