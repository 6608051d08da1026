import VntClient.NetPacket

/-!
`compression/`. The LZ4 codec is a parameter; a node without compression leaves
every packet as it is, flag included.
-/

namespace VntClient

structure Lz4 where
  compress : Bytes → Bytes
  decompress : Bytes → Option Bytes

structure Lz4Compression where
  minSize : Nat
  codec : Lz4

structure PacketCompression where
  compression : Option Lz4Compression

namespace PacketCompression

/-- `LZ4Compression::new` compresses from 256 bytes on. -/
def new (codec : Lz4) (enabled : Bool) : PacketCompression :=
  ⟨if enabled then some ⟨256, codec⟩ else none⟩

def compress (compression : PacketCompression) (packet : NetPacket) : NetPacket :=
  match compression.compression with
  | none => packet
  | some lz4 =>
      if packet.payload.length < lz4.minSize then packet
      else
        let compressed := lz4.codec.compress packet.payload
        if packet.payload.length ≤ compressed.length then packet
        else ({ packet with payload := compressed }).setCompressedFlag true

def decompress (compression : PacketCompression) (packet : NetPacket) : Outcome NetPacket :=
  match compression.compression with
  | none => .ok packet
  | some lz4 =>
      if packet.isCompressed then
        match lz4.codec.decompress packet.payload with
        | some decompressed =>
            .ok (({ packet with payload := decompressed }).setCompressedFlag false)
        | none => .err "decompress failed"
      else .ok packet

theorem decompress_plain (compression : PacketCompression) {packet : NetPacket}
    (clear : packet.isCompressed = false) : compression.decompress packet = .ok packet := by
  rw [decompress]
  cases compression.compression with
  | none => rfl
  | some lz4 => simp only [clear, Bool.false_eq_true, ↓reduceIte]

end PacketCompression

theorem compress_cases (compression : PacketCompression) (packet : NetPacket) :
    compression.compress packet = packet ∨
      ∃ lz4, compression.compression = some lz4 ∧
        (lz4.codec.compress packet.payload).length < packet.payload.length ∧
        compression.compress packet =
          (⟨packet.header, lz4.codec.compress packet.payload⟩ : NetPacket).setCompressedFlag true := by
  unfold PacketCompression.compress
  cases compression.compression with
  | none => exact Or.inl rfl
  | some lz4 =>
      simp only
      split
      · exact Or.inl rfl
      · split
        · exact Or.inl rfl
        · rename_i shorter
          exact Or.inr ⟨lz4, rfl, Nat.not_le.mp shorter, rfl⟩

theorem compress_length (compression : PacketCompression) (packet : NetPacket) :
    (compression.compress packet).payload.length ≤ packet.payload.length := by
  rcases compress_cases compression packet with same | ⟨lz4, _, shorter, smaller⟩
  · rw [same]
  · rw [smaller]
    exact Nat.le_of_lt shorter

theorem compress_payload (compression : PacketCompression) (left right : NetPacket)
    (same : left.payload = right.payload) :
    (compression.compress left).payload = (compression.compress right).payload := by
  unfold PacketCompression.compress
  rw [same]
  cases compression.compression with
  | none => exact same
  | some lz4 =>
      simp only
      split
      · exact same
      · split
        · exact same
        · rfl

theorem compress_flow (compression : PacketCompression) (packet : NetPacket) :
    (compression.compress packet).msgType = packet.msgType ∧
      (compression.compress packet).srcId = packet.srcId ∧
        (compression.compress packet).destId = packet.destId := by
  rcases compress_cases compression packet with same | ⟨lz4, _, _, smaller⟩
  · rw [same]
    exact ⟨rfl, rfl, rfl⟩
  · rw [smaller]
    exact ⟨rfl, rfl, rfl⟩

theorem isCompressed_set (header : NetHeader) (payload : Bytes) (val : Bool) :
    (NetPacket.setCompressedFlag ⟨header, payload⟩ val).isCompressed = val := by
  have bits : ∀ flags : BitVec 8, (flags ||| 0x80#8) &&& 0x80#8 ≠ 0#8 ∧
      (flags &&& ~~~0x80#8) &&& 0x80#8 = 0#8 := by decide +kernel
  obtain ⟨set, cleared⟩ := bits header.flagsByte.toBitVec
  cases val with
  | true => exact bne_iff_ne.mpr fun zero => set (congrArg UInt8.toBitVec zero)
  | false =>
      have zero : (header.flagsByte &&& ~~~compressed) &&& compressed = 0 :=
        UInt8.eq_of_toBitVec_eq cleared
      exact bne_eq_false_iff_eq.mpr zero

end VntClient
