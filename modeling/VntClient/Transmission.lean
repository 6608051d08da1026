import VntClient.Outbound

/-!
`protocol/transmission.rs`: one buffer with a window that moves inside it, and packets
that live in such a buffer. What the layers do to a packet is done here in place; each is
shown to do to the packet in the window what the functions on packets say.
-/

namespace VntClient

/-- `start` and `end` of the window; the capacity of a buffer is its length. -/
structure TransmissionBytes where
  buf : Bytes
  start : Nat
  stop : Nat
  ordered : start ≤ stop
  inside : stop ≤ buf.length

def defaultBufSize : Nat := 2048

namespace TransmissionBytes

/-- `From<BytesMut>`, `From<Bytes>` and `From<&[u8]>`. -/
def ofBytes (buf : Bytes) : TransmissionBytes := ⟨buf, 0, buf.length, Nat.zero_le _, Nat.le_refl _⟩

def newOffset (start : Nat) (fits : start ≤ defaultBufSize) : TransmissionBytes where
  buf := List.replicate defaultBufSize 0
  start
  stop := start
  ordered := Nat.le_refl _
  inside := by rwa [List.length_replicate]

def zeroedSize (size reserve : Nat) : TransmissionBytes where
  buf := List.replicate (size + reserve) 0
  start := 0
  stop := size
  ordered := Nat.zero_le _
  inside := by rw [List.length_replicate]; exact Nat.le_add_right _ _

def zeroed (cap : Nat) : TransmissionBytes := zeroedSize cap 0

variable (bytes : TransmissionBytes)

def len : Nat := bytes.stop - bytes.start
def asSlice : Bytes := (bytes.buf.take bytes.stop).drop bytes.start

theorem asSlice_length : bytes.asSlice.length = bytes.len := by
  have inside := bytes.inside
  rw [asSlice, len, List.length_drop, List.length_take, Nat.min_eq_left inside]

theorem start_len : bytes.start + bytes.len = bytes.stop := by
  have ordered := bytes.ordered
  rw [len]
  omega

/-- `copy_from_slice` into the window. -/
def copyFromSlice (offset : Nat) (data : Bytes) (fits : offset + data.length ≤ bytes.len) :
    TransmissionBytes where
  buf := bytes.buf.take (bytes.start + offset) ++ data ++
    bytes.buf.drop (bytes.start + offset + data.length)
  start := bytes.start
  stop := bytes.stop
  ordered := bytes.ordered
  inside := by
    have inside := bytes.inside
    have window := bytes.start_len
    rw [List.length_append, List.length_append, List.length_take, List.length_drop]
    omega

theorem asSlice_copyFromSlice (offset : Nat) (data : Bytes)
    (fits : offset + data.length ≤ bytes.len) :
    (bytes.copyFromSlice offset data fits).asSlice =
      bytes.asSlice.take offset ++ data ++ bytes.asSlice.drop (offset + data.length) := by
  have inside := bytes.inside
  have window := bytes.start_len
  have ordered := bytes.ordered
  apply List.ext_getElem?
  intro i
  simp only [asSlice, copyFromSlice, List.getElem?_append, List.getElem?_take, List.getElem?_drop,
    List.length_append, List.length_take, List.length_drop]
  grind

theorem len_copyFromSlice (offset : Nat) (data : Bytes) (fits : offset + data.length ≤ bytes.len) :
    (bytes.copyFromSlice offset data fits).len = bytes.len := rfl

/-- Behind the window, which grows by the data. -/
def put (data : Bytes) : Outcome TransmissionBytes :=
  if room : bytes.stop + data.length ≤ bytes.buf.length then
    .ok
      { buf := bytes.buf.take bytes.stop ++ data ++ bytes.buf.drop (bytes.stop + data.length)
        start := bytes.start
        stop := bytes.stop + data.length
        ordered := Nat.le_trans bytes.ordered (Nat.le_add_right _ _)
        inside := by
          rw [List.length_append, List.length_append, List.length_take, List.length_drop]
          omega }
  else
    let need := data.length
    let free := bytes.buf.length - bytes.stop
    .err s!"data too large:need={need},free={free}"

def retreatHead (len : Nat) : Outcome TransmissionBytes :=
  if len ≤ bytes.start then
    .ok
      { bytes with
        start := bytes.start - len
        ordered := Nat.le_trans (Nat.sub_le _ _) bytes.ordered }
  else
    let room := bytes.start
    .err s!"retreat_head beyond start: len={len}, head_room={room}"

def advanceHead (len : Nat) : Outcome TransmissionBytes :=
  if room : len ≤ bytes.len then
    .ok
      { bytes with
        start := bytes.start + len
        ordered := by
          have window := bytes.start_len
          omega }
  else
    let held := bytes.len
    .err s!"advance_head beyond end: len={len}, data_len={held}"

/-- `BytesMut::resize`. -/
def resizeBuf (buf : Bytes) (size : Nat) (value : UInt8) : Bytes :=
  buf.take size ++ List.replicate (size - buf.length) value

theorem resizeBuf_length (buf : Bytes) (size : Nat) (value : UInt8) :
    (resizeBuf buf size value).length = size := by
  rw [resizeBuf, List.length_append, List.length_take, List.length_replicate]
  omega

def resize (newLen : Nat) (value : UInt8) : TransmissionBytes where
  buf := resizeBuf bytes.buf (bytes.start + newLen) value
  start := bytes.start
  stop := bytes.start + newLen
  ordered := Nat.le_add_right _ _
  inside := Nat.le_of_eq (resizeBuf_length _ _ _).symm

def extendEnd (n : Nat) : TransmissionBytes where
  buf :=
    if bytes.buf.length < bytes.stop + n then resizeBuf bytes.buf (bytes.stop + n) 0
    else bytes.buf
  start := bytes.start
  stop := bytes.stop + n
  ordered := Nat.le_trans bytes.ordered (Nat.le_add_right _ _)
  inside := by
    split
    · exact Nat.le_of_eq (resizeBuf_length _ _ _).symm
    · omega

def shrinkEnd (n : Nat) : TransmissionBytes where
  buf := bytes.buf
  start := bytes.start
  stop := if bytes.len ≤ n then bytes.start else bytes.stop - n
  ordered := by
    have window := bytes.start_len
    split <;> omega
  inside := by
    have inside := bytes.inside
    have ordered := bytes.ordered
    split <;> omega

def setLen (newLen : Nat) : Outcome TransmissionBytes :=
  if room : bytes.start + newLen ≤ bytes.buf.length then
    .ok { bytes with
      stop := bytes.start + newLen
      ordered := Nat.le_add_right _ _
      inside := room }
  else
    let max := bytes.buf.length - bytes.start
    .err s!"set_len exceeds capacity: new_len={newLen}, max={max}"

def clear : TransmissionBytes := ⟨bytes.buf, 0, 0, Nat.le_refl _, Nat.zero_le _⟩

def intoBytes : Bytes := (bytes.buf.take bytes.stop).drop bytes.start

theorem intoBytes_eq : bytes.intoBytes = bytes.asSlice := rfl

theorem asSlice_ofBytes (buf : Bytes) : (ofBytes buf).asSlice = buf := by
  rw [asSlice, ofBytes, List.take_length, List.drop_zero]

theorem len_zeroedSize (size reserve : Nat) : (zeroedSize size reserve).len = size := rfl

variable {bytes}

theorem asSlice_advanceHead {len : Nat} {moved : TransmissionBytes}
    (advanced : bytes.advanceHead len = .ok moved) : moved.asSlice = bytes.asSlice.drop len := by
  rw [advanceHead] at advanced
  split at advanced
  · cases advanced
    rw [asSlice, asSlice, List.drop_drop]
  · cases advanced

variable (bytes)

theorem advanceHead_ok {len : Nat} (room : len ≤ bytes.len) :
    ∃ moved, bytes.advanceHead len = .ok moved ∧ moved.asSlice = bytes.asSlice.drop len := by
  have advanced : ∃ moved, bytes.advanceHead len = .ok moved := by
    rw [advanceHead, dif_pos room]
    exact ⟨_, rfl⟩
  obtain ⟨moved, advanced⟩ := advanced
  exact ⟨moved, advanced, asSlice_advanceHead advanced⟩

/-- The window keeps what it held; what it grew by is whatever lay behind it. -/
theorem asSlice_extendEnd (n : Nat) :
    (bytes.extendEnd n).asSlice.take bytes.len = bytes.asSlice := by
  have inside := bytes.inside
  have window := bytes.start_len
  have ordered := bytes.ordered
  apply List.ext_getElem?
  intro i
  by_cases short : bytes.buf.length < bytes.stop + n
  · simp only [asSlice, extendEnd, if_pos short, resizeBuf, List.getElem?_take, List.getElem?_drop,
      List.getElem?_append, List.length_take]
    grind
  · simp only [asSlice, extendEnd, if_neg short, List.getElem?_take, List.getElem?_drop]
    grind

theorem len_extendEnd (n : Nat) : (bytes.extendEnd n).len = bytes.len + n := by
  have ordered := bytes.ordered
  simp only [extendEnd, len]
  omega

theorem asSlice_shrinkEnd (n : Nat) :
    (bytes.shrinkEnd n).asSlice = bytes.asSlice.take (bytes.len - n) := by
  have window := bytes.start_len
  rw [asSlice, asSlice, List.take_drop, List.take_take]
  simp only [shrinkEnd]
  split
  · congr 2
    omega
  · congr 2
    omega

theorem len_resize (newLen : Nat) (value : UInt8) : (bytes.resize newLen value).len = newLen := by
  rw [len, resize, Nat.add_sub_cancel_left]

/-- A resized window still begins with what it held before. -/
theorem asSlice_resize (newLen : Nat) (value : UInt8) {kept : Nat} (old : kept ≤ bytes.len)
    (new : kept ≤ newLen) :
    (bytes.resize newLen value).asSlice.take kept = bytes.asSlice.take kept := by
  have inside := bytes.inside
  have window := bytes.start_len
  apply List.ext_getElem?
  intro i
  simp only [asSlice, resize, resizeBuf, List.getElem?_take, List.getElem?_drop,
    List.getElem?_append, List.length_take]
  grind

end TransmissionBytes

def headerOf (data : Bytes) : NetHeader where
  typeByte := data.getD 0 0
  ttlByte := data.getD 1 0
  flagsByte := data.getD 2 0
  reserved := data.getD 3 0
  seq := fromBeBytes32 (data.getD 4 0) (data.getD 5 0) (data.getD 6 0) (data.getD 7 0)
  srcId := fromBeBytes32 (data.getD 8 0) (data.getD 9 0) (data.getD 10 0) (data.getD 11 0)
  destId := fromBeBytes32 (data.getD 12 0) (data.getD 13 0) (data.getD 14 0) (data.getD 15 0)

theorem head_headerOf {data : Bytes} (whole : headLength ≤ data.length) (payload : Bytes) :
    (⟨headerOf data, payload⟩ : NetPacket).head = data.take headLength := by
  have bound : 16 ≤ data.length := whole
  have read : ∀ i < 16, data[i]? = some (data.getD i 0) := by
    intro i early
    rw [List.getD_eq_getElem?_getD, List.getElem?_eq_getElem (by omega)]
    rfl
  apply List.ext_getElem?
  intro i
  by_cases early : i < 16
  · rw [List.getElem?_take, headLength, if_pos early, read i early]
    simp only [NetPacket.head, headerOf, NetPacket.toBeBytes32_fromBeBytes32]
    interval_cases i <;> rfl
  · rw [List.getElem?_eq_none, List.getElem?_eq_none]
    · rw [List.length_take, headLength]
      omega
    · rw [NetPacket.head_length, headLength]
      omega

theorem headerOf_append {data : Bytes} (whole : headLength ≤ data.length) (rest : Bytes) :
    headerOf (data ++ rest) = headerOf data := by
  have bound : 16 ≤ data.length := whole
  have same : ∀ i < 16, (data ++ rest).getD i 0 = data.getD i 0 := by
    intro i early
    rw [List.getD_eq_getElem?_getD, List.getD_eq_getElem?_getD,
      List.getElem?_append_left (by omega)]
  simp only [headerOf, same, Nat.reduceLT]

theorem headerOf_head (packet : NetPacket) (rest : Bytes) :
    headerOf (packet.head ++ rest) = packet.header := by
  rw [headerOf_append (Nat.le_of_eq (NetPacket.head_length packet).symm)]
  have word := fun field : UInt32 => NetPacket.fromBeBytes32_toBeBytes32 field
  obtain ⟨⟨typeByte, ttlByte, flagsByte, reserved, seq, srcId, destId⟩, payload⟩ := packet
  exact congrArg₂ (fun pair : UInt32 × UInt32 => NetHeader.mk typeByte ttlByte flagsByte reserved
    pair.1 pair.2) (congrArg₂ Prod.mk (word seq) (word srcId)) (word destId)

/-- What is seen of a result through a function has a result behind it. -/
theorem Outcome.exists_of_bind_ok {α β : Type} {outcome : Outcome α} {see : α → β} {value : β}
    (seen : outcome.bind (fun result => .ok (see result)) = .ok value) :
    ∃ result, outcome = .ok result ∧ see result = value := by
  obtain ⟨result, found, same⟩ := Outcome.bind_eq_ok.1 seen
  exact ⟨result, found, Outcome.ok.inj same⟩

/-- `NetPacket` over a buffer: the window holds a whole header. -/
structure PacketBuffer where
  buffer : TransmissionBytes
  whole : headLength ≤ buffer.len

namespace PacketBuffer

def new (buffer : TransmissionBytes) : Outcome PacketBuffer :=
  if whole : headLength ≤ buffer.len then .ok ⟨buffer, whole⟩ else .err "invalid input"

variable (packet : PacketBuffer)

def view : NetPacket := ⟨headerOf packet.buffer.asSlice, packet.buffer.asSlice.drop headLength⟩

theorem view_buffer : packet.view.buffer = packet.buffer.asSlice := by
  have whole : headLength ≤ packet.buffer.asSlice.length := by
    rw [TransmissionBytes.asSlice_length]
    exact packet.whole
  rw [NetPacket.buffer, view, head_headerOf whole, List.take_append_drop]

/-- A packet is in the window as soon as its bytes are. -/
theorem view_eq {value : NetPacket} (held : packet.buffer.asSlice = value.buffer) :
    packet.view = value := by
  have same := packet.view_buffer.trans held
  exact Outcome.ok.inj ((NetPacket.new_buffer _).symm.trans
    ((congrArg NetPacket.new same).trans (NetPacket.new_buffer _)))

theorem len_payload : packet.buffer.len = headLength + packet.view.payload.length := by
  have whole := packet.whole
  rw [view, List.length_drop, TransmissionBytes.asSlice_length]
  omega

/-- Writing the header fields of a packet. -/
def headerMut (change : NetHeader → NetHeader) : PacketBuffer where
  buffer := packet.buffer.copyFromSlice 0
    (NetPacket.head ⟨change packet.view.header, []⟩) (by rw [Nat.zero_add]; exact packet.whole)
  whole := packet.whole

theorem view_headerMut (change : NetHeader → NetHeader) :
    (packet.headerMut change).view = ⟨change packet.view.header, packet.view.payload⟩ := by
  apply view_eq
  rw [headerMut, TransmissionBytes.asSlice_copyFromSlice]
  rfl

def setMsgType (msgType : MsgType) : PacketBuffer := packet.headerMut (·.setMsgType msgType.toByte)
def setTtl (ttl : UInt8) : PacketBuffer := packet.headerMut (·.setTtl ttl ttl)
def setSrcId (id : UInt32) : PacketBuffer := packet.headerMut ({ · with srcId := id })
def setDestId (id : UInt32) : PacketBuffer := packet.headerMut ({ · with destId := id })
def setCompressedFlag (val : Bool) : PacketBuffer := packet.headerMut (·.setFlag compressed val)
def setFecFlag (val : Bool) : PacketBuffer := packet.headerMut (·.setFlag fec val)

/-- Data written over the front of the payload. -/
def payloadMut (data : Bytes) (fits : headLength + data.length ≤ packet.buffer.len) :
    PacketBuffer :=
  ⟨packet.buffer.copyFromSlice headLength data fits, packet.whole⟩

theorem view_payloadMut (data : Bytes) (fits : headLength + data.length ≤ packet.buffer.len) :
    (packet.payloadMut data fits).view =
      ⟨packet.view.header, data ++ packet.view.payload.drop data.length⟩ := by
  apply view_eq
  have held : packet.buffer.asSlice = packet.view.head ++ packet.view.payload :=
    packet.view_buffer.symm
  have size := packet.view.head_length
  rw [payloadMut, TransmissionBytes.asSlice_copyFromSlice, held, List.take_left' size,
    ← List.drop_drop, List.drop_left' size, List.append_assoc]
  rfl

def setPayload (data : Bytes) : Outcome PacketBuffer :=
  if fits : headLength + data.length ≤ packet.buffer.len then .ok (packet.payloadMut data fits)
  else .err "Invalid message length"

theorem setPayload_view (data : Bytes) :
    (packet.setPayload data).bind (fun packet => .ok packet.view) =
      packet.view.setPayload data := by
  have size := packet.len_payload
  rw [setPayload, NetPacket.setPayload]
  split
  · rename_i fits
    rw [if_neg (by omega)]
    exact congrArg Outcome.ok (packet.view_payloadMut data fits)
  · rw [if_pos (by omega)]
    rfl

def zeroedSize (size reserve : Nat) : PacketBuffer where
  buffer := TransmissionBytes.zeroedSize (headLength + size) reserve
  whole := by rw [TransmissionBytes.len_zeroedSize]; exact Nat.le_add_right _ _

theorem len_zeroedSize (size reserve : Nat) :
    (zeroedSize size reserve).buffer.len = headLength + size := rfl

theorem len_headerMut (change : NetHeader → NetHeader) :
    (packet.headerMut change).buffer.len = packet.buffer.len := rfl

def build (header : NetHeader) (data : Bytes) (reserve : Nat) : PacketBuffer :=
  ((zeroedSize data.length reserve).headerMut fun _ => header).payloadMut data
    (Nat.le_of_eq (by rw [len_headerMut, len_zeroedSize]))

theorem view_build (header : NetHeader) (data : Bytes) (reserve : Nat) :
    (build header data reserve).view = ⟨header, data⟩ := by
  have size := (zeroedSize data.length reserve).len_payload
  have len := len_zeroedSize data.length reserve
  have covered : (zeroedSize data.length reserve).view.payload.drop data.length = [] :=
    List.drop_of_length_le (by omega)
  rw [build, view_payloadMut, view_headerMut, covered, List.append_nil]

/-- `resize` of the buffer under a packet. -/
def resize (size : Nat) : PacketBuffer where
  buffer := packet.buffer.resize (headLength + size) 0
  whole := by rw [TransmissionBytes.len_resize]; exact Nat.le_add_right _ _

theorem header_eq {other : PacketBuffer}
    (same : other.buffer.asSlice.take headLength = packet.buffer.asSlice.take headLength) :
    other.view.header = packet.view.header := by
  have front : ∀ packet : PacketBuffer, packet.view.header =
      headerOf (packet.buffer.asSlice.take headLength) := by
    intro packet
    have held : packet.buffer.asSlice = packet.view.head ++ packet.view.payload :=
      packet.view_buffer.symm
    rw [held, List.take_left' packet.view.head_length, ← List.append_nil packet.view.head,
      headerOf_head]
  rw [front, front, same]

theorem header_resize (size : Nat) : (packet.resize size).view.header = packet.view.header :=
  header_eq _ (packet.buffer.asSlice_resize _ 0 packet.whole (Nat.le_add_right _ _))

theorem setPayload_resize (data : Bytes) :
    ((packet.resize data.length).setPayload data).bind (fun packet => .ok packet.view) =
      .ok ⟨packet.view.header, data⟩ := by
  have len : (packet.resize data.length).buffer.len = headLength + data.length := by
    rw [resize, TransmissionBytes.len_resize]
  have size := (packet.resize data.length).len_payload
  rw [setPayload_view, NetPacket.setPayload_exact _ _ (by omega), header_resize]

/-- Room for the tag behind the payload. -/
def extendEnd (n : Nat) : PacketBuffer where
  buffer := packet.buffer.extendEnd n
  whole := by
    rw [TransmissionBytes.len_extendEnd]
    exact Nat.le_trans packet.whole (Nat.le_add_right _ _)

theorem view_extendEnd (n : Nat) : (packet.extendEnd n).view.header = packet.view.header ∧
    (packet.extendEnd n).view.payload.take packet.view.payload.length = packet.view.payload := by
  have kept := packet.buffer.asSlice_extendEnd n
  have size := packet.len_payload
  constructor
  · apply header_eq
    rw [← kept, List.take_take, Nat.min_eq_left packet.whole]
    rfl
  · have behind := congrArg (List.drop headLength) kept
    rw [List.drop_take, size, Nat.add_sub_cancel_left] at behind
    exact behind

theorem len_payload_extendEnd (n : Nat) :
    (packet.extendEnd n).view.payload.length = packet.view.payload.length + n := by
  have size := packet.len_payload
  have extended := (packet.extendEnd n).len_payload
  rw [extendEnd, TransmissionBytes.len_extendEnd] at extended
  rw [extendEnd]
  omega

def shrinkEnd (n : Nat) (room : headLength + n ≤ packet.buffer.len) : PacketBuffer where
  buffer := packet.buffer.shrinkEnd n
  whole := by
    rw [← TransmissionBytes.asSlice_length, TransmissionBytes.asSlice_shrinkEnd, List.length_take,
      TransmissionBytes.asSlice_length]
    omega

theorem view_shrinkEnd (n : Nat) (room : headLength + n ≤ packet.buffer.len) :
    (packet.shrinkEnd n room).view =
      ⟨packet.view.header, packet.view.payload.take (packet.view.payload.length - n)⟩ := by
  have size := packet.len_payload
  have held : packet.buffer.asSlice = packet.view.head ++ packet.view.payload :=
    packet.view_buffer.symm
  apply view_eq
  have cut : packet.buffer.len - n =
      packet.view.head.length + (packet.view.payload.length - n) := by
    rw [packet.view.head_length]
    omega
  rw [shrinkEnd, TransmissionBytes.asSlice_shrinkEnd, held, cut, List.take_length_add_append]
  rfl

end PacketBuffer

namespace PacketCompression
variable (compression : PacketCompression) (packet : PacketBuffer)

/-- `compress` with a buffer that keeps `reserve` bytes free at its end. -/
def compressBuffer (reserve : Nat) : PacketBuffer :=
  match compression.compression with
  | none => packet
  | some lz4 =>
      let payload := packet.view.payload
      if payload.length < lz4.minSize then packet
      else
        let compressed := lz4.codec.compress payload
        if payload.length ≤ compressed.length then packet
        else (PacketBuffer.build packet.view.header compressed reserve).setCompressedFlag true

theorem view_compressBuffer (reserve : Nat) :
    (compression.compressBuffer packet reserve).view = compression.compress packet.view := by
  unfold compressBuffer compress
  cases compression.compression with
  | none => rfl
  | some lz4 =>
      simp only
      split
      · rfl
      · split
        · rfl
        · rw [PacketBuffer.setCompressedFlag, PacketBuffer.view_headerMut,
            PacketBuffer.view_build]
          rfl

def decompressBuffer : Outcome PacketBuffer :=
  match compression.compression with
  | none => .ok packet
  | some lz4 =>
      if packet.view.isCompressed then
        match lz4.codec.decompress packet.view.payload with
        | some decompressed =>
            .ok ((PacketBuffer.build packet.view.header decompressed 0).setCompressedFlag false)
        | none => .err "decompress failed"
      else .ok packet

theorem decompressBuffer_view :
    (compression.decompressBuffer packet).bind (fun packet => .ok packet.view) =
      compression.decompress packet.view := by
  unfold decompressBuffer decompress
  cases compression.compression with
  | none => rfl
  | some lz4 =>
      simp only
      split
      · cases lz4.codec.decompress packet.view.payload with
        | none => rfl
        | some decompressed =>
            simp only [Outcome.bind]
            rw [PacketBuffer.setCompressedFlag, PacketBuffer.view_headerMut,
              PacketBuffer.view_build]
            rfl
      · rfl

end PacketCompression

namespace PacketCrypto
variable (crypto : PacketCrypto) (packet : PacketBuffer)

def encryptReserve : Nat := if crypto.crypto.isSome then tagLen else 0

/-- What the room for the tag leaves for the text is as long as the payload was. -/
theorem sealed_fits (aead : Aead) (nonce : Nonce) (extended : PacketBuffer)
    (room : tagLen ≤ extended.view.payload.length) :
    headLength + (aead.sealInPlace nonce
      (extended.view.payload.take (extended.view.payload.length - tagLen))).length ≤
        extended.buffer.len := by
  have length := aead.tagged nonce
    (extended.view.payload.take (extended.view.payload.length - tagLen))
  have size := extended.len_payload
  rw [List.length_take] at length
  omega

theorem tag_room : tagLen ≤ (packet.extendEnd tagLen).view.payload.length := by
  rw [packet.len_payload_extendEnd]
  exact Nat.le_add_left _ _

/-- In place, with the tag in the room behind the payload. -/
def encryptBuffer : PacketBuffer :=
  match crypto.crypto with
  | none => packet
  | some aead =>
      let extended := packet.extendEnd tagLen
      let text := extended.view.payload.take (extended.view.payload.length - tagLen)
      extended.payloadMut (aead.sealInPlace extended.view.makeNonce text)
        (sealed_fits aead _ extended (tag_room packet))

theorem makeNonce_header {left right : NetPacket} (same : left.header = right.header) :
    left.makeNonce = right.makeNonce := by
  cases left
  cases right
  cases same
  rfl

theorem view_encryptBuffer :
    (crypto.encryptBuffer packet).view = crypto.encryptInPlace packet.view := by
  unfold encryptBuffer encryptInPlace
  cases crypto.crypto with
  | none => rfl
  | some aead =>
      simp only
      obtain ⟨header, kept⟩ := packet.view_extendEnd tagLen
      have room := packet.len_payload_extendEnd tagLen
      have text : (packet.extendEnd tagLen).view.payload.take
          ((packet.extendEnd tagLen).view.payload.length - tagLen) = packet.view.payload := by
        rw [room, Nat.add_sub_cancel, kept]
      have nonce : (packet.extendEnd tagLen).view.makeNonce = packet.view.makeNonce :=
        makeNonce_header header
      have length := aead.tagged packet.view.makeNonce packet.view.payload
      rw [PacketBuffer.view_payloadMut]
      have covered : (packet.extendEnd tagLen).view.payload.drop
          (aead.sealInPlace packet.view.makeNonce packet.view.payload).length = [] :=
        List.drop_of_length_le (by omega)
      rw [text, nonce, covered, List.append_nil, header]

/-- In place; the tag leaves the window. -/
def decryptBuffer : Outcome PacketBuffer :=
  match crypto.crypto with
  | none => .ok packet
  | some aead =>
      match aead.openInPlace packet.view.makeNonce packet.view.payload with
      | some plaintext =>
          -- the plaintext lies in the front of the payload, all but the tag
          if fits : headLength + plaintext.length + tagLen = packet.buffer.len then
            .ok ((packet.payloadMut plaintext (by omega)).shrinkEnd tagLen (by
              rw [PacketBuffer.payloadMut, TransmissionBytes.len_copyFromSlice]
              omega))
          else .panic
      | none => .err "decrypt failed"

theorem decryptBuffer_view
    (tagged : ∀ aead plaintext, crypto.crypto = some aead →
      aead.openInPlace packet.view.makeNonce packet.view.payload = some plaintext →
        plaintext.length + tagLen = packet.view.payload.length) :
    (crypto.decryptBuffer packet).bind (fun packet => .ok packet.view) =
      crypto.decryptInPlace packet.view := by
  unfold decryptBuffer decryptInPlace
  cases key : crypto.crypto with
  | none => rfl
  | some aead =>
      simp only
      cases opened : aead.openInPlace packet.view.makeNonce packet.view.payload with
      | none => rfl
      | some plaintext =>
          have short := tagged aead plaintext key opened
          have size := packet.len_payload
          have fits : headLength + plaintext.length + tagLen = packet.buffer.len := by omega
          have front : (plaintext ++ packet.view.payload.drop plaintext.length).take
              ((plaintext ++ packet.view.payload.drop plaintext.length).length - tagLen) =
                plaintext := by
            apply List.take_left'
            rw [List.length_append, List.length_drop]
            omega
          simp only [dif_pos fits, Outcome.bind]
          rw [PacketBuffer.view_shrinkEnd, PacketBuffer.view_payloadMut, front]

end PacketCrypto

namespace FecEncoder

/-- `encode` of a packet in a buffer, which is resized to hold the shard. -/
def encodeBuffer (encoder : FecEncoder) (now : Instant) (packet : PacketBuffer) :
    Outcome (FecEncoder × PacketBuffer) :=
  let src := packet.view.srcId
  let dest := packet.view.destId
  let originalPayload := packet.view.payload
  if 65535 < originalPayload.length then .err "Payload too big"
  else do
    let state := encoder.stateOf now src dest
    let pushed := push state encoder.channel now src dest
      (fecData packet.view.header originalPayload)
    let fecPayload := FecPacket.encodeToVec
      ⟨state.groupId, UInt32.ofNat state.currentBatch.length, originalPayload, none⟩
    let packet ← (packet.resize fecPayload.length).setPayload fecPayload
    pure (⟨encoder.batchStates.insert dest pushed.1, pushed.2⟩, packet.setFecFlag true)

theorem encodeBuffer_view (encoder : FecEncoder) (now : Instant) (packet : PacketBuffer) :
    (encoder.encodeBuffer now packet).bind (fun result => .ok (result.1, result.2.view)) =
      encoder.encode now packet.view := by
  unfold encodeBuffer encode
  by_cases big : 65535 < packet.view.payload.length
  · simp only [if_pos big]
    rfl
  · simp only [if_neg big, NetPacket.resizePayload_setPayload, Outcome.ok_bind, Outcome.pure_eq]
    generalize FecPacket.encodeToVec _ = fecPayload
    have written := packet.setPayload_resize fecPayload
    obtain ⟨wrapped, result, view⟩ := Outcome.exists_of_bind_ok written
    rw [result, Outcome.ok_bind, Outcome.bind, PacketBuffer.setFecFlag, PacketBuffer.view_headerMut,
      view]
    rfl

end FecEncoder
end VntClient
