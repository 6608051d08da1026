import VntClient.NetPacket

/-!
`crypto/`: sealing and opening a packet in place. The cipher is a parameter with
the two laws of an ideal one. The nonce is made from the header; nothing else of
the header takes part, since the associated data is empty.
-/

namespace VntClient

def tagLen : Nat := 16

/-- The twelve nonce bytes: type, low three bytes of the sequence number,
destination, source. -/
structure Nonce where
  bytes : Bytes
  sized : bytes.length = 12

deriving instance DecidableEq for Nonce

/-- An ideal cipher under one key: a sealed message opens under its own nonce
and under no other. The last `tagLen` bytes of what `sealInPlace` returns are the tag. -/
structure Aead where
  sealInPlace : Nonce → Bytes → Bytes
  openInPlace : Nonce → Bytes → Option Bytes
  opens : ∀ nonce message, openInPlace nonce (sealInPlace nonce message) = some message
  binds : ∀ nonce other message, other ≠ nonce → openInPlace other (sealInPlace nonce message) = none
  tagged : ∀ nonce message, (sealInPlace nonce message).length = message.length + tagLen

def NetPacket.makeNonce (packet : NetPacket) : Nonce where
  bytes := [packet.header.typeByte, UInt8.ofNat (packet.header.seq.toNat / 65536),
      UInt8.ofNat (packet.header.seq.toNat / 256), UInt8.ofNat packet.header.seq.toNat] ++
    toBeBytes32 packet.header.destId ++ toBeBytes32 packet.header.srcId
  sized := rfl

/-- No password means no key and packets go through as they are. -/
structure PacketCrypto where
  crypto : Option Aead

namespace PacketCrypto

def encryptInPlace (crypto : PacketCrypto) (packet : NetPacket) : NetPacket :=
  match crypto.crypto with
  | none => packet
  | some aead => { packet with payload := aead.sealInPlace packet.makeNonce packet.payload }

def decryptInPlace (crypto : PacketCrypto) (packet : NetPacket) : Outcome NetPacket :=
  match crypto.crypto with
  | none => .ok packet
  | some aead =>
      match aead.openInPlace packet.makeNonce packet.payload with
      | some plaintext => .ok { packet with payload := plaintext }
      | none => .err "decrypt failed"

theorem encryptInPlace_header (crypto : PacketCrypto) (packet : NetPacket) :
    (crypto.encryptInPlace packet).header = packet.header := by
  unfold encryptInPlace
  cases crypto.crypto <;> rfl

theorem decrypt_encrypt (crypto : PacketCrypto) (packet : NetPacket) :
    crypto.decryptInPlace (crypto.encryptInPlace packet) = .ok packet := by
  unfold decryptInPlace encryptInPlace
  cases crypto.crypto with
  | none => rfl
  | some aead =>
      have opened := aead.opens packet.makeNonce packet.payload
      have nonce : (⟨packet.header, aead.sealInPlace packet.makeNonce packet.payload⟩ :
          NetPacket).makeNonce = packet.makeNonce := rfl
      simp only [nonce, opened]

end PacketCrypto

/-- A cipher with the laws: the plain message, then the nonce and four zeros. -/
def transparentAead : Aead where
  sealInPlace nonce message := message ++ (nonce.bytes ++ [0, 0, 0, 0])
  openInPlace nonce sealed :=
    if sealed.drop (sealed.length - tagLen) = nonce.bytes ++ [0, 0, 0, 0] then
      some (sealed.take (sealed.length - tagLen))
    else none
  opens nonce message := by
    have size := nonce.sized
    have cut : (message ++ (nonce.bytes ++ [0, 0, 0, 0])).length - tagLen = message.length := by
      simp [size, tagLen]
    rw [cut, List.drop_left, if_pos rfl, List.take_left]
  binds nonce other message different := by
    have size := nonce.sized
    have cut : (message ++ (nonce.bytes ++ [0, 0, 0, 0])).length - tagLen = message.length := by
      simp [size, tagLen]
    rw [cut, List.drop_left, if_neg]
    intro same
    apply different
    cases nonce
    cases other
    simpa using (List.append_cancel_right same).symm
  tagged nonce message := by
    simp [nonce.sized, tagLen]

end VntClient
