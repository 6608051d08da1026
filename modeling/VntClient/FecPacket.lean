import VntClient.NetPacket
import VntClient.WireFormat

/-!
`proto/fec.proto` as the generated code reads and writes it: default values are
left out, the last occurrence of a field wins, and an unknown field is skipped.
-/

namespace VntClient
open WireFormat

structure ParityData where
  dataShards : UInt32
  parityShards : UInt32
deriving DecidableEq

structure FecPacket where
  groupId : UInt64
  packetIndex : UInt32
  payload : Bytes
  parityData : Option ParityData
deriving DecidableEq

def recursionLimit : Nat := 100

/-- A varint field; the reader keeps as many low bits as the field has. -/
def mergeVarint (wire : WireType) (bytes : Bytes) : Option (Nat × Bytes) :=
  if wire = .varint then decodeVarint bytes else none

def mergeDelimited (wire : WireType) (bytes : Bytes) : Option (Bytes × Bytes) :=
  if wire = .lengthDelimited then takeDelimited bytes else none

def encodeUint (tag value : Nat) : Bytes :=
  if value = 0 then [] else encodeKey tag .varint ++ encodeVarint value

def encodeBytes (tag : Nat) (value : Bytes) : Bytes :=
  if value = [] then [] else encodeKey tag .lengthDelimited ++ encodeDelimited value

namespace ParityData

def empty : ParityData := ⟨0, 0⟩

def encodeToVec (data : ParityData) : Bytes :=
  encodeUint 1 data.dataShards.toNat ++ encodeUint 2 data.parityShards.toNat

def mergeField (depth : Nat) (data : ParityData) (tag : Nat) (wire : WireType) (bytes : Bytes) :
    Option (ParityData × Bytes) :=
  match tag with
  | 1 => (mergeVarint wire bytes).map fun read =>
      ({ data with dataShards := UInt32.ofNat read.1 }, read.2)
  | 2 => (mergeVarint wire bytes).map fun read =>
      ({ data with parityShards := UInt32.ofNat read.1 }, read.2)
  | tag => (skipField (bytes.length + 1) depth wire tag bytes).map fun rest => (data, rest)

end ParityData

namespace FecPacket

def empty : FecPacket := ⟨0, 0, [], none⟩

def encodeParityData : Option ParityData → Bytes
  | none => []
  | some data => encodeKey 4 .lengthDelimited ++ encodeDelimited data.encodeToVec

def encodeToVec (packet : FecPacket) : Bytes :=
  encodeUint 1 packet.groupId.toNat ++ (encodeUint 2 packet.packetIndex.toNat ++
    (encodeBytes 3 packet.payload ++ encodeParityData packet.parityData))

def mergeField (packet : FecPacket) (tag : Nat) (wire : WireType) (bytes : Bytes) :
    Option (FecPacket × Bytes) :=
  match tag with
  | 1 => (mergeVarint wire bytes).map fun read =>
      ({ packet with groupId := UInt64.ofNat read.1 }, read.2)
  | 2 => (mergeVarint wire bytes).map fun read =>
      ({ packet with packetIndex := UInt32.ofNat read.1 }, read.2)
  | 3 => (mergeDelimited wire bytes).map fun read =>
      ({ packet with payload := read.1 }, read.2)
  | 4 =>
      match mergeDelimited wire bytes with
      | none => none
      | some (inner, rest) =>
          (merge (ParityData.mergeField (recursionLimit - 1))
            (packet.parityData.getD ParityData.empty) inner).map fun data =>
              ({ packet with parityData := some data }, rest)
  | tag => (skipField (bytes.length + 1) recursionLimit wire tag bytes).map fun rest =>
      (packet, rest)

def decode (bytes : Bytes) : Option FecPacket := merge mergeField empty bytes

end FecPacket

section RoundTrip
variable {Message : Type} (mergeField : Message → Nat → WireType → Bytes → Option (Message × Bytes))

theorem mergeLoop_uint (fuel : Nat) (message : Message) (update : Nat → Message) (tag value : Nat)
    (rest : Bytes) (positive : 0 < tag) (bounded : tag < 2 ^ 29) (fits : value < 2 ^ 64)
    (absent : update 0 = message) (enough : (encodeUint tag value ++ rest).length ≤ fuel)
    (step : ∀ bytes, mergeField message tag .varint bytes =
      (mergeVarint .varint bytes).map fun read => (update read.1, read.2)) :
    ∃ fuel', rest.length ≤ fuel' ∧
      mergeLoop mergeField fuel message (encodeUint tag value ++ rest) =
        mergeLoop mergeField fuel' (update value) rest := by
  by_cases zero : value = 0
  · subst zero
    exact ⟨fuel, by simpa [encodeUint] using enough, by simp [encodeUint, absent]⟩
  · have key := encodeKey_length_pos tag .varint
    simp only [encodeUint, zero, ↓reduceIte, List.append_assoc, List.length_append] at enough ⊢
    obtain ⟨fuel, rfl⟩ : ∃ n, fuel = n + 1 := ⟨fuel - 1, by omega⟩
    refine ⟨fuel, by omega, ?_⟩
    apply mergeLoop_field _ _ _ _ _ _ _ _ positive bounded
    rw [step, mergeVarint, if_pos rfl, decodeVarint_encodeVarint value rest fits]
    rfl

theorem mergeLoop_bytes (fuel : Nat) (message : Message) (update : Bytes → Message) (tag : Nat)
    (value rest : Bytes) (positive : 0 < tag) (bounded : tag < 2 ^ 29)
    (fits : value.length < 2 ^ 64)
    (absent : update [] = message) (enough : (encodeBytes tag value ++ rest).length ≤ fuel)
    (step : ∀ bytes, mergeField message tag .lengthDelimited bytes =
      (mergeDelimited .lengthDelimited bytes).map fun read => (update read.1, read.2)) :
    ∃ fuel', rest.length ≤ fuel' ∧
      mergeLoop mergeField fuel message (encodeBytes tag value ++ rest) =
        mergeLoop mergeField fuel' (update value) rest := by
  by_cases zero : value = []
  · subst zero
    exact ⟨fuel, by simpa [encodeBytes] using enough, by simp [encodeBytes, absent]⟩
  · have key := encodeKey_length_pos tag .lengthDelimited
    simp only [encodeBytes, zero, ↓reduceIte, List.append_assoc, List.length_append] at enough ⊢
    obtain ⟨fuel, rfl⟩ : ∃ n, fuel = n + 1 := ⟨fuel - 1, by omega⟩
    refine ⟨fuel, by omega, ?_⟩
    apply mergeLoop_field _ _ _ _ _ _ _ _ positive bounded
    rw [step, mergeDelimited, if_pos rfl, takeDelimited_encodeDelimited value rest fits]
    rfl

end RoundTrip

theorem ParityData.merge_encodeToVec (depth : Nat) (data : ParityData) :
    merge (ParityData.mergeField depth) ParityData.empty data.encodeToVec = some data := by
  have dataFits := data.dataShards.toNat_lt
  have parityFits := data.parityShards.toNat_lt
  obtain ⟨fuel, enough, first⟩ := mergeLoop_uint (ParityData.mergeField depth) _ ParityData.empty
    (fun value => ⟨UInt32.ofNat value, 0⟩) 1 data.dataShards.toNat
    (encodeUint 2 data.parityShards.toNat) (by decide) (by decide) (by omega) rfl
    (Nat.le_refl _) (fun _ => rfl)
  obtain ⟨fuel', _, second⟩ := mergeLoop_uint (ParityData.mergeField depth) fuel
    ⟨data.dataShards, 0⟩ (fun value => ⟨data.dataShards, UInt32.ofNat value⟩) 2
    data.parityShards.toNat [] (by decide) (by decide) (by omega) rfl (by simpa using enough)
    (fun _ => rfl)
  rw [merge, ParityData.encodeToVec, first]
  simp only [UInt32.ofNat_toNat, List.append_nil] at second ⊢
  rw [second, mergeLoop_nil]

theorem ParityData.encodeToVec_length (data : ParityData) :
    data.encodeToVec.length < 2 ^ 64 := by
  have varint : ∀ fuel value, (varintBytes fuel value).length ≤ fuel := by
    intro fuel
    induction fuel with
    | zero => intro value; simp [varintBytes]
    | succ fuel ih =>
        intro value
        unfold varintBytes
        split
        · simp
        · simpa using ih (value / 128)
  have field : ∀ tag value, (encodeUint tag value).length ≤ 20 := by
    intro tag value
    have key := varint 10 (tag * 8 + WireType.varint.number)
    have content := varint 10 value
    unfold encodeUint encodeKey encodeVarint
    split
    · simp
    · rw [List.length_append]; omega
  have first := field 1 data.dataShards.toNat
  have second := field 2 data.parityShards.toNat
  rw [ParityData.encodeToVec, List.length_append]
  omega

/-- The decoder reads back every message the encoder writes. -/
theorem FecPacket.decode_encodeToVec (packet : FecPacket) (fits : packet.payload.length < 2 ^ 64) :
    FecPacket.decode packet.encodeToVec = some packet := by
  obtain ⟨groupId, packetIndex, payload, parityData⟩ := packet
  have groupFits := groupId.toNat_lt
  have indexFits := packetIndex.toNat_lt
  obtain ⟨fuel₁, enough₁, first⟩ := mergeLoop_uint FecPacket.mergeField _ FecPacket.empty
    (fun value => ⟨UInt64.ofNat value, 0, [], none⟩) 1 groupId.toNat
    (encodeUint 2 packetIndex.toNat ++ (encodeBytes 3 payload ++ FecPacket.encodeParityData parityData))
    (by decide) (by decide) (by omega) rfl (Nat.le_refl _) (fun _ => rfl)
  obtain ⟨fuel₂, enough₂, second⟩ := mergeLoop_uint FecPacket.mergeField fuel₁
    ⟨groupId, 0, [], none⟩ (fun value => ⟨groupId, UInt32.ofNat value, [], none⟩) 2
    packetIndex.toNat (encodeBytes 3 payload ++ FecPacket.encodeParityData parityData)
    (by decide) (by decide) (by omega) rfl enough₁ (fun _ => rfl)
  obtain ⟨fuel₃, enough₃, third⟩ := mergeLoop_bytes FecPacket.mergeField fuel₂
    ⟨groupId, packetIndex, [], none⟩ (fun value => ⟨groupId, packetIndex, value, none⟩) 3
    payload (FecPacket.encodeParityData parityData) (by decide) (by decide) fits rfl enough₂
    (fun _ => rfl)
  have last : mergeLoop FecPacket.mergeField fuel₃ ⟨groupId, packetIndex, payload, none⟩
      (FecPacket.encodeParityData parityData) = some ⟨groupId, packetIndex, payload, parityData⟩ := by
    cases parityData with
    | none => exact mergeLoop_nil _ _ _
    | some data =>
        have key := encodeKey_length_pos 4 .lengthDelimited
        simp only [FecPacket.encodeParityData, List.length_append] at enough₃ ⊢
        obtain ⟨fuel, rfl⟩ : ∃ n, fuel₃ = n + 1 := ⟨fuel₃ - 1, by omega⟩
        have delimited := takeDelimited_encodeDelimited data.encodeToVec [] data.encodeToVec_length
        have field := mergeLoop_field FecPacket.mergeField fuel
          ⟨groupId, packetIndex, payload, none⟩ ⟨groupId, packetIndex, payload, some data⟩ 4
          .lengthDelimited (encodeDelimited data.encodeToVec) [] (by decide) (by decide)
          (by simp only [FecPacket.mergeField, mergeDelimited, ↓reduceIte, delimited,
                Option.getD_none, ParityData.merge_encodeToVec, Option.map_some])
        rw [List.append_nil] at field
        rw [field, mergeLoop_nil]
  simp only [UInt64.ofNat_toNat, UInt32.ofNat_toNat] at first second
  rw [FecPacket.decode, merge]
  exact first.trans (second.trans (third.trans last))

end VntClient
