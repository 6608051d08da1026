import Mathlib

/-!
The protocol buffer wire format: base-128 varints, field keys, length-delimited
fields, and the merge loop of a message. A message type supplies only how one
field changes it; unknown fields are skipped, groups included. Readers consume
a byte list from the front and return what is left.
-/

namespace WireFormat

abbrev Bytes := List UInt8

/-- Seven payload bits per byte, the high bit set on every byte but the last. -/
def varintBytes : Nat → Nat → Bytes
  | 0, _ => []
  | fuel + 1, value =>
      if value < 128 then [UInt8.ofNat value]
      else UInt8.ofNat (value % 128 + 128) :: varintBytes fuel (value / 128)

def encodeVarint (value : Nat) : Bytes := varintBytes 10 value

def readVarint : Nat → Bytes → Option (Nat × Bytes)
  | 0, _ => none
  | _ + 1, [] => none
  | fuel + 1, byte :: rest =>
      if byte.toNat < 128 then
        -- the tenth byte holds one bit only
        if fuel = 0 ∧ 2 ≤ byte.toNat then none else some (byte.toNat, rest)
      else
        (readVarint fuel rest).map fun high => (byte.toNat % 128 + 128 * high.1, high.2)

def decodeVarint (bytes : Bytes) : Option (Nat × Bytes) := readVarint 10 bytes

theorem readVarint_varintBytes (fuel value : Nat) (rest : Bytes)
    (bounded : value < 2 * 128 ^ fuel) :
    readVarint (fuel + 1) (varintBytes (fuel + 1) value ++ rest) = some (value, rest) := by
  induction fuel generalizing value with
  | zero =>
      have small : value < 128 := by omega
      have byte : (UInt8.ofNat value).toNat = value := by simp; omega
      have tenth : ¬ 2 ≤ value := by omega
      simp [varintBytes, readVarint, small, byte, tenth]
  | succ fuel ih =>
      unfold varintBytes
      by_cases small : value < 128
      · have byte : (UInt8.ofNat value).toNat = value := by simp; omega
        simp [readVarint, small, byte]
      · have byte : (UInt8.ofNat (value % 128 + 128)).toNat = value % 128 + 128 := by
          simp; omega
        have continued : ¬ value % 128 + 128 < 128 := by omega
        have shrinks : value / 128 < 2 * 128 ^ fuel := by
          rw [Nat.div_lt_iff_lt_mul (by decide)]
          rw [pow_succ] at bounded
          omega
        simp only [small, ↓reduceIte, List.cons_append, readVarint, byte, continued,
          ih _ shrinks, Option.map_some]
        congr 2
        omega

theorem decodeVarint_encodeVarint (value : Nat) (rest : Bytes) (bounded : value < 2 ^ 64) :
    decodeVarint (encodeVarint value ++ rest) = some (value, rest) :=
  readVarint_varintBytes 9 value rest (by simpa using bounded)

/-- Wire types as they stand in the low three bits of a key. -/
inductive WireType where
  | varint | sixtyFourBit | lengthDelimited | startGroup | endGroup | thirtyTwoBit
deriving DecidableEq

def WireType.number : WireType → Nat
  | .varint => 0
  | .sixtyFourBit => 1
  | .lengthDelimited => 2
  | .startGroup => 3
  | .endGroup => 4
  | .thirtyTwoBit => 5

def WireType.ofNumber : Nat → Option WireType
  | 0 => some .varint
  | 1 => some .sixtyFourBit
  | 2 => some .lengthDelimited
  | 3 => some .startGroup
  | 4 => some .endGroup
  | 5 => some .thirtyTwoBit
  | _ => none

@[simp] theorem WireType.ofNumber_number (wire : WireType) : WireType.ofNumber wire.number = some wire := by
  cases wire <;> rfl

theorem WireType.number_lt (wire : WireType) : wire.number < 8 := by
  cases wire <;> decide

def encodeKey (tag : Nat) (wire : WireType) : Bytes := encodeVarint (tag * 8 + wire.number)

def decodeKey (bytes : Bytes) : Option (Nat × WireType × Bytes) :=
  match decodeVarint bytes with
  | none => none
  | some (key, rest) =>
      if 2 ^ 32 ≤ key then none
      else match WireType.ofNumber (key % 8) with
        | none => none
        | some wire => if key / 8 = 0 then none else some (key / 8, wire, rest)

theorem decodeKey_encodeKey (tag : Nat) (wire : WireType) (rest : Bytes)
    (positive : 0 < tag) (bounded : tag < 2 ^ 29) :
    decodeKey (encodeKey tag wire ++ rest) = some (tag, wire, rest) := by
  have low := wire.number_lt
  have key : (tag * 8 + wire.number) % 8 = wire.number := by omega
  have field : (tag * 8 + wire.number) / 8 = tag := by omega
  have fits : ¬ 2 ^ 32 ≤ tag * 8 + wire.number := by omega
  rw [decodeKey, encodeKey, decodeVarint_encodeVarint _ _ (by omega)]
  simp only [fits, ↓reduceIte, key, WireType.ofNumber_number, field, Nat.ne_of_gt positive]

/-- The bytes of a length-delimited field, split from what follows it. -/
def takeDelimited (bytes : Bytes) : Option (Bytes × Bytes) :=
  match decodeVarint bytes with
  | none => none
  | some (length, rest) =>
      if rest.length < length then none else some (rest.take length, rest.drop length)

def encodeDelimited (value : Bytes) : Bytes := encodeVarint value.length ++ value

theorem takeDelimited_encodeDelimited (value rest : Bytes) (bounded : value.length < 2 ^ 64) :
    takeDelimited (encodeDelimited value ++ rest) = some (value, rest) := by
  rw [takeDelimited, encodeDelimited, List.append_assoc, decodeVarint_encodeVarint _ _ bounded]
  simp

def dropBytes (count : Nat) (bytes : Bytes) : Option Bytes :=
  if bytes.length < count then none else some (bytes.drop count)

mutual
/-- Skips one field of an unknown tag. `depth` is the recursion budget and
`fuel` bounds the keys read, which the caller takes from the input length. -/
def skipField : Nat → Nat → WireType → Nat → Bytes → Option Bytes
  | 0, _, _, _, _ => none
  | fuel + 1, depth, wire, tag, bytes =>
      if depth = 0 then none
      else match wire with
        | .varint => (decodeVarint bytes).map Prod.snd
        | .sixtyFourBit => dropBytes 8 bytes
        | .lengthDelimited => (takeDelimited bytes).map Prod.snd
        | .thirtyTwoBit => dropBytes 4 bytes
        | .startGroup => skipGroup fuel depth tag bytes
        | .endGroup => none

def skipGroup : Nat → Nat → Nat → Bytes → Option Bytes
  | 0, _, _, _ => none
  | fuel + 1, depth, tag, bytes =>
      match decodeKey bytes with
      | none => none
      | some (inner, .endGroup, rest) => if inner = tag then some rest else none
      | some (inner, wire, rest) =>
          match skipField fuel (depth - 1) wire inner rest with
          | none => none
          | some after => skipGroup fuel depth tag after
end

section Message
variable {Message : Type} (mergeField : Message → Nat → WireType → Bytes → Option (Message × Bytes))

/-- Reads fields until the input ends. Each field costs at least its key, so
the input length is always enough fuel. -/
def mergeLoop : Nat → Message → Bytes → Option Message
  | _, message, [] => some message
  | 0, _, _ :: _ => none
  | fuel + 1, message, bytes =>
      match decodeKey bytes with
      | none => none
      | some (tag, wire, rest) =>
          match mergeField message tag wire rest with
          | none => none
          | some (merged, after) => mergeLoop fuel merged after

def merge (message : Message) (bytes : Bytes) : Option Message :=
  mergeLoop mergeField bytes.length message bytes

theorem encodeVarint_ne_nil (value : Nat) : encodeVarint value ≠ [] := by
  unfold encodeVarint varintBytes
  split <;> simp

theorem mergeLoop_nil (fuel : Nat) (message : Message) :
    mergeLoop mergeField fuel message [] = some message := by
  cases fuel <;> rfl

/-- One written field at the front of the input is one turn of the loop. -/
theorem mergeLoop_field (fuel : Nat) (message merged : Message) (tag : Nat) (wire : WireType)
    (value rest : Bytes) (positive : 0 < tag) (bounded : tag < 2 ^ 29)
    (step : mergeField message tag wire (value ++ rest) = some (merged, rest)) :
    mergeLoop mergeField (fuel + 1) message (encodeKey tag wire ++ (value ++ rest)) =
      mergeLoop mergeField fuel merged rest := by
  have present : encodeKey tag wire ++ (value ++ rest) ≠ [] := by
    simp [encodeKey, encodeVarint_ne_nil]
  obtain ⟨byte, tail, split⟩ := List.exists_cons_of_ne_nil present
  have key := decodeKey_encodeKey tag wire (value ++ rest) positive bounded
  rw [split] at key ⊢
  simp only [mergeLoop, key, step]

end Message

theorem encodeKey_length_pos (tag : Nat) (wire : WireType) : 0 < (encodeKey tag wire).length :=
  List.length_pos_of_ne_nil (encodeVarint_ne_nil _)

end WireFormat
