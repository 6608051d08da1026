import VntClient.WireFormat

/-!
Typed fields over the merge loop. A `FieldCodec` is one kind of value with the
proof that it reads back; how often a field may stand (once unless it has the
default, at most once, repeatedly, packed) is the same for every kind. `Reads` says
what a run of fields does to a message and composes along concatenation.
-/

namespace WireFormat

theorem varintBytes_length (fuel value : Nat) : (varintBytes fuel value).length ≤ fuel := by
  induction fuel generalizing value with
  | zero => simp [varintBytes]
  | succ fuel ih =>
      unfold varintBytes
      by_cases small : value < 128
      · simp [small]
      · simpa [small] using ih (value / 128)

theorem encodeVarint_length (value : Nat) : (encodeVarint value).length ≤ 10 :=
  varintBytes_length 10 value

/-- Values of one kind as they stand behind their key. -/
structure FieldCodec (Value : Type) where
  wire : WireType
  write : Value → Bytes
  read : Bytes → Option (Value × Bytes)
  Fits : Value → Prop
  write_ne_nil : ∀ value, write value ≠ []
  read_write : ∀ {value} rest, Fits value → read (write value ++ rest) = some (value, rest)

namespace FieldCodec

def varint {Value : Type} (toNat : Value → Nat) (ofNat : Nat → Value) (Fits : Value → Prop)
    (faithful : ∀ {value}, Fits value → toNat value < 2 ^ 64 ∧ ofNat (toNat value) = value) :
    FieldCodec Value where
  wire := .varint
  write value := encodeVarint (toNat value)
  read bytes := (decodeVarint bytes).map fun read => (ofNat read.1, read.2)
  Fits := Fits
  write_ne_nil value := encodeVarint_ne_nil _
  read_write rest fits := by
    rw [decodeVarint_encodeVarint _ _ (faithful fits).1, Option.map_some, (faithful fits).2]

def uint32 : FieldCodec UInt32 :=
  varint UInt32.toNat UInt32.ofNat (fun _ => True) fun {value} _ => by
    have bounded := value.toNat_lt
    exact ⟨by omega, by simp⟩

def uint64 : FieldCodec UInt64 :=
  varint UInt64.toNat UInt64.ofNat (fun _ => True) fun {value} _ => by
    have bounded := value.toNat_lt
    exact ⟨by omega, by simp⟩

def bool : FieldCodec Bool :=
  varint (fun value => if value then 1 else 0) (fun value => value != 0) (fun _ => True)
    fun {value} _ => by cases value <;> decide

/-- A negative number is extended by its sign to the width of a varint. -/
def int32 : FieldCodec Int :=
  varint (fun value => (value % 2 ^ 64).toNat) (fun value => (value : Int).bmod (2 ^ 32))
    (fun value => -2 ^ 31 ≤ value ∧ value < 2 ^ 31) fun {value} fits => by
      rw [Int.bmod_def]
      constructor <;> omega

def int64 : FieldCodec Int :=
  varint (fun value => (value % 2 ^ 64).toNat) (fun value => (value : Int).bmod (2 ^ 64))
    (fun value => -2 ^ 63 ≤ value ∧ value < 2 ^ 63) fun {value} fits => by
      rw [Int.bmod_def]
      constructor <;> omega

/-- Four bytes, the lowest first. -/
def fixed32 : FieldCodec UInt32 where
  wire := .thirtyTwoBit
  write value :=
    let number := value.toNat
    [.ofNat number, .ofNat (number / 256), .ofNat (number / 65536), .ofNat (number / 16777216)]
  read
    | b0 :: b1 :: b2 :: b3 :: rest =>
        some (.ofNat (b0.toNat + 256 * (b1.toNat + 256 * (b2.toNat + 256 * b3.toNat))), rest)
    | _ => none
  Fits _ := True
  write_ne_nil _ := by simp
  read_write {value} rest _ := by
    have bounded := value.toNat_lt
    simp only [List.cons_append, List.nil_append, Option.some.injEq, Prod.mk.injEq, and_true,
      UInt8.toNat_ofNat']
    rw [← UInt32.toNat_inj, UInt32.toNat_ofNat']
    omega

def bytes : FieldCodec Bytes where
  wire := .lengthDelimited
  write := encodeDelimited
  read := takeDelimited
  Fits value := value.length < 2 ^ 64
  write_ne_nil _ := by simp [encodeDelimited, encodeVarint_ne_nil]
  read_write rest fits := takeDelimited_encodeDelimited _ rest fits

def utf8 (text : String) : Bytes := text.toUTF8.data.toList

def ofUtf8 (bytes : Bytes) : Option String := String.fromUTF8? ⟨bytes.toArray⟩

theorem ofUtf8_utf8 (text : String) : ofUtf8 (utf8 text) = some text := by
  have valid : text.toUTF8.IsValidUTF8 := text.isValidUTF8
  simp only [ofUtf8, utf8, Array.toArray_toList, String.fromUTF8?]
  exact dif_pos valid

def string : FieldCodec String where
  wire := .lengthDelimited
  write text := encodeDelimited (utf8 text)
  read bytes := do
    let (content, rest) ← takeDelimited bytes
    let text ← ofUtf8 content
    return (text, rest)
  Fits text := (utf8 text).length < 2 ^ 64
  write_ne_nil _ := by simp [encodeDelimited, encodeVarint_ne_nil]
  read_write rest fits := by
    rw [takeDelimited_encodeDelimited _ rest fits]
    simp [ofUtf8_utf8]

/-- What is written with its length is shorter than that. -/
theorem encodeDelimited_content {content : Bytes}
    (short : (encodeDelimited content).length < 2 ^ 64) : content.length < 2 ^ 64 := by
  rw [encodeDelimited, List.length_append] at short
  omega

theorem field_content {tag : Nat} {wire : WireType} {content : Bytes}
    (short : (encodeKey tag wire ++ encodeDelimited content).length < 2 ^ 64) :
    content.length < 2 ^ 64 := by
  rw [List.length_append] at short
  exact encodeDelimited_content (by omega)

section Presence
variable {Value : Type} (codec : FieldCodec Value)

def merge (wire : WireType) (bytes : Bytes) : Option (Value × Bytes) :=
  if wire = codec.wire then codec.read bytes else none

def field (tag : Nat) (value : Value) : Bytes := encodeKey tag codec.wire ++ codec.write value

/-- A field that is left out when it holds the default. -/
def singular [DecidableEq Value] (default : Value) (tag : Nat) (value : Value) : Bytes :=
  if value = default then [] else codec.field tag value

def optional (tag : Nat) : Option Value → Bytes
  | none => []
  | some value => codec.field tag value

def repeated (tag : Nat) (values : List Value) : Bytes := values.flatMap (codec.field tag)

def packed (tag : Nat) (values : List Value) : Bytes :=
  if values.isEmpty then []
  else encodeKey tag .lengthDelimited ++ encodeDelimited (values.flatMap codec.write)

def readAll : Nat → Bytes → Option (List Value)
  | _, [] => some []
  | 0, _ :: _ => none
  | fuel + 1, bytes =>
      match codec.read bytes with
      | none => none
      | some (value, rest) => (readAll fuel rest).map (value :: ·)

/-- Repeated numbers are taken packed as well as one by one. -/
def mergeRepeated (values : List Value) (wire : WireType) (bytes : Bytes) :
    Option (List Value × Bytes) :=
  if wire = .lengthDelimited then
    match takeDelimited bytes with
    | none => none
    | some (content, rest) =>
        (codec.readAll content.length content).map fun more => (values ++ more, rest)
  else (codec.merge wire bytes).map fun read => (values ++ [read.1], read.2)

theorem readAll_flatMap {values : List Value} (fits : ∀ value ∈ values, codec.Fits value)
    {fuel : Nat} (enough : (values.flatMap codec.write).length ≤ fuel) :
    codec.readAll fuel (values.flatMap codec.write) = some values := by
  induction values generalizing fuel with
  | nil => simp [readAll]
  | cons value rest ih =>
      have written := List.length_pos_of_ne_nil (codec.write_ne_nil value)
      rw [List.flatMap_cons, List.length_append] at enough
      obtain ⟨fuel, rfl⟩ : ∃ n, fuel = n + 1 := ⟨fuel - 1, by omega⟩
      have present : codec.write value ++ rest.flatMap codec.write ≠ [] := by
        simp [codec.write_ne_nil value]
      obtain ⟨byte, tail, split⟩ := List.exists_cons_of_ne_nil present
      have first := codec.read_write (rest.flatMap codec.write) (fits value List.mem_cons_self)
      rw [List.flatMap_cons]
      rw [split] at first ⊢
      simp only [readAll, first]
      rw [ih (fun inner held => fits inner (List.mem_cons_of_mem _ held)) (by omega),
        Option.map_some]

/-- What could be written into a buffer fits. -/
theorem singular_fits [DecidableEq Value] {default value : Value} (tag : Nat)
    (plain : codec.Fits default) (content : (codec.write value).length < 2 ^ 64 → codec.Fits value)
    (short : (codec.singular default tag value).length < 2 ^ 64) : codec.Fits value := by
  by_cases same : value = default
  · exact same ▸ plain
  · rw [singular, if_neg same, field, List.length_append] at short
    exact content (by omega)

theorem optional_fits {value : Option Value} (tag : Nat)
    (content : ∀ held, (codec.write held).length < 2 ^ 64 → codec.Fits held)
    (short : (codec.optional tag value).length < 2 ^ 64) : ∀ held ∈ value, codec.Fits held := by
  rintro held rfl
  rw [optional, field, List.length_append] at short
  exact content held (by omega)

theorem singular_length [DecidableEq Value] {default value : Value} {tag most : Nat}
    (short : (codec.write value).length ≤ most) :
    (codec.singular default tag value).length ≤ 10 + most := by
  have key := encodeVarint_length (tag * 8 + codec.wire.number)
  by_cases same : value = default
  · simp [singular, same]
  · rw [singular, if_neg same, field, encodeKey, List.length_append]
    omega

theorem repeated_fits {values : List Value} (tag : Nat)
    (content : ∀ value, (codec.write value).length < 2 ^ 64 → codec.Fits value)
    (short : (codec.repeated tag values).length < 2 ^ 64) : ∀ value ∈ values, codec.Fits value := by
  intro value within
  have among : (codec.field tag value).Sublist (codec.repeated tag values) :=
    List.sublist_flatten_of_mem (List.mem_map_of_mem within)
  have least := among.length_le
  rw [field, List.length_append] at least
  exact content value (by omega)

theorem packed_content {values : List Value} (tag : Nat)
    (short : (codec.packed tag values).length < 2 ^ 64) :
    (values.flatMap codec.write).length < 2 ^ 64 := by
  cases values with
  | nil => simp
  | cons value rest => exact field_content short

end Presence

theorem string_content (text : String) (short : (string.write text).length < 2 ^ 64) :
    string.Fits text := encodeDelimited_content short

theorem bytes_content (value : Bytes) (short : (bytes.write value).length < 2 ^ 64) :
    bytes.Fits value := encodeDelimited_content short

theorem string_fits {text : String} (tag : Nat)
    (short : (string.singular "" tag text).length < 2 ^ 64) : string.Fits text :=
  string.singular_fits tag (by simp [string, utf8]) (string_content text) short

theorem bytes_fits {value : Bytes} (tag : Nat)
    (short : (bytes.singular [] tag value).length < 2 ^ 64) : bytes.Fits value :=
  bytes.singular_fits tag (by simp [bytes]) (bytes_content value) short

end FieldCodec

section Message
variable {Message : Type}

/-- A message as a field is merged into what the field holds already. -/
def mergeNested (mergeField : Message → Nat → WireType → Bytes → Option (Message × Bytes))
    (current : Message) (wire : WireType) (bytes : Bytes) : Option (Message × Bytes) :=
  if wire = .lengthDelimited then
    match takeDelimited bytes with
    | none => none
    | some (content, rest) =>
        (merge mergeField current content).map fun merged => (merged, rest)
  else none

/-- Messages that stand as fields of others, from what is proved of them alone. -/
def FieldCodec.message
    (mergeField : Message → Nat → WireType → Bytes → Option (Message × Bytes)) (empty : Message)
    (encode : Message → Bytes) (Fits : Message → Prop)
    (roundTrip : ∀ {message}, Fits message →
      WireFormat.merge mergeField empty (encode message) = some message ∧
        (encode message).length < 2 ^ 64) :
    FieldCodec Message where
  wire := .lengthDelimited
  write message := encodeDelimited (encode message)
  read := mergeNested mergeField empty .lengthDelimited
  Fits := Fits
  write_ne_nil _ := by simp [encodeDelimited, encodeVarint_ne_nil]
  read_write rest fits := by
    rw [mergeNested, if_pos rfl, takeDelimited_encodeDelimited _ rest (roundTrip fits).2]
    simp only [(roundTrip fits).1, Option.map_some]

variable (mergeField : Message → Nat → WireType → Bytes → Option (Message × Bytes))

/-- In front of anything, `bytes` turn `message` into `merged`. -/
def Reads (message : Message) (bytes : Bytes) (merged : Message) : Prop :=
  ∀ fuel rest, (bytes ++ rest).length ≤ fuel → ∃ fuel', rest.length ≤ fuel' ∧
    mergeLoop mergeField fuel message (bytes ++ rest) = mergeLoop mergeField fuel' merged rest

variable {mergeField} {message middle merged : Message}

namespace Reads

theorem nil : Reads mergeField message [] message := fun fuel _ enough => ⟨fuel, enough, rfl⟩

theorem of_eq {bytes : Bytes} (reads : Reads mergeField message bytes middle)
    (same : middle = merged) : Reads mergeField message bytes merged := same ▸ reads

theorem append {front back : Bytes} (first : Reads mergeField message front middle)
    (second : Reads mergeField middle back merged) :
    Reads mergeField message (front ++ back) merged := by
  intro fuel rest enough
  rw [List.append_assoc] at enough ⊢
  obtain ⟨fuel', enough', frontRead⟩ := first fuel (back ++ rest) enough
  obtain ⟨fuel'', enough'', backRead⟩ := second fuel' rest enough'
  exact ⟨fuel'', enough'', frontRead.trans backRead⟩

theorem merge {bytes : Bytes} (reads : Reads mergeField message bytes merged) :
    WireFormat.merge mergeField message bytes = some merged := by
  obtain ⟨fuel, _, read⟩ := reads bytes.length [] (by simp)
  rw [List.append_nil] at read
  rw [WireFormat.merge, read, mergeLoop_nil]

theorem keyed {tag : Nat} {wire : WireType} {value : Bytes} (positive : 0 < tag)
    (bounded : tag < 2 ^ 29)
    (step : ∀ rest, mergeField message tag wire (value ++ rest) = some (merged, rest)) :
    Reads mergeField message (encodeKey tag wire ++ value) merged := by
  intro fuel rest enough
  have key := encodeKey_length_pos tag wire
  rw [List.append_assoc] at enough ⊢
  simp only [List.length_append] at enough
  obtain ⟨fuel, rfl⟩ : ∃ n, fuel = n + 1 := ⟨fuel - 1, by omega⟩
  exact ⟨fuel, by omega, mergeLoop_field _ _ _ _ _ _ _ _ positive bounded (step rest)⟩

variable {Value : Type} {codec : FieldCodec Value} {tag : Nat}

theorem field (update : Value → Message) {value : Value} (positive : 0 < tag)
    (bounded : tag < 2 ^ 29) (fits : codec.Fits value)
    (step : ∀ bytes, mergeField message tag codec.wire bytes =
      (codec.read bytes).map fun read => (update read.1, read.2)) :
    Reads mergeField message (codec.field tag value) (update value) := by
  apply keyed positive bounded
  intro rest
  rw [step, codec.read_write rest fits, Option.map_some]

theorem singular [DecidableEq Value] {default : Value} (update : Value → Message) {value : Value}
    (positive : 0 < tag) (bounded : tag < 2 ^ 29) (fits : codec.Fits value)
    (absent : update default = message)
    (step : ∀ bytes, mergeField message tag codec.wire bytes =
      (codec.read bytes).map fun read => (update read.1, read.2)) :
    Reads mergeField message (codec.singular default tag value) (update value) := by
  by_cases same : value = default
  · rw [FieldCodec.singular, if_pos same, same, absent]
    exact nil
  · rw [FieldCodec.singular, if_neg same]
    exact field update positive bounded fits step

theorem optional (update : Option Value → Message) {value : Option Value} (positive : 0 < tag)
    (bounded : tag < 2 ^ 29) (fits : ∀ held ∈ value, codec.Fits held)
    (absent : update none = message)
    (step : ∀ bytes, mergeField message tag codec.wire bytes =
      (codec.read bytes).map fun read => (update (some read.1), read.2)) :
    Reads mergeField message (codec.optional tag value) (update value) := by
  cases value with
  | none => exact absent ▸ nil
  | some held =>
      exact field (fun read => update (some read)) positive bounded (fits held rfl) step

/-- Each occurrence adds its value behind the ones before. -/
theorem repeated_behind (update : List Value → Message) {values : List Value} (held : List Value)
    (positive : 0 < tag) (bounded : tag < 2 ^ 29) (fits : ∀ value ∈ values, codec.Fits value)
    (step : ∀ held bytes, mergeField (update held) tag codec.wire bytes =
      (codec.read bytes).map fun read => (update (held ++ [read.1]), read.2)) :
    Reads mergeField (update held) (codec.repeated tag values) (update (held ++ values)) := by
  induction values generalizing held with
  | nil => simpa [FieldCodec.repeated] using nil
  | cons value rest ih =>
      have first := field (fun read => update (held ++ [read])) positive bounded
        (fits value List.mem_cons_self) (step held)
      have others := ih (held ++ [value]) fun inner within =>
        fits inner (List.mem_cons_of_mem _ within)
      simpa [FieldCodec.repeated] using first.append others

theorem repeated (update : List Value → Message) {values : List Value} (positive : 0 < tag)
    (bounded : tag < 2 ^ 29) (fits : ∀ value ∈ values, codec.Fits value)
    (absent : update [] = message)
    (step : ∀ held bytes, mergeField (update held) tag codec.wire bytes =
      (codec.read bytes).map fun read => (update (held ++ [read.1]), read.2)) :
    Reads mergeField message (codec.repeated tag values) (update values) := by
  rw [← absent]
  exact repeated_behind update [] positive bounded fits step

theorem packed (update : List Value → Message) {values : List Value} (positive : 0 < tag)
    (bounded : tag < 2 ^ 29) (fits : ∀ value ∈ values, codec.Fits value)
    (short : (values.flatMap codec.write).length < 2 ^ 64) (absent : update [] = message)
    (step : ∀ bytes, mergeField message tag .lengthDelimited bytes =
      (codec.mergeRepeated [] .lengthDelimited bytes).map fun read => (update read.1, read.2)) :
    Reads mergeField message (codec.packed tag values) (update values) := by
  cases values with
  | nil => exact absent ▸ nil
  | cons value rest =>
      apply keyed positive bounded
      intro behind
      rw [step, FieldCodec.mergeRepeated, if_pos rfl, takeDelimited_encodeDelimited _ _ short]
      simp only [codec.readAll_flatMap fits (Nat.le_refl _), Option.map_some, List.nil_append]

end Reads
end Message

end WireFormat
