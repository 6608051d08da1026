import VntClient.FecPacket
import VntClient.WireMessage

/-!
`proto/control_message.proto` as the generated code reads and writes it: defaults are
left out, fields stand by their numbers, an alternative read twice is merged, unknown
fields are skipped. What is written is read back.
-/

namespace VntClient
open WireFormat
open WireFormat.FieldCodec (string uint32 uint64 int32 int64 bool fixed32)

def skipUnknown {Message : Type} (depth : Nat) (message : Message) (tag : Nat) (wire : WireType)
    (bytes : Bytes) : Option (Message × Bytes) :=
  (skipField (bytes.length + 1) depth wire tag bytes).map fun rest => (message, rest)

namespace Proto

structure RegRequestMsg where
  networkCode : String
  deviceId : String
  ip : Option UInt32
  name : String
  version : String
  keySign : Option String
  ipVariable : Bool
  serverId : UInt32
  registrationMode : Int
deriving DecidableEq

namespace RegRequestMsg

def empty : RegRequestMsg := ⟨"", "", none, "", "", none, false, 0, 0⟩

def encode (msg : RegRequestMsg) : Bytes :=
  string.singular "" 1 msg.networkCode ++ (string.singular "" 2 msg.deviceId ++
    (fixed32.optional 3 msg.ip ++ (string.singular "" 4 msg.name ++
      (string.singular "" 5 msg.version ++ (string.optional 6 msg.keySign ++
        (bool.singular false 7 msg.ipVariable ++ (fixed32.singular 0 8 msg.serverId ++
          int32.singular 0 9 msg.registrationMode)))))))

def mergeField (depth : Nat) (msg : RegRequestMsg) (tag : Nat) (wire : WireType) (bytes : Bytes) :
    Option (RegRequestMsg × Bytes) :=
  match tag with
  | 1 => (string.merge wire bytes).map fun read => ({ msg with networkCode := read.1 }, read.2)
  | 2 => (string.merge wire bytes).map fun read => ({ msg with deviceId := read.1 }, read.2)
  | 3 => (fixed32.merge wire bytes).map fun read => ({ msg with ip := some read.1 }, read.2)
  | 4 => (string.merge wire bytes).map fun read => ({ msg with name := read.1 }, read.2)
  | 5 => (string.merge wire bytes).map fun read => ({ msg with version := read.1 }, read.2)
  | 6 => (string.merge wire bytes).map fun read => ({ msg with keySign := some read.1 }, read.2)
  | 7 => (bool.merge wire bytes).map fun read => ({ msg with ipVariable := read.1 }, read.2)
  | 8 => (fixed32.merge wire bytes).map fun read => ({ msg with serverId := read.1 }, read.2)
  | 9 => (int32.merge wire bytes).map fun read =>
      ({ msg with registrationMode := read.1 }, read.2)
  | tag => skipUnknown depth msg tag wire bytes

/-- What can be written: an enumeration is 32 bits, and a buffer has its bounds. -/
def Fits (msg : RegRequestMsg) : Prop :=
  int32.Fits msg.registrationMode ∧ msg.encode.length < 2 ^ 64

theorem merge_encode (depth : Nat) {msg : RegRequestMsg} (fits : msg.Fits) :
    merge (mergeField depth) empty msg.encode = some msg := by
  obtain ⟨mode, short⟩ := fits
  simp only [encode, List.length_append] at short
  rw [encode]
  apply Reads.merge
  refine Reads.append (Reads.singular (fun read => ⟨read, "", none, "", "", none, false, 0, 0⟩)
    (by decide) (by decide) (FieldCodec.string_fits 1 (by omega)) rfl fun _ => rfl) ?_
  refine Reads.append (Reads.singular
    (fun read => ⟨msg.networkCode, read, none, "", "", none, false, 0, 0⟩) (by decide) (by decide)
    (FieldCodec.string_fits 2 (by omega)) rfl fun _ => rfl) ?_
  refine Reads.append (Reads.optional
    (fun read => ⟨msg.networkCode, msg.deviceId, read, "", "", none, false, 0, 0⟩) (by decide)
    (by decide) (fun _ _ => trivial) rfl fun _ => rfl) ?_
  refine Reads.append (Reads.singular
    (fun read => ⟨msg.networkCode, msg.deviceId, msg.ip, read, "", none, false, 0, 0⟩) (by decide)
    (by decide) (FieldCodec.string_fits 4 (by omega)) rfl fun _ => rfl) ?_
  refine Reads.append (Reads.singular
    (fun read => ⟨msg.networkCode, msg.deviceId, msg.ip, msg.name, read, none, false, 0, 0⟩)
    (by decide) (by decide) (FieldCodec.string_fits 5 (by omega)) rfl fun _ => rfl) ?_
  refine Reads.append (Reads.optional
    (fun read => { msg with keySign := read, ipVariable := false, serverId := 0, registrationMode := 0 })
    (by decide) (by decide) (string.optional_fits 6 FieldCodec.string_content (by omega)) rfl
    fun _ => rfl) ?_
  refine Reads.append (Reads.singular
    (fun read => { msg with ipVariable := read, serverId := 0, registrationMode := 0 })
    (by decide) (by decide) trivial rfl fun _ => rfl) ?_
  refine Reads.append (Reads.singular
    (fun read => { msg with serverId := read, registrationMode := 0 }) (by decide) (by decide)
    trivial rfl fun _ => rfl) ?_
  exact Reads.of_eq (Reads.singular (fun read => { msg with registrationMode := read })
    (by decide) (by decide) mode rfl fun _ => rfl) rfl

def codec : FieldCodec RegRequestMsg :=
  FieldCodec.message (mergeField (recursionLimit - 1)) empty encode Fits fun fits =>
    ⟨merge_encode _ fits, fits.2⟩

end RegRequestMsg

structure RegResponseMsg where
  ip : UInt32
  prefixLen : UInt32
  gateway : UInt32
  serverVersion : String
deriving DecidableEq

namespace RegResponseMsg

def empty : RegResponseMsg := ⟨0, 0, 0, ""⟩

def encode (msg : RegResponseMsg) : Bytes :=
  fixed32.singular 0 1 msg.ip ++ (uint32.singular 0 2 msg.prefixLen ++
    (fixed32.singular 0 3 msg.gateway ++ string.singular "" 4 msg.serverVersion))

def mergeField (depth : Nat) (msg : RegResponseMsg) (tag : Nat) (wire : WireType) (bytes : Bytes) :
    Option (RegResponseMsg × Bytes) :=
  match tag with
  | 1 => (fixed32.merge wire bytes).map fun read => ({ msg with ip := read.1 }, read.2)
  | 2 => (uint32.merge wire bytes).map fun read => ({ msg with prefixLen := read.1 }, read.2)
  | 3 => (fixed32.merge wire bytes).map fun read => ({ msg with gateway := read.1 }, read.2)
  | 4 => (string.merge wire bytes).map fun read => ({ msg with serverVersion := read.1 }, read.2)
  | tag => skipUnknown depth msg tag wire bytes

def Fits (msg : RegResponseMsg) : Prop := msg.encode.length < 2 ^ 64

theorem merge_encode (depth : Nat) {msg : RegResponseMsg} (fits : msg.Fits) :
    merge (mergeField depth) empty msg.encode = some msg := by
  simp only [Fits, encode, List.length_append] at fits
  rw [encode]
  apply Reads.merge
  refine Reads.append (Reads.singular (fun read => ⟨read, 0, 0, ""⟩) (by decide) (by decide)
    trivial rfl fun _ => rfl) ?_
  refine Reads.append (Reads.singular (fun read => ⟨msg.ip, read, 0, ""⟩) (by decide) (by decide)
    trivial rfl fun _ => rfl) ?_
  refine Reads.append (Reads.singular (fun read => ⟨msg.ip, msg.prefixLen, read, ""⟩) (by decide)
    (by decide) trivial rfl fun _ => rfl) ?_
  exact Reads.of_eq (Reads.singular (fun read => { msg with serverVersion := read }) (by decide)
    (by decide) (FieldCodec.string_fits 4 (by omega)) rfl fun _ => rfl) rfl

def codec : FieldCodec RegResponseMsg :=
  FieldCodec.message (mergeField (recursionLimit - 1)) empty encode Fits fun fits =>
    ⟨merge_encode _ fits, fits⟩

end RegResponseMsg

structure ErrorResponseMsg where
  code : UInt32
  message : String
deriving DecidableEq

namespace ErrorResponseMsg

def empty : ErrorResponseMsg := ⟨0, ""⟩

def encode (msg : ErrorResponseMsg) : Bytes :=
  uint32.singular 0 1 msg.code ++ string.singular "" 2 msg.message

def mergeField (depth : Nat) (msg : ErrorResponseMsg) (tag : Nat) (wire : WireType)
    (bytes : Bytes) : Option (ErrorResponseMsg × Bytes) :=
  match tag with
  | 1 => (uint32.merge wire bytes).map fun read => ({ msg with code := read.1 }, read.2)
  | 2 => (string.merge wire bytes).map fun read => ({ msg with message := read.1 }, read.2)
  | tag => skipUnknown depth msg tag wire bytes

def Fits (msg : ErrorResponseMsg) : Prop := msg.encode.length < 2 ^ 64

theorem merge_encode (depth : Nat) {msg : ErrorResponseMsg} (fits : msg.Fits) :
    merge (mergeField depth) empty msg.encode = some msg := by
  simp only [Fits, encode, List.length_append] at fits
  rw [encode]
  apply Reads.merge
  refine Reads.append (Reads.singular (fun read => ⟨read, ""⟩) (by decide) (by decide) trivial rfl
    fun _ => rfl) ?_
  exact Reads.of_eq (Reads.singular (fun read => { msg with message := read }) (by decide)
    (by decide) (FieldCodec.string_fits 2 (by omega)) rfl fun _ => rfl) rfl

def codec : FieldCodec ErrorResponseMsg :=
  FieldCodec.message (mergeField (recursionLimit - 1)) empty encode Fits fun fits =>
    ⟨merge_encode _ fits, fits⟩

end ErrorResponseMsg

structure ConfirmRegResponseMsg where
  success : Bool
deriving DecidableEq

namespace ConfirmRegResponseMsg

def empty : ConfirmRegResponseMsg := ⟨false⟩

def encode (msg : ConfirmRegResponseMsg) : Bytes := bool.singular false 1 msg.success

def mergeField (depth : Nat) (msg : ConfirmRegResponseMsg) (tag : Nat) (wire : WireType)
    (bytes : Bytes) : Option (ConfirmRegResponseMsg × Bytes) :=
  match tag with
  | 1 => (bool.merge wire bytes).map fun read => ({ msg with success := read.1 }, read.2)
  | tag => skipUnknown depth msg tag wire bytes

def Fits (msg : ConfirmRegResponseMsg) : Prop := msg.encode.length < 2 ^ 64

theorem merge_encode (depth : Nat) (msg : ConfirmRegResponseMsg) :
    merge (mergeField depth) empty msg.encode = some msg := by
  rw [encode]
  apply Reads.merge
  exact Reads.of_eq (Reads.singular (fun read => { msg with success := read }) (by decide)
    (by decide) trivial rfl fun _ => rfl) rfl

def codec : FieldCodec ConfirmRegResponseMsg :=
  FieldCodec.message (mergeField (recursionLimit - 1)) empty encode Fits fun fits =>
    ⟨merge_encode _ _, fits⟩

end ConfirmRegResponseMsg

structure ConfirmRegMsg where
deriving DecidableEq

namespace ConfirmRegMsg

def encode (_ : ConfirmRegMsg) : Bytes := []

def mergeField (depth : Nat) (msg : ConfirmRegMsg) (tag : Nat) (wire : WireType) (bytes : Bytes) :
    Option (ConfirmRegMsg × Bytes) := skipUnknown depth msg tag wire bytes

def codec : FieldCodec ConfirmRegMsg :=
  FieldCodec.message (mergeField (recursionLimit - 1)) ⟨⟩ encode (fun _ => True) fun _ =>
    ⟨Reads.merge Reads.nil, by simp [encode]⟩

end ConfirmRegMsg

inductive RequestPayload where
  | reg (msg : RegRequestMsg)
  | confirmReg (msg : ConfirmRegMsg)
deriving DecidableEq

structure RequestMessage where
  requestPayload : Option RequestPayload
deriving DecidableEq

namespace RequestMessage

def empty : RequestMessage := ⟨none⟩

/-- What an alternative is merged into: itself if it was read before. -/
def heldReg (msg : RequestMessage) : RegRequestMsg :=
  match msg.requestPayload with
  | some (.reg held) => held
  | _ => .empty

def encode (msg : RequestMessage) : Bytes :=
  match msg.requestPayload with
  | none => []
  | some (.reg reg) => RegRequestMsg.codec.field 1 reg
  | some (.confirmReg confirmReg) => ConfirmRegMsg.codec.field 2 confirmReg

def mergeField (msg : RequestMessage) (tag : Nat) (wire : WireType) (bytes : Bytes) :
    Option (RequestMessage × Bytes) :=
  match tag with
  | 1 => (mergeNested (RegRequestMsg.mergeField (recursionLimit - 1)) msg.heldReg wire bytes).map
      fun read => (⟨some (.reg read.1)⟩, read.2)
  | 2 => (mergeNested (ConfirmRegMsg.mergeField (recursionLimit - 1)) ⟨⟩ wire bytes).map
      fun read => (⟨some (.confirmReg read.1)⟩, read.2)
  | tag => skipUnknown recursionLimit msg tag wire bytes

def decode (bytes : Bytes) : Option RequestMessage := merge mergeField empty bytes

def Fits (msg : RequestMessage) : Prop :=
  match msg.requestPayload with
  | some (.reg reg) => reg.Fits
  | _ => True

theorem decode_encode {msg : RequestMessage} (fits : msg.Fits) : decode msg.encode = some msg := by
  obtain ⟨payload⟩ := msg
  apply Reads.merge
  cases payload with
  | none => exact Reads.nil
  | some payload =>
      cases payload with
      | reg reg =>
          exact Reads.of_eq (Reads.field (fun read => ⟨some (.reg read)⟩) (by decide)
            (by decide) fits fun _ => rfl) rfl
      | confirmReg confirmReg =>
          exact Reads.of_eq (Reads.field (fun read => ⟨some (.confirmReg read)⟩) (by decide)
            (by decide) trivial fun _ => rfl) rfl

end RequestMessage

inductive ResponsePayload where
  | reg (msg : RegResponseMsg)
  | error (msg : ErrorResponseMsg)
  | confirmReg (msg : ConfirmRegResponseMsg)
deriving DecidableEq

structure ResponseMessage where
  responsePayload : Option ResponsePayload
deriving DecidableEq

namespace ResponseMessage

def empty : ResponseMessage := ⟨none⟩

def heldReg (msg : ResponseMessage) : RegResponseMsg :=
  match msg.responsePayload with
  | some (.reg held) => held
  | _ => .empty

def heldError (msg : ResponseMessage) : ErrorResponseMsg :=
  match msg.responsePayload with
  | some (.error held) => held
  | _ => .empty

def heldConfirmReg (msg : ResponseMessage) : ConfirmRegResponseMsg :=
  match msg.responsePayload with
  | some (.confirmReg held) => held
  | _ => .empty

def encode (msg : ResponseMessage) : Bytes :=
  match msg.responsePayload with
  | none => []
  | some (.reg reg) => RegResponseMsg.codec.field 1 reg
  | some (.error error) => ErrorResponseMsg.codec.field 2 error
  | some (.confirmReg confirmReg) => ConfirmRegResponseMsg.codec.field 3 confirmReg

def mergeField (msg : ResponseMessage) (tag : Nat) (wire : WireType) (bytes : Bytes) :
    Option (ResponseMessage × Bytes) :=
  match tag with
  | 1 => (mergeNested (RegResponseMsg.mergeField (recursionLimit - 1)) msg.heldReg wire bytes).map
      fun read => (⟨some (.reg read.1)⟩, read.2)
  | 2 => (mergeNested (ErrorResponseMsg.mergeField (recursionLimit - 1)) msg.heldError wire
      bytes).map fun read => (⟨some (.error read.1)⟩, read.2)
  | 3 => (mergeNested (ConfirmRegResponseMsg.mergeField (recursionLimit - 1)) msg.heldConfirmReg
      wire bytes).map fun read => (⟨some (.confirmReg read.1)⟩, read.2)
  | tag => skipUnknown recursionLimit msg tag wire bytes

def decode (bytes : Bytes) : Option ResponseMessage := merge mergeField empty bytes

theorem decode_encode {msg : ResponseMessage} (short : msg.encode.length < 2 ^ 64) :
    decode msg.encode = some msg := by
  obtain ⟨payload⟩ := msg
  apply Reads.merge
  cases payload with
  | none => exact Reads.nil
  | some payload =>
      cases payload with
      | reg reg =>
          exact Reads.of_eq (Reads.field (fun read => ⟨some (.reg read)⟩) (by decide)
            (by decide) (FieldCodec.field_content short) fun _ => rfl) rfl
      | error error =>
          exact Reads.of_eq (Reads.field (fun read => ⟨some (.error read)⟩) (by decide)
            (by decide) (FieldCodec.field_content short) fun _ => rfl) rfl
      | confirmReg confirmReg =>
          exact Reads.of_eq (Reads.field (fun read => ⟨some (.confirmReg read)⟩) (by decide)
            (by decide) (FieldCodec.field_content short) fun _ => rfl) rfl

end ResponseMessage

structure SelectiveBroadcast where
  ips : List UInt32
  data : Bytes
deriving DecidableEq

namespace SelectiveBroadcast

def empty : SelectiveBroadcast := ⟨[], []⟩

def new (ips : List Ipv4Addr) (data : Bytes) : SelectiveBroadcast := ⟨ips, data⟩

def encode (msg : SelectiveBroadcast) : Bytes :=
  fixed32.packed 1 msg.ips ++ FieldCodec.bytes.singular [] 2 msg.data

def mergeField (msg : SelectiveBroadcast) (tag : Nat) (wire : WireType) (bytes : Bytes) :
    Option (SelectiveBroadcast × Bytes) :=
  match tag with
  | 1 => (fixed32.mergeRepeated msg.ips wire bytes).map fun read =>
      ({ msg with ips := read.1 }, read.2)
  | 2 => (FieldCodec.bytes.merge wire bytes).map fun read => ({ msg with data := read.1 }, read.2)
  | tag => skipUnknown recursionLimit msg tag wire bytes

def decode (bytes : Bytes) : Option SelectiveBroadcast := merge mergeField empty bytes

theorem decode_encode {msg : SelectiveBroadcast} (short : msg.encode.length < 2 ^ 64) :
    decode msg.encode = some msg := by
  simp only [encode, List.length_append] at short
  rw [encode]
  apply Reads.merge
  refine Reads.append (Reads.packed (fun read => ⟨read, []⟩) (by decide) (by decide)
    (fun _ _ => trivial) (fixed32.packed_content 1 (by omega)) rfl fun _ => rfl) ?_
  exact Reads.of_eq (Reads.singular (fun read => { msg with data := read }) (by decide)
    (by decide) (FieldCodec.bytes_fits 2 (by omega)) rfl fun _ => rfl) rfl

end SelectiveBroadcast

structure ClientSimpleInfo where
  ip : UInt32
  online : Bool
deriving DecidableEq

namespace ClientSimpleInfo

def empty : ClientSimpleInfo := ⟨0, false⟩

def encode (msg : ClientSimpleInfo) : Bytes :=
  fixed32.singular 0 1 msg.ip ++ bool.singular false 2 msg.online

def mergeField (depth : Nat) (msg : ClientSimpleInfo) (tag : Nat) (wire : WireType)
    (bytes : Bytes) : Option (ClientSimpleInfo × Bytes) :=
  match tag with
  | 1 => (fixed32.merge wire bytes).map fun read => ({ msg with ip := read.1 }, read.2)
  | 2 => (bool.merge wire bytes).map fun read => ({ msg with online := read.1 }, read.2)
  | tag => skipUnknown depth msg tag wire bytes

theorem merge_encode (depth : Nat) (msg : ClientSimpleInfo) :
    merge (mergeField depth) empty msg.encode = some msg := by
  rw [encode]
  apply Reads.merge
  refine Reads.append (Reads.singular (fun read => ⟨read, false⟩) (by decide) (by decide) trivial
    rfl fun _ => rfl) ?_
  exact Reads.of_eq (Reads.singular (fun read => { msg with online := read }) (by decide)
    (by decide) trivial rfl fun _ => rfl) rfl

def codec : FieldCodec ClientSimpleInfo :=
  FieldCodec.message (mergeField (recursionLimit - 1)) empty encode
    (fun msg => msg.encode.length < 2 ^ 64) fun fits => ⟨merge_encode _ _, fits⟩

end ClientSimpleInfo

structure ClientSimpleInfoList where
  dataVersion : UInt64
  list : List ClientSimpleInfo
  isAll : Bool
  time : Int
deriving DecidableEq

namespace ClientSimpleInfoList

def empty : ClientSimpleInfoList := ⟨0, [], false, 0⟩

def encode (msg : ClientSimpleInfoList) : Bytes :=
  uint64.singular 0 1 msg.dataVersion ++ (ClientSimpleInfo.codec.repeated 2 msg.list ++
    (bool.singular false 3 msg.isAll ++ int64.singular 0 4 msg.time))

def mergeField (msg : ClientSimpleInfoList) (tag : Nat) (wire : WireType) (bytes : Bytes) :
    Option (ClientSimpleInfoList × Bytes) :=
  match tag with
  | 1 => (uint64.merge wire bytes).map fun read => ({ msg with dataVersion := read.1 }, read.2)
  | 2 => (ClientSimpleInfo.codec.merge wire bytes).map fun read =>
      ({ msg with list := msg.list ++ [read.1] }, read.2)
  | 3 => (bool.merge wire bytes).map fun read => ({ msg with isAll := read.1 }, read.2)
  | 4 => (int64.merge wire bytes).map fun read => ({ msg with time := read.1 }, read.2)
  | tag => skipUnknown recursionLimit msg tag wire bytes

def decode (bytes : Bytes) : Option ClientSimpleInfoList := merge mergeField empty bytes

theorem decode_encode {msg : ClientSimpleInfoList} (time : int64.Fits msg.time)
    (short : msg.encode.length < 2 ^ 64) : decode msg.encode = some msg := by
  simp only [encode, List.length_append] at short
  rw [encode]
  apply Reads.merge
  refine Reads.append (Reads.singular (fun read => ⟨read, [], false, 0⟩) (by decide) (by decide)
    trivial rfl fun _ => rfl) ?_
  refine Reads.append (Reads.repeated (fun read => ⟨msg.dataVersion, read, false, 0⟩) (by decide)
    (by decide) (ClientSimpleInfo.codec.repeated_fits 2
      (fun _ => FieldCodec.encodeDelimited_content) (by omega)) rfl fun _ _ => rfl) ?_
  refine Reads.append (Reads.singular (fun read => ⟨msg.dataVersion, msg.list, read, 0⟩)
    (by decide) (by decide) trivial rfl fun _ => rfl) ?_
  exact Reads.of_eq (Reads.singular (fun read => { msg with time := read }) (by decide)
    (by decide) time rfl fun _ => rfl) rfl

end ClientSimpleInfoList
end Proto
end VntClient
