import VntClient.ControlProto

/-!
`proto/rpc.proto`: requests to a server and its answers, each with the number of the call,
as the generated code reads and writes them.
-/

namespace VntClient
open WireFormat
open WireFormat.FieldCodec (string uint64 int64 bool fixed32)

namespace Proto

structure ClientInfo where
  name : String
  version : String
  ip : UInt32
  keySign : Option String
  online : Bool
  lastConnectedTime : Int
  id : String
deriving DecidableEq

namespace ClientInfo

def empty : ClientInfo := ⟨"", "", 0, none, false, 0, ""⟩

def encode (msg : ClientInfo) : Bytes :=
  string.singular "" 1 msg.name ++ (string.singular "" 2 msg.version ++
    (fixed32.singular 0 3 msg.ip ++ (string.optional 4 msg.keySign ++
      (bool.singular false 5 msg.online ++ (int64.singular 0 6 msg.lastConnectedTime ++
        string.singular "" 7 msg.id)))))

def mergeField (depth : Nat) (msg : ClientInfo) (tag : Nat) (wire : WireType) (bytes : Bytes) :
    Option (ClientInfo × Bytes) :=
  match tag with
  | 1 => (string.merge wire bytes).map fun read => ({ msg with name := read.1 }, read.2)
  | 2 => (string.merge wire bytes).map fun read => ({ msg with version := read.1 }, read.2)
  | 3 => (fixed32.merge wire bytes).map fun read => ({ msg with ip := read.1 }, read.2)
  | 4 => (string.merge wire bytes).map fun read => ({ msg with keySign := some read.1 }, read.2)
  | 5 => (bool.merge wire bytes).map fun read => ({ msg with online := read.1 }, read.2)
  | 6 => (int64.merge wire bytes).map fun read =>
      ({ msg with lastConnectedTime := read.1 }, read.2)
  | 7 => (string.merge wire bytes).map fun read => ({ msg with id := read.1 }, read.2)
  | tag => skipUnknown depth msg tag wire bytes

/-- The time is 64 bits, and a buffer has its bounds. -/
def Fits (msg : ClientInfo) : Prop :=
  int64.Fits msg.lastConnectedTime ∧ msg.encode.length < 2 ^ 64

theorem merge_encode (depth : Nat) {msg : ClientInfo} (fits : msg.Fits) :
    merge (mergeField depth) empty msg.encode = some msg := by
  obtain ⟨time, short⟩ := fits
  simp only [encode, List.length_append] at short
  rw [encode]
  apply Reads.merge
  refine Reads.append (Reads.singular (fun read => ⟨read, "", 0, none, false, 0, ""⟩) (by decide)
    (by decide) (FieldCodec.string_fits 1 (by omega)) rfl fun _ => rfl) ?_
  refine Reads.append (Reads.singular (fun read => ⟨msg.name, read, 0, none, false, 0, ""⟩)
    (by decide) (by decide) (FieldCodec.string_fits 2 (by omega)) rfl fun _ => rfl) ?_
  refine Reads.append (Reads.singular (fun read => ⟨msg.name, msg.version, read, none, false, 0, ""⟩)
    (by decide) (by decide) trivial rfl fun _ => rfl) ?_
  refine Reads.append (Reads.optional
    (fun read => { msg with keySign := read, online := false, lastConnectedTime := 0, id := "" })
    (by decide) (by decide) (string.optional_fits 4 FieldCodec.string_content (by omega)) rfl
    fun _ => rfl) ?_
  refine Reads.append (Reads.singular
    (fun read => { msg with online := read, lastConnectedTime := 0, id := "" }) (by decide)
    (by decide) trivial rfl fun _ => rfl) ?_
  refine Reads.append (Reads.singular
    (fun read => { msg with lastConnectedTime := read, id := "" }) (by decide) (by decide) time rfl
    fun _ => rfl) ?_
  exact Reads.of_eq (Reads.singular (fun read => { msg with id := read }) (by decide) (by decide)
    (FieldCodec.string_fits 7 (by omega)) rfl fun _ => rfl) rfl

def codec : FieldCodec ClientInfo :=
  FieldCodec.message (mergeField (recursionLimit - 2)) empty encode Fits fun fits =>
    ⟨merge_encode _ fits, fits.2⟩

end ClientInfo

structure ClientListResponse where
  list : List ClientInfo
deriving DecidableEq

namespace ClientListResponse

def empty : ClientListResponse := ⟨[]⟩

def encode (msg : ClientListResponse) : Bytes := ClientInfo.codec.repeated 1 msg.list

def mergeField (depth : Nat) (msg : ClientListResponse) (tag : Nat) (wire : WireType)
    (bytes : Bytes) : Option (ClientListResponse × Bytes) :=
  match tag with
  | 1 => (ClientInfo.codec.merge wire bytes).map fun read => (⟨msg.list ++ [read.1]⟩, read.2)
  | tag => skipUnknown depth msg tag wire bytes

def Fits (msg : ClientListResponse) : Prop :=
  (∀ client ∈ msg.list, client.Fits) ∧ msg.encode.length < 2 ^ 64

theorem merge_encode (depth : Nat) {msg : ClientListResponse} (fits : msg.Fits) :
    merge (mergeField depth) empty msg.encode = some msg := by
  apply Reads.merge
  exact Reads.of_eq (Reads.repeated (fun read => ⟨read⟩) (by decide) (by decide) fits.1 rfl
    fun _ _ => rfl) rfl

def codec : FieldCodec ClientListResponse :=
  FieldCodec.message (mergeField (recursionLimit - 1)) empty encode Fits fun fits =>
    ⟨merge_encode _ fits, fits.2⟩

end ClientListResponse

structure ClientListRequest where
deriving DecidableEq

namespace ClientListRequest

def encode (_ : ClientListRequest) : Bytes := []

def mergeField (depth : Nat) (msg : ClientListRequest) (tag : Nat) (wire : WireType)
    (bytes : Bytes) : Option (ClientListRequest × Bytes) := skipUnknown depth msg tag wire bytes

def codec : FieldCodec ClientListRequest :=
  FieldCodec.message (mergeField (recursionLimit - 1)) ⟨⟩ encode (fun _ => True) fun _ =>
    ⟨Reads.merge Reads.nil, by simp [encode]⟩

end ClientListRequest

/-- `rpc_req_payload` has one alternative. -/
structure RpcMessageRequest where
  id : UInt64
  clientListReq : Option ClientListRequest
deriving DecidableEq

namespace RpcMessageRequest

def empty : RpcMessageRequest := ⟨0, none⟩

def encode (msg : RpcMessageRequest) : Bytes :=
  uint64.singular 0 1 msg.id ++ ClientListRequest.codec.optional 2 msg.clientListReq

def mergeField (msg : RpcMessageRequest) (tag : Nat) (wire : WireType) (bytes : Bytes) :
    Option (RpcMessageRequest × Bytes) :=
  match tag with
  | 1 => (uint64.merge wire bytes).map fun read => ({ msg with id := read.1 }, read.2)
  | 2 => (mergeNested (ClientListRequest.mergeField (recursionLimit - 1)) ⟨⟩ wire bytes).map
      fun read => ({ msg with clientListReq := some read.1 }, read.2)
  | tag => skipUnknown recursionLimit msg tag wire bytes

def decode (bytes : Bytes) : Option RpcMessageRequest := merge mergeField empty bytes

theorem decode_encode (msg : RpcMessageRequest) : decode msg.encode = some msg := by
  apply Reads.merge
  refine Reads.append (Reads.singular (fun read => ⟨read, none⟩) (by decide) (by decide) trivial
    rfl fun _ => rfl) ?_
  exact Reads.of_eq (Reads.optional (fun read => { msg with clientListReq := read }) (by decide)
    (by decide) (fun _ _ => trivial) rfl fun _ => rfl) rfl

end RpcMessageRequest

structure RpcMessageResponse where
  id : UInt64
  clientListRes : Option ClientListResponse
deriving DecidableEq

namespace RpcMessageResponse

def empty : RpcMessageResponse := ⟨0, none⟩

def encode (msg : RpcMessageResponse) : Bytes :=
  uint64.singular 0 1 msg.id ++ ClientListResponse.codec.optional 2 msg.clientListRes

def mergeField (msg : RpcMessageResponse) (tag : Nat) (wire : WireType) (bytes : Bytes) :
    Option (RpcMessageResponse × Bytes) :=
  match tag with
  | 1 => (uint64.merge wire bytes).map fun read => ({ msg with id := read.1 }, read.2)
  | 2 => (mergeNested (ClientListResponse.mergeField (recursionLimit - 1))
      (msg.clientListRes.getD .empty) wire bytes).map fun read =>
        ({ msg with clientListRes := some read.1 }, read.2)
  | tag => skipUnknown recursionLimit msg tag wire bytes

def decode (bytes : Bytes) : Option RpcMessageResponse := merge mergeField empty bytes

theorem decode_encode {msg : RpcMessageResponse} (fits : ∀ list ∈ msg.clientListRes, list.Fits) :
    decode msg.encode = some msg := by
  apply Reads.merge
  refine Reads.append (Reads.singular (fun read => ⟨read, none⟩) (by decide) (by decide) trivial
    rfl fun _ => rfl) ?_
  exact Reads.of_eq (Reads.optional (fun read => { msg with clientListRes := read }) (by decide)
    (by decide) fits rfl fun _ => rfl) rfl

end RpcMessageResponse
end Proto
end VntClient
