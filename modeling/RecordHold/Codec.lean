import RecordHold.Codec.Binary
import RecordHold.Codec.Json
import RecordHold.KeyList
import RecordHold.Value
/-!
# Codec — the two forms of stored bytes

A hold stores records, keys and index entries in one of two forms, chosen when it is opened.  This module is the
choice; the forms are `Binary` and `JsonCodec`.
-/
namespace RecordHold

inductive Codec where
  | binary
  | json
deriving DecidableEq, Repr

/-- The name in a configuration. -/
def Codec.name : Codec → String
  | binary => "bincode"
  | json   => "json"

/-- The columns of a record type, in the order of storage. -/
abbrev Columns := List (String × Kind)

namespace Codec

def scalar : Codec → Scalar → Bytes
  | binary, s => Binary.scalar s
  | json,   s => (JsonCodec.scalar s).write

/-- The failure of a value that refuses to be stored. -/
def refusal : Codec → String → CodecError
  | binary, reason => .encode reason
  | json,   reason => .encode (JsonCodec.reasonText reason)

def row : Codec → Columns → List Scalar → Bytes
  | binary, _,  cells => Binary.row cells
  | json,   cs, cells => (JsonCodec.row (cs.map Prod.fst) cells).write

def keyList : Codec → KeyList → Bytes
  | binary, l => Binary.byteLists l.keys
  | json,   l => (JsonCodec.byteLists l.keys).write

/-- A fault of a reader is a failure to decode. -/
def checked {α : Type} : Except DecodeFault α → Except CodecError α
  | .ok x    => .ok x
  | .error f => .error (.decode f)

def scalar? (c : Codec) (k : Kind) (b : Bytes) : Except CodecError Scalar :=
  checked <| match c with
    | binary => Binary.all (Binary.readScalar k) b
    | json   => JsonCodec.all (JsonCodec.readScalar k) b

def row? (c : Codec) (cs : Columns) (b : Bytes) : Except CodecError (List Scalar) :=
  checked <| match c with
    | binary => Binary.all (Binary.readRow (cs.map Prod.snd)) b
    | json   => JsonCodec.all (JsonCodec.readRow cs) b

def keyList? (c : Codec) (b : Bytes) : Except CodecError KeyList :=
  checked <| match c with
    | binary => (Binary.all Binary.readByteLists b).map KeyList.mk
    | json   => (JsonCodec.all JsonCodec.readByteLists b).map KeyList.mk

end Codec

/-- A primary key as handed over: what each codec writes of it, or why it cannot be stored. -/
structure Key where
  encode : Codec → Except CodecError Bytes

namespace Key

def scalar (s : Scalar) : Key := ⟨fun c => .ok (c.scalar s)⟩

/-- The unit value, of which the binary form has no bytes at all. -/
def unit : Key where
  encode
    | .binary => .ok []
    | .json   => .ok Json.null.write

/-- A value that refuses to be stored. -/
def unstorable (reason : String) : Key := ⟨fun c => .error (c.refusal reason)⟩

end Key

namespace Value
variable {γ : Type} [Custom γ]

/-- A stored key read back as the type of a value. -/
def decodeLike (v : Value γ) (c : Codec) (b : Bytes) : Except CodecError (Value γ) :=
  match v with
  | plain s  => (c.scalar? s.kind b).map plain
  | custom x => .error (.decode (.customValue (Custom.text x)))

end Value
end RecordHold
