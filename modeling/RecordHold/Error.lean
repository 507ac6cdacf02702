import RecordHold.Bytes
/-!
# Error — what can go wrong, by layer

Each layer has its own causes and takes up those of the layers below it, so a cause names the path by which it
arrived.  The wording is one function for each layer.  A layer that takes up a lower cause says so in front of
the lower wording.
-/
namespace RecordHold

/-- Why stored bytes are not a value of the type asked for. -/
inductive DecodeFault where
  | endOfInput
  | trailingBytes
  | badBool (found : UInt8)
  | customValue (text : String)
  | malformed
deriving DecidableEq, Repr

inductive CodecError where
  | encode (reason : String)
  | decode (fault : DecodeFault)
deriving DecidableEq, Repr

inductive StoreError where
  | emptyBucketName
  | emptyKey
deriving DecidableEq, Repr

inductive IndexError where
  | missingField (field record : String)
  | unindexable (text : String)
  | codec (e : CodecError)
  | store (e : StoreError)
deriving DecidableEq, Repr

inductive QueryError where
  | invalidFieldName (field : String)
  | fieldNotFound (field record : String)
  | decode (e : CodecError)
  | uncomparable (left right : String)
  | predicate (reason : String)
  | store (e : StoreError)
  | index (e : IndexError)
deriving DecidableEq, Repr

inductive HoldError where
  | keyExists
  | notFound
  | config (reason : String)
  | query (e : QueryError)
  | store (e : StoreError)
  | codec (e : CodecError)
  | index (e : IndexError)
deriving DecidableEq, Repr

/-- The wording; a malformed value is not described any further. -/
def DecodeFault.message : DecodeFault → String
  | endOfInput       => "io error: unexpected end of file"
  | trailingBytes    => "Slice had bytes remaining after deserialization"
  | badBool found    => s!"invalid u8 while decoding bool, expected 0 or 1, found {found.toNat}"
  | customValue text => "a key cannot be decoded into the custom value " ++ text
  | malformed        => "<detail>"

def CodecError.message : CodecError → String
  | encode reason => "Failed to encode value: " ++ reason
  | decode fault  => "Failed to decode value: " ++ fault.message

def StoreError.message : StoreError → String
  | emptyBucketName => "Bucket name must not be empty"
  | emptyKey        => "Key must not be empty"

def IndexError.message : IndexError → String
  | missingField field record => s!"Indexed field '{field}' does not exist in the type '{record}'"
  | unindexable text          => "Unsupported value type for indexing: " ++ text
  | codec e                   => "Index codec error: " ++ e.message
  | store e                   => "Index store error: " ++ e.message

def QueryError.message : QueryError → String
  | invalidFieldName field =>
    s!"Invalid field name '{field}': the first letter of a queried field must be upper-case"
  | fieldNotFound field record => s!"The field '{field}' does not exist in the type '{record}'"
  | decode e                   => "Decode error: " ++ e.message
  | uncomparable left right    => s!"Cannot compare a value of type {left} with a value of type {right}"
  | predicate reason           => reason
  | store e                    => "Store error: " ++ e.message
  | index e                    => "Index error: " ++ e.message

def HoldError.message : HoldError → String
  | keyExists     => "This key already exists in the hold"
  | notFound      => "No data found for this key"
  | config reason => "Invalid configuration: " ++ reason
  | query e       => "Query error: " ++ e.message
  | store e       => "Store error: " ++ e.message
  | codec e       => "Codec error: " ++ e.message
  | index e       => "Index error: " ++ e.message

/-! ## What succeeded -/

theorem Except.map_eq_ok {ε α β : Type} {f : α → β} {x : Except ε α} {b : β} (h : x.map f = .ok b) :
    ∃ a, x = .ok a ∧ f a = b := by
  cases x with
  | error e => simp [Except.map] at h
  | ok a    => exact ⟨a, rfl, by simpa [Except.map] using h⟩

theorem Except.mapError_eq_ok {ε ε' α : Type} {f : ε → ε'} {x : Except ε α} {a : α} (h : x.mapError f = .ok a) :
    x = .ok a := by
  cases x with
  | error e => cases h
  | ok a'   =>
    cases h
    rfl

end RecordHold
