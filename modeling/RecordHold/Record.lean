import RecordHold.Codec
/-!
# Record — record types and records

A record type names its bucket and the fields that have an index, and says what a record holds under the name of a field
and what each codec writes and reads.  Nothing ties these together: a type may declare an index on a field that it does
not have, a record may refuse to be written, and what is written of one may be read as another or not at all.
-/
namespace RecordHold

structure RecordType (γ : Type) where
  Carrier : Type
  bucket  : String
  indexes : List String
  field   : Carrier → String → Option (Value γ)
  encode  : Codec → Carrier → Except CodecError Bytes
  decode  : Codec → Bytes → Except CodecError Carrier

/-- A record type that is nothing but the names of its buckets. -/
def RecordType.ofNames {γ : Type} (bucket : String) (indexes : List String) : RecordType γ where
  Carrier := Unit
  bucket  := bucket
  indexes := indexes
  field   := fun _ _ => none
  encode  := fun _ _ => .ok []
  decode  := fun _ _ => .ok ()

def Record {γ : Type} (T : RecordType γ) : Type := T.Carrier

namespace Record
variable {γ : Type} {T : RecordType γ}

def field (r : Record T) (name : String) : Option (Value γ) := T.field r name

/-- The stored form, unless the record refuses to be stored. -/
def stored (c : Codec) (r : Record T) : Except CodecError Bytes := T.encode c r

def decode (T : RecordType γ) (c : Codec) (b : Bytes) : Except CodecError (Record T) := T.decode c b

/-- **A codec keeps a record**: what it writes of it is read as that record. -/
def Kept (c : Codec) (r : Record T) : Prop := ∀ raw, r.stored c = .ok raw → decode T c raw = .ok r

end Record
end RecordHold
