import RecordHold.IndexKey
import RecordHold.Record
import RecordHold.Store.Write
/-!
# Index — secondary indexes

Every indexed field of a record type has a bucket of its own, which maps the index key of a value to the list of the
primary keys of the records with that value.  Walking the bucket in order therefore gives primary keys in the
order of the values.  An entry whose list becomes empty is removed.

Fields are handled in the order of declaration, and a failure at one leaves the earlier ones done.
-/
namespace RecordHold

def indexBucket (bucket field : String) : String := "_index:" ++ bucket ++ ":" ++ field

namespace Index
variable {γ : Type} [Custom γ] {T : RecordType γ}

/-- The index key of a record's field. -/
def keyFor (r : Record T) (field : String) : Except IndexError Bytes :=
  match r.field field with
  | none   => .error (.missingField field T.bucket)
  | some v => v.indexKey

/-- The list under an index key; a missing entry is the empty list. -/
def load (c : Codec) (bucket : String) (indexKey : Bytes) (b : Buckets) : Except IndexError KeyList :=
  match b.lookup bucket indexKey with
  | .error e       => .error (.store e)
  | .ok none       => .ok .empty
  | .ok (some raw) => (c.keyList? raw).mapError .codec

def store (c : Codec) (bucket : String) (indexKey : Bytes) (l : KeyList) : Write IndexError Unit :=
  Write.change (fun b => (b.put bucket indexKey (c.keyList l)).mapError .store)

def discard (bucket : String) (indexKey : Bytes) : Write IndexError Unit :=
  Write.change (fun b => (b.remove bucket indexKey).mapError .store)

def addField (c : Codec) (key : Bytes) (r : Record T) (field : String) : Write IndexError Unit := do
  let bucket := indexBucket T.bucket field
  let indexKey ← Write.ofExcept (keyFor r field)
  let l ← Write.ofExcept (load c bucket indexKey (← Write.view))
  match l.insert key with
  | (true, l')  => store c bucket indexKey l'
  | (false, _)  => pure ()

def removeField (c : Codec) (key : Bytes) (r : Record T) (field : String) : Write IndexError Unit := do
  let bucket := indexBucket T.bucket field
  let indexKey ← Write.ofExcept (keyFor r field)
  let l ← Write.ofExcept (load c bucket indexKey (← Write.view))
  match l.remove key with
  | (true, l')  => if l'.isEmpty then discard bucket indexKey else store c bucket indexKey l'
  | (false, _)  => pure ()

/-- Record a primary key under the value of each indexed field. -/
def add (c : Codec) (key : Bytes) (r : Record T) : Write IndexError Unit := T.indexes.forM (addField c key r)

/-- Take a primary key from under the value of each indexed field. -/
def remove (c : Codec) (key : Bytes) (r : Record T) : Write IndexError Unit := T.indexes.forM (removeField c key r)

/-- Move a primary key from the values of an old record, if there is one, to those of a new one. -/
def update (c : Codec) (key : Bytes) (old : Option (Record T)) (new : Record T) : Write IndexError Unit := do
  match old with
  | some r => remove c key r
  | none   => pure ()
  add c key new

end Index
end RecordHold
