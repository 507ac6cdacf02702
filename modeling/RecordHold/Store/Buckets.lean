import RecordHold.Error
import RecordHold.Store.KeyRange
import RecordHold.Store.SortedMap
/-!
# Store.Buckets — named buckets of sorted entries

The state of a store: buckets by name, each a map from byte strings to byte strings.  Reading never changes it,
and a missing bucket reads as an empty one.  Storing creates the bucket; removing the last entry leaves it.

A bucket's name and an entry's key must not be empty, and of two empty ones the name is reported.
-/
namespace RecordHold

abbrev Entry := Bytes × Bytes

abbrev Bucket := SortedMap Bytes Bytes

abbrev Buckets := SortedMap String Bucket

/-- The entries in a range, which an ordered search finds if the range is not crossed. -/
def Bucket.slice (b : Bucket) (r : KeyRange) (_ : r.crossed = false) : List Entry :=
  b.entries.filter (fun e => r.contains e.1)

namespace Buckets

def bucket (b : Buckets) (name : String) : Bucket := (b.get? name).getD SortedMap.empty

def checkNames (name : String) (key : Bytes) : Except StoreError Unit :=
  if name = "" then .error .emptyBucketName
  else if key = [] then .error .emptyKey
  else .ok ()

/-- The first entries of a range, in ascending order, at most `limit` of them. -/
def scan (b : Buckets) (name : String) (r : KeyRange) (limit : Nat) : Except StoreError (List Entry) :=
  if name = "" then .error .emptyBucketName
  else if h : r.isDegenerate = true then .ok []
  else .ok (((b.bucket name).slice r (r.not_crossed h)).take limit)

def lookup (b : Buckets) (name : String) (key : Bytes) : Except StoreError (Option Bytes) :=
  (checkNames name key).map (fun _ => (b.bucket name).get? key)

def put (b : Buckets) (name : String) (key value : Bytes) : Except StoreError Buckets :=
  (checkNames name key).map (fun _ => b.insert name ((b.bucket name).insert key value))

/-- Removing what is not there changes nothing, and a missing bucket stays missing. -/
def remove (b : Buckets) (name : String) (key : Bytes) : Except StoreError Buckets :=
  (checkNames name key).map (fun _ =>
    match b.get? name with
    | none   => b
    | some m => b.insert name (m.erase key))

end Buckets
end RecordHold
