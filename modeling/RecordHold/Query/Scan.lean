import RecordHold.Index
import RecordHold.Query.Basic
import RecordHold.Query.Plan
/-!
# Query.Scan — the candidates of a clause

A scan yields keys and stored records one after the other: all of the primary bucket in key order, or, for a
narrowed clause, the records that the entries of the planned index ranges list.  It reads entries in batches and
goes on after the last key it read, so the store may change between two pulls.

A batch read from the primary bucket holds records.  One read from an index holds lists of keys, whose records
are looked up only when their turn comes; a key without a record is passed over.

A batch with fewer entries than asked for ends its range.  A failure ends the scan, and `failure` keeps it; what an
unreadable entry's batch had already listed is not yielded any more.

A pull reads batches until there is a candidate.  Every full batch moves the scan on past at least one entry, so
one more than the number of entries, for each range, is as many batches as it can need; that is the fuel.
-/
namespace RecordHold

def defaultBatchSize : Nat := 100

inductive Source where
  | primary (resume : Option Bytes)
  | index (bucket : String) (ranges : List KeyRange) (resume : Option Bytes)

inductive Candidate where
  | loaded (e : Entry)
  | deferred (key : Bytes)

structure Scan where
  bucket    : String
  source    : Source
  batchSize : Nat
  buffer    : List Candidate
  exhausted : Bool
  failure   : Option QueryError

namespace Scan
variable {γ : Type}

/-- The scan for a clause over a bucket; `indexes` are the fields that have an index. -/
def start (bucket : String) (indexes : List String) (c : Clause γ) (policy : Policy γ) (batchSize : Nat) : Scan :=
  let planned : Option (String × List KeyRange) :=
    match c.index with
    | none       => none
    | some field => if field ∈ indexes then (policy (c.on field)).map (field, ·) else none
  let source := match planned with
    | some (field, ranges) => .index (indexBucket bucket field) ranges none
    | none                 => .primary none
  ⟨bucket, source, max 1 batchSize, [], false, none⟩

/-- Is the scan confined to ranges of an index? -/
def narrowed (s : Scan) : Bool :=
  match s.source with
  | .index _ _ _ => true
  | .primary _   => false

/-! ## Batches -/

def lastKey (batch : List Entry) (otherwise : Option Bytes) : Option Bytes :=
  match batch.getLast? with
  | some e => some e.1
  | none   => otherwise

/-- The keys that index entries list, in order. -/
def listedKeys (codec : Codec) : List Entry → Except CodecError (List Bytes)
  | []     => .ok []
  | e :: t =>
    match codec.keyList? e.2 with
    | .error x => .error x
    | .ok l    => (listedKeys codec t).map (l.keys ++ ·)

/-- Read one more batch in place of the buffer. -/
def refill (codec : Codec) (b : Buckets) (s : Scan) : Scan :=
  match s.source with
  | .primary resume =>
    match b.scan s.bucket (KeyRange.all.resumeAfter resume) s.batchSize with
    | .error e   => { s with buffer := [], failure := some (.store e) }
    | .ok batch =>
      { s with
        source := .primary (lastKey batch resume)
        buffer := batch.map .loaded
        exhausted := s.exhausted || decide (batch.length < s.batchSize) }
  | .index _ [] _ => { s with buffer := [], exhausted := true }
  | .index bucket (range :: ranges) resume =>
    match b.scan bucket (range.resumeAfter resume) s.batchSize with
    | .error e   => { s with buffer := [], failure := some (.store e) }
    | .ok batch =>
      let source : Source :=
        if batch.length < s.batchSize then .index bucket ranges none
        else .index bucket (range :: ranges) (lastKey batch resume)
      match listedKeys codec batch with
      | .error e => { s with source := source, buffer := [], failure := some (.decode e) }
      | .ok keys => { s with source := source, buffer := keys.map .deferred }

/-- More batches than a scan can still need while the store stays as it is or loses entries. -/
def batchBound (b : Buckets) (s : Scan) : Nat :=
  match s.source with
  | .primary _           => (b.bucket s.bucket).size + 2
  | .index bucket ranges _ => ranges.length * ((b.bucket bucket).size + 1) + 2

/-! ## Pulling -/

/-- The entry of a candidate; none if a deferred key has no record. -/
def resolve (b : Buckets) (bucket : String) : Candidate → Except StoreError (Option Entry)
  | .loaded e     => .ok (some e)
  | .deferred key => (b.lookup bucket key).map (fun raw => raw.map (key, ·))

/-- The first candidate of the buffer that has an entry, and the scan behind it. -/
def takeBuffered (b : Buckets) (s : Scan) : List Candidate → Option Entry × Scan
  | []     => (none, { s with buffer := [] })
  | c :: t =>
    match resolve b s.bucket c with
    | .error e      => (none, { s with buffer := t, failure := some (.store e) })
    | .ok none      => takeBuffered b s t
    | .ok (some e)  => (some e, { s with buffer := t })

def pullWith (codec : Codec) (b : Buckets) : Nat → Scan → Option Entry × Scan
  | 0,        s => (none, s)
  | fuel + 1, s =>
    if s.failure.isSome then (none, s)
    else
      match takeBuffered b s s.buffer with
      | (some e, s) => (some e, s)
      | (none, s)   =>
        if s.failure.isSome ∨ s.exhausted then (none, s) else pullWith codec b fuel (s.refill codec b)

/-- The next candidate, or none once the scan is done or has failed. -/
def pull (codec : Codec) (b : Buckets) (s : Scan) : Option Entry × Scan := pullWith codec b (s.batchBound b) s

/-- How the scan ended. -/
def finish (s : Scan) : Except QueryError Unit :=
  match s.failure with
  | some e => .error e
  | none   => .ok ()

end Scan
end RecordHold
