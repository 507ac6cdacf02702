import RecordHold.Query.Scan
/-!
# Query.Traversal — every matching record once

A traversal scans the candidates of a query's clause and then those of each branch in turn, depth first.  A key
handled before is passed over, whichever node it was met at; of the others, those whose record the node's clause
accepts are handed to a visitor, which may change the store, stop the traversal or fail.

Selecting, finding the first, counting and deleting are four visitors over this one traversal.  Whatever the
visitor did before a failure stays in the state that is returned with it.
-/
namespace RecordHold

/-- What runs a query: the codec of records and keys, the size of a batch, and the policy on indexes. -/
structure Executor (γ : Type) where
  codec     : Codec
  batchSize : Nat
  policy    : Policy γ

namespace Executor
variable {γ : Type}

def ofCodec (codec : Codec) : Executor γ := ⟨codec, defaultBatchSize, Policy.ranges⟩

/-- A batch has at least one entry. -/
def withBatchSize (x : Executor γ) (n : Nat) : Executor γ := { x with batchSize := max 1 n }

def withPolicy (x : Executor γ) (policy : Policy γ) : Executor γ := { x with policy := policy }

def inspect (x : Executor γ) : String :=
  let codec := match x.codec with | .binary => "Bincode" | .json => "Json"
  "QueryExecutor \x7b codec: " ++ codec ++ ", batch_size: " ++ toString x.batchSize ++ ", .. \x7d"

end Executor

/-- The answer of a visitor: go on, stop, or why it failed; and the state after it. -/
abbrev Answer (σ : Type) := Except QueryError Bool × σ

structure Visitor {γ : Type} (T : RecordType γ) (σ : Type) where
  view  : σ → Buckets
  seen  : σ → KeyList
  visit : Bytes → Record T → σ → Answer σ

namespace Visitor
variable {γ : Type} [Custom γ] {T : RecordType γ} {σ : Type}

/-- Hand a candidate to the visitor, if it is new and the clause accepts it. -/
def consider (v : Visitor T σ) (codec : Codec) (q : Query γ) (narrowed : Bool) (e : Entry) (s : σ) : Answer σ :=
  if (v.seen s).contains e.1 then (.ok true, s)
  else
    match Record.decode T codec e.2 with
    | .error x => (.error (.decode x), s)
    | .ok r =>
      match q.matchesRecord codec narrowed e.1 r with
      | .error x  => (.error x, s)
      | .ok false => (.ok true, s)
      | .ok true  => v.visit e.1 r s

/-- Consider each candidate of a batch, looking up deferred ones in the store as it then is. -/
def drain (v : Visitor T σ) (codec : Codec) (q : Query γ) (narrowed : Bool) : List Candidate → σ → Answer σ
  | [],     s => (.ok true, s)
  | c :: t, s =>
    match Scan.resolve (v.view s) T.bucket c with
    | .error e     => (.error (.store e), s)
    | .ok none     => drain v codec q narrowed t s
    | .ok (some e) =>
      match v.consider codec q narrowed e s with
      | (.ok true, s) => drain v codec q narrowed t s
      | answer        => answer

/-- Batch after batch, to the end of the scan. -/
def drainAll (v : Visitor T σ) (codec : Codec) (q : Query γ) : Nat → Scan → σ → Answer σ
  | 0,        _,    s => (.ok true, s)
  | fuel + 1, scan, s =>
    match v.drain codec q scan.narrowed scan.buffer s with
    | (.ok true, s) =>
      if scan.exhausted then (.ok true, s)
      else
        let scan := scan.refill codec (v.view s)
        match scan.failure with
        | some e => (.error e, s)
        | none   => drainAll v codec q fuel scan s
    | answer => answer

/-- The candidates of the query's own clause. -/
def node (v : Visitor T σ) (x : Executor γ) (q : Query γ) (s : σ) : Answer σ :=
  let scan := Scan.start T.bucket T.indexes q.clause x.policy x.batchSize
  v.drainAll x.codec q (scan.batchBound (v.view s)) scan s

mutual
def traverse (v : Visitor T σ) (x : Executor γ) : Query γ → σ → Answer σ
  | .node c qs, s =>
    match v.node x (.node c qs) s with
    | (.ok true, s) => traverseAll v x qs s
    | answer        => answer

def traverseAll (v : Visitor T σ) (x : Executor γ) : List (Query γ) → σ → Answer σ
  | [],     s => (.ok true, s)
  | q :: t, s =>
    match traverse v x q s with
    | (.ok true, s) => traverseAll v x t s
    | answer        => answer
end

end Visitor

/-- What a traversal says of its state, the word to go on or stop dropped. -/
def Answer.done {σ : Type} (a : Answer σ) : Except QueryError Unit × σ := (a.1.map (fun _ => ()), a.2)

namespace Executor
variable {γ : Type} [Custom γ] (x : Executor γ) (T : RecordType γ)

/-- No query is the query that every record matches. -/
def orAll (q : Option (Query γ)) : Query γ := q.getD .empty

/-! ## Selecting -/

structure Selection {γ : Type} (T : RecordType γ) where
  matched : KeyList
  records : List (Record T)

def selector (b : Buckets) : Visitor T (Selection T) where
  view _ := b
  seen s := s.matched
  visit key r s := (.ok true, ⟨(s.matched.insert key).2, s.records ++ [r]⟩)

/-- Append the records of new matching keys, and add the keys. -/
def select (b : Buckets) (q : Option (Query γ)) (s : Selection T) : Except QueryError Unit × Selection T :=
  Answer.done ((selector T b).traverse x (orAll q) s)

/-! ## The first, and how many -/

def finder (b : Buckets) : Visitor T (KeyList × Option (Record T)) where
  view _ := b
  seen s := s.1
  visit key r s := (.ok false, ((s.1.insert key).2, some r))

/-- The first matching record in scan order; the scan goes no further. -/
def first (b : Buckets) (q : Option (Query γ)) : Except QueryError (Option (Record T)) :=
  let (done, s) := (finder T b).traverse x (orAll q) (.empty, none)
  done.map (fun _ => s.2)

def counter (b : Buckets) : Visitor T KeyList where
  view _ := b
  seen s := s
  visit key _ s := (.ok true, (s.insert key).2)

def count (b : Buckets) (q : Option (Query γ)) : Except QueryError Nat :=
  let (done, s) := (counter T b).traverse x (orAll q) .empty
  done.map (fun _ => s.length)

/-! ## Deleting -/

structure Deletion where
  buckets : Buckets
  deleted : KeyList

/-- Take a record out of its bucket and then out of its indexes. -/
def removeRecord {T : RecordType γ} (codec : Codec) (key : Bytes) (r : Record T) : Write QueryError Unit := do
  Write.change (fun b => (b.remove T.bucket key).mapError .store)
  (Index.remove codec key r).adapt .index

def deleter (codec : Codec) : Visitor T Deletion where
  view s := s.buckets
  seen s := s.deleted
  visit key r s :=
    match (removeRecord codec key r).runOn s.buckets with
    | (.ok _, b)    => (.ok true, ⟨b, (s.deleted.insert key).2⟩)
    | (.error e, b) => (.error e, ⟨b, s.deleted⟩)

/-- Delete the records of new matching keys with their index entries, and add the keys. -/
def delete (q : Option (Query γ)) (s : Deletion) : Except QueryError Unit × Deletion :=
  Answer.done ((deleter T x.codec).traverse x (orAll q) s)

end Executor
end RecordHold
