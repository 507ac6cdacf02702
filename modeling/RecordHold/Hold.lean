import RecordHold.Config.Basic
import RecordHold.Query.Traversal
/-!
# Hold — records of many types under one roof

The operations on records, each as a reading of the buckets or as a step of a write transaction.  A key is encoded
first, so a key that cannot be stored is reported before anything else.

Inserting wants the key to be free, updating and deleting want it taken, and upserting takes either.  An old record is
read back before it is replaced, because its index entries are found through its fields.
-/
namespace RecordHold
namespace Hold
variable {γ : Type} [Custom γ] (x : Executor γ)

/-- The executor a configuration asks for. -/
def executor (c : Config) : Executor γ :=
  (Executor.ofCodec c.store.codec).withBatchSize c.store.scanBatchSize.toNat

/-- A hold is opened only with a valid configuration. -/
def openWith (c : Config) : Except HoldError (Executor γ) :=
  match c.validate with
  | .ok _    => .ok (executor c)
  | .error e => .error (.config e.message)

def encodeKey (key : Key) : Except HoldError Bytes :=
  match key.encode x.codec with
  | .ok k    => .ok k
  | .error e => .error (.codec e)

/-- The record under an encoded key. -/
def load (T : RecordType γ) (key : Bytes) (b : Buckets) : Except HoldError (Option (Record T)) :=
  match b.lookup T.bucket key with
  | .error e       => .error (.store e)
  | .ok none       => .ok none
  | .ok (some raw) =>
    match Record.decode T x.codec raw with
    | .ok r    => .ok (some r)
    | .error e => .error (.codec e)

/-! ## Reading -/

def get (T : RecordType γ) (key : Key) (b : Buckets) : Except HoldError (Option (Record T)) := do
  load x T (← encodeKey x key) b

def ofQuery {α : Type} : Except QueryError α → Except HoldError α
  | .ok a    => .ok a
  | .error e => .error (.query e)

/-- All matching records, in the order they were met. -/
def find (T : RecordType γ) (q : Option (Query γ)) (b : Buckets) : Except HoldError (List (Record T)) :=
  let (done, s) := x.select T b q ⟨.empty, []⟩
  ofQuery (done.map (fun _ => s.records))

def findOne (T : RecordType γ) (q : Option (Query γ)) (b : Buckets) : Except HoldError (Option (Record T)) :=
  ofQuery (x.first T b q)

def count (T : RecordType γ) (q : Option (Query γ)) (b : Buckets) : Except HoldError Nat :=
  ofQuery (x.count T b q)

/-! ## Writing -/

variable {T : RecordType γ}

/-- The buckets with a record under an encoded key. -/
def put (key : Bytes) (r : Record T) (b : Buckets) : Except HoldError Buckets :=
  match r.stored x.codec with
  | .error e => .error (.codec e)
  | .ok raw  => (b.put T.bucket key raw).mapError .store

def store (key : Bytes) (r : Record T) : Write HoldError Unit := Write.change (put x key r)

def insert (key : Key) (r : Record T) : Write HoldError Unit := do
  let key ← Write.ofExcept (encodeKey x key)
  let taken ← Write.ofExcept (((← Write.view).lookup T.bucket key).mapError .store)
  match taken with
  | some _ => throw .keyExists
  | none   =>
    store x key r
    (Index.add x.codec key r).adapt .index

def update (key : Key) (r : Record T) : Write HoldError Unit := do
  let key ← Write.ofExcept (encodeKey x key)
  let old ← Write.ofExcept (load x T key (← Write.view))
  match old with
  | none   => throw .notFound
  | some _ =>
    store x key r
    (Index.update x.codec key old r).adapt .index

def upsert (key : Key) (r : Record T) : Write HoldError Unit := do
  let key ← Write.ofExcept (encodeKey x key)
  let old ← Write.ofExcept (load x T key (← Write.view))
  store x key r
  (Index.update x.codec key old r).adapt .index

variable (T) in
def delete (key : Key) : Write HoldError Unit := do
  let key ← Write.ofExcept (encodeKey x key)
  let old ← Write.ofExcept (load x T key (← Write.view))
  match old with
  | none   => throw .notFound
  | some r =>
    Write.change (fun b => (b.remove T.bucket key).mapError .store)
    (Index.remove x.codec key r).adapt .index

variable (T) in
/-- Delete all matching records; how many there were. -/
def deleteMatching (q : Option (Query γ)) : Write HoldError Nat := do
  let (done, s) := x.delete T q ⟨← Write.view, .empty⟩
  set s.buckets
  Write.ofExcept (ofQuery (done.map (fun _ => s.deleted.length)))

end Hold
end RecordHold
