import RecordHold.Store.Write
/-!
# Store.Transactions — the committed state and who works on what

A store has one committed state.  A read transaction is a name for the state at its opening.  The write
transaction, of which there is at most one, is a copy of the state at its opening; a commit makes it the committed
state, and anything else forgets it.

A write step runs on the open write transaction, or else in one of its own, which commits if the step succeeds.
-/
namespace RecordHold

structure Store where
  committed : Buckets
  writer    : Option Buckets
  readers   : List (String × Buckets)

namespace Store

def empty : Store := ⟨SortedMap.empty, none, []⟩

def beginRead (s : Store) (name : String) : Store :=
  { s with readers := (name, s.committed) :: s.readers.filter (fun r => r.1 != name) }

def beginWrite (s : Store) : Store := { s with writer := some s.committed }

def commit (s : Store) : Store :=
  match s.writer with
  | some b => { s with committed := b, writer := none }
  | none   => s

def rollback (s : Store) : Store := { s with writer := none }

/-- The state a read transaction sees. -/
def reader? (s : Store) (name : String) : Option Buckets := s.readers.lookup name

/-- A write step in a transaction of its own. -/
def alone {ε α : Type} (s : Store) (w : Write ε α) : Except ε α × Store :=
  match w.runOn s.committed with
  | (.ok a, b)    => (.ok a, { s with committed := b })
  | (.error e, _) => (.error e, s)

/-- A write step in the open write transaction, which keeps what a failing step wrote. -/
def inside {ε α : Type} (s : Store) (w : Write ε α) : Option (Except ε α × Store) :=
  s.writer.map (fun b =>
    let (result, b) := w.runOn b
    (result, { s with writer := some b }))

end Store
end RecordHold
