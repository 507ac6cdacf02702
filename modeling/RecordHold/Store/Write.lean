import RecordHold.Store.Buckets
/-!
# Store.Write — steps of a write transaction

A step works on the transaction's own copy of the buckets.  When a step fails, what it wrote before failing stays
in the copy; whether the copy is ever published is not the step's business.
-/
namespace RecordHold

abbrev Write (ε α : Type) := ExceptT ε (StateM Buckets) α

namespace Write
variable {ε α : Type}

/-- Run a step on a copy of the buckets: its result, and the copy afterwards. -/
def runOn (w : Write ε α) (b : Buckets) : Except ε α × Buckets := (ExceptT.run w).run b

def view : Write ε Buckets := get

def ofExcept : Except ε α → Write ε α
  | .ok x    => pure x
  | .error e => throw e

/-- Replace the buckets by what an operation makes of them, if it succeeds. -/
def change (f : Buckets → Except ε Buckets) : Write ε Unit := do
  let b ← get
  set (← ofExcept (f b))

end Write
end RecordHold
