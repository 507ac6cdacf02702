import RecordHold.Query.Basic
/-!
# Query.Build — queries as lists of steps

A query written down step by step, its branches likewise.  Building takes the steps in order and stops at the first
that names no field; the steps of a branch are taken when the branch is reached.
-/
namespace RecordHold

inductive QueryStep (γ : Type) where
  | whereField (field : String) (x : Criterion γ)
  | and (field : String) (x : Criterion γ)
  | or (branch : List (QueryStep γ))
  | nominate (field : String)

namespace Query
variable {γ : Type}

mutual
/-- What a step makes of the query so far; the first kind begins anew. -/
def take : QueryStep γ → Query γ → Except QueryError (Query γ)
  | .whereField field x, _ => Query.whereField field x
  | .and field x,        q => q.and field x
  | .or branch,          q => (takeAll branch .empty).map q.or
  | .nominate field,     q => q.nominate field

def takeAll : List (QueryStep γ) → Query γ → Except QueryError (Query γ)
  | [],     q => .ok q
  | s :: t, q =>
    match take s q with
    | .error e => .error e
    | .ok q    => takeAll t q
end

/-- The query that the steps describe. -/
def build (steps : List (QueryStep γ)) : Except QueryError (Query γ) := takeAll steps .empty

end Query
end RecordHold
