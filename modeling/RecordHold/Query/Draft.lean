import RecordHold.Query.Build
/-!
# Query.Draft — a query under construction

A criterion is added by two calls: the first names a field, which is the *active* one from then on, and the second gives
the test.  A draft is the query so far and its active field, at first the primary key.  Any call may follow any other; a
test always goes to the field that is active when it comes, and branches and nominations leave that field active.
-/
namespace RecordHold

inductive BuilderCall (γ : Type) where
  | start (field : String)
  | and (field : String)
  | test (x : Criterion γ)
  | or (branch : List (BuilderCall γ))
  | nominate (field : String)

structure Draft (γ : Type) where
  query  : Query γ
  active : String

namespace Draft
variable {γ : Type}

def empty : Draft γ := ⟨.empty, keyField⟩

/-- Begin anew with a field, which is nominated. -/
def start (field : String) : Except QueryError (Draft γ) :=
  (checkField field).map (fun _ => ⟨.node (Clause.empty.nominate field) [], field⟩)

def and (d : Draft γ) (field : String) : Except QueryError (Draft γ) :=
  (checkField field).map (fun _ => { d with active := field })

/-- One more criterion on the active field. -/
def push (d : Draft γ) (x : Criterion γ) : Draft γ :=
  { d with query := .node (d.query.clause.add d.active x) d.query.branches }

def or (d : Draft γ) (branch : Query γ) : Draft γ := { d with query := d.query.or branch }

def nominate (d : Draft γ) (field : String) : Except QueryError (Draft γ) :=
  (d.query.nominate field).map (fun q => { d with query := q })

mutual
def take : BuilderCall γ → Draft γ → Except QueryError (Draft γ)
  | .start field,    _ => start field
  | .and field,      d => d.and field
  | .test x,         d => .ok (d.push x)
  | .or branch,      d => (takeAll branch .empty).map (fun b => d.or b.query)
  | .nominate field, d => d.nominate field

def takeAll : List (BuilderCall γ) → Draft γ → Except QueryError (Draft γ)
  | [],     d => .ok d
  | c :: t, d =>
    match take c d with
    | .error e => .error e
    | .ok d    => takeAll t d
end

/-- The draft that calls make. -/
def run (calls : List (BuilderCall γ)) : Except QueryError (Draft γ) := takeAll calls .empty

end Draft

/-! ## Steps as calls -/

mutual
/-- The calls that a step of a query stands for. -/
def QueryStep.calls {γ : Type} : QueryStep γ → List (BuilderCall γ)
  | .whereField field x => [.start field, .test x]
  | .and field x        => [.and field, .test x]
  | .or branch          => [.or (QueryStep.callsOf branch)]
  | .nominate field     => [.nominate field]

def QueryStep.callsOf {γ : Type} : List (QueryStep γ) → List (BuilderCall γ)
  | []     => []
  | s :: t => s.calls ++ QueryStep.callsOf t
end

end RecordHold
