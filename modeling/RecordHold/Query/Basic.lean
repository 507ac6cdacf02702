import RecordHold.Query.Criterion
import RecordHold.Record
import RecordHold.Store.SortedMap
import RecordHold.Text.Uppercase
/-!
# Query.Basic — queries and how they are built

A query is a clause and any number of branches.  The clause holds criteria by field, all of which must accept a
record, and may nominate a field whose index is to be searched.  A branch is a query again; its records are
added to those of the clause.

A query is built step by step.  The name of a field begins with an upper-case letter, and the empty name is the
primary key.  `whereField` nominates the field it begins with; the key cannot be nominated, and naming it takes
the nomination back.
-/
namespace RecordHold

structure Clause (γ : Type) where
  index    : Option String
  criteria : SortedMap String (List (Criterion γ))

inductive Query (γ : Type) where
  | node (clause : Clause γ) (branches : List (Query γ))

/-- The name that stands for the primary key. -/
def keyField : String := ""

def checkField (field : String) : Except QueryError Unit :=
  match field.toList with
  | []     => .ok ()
  | c :: _ => if isUppercase c then .ok () else .error (.invalidFieldName field)

namespace Clause
variable {γ : Type}

def empty : Clause γ := ⟨none, .empty⟩

/-- The criteria on a field, in the order they were added. -/
def on (c : Clause γ) (field : String) : List (Criterion γ) := (c.criteria.get? field).getD []

def add (c : Clause γ) (field : String) (x : Criterion γ) : Clause γ :=
  { c with criteria := c.criteria.insert field (c.on field ++ [x]) }

def nominate (c : Clause γ) (field : String) : Clause γ :=
  { c with index := if field = keyField then none else some field }

end Clause

namespace Query
variable {γ : Type}

def clause : Query γ → Clause γ
  | node c _ => c

def branches : Query γ → List (Query γ)
  | node _ qs => qs

/-! ## Building -/

/-- The query that every record matches. -/
def empty : Query γ := node .empty []

/-- A query with one criterion on a field, which is nominated. -/
def whereField (field : String) (x : Criterion γ) : Except QueryError (Query γ) :=
  (checkField field).map (fun _ => node ((Clause.empty.nominate field).add field x) [])

/-- One more criterion that must accept. -/
def and (q : Query γ) (field : String) (x : Criterion γ) : Except QueryError (Query γ) :=
  (checkField field).map (fun _ => node (q.clause.add field x) q.branches)

/-- One more branch. -/
def or (q branch : Query γ) : Query γ := node q.clause (q.branches ++ [branch])

def nominate (q : Query γ) (field : String) : Except QueryError (Query γ) :=
  (checkField field).map (fun _ => node (q.clause.nominate field) q.branches)

/-! ## Asking -/

def isEmpty (q : Query γ) : Bool := q.clause.index.isNone && q.clause.criteria.isEmpty && q.branches.isEmpty

def fields (q : Query γ) : List String := q.clause.criteria.keys

variable [Custom γ]

/-- Does a clause accept a record?  Fields are asked in the order of their names.  Where the nominated field was
already searched by its index, its criteria are not asked again. -/
def accepts {T : RecordType γ} (codec : Codec) (c : Clause γ) (narrowed : Bool) (key : Bytes) (r : Record T) :
    List (String × List (Criterion γ)) → Except QueryError Bool
  | []               => .ok true
  | (field, cs) :: t =>
    if field = keyField then
      Criterion.both (Criterion.allAccept (fun x => x.testKey codec key) cs) (accepts codec c narrowed key r t)
    else if narrowed ∧ c.index = some field then accepts codec c narrowed key r t
    else
      match r.field field with
      | none   => .error (.fieldNotFound field T.bucket)
      | some v =>
        Criterion.both (Criterion.allAccept (fun x => x.test v) cs) (accepts codec c narrowed key r t)

/-- Does the query's own clause accept a record under a key? -/
def matchesRecord {T : RecordType γ} (q : Query γ) (codec : Codec) (narrowed : Bool) (key : Bytes) (r : Record T) :
    Except QueryError Bool :=
  accepts codec q.clause narrowed key r q.clause.criteria.entries

/-! ## As text -/

def fieldName (field : String) : String := if field = keyField then "Key" else field

def clauseText (c : Clause γ) : String :=
  let criteria := c.criteria.entries.flatMap (fun (field, cs) => cs.map (fun x => fieldName field ++ " " ++ x.text))
  (match c.index with | none => "" | some field => "Using Index [" ++ field ++ "] ") ++
    (if criteria.isEmpty then "" else "Where " ++ "\n\tAND ".intercalate criteria)

mutual
def text : Query γ → String
  | node c qs => clauseText c ++ branchesText qs

def branchesText : List (Query γ) → String
  | []     => ""
  | q :: t => "\nOr " ++ text q ++ branchesText t
end

end Query
end RecordHold
