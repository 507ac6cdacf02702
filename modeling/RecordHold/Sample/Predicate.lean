import RecordHold.Value
/-!
# Sample.Predicate — a caller's own tests

Tests of a value that a caller might hand to a query, as data.  They look at the value's text, its type, or the
beginning of its bytes, and two of them can fail.
-/
namespace RecordHold

inductive Predicate where
  | always (answer : Bool)
  | fail (reason : String)
  | textIs (text : String)
  | textLength (n : Nat)
  | failOn (text : String)
  | hasType (name : String)
  | beginsWith (bytes : Bytes)
deriving DecidableEq, Repr

variable {γ : Type} [Custom γ]

def Predicate.test (p : Predicate) (v : Value γ) : Except String Bool :=
  match p with
  | always answer => .ok answer
  | fail reason   => .error reason
  | textIs text   => .ok (v.text == text)
  | textLength n  => .ok (v.text.length == n)
  | failOn text   => if v.text = text then .error ("exploded on " ++ text) else .ok true
  | hasType name  => .ok (v.typeName == name)
  | beginsWith bs =>
    match v with
    | .plain (.bytes b) => .ok (bs.isPrefixOf b)
    | _                 => .ok false

end RecordHold
