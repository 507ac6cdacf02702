import RecordHold.Codec
import RecordHold.Pattern.Basic
/-!
# Query.Criterion — one test of one value

A criterion compares a value with an operand, looks for it in a list, matches its text against a pattern, or asks
the caller's predicate.  It tests the value of a field, or a stored primary key: the key is read back as the type
of the operand — the first of the list, or a text for a pattern — and a predicate gets its bytes.

A list is searched in order and the search ends at the first equal value, so a later value that cannot be compared
matters only if none before it is equal.
-/
namespace RecordHold

inductive Relation where
  | eq | ne | gt | lt | ge | le
deriving DecidableEq, Repr

namespace Relation

def accepts : Relation → Ordering → Bool
  | eq, o => o == .eq
  | ne, o => o != .eq
  | gt, o => o == .gt
  | lt, o => o == .lt
  | ge, o => o != .lt
  | le, o => o != .gt

def symbol : Relation → String
  | eq => "=="
  | ne => "!="
  | gt => ">"
  | lt => "<"
  | ge => ">="
  | le => "<="

def constructorName : Relation → String
  | eq => "Eq"
  | ne => "Ne"
  | gt => "Gt"
  | lt => "Lt"
  | ge => "Ge"
  | le => "Le"

end Relation

inductive Criterion (γ : Type) where
  | relates (r : Relation) (operand : Value γ)
  | oneOf (operands : List (Value γ))
  | matching (p : Pattern)
  | satisfies (f : Value γ → Except String Bool)

namespace Criterion
variable {γ : Type} [Custom γ]

def isOneOf (v : Value γ) : List (Value γ) → Except QueryError Bool
  | []     => .ok false
  | w :: t =>
    match Value.compare v w with
    | .error e => .error e
    | .ok .eq  => .ok true
    | .ok _    => isOneOf v t

/-- The text a pattern is matched against: bytes are read as UTF-8, anything else as it is shown. -/
def subject : Value γ → List Char
  | .plain (.bytes b) => Utf8.decodeLossy b
  | v                 => v.text.toList

def test (c : Criterion γ) (v : Value γ) : Except QueryError Bool :=
  match c with
  | relates r operand => (Value.compare v operand).map r.accepts
  | oneOf operands    => isOneOf v operands
  | matching p        => .ok (p.occursIn (subject v))
  | satisfies f       => (f v).mapError .predicate

/-- The value a stored key is tested as; no value fits an empty list of operands. -/
def keyValue (c : Criterion γ) (codec : Codec) (key : Bytes) : Except QueryError (Option (Value γ)) :=
  let decoded (r : Except CodecError (Value γ)) : Except QueryError (Option (Value γ)) :=
    match r with
    | .ok v    => .ok (some v)
    | .error e => .error (.decode e)
  match c with
  | relates _ operand => decoded (operand.decodeLike codec key)
  | oneOf []          => .ok none
  | oneOf (v :: _)    => decoded (v.decodeLike codec key)
  | matching _        => decoded ((codec.scalar? .string key).map .plain)
  | satisfies _       => .ok (some (.plain (.bytes key)))

def testKey (c : Criterion γ) (codec : Codec) (key : Bytes) : Except QueryError Bool :=
  match c.keyValue codec key with
  | .error e     => .error e
  | .ok none     => .ok false
  | .ok (some v) => c.test v

/-- Two answers in turn: the second matters only if the first is a plain yes. -/
@[macro_inline] def both (first second : Except QueryError Bool) : Except QueryError Bool :=
  match first with
  | .ok true  => second
  | .ok false => .ok false
  | .error e  => .error e

/-- Do all criteria accept?  The first that does not, or that fails, ends the questioning. -/
def allAccept (ask : Criterion γ → Except QueryError Bool) : List (Criterion γ) → Except QueryError Bool
  | []     => .ok true
  | c :: t => both (ask c) (allAccept ask t)

/-! ## As text -/

def text : Criterion γ → String
  | relates r operand => r.symbol ++ " " ++ operand.text
  | oneOf operands    => "in [" ++ " ".intercalate (operands.map Value.text) ++ "]"
  | matching p        => "matches the regular expression " ++ p.source
  | satisfies _       => "matches the function"

def inspect : Criterion γ → String
  | relates r operand => r.constructorName ++ "(" ++ operand.inspect ++ ")"
  | oneOf operands    => "In([" ++ ", ".intercalate (operands.map Value.inspect) ++ "])"
  | matching p        => "Matches(" ++ String.ofList (quoted p.source.toList) ++ ")"
  | satisfies _       => "Predicate(..)"

end Criterion
end RecordHold
