import RecordHold.Error
import RecordHold.Scalar
/-!
# Value — what a query compares

A value is a scalar or a value of a type the caller brings along.  Such a type says how it compares with any
value and how it is shown (`Custom`); the library never looks inside.

Comparison is by family: numbers of any type with each other, and texts, booleans, byte strings and instants
each among themselves.  Integers compare exactly and floats by their total order.  An integer meets a float
through the float nearest to it; equal there, the float's integer part decides.
-/
namespace RecordHold

inductive Value (γ : Type) where
  | plain (s : Scalar)
  | custom (c : γ)
deriving DecidableEq

/-- The capability of a type whose values take part in comparisons. -/
class Custom (γ : Type) where
  compare : γ → Value γ → Except QueryError Ordering
  text    : γ → String
  inspect : γ → String

namespace Number

/-- The bounds of the integer part of a float. -/
def leastWhole : Int := -((Bytes.capacity 16 / 2 : Nat) : Int)
def greatestWhole : Int := (Bytes.capacity 16 / 2 : Nat) - 1

/-- The 64-bit float that stands for a number where numbers are ordered by their floats. -/
def image : Number → Nat
  | int i      => Ieee.binary64.ofInt i
  | float bits => bits

/-- The integer that separates numbers of one image. -/
def whole : Number → Int
  | int i      => i
  | float bits => Ieee.binary64.truncate leastWhole greatestWhole bits

def compareIntFloat (i : Int) (bits : Nat) : Ordering :=
  (Ieee.binary64.compareTotal (image (int i)) bits).then (Ord.compare i (whole (float bits)))

protected def compare : Number → Number → Ordering
  | int a,   int b   => Ord.compare a b
  | float a, float b => Ieee.binary64.compareTotal a b
  | int a,   float b => compareIntFloat a b
  | float a, int b   => (compareIntFloat b a).swap

end Number

protected def Scalar.compare (a b : Scalar) : Except QueryError Ordering :=
  match a.number?, b.number? with
  | some x, some y => .ok (Number.compare x y)
  | _,      _      =>
    match a, b with
    | .string x, .string y => .ok (Ord.compare (utf8 x) (utf8 y))
    | .bool x,   .bool y   => .ok (Ord.compare x y)
    | .bytes x,  .bytes y  => .ok (Ord.compare x y)
    | .time x,   .time y   => .ok (Instant.compare x y)
    | _,         _         => .error (.uncomparable a.kind.name b.kind.name)

namespace Value
variable {γ : Type} [Custom γ]

def typeName : Value γ → String
  | plain s  => s.kind.name
  | custom _ => "custom"

def isNumber : Value γ → Bool
  | plain s  => s.number?.isSome
  | custom _ => false

def asString? : Value γ → Option String
  | plain (.string s) => some s
  | _                 => none

def text : Value γ → String
  | plain s  => String.ofList s.text
  | custom c => Custom.text c

def inspect : Value γ → String
  | plain s  => String.ofList s.inspect
  | custom c => "Custom(" ++ Custom.inspect c ++ ")"

/-- A custom value decides, the left one first; otherwise the scalars do. -/
protected def compare : Value γ → Value γ → Except QueryError Ordering
  | custom c, b        => Custom.compare c b
  | a,        custom c => (Custom.compare c a).map Ordering.swap
  | plain a,  plain b  => Scalar.compare a b

end Value
end RecordHold
