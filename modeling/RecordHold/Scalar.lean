import RecordHold.Text.Quoted
import RecordHold.Text.Utf8
import RecordHold.Ieee.Style
import RecordHold.Time.Rfc3339
/-!
# Scalar — the plain values a record holds

A scalar is a boolean, an integer of one of eight types, a float of one of two formats, a text, a byte string or
an instant.  The type of an integer stays with it, so that a stored key can be read back as exactly the type a
query compares it with.  A float is its bit pattern.
-/
namespace RecordHold

inductive IntType where
  | i8 | i16 | i32 | i64 | u8 | u16 | u32 | u64
deriving DecidableEq, Repr

namespace IntType

def name : IntType → String
  | i8  => "i8"  | i16 => "i16" | i32 => "i32" | i64 => "i64"
  | u8  => "u8"  | u16 => "u16" | u32 => "u32" | u64 => "u64"

def width : IntType → Nat
  | i8  | u8  => 1
  | i16 | u16 => 2
  | i32 | u32 => 4
  | i64 | u64 => 8

def signed : IntType → Bool
  | i8 | i16 | i32 | i64 => true
  | u8 | u16 | u32 | u64 => false

/-- How many values the type has. -/
def size (t : IntType) : Nat := Bytes.capacity t.width

def least (t : IntType) : Int := if t.signed then -((t.size / 2 : Nat) : Int) else 0
def greatest (t : IntType) : Int := if t.signed then (t.size / 2 : Nat) - 1 else t.size - 1

def holds (t : IntType) (i : Int) : Prop := t.least ≤ i ∧ i ≤ t.greatest

instance (t : IntType) (i : Int) : Decidable (t.holds i) := inferInstanceAs (Decidable (_ ∧ _))

end IntType

/-- An integer within the bounds of its type. -/
structure IntOf (t : IntType) where
  val   : Int
  holds : t.holds val
deriving DecidableEq

def IntOf.ofInt? (t : IntType) (i : Int) : Option (IntOf t) := if h : t.holds i then some ⟨i, h⟩ else none

/-- The type of a scalar. -/
inductive Kind where
  | bool
  | int (t : IntType)
  | f32
  | f64
  | string
  | bytes
  | time
deriving DecidableEq, Repr

def Kind.name : Kind → String
  | bool   => "bool"
  | int t  => t.name
  | f32    => "f32"
  | f64    => "f64"
  | string => "string"
  | bytes  => "bytes"
  | time   => "time"

inductive Scalar where
  | bool (b : Bool)
  | int (t : IntType) (i : IntOf t)
  | f32 (bits : UInt32)
  | f64 (bits : UInt64)
  | string (s : String)
  | bytes (b : Bytes)
  | time (t : Instant)
deriving DecidableEq

/-- A number whatever its width: an exact integer, or a float widened to 64 bits. -/
inductive Number where
  | int (i : Int)
  | float (bits : Nat)
deriving DecidableEq, Repr

namespace Scalar

def kind : Scalar → Kind
  | bool _   => .bool
  | int t _  => .int t
  | f32 _    => .f32
  | f64 _    => .f64
  | string _ => .string
  | bytes _  => .bytes
  | time _   => .time

def number? : Scalar → Option Number
  | int _ i  => some (.int i.val)
  | f32 bits => some (.float (Ieee.binary32.convert Ieee.binary64 bits.toNat))
  | f64 bits => some (.float bits.toNat)
  | _        => none

/-! ## As text -/

def intText (i : Int) : List Char :=
  if i < 0 then '-' :: Nat.toDigits 10 i.natAbs else Nat.toDigits 10 i.natAbs

def boolText (b : Bool) : List Char := if b then "true".toList else "false".toList

/-- The texts of a list with a separator between. -/
def separated (sep : List Char) : List (List Char) → List Char
  | []          => []
  | [x]         => x
  | x :: y :: t => x ++ sep ++ separated sep (y :: t)

def byteTexts (b : Bytes) : List (List Char) := b.map (fun x => Nat.toDigits 10 x.toNat)

/-- The text a person reads, which is also what a pattern is matched against. -/
def text : Scalar → List Char
  | bool b   => boolText b
  | int _ i  => intText i.val
  | f32 bits => Ieee.binary32.text .display bits.toNat
  | f64 bits => Ieee.binary64.text .display bits.toNat
  | string s => s.toList
  | bytes b  => '[' :: separated [' '] (byteTexts b) ++ [']']
  | time t   => t.text

def constructorName : Kind → String
  | .bool   => "Bool"
  | .int t  => t.name.capitalize
  | .f32    => "F32"
  | .f64    => "F64"
  | .string => "String"
  | .bytes  => "Bytes"
  | .time   => "Time"

def content : Scalar → List Char
  | bool b   => boolText b
  | int _ i  => intText i.val
  | f32 bits => Ieee.binary32.text .inspect bits.toNat
  | f64 bits => Ieee.binary64.text .inspect bits.toNat
  | string s => quoted s.toList
  | bytes b  => '[' :: separated [',', ' '] (byteTexts b) ++ [']']
  | time t   => t.rfc3339

/-- The text for diagnostics, which shows the type as well: `I64(-7)`, `String("Tim")`. -/
def inspect (s : Scalar) : List Char := (constructorName s.kind).toList ++ '(' :: s.content ++ [')']

end Scalar
end RecordHold
