import RecordHold.Error
import RecordHold.Scalar
import RecordHold.Ieee.Decimal
import RecordHold.Json.Read
import RecordHold.Text.Cut
/-!
# Codec.Json — scalars and rows as JSON

A byte string is an array of numbers, an instant its RFC 3339 text, a float that is not finite `null`, and a row an
object whose members are the columns in order.

Reading wants the type it wants: an integer without fraction or exponent and within bounds, a float from any
number, never `null`.  A row is read from an object with every column exactly once, in any order and among other
members, or from an array of just the cells.

## How a number becomes a float

An integer of at most 64 bits is rounded once.  Of any other number as many leading digits are kept as fit
64 bits; they are rounded to a float and that is multiplied or divided by a power of ten, rounding again.  So the
result may be a neighbour of the nearest float.  A number beyond the largest float is refused.

## Why a value was not written

A reason may end with the place of the fault, ` at line 3 column 7`.  The numbers are written again without
leading zeros; a place in line 0 is no place and is left out.
-/
namespace RecordHold

open Ieee

namespace Numeral

/-- A finite float's shortest decimal, in plain digits while they stay short. -/
def ofDecimal (negative plain : Bool) (d : Decimal) : Numeral :=
  if plain then
    let (whole, fraction) := d.split
    ⟨negative, Json.numberValue whole, some (if fraction = [] then [0] else fraction), none⟩
  else
    ⟨negative, d.digits.headD 0, if d.digits.tail = [] then none else some d.digits.tail, some d.exponent⟩

def plainExponent (f : Format) (e : Int) : Bool :=
  if f = binary32 then decide (-6 ≤ e ∧ e < 13) else decide (-5 ≤ e ∧ e < 16)

def ofFinite (f : Format) (bits : Nat) : Numeral :=
  let mag := f.magnitude bits
  let d : Decimal := if mag = 0 then ⟨[0], 0⟩ else f.shortest .even mag
  ofDecimal (f.isNegative bits) (plainExponent f d.exponent) d

/-! ## Reading a float -/

/-- The number made of as many of the digits as fit 64 bits, and the digits left over. -/
def absorb (s : Nat) : List Nat → Nat × List Nat
  | []     => (s, [])
  | d :: t => if s * 10 + d < IntType.u64.size then absorb (s * 10 + d) t else (s, d :: t)

def powerOfTen (k : Nat) : Nat := binary64.nearest (tenTo k) 1

/-- A 64-bit float times a power of ten, by steps of at most `10 ^ 308`. -/
def scale : Nat → Nat → Int → Option Nat
  | 0,         mag, _ => some mag
  | steps + 1, mag, e =>
    if e.natAbs ≤ 308 then
      if e < 0 then some (binary64.div mag (powerOfTen e.natAbs))
      else
        let r := binary64.mul mag (powerOfTen e.natAbs)
        if r < binary64.infinity then some r else none
    else if mag = 0 then some 0
    else if 0 ≤ e then none
    else scale steps (binary64.div mag (powerOfTen 308)) (e + 308)

/-- The magnitude of a number read as decimal digits and an exponent. -/
def decimalMagnitude (n : Numeral) : Option Nat :=
  let (s, dropped) := absorb 0 (digitsOf n.whole)
  let fraction := n.fraction.getD []
  let (s, left) := absorb s fraction
  let e : Int := (dropped.length : Int) - (fraction.length - left.length : Nat)
  let x := n.exponent.getD 0
  if IntType.i32.holds x.natAbs then scale 4 (binary64.nearest s 1) (e + x)
  else if 0 < x ∧ s ≠ 0 then none
  else some 0

def intValue (n : Numeral) : Int := if n.negative then -(n.whole : Int) else n.whole

/-- Is this an integer of at most 64 bits, signed if negative?  Negative zero is not. -/
def isInteger (n : Numeral) : Bool :=
  n.fraction.isNone && n.exponent.isNone &&
    (if n.negative then decide (n.whole ≠ 0 ∧ IntType.i64.holds n.intValue)
      else decide (IntType.u64.holds n.intValue))

def toFloat? (f : Format) (n : Numeral) : Option Nat :=
  if n.isInteger then some (f.ofInt n.intValue)
  else n.decimalMagnitude.map (fun mag => binary64.convert f (binary64.withSign n.negative mag))

end Numeral

namespace JsonCodec

/-- A number of 64 bits in decimal digits. -/
def placeNumber? (ds : List Char) : Option Nat :=
  if ds = [] ∨ !ds.all Char.isDigit then none
  else
    let n := Json.numberValue (ds.map (fun c => c.toNat - 48))
    if n < Bytes.capacity 8 then some n else none

/-- A reason and the place at its end, its line and column. -/
def placed? (reason : String) : Option (List Char × Nat × Nat) := do
  let (text, place) ← cutLast " at line ".toList reason.toList
  let (line, column) ← cutFirst " column ".toList place
  some (text, ← placeNumber? line, ← placeNumber? column)

def reasonText (reason : String) : String :=
  match placed? reason with
  | none                     => reason
  | some (text, 0, _)        => String.ofList text
  | some (text, line, column) =>
    String.ofList text ++ " at line " ++ toString line ++ " column " ++ toString column

def byteArray (b : Bytes) : Json := .array (b.map (fun x => .number (.ofInt x.toNat)))

def float (f : Format) (bits : Nat) : Json :=
  if f.isFinite bits then .number (.ofFinite f bits) else .null

def scalar : Scalar → Json
  | .bool b   => .bool b
  | .int _ i  => .number (.ofInt i.val)
  | .f32 bits => float binary32 bits.toNat
  | .f64 bits => float binary64 bits.toNat
  | .string s => .string (utf8 s)
  | .bytes b  => byteArray b
  | .time t   => .string (Utf8.encode t.rfc3339)

def row (names : List String) (cells : List Scalar) : Json :=
  .object ((names.map utf8).zip (cells.map scalar))

def byteLists (ls : List Bytes) : Json := .array (ls.map byteArray)

/-! ## Reading -/

def readInt (t : IntType) : Json → Option (IntOf t)
  | .number n => if n.isInteger then IntOf.ofInt? t n.intValue else none
  | _         => none

def readFloat (f : Format) : Json → Option Nat
  | .number n => n.toFloat? f
  | _         => none

def readByte (j : Json) : Option UInt8 := (readInt .u8 j).map (fun i => UInt8.ofNat i.val.toNat)

def traverse {α β : Type} (f : α → Option β) : List α → Option (List β)
  | []     => some []
  | a :: t =>
    match f a with
    | none   => none
    | some b => (traverse f t).map (b :: ·)

def readByteArray : Json → Option Bytes
  | .array xs => traverse readByte xs
  | _         => none

def readText : Json → Option String
  | .string s => ofUtf8? s
  | _         => none

def readScalar : Kind → Json → Option Scalar
  | .bool,   .bool b => some (.bool b)
  | .bool,   _       => none
  | .int t,  j       => (readInt t j).map (.int t)
  | .f32,    j       => (readFloat binary32 j).map (fun n => .f32 (UInt32.ofNat n))
  | .f64,    j       => (readFloat binary64 j).map (fun n => .f64 (UInt64.ofNat n))
  | .string, j       => (readText j).map .string
  | .bytes,  j       => (readByteArray j).map .bytes
  | .time,   j       => (readText j).bind (fun s => (Instant.ofRfc3339? s.toList).map .time)

/-- The only member of a name; none and several are refused alike. -/
def member (name : Bytes) (ms : List (Bytes × Json)) : Option Json :=
  match ms.filter (fun m => m.1 == name) with
  | [m] => some m.2
  | _   => none

def readColumns (ms : List (Bytes × Json)) : List (String × Kind) → Option (List Scalar)
  | []             => some []
  | (name, k) :: t =>
    match (member (utf8 name) ms).bind (readScalar k) with
    | none   => none
    | some x => (readColumns ms t).map (x :: ·)

def readCells : List (String × Kind) → List Json → Option (List Scalar)
  | [],          []      => some []
  | (_, k) :: t, j :: js =>
    match readScalar k j with
    | none   => none
    | some x => (readCells t js).map (x :: ·)
  | _,           _       => none

def readRow (columns : List (String × Kind)) : Json → Option (List Scalar)
  | .object ms => if ms.all (fun m => (Utf8.decode? m.1).isSome) then readColumns ms columns else none
  | .array js  => readCells columns js
  | _          => none

def readByteLists : Json → Option (List Bytes)
  | .array xs => traverse readByteArray xs
  | _         => none

/-- What a document's text is read as; any failure is the same fault. -/
def all {α : Type} (read : Json → Option α) (b : Bytes) : Except DecodeFault α :=
  match (Json.read b).bind read with
  | some x => .ok x
  | none   => .error .malformed

end JsonCodec
end RecordHold
