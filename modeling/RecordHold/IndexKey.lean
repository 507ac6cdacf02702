import RecordHold.Value
/-!
# IndexKey — scalars as bytes that sort the way the scalars compare

A key begins with the tag of its family, so a family fills one contiguous range of keys, from its tag
(`familyStart`) up to the next byte (`familyEnd`).

Inside a family the byte order is the order of comparison.  Words are written most significant byte first and
shifted so that negative ones come first.  Texts and byte strings end in two zero bytes, and a zero byte of
their own is followed by `FF`, so a beginning sorts before its extensions.  A number is its 64-bit float first and
its whole part second, which separates the integers that share one float.
-/
namespace RecordHold
namespace IndexKey

def tag : Kind → UInt8
  | .bool                => 0x10
  | .int _ | .f32 | .f64 => 0x20
  | .string              => 0x30
  | .bytes               => 0x40
  | .time                => 0x50

def escaped : Bytes → Bytes
  | []     => [0x00, 0x00]
  | b :: t => if b = 0x00 then 0x00 :: 0xFF :: escaped t else b :: escaped t

/-- A float pattern as a word that grows with the total order. -/
def orderedFloat (bits : Nat) : Nat :=
  if Ieee.binary64.isNegative bits then 2 * Ieee.binary64.signBit - 1 - bits else bits + Ieee.binary64.signBit

/-- A signed integer of `n` bytes as a word that grows with it. -/
def orderedInt (n : Nat) (i : Int) : Nat := (i + (Bytes.capacity n / 2 : Nat)).toNat

def number (x : Number) : Bytes :=
  Bytes.ofNatBE 8 (orderedFloat x.image) ++ Bytes.ofNatBE 16 (orderedInt 16 x.whole)

def body : Scalar → Bytes
  | .bool b   => [if b then 1 else 0]
  | .int _ i  => number (.int i.val)
  | .f32 bits => number (.float (Ieee.binary32.convert Ieee.binary64 bits.toNat))
  | .f64 bits => number (.float bits.toNat)
  | .string s => escaped (utf8 s)
  | .bytes b  => escaped b
  | .time t   => Bytes.ofNatBE 8 (orderedInt 8 t.seconds) ++ Bytes.ofNatBE 4 t.nanos

def ofScalar (s : Scalar) : Bytes := tag s.kind :: body s

def familyStart (k : Kind) : Bytes := [tag k]
def familyEnd (k : Kind) : Bytes := [tag k + 1]

end IndexKey

namespace Value
variable {γ : Type} [Custom γ]

/-- The scalar of a value that can be indexed. -/
def scalar : Value γ → Except IndexError Scalar
  | plain s  => .ok s
  | custom c => .error (.unindexable (Custom.text c))

def indexKey (v : Value γ) : Except IndexError Bytes := v.scalar.map IndexKey.ofScalar

end Value
end RecordHold
