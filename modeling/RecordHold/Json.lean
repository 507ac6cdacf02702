import RecordHold.Bytes
/-!
# Json — JSON documents and their compact text

A document as it is read: a number keeps its digits, and a string keeps the bytes it stands for, which need not be
the bytes of a text.  Whether a string is a text and how a number is rounded is asked only where a value is
wanted, so a part of a document that nobody asks for may hold what would be refused elsewhere.

`write` is the compact form: no white space, and of a string's bytes only quotes, backslashes and control bytes
escaped.
-/
namespace RecordHold

/-- A JSON number, digit by digit: `-`, a whole part, a fraction, an exponent. -/
structure Numeral where
  negative : Bool
  whole    : Nat
  fraction : Option (List Nat)
  exponent : Option Int
deriving DecidableEq, Repr

inductive Json where
  | null
  | bool (b : Bool)
  | number (n : Numeral)
  | string (content : Bytes)
  | array (items : List Json)
  | object (members : List (Bytes × Json))

def Numeral.ofInt (i : Int) : Numeral := ⟨decide (i < 0), i.natAbs, none, none⟩

namespace Json

def digitByte (d : Nat) : UInt8 := UInt8.ofNat (48 + d)

def digitBytes (n : Nat) : Bytes := (Nat.toDigits 10 n).map (fun c => UInt8.ofNat c.toNat)

def writeExponent (e : Int) : Bytes := 101 :: (if e < 0 then 45 else 43) :: digitBytes e.natAbs

def writeNumber (n : Numeral) : Bytes :=
  (if n.negative then [45] else []) ++ digitBytes n.whole ++
    (match n.fraction with | none => [] | some ds => 46 :: ds.map digitByte) ++
    (match n.exponent with | none => [] | some e => writeExponent e)

def hexByte (d : Nat) : UInt8 := if d < 10 then UInt8.ofNat (48 + d) else UInt8.ofNat (87 + d)

def escapeByte (b : UInt8) : Bytes :=
  if b = 34 then [92, 34]
  else if b = 92 then [92, 92]
  else if b = 8 then [92, 98]
  else if b = 9 then [92, 116]
  else if b = 10 then [92, 110]
  else if b = 12 then [92, 102]
  else if b = 13 then [92, 114]
  else if b < 32 then [92, 117, 48, 48, hexByte (b.toNat / 16), hexByte (b.toNat % 16)]
  else [b]

def writeString (content : Bytes) : Bytes := 34 :: content.flatMap escapeByte ++ [34]

mutual
def write : Json → Bytes
  | null       => [110, 117, 108, 108]
  | bool true  => [116, 114, 117, 101]
  | bool false => [102, 97, 108, 115, 101]
  | number n   => writeNumber n
  | string s   => writeString s
  | array xs   => 91 :: writeItems xs ++ [93]
  | object ms  => 123 :: writeMembers ms ++ [125]

def writeItems : List Json → Bytes
  | []          => []
  | [x]         => write x
  | x :: y :: t => write x ++ 44 :: writeItems (y :: t)

def writeMembers : List (Bytes × Json) → Bytes
  | []               => []
  | [(k, v)]         => writeString k ++ 58 :: write v
  | (k, v) :: m :: t => writeString k ++ 58 :: write v ++ 44 :: writeMembers (m :: t)
end

end Json
end RecordHold
