import RecordHold.Error
import RecordHold.Scalar
/-!
# Codec.Binary — scalars and rows as fixed-width bytes

Words are little-endian and as wide as their type, a boolean is one byte, a float is its pattern.  A text or a
byte string is its length, as eight bytes, and its content; a list is its count and its items; a row is its cells
one after the other; an instant is its RFC 3339 text.  There is one form for each value, and a reader that has
what it wants must have reached the end.

A reader takes what it needs from the front and returns the rest.
-/
namespace RecordHold
namespace Binary

def word (n v : Nat) : Bytes := Bytes.ofNatLE n v

/-- The bit pattern of an integer in the width of its type. -/
def intPattern (t : IntType) (i : Int) : Nat := (i % (t.size : Int)).toNat

/-- The integer of a bit pattern: the upper half of a signed type is negative. -/
def intOfPattern (t : IntType) (v : Nat) : Int := if (v : Int) ≤ t.greatest then v else (v : Int) - t.size

def blob (b : Bytes) : Bytes := word 8 b.length ++ b

def scalar : Scalar → Bytes
  | .bool b   => [if b then 1 else 0]
  | .int t i  => word t.width (intPattern t i.val)
  | .f32 bits => word 4 bits.toNat
  | .f64 bits => word 8 bits.toNat
  | .string s => blob (utf8 s)
  | .bytes b  => blob b
  | .time t   => blob (Utf8.encode t.rfc3339)

def row (cells : List Scalar) : Bytes := cells.flatMap scalar

def byteLists (ls : List Bytes) : Bytes := word 8 ls.length ++ ls.flatMap blob

/-! ## Reading -/

abbrev Reader (α : Type) := Bytes → Except DecodeFault (α × Bytes)

def readWord (n : Nat) : Reader Nat := fun b =>
  if b.length < n then .error .endOfInput else .ok (Bytes.toNatLE (b.take n), b.drop n)

def readBool : Reader Bool
  | []     => .error .endOfInput
  | b :: t =>
    if b = 0 then .ok (false, t)
    else if b = 1 then .ok (true, t)
    else .error (.badBool b)

def readInt (t : IntType) : Reader (IntOf t) := fun b => do
  let (v, r) ← readWord t.width b
  match IntOf.ofInt? t (intOfPattern t v) with
  | some i => .ok (i, r)
  | none   => .error .malformed

/-- As many bytes as the length in front says; `short` is the fault if there are fewer. -/
def readBlob (short : DecodeFault) : Reader Bytes := fun b => do
  let (n, r) ← readWord 8 b
  if r.length < n then .error short else .ok (r.take n, r.drop n)

/-- A text; one that is cut off counts as malformed, not as the end of the input. -/
def readText : Reader String := fun b => do
  let (body, r) ← readBlob .malformed b
  match ofUtf8? body with
  | some s => .ok (s, r)
  | none   => .error .malformed

def readTime : Reader Instant := fun b => do
  let (s, r) ← readText b
  match Instant.ofRfc3339? s.toList with
  | some t => .ok (t, r)
  | none   => .error .malformed

def readScalar : Kind → Reader Scalar
  | .bool   => fun b => (readBool b).map (fun (x, r) => (.bool x, r))
  | .int t  => fun b => (readInt t b).map (fun (x, r) => (.int t x, r))
  | .f32    => fun b => (readWord 4 b).map (fun (x, r) => (.f32 (UInt32.ofNat x), r))
  | .f64    => fun b => (readWord 8 b).map (fun (x, r) => (.f64 (UInt64.ofNat x), r))
  | .string => fun b => (readText b).map (fun (x, r) => (.string x, r))
  | .bytes  => fun b => (readBlob .endOfInput b).map (fun (x, r) => (.bytes x, r))
  | .time   => fun b => (readTime b).map (fun (x, r) => (.time x, r))

def readRow : List Kind → Reader (List Scalar)
  | [],      b => .ok ([], b)
  | k :: ks, b => do
    let (x, r) ← readScalar k b
    let (xs, r) ← readRow ks r
    .ok (x :: xs, r)

def readItems : Nat → Reader (List Bytes)
  | 0,     b => .ok ([], b)
  | n + 1, b => do
    let (x, r) ← readBlob .endOfInput b
    let (xs, r) ← readItems n r
    .ok (x :: xs, r)

def readByteLists : Reader (List Bytes) := fun b => do
  let (n, r) ← readWord 8 b
  if r.length < n then .error .endOfInput else readItems n r

/-- What a reader reads, if that is all there is. -/
def all {α : Type} (read : Reader α) (b : Bytes) : Except DecodeFault α := do
  let (x, r) ← read b
  if r = [] then .ok x else .error .trailingBytes

end Binary
end RecordHold
