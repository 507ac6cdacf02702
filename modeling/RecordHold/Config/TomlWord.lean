import RecordHold.Config.Toml
import RecordHold.Ieee.Decimal
import RecordHold.Scalar
import RecordHold.Time.Civil
/-!
# Config.TomlWord — values of one word

What is no string and no collection is a word: `true` and `false`, a number, a date, a time of day, or both together.
Integers are decimal or in base 2, 8 or 16 and have 64 bits; underscores may stand between digits.  Floats, dates and
times are checked and then forgotten; no positive float rounds to infinity.
-/
namespace RecordHold
namespace Toml

/-! ## Integers -/

def hexDigit? (c : Char) : Option Nat :=
  if c.isDigit then some (c.toNat - 48)
  else if 'a' ≤ c ∧ c ≤ 'f' then some (c.toNat - 87)
  else if 'A' ≤ c ∧ c ≤ 'F' then some (c.toNat - 55)
  else none

def number? (base : Nat) (cs : List Char) : Option Nat :=
  cs.foldl (fun n c => n.bind (fun n => (hexDigit? c).bind (fun d => if d < base then some (n * base + d) else none)))
    (some 0)

/-- Digits with single underscores between them. -/
def plainDigits (isDigit : Char → Bool) : List Char → Option (List Char)
  | []       => none
  | [c]      => if isDigit c then some [c] else none
  | c :: '_' :: t => if isDigit c then (plainDigits isDigit t).map (c :: ·) else none
  | c :: t   => if isDigit c then (plainDigits isDigit t).map (c :: ·) else none

def bounded (i : Int) : Option Toml := if IntType.i64.holds i then some (.integer i) else none

def based (base : Nat) (cs : List Char) : Option Toml :=
  (plainDigits (fun c => (hexDigit? c).any (· < base)) cs).bind (fun ds =>
    (number? base ds).bind (fun n => bounded n))

/-- A decimal whole number without a leading zero. -/
def whole? (cs : List Char) : Option Nat :=
  (plainDigits Char.isDigit cs).bind (fun ds =>
    if ds.head? = some '0' ∧ ds.length ≠ 1 then none else number? 10 ds)

def stripSign : List Char → Bool × List Char
  | '-' :: t => (true, t)
  | '+' :: t => (false, t)
  | t        => (false, t)

def integer? (cs : List Char) : Option Toml :=
  match cs with
  | '0' :: 'x' :: t => based 16 t
  | '0' :: 'o' :: t => based 8 t
  | '0' :: 'b' :: t => based 2 t
  | _ =>
    let (negative, digits) := stripSign cs
    (whole? digits).bind (fun n => bounded (if negative then -(n : Int) else n))

/-! ## Floats -/

def isCounted (c : Char) : Bool := c.isDigit || c == '_'

def exponent? : List Char → Option Int
  | []     => none
  | c :: t =>
    if c = 'e' ∨ c = 'E' then
      let (negative, ds) := stripSign t
      ((plainDigits Char.isDigit ds).bind (number? 10)).map (fun n => if negative then -(n : Int) else n)
    else none

/-- A float in digits: the number they make without the point, and the power of ten it counts. -/
def digitsAndScale? (cs : List Char) : Option (Nat × Int) := do
  let head := cs.takeWhile isCounted
  let whole ← whole? head
  match cs.drop head.length with
  | '.' :: t =>
    let tail := t.takeWhile isCounted
    let ds ← plainDigits Char.isDigit tail
    let fraction ← number? 10 ds
    let rest := t.drop tail.length
    let scale ← if rest = [] then some 0 else exponent? rest
    some (whole * Ieee.tenTo ds.length + fraction, scale - ds.length)
  | t => (exponent? t).map (fun scale => (whole, scale))

/-- Is the float nearest to `n · 10 ^ scale` infinite?  The largest float has 309 digits, so only numbers of as many
are compared. -/
def roundsToInfinity (n : Nat) (scale : Int) : Bool :=
  let size := (Ieee.digitsOf n).length + scale
  if n = 0 ∨ size < 309 then false
  else if 309 < size then true
  else if scale < 0 then Ieee.binary64.nearest n (Ieee.tenTo scale.natAbs) = Ieee.binary64.infinity
  else Ieee.binary64.nearest (n * Ieee.tenTo scale.natAbs) 1 = Ieee.binary64.infinity

def isFloat (cs : List Char) : Bool :=
  let (negative, body) := stripSign cs
  body = ['i', 'n', 'f'] || body = ['n', 'a', 'n'] ||
    (digitsAndScale? body).any (fun (n, scale) => negative || !roundsToInfinity n scale)

/-! ## Dates and times -/

def twoDigits (below : Nat) (a b : Char) : Bool :=
  a.isDigit && b.isDigit && (a.toNat - 48) * 10 + (b.toNat - 48) < below

def isDate : List Char → Bool
  | [a, b, c, d, '-', e, f, '-', g, h] =>
    match number? 10 [a, b, c, d], number? 10 [e, f], number? 10 [g, h] with
    | some y, some m, some n => decide (Date.Valid ⟨y, m, n⟩)
    | _,      _,      _      => false
  | _ => false

def isOffset : List Char → Bool
  | []                            => true
  | [c]                           => c == 'Z' || c == 'z'
  | [s, a, b, ':', c, d]          => (s == '+' || s == '-') && twoDigits 24 a b && twoDigits 60 c d
  | _                             => false

/-- A time of day, after a date with a zone. -/
def isTime (zoned : Bool) : List Char → Bool
  | a :: b :: ':' :: c :: d :: ':' :: e :: f :: t =>
    let rest := match t with
      | '.' :: u =>
        let ds := u.takeWhile Char.isDigit
        if ds = [] then none else some (u.drop ds.length)
      | u => some u
    twoDigits 24 a b && twoDigits 60 c d && twoDigits 61 e f &&
      rest.any (fun u => if zoned then isOffset u else u.isEmpty)
  | _ => false

def isDatetime (cs : List Char) : Bool :=
  isTime false cs || isDate cs ||
    (isDate (cs.take 10) &&
      match cs.drop 10 with
      | c :: t => (c == 'T' || c == 't' || c == ' ') && isTime true t
      | []     => false)

/-! ## Words -/

def ofWord (cs : List Char) : Option Toml :=
  if cs = ['t', 'r', 'u', 'e'] then some (.boolean true)
  else if cs = ['f', 'a', 'l', 's', 'e'] then some (.boolean false)
  else
    match integer? cs with
    | some v => some v
    | none   => if isFloat cs then some .float else if isDatetime cs then some .datetime else none

def isBareKey (c : Char) : Bool := c.isAlphanum || c == '_' || c == '-'

def isWordChar (c : Char) : Bool := isBareKey c || c == '+' || c == '.' || c == ':'

/-- A value that is no string and no collection.  A date may be parted from its time by a space. -/
def readWord (s : List Char) : Option (Toml × List Char) :=
  let word := s.takeWhile isWordChar
  let rest := s.drop word.length
  match rest with
  | ' ' :: t =>
    let time := t.takeWhile isWordChar
    if isDate word ∧ isTime true time then some (.datetime, t.drop time.length)
    else (ofWord word).map (·, rest)
  | _ => (ofWord word).map (·, rest)

end Toml
end RecordHold
