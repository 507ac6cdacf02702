import RecordHold.Json
/-!
# Json.Read — JSON text to documents

The grammar is the standard one, over bytes.  White space is allowed around every token.  A string may hold any
bytes but control bytes; an escaped surrogate pair is one code point, and an unpaired surrogate is kept as three
bytes that belong to no text.  Nesting is bounded only by the length of the input, which is the fuel.
-/
namespace RecordHold
namespace Json

def isSpace (b : UInt8) : Bool := b == 32 || b == 10 || b == 9 || b == 13

def skipSpace (b : Bytes) : Bytes := b.dropWhile isSpace

def isDigitByte (b : UInt8) : Bool := 48 ≤ b && b ≤ 57

def digitValues (b : Bytes) : List Nat := b.map (fun x => x.toNat - 48)

def numberValue (ds : List Nat) : Nat := ds.foldl (fun n d => n * 10 + d) 0

/-! ## Numbers -/

/-- The digits in front, of which there must be one. -/
def readDigits (b : Bytes) : Option (List Nat × Bytes) :=
  let ds := b.takeWhile isDigitByte
  if ds = [] then none else some (digitValues ds, b.dropWhile isDigitByte)

def readFraction : Bytes → Option (Option (List Nat) × Bytes)
  | 46 :: t => (readDigits t).map (fun (ds, r) => (some ds, r))
  | t       => some (none, t)

def readExponent : Bytes → Option (Option Int × Bytes)
  | []     => some (none, [])
  | c :: t =>
    if c = 101 ∨ c = 69 then
      match t with
      | 45 :: u => (readDigits u).map (fun (ds, r) => (some (-(numberValue ds : Int)), r))
      | 43 :: u => (readDigits u).map (fun (ds, r) => (some (numberValue ds : Int), r))
      | u       => (readDigits u).map (fun (ds, r) => (some (numberValue ds : Int), r))
    else some (none, c :: t)

/-- A number after its sign; a whole part of several digits does not begin with zero. -/
def readUnsigned (negative : Bool) (b : Bytes) : Option (Numeral × Bytes) := do
  let (ds, r) ← readDigits b
  if ds.head? = some 0 ∧ ds.length ≠ 1 then none else
    let (fraction, r) ← readFraction r
    let (exponent, r) ← readExponent r
    some (⟨negative, numberValue ds, fraction, exponent⟩, r)

def readNumber : Bytes → Option (Numeral × Bytes)
  | 45 :: t => readUnsigned true t
  | t       => readUnsigned false t

/-! ## Strings -/

def hexValue (b : UInt8) : Option Nat :=
  if 48 ≤ b ∧ b ≤ 57 then some (b.toNat - 48)
  else if 97 ≤ b ∧ b ≤ 102 then some (b.toNat - 87)
  else if 65 ≤ b ∧ b ≤ 70 then some (b.toNat - 55)
  else none

def hexQuad (a b c d : UInt8) : Option Nat := do
  some (((← hexValue a) * 16 + (← hexValue b)) * 256 + (← hexValue c) * 16 + (← hexValue d))

/-- The bytes of a code point; surrogates are written as if they were characters. -/
def codePointBytes (n : Nat) : Bytes :=
  if n < 0x80 then [UInt8.ofNat n]
  else if n < 0x800 then [UInt8.ofNat (0xC0 + n / 64), UInt8.ofNat (0x80 + n % 64)]
  else if n < 0x10000 then
    [UInt8.ofNat (0xE0 + n / 4096), UInt8.ofNat (0x80 + n / 64 % 64), UInt8.ofNat (0x80 + n % 64)]
  else
    [UInt8.ofNat (0xF0 + n / 262144), UInt8.ofNat (0x80 + n / 4096 % 64),
      UInt8.ofNat (0x80 + n / 64 % 64), UInt8.ofNat (0x80 + n % 64)]

def simpleEscape (b : UInt8) : Option UInt8 :=
  if b = 34 ∨ b = 92 ∨ b = 47 then some b
  else if b = 98 then some 8
  else if b = 116 then some 9
  else if b = 110 then some 10
  else if b = 102 then some 12
  else if b = 114 then some 13
  else none

def isLowSurrogate (n : Nat) : Bool := 0xDC00 ≤ n && n < 0xE000
def isHighSurrogate (n : Nat) : Bool := 0xD800 ≤ n && n < 0xDC00

def joinSurrogates (high low : Nat) : Nat := 0x10000 + (high - 0xD800) * 1024 + (low - 0xDC00)

/-- A low surrogate written as an escape in front, and what follows it. -/
def lowSurrogate? : Bytes → Option Nat
  | 92 :: 117 :: a :: b :: c :: d :: _ => (hexQuad a b c d).filter isLowSurrogate
  | _                                  => none

/-- A string after its opening quote: the bytes it stands for, and what follows the closing quote. -/
def readString : Bytes → Option (Bytes × Bytes)
  | [] => none
  | 34 :: t => some ([], t)
  | 92 :: 117 :: a :: b :: c :: d :: t =>
    match hexQuad a b c d with
    | none   => none
    | some n =>
      match if isHighSurrogate n then lowSurrogate? t else none, t with
      | some low, _ :: _ :: _ :: _ :: _ :: _ :: u =>
        (readString u).map (fun (s, r) => (codePointBytes (joinSurrogates n low) ++ s, r))
      | _, u => (readString u).map (fun (s, r) => (codePointBytes n ++ s, r))
  | 92 :: c :: t =>
    match simpleEscape c with
    | none   => none
    | some x => (readString t).map (fun (s, r) => (x :: s, r))
  | c :: t => if c < 32 ∨ c = 92 then none else (readString t).map (fun (s, r) => (c :: s, r))

/-! ## Documents -/

mutual
def readValue : Nat → Bytes → Option (Json × Bytes)
  | 0,        _ => none
  | fuel + 1, b =>
    match skipSpace b with
    | 110 :: 117 :: 108 :: 108 :: t      => some (null, t)
    | 116 :: 114 :: 117 :: 101 :: t      => some (bool true, t)
    | 102 :: 97 :: 108 :: 115 :: 101 :: t => some (bool false, t)
    | 34 :: t  => (readString t).map (fun (s, r) => (string s, r))
    | 91 :: t  =>
      match skipSpace t with
      | 93 :: r => some (array [], r)
      | r       => (readItems fuel r).map (fun (xs, r) => (array xs, r))
    | 123 :: t =>
      match skipSpace t with
      | 125 :: r => some (object [], r)
      | r        => (readMembers fuel r).map (fun (ms, r) => (object ms, r))
    | t => (readNumber t).map (fun (n, r) => (number n, r))

/-- The items of an array that has some, and its closing bracket. -/
def readItems : Nat → Bytes → Option (List Json × Bytes)
  | 0,        _ => none
  | fuel + 1, b =>
    match readValue fuel b with
    | none        => none
    | some (x, r) =>
      match skipSpace r with
      | 44 :: t => (readItems fuel t).map (fun (xs, r) => (x :: xs, r))
      | 93 :: t => some ([x], t)
      | _       => none

/-- The members of an object that has some, and its closing brace. -/
def readMembers : Nat → Bytes → Option (List (Bytes × Json) × Bytes)
  | 0,        _ => none
  | fuel + 1, b =>
    match skipSpace b with
    | 34 :: t =>
      match readString t with
      | none        => none
      | some (k, r) =>
        match skipSpace r with
        | 58 :: r =>
          match readValue fuel r with
          | none        => none
          | some (v, r) =>
            match skipSpace r with
            | 44 :: t  => (readMembers fuel t).map (fun (ms, r) => ((k, v) :: ms, r))
            | 125 :: t => some ([(k, v)], t)
            | _        => none
        | _ => none
    | _ => none
end

/-- The document a text is, white space around it allowed.  Every call of a reader takes at least one byte or
hands over to one that does, so twice the length is fuel enough. -/
def read (b : Bytes) : Option Json :=
  match readValue (2 * b.length + 2) b with
  | some (j, r) => if skipSpace r = [] then some j else none
  | none        => none

end Json
end RecordHold
