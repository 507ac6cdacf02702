import RecordHold.Bytes
/-!
# Text.Utf8 — characters and their bytes

`encode` writes each character in its shortest form.  Reading goes byte by byte: `Pending` is what a started
character still waits for, namely how many bytes and, for the next one, between which bounds.  The bounds after
the first byte are what shuts out overlong forms, surrogates and code points past the last plane.

`scan` yields one item for each character and one empty item for each longest start of a character that breaks
off, so the strict reader (`decode?`, no empty item allowed) and the lenient one (`decodeLossy`, an empty item
reads as U+FFFD) are the same scan.
-/
namespace RecordHold
namespace Utf8

def encodeChar (c : Char) : Bytes :=
  let n := c.toNat
  if n < 0x80 then [UInt8.ofNat n]
  else if n < 0x800 then [UInt8.ofNat (0xC0 + n / 64), UInt8.ofNat (0x80 + n % 64)]
  else if n < 0x10000 then
    [UInt8.ofNat (0xE0 + n / 4096), UInt8.ofNat (0x80 + n / 64 % 64), UInt8.ofNat (0x80 + n % 64)]
  else
    [UInt8.ofNat (0xF0 + n / 262144), UInt8.ofNat (0x80 + n / 4096 % 64),
      UInt8.ofNat (0x80 + n / 64 % 64), UInt8.ofNat (0x80 + n % 64)]

def encode (cs : List Char) : Bytes := cs.flatMap encodeChar

/-- A character begun: the code point so far, how many bytes follow after the next one, and the bounds of the
next one. -/
structure Pending where
  code : Nat
  more : Nat
  low  : Nat
  high : Nat

/-- What a byte means where a character begins. -/
inductive Lead where
  | whole (c : Char)
  | start (p : Pending)
  | bad

def lead (b : UInt8) : Lead :=
  let n := b.toNat
  if n < 0x80 then .whole (Char.ofNat n)
  else if n < 0xC2 then .bad
  else if n < 0xE0 then .start ⟨n - 0xC0, 0, 0x80, 0xBF⟩
  else if n < 0xF0 then
    .start ⟨n - 0xE0, 1, if n = 0xE0 then 0xA0 else 0x80, if n = 0xED then 0x9F else 0xBF⟩
  else if n < 0xF5 then
    .start ⟨n - 0xF0, 2, if n = 0xF0 then 0x90 else 0x80, if n = 0xF4 then 0x8F else 0xBF⟩
  else .bad

/-- The characters of a byte string in order, `none` for each start of a character that breaks off. -/
def scan : Option Pending → Bytes → List (Option Char)
  | none,   [] => []
  | some _, [] => [none]
  | none, b :: t =>
    match lead b with
    | .whole c => some c :: scan none t
    | .start p => scan (some p) t
    | .bad     => none :: scan none t
  | some p, b :: t =>
    if p.low ≤ b.toNat ∧ b.toNat ≤ p.high then
      let code := p.code * 64 + (b.toNat - 0x80)
      match p.more with
      | 0     => some (Char.ofNat code) :: scan none t
      | m + 1 => scan (some ⟨code, m, 0x80, 0xBF⟩) t
    else
      none ::
        match lead b with
        | .whole c => some c :: scan none t
        | .start q => scan (some q) t
        | .bad     => none :: scan none t

def sequence : List (Option Char) → Option (List Char)
  | []          => some []
  | none :: _   => none
  | some c :: t => (sequence t).map (c :: ·)

/-- The characters of a well-formed byte string. -/
def decode? (bs : Bytes) : Option (List Char) := sequence (scan none bs)

/-- The characters of any byte string, U+FFFD standing for what is not a character. -/
def decodeLossy (bs : Bytes) : List Char := (scan none bs).map (·.getD '\uFFFD')

end Utf8

/-- The bytes of a text. -/
def utf8 (s : String) : Bytes := Utf8.encode s.toList

/-- The text of a well-formed byte string. -/
def ofUtf8? (bs : Bytes) : Option String := (Utf8.decode? bs).map String.ofList

end RecordHold
