import RecordHold.Text.Blank
import RecordHold.Time.Instant
/-!
# Time.Rfc3339 — instants as text

Writing is strict: a year outside 0 to 9999 has a sign and at least four digits, the fraction has 0, 3, 6 or 9
digits, as few as keep the value, and nanoseconds from one billion up show in the second after: as second 60 in the
last second of a minute, and anywhere else as the next second, from which nothing tells them apart.

Reading is lenient.  White space may stand between the parts; the date may be parted from the time by a space;
a fraction may have any number of digits, of which nine count; the zone is `Z`, `UTC` or an offset in hours
and minutes, with or without a colon.
-/
namespace RecordHold

def padded (width n : Nat) : List Char :=
  let ds := Nat.toDigits 10 n
  List.replicate (width - ds.length) '0' ++ ds

namespace Date

def yearText (y : Int) : List Char :=
  if 0 ≤ y ∧ y ≤ 9999 then padded 4 y.toNat
  else (if y < 0 then '-' else '+') :: padded 4 y.natAbs

def text (d : Date) : List Char := yearText d.year ++ '-' :: padded 2 d.month ++ '-' :: padded 2 d.day

end Date

namespace Instant

def fractionText (n : Nat) : List Char :=
  if n = 0 then []
  else if n % 1000000 = 0 then '.' :: padded 3 (n / 1000000)
  else if n % 1000 = 0 then '.' :: padded 6 (n / 1000)
  else '.' :: padded 9 n

def clockText (t : Instant) : List Char :=
  let s := t.secondOfDay
  let leap := if t.nanos < 1000000000 then 0 else 1
  padded 2 (s / 3600) ++ ':' :: padded 2 (s / 60 % 60) ++ ':' :: padded 2 (s % 60 + leap) ++
    fractionText (t.nanos % 1000000000)

/-- `2024-05-01T12:00:00Z` -/
def rfc3339 (t : Instant) : List Char := t.date.text ++ 'T' :: t.clockText ++ ['Z']

/-- `2024-05-01 12:00:00 UTC` -/
def text (t : Instant) : List Char := t.date.text ++ ' ' :: t.clockText ++ [' ', 'U', 'T', 'C']

/-! ## Reading -/

def decimalValue (ds : List Char) : Nat := ds.foldl (fun n c => n * 10 + (c.toNat - 48)) 0

/-- A number of at least one digit, and of at most `most` where that is given. -/
def readNumber (most : Option Nat) (s : List Char) : Option (Nat × List Char) :=
  let s := dropBlanks s
  let ds := ((most.map s.take).getD s).takeWhile Char.isDigit
  if ds = [] then none else some (decimalValue ds, s.drop ds.length)

/-- A year: four digits at most, or any number after a sign. -/
def readYear (s : List Char) : Option (Int × List Char) :=
  match dropBlanks s with
  | '-' :: t => if t.head?.all isBlank then none else (readNumber none t).map (fun (n, r) => (-(n : Int), r))
  | '+' :: t => if t.head?.all isBlank then none else (readNumber none t).map (fun (n, r) => ((n : Int), r))
  | t        => (readNumber (some 4) t).map (fun (n, r) => ((n : Int), r))

/-- One given character, after white space. -/
def expect (c : Char) (s : List Char) : Option (List Char) :=
  match dropBlanks s with
  | d :: t => if d = c then some t else none
  | []     => none

def readFraction (s : List Char) : Option (Nat × List Char) :=
  match s with
  | '.' :: t =>
    let ds := t.takeWhile Char.isDigit
    if ds = [] then none else
      let kept := ds.take 9
      some (decimalValue (kept ++ List.replicate (9 - kept.length) '0'), t.drop ds.length)
  | t => some (0, t)

def twoDigits : List Char → Option (Nat × List Char)
  | a :: b :: t => if a.isDigit ∧ b.isDigit then some (decimalValue [a, b], t) else none
  | _           => none

/-- The zone's offset to the east, in seconds. -/
def readZone (s : List Char) : Option (Int × List Char) :=
  match dropBlanks s with
  | a :: b :: c :: t =>
    if a.toUpper = 'U' ∧ b.toUpper = 'T' ∧ c.toUpper = 'C' then some (0, t) else readOffset (a :: b :: c :: t)
  | t => readOffset t
where
  readOffset : List Char → Option (Int × List Char)
    | c :: t =>
      if c = 'Z' ∨ c = 'z' then some (0, t)
      else if c = '+' then amount t
      else if c = '-' ∨ c = '\u2212' then (amount t).map (fun (n, r) => (-n, r))
      else none
    | [] => none
  amount (s : List Char) : Option (Int × List Char) := do
    let (hours, s) ← twoDigits s
    let (minutes, s) ← twoDigits (s.dropWhile (fun c => c = ':' || isBlank c))
    if minutes < 60 then some (((hours * 3600 + minutes * 60 : Nat) : Int), s) else none

/-- The instant of a local date and time at an offset; second 60 is the leap second after second 59. -/
def ofLocal? (d : Date) (hour minute second nanos : Nat) (offset : Int) : Option Instant :=
  if d.Valid ∧ firstYear ≤ d.year ∧ d.year ≤ lastYear ∧ hour < 24 ∧ minute < 60 ∧ second ≤ 60 ∧
      offset.natAbs < 86400 then
    let clock := hour * 3600 + minute * 60 + min second 59
    ofSeconds? (d.toDays * 86400 + clock - offset) (nanos + if second = 60 then 1000000000 else 0)
  else none

def ofRfc3339? (s : List Char) : Option Instant := do
  let (year, s) ← readYear s
  let (month, s) ← readNumber (some 2) (← expect '-' s)
  let (day, s) ← readNumber (some 2) (← expect '-' s)
  let s ← match s with
    | c :: t => if c = 't' ∨ c = 'T' ∨ c = ' ' then some t else none
    | []     => none
  let (hour, s) ← readNumber (some 2) s
  let (minute, s) ← readNumber (some 2) (← expect ':' s)
  let (second, s) ← readNumber (some 2) (← expect ':' s)
  let (nanos, s) ← readFraction s
  let (offset, s) ← readZone s
  if dropBlanks s = [] then ofLocal? ⟨year, month, day⟩ hour minute second nanos offset else none

end Instant
end RecordHold
