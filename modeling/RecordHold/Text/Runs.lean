/-!
# Text.Runs — sets of characters as runs

A set of characters is a list of runs: a first code point, a last one, and the step between, since capitals and
small letters often alternate.  In writing, blanks stand between runs and numbers are hexadecimal: `41-5A` is `A`
to `Z`, `AA` a single character, and `100-136/2` every second one from the first to the last.
-/
namespace RecordHold

structure Run where
  lo   : Nat
  hi   : Nat
  step : Nat
deriving DecidableEq, Repr

abbrev Runs := List Run

def Run.has (r : Run) (n : Nat) : Bool := r.lo ≤ n && n ≤ r.hi && (n - r.lo) % r.step == 0

namespace Runs

def has (r : Runs) (c : Char) : Bool := r.any (fun x => x.has c.toNat)

/-! ## Reading -/

/-- The pieces of a text between the separators. -/
def pieces (sep : Char) : List Char → List (List Char)
  | []     => [[]]
  | c :: t =>
    match pieces sep t with
    | w :: ws => if c = sep then [] :: w :: ws else (c :: w) :: ws
    | []      => [[c]]

/-- A number in hexadecimal, with capital letters. -/
def number (s : List Char) : Nat :=
  s.foldl (fun n c => n * 16 + (if c.isDigit then c.toNat - 48 else c.toNat - 55)) 0

def ofWord (w : List Char) : Run :=
  let (ends, step) := match pieces '/' w with
    | [e, s] => (e, number s)
    | _      => (w, 1)
  match pieces '-' ends with
  | [a, b] => ⟨number a, number b, step⟩
  | _      => ⟨number ends, number ends, step⟩

/-- The words of a text, with blanks between. -/
def words (s : String) : List (List Char) :=
  (pieces ' ' (s.toList.map (fun c => if c.isWhitespace then ' ' else c))).filter (· ≠ [])

def ofString (s : String) : Runs := (words s).map ofWord

/-- A long set is written on several lines. -/
def ofLines (lines : List String) : Runs := lines.flatMap ofString

example : ofString "41-5A AA 100-136/2" = [⟨0x41, 0x5A, 1⟩, ⟨0xAA, 0xAA, 1⟩, ⟨0x100, 0x136, 2⟩] := by decide +kernel

end Runs
end RecordHold
