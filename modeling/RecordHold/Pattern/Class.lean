import RecordHold.Pattern.CaseFold
/-!
# Pattern.Class — sets of characters

A class is written by its runs and joined from others: what is in either, in both, in the first only, in exactly
one, or not in it.  A folded class also holds whatever differs from a member in case only, among all characters or
among those of ASCII.
-/
namespace RecordHold
namespace Pattern

inductive Class where
  | runs (r : Runs)
  | union (a b : Class)
  | inter (a b : Class)
  | diff (a b : Class)
  | symDiff (a b : Class)
  | compl (a : Class)
  | folded (a : Class)
  | asciiFolded (a : Class)
deriving DecidableEq, Repr

namespace Class

def has : Class → Char → Bool
  | .runs r,        c => r.has c
  | .union a b,     c => a.has c || b.has c
  | .inter a b,     c => a.has c && b.has c
  | .diff a b,      c => a.has c && !b.has c
  | .symDiff a b,   c => a.has c != b.has c
  | .compl a,       c => !a.has c
  | .folded a,      c => (caseVariants c).any a.has
  | .asciiFolded a, c => (asciiVariants c).any a.has

instance : Union Class := ⟨.union⟩
instance : Inter Class := ⟨.inter⟩
instance : SDiff Class := ⟨.diff⟩

/-- The class of the written runs. -/
def written (s : String) : Class := .runs (.ofString s)

def range (a b : Char) : Class := .runs [⟨a.toNat, b.toNat, 1⟩]

def char (c : Char) : Class := range c c

def ofList (cs : List Char) : Class := .runs (cs.map (fun c => ⟨c.toNat, c.toNat, 1⟩))

def none : Class := .runs []

def all : Class := .compl none

end Class
end Pattern
end RecordHold
