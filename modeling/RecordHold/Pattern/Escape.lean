import RecordHold.Pattern.Basic
import RecordHold.Text.Blank
/-!
# Pattern.Escape — flags, blanks, and what follows a backslash

The flags are `i` (case), `m` (lines), `s` (dot takes line ends), `R` (a carriage return ends a line, too), `x`
(blanks and comments are no part of the pattern) and `u` (classes go beyond ASCII, on at first).

An escape stands for one character, for a class or for an assertion.  In a verbose pattern blanks and comments may
stand inside the longer ones, too: `gather` collects the characters of a name or a number and leaves them out.
-/
namespace RecordHold
namespace Pattern

structure Flags where
  ignoreCase : Bool
  multiLine  : Bool
  dotAll     : Bool
  returns    : Bool
  verbose    : Bool
  unicode    : Bool
deriving DecidableEq, Repr

namespace Flags

def initial : Flags := ⟨false, false, false, false, false, true⟩

def words (f : Flags) : Words := if f.unicode then .all else .ascii

def fold (f : Flags) (k : Class) : Class :=
  if !f.ignoreCase then k else if f.unicode then .folded k else .asciiFolded k

/-- The class of one character written for itself. -/
def literal (f : Flags) (c : Char) : Class :=
  if !f.ignoreCase then .char c else .ofList (if f.unicode then caseVariants c else asciiVariants c)

end Flags

def Class.negatedIf (negated : Bool) (k : Class) : Class := if negated then .compl k else k

/-! ## Blanks and comments -/

mutual
def skipBlanks : List Char → List Char
  | []     => []
  | c :: t => if c = '#' then skipComment t else if isBlank c then skipBlanks t else c :: t

/-- A comment goes up to the end of its line. -/
def skipComment : List Char → List Char
  | []     => []
  | c :: t => if c = '\n' then skipBlanks t else skipComment t
end

def Flags.skip (f : Flags) (s : List Char) : List Char := if f.verbose then skipBlanks s else s

/-- At most `limit` of the characters that are kept, up to the first that is not, and the rest.  In a verbose
pattern blanks and comments between them are left out. -/
def gather (verbose : Bool) (keep : Char → Bool) (inComment : Bool) : Nat → List Char → List Char × List Char
  | 0,         s      => ([], s)
  | _ + 1,     []     => ([], [])
  | limit + 1, c :: t =>
    if inComment then gather verbose keep (c != '\n') (limit + 1) t
    else if verbose && c == '#' then gather verbose keep true (limit + 1) t
    else if verbose && isBlank c then gather verbose keep false (limit + 1) t
    else if keep c then
      let (kept, r) := gather verbose keep false limit t
      (c :: kept, r)
    else ([], c :: t)

def Flags.gather (f : Flags) (keep : Char → Bool) (s : List Char) : List Char × List Char :=
  Pattern.gather f.verbose keep false s.length s

/-! ## Characters by number -/

def hexDigit? (c : Char) : Option Nat :=
  if c.isDigit then some (c.toNat - 48)
  else if 'a' ≤ c ∧ c ≤ 'f' then some (c.toNat - 87)
  else if 'A' ≤ c ∧ c ≤ 'F' then some (c.toNat - 55)
  else none

def hexNumber : List Char → Option Nat
  | [] => none
  | cs => cs.foldl (fun n c => n.bind (fun n => (hexDigit? c).map (n * 16 + ·))) (some 0)

def charOfHex? (ds : List Char) : Option Char :=
  (hexNumber ds).bind (fun n => if n.isValidChar then some (Char.ofNat n) else none)

/-- The character of `\x41`, `\u{1F600}` and the like, after the letter, which asks for `width` digits. -/
def hexEscape (f : Flags) (width : Nat) (s : List Char) : Option (Char × List Char) :=
  match f.skip s with
  | '\x7b' :: t =>
    match f.gather (· != '\x7d') t with
    | (ds, _ :: r) => (charOfHex? ds).map (·, f.skip r)
    | (_, [])      => none
  | t =>
    let (ds, r) := Pattern.gather f.verbose (fun c => (hexDigit? c).isSome) false width t
    if ds.length = width then (charOfHex? ds).map (·, f.skip r) else none

/-! ## Classes by property -/

/-- `L`, `{Greek}` and the like, after the letter `p`. -/
def propertyEscape (f : Flags) (negated : Bool) (s : List Char) : Option (Class × List Char) :=
  match f.skip s with
  | []          => none
  | '\x7b' :: t =>
    match f.gather (· != '\x7d') t with
    | (name, _ :: r) =>
      (Class.ofName? name).map (fun (k, differs) => ((f.fold k).negatedIf (negated != differs), r))
    | (_, [])        => none
  | c :: t      => (Class.ofName? [c]).map (fun (k, _) => ((f.fold k).negatedIf negated, t))

/-! ## Assertions -/

/-- `\b`, and what `{start}` and the like make of it; a brace that holds no name is left alone. -/
def boundaryEscape (f : Flags) (s : List Char) : Option (Assertion × List Char) :=
  let isNameChar (c : Char) : Bool := c.isAlpha || c == '-'
  match s with
  | '\x7b' :: t =>
    match f.gather isNameChar t with
    | ([], _)            => some (.wordBoundary f.words, s)
    | (name, '\x7d' :: r) =>
      match String.ofList name with
      | "start"      => some (.startOfWord f.words, r)
      | "end"        => some (.endOfWord f.words, r)
      | "start-half" => some (.noWordBefore f.words, r)
      | "end-half"   => some (.noWordAfter f.words, r)
      | _            => none
    | _                  => none
  | _           => some (.wordBoundary f.words, s)

/-! ## All escapes -/

inductive Escape where
  | char (c : Char)
  | cls (k : Class)
  | assertion (a : Assertion)

/-- An escape after its backslash.  A sign of ASCII that is neither a letter nor a digit stands for itself. -/
def readEscape (f : Flags) : List Char → Option (Escape × List Char)
  | []     => none
  | c :: t =>
    let cls (all ascii : Class) (negated : Bool) : Option (Escape × List Char) :=
      some (.cls ((if f.unicode then all else ascii).negatedIf negated), t)
    match c with
    | 'd' => cls .digit .asciiDigit false
    | 'D' => cls .digit .asciiDigit true
    | 's' => cls .space .asciiSpace false
    | 'S' => cls .space .asciiSpace true
    | 'w' => cls .word .asciiWord false
    | 'W' => cls .word .asciiWord true
    | 'p' => (propertyEscape f false t).map (fun (k, r) => (.cls k, r))
    | 'P' => (propertyEscape f true t).map (fun (k, r) => (.cls k, r))
    | 'x' => (hexEscape f 2 t).map (fun (c, r) => (.char c, r))
    | 'u' => (hexEscape f 4 t).map (fun (c, r) => (.char c, r))
    | 'U' => (hexEscape f 8 t).map (fun (c, r) => (.char c, r))
    | 'b' => (boundaryEscape f t).map (fun (a, r) => (.assertion a, r))
    | 'B' => some (.assertion (.notWordBoundary f.words), t)
    | '<' => some (.assertion (.startOfWord f.words), t)
    | '>' => some (.assertion (.endOfWord f.words), t)
    | 'A' => some (.assertion .startOfText, t)
    | 'z' => some (.assertion .endOfText, t)
    | 'a' => some (.char '\x07', t)
    | 'f' => some (.char '\x0c', t)
    | 't' => some (.char '\t', t)
    | 'n' => some (.char '\n', t)
    | 'r' => some (.char '\r', t)
    | 'v' => some (.char '\x0b', t)
    | _   => if c.toNat < 128 ∧ !c.isAlphanum then some (.char c, t) else none

end Pattern
end RecordHold
