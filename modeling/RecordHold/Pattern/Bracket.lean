import RecordHold.Pattern.Escape
/-!
# Pattern.Bracket — classes in brackets

A class in brackets is a union of characters, ranges, escapes, named classes such as `[:alpha:]`, and classes in
brackets; unions are joined by `&&`, `--` and `~~`, from left to right.  A class that begins with `^` is negated.
Hyphens at the start stand for themselves, and so does a closing bracket before anything else.

Folding comes before anything that takes characters away: before a negation, and on both sides of an operator.
-/
namespace RecordHold
namespace Pattern

inductive SetOp where
  | inter
  | diff
  | symDiff

def SetOp.apply : SetOp → Class → Class → Class
  | inter,   a, b => a ∩ b
  | diff,    a, b => a \ b
  | symDiff, a, b => .symDiff a b

/-- `:alpha:]` and `:^alpha:]`, after the bracket. -/
def readNamed (f : Flags) (s : List Char) : Option (Class × List Char) :=
  match s with
  | ':' :: t =>
    let negated := t.head? == some '^'
    let t := if negated then t.drop 1 else t
    let name := t.takeWhile (· != ':')
    match t.drop name.length with
    | ':' :: ']' :: r => (Class.ascii? (String.ofList name)).map (fun k => ((f.fold k).negatedIf negated, r))
    | _               => none
  | _ => none

/-- A character or an escape. -/
def readMember (f : Flags) : List Char → Option (Escape × List Char)
  | []        => none
  | '\\' :: t => readEscape f t
  | c :: t    => some (.char c, t)

/-- The character that counts as the next after a hyphen: in a verbose pattern blanks are passed over, and of a
comment its first sign. -/
def afterHyphen (f : Flags) (s : List Char) : Option Char :=
  if !f.verbose then s.head?
  else
    match s.dropWhile isBlank with
    | '#' :: t => (t.dropWhile isBlank).head?
    | t        => t.head?

/-- A character, a range or an escaped class. -/
def readRange (f : Flags) (s : List Char) : Option (Class × List Char) :=
  match readMember f s with
  | none        => none
  | some (a, r) =>
    match f.skip r with
    | []     => none
    | c :: t =>
      if c != '-' || afterHyphen f t == some ']' || afterHyphen f t == some '-' then
        match a with
        | .char a      => some (.char a, c :: t)
        | .cls k       => some (k, c :: t)
        | .assertion _ => none
      else
        match a, readMember f (f.skip t) with
        | .char a, some (.char b, r) => if a ≤ b then some (.range a b, r) else none
        | _,       _                 => none

/-- Hyphens at the start, or a closing bracket. -/
def readStart (f : Flags) (s : List Char) : Class × List Char :=
  let (hyphens, r) := f.gather (· == '-') s
  match hyphens, r with
  | [], ']' :: r => (.char ']', r)
  | [], r        => (.none, r)
  | _,  r        => (.char '-', r)

mutual
/-- A class from after its opening bracket. -/
def readBracket (f : Flags) : Nat → List Char → Option (Class × List Char)
  | 0,        _ => none
  | fuel + 1, s =>
    let s := f.skip s
    let negated := s.head? == some '^'
    let (start, r) := readStart f (if negated then f.skip (s.drop 1) else s)
    (readUnion f fuel none start r).map (fun (k, r) => ((f.fold k).negatedIf negated, r))

/-- Members up to the closing bracket, joined to those read so far; `left` waits for what follows its operator. -/
def readUnion (f : Flags) : Nat → Option (Class × SetOp) → Class → List Char → Option (Class × List Char)
  | 0,        _,    _,   _ => none
  | fuel + 1, left, acc, s =>
    let joined := match left with
      | none        => acc
      | some (l, o) => o.apply (f.fold l) (f.fold acc)
    match f.skip s with
    | []               => none
    | ']' :: t         => some (joined, t)
    | '&' :: '&' :: t  => readUnion f fuel (some (joined, .inter)) .none t
    | '-' :: '-' :: t  => readUnion f fuel (some (joined, .diff)) .none t
    | '~' :: '~' :: t  => readUnion f fuel (some (joined, .symDiff)) .none t
    | '[' :: t         =>
      match readNamed f t with
      | some (k, r) => readUnion f fuel left (acc ∪ k) r
      | none =>
        match readBracket f fuel t with
        | some (k, r) => readUnion f fuel left (acc ∪ k) r
        | none        => none
    | t                =>
      match readRange f t with
      | some (k, r) => readUnion f fuel left (acc ∪ k) r
      | none        => none
end

end Pattern
end RecordHold
