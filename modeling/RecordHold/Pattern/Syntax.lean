import RecordHold.Pattern.Bracket
import RecordHold.Pattern.GroupName
/-!
# Pattern.Syntax — the written form of patterns

Literals, `.`, escapes, classes in brackets, assertions, alternation, groups (named or not, with flags or without),
and repetition by `*`, `+`, `?` and counts.  Whether a repetition is greedy makes no difference to whether a pattern
occurs, so a `?` after one is skipped.  A flag set inside a group holds to the end of the group.

Each call of a reader takes a character or hands over to one that does; the fuel is a multiple of the length.
-/
namespace RecordHold
namespace Pattern

/-! ## Repetition -/

/-- Does the part match without taking a character, if at all?  To repeat such a part is to have it once. -/
def takesNothing : Shape → Bool
  | .empty    => true
  | .char _ _ => false
  | .assert _ => true
  | .seq a b  => takesNothing a && takesNothing b
  | .alt a b  => takesNothing a && takesNothing b
  | .many a   => takesNothing a
  | .some a   => takesNothing a

def times (a : Shape) : Nat → Shape
  | 0     => .empty
  | 1     => a
  | n + 2 => .seq a (times a (n + 1))

/-- At most so many times. -/
def upTo (a : Shape) : Nat → Shape
  | 0     => .empty
  | n + 1 => .alt .empty (.seq a (upTo a n))

def atLeast (a : Shape) : Nat → Shape
  | 0     => .many a
  | 1     => .some a
  | n + 2 => .seq a (atLeast a (n + 1))

def between (a : Shape) (m n : Nat) : Shape := .seq (times a m) (upTo a (n - m))

/-- A count, with any blanks around it. -/
def readCount (f : Flags) (s : List Char) : Option (Nat × List Char) :=
  match f.gather Char.isDigit (dropBlanks s) with
  | ([], _) => none
  | (ds, r) => some (ds.foldl (fun n c => n * 10 + (c.toNat - 48)) 0, dropBlanks r)

/-- `2}`, `2,}` or `2,5}`, after the opening brace, as a repetition of `a`. -/
def readCounts (f : Flags) (a : Shape) (s : List Char) : Option (Shape × List Char) :=
  let cap (n : Nat) : Nat := if takesNothing a ∧ 1 < n then 1 else n
  match readCount f (f.skip s) with
  | none        => none
  | some (m, r) =>
    match r with
    | '\x7d' :: t => some (times a (cap m), t)
    | ',' :: t    =>
      match f.skip t with
      | '\x7d' :: t => some (atLeast a (cap m), t)
      | t           =>
        match readCount f t with
        | some (n, '\x7d' :: t) => if m ≤ n then some (between a (cap m) (cap n), t) else none
        | _                     => none
    | _ => none

def skipLazy : List Char → List Char
  | '?' :: t => t
  | t        => t

/-- One repetition operator after `a`, if there is one; the inner `none` is an operator that is no operator. -/
def readRepeat (f : Flags) (a : Shape) : List Char → Option (Option (Shape × List Char))
  | '*' :: t    => some (some (.many a, skipLazy t))
  | '+' :: t    => some (some (.some a, skipLazy t))
  | '?' :: t    => some (some (.alt .empty a, skipLazy t))
  | '\x7b' :: t => some ((readCounts f a t).map (fun (b, r) => (b, skipLazy (f.skip r))))
  | _           => none

/-- All repetition operators that follow `a`. -/
def readRepeats (f : Flags) : Nat → Shape → List Char → Option (Shape × List Char)
  | 0,        _, _ => none
  | fuel + 1, a, s =>
    match readRepeat f a (f.skip s) with
    | none               => some (a, s)
    | some none          => none
    | some (some (b, r)) => readRepeats f fuel b r

/-! ## Groups and flags -/

/-- The flags named up to `:` or `)`, those after a minus switched off. -/
def readFlags : Bool → Flags → List Char → Option (Flags × List Char)
  | _,  _, []        => none
  | on, f, c :: t =>
    match c with
    | ':' => some (f, c :: t)
    | ')' => some (f, c :: t)
    | '-' => if on then readFlags false f t else none
    | 'i' => readFlags on { f with ignoreCase := on } t
    | 'm' => readFlags on { f with multiLine := on } t
    | 's' => readFlags on { f with dotAll := on } t
    | 'R' => readFlags on { f with returns := on } t
    | 'x' => readFlags on { f with verbose := on } t
    | 'u' => readFlags on { f with unicode := on } t
    | 'U' => readFlags on f t
    | _   => none

inductive GroupHead where
  | open (f : Flags) (rest : List Char)
  | flags (f : Flags) (rest : List Char)

/-- What follows an opening parenthesis. -/
def readGroupHead (f : Flags) (s : List Char) : Option GroupHead :=
  match f.skip s with
  | '?' :: 'P' :: '<' :: t => (skipName t).map (.open f)
  | '?' :: '<' :: t        => (skipName t).map (.open f)
  | '?' :: t               =>
    match readFlags true f t with
    | some (g, ':' :: r) => some (.open g r)
    | some (g, ')' :: r) => if t.head? = some ')' then none else some (.flags g r)
    | _                  => none
  | t => some (.open f t)

/-! ## The whole pattern -/

/-- What a dot takes. -/
def Flags.dot (f : Flags) : Class :=
  if f.dotAll then .all else .compl (.ofList (if f.returns then ['\r', '\n'] else ['\n']))

def Flags.lineStart (f : Flags) : Assertion := if f.multiLine then .startOfLine f.returns else .startOfText

def Flags.lineEnd (f : Flags) : Assertion := if f.multiLine then .endOfLine f.returns else .endOfText

def Escape.shape (f : Flags) : Escape → Shape
  | .char c      => .char (f.literal c) false
  | .cls k       => .char k false
  | .assertion a => .assert a

def sequence : List Shape → Shape
  | []     => .empty
  | [a]    => a
  | a :: t => .seq a (sequence t)

mutual
/-- Alternatives up to a closing parenthesis or the end. -/
def readAlternatives : Nat → Flags → List Char → Option (Shape × List Char)
  | 0,        _, _ => none
  | fuel + 1, f, s =>
    match readSequence fuel f [] s with
    | none => none
    | some (a, g, r) =>
      match r with
      | '|' :: t => (readAlternatives fuel g t).map (fun (b, r) => (.alt a b, r))
      | r        => some (a, r)

/-- A sequence, after what is read of it so far, the last part first; the flags may change on the way. -/
def readSequence : Nat → Flags → List Shape → List Char → Option (Shape × Flags × List Char)
  | 0,        _, _,    _ => none
  | fuel + 1, f, done, s =>
    match f.skip s with
    | []        => some (sequence done.reverse, f, [])
    | '|' :: t  => some (sequence done.reverse, f, '|' :: t)
    | ')' :: t  => some (sequence done.reverse, f, ')' :: t)
    | '(' :: t  =>
      match readGroupHead f t with
      | none              => none
      | some (.flags g r) => readSequence fuel g done r
      | some (.open g r)  =>
        match readAlternatives fuel g r with
        | some (a, ')' :: r) => readTail fuel f done a r
        | _                  => none
    | '[' :: t  =>
      match readBracket f (4 * t.length + 4) t with
      | none        => none
      | some (k, r) => readTail fuel f done (.char k false) r
    | '.' :: t  => readTail fuel f done (.char f.dot false) t
    | '^' :: t  => readTail fuel f done (.assert f.lineStart) t
    | '$' :: t  => readTail fuel f done (.assert f.lineEnd) t
    | '\\' :: t =>
      match readEscape f t with
      | none        => none
      | some (e, r) => readTail fuel f done (e.shape f) r
    | c :: t    =>
      if c = '*' ∨ c = '+' ∨ c = '?' ∨ c = '\x7b' then none
      else readTail fuel f done (.char (f.literal c) false) t

/-- The repetition operators after an item, and the rest of its sequence. -/
def readTail : Nat → Flags → List Shape → Shape → List Char → Option (Shape × Flags × List Char)
  | 0,        _, _,    _, _ => none
  | fuel + 1, f, done, a, s =>
    match readRepeats f (s.length + 1) a s with
    | none        => none
    | some (b, r) => readSequence fuel f (b :: done) r
end

/-- The pattern a text describes, if it is well formed. -/
def ofString? (source : String) : Option Pattern :=
  let s := source.toList
  match readAlternatives (4 * s.length + 4) .initial s with
  | some (shape, []) => some ⟨source, shape⟩
  | _                => none

end Pattern
end RecordHold
