import RecordHold.Pattern.Named
/-!
# Pattern.Basic — patterns and what they match

A pattern either occurs in a text or does not; where, and which part matched what, is never asked.  So a match is
followed by marks on the pattern itself: a character of the pattern is marked when some match under way has just
taken it.  A text is read once.  In each gap between its characters a match may begin, marks may run on through
whatever passes there without a character, and the pattern occurs if one of them comes to its end.
-/
namespace RecordHold

/-- Which characters make words. -/
inductive Words where
  | all
  | ascii
deriving DecidableEq, Repr

/-- Is there a character, and does it belong to a word? -/
def Words.hold (w : Words) (c : Option Char) : Bool :=
  match w with
  | .all   => c.any Pattern.Class.word.has
  | .ascii => c.any Pattern.Class.asciiWord.has

/-- What a gap between characters can be asked.  Lines end at a line feed; those that may end by `returns`, also at
a carriage return, and the two together are one line end. -/
inductive Assertion where
  | startOfText
  | endOfText
  | startOfLine (returns : Bool)
  | endOfLine (returns : Bool)
  | wordBoundary (w : Words)
  | notWordBoundary (w : Words)
  | startOfWord (w : Words)
  | endOfWord (w : Words)
  | noWordBefore (w : Words)
  | noWordAfter (w : Words)
deriving DecidableEq, Repr

/-- The structure of a pattern, with a mark on every character: `many` is any number of times, `some` at least once. -/
inductive Shape where
  | empty
  | char (k : Pattern.Class) (marked : Bool)
  | assert (a : Assertion)
  | seq (a b : Shape)
  | alt (a b : Shape)
  | many (a : Shape)
  | some (a : Shape)
deriving DecidableEq, Repr

/-- A pattern is known by its text; the shape, without a mark, is what the text means. -/
structure Pattern where
  source : String
  shape  : Shape

namespace Pattern

/-! ## Gaps -/

/-- A place in a text: the characters before and after it. -/
structure Gap where
  before : Option Char
  after  : Option Char
deriving DecidableEq, Repr

def Gap.satisfies (g : Gap) (a : Assertion) : Bool :=
  match a with
  | .startOfText       => g.before.isNone
  | .endOfText         => g.after.isNone
  | .startOfLine false => g.before.all (· == '\n')
  | .endOfLine false   => g.after.all (· == '\n')
  | .startOfLine true  => g.before.all (fun c => c == '\n' || (c == '\r' && g.after != some '\n'))
  | .endOfLine true    => g.after.all (fun c => c == '\r' || (c == '\n' && g.before != some '\r'))
  | .wordBoundary w    => w.hold g.before != w.hold g.after
  | .notWordBoundary w => w.hold g.before == w.hold g.after
  | .startOfWord w     => !w.hold g.before && w.hold g.after
  | .endOfWord w       => w.hold g.before && !w.hold g.after
  | .noWordBefore w    => !w.hold g.before
  | .noWordAfter w     => !w.hold g.after

/-! ## Marks -/

/-- Can the gap be all that the part matches? -/
def passes (g : Gap) : Shape → Bool
  | .empty    => true
  | .char _ _ => false
  | .assert a => g.satisfies a
  | .seq a b  => passes g a && passes g b
  | .alt a b  => passes g a || passes g b
  | .many _   => true
  | .some a   => passes g a

/-- Can a match of the part that is under way end at the gap? -/
def ends (g : Gap) : Shape → Bool
  | .empty         => false
  | .char _ marked => marked
  | .assert _      => false
  | .seq a b       => ends g b || (ends g a && passes g b)
  | .alt a b       => ends g a || ends g b
  | .many a        => ends g a
  | .some a        => ends g a

/-- The marks after the character behind the gap; `begins` says whether a match of the part may begin there. -/
def advance (g : Gap) (c : Char) : Bool → Shape → Shape
  | begins, .char k _ => .char k (begins && k.has c)
  | begins, .seq a b  => .seq (advance g c begins a) (advance g c ((begins && passes g a) || ends g a) b)
  | begins, .alt a b  => .alt (advance g c begins a) (advance g c begins b)
  | begins, .many a   => .many (advance g c (begins || ends g a) a)
  | begins, .some a   => .some (advance g c (begins || ends g a) a)
  | _,      .empty    => .empty
  | _,      .assert a => .assert a

/-- Does a match end in the rest of a text, one under way or one that begins there? -/
def occursFrom (before : Option Char) (s : Shape) : List Char → Bool
  | []     => passes ⟨before, none⟩ s || ends ⟨before, none⟩ s
  | c :: t =>
    let g : Gap := ⟨before, some c⟩
    passes g s || ends g s || occursFrom (some c) (advance g c true s) t

/-- Does the pattern match anywhere in the text? -/
def occursIn (p : Pattern) (text : List Char) : Bool := occursFrom none p.shape text

end Pattern
end RecordHold
