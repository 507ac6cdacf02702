import RecordHold.Pattern.Property
/-!
# Pattern.GroupName — the names of groups

A name begins with a letter or `_` and goes on with letters, numerals, `_`, `.` and square brackets.  Names follow
version 17.0 of the character standard, classes version 16.0; what is a letter or a numeral in 16.0 is one in 17.0,
so the letters and numerals of names are those of the classes and the ones that 17.0 added.
-/
namespace RecordHold
namespace Pattern

/-- The alphabetic characters that version 17.0 added. -/
def addedLetter : Class := .written
  "88F C5C CDC A7CE-A7CF A7D2 A7D4 A7F1 10940-10959 10EC5-10EC7 10EFA-10EFB 11B60-11B67 11DB0-11DDB 16EA0-16EB8
  16EBB-16ED3 16FF2-16FF6 187F8-187FF 18D09-18D1E 18D80-18DF2 1E6C0-1E6DE 1E6E0-1E6F5 1E6FE-1E6FF 2B73A-2B73F
  2CEA2-2CEAD 323B0-33479"

/-- The numerals that version 17.0 added. -/
def addedNumeral : Class := .written "11DE0-11DE9 16FF4-16FF6"

def nameStart : Class := Property.alphabetic ∪ addedLetter ∪ .char '_'

def nameNext : Class := nameStart ∪ Category.numbers ∪ addedNumeral ∪ .ofList ['.', '[', ']']

/-- What follows a name and its closing angle. -/
def skipName : List Char → Option (List Char)
  | []     => none
  | c :: t =>
    if !nameStart.has c then none
    else
      match t.dropWhile nameNext.has with
      | '>' :: r => some r
      | _        => none

end Pattern
end RecordHold
