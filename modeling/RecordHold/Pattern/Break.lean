import RecordHold.Pattern.Property
import RecordHold.Pattern.Script
/-!
# Pattern.Break — how text is cut

What a character does where text is cut into clusters of characters, into words, and into sentences.  Each of the
three divisions sorts all characters; the classes of a division are apart, and what none of them holds is other.
-/
namespace RecordHold
namespace Pattern
namespace Break

open Category Property

/-- Marks that stand for a number and go before its digits. -/
def numberSigns : Class := .written "600-605 6DD 890-891 8E2 110BD 110CD"

def digits : Class := decimalNumber.toClass ∪ numberSigns ∪ .written "66B 19DA"

/-! ## Clusters -/

def hangulSyllable : Class := .written "AC00-D7A3"

/-- Syllables without a final consonant. -/
def openSyllable : Class := .written "AC00-D788/1C"

def clusterControl : Class :=
  (anyOf [control, format] ∪ .written "2028-2029" ∪ (defaultIgnorable ∩ unassigned)) \
    (.written "A D 200D" ∪ graphemeExtend ∪ prependedConcatenationMark)

def clusterSpacing : Class :=
  ((spacingMark.toClass \ graphemeExtend) ∪ .written "E33 EB3") \
    .written "102B-102C 1038 1062-1064 1067-106D 1083 1087-108C 108F 109A-109C 1A61 1A63-1A64 AA7B AA7D
      11720-11721"

def clusterPrepend : Class :=
  prependedConcatenationMark ∪ .written "D4E 111C2-111C3 113D1 1193F 11941 11A3A 11A84-11A89 11D46 11F02"

def cluster? (name : String) : Option Class :=
  match name with
  | "cn" | "control"            => some clusterControl
  | "cr"                        => some (.written "D")
  | "ex" | "extend"             => some (graphemeExtend ∪ emojiModifier)
  | "l"                         => some (.written "1100-115F A960-A97C")
  | "lf"                        => some (.written "A")
  | "lv"                        => some openSyllable
  | "lvt"                       => some (hangulSyllable \ openSyllable)
  | "pp" | "prepend"            => some clusterPrepend
  | "ri" | "regionalindicator"  => some (.written "1F1E6-1F1FF")
  | "sm" | "spacingmark"        => some clusterSpacing
  | "t"                         => some (.written "11A8-11FF D7CB-D7FB")
  | "v"                         => some (.written "1160-11A7 D7B0-D7C6 16D63 16D67-16D6A")
  | "zwj"                       => some (.written "200D")
  | _                           => none

/-! ## Words -/

def wordExtend : Class := graphemeExtend ∪ spacingMark.toClass ∪ emojiModifier

def katakana : Class := (script? "katakana").getD .none ∪ .written "3031-3035 309B-309C 30A0 30FC FF70"

def hebrewLetter : Class := (script? "hebrew").getD .none ∩ otherLetter.toClass

/-- Letters of scripts that are written without a space between words. -/
def unspacedLetter : Class :=
  .written
    "E01-E30 E32-E33 E40-E46 E81-E82 E84 E86-E8A E8C-EA3 EA5 EA7-EB0 EB2-EB3 EBD EC0-EC4 EC6 EDC-EDF 1000-102A
     103F 1050-1055 105A-105D 1061 1065-1066 106E-1070 1075-1081 108E 1780-17B3 17D7 17DC 1950-196D 1970-1974
     1980-19AB 19B0-19C9 1A20-1A54 1AA7 A9E0-A9E4 A9E6-A9EF A9FA-A9FE AA60-AA76 AA7A AA7E-AAAF AAB1 AAB5-AAB6
     AAB9-AABD AAC0 AAC2 AADB-AADD 11700-1171A 11740-11746" ∪
    (script? "hiragana").getD .none

/-- Signs that go on with a word although they are not alphabetic. -/
def letterLike : Class :=
  .written "2C2-2C5 2D2-2D7 2DE-2DF 2E5-2EB 2ED 2EF-2FF 55A-55C 55E 58A 5F3 70F A708-A716 A720-A721 A789-A78A
    AB5B"

def wordLetter : Class :=
  (alphabetic ∪ letterLike) \ (ideographic ∪ unspacedLetter ∪ katakana ∪ hebrewLetter ∪ wordExtend)

def word? (name : String) : Option Class :=
  match name with
  | "le" | "aletter"            => some wordLetter
  | "cr"                        => some (.written "D")
  | "dq" | "doublequote"        => some (.written "22")
  | "extend"                    => some wordExtend
  | "ex" | "extendnumlet"       => some (connectorPunctuation.toClass ∪ .written "202F")
  | "fo" | "format"             =>
    some (format.toClass \ (graphemeExtend ∪ prependedConcatenationMark ∪ .written "200B 200D"))
  | "hl" | "hebrewletter"       => some hebrewLetter
  | "ka" | "katakana"           => some katakana
  | "lf"                        => some (.written "A")
  | "ml" | "midletter"          => some (.written "3A B7 387 55F 5F4 2027 FE13 FE55 FF1A")
  | "mn" | "midnum"             =>
    some (.written "2C 3B 37E 589 60C-60D 66C 7F8 2044 FE50 FE54 FF0C FF1B")
  | "mb" | "midnumlet"          => some (.written "2E 2018-2019 2024 FE52 FF07 FF0E")
  | "nl" | "newline"            => some (.written "B-C 85 2028-2029")
  | "nu" | "numeric"            => some digits
  | "ri" | "regionalindicator"  => some (.written "1F1E6-1F1FF")
  | "sq" | "singlequote"        => some (.written "27")
  | "wsegspace"                 => some (.written "20 1680 2000-2006 2008-200A 205F 3000")
  | "zwj"                       => some (.written "200D")
  | _                           => none

/-! ## Sentences -/

def sentenceExtend : Class := graphemeExtend ∪ spacingMark.toClass ∪ .written "200D"

/-- Letters of a script without case whose small forms are told apart all the same. -/
def sentenceLower : Class := lowercase \ (graphemeExtend ∪ .written "10D0-10FA 10FD-10FF")

def sentenceUpper : Class := (uppercase ∪ titlecaseLetter.toClass) \ .written "1C90-1CBA 1CBD-1CBF"

def fullStop : Class := .written "2E 2024 FE52 FF0E"

def sentence? (name : String) : Option Class :=
  match name with
  | "at" | "aterm"      => some fullStop
  | "cl" | "close"      =>
    some (anyOf [openPunctuation, closePunctuation, initialPunctuation, finalPunctuation] ∪
      .written "22 27 275B-2760 2E00-2E01 2E06-2E08 2E0B 1F676-1F678")
  | "cr"                => some (.written "D")
  | "ex" | "extend"     => some sentenceExtend
  | "fo" | "format"     => some (format.toClass \ (graphemeExtend ∪ numberSigns ∪ .written "200D"))
  | "le" | "oletter"    =>
    some ((alphabetic ∪ .written "5F3") \ (sentenceLower ∪ sentenceUpper ∪ sentenceExtend))
  | "lf"                => some (.written "A")
  | "lo" | "lower"      => some sentenceLower
  | "nu" | "numeric"    => some (digits ∪ .written "66C")
  | "sc" | "scontinue"  =>
    some (.written "2C-2D 3A-3B 37E 55D 60C-60D 7F8 1802 1808 2013-2014 3001 FE10-FE11 FE13-FE14 FE31-FE32
      FE50-FE51 FE54-FE55 FE58 FE63 FF0C-FF0D FF1A-FF1B FF64")
  | "se" | "sep"        => some (.written "85 2028-2029")
  | "sp"                => some (whiteSpace \ .written "A D 85 2028-2029")
  | "st" | "sterm"      => some (sentenceTerminal \ fullStop)
  | "up" | "upper"      => some sentenceUpper
  | _                   => none

end Break
end Pattern
end RecordHold
