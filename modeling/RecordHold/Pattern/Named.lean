import RecordHold.Pattern.Age
import RecordHold.Pattern.Break
import RecordHold.Text.Cut
/-!
# Pattern.Named — classes by name

What stands between the braces of `\p` names a property, a category, or a script, or says which value a property
has, as in `gc=Lu`, `script:Greek`, `age=6.1` or `wb!=Numeric`.  Case, spaces, hyphens, underscores, characters
beyond ASCII and a leading `is` make no difference to a name.

Three classes have escapes of their own: `\d` is the decimal digits of every script, `\s` white space, and `\w` the
alphabetic characters, marks, digits, connectors and joiners.
-/
namespace RecordHold
namespace Pattern
namespace Class

open Category Property

def digit : Class := decimalNumber.toClass
def space : Class := whiteSpace
def word : Class := alphabetic ∪ marks ∪ anyOf [decimalNumber, connectorPunctuation] ∪ .written "200C-200D"

/-- A name without what makes no difference to it. -/
def plainName (s : List Char) : String :=
  let isIs (a b : Char) : Bool := a.toLower == 'i' && b.toLower == 's'
  let plain (s : List Char) : List Char :=
    (s.filter (fun c => c.toNat < 128 && c != ' ' && c != '_' && c != '-')).map Char.toLower
  match s with
  | a :: b :: t =>
    if isIs a b then String.ofList (if plain t = ['c'] then ['i', 's', 'c'] else plain t)
    else String.ofList (plain s)
  | _ => String.ofList (plain s)

/-- A property, a category or a script by its name. -/
def named? (name : String) : Option Class :=
  ((Property.named? name).or (Category.named? name)).or (script? name)

/-- The characters for which a property has a value. -/
def valued? (property value : String) : Option Class :=
  match property with
  | "gc" | "generalcategory"        => Category.named? value
  | "sc" | "script"                 => script? value
  | "scx" | "scriptextensions"      => scriptExtension? value
  | "age"                           => age? value
  | "gcb" | "graphemeclusterbreak"  => Break.cluster? value
  | "wb" | "wordbreak"              => Break.word? value
  | "sb" | "sentencebreak"          => Break.sentence? value
  | _                               => Option.none

/-- What the text between the braces stands for, and whether it says so by `!=`. -/
def ofName? (s : List Char) : Option (Class × Bool) :=
  match cutFirst ['!', '='] s with
  | some (p, v) => (valued? (plainName p) (plainName v)).map (·, true)
  | Option.none =>
    match (cutFirst [':'] s).or (cutFirst ['='] s) with
    | some (p, v) => (valued? (plainName p) (plainName v)).map (·, false)
    | Option.none => (named? (plainName s)).map (·, false)

/-! ## The classes of ASCII -/

def asciiDigit : Class := .written "30-39"
def asciiSpace : Class := .written "9-D 20"
def asciiWord : Class := .written "30-39 41-5A 5F 61-7A"

/-- What the name in `[:alpha:]` and the like stands for. -/
def ascii? (name : String) : Option Class :=
  match name with
  | "alnum"  => some (.written "30-39 41-5A 61-7A")
  | "alpha"  => some (.written "41-5A 61-7A")
  | "ascii"  => some (.written "0-7F")
  | "blank"  => some (.written "9 20")
  | "cntrl"  => some (.written "0-1F 7F")
  | "digit"  => some asciiDigit
  | "graph"  => some (.written "21-7E")
  | "lower"  => some (.written "61-7A")
  | "print"  => some (.written "20-7E")
  | "punct"  => some (.written "21-2F 3A-40 5B-60 7B-7E")
  | "space"  => some asciiSpace
  | "upper"  => some (.written "41-5A")
  | "word"   => some asciiWord
  | "xdigit" => some (.written "30-39 41-46 61-66")
  | _        => Option.none

end Class
end Pattern
end RecordHold
