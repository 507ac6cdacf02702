import RecordHold.Config.TomlRead
/-!
# Config.TomlWrite — writing plain TOML documents

A plain document is a row of tables whose values are whole numbers and words.  Each table stands under its header, each
value on a line of its own, and a blank line parts one table from the next.  Names need no quotes and words no escapes, and
no name stands twice in one place; that is part of their types.

TOML's integers have 64 bits with their sign, so a larger number cannot be written, and neither can what it stands in.
Nothing else fails.
-/
namespace RecordHold
namespace Toml

/-- A name that stands without quotes. -/
structure BareName where
  text : String
  bare : text.toList ≠ [] ∧ text.toList.all isBareKey = true

/-- Whether a character stands between quotes as it is. -/
def isPlain (c : Char) : Bool := isVisible c && c != '"' && c != '\\'

/-- A string that stands between quotes as it is. -/
structure Word where
  text  : String
  plain : text.toList.all isPlain = true

inductive Plain where
  | number (n : Nat)
  | word (w : Word)

structure PlainTable where
  name     : BareName
  rows     : List (BareName × Plain)
  distinct : (rows.map (fun e => e.1.text)).Nodup

structure PlainDocument where
  tables   : List PlainTable
  distinct : (tables.map (fun t => t.name.text)).Nodup

def Plain.write : Plain → Option (List Char)
  | number n => if IntType.i64.holds n then some (Nat.toDigits 10 n) else none
  | word w   => some ('"' :: w.text.toList ++ ['"'])

/-- A name and its value, on a line. -/
def writeRow (e : BareName × Plain) : Option (List Char) :=
  e.2.write.map (fun s => e.1.text.toList ++ ' ' :: '=' :: ' ' :: s ++ ['\n'])

/-- One text after the other, if all can be written. -/
def writeAll {α : Type} (write : α → Option (List Char)) : List α → Option (List Char)
  | []     => some []
  | a :: l => (write a).bind (fun s => (writeAll write l).map (s ++ ·))

def PlainTable.write (t : PlainTable) : Option (List Char) :=
  (writeAll writeRow t.rows).map (fun s => '[' :: t.name.text.toList ++ ']' :: '\n' :: s)

def PlainDocument.write (d : PlainDocument) : Option String :=
  match d.tables with
  | []      => some ""
  | t :: ts => (t.write.bind (fun s => (writeAll (fun t => t.write.map ('\n' :: ·)) ts).map (s ++ ·))).map String.ofList

end Toml
end RecordHold
