/-!
# Config.Toml — TOML documents

A document is a table; a table maps names to values.  The values that no setting takes are kept only as far as
telling them apart needs.

Tables grow while a document is read, and how a table came about decides how it may grow on (`Growing`): a header
defines its table once and makes the tables on the way to it *implicit*, a dotted key makes its tables *dotted*, and
a value is closed.  A header may define an implicit table that is not dotted; a dotted key goes through
implicit tables only and may add to dotted ones only.
-/
namespace RecordHold

inductive Toml where
  | string (s : String)
  | integer (i : Int)
  | float
  | boolean (b : Bool)
  | datetime
  | array (items : List Toml)
  | table (entries : List (String × Toml))

namespace Toml

/-- What stands under a name while a document is read. -/
inductive Growing where
  | value (v : Toml)
  | table (implicit dotted : Bool) (entries : List (String × Growing))
  | tables (elements : List (List (String × Growing)))

abbrev Entries := List (String × Growing)

namespace Growing

mutual
def close : Growing → Toml
  | value v       => v
  | table _ _ es  => .table (closeEntries es)
  | tables ts     => .array (closeTables ts)

def closeEntries : List (String × Growing) → List (String × Toml)
  | []          => []
  | (k, g) :: t => (k, close g) :: closeEntries t

def closeTables : List (List (String × Growing)) → List Toml
  | []      => []
  | es :: t => .table (closeEntries es) :: closeTables t
end

/-- Put an item under a name, in its old place if the name is there. -/
def assign (k : String) (g : Growing) : Entries → Entries
  | []          => [(k, g)]
  | (j, h) :: t => if j = k then (k, g) :: t else (j, h) :: assign k g t

/-- Change the table at the end of a path, making the tables on the way that are missing.  `change` sees whether
the table is dotted. -/
def descend (dotted : Bool) (change : Bool → Entries → Option Entries) :
    List String → Bool → Entries → Option Entries
  | [],      here, es => change here es
  | k :: ks, _,    es =>
    match es.lookup k with
    | none => (descend dotted change ks dotted []).map (fun sub => assign k (.table true dotted sub) es)
    | some (.value _) => none
    | some (.table implicit d sub) =>
      if dotted ∧ !implicit then none
      else (descend dotted change ks d sub).map (fun sub => assign k (.table implicit d sub) es)
    | some (.tables ts) =>
      match ts.getLast? with
      | none     => none
      | some sub => (descend dotted change ks false sub).map (fun sub => assign k (.tables (ts.dropLast ++ [sub])) es)

/-- A key, maybe dotted, and its value, added to a table. -/
def addValue (path : List String) (v : Toml) (es : Entries) : Option Entries :=
  match path.getLast? with
  | none   => none
  | some k =>
    let way := path.dropLast
    descend true (fun dotted sub =>
      if dotted = way.isEmpty ∨ (sub.lookup k).isSome then none else some (sub ++ [(k, .value v)])) way false es

/-- The table a header defines. -/
def openTable (path : List String) (es : Entries) : Option Entries :=
  match path.getLast? with
  | none   => none
  | some k =>
    descend false (fun _ sub =>
      match sub.lookup k with
      | none                         => some (sub ++ [(k, .table false false [])])
      | some (.table true false old) => some (assign k (.table false false old) sub)
      | some _                       => none) path.dropLast false es

/-- One more table in the array that a double header names. -/
def openElement (path : List String) (es : Entries) : Option Entries :=
  match path.getLast? with
  | none   => none
  | some k =>
    descend false (fun _ sub =>
      match sub.lookup k with
      | none              => some (sub ++ [(k, .tables [[]])])
      | some (.tables ts) => some (assign k (.tables (ts ++ [[]])) sub)
      | some _            => none) path.dropLast false es

/-- A key and its value, added to the table under the last header. -/
def addUnder (header path : List String) (v : Toml) (es : Entries) : Option Entries :=
  descend false (fun _ sub => addValue path v sub) header false es

end Growing
end Toml
end RecordHold
