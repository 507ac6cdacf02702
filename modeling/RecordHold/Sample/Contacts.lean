import RecordHold.Hold
import RecordHold.Sample.People
/-!
# Sample.Contacts — records with a field that may be absent

A contact has a name and a nickname, and both have an index.  A contact whose nickname is empty has none, so it cannot
be indexed, and one whose name is empty refuses to be stored.  In a hold with two contacts of one name, updating one of
them to one without a nickname fails when the old one is out of the indexes and the new name is in.
-/
namespace RecordHold
namespace Sample

def contact : RowType UserValue where
  bucket  := "Contact"
  columns := [("name", .string), ("nick", .string)]
  field   := fun cells name =>
    match name, cells with
    | "Name", [name, _]        => some (.plain name)
    | "Nick", [_, .string ""]  => none
    | "Nick", [_, nick]        => some (.plain nick)
    | _,      _                => none
  indexes := ["Name", "Nick"]
  refuses := fun cells => if cells.head? = some (.string "") then some "no name" else none

def timothy : Record contact.type := .ofCells [.string "Timothy", .string "Tim"] (by decide)
def otherTimothy : Record contact.type := .ofCells [.string "Timothy", .string "Timmy"] (by decide)
def nameless : Record contact.type := .ofCells [.string "Ann", .string ""] (by decide)

def nobody : Record contact.type := .ofCells [.string "", .string "Nobody"] (by decide)

def contacts : Buckets :=
  (Write.runOn (do
    Hold.insert stepwise firstKey timothy
    Hold.insert stepwise secondKey otherTimothy) SortedMap.empty).2

end Sample
end RecordHold
