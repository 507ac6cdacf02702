import RecordHold.Row
import RecordHold.Sample.UserValue
/-!
# Sample.Records — a caller's own record types

Record types of every make: with and without indexes, with a column of every kind, with an index on a field that
it does not have, with an empty bucket name or one of any other form, and with a field computed from a column.
-/
namespace RecordHold
namespace Sample

def person : RowType UserValue where
  bucket  := "Person"
  columns := [("name", .string), ("age", .int .u32)]
  field   := columnFields ["Name", "Age"]
  indexes := ["Name"]

def reading : RowType UserValue where
  bucket  := "Reading"
  columns := [("sensor", .string), ("level", .int .i32)]
  field   := columnFields ["Sensor", "Level"]
  indexes := ["Sensor", "Level"]

def item : RowType UserValue where
  bucket  := "Item"
  columns := [("sku", .string), ("stock", .int .u16), ("price", .f64)]
  field   := columnFields ["Sku", "Stock", "Price"]
  indexes := ["Sku", "Stock"]

def priced : Record item.type := .ofCells [.string "A-1", .int .u16 ⟨5, by decide⟩, .f64 0x4004000000000000] (by decide)

/-- An item whose price is `9.9e30`. -/
def dear : Record item.type := .ofCells [.string "A-1", .int .u16 ⟨5, by decide⟩, .f64 0x465F3D28041D14C8] (by decide)

/-- An item whose price is no number, with a payload. -/
def unpriced : Record item.type := .ofCells [.string "A-1", .int .u16 ⟨5, by decide⟩, .f64 0x7FF8000000000001] (by decide)

def wide : RowType UserValue where
  bucket  := "Wide"
  columns := [("flag", .bool), ("i8v", .int .i8), ("i16v", .int .i16), ("i32v", .int .i32), ("i64v", .int .i64),
    ("u8v", .int .u8), ("u16v", .int .u16), ("u32v", .int .u32), ("u64v", .int .u64), ("f32v", .f32),
    ("f64v", .f64), ("text", .string), ("raw", .bytes), ("at", .time)]
  field   := columnFields ["Flag", "I8", "I16", "I32", "I64", "U8", "U16", "U32", "U64", "F32", "F64", "Text",
    "Raw", "At"]
  indexes := ["Flag", "I64", "U64", "F32", "F64", "Text", "Raw", "At"]

/-- The last nanosecond of a leap second at the end of the year before the year 0. -/
def ancientLeap : Instant := ⟨-62167219201, 1999999999, by decide, by decide⟩

/-- Something of every kind, at that time; the 64-bit float is `9.9e30`. -/
def ancient : Record wide.type :=
  .ofCells [.bool true, .int .i8 ⟨-1, by decide⟩, .int .i16 ⟨-2, by decide⟩, .int .i32 ⟨-3, by decide⟩,
    .int .i64 ⟨-4, by decide⟩, .int .u8 ⟨5, by decide⟩, .int .u16 ⟨6, by decide⟩, .int .u32 ⟨7, by decide⟩,
    .int .u64 ⟨8, by decide⟩, .f32 0x3F800000, .f64 0x465F3D28041D14C8, .string "long ago", .bytes [0, 255],
    .time ancientLeap] (by decide)

def plain : RowType UserValue where
  bucket  := "Plain"
  columns := [("id", .int .u16)]
  field   := columnFields ["Id"]
  indexes := []

/-- Its index is on a field that it does not have. -/
def broken : RowType UserValue where
  bucket  := "Broken"
  columns := [("id", .int .u8)]
  field   := columnFields ["Id"]
  indexes := ["Missing"]

def noBucket : RowType UserValue where
  bucket  := ""
  columns := [("id", .int .u8)]
  field   := columnFields ["Id"]
  indexes := []

/-- Numbers in a bucket and under an index of any names. -/
def numbered (bucket field : String) : RowType UserValue where
  bucket  := bucket
  columns := [("id", .int .u8)]
  field   := columnFields [field]
  indexes := [field]

def number (bucket field : String) (i : IntOf .u8) : Record (numbered bucket field).type :=
  .ofCells [.int .u8 i] rfl

/-- Its field `V` is the value that the second column spells, in a notation of the caller's. -/
def mixed (spelled : String → Option (Value UserValue)) : RowType UserValue where
  bucket  := "Mixed"
  columns := [("tag", .string), ("v", .string)]
  field   := fun cells name =>
    match name, cells with
    | "Tag", [tag, _]       => some (.plain tag)
    | "V",   [_, .string v] => spelled v
    | _,     _              => none
  indexes := ["V"]

end Sample
end RecordHold
