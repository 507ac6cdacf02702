import RecordHold.Hold
import RecordHold.Sample.Records
/-!
# Sample.People — a hold with three people

Three people under keys of one byte each, two of one name and two of one age.  Two queries have a branch that meets
some of them again, and one fails midway.  A second state has the same people under an index that is not consistent.
-/
namespace RecordHold
namespace Sample

def tim : Record person.type := .ofCells [.string "Tim", .int .u32 ⟨30, by decide⟩] (by decide)
def ann : Record person.type := .ofCells [.string "Ann", .int .u32 ⟨41, by decide⟩] (by decide)
def elderTim : Record person.type := .ofCells [.string "Tim", .int .u32 ⟨41, by decide⟩] (by decide)

def firstKey : Key := .scalar (.int .u8 ⟨1, by decide⟩)
def secondKey : Key := .scalar (.int .u8 ⟨2, by decide⟩)
def thirdKey : Key := .scalar (.int .u8 ⟨3, by decide⟩)

/-- An executor that reads one entry at a time. -/
def stepwise : Executor UserValue := (Executor.ofCodec .binary).withBatchSize 1

def people : Buckets :=
  (Write.runOn (do
    Hold.insert stepwise firstKey tim
    Hold.insert stepwise secondKey ann
    Hold.insert stepwise thirdKey elderTim) SortedMap.empty).2

/-- The same people, under an index of names that is not consistent: it lists a key under two names, one twice under one
name, and one that has no record. -/
def tangled : Buckets :=
  (Write.runOn (do
    Index.store .binary "_index:Person:Name" (IndexKey.ofScalar (.string "Ann")) ⟨[[2], [1]]⟩
    Index.store .binary "_index:Person:Name" (IndexKey.ofScalar (.string "Tim")) ⟨[[3], [1], [1], [9]]⟩) people).2

/-- A policy whose ranges overlap. -/
def overlapping : Policy UserValue := fun _ => some [.all, .all]

/-- Everybody whose name is from B on, found by the index of names, or whose age is 41. -/
def lateOrOlder : Query UserValue :=
  .node ((Clause.empty.nominate "Name").add "Name" (.relates .ge (.plain (.string "B"))))
    [.node (Clause.empty.add "Age" (.relates .eq (.plain (.int .i64 ⟨41, by decide⟩)))) []]

/-- Everybody with a key up to two, found by the index of names, or from two on. -/
def aroundTwo : Query UserValue :=
  .node ((Clause.empty.nominate "Name").add keyField (.relates .le (.plain (.int .u8 ⟨2, by decide⟩))))
    [.node (Clause.empty.add keyField (.relates .ge (.plain (.int .u8 ⟨2, by decide⟩)))) []]

/-- Everybody, up to the first of age 41, on whom the predicate fails. -/
def untilElder : Query UserValue :=
  .node (Clause.empty.add "Age" (.satisfies (fun v => if v.text = "41" then .error "too old" else .ok true))) []

end Sample
end RecordHold
