import RecordHold.IndexKey
import RecordHold.Query.Criterion
import RecordHold.Store.KeyRange
/-!
# Query.Plan — which part of an index a scan has to walk

A policy looks at the criteria on the nominated field and gives the ranges of index keys that hold every
candidate, in ascending order, or declines.  A clause whose policy gives ranges is *narrowed*: its criteria on the
nominated field hold for every candidate and are not asked again.

`Policy.ranges` narrows on a single criterion that compares or looks in a list.  A relational range stays within
the family of its operand, since values of other families do not compare with it.
-/
namespace RecordHold

abbrev Policy (γ : Type) := List (Criterion γ) → Option (List KeyRange)

namespace Policy
variable {γ : Type}

/-- The scalars among the operands, if all are. -/
def scalars : List (Value γ) → Option (List Scalar)
  | []            => some []
  | .plain s :: t => (scalars t).map (s :: ·)
  | .custom _ :: _ => none

/-- The keys of a list in ascending order, each once. -/
def distinctKeys (l : List Scalar) : List Bytes :=
  ((l.map IndexKey.ofScalar).mergeSort (fun a b => compare a b != .gt)).eraseReps

def relationRange (r : Relation) (s : Scalar) : Option KeyRange :=
  let key := IndexKey.ofScalar s
  match r with
  | .eq => some (.exact key)
  | .ne => none
  | .gt => some ⟨.excluded key, .excluded (IndexKey.familyEnd s.kind)⟩
  | .ge => some ⟨.included key, .excluded (IndexKey.familyEnd s.kind)⟩
  | .lt => some ⟨.included (IndexKey.familyStart s.kind), .excluded key⟩
  | .le => some ⟨.included (IndexKey.familyStart s.kind), .included key⟩

def ranges : Policy γ
  | []                         => some [.all]
  | [.relates r (.plain s)]    => (relationRange r s).map ([·])
  | [.oneOf operands]          => (scalars operands).map (fun l => (distinctKeys l).map KeyRange.exact)
  | _                          => none

/-- Never narrow. -/
def full : Policy γ := fun _ => none

end Policy
end RecordHold
