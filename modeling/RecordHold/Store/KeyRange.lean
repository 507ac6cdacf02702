import RecordHold.Bytes
/-!
# Store.KeyRange — ranges of keys

A range is two bounds, each absent, included or excluded.  A range is *crossed* when its bounds leave an ordered
search no place to begin: the lower one above the upper, or both on one key and both excluded.  It is *degenerate*
when no key can fall inside, which every crossed range is (`isDegenerate_of_crossed`).
-/
namespace RecordHold

inductive Bound where
  | unbounded
  | included (key : Bytes)
  | excluded (key : Bytes)
deriving DecidableEq, Repr

structure KeyRange where
  lower : Bound
  upper : Bound
deriving DecidableEq, Repr

namespace KeyRange

def all : KeyRange := ⟨.unbounded, .unbounded⟩

def exact (key : Bytes) : KeyRange := ⟨.included key, .included key⟩

/-- The rest of the range strictly after a key read from it. -/
def resumeAfter (r : KeyRange) : Option Bytes → KeyRange
  | some key => ⟨.excluded key, r.upper⟩
  | none     => r

def aboveLower (key : Bytes) : Bound → Bool
  | .unbounded  => true
  | .included k => compare k key != .gt
  | .excluded k => compare k key == .lt

def belowUpper (key : Bytes) : Bound → Bool
  | .unbounded  => true
  | .included k => compare key k != .gt
  | .excluded k => compare key k == .lt

def contains (r : KeyRange) (key : Bytes) : Bool := aboveLower key r.lower && belowUpper key r.upper

def isDegenerate (r : KeyRange) : Bool :=
  match r.lower, r.upper with
  | .included s, .included e => compare s e == .gt
  | .included s, .excluded e => compare s e != .lt
  | .excluded s, .included e => compare s e != .lt
  | .excluded s, .excluded e => compare s e != .lt
  | _,           _           => false

def crossed (r : KeyRange) : Bool :=
  match r.lower, r.upper with
  | .included s, .included e => compare s e == .gt
  | .included s, .excluded e => compare s e == .gt
  | .excluded s, .included e => compare s e == .gt
  | .excluded s, .excluded e => compare s e != .lt
  | _,           _           => false

theorem isDegenerate_of_crossed (r : KeyRange) (h : r.crossed = true) : r.isDegenerate = true := by
  obtain ⟨lower, upper⟩ := r
  cases lower <;> cases upper <;> simp_all [crossed, isDegenerate]

theorem not_crossed (r : KeyRange) (h : ¬ r.isDegenerate = true) : r.crossed = false := by
  cases hc : r.crossed
  · rfl
  · exact absurd (isDegenerate_of_crossed r hc) h

end KeyRange
end RecordHold
