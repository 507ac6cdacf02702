import RecordHold.Bytes
/-!
# KeyList — a sorted set of primary keys

The keys a query has handled so far, and the keys stored under one index entry.  A list built by `insert` and
`remove` ascends strictly.  One read from storage is taken as it is, so nothing here relies on the order: every
operation goes through one binary search (`position`), which always halves the same way and compares once more at
the end, and whose answer on an unsorted list is just as definite.
-/
namespace RecordHold

structure KeyList where
  keys : List Bytes
deriving DecidableEq, Repr

namespace KeyList

def empty : KeyList := ⟨[]⟩

/-- Where the last key not above `key` is, if it is among the `size` keys from `base` on and they ascend. -/
def probe (keys : List Bytes) (key : Bytes) : Nat → Nat → Nat → Nat
  | 0,        base, _    => base
  | fuel + 1, base, size =>
    if size ≤ 1 then base
    else
      let mid := base + size / 2
      match keys[mid]? with
      | some k => probe keys key fuel (if compare k key = .gt then base else mid) (size - size / 2)
      | none   => base

inductive Position where
  | found (i : Nat)
  | absent (i : Nat)
deriving DecidableEq, Repr

/-- Where `key` is, or else where it belongs. -/
def position (l : KeyList) (key : Bytes) : Position :=
  let i := probe l.keys key l.keys.length 0 l.keys.length
  match l.keys[i]? with
  | none   => .absent 0
  | some k =>
    match compare k key with
    | .eq => .found i
    | .lt => .absent (i + 1)
    | .gt => .absent i

def contains (l : KeyList) (key : Bytes) : Bool :=
  match l.position key with
  | .found _  => true
  | .absent _ => false

/-- The list with `key` in it, and whether it was absent before. -/
def insert (l : KeyList) (key : Bytes) : Bool × KeyList :=
  match l.position key with
  | .found _  => (false, l)
  | .absent i => (true, ⟨l.keys.take i ++ key :: l.keys.drop i⟩)

/-- The list without `key`, and whether it was present before. -/
def remove (l : KeyList) (key : Bytes) : Bool × KeyList :=
  match l.position key with
  | .found i  => (true, ⟨l.keys.take i ++ l.keys.drop (i + 1)⟩)
  | .absent _ => (false, l)

def extend (l : KeyList) (keys : List Bytes) : KeyList := keys.foldl (fun l k => (l.insert k).2) l

def length (l : KeyList) : Nat := l.keys.length
def isEmpty (l : KeyList) : Bool := l.keys.isEmpty

end KeyList
end RecordHold
