import RecordHold.Ieee.Format
/-!
# Ieee.Decimal — the shortest decimal of a float

A positive finite float is the nearest one to every real of an interval around it, ends included when its
significand is even.  `shortest` looks for the decimal with the fewest digits in that interval.  On the grid of
`n`-digit decimals only the two neighbours of the exact value need a look: if any point of the grid lies in the
interval, so does one of them.  The first grid with a hit wins, and of two hits the nearer; which of two
equally near ones is a choice of the writer (`Tie`).

Everything is compared exactly, as quotients of naturals over one denominator.
-/
namespace RecordHold
namespace Ieee

/-- A positive decimal `d.ddd · 10 ^ exponent`: its digits, the first and the last not zero. -/
structure Decimal where
  digits   : List Nat
  exponent : Int
deriving DecidableEq, Repr

/-- A decimal's digits split at the point, with the zeros that plain notation needs. -/
def Decimal.split (d : Decimal) : List Nat × List Nat :=
  if d.exponent < 0 then ([0], List.replicate (d.exponent.natAbs - 1) 0 ++ d.digits)
  else
    let n := d.exponent.toNat + 1
    (d.digits.take n ++ List.replicate (n - d.digits.length) 0, d.digits.drop n)

/-- Where a value halfway between two decimals goes. -/
inductive Tie where
  | up
  | even
deriving DecidableEq, Repr

def tenTo (k : Nat) : Nat := Nat.pow 10 k

def digitsOf (n : Nat) : List Nat := (Nat.toDigits 10 n).map (fun c => c.toNat - 48)

/-- The largest `k` with `10 ^ k ≤ num / den`. -/
def floorLog10 (num den : Nat) : Int :=
  if den ≤ num then ((digitsOf (num / den)).length : Int) - 1
  else -((digitsOf ((den - 1) / num)).length : Int)

def dropTrailingZeros (ds : List Nat) : List Nat := (ds.reverse.dropWhile (· == 0)).reverse

/-- The decimal `n · 10 ^ (exponent + 1 - places)`, where `n` has `places` digits or is the next power of ten. -/
def Decimal.ofGrid (n places : Nat) (exponent : Int) : Decimal :=
  let ds := digitsOf n
  ⟨dropTrailingZeros ds, exponent + (ds.length - places : Nat)⟩

/-- The interval around a value and the value itself, as numerators over `den`. -/
structure Neighbourhood where
  low    : Nat
  value  : Nat
  high   : Nat
  den    : Nat
  closed : Bool

def Neighbourhood.contains (v : Neighbourhood) (x : Nat) : Bool :=
  if v.closed then decide (v.low ≤ x ∧ x ≤ v.high) else decide (v.low < x ∧ x < v.high)

/-- The reals nearer to a positive finite magnitude than to its neighbours.  Below a power of two the
neighbour is only half as far away. -/
def Format.neighbourhood (f : Format) (mag : Nat) : Neighbourhood :=
  let (m, q) := f.decode mag
  let down := if m = f.binade ∧ f.binade < mag then 1 else 2
  let (scale, den) := scaleDown 1 1 (2 - q)
  ⟨(4 * m - down) * scale, 4 * m * scale, (4 * m + 2) * scale, den, m % 2 = 0⟩

/-- The nearer hit among the two neighbours of the value on the grid of `places`-digit decimals. -/
def onGrid (tie : Tie) (v : Neighbourhood) (exponent : Int) (places : Nat) : Option Nat :=
  let (unit, scale) := scaleTen (exponent + 1 - places)
  let grid := unit * v.den
  let down := v.value * scale / grid
  let rest := v.value * scale % grid
  let hit (n : Nat) : Bool := { v with low := v.low * scale, high := v.high * scale }.contains (n * grid)
  match hit down, hit (down + 1) with
  | true,  false => some down
  | false, true  => some (down + 1)
  | false, false => none
  | true,  true  =>
    if 2 * rest < grid then some down
    else if grid < 2 * rest then some (down + 1)
    else match tie with
      | .up   => some (down + 1)
      | .even => some (if down % 2 = 0 then down else down + 1)
where
  scaleTen (e : Int) : Nat × Nat := if e < 0 then (1, tenTo e.natAbs) else (tenTo e.natAbs, 1)

/-- Try the grids of `places`, `places + 1`, … digits, `tries` of them. -/
def searchGrids (tie : Tie) (v : Neighbourhood) (exponent : Int) : Nat → Nat → Decimal
  | 0,         places => .ofGrid (v.value / v.den) places exponent
  | tries + 1, places =>
    match onGrid tie v exponent places with
    | some n => .ofGrid n places exponent
    | none   => searchGrids tie v exponent tries (places + 1)

/-- The shortest decimal of a positive finite magnitude. -/
def Format.shortest (f : Format) (tie : Tie) (mag : Nat) : Decimal :=
  let v := f.neighbourhood mag
  searchGrids tie v (floorLog10 v.value v.den) 20 1

end Ieee
end RecordHold
