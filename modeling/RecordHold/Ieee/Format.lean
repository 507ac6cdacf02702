/-!
# Ieee.Format — binary floating point as bit patterns

A float is its bit pattern, a natural number; no machine float occurs.  A pattern is a sign bit above a
*magnitude*, and magnitudes are ordered as the absolute values they stand for: the finite ones from zero up,
then infinity, then the NaNs.  A finite magnitude stands for `m · 2 ^ q` (`decode`), and every operation works
on that exact value and rounds once at the end, to nearest with ties to even (`nearest`).

`compareTotal` is the total order of the standard: by sign, then by magnitude, the negative half reversed.
-/
namespace RecordHold
namespace Ieee

/-- A binary interchange format: `precision` counts the significant bits, the hidden one included. -/
structure Format where
  precision     : Nat
  exponentWidth : Nat
deriving DecidableEq, Repr

def binary32 : Format := ⟨24, 8⟩
def binary64 : Format := ⟨53, 11⟩

namespace Format

/-- The weight of the sign bit, and so the number of magnitudes. -/
def signBit (f : Format) : Nat := 1 <<< (f.precision - 1 + f.exponentWidth)

/-- How many magnitudes share one exponent. -/
def binade (f : Format) : Nat := 1 <<< (f.precision - 1)

def infinity (f : Format) : Nat := (1 <<< f.exponentWidth - 1) * f.binade

/-- The exponent of the last bit of the smallest numbers. -/
def minExponent (f : Format) : Int := 3 - (1 <<< (f.exponentWidth - 1) : Nat) - (f.precision : Int)

def isNegative (f : Format) (bits : Nat) : Bool := decide (f.signBit ≤ bits)
def magnitude (f : Format) (bits : Nat) : Nat := bits % f.signBit
def isNaN (f : Format) (bits : Nat) : Bool := decide (f.infinity < f.magnitude bits)
def isFinite (f : Format) (bits : Nat) : Bool := decide (f.magnitude bits < f.infinity)

def withSign (f : Format) (negative : Bool) (mag : Nat) : Nat := if negative then f.signBit + mag else mag

/-- The `m` and `q` of a finite magnitude, which stands for `m · 2 ^ q`. -/
def decode (f : Format) (mag : Nat) : Nat × Int :=
  if mag < f.binade then (mag, f.minExponent)
  else (f.binade + mag % f.binade, f.minExponent + (mag / f.binade - 1 : Nat))

end Format

/-! ## Rounding

`nearest` takes a positive quotient.  It fixes the exponent of the last bit kept — the one that leaves exactly
`precision` bits, or the smallest the format has — divides exactly, and lets the remainder decide. -/

/-- `num / den · 2 ^ (-e)`, as a quotient of naturals again. -/
def scaleDown (num den : Nat) (e : Int) : Nat × Nat :=
  if e < 0 then (num <<< e.natAbs, den) else (num, den <<< e.natAbs)

/-- The largest `k` with `2 ^ k ≤ num / den`. -/
def floorLog2 (num den : Nat) : Int :=
  let k : Int := (Nat.log2 num : Int) - Nat.log2 den
  let (n, d) := scaleDown num den k
  if d ≤ n then k else k - 1

/-- The natural number nearest to a quotient, a half going to the even neighbour. -/
def roundHalfEven (num den : Nat) : Nat :=
  let q := num / den
  let r := num % den
  if den < 2 * r ∨ (2 * r = den ∧ q % 2 = 1) then q + 1 else q

/-- The magnitude nearest to a quotient, a half going to the even neighbour and what is too large to infinity. -/
def Format.nearest (f : Format) (num den : Nat) : Nat :=
  if num = 0 then 0 else
    let e := max f.minExponent (floorLog2 num den - (f.precision - 1 : Nat))
    let (n, d) := scaleDown num den e
    min f.infinity ((e - f.minExponent).toNat * f.binade + roundHalfEven n d)

/-- The magnitude nearest to `m · 2 ^ q`. -/
def Format.nearestScaled (f : Format) (m : Nat) (q : Int) : Nat :=
  let (n, d) := scaleDown m 1 (-q)
  f.nearest n d

/-- The pattern nearest to an integer. -/
def Format.ofInt (f : Format) (i : Int) : Nat :=
  f.withSign (decide (i < 0)) (f.nearest i.natAbs 1)

/-- The product of two finite magnitudes. -/
def Format.mul (f : Format) (a b : Nat) : Nat :=
  let (m, q) := f.decode a
  let (n, r) := f.decode b
  f.nearestScaled (m * n) (q + r)

/-- The quotient of two finite magnitudes, the second not zero. -/
def Format.div (f : Format) (a b : Nat) : Nat :=
  let (m, q) := f.decode a
  let (n, r) := f.decode b
  let (x, y) := scaleDown m n (r - q)
  f.nearest x y

/-- A pattern carried over to another format; a NaN keeps its sign and its leading payload bits and is quiet. -/
def Format.convert (f g : Format) (bits : Nat) : Nat :=
  let mag := f.magnitude bits
  g.withSign (f.isNegative bits) <|
    if mag < f.infinity then
      let (m, q) := f.decode mag
      g.nearestScaled m q
    else if mag = f.infinity then g.infinity
    else
      let payload := mag % f.binade
      let moved := payload * g.binade / f.binade
      let quiet := g.binade / 2
      g.infinity + (if moved / quiet % 2 = 1 then moved else moved + quiet)

/-! ## Order and integer part -/

/-- The place of a pattern in the total order. -/
def Format.rank (f : Format) (bits : Nat) : Int :=
  if f.isNegative bits then -1 - (f.magnitude bits : Int) else f.magnitude bits

def Format.compareTotal (f : Format) (a b : Nat) : Ordering := compare (f.rank a) (f.rank b)

/-- The value with its fraction dropped, held between two bounds; NaN counts as zero. -/
def Format.truncate (f : Format) (low high : Int) (bits : Nat) : Int :=
  let mag := f.magnitude bits
  if f.infinity < mag then 0
  else if mag = f.infinity then (if f.isNegative bits then low else high)
  else
    let (m, q) := f.decode mag
    let whole : Nat := if q < 0 then m >>> q.natAbs else m <<< q.natAbs
    let v : Int := if f.isNegative bits then -(whole : Int) else whole
    max low (min high v)

end Ieee
end RecordHold
