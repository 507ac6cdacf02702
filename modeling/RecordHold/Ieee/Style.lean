import RecordHold.Ieee.Decimal
/-!
# Ieee.Style — how a float is written

A float is written as its shortest decimal.  A `Style` holds what is left open: which exponents are written out
in plain digits, whether an integral value keeps a `.0`, and where an exact tie between two shortest decimals goes.
-/
namespace RecordHold
namespace Ieee

structure Style where
  plain     : Int → Bool
  pointZero : Bool
  tie       : Tie

/-- For people: plain digits whatever the size, integral values without a point. -/
def Style.display : Style := ⟨fun _ => true, false, .up⟩

/-- For diagnostics: plain digits from `0.0001` to below `10 ^ 16`. -/
def Style.inspect : Style := ⟨fun e => decide (-4 ≤ e ∧ e < 16), true, .up⟩

def digitChar (d : Nat) : Char := Char.ofNat (48 + d)

def Style.plainText (s : Style) (d : Decimal) : List Char :=
  let (whole, fraction) := d.split
  let tail := if fraction = [] ∧ s.pointZero then [0] else fraction
  whole.map digitChar ++ (if tail = [] then [] else '.' :: tail.map digitChar)

def exponentText (d : Decimal) : List Char :=
  let head := match d.digits with
    | []     => ['0']
    | [a]    => [digitChar a]
    | a :: t => digitChar a :: '.' :: t.map digitChar
  head ++ 'e' :: (if d.exponent < 0 then ['-'] else []) ++ Nat.toDigits 10 d.exponent.natAbs

/-- The text of any bit pattern. -/
def Format.text (f : Format) (s : Style) (bits : Nat) : List Char :=
  let mag := f.magnitude bits
  let sign := if f.isNegative bits then ['-'] else []
  if f.infinity < mag then ['N', 'a', 'N']
  else if mag = f.infinity then sign ++ ['i', 'n', 'f']
  else if mag = 0 then sign ++ s.plainText ⟨[0], 0⟩
  else
    let d := f.shortest s.tie mag
    sign ++ (if s.plain d.exponent then s.plainText d else exponentText d)

end Ieee
end RecordHold
