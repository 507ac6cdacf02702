import RecordHold.Time.Civil
/-!
# Time.Instant — a moment in UTC

Seconds since 1970-01-01 and nanoseconds within the second.  Nanoseconds from one billion up are those of a leap
second; any second may have them, though a clock has a second 60 only after the last second of a minute.  The years
run from -262143 to 262142.
-/
namespace RecordHold

def firstYear : Int := -262143
def lastYear : Int := 262142

/-- `-262143-01-01 00:00:00` -/
def firstSecond : Int := -8334601228800

/-- `+262142-12-31 23:59:59` -/
def lastSecond : Int := 8210266876799

example : firstSecond = Date.toDays ⟨firstYear, 1, 1⟩ * 86400 := by decide
example : lastSecond = (Date.toDays ⟨lastYear, 12, 31⟩ + 1) * 86400 - 1 := by decide

structure Instant where
  seconds  : Int
  nanos    : Nat
  in_range : firstSecond ≤ seconds ∧ seconds ≤ lastSecond
  nanos_lt : nanos < 2000000000
deriving DecidableEq, Repr

namespace Instant

def ofSeconds? (seconds : Int) (nanos : Nat) : Option Instant :=
  if h : (firstSecond ≤ seconds ∧ seconds ≤ lastSecond) ∧ nanos < 2000000000 then some ⟨seconds, nanos, h.1, h.2⟩
  else none

/-- 1970-01-01 00:00:00 -/
def epoch : Instant := ⟨0, 0, by decide, by decide⟩

def date (t : Instant) : Date := Date.ofDays (t.seconds / 86400)
def secondOfDay (t : Instant) : Nat := (t.seconds % 86400).toNat

protected def compare (a b : Instant) : Ordering := (compare a.seconds b.seconds).then (compare a.nanos b.nanos)

end Instant

end RecordHold
