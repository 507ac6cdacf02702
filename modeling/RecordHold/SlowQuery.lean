import RecordHold.Config.Basic
/-!
# SlowQuery — which queries count as slow

A query is slow when it ran for at least the threshold; a threshold of zero means that none is.
-/
namespace RecordHold

def LogSettings.slowThreshold (s : LogSettings) : Option Nat :=
  if s.slowQueryMs = 0 then none else some s.slowQueryMs.toNat

/-- Is a query slow that ran for so many milliseconds? -/
def isSlow (threshold : Option Nat) (elapsed : Nat) : Bool := threshold.any (· ≤ elapsed)

end RecordHold
