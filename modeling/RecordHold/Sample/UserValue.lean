import RecordHold.Value
/-!
# Sample.UserValue — a caller's own values

Two kinds of value that a caller might bring along.  Versions compare with versions only.  A threshold compares with
thresholds and with 64-bit signed integers, and with nothing else.
-/
namespace RecordHold

inductive UserValue where
  | version (major minor : Nat)
  | threshold (limit : Int)
deriving DecidableEq, Repr

namespace UserValue

protected def compare : UserValue → Value UserValue → Except QueryError Ordering
  | version a b, .custom (.version c d)  => .ok ((Ord.compare a c).then (Ord.compare b d))
  | version _ _, _                       => .error (.uncomparable "Version" "other")
  | threshold n, .plain (.int .i64 i)    => .ok (Ord.compare n i.val)
  | threshold n, .custom (.threshold m)  => .ok (Ord.compare n m)
  | threshold _, .plain s                => .error (.uncomparable "Threshold" s.kind.name)
  | threshold _, .custom (.version _ _)  => .error (.uncomparable "Threshold" "custom")

def text : UserValue → String
  | version a b => "v" ++ toString a ++ "." ++ toString b
  | threshold n => "T" ++ toString n

def inspect : UserValue → String
  | version a b => "Version \x7b major: " ++ toString a ++ ", minor: " ++ toString b ++ " \x7d"
  | threshold n => "Threshold(" ++ toString n ++ ")"

instance : Custom UserValue := ⟨UserValue.compare, UserValue.text, UserValue.inspect⟩

end UserValue
end RecordHold
