/-! Tables: characters by the codes that two bytes make. -/
namespace ScopedAnalytics.Charset

/-- A table. A run gives the first of consecutive codes with their characters, the replacement
character marking a code without one; all codes of a run have their first byte in common. A span
gives the first of consecutive codes, their number and the first of as many code points. -/
structure Table where
  runs : List (Nat × String)
  spans : List (Nat × Nat × Nat) := []

namespace Table

def code (first second : Nat) : Nat := first * 256 + second

def inRun? (run : Nat × String) (code : Nat) : Option Nat :=
  if run.1 / 256 = code / 256 ∧ run.1 ≤ code then
    ((run.2.toList[code - run.1]?).filter (· != '\uFFFD')).map Char.toNat
  else none

def inSpan? (span : Nat × Nat × Nat) (code : Nat) : Option Nat :=
  let (first,count,point) := span
  if first ≤ code ∧ code < first + count then some (point + (code - first)) else none

def point? (t : Table) (code : Nat) : Option Nat :=
  (t.runs.findSome? (inRun? · code)).or (t.spans.findSome? (inSpan? · code))

def pointIn? (tables : List Table) (code : Nat) : Option Nat := tables.findSome? (·.point? code)

end Table
end ScopedAnalytics.Charset
