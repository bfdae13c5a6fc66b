/-!
# Sets of characters

A set of code points is kept as the list of its closed ranges, in increasing order and apart from each
other, so that a look-up stops at the first range beyond the code point.
-/

namespace LlmTelemetry

/-- Closed ranges of code points in increasing order. -/
abbrev Ranges := List (Nat × Nat)

namespace Ranges

/-- Whether one of the ranges holds the code point. -/
def contains (code : Nat) : Ranges → Bool
  | [] => false
  | (first, last) :: rest =>
    if code < first then false
    else if code ≤ last then true
    else contains code rest

end Ranges

end LlmTelemetry
