/-!
# Ranges of code points

Character classes beyond ASCII are given as ascending lists of closed ranges of code
points.  Membership is the only question that is ever asked of such a list.
-/

namespace SqlScenarios.Text

/-- Whether a code point lies in one of the closed ranges. -/
def inRanges (ranges : List (Nat × Nat)) (code : Nat) : Bool :=
  ranges.any fun range => range.1 ≤ code && code ≤ range.2

end SqlScenarios.Text
