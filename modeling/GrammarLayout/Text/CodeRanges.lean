/-!
# Sets of code points

A set of characters is written as its ranges of code points in ascending order.
-/

namespace GrammarLayout.Text

/-- Closed ranges `(first, last)` of code points, in ascending order. -/
abbrev CodeRanges := List (Nat × Nat)

namespace CodeRanges

/-- Whether a range holds the code point. The search ends at the first range above it. -/
def contains : CodeRanges → Nat → Bool
  | [], _ => false
  | (first, last) :: rest, n => first ≤ n && (n ≤ last || contains rest n)

end CodeRanges
end GrammarLayout.Text
