/-!
Sets of characters given by ranges of code points. A property of characters is a table of such
ranges in increasing order, so a look-up stops at the first range that starts beyond the code
point it asks for.
-/

namespace FullTextQuery.Character

/-- Ranges of code points, both ends included, in increasing order. -/
abbrev CodeRanges := List (Nat × Nat)

/-- Whether a code point lies in one of the ranges; no range after one that starts beyond it is
read. -/
def CodeRanges.contains : CodeRanges → Nat → Bool
  | [], _ => false
  | (first, last) :: rest, n =>
    first ≤ n && (n ≤ last || CodeRanges.contains rest n)

end FullTextQuery.Character
