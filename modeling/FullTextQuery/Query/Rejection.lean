import FullTextQuery.Text

/-!
Why a query is rejected. There are two causes, and both end the conversion; every other oddity of
a query is normalised away.
-/

namespace FullTextQuery

/-- The cause for which a query cannot be converted. -/
inductive Rejection where
  /-- The clean text has an odd number of quotes. -/
  | oddQuotes (count : Nat)
  /-- A bracket closes before it opens, or a group is never closed. -/
  | unbalancedBrackets
deriving DecidableEq, Repr

namespace Rejection

/-- The name of a cause for programs. -/
def code : Rejection → Text
  | .oddQuotes _ => "QUOTE_IMBALANCE".toList
  | .unbalancedBrackets => "BRACKET_IMBALANCE".toList

/-- The description of a cause for people. -/
def message : Rejection → Text
  | .oddQuotes count =>
    "unbalanced quotes: found ".toList ++ (toString count).toList ++ " '\"' character(s)".toList
  | .unbalancedBrackets => "unbalanced brackets".toList

end Rejection

end FullTextQuery
