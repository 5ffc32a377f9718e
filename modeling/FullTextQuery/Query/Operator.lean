import FullTextQuery.Text

/-!
The boolean operators, in the three forms they take: a keyword in the query, a symbol in front of
a term, and a rank that decides which of several symbols in front of one term counts.
-/

namespace FullTextQuery

/-- A boolean operator. -/
inductive Operator where
  /-- Both sides are required. -/
  | and
  /-- Either side is enough. -/
  | or
  /-- What follows is excluded. -/
  | not
deriving DecidableEq, Repr

namespace Operator

/-- All operators. -/
def all : List Operator := [.and, .or, .not]

/-- The word that a query spells the operator with. -/
def keyword : Operator → Text
  | .and => ['a', 'n', 'd']
  | .or => ['o', 'r']
  | .not => ['n', 'o', 't']

/-- The mark in front of a term. That of OR is internal: in a full-text query a term without a
mark is optional. -/
def symbol : Operator → Char
  | .and => '+'
  | .or => '§'
  | .not => '-'

/-- AND and OR connect two sides; NOT has a right side only. -/
def isConnective : Operator → Bool
  | .and | .or => true
  | .not => false

/-- Of two operators in front of one term the stronger counts: NOT over OR, OR over AND. -/
def stronger : Operator → Operator → Operator
  | .not, _ | _, .not => .not
  | .or, _ | _, .or => .or
  | .and, .and => .and

end Operator

end FullTextQuery
