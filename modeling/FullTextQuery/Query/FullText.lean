import FullTextQuery.Query.Token

/-!
The full-text query that is the result: prefixed tokens as text. Tokens are joined by spaces, and
then the spaces settle: each symbol moves to the term on its right, brackets lose their padding,
and the mark of OR goes, since a term without a mark is optional.
-/

namespace FullTextQuery.FullText

open Text

/-- The texts of tokens with a space between neighbours. -/
def joinTokens (tokens : List Token) : Text :=
  join [' '] (tokens.map Token.text)

/-- Moves the space after every `mark` to its front. -/
def attach (mark : Char) : Text → Text
  | a :: b :: rest =>
    if a = mark ∧ b = ' ' then ' ' :: mark :: attach mark rest else a :: attach mark (b :: rest)
  | text => text

/-- Drops a space before a closing bracket. -/
def tightenClosing : Text → Text
  | [] => []
  | c :: rest =>
    if c = ' ' ∧ rest.head? = some ')' then tightenClosing rest else c :: tightenClosing rest

/-- Drops a space after an opening bracket. -/
def tightenOpening : Text → Text
  | a :: b :: rest =>
    if a = '(' ∧ b = ' ' then '(' :: tightenOpening rest else a :: tightenOpening (b :: rest)
  | text => text

/-- Settles the spaces of joined tokens. -/
def settle (joined : Text) : Text :=
  let attached := attach Operator.or.symbol (attach Operator.and.symbol
    (attach Operator.not.symbol joined))
  let tight := tightenOpening (tightenClosing (squeezeBlanks attached))
  trim (tight.filter (· != Operator.or.symbol))

/-- The full-text query that prefixed tokens spell. -/
def ofTokens (tokens : List Token) : Text :=
  settle (joinTokens tokens)

end FullTextQuery.FullText
