import FullTextQuery.Query.Operator

/-!
Tokens: terms by their part in a query. An operator may be spelled by keyword or by symbol, and
the text of a token is the text of the term it was read from.
-/

namespace FullTextQuery

/-- A term with its part in the query. -/
inductive Token where
  /-- A word to search for, which may end in wildcards. -/
  | operand (text : Text)
  /-- A phrase, known by its opening quote. -/
  | phrase (text : Text)
  /-- An operator spelled as a word. -/
  | keyword (operator : Operator)
  /-- An operator spelled as a mark. -/
  | symbol (operator : Operator)
  /-- The bracket that opens a group. -/
  | opening
  /-- The bracket that closes a group. -/
  | closing
deriving DecidableEq, Repr

namespace Token

/-- The token that a term stands for. Keywords are lower case: a term in capitals is an operand. -/
def ofTerm (term : Text) : Token :=
  if term = Operator.and.keyword then .keyword .and
  else if term = Operator.or.keyword then .keyword .or
  else if term = Operator.not.keyword then .keyword .not
  else if term = ['('] then .opening
  else if term = [')'] then .closing
  else if term = [Operator.and.symbol] then .symbol .and
  else if term = [Operator.or.symbol] then .symbol .or
  else if term = [Operator.not.symbol] then .symbol .not
  else if term.head? = some '\"' then .phrase term
  else .operand term

/-- The text of a token. -/
def text : Token → Text
  | .operand text | .phrase text => text
  | .keyword operator => operator.keyword
  | .symbol operator => [operator.symbol]
  | .opening => ['(']
  | .closing => [')']

/-- The operator that a token spells, either way. -/
def operator? : Token → Option Operator
  | .keyword operator | .symbol operator => some operator
  | _ => none

/-- Whether a token spells an operator. -/
def isOperator (token : Token) : Bool :=
  token.operator?.isSome

/-- Whether a token spells AND or OR. -/
def isConnective (token : Token) : Bool :=
  token.operator?.any Operator.isConnective

/-- Whether a token spells NOT. -/
def isNot (token : Token) : Bool :=
  token.operator? == some .not

end Token

end FullTextQuery
