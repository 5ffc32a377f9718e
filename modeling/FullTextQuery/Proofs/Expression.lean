import FullTextQuery.Query.Operator

/-!
# Search expressions

The expressions that the query language is for: items joined by juxtaposition, AND or OR, where an
item is a word, a word with a wildcard, a compound, a phrase or an expression in brackets, and may
be excluded by NOT. `Expression.spelling` is how an expression is typed, and `Expression.fullText`
the full-text query that it means.
-/

namespace FullTextQuery

/-- The characters of search words: small letters from a to z and digits. -/
def isWordChar (c : Char) : Bool :=
  c.isLower || c.isDigit

/-- A search word: small letters and digits that spell no operator. -/
structure Word where
  /-- Its characters. -/
  text : Text
  /-- There is at least one. -/
  notEmpty : text ≠ []
  /-- All are small letters or digits. -/
  plain : text.all isWordChar
  /-- The word is no keyword. -/
  notKeyword : ∀ operator ∈ Operator.all, text ≠ operator.keyword

/-- What joins two items. -/
inductive Connector where
  /-- Nothing but the space. -/
  | juxtaposition
  /-- The keyword AND. -/
  | and
  /-- The keyword OR. -/
  | or
deriving DecidableEq

/-- What stands between two items, without the space after it. -/
def Connector.spelling : Connector → Text
  | .juxtaposition => []
  | .and => ' ' :: Operator.and.keyword
  | .or => ' ' :: Operator.or.keyword

mutual

/-- What an item searches for. -/
inductive Atom where
  /-- A word. -/
  | word (word : Word)
  /-- A word with any ending. -/
  | wildcard (word : Word)
  /-- Two words joined by a hyphen. -/
  | compound (first second : Word)
  /-- Words in a row. -/
  | phrase (first : Word) (more : List Word)
  /-- An expression in brackets. -/
  | group (inner : Expression)

/-- Items and the connectors between them. An item is excluded if it is negated. -/
inductive Expression where
  /-- The last item. -/
  | last (negated : Bool) (atom : Atom)
  /-- An item that is joined to the next one. -/
  | joined (negated : Bool) (atom : Atom) (connector : Connector) (rest : Expression)

end

/-- The words of a phrase with its quotes. -/
def spellPhrase (first : Word) (more : List Word) : Text :=
  '\"' :: (Text.join [' '] ((first :: more).map Word.text) ++ ['\"'])

/-- What stands in front of an item. -/
def spellNegation (negated : Bool) : Text :=
  if negated then Operator.not.keyword ++ [' '] else []

mutual

/-- An atom as it is typed. -/
def Atom.spelling : Atom → Text
  | .word word => word.text
  | .wildcard word => word.text ++ ['*']
  | .compound first second => first.text ++ '-' :: second.text
  | .phrase first more => spellPhrase first more
  | .group inner => '(' :: (inner.spelling ++ [')'])

/-- An expression as it is typed, with single spaces. -/
def Expression.spelling : Expression → Text
  | .last negated atom => spellNegation negated ++ atom.spelling
  | .joined negated atom connector rest =>
    spellNegation negated ++ atom.spelling ++ connector.spelling ++ ' ' :: rest.spelling

end

/-- The prefix of an item: that of NOT if it is negated, none if an OR touches it, and that of AND
otherwise. -/
def itemPrefix (negated touchesOr : Bool) : Text :=
  if negated then ['-'] else if touchesOr then [] else ['+']

mutual

/-- An atom in a full-text query. -/
def Atom.fullText : Atom → Text
  | .word word => word.text
  | .wildcard word => word.text ++ ['*']
  | .compound first second => '\"' :: (first.text ++ '-' :: second.text ++ ['\"'])
  | .phrase first more => spellPhrase first more
  | .group inner => '(' :: (inner.fullTextFrom false ++ [')'])

/-- An expression in a full-text query. `orBefore` says that an OR stands right before it. -/
def Expression.fullTextFrom (orBefore : Bool) : Expression → Text
  | .last negated atom => itemPrefix negated orBefore ++ atom.fullText
  | .joined negated atom connector rest =>
    itemPrefix negated (orBefore || connector = .or) ++ atom.fullText ++
      ' ' :: rest.fullTextFrom (connector = .or)

end

/-- The full-text query that an expression means. -/
def Expression.fullText (expression : Expression) : Text :=
  expression.fullTextFrom false

end FullTextQuery
