import FullTextQuery.Character.Letter
import FullTextQuery.Text

/-!
Terms: what lexemes are merged into before operators are read. A term is a quoted phrase, a
compound `word-word` (which becomes a phrase), a word with its wildcards, a bracket or an operator
as it was written. Each merge is one walk over the list that holds back the piece it may still
have to change.
-/

namespace FullTextQuery.Term

/-- The quote that opens and closes a phrase. -/
def quote : Text := ['\"']

/-- The bracket that opens a group. -/
def opening : Text := ['(']

/-- The bracket that closes a group. -/
def closing : Text := [')']

/-! ## Phrases -/

/-- Merges what stands between two quotes, with the quotes, into one phrase. The first quote after
an opening one closes it; `phrase` is the phrase that is open, if any. -/
def mergePhrasesFrom : (phrase : Option Text) → List Text → List Text
  | none, [] => []
  | some phrase, [] => [phrase]
  | none, lexeme :: lexemes =>
    if lexeme = quote then mergePhrasesFrom (some quote) lexemes
    else lexeme :: mergePhrasesFrom none lexemes
  | some phrase, lexeme :: lexemes =>
    if lexeme = quote then (phrase ++ quote) :: mergePhrasesFrom none lexemes
    else mergePhrasesFrom (some (phrase ++ lexeme)) lexemes

/-- Merges every quoted phrase into one term. -/
def mergePhrases (lexemes : List Text) : List Text :=
  mergePhrasesFrom none lexemes

/-! ## Brackets -/

/-- Whether the brackets balance when `depth` groups are open. -/
def bracketsBalanceFrom (depth : Nat) : List Text → Bool
  | [] => depth == 0
  | term :: terms =>
    if term = opening then bracketsBalanceFrom (depth + 1) terms
    else if term = closing then
      match depth with
      | 0 => false
      | outer + 1 => bracketsBalanceFrom outer terms
    else bracketsBalanceFrom depth terms

/-- Whether no bracket closes before it opens and all are closed. Brackets inside phrases are
text. -/
def bracketsBalance (terms : List Text) : Bool :=
  bracketsBalanceFrom 0 terms

/-! ## Characters -/

/-- The characters that reach a full-text query: letters of every script, the ten digits, the
space and the marks that mean something there. -/
def isAllowed (c : Char) : Bool :=
  Character.isLetter c || c.isDigit ||
    [' ', '@', '(', ')', '-', '+', '*', '\"', '.'].contains c

/-- Drops every other character of a term, in phrases too. -/
def keepAllowed (term : Text) : Text :=
  term.filter isAllowed

/-! ## Compounds -/

/-- A part of a compound is any visible term but a bracket. -/
def isCompoundPart (term : Text) : Bool :=
  !term.isBlank && term ≠ opening && term ≠ closing

/-- A phrase is known by its opening quote. -/
def isPhrase (term : Text) : Bool :=
  term.head? == some '\"'

/-- Whether a lone hyphen joins its neighbours into a compound. -/
def joins (before hyphen after : Text) : Bool :=
  hyphen = ['-'] && isCompoundPart before && !isPhrase before &&
    isCompoundPart after && !isPhrase after

/-- The phrase that a compound is searched as. -/
def compound (first second : Text) : Text :=
  quote ++ first ++ ['-'] ++ second ++ quote

/-- Merges compounds in the rest of a list. `held` is the term written last, which a compound
replaces; `before` is the term that stood before the rest. In a chain of hyphens the last pair
remains, as the part before a hyphen is the single term that stood there. -/
def mergeCompoundsFrom (held before : Text) : List Text → List Text
  | term :: after :: rest =>
    if joins before term after then mergeCompoundsFrom (compound before after) after rest
    else held :: mergeCompoundsFrom term term (after :: rest)
  | rest => held :: rest

/-- Turns every `word-word` into a phrase. A hyphen at either end of the list joins nothing. -/
def mergeCompounds : List Text → List Text
  | [] => []
  | first :: rest => mergeCompoundsFrom first first rest

/-! ## Wildcards -/

/-- The mark that matches any ending of the word before it. -/
def wildcard : Text := ['*']

/-- Attaches wildcards in the rest of a list to the term before them. -/
def attachWildcardsFrom (held : Text) : List Text → List Text
  | [] => [held]
  | term :: rest =>
    if term = wildcard then attachWildcardsFrom (held ++ wildcard) rest
    else held :: attachWildcardsFrom term rest

/-- Attaches every wildcard to the term before it; one that comes first stays alone. -/
def attachWildcards : List Text → List Text
  | [] => []
  | first :: rest => attachWildcardsFrom first rest

/-! ## Blanks -/

/-- Drops the terms without a visible character. -/
def visible (terms : List Text) : List Text :=
  terms.filter (fun term => !term.isBlank)

end FullTextQuery.Term
