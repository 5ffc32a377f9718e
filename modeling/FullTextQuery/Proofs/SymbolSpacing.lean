import FullTextQuery.Proofs.NeatText
import FullTextQuery.Proofs.Printing

/-!
# Spaces in front of symbols

Where every item has its symbol right before it and every symbol its item right after it, all the
spaces of a query stand in front of symbols: the joined tokens settle to the tokens written one
after the other, with one space in front of each symbol unless a group or the query begins there
(`ofTokens_eq_symbolSpaced`). Brackets need not balance. Words are to have no characters that a step
looks at. Phrases may have them, but no two in a row that a step would change (`PlainPhrase`).
-/

namespace FullTextQuery.FullText

open Prefixed Text Token

/-! ## The printer -/

/-- What is shown of a token: its text, but nothing of the mark of OR. -/
def shownText : Token → Text
  | .symbol operator => shownMark operator
  | token => token.text

/-- Writes tokens one after the other, with a space in front of each symbol unless a group or the
query begins there. `begins` says that one begins with the first token. -/
def symbolSpacedFrom (begins : Bool) : List Token → Text
  | [] => []
  | token :: rest =>
    (if token.isOperator then gap begins else []) ++ shownText token ++
      symbolSpacedFrom (token = .opening) rest

/-- Tokens with spaces in front of their symbols. -/
def symbolSpaced (tokens : List Token) : Text :=
  symbolSpacedFrom true tokens

/-! ## The tokens -/

/-- Symbols, words, phrases and brackets, in which every item has a symbol right before it and every
symbol an item right after it. -/
structure SymbolsLead (tokens : List Token) : Prop where
  /-- No operator is spelled as a word. -/
  noKeyword : ∀ operator, .keyword operator ∉ tokens
  /-- A symbol stands right before every item. -/
  led : ∀ before item after, tokens = before ++ item :: after → item.startsItem →
    ∃ operator, before.getLast? = some (.symbol operator)
  /-- An item starts right after every symbol. -/
  leads : ∀ before operator after, tokens = before ++ .symbol operator :: after →
    after.head?.any startsItem

/-- A phrase in its quotes, in which no step finds something to change. -/
structure PlainPhrase (text : Text) : Prop where
  /-- It begins with a quote. -/
  first : text.head? = some '\"'
  /-- It ends with a quote. -/
  last : text.getLast? = some '\"'
  /-- It has no mark of OR. -/
  noMarker : '§' ∉ text
  /-- Blanks stand alone. -/
  apart : text.IsChain BlanksApart
  /-- No space stands after a mark or inside a bracket. -/
  noPair : ∀ pair ∈ [['+', ' '], ['-', ' '], ['(', ' '], [' ', ')']], ¬ pair <:+: text

instance (text : Text) : Decidable (PlainPhrase text) :=
  decidable_of_iff
    (text.head? = some '\"' ∧ text.getLast? = some '\"' ∧ '§' ∉ text ∧ text.IsChain BlanksApart ∧
      ∀ pair ∈ [['+', ' '], ['-', ' '], ['(', ' '], [' ', ')']], ¬ pair <:+: text)
    ⟨fun ⟨first, last, noMarker, apart, noPair⟩ => ⟨first, last, noMarker, apart, noPair⟩,
      fun ⟨first, last, noMarker, apart, noPair⟩ => ⟨first, last, noMarker, apart, noPair⟩⟩

/-- A word of inert characters, a plain phrase, or no text at all. -/
def IsPlain : Token → Prop
  | .operand text => text ≠ [] ∧ ∀ c ∈ text, Inert c
  | .phrase text => PlainPhrase text
  | .keyword _ | .symbol _ | .opening | .closing => True

-- The characters are those of the text: a search for the instance may find one over all characters.
instance : (token : Token) → Decidable (IsPlain token)
  | .operand text => @instDecidableAnd _ _ inferInstance (List.decidableBAll Inert text)
  | .phrase text => inferInstanceAs (Decidable (PlainPhrase text))
  | .keyword _ | .symbol _ | .opening | .closing => inferInstanceAs (Decidable True)

/-! ## Words and phrases -/

theorem compact_of_inert {text : Text} (notEmpty : text ≠ []) (inert : ∀ c ∈ text, Inert c) :
    Compact text where
  toSolid := solid_of_inert notEmpty inert
  tight := tight_of_visible fun c inside => (inert c inside).1
  noMarker inside := (inert _ inside).2 (by decide)

theorem PlainPhrase.solid {text : Text} (plain : PlainPhrase text) : Solid text where
  first := by
    obtain ⟨rest, shape⟩ := List.head?_eq_some_iff.mp plain.first
    exact ⟨'\"', rest, shape, by decide⟩
  last := by
    obtain ⟨front, shape⟩ := List.getLast?_eq_some_iff.mp plain.last
    exact ⟨front, '\"', shape, by decide⟩

theorem PlainPhrase.compact {text : Text} (plain : PlainPhrase text) : Compact text where
  toSolid := plain.solid
  noMarker := plain.noMarker
  tight := by
    rw [List.isChain_iff_forall_rel_of_append_cons_cons]
    intro left right before after parts loose
    have isPart : [left, right] <:+: text := ⟨before, after, by simp [parts]⟩
    have apart : BlanksApart left right :=
      List.isChain_iff_forall_rel_of_append_cons_cons.mp plain.apart parts
    rcases loose with blanks | ⟨isMark, rfl⟩ | ⟨rfl, rfl⟩
    · exact apart blanks
    · simp only [List.mem_cons, List.not_mem_nil, or_false] at isMark
      rcases isMark with rfl | rfl | rfl | rfl
      · exact plain.noPair _ (by decide) isPart
      · exact plain.noPair _ (by decide) isPart
      · exact plain.noMarker (by rw [parts]; simp)
      · exact plain.noPair _ (by decide) isPart
    · exact plain.noPair _ (by decide) isPart

theorem isSolid_of_isPlain {token : Token} (plain : IsPlain token) : IsSolid token := by
  cases token with
  | operand text => exact solid_of_inert plain.1 plain.2
  | phrase text => exact PlainPhrase.solid plain
  | keyword operator | symbol operator => exact isSolid_of_isOperator rfl
  | opening | closing => trivial

/-! ## Neighbours -/

theorem eq_symbol_of_isOperator {tokens : List Token} {token : Token}
    (noKeyword : ∀ operator, .keyword operator ∉ tokens) (member : token ∈ tokens)
    (spells : token.isOperator) : ∃ operator, token = .symbol operator := by
  cases token with
  | symbol operator => exact ⟨operator, rfl⟩
  | keyword operator => exact absurd member (noKeyword operator)
  | operand text | phrase text | opening | closing => cases spells

/-- Symbols lead if no operator is spelled as a word and all neighbours are paired. -/
theorem symbolsLead_of_isChain {tokens : List Token}
    (noKeyword : ∀ operator, .keyword operator ∉ tokens)
    (chain : (.opening :: (tokens ++ [.closing])).IsChain Paired) : SymbolsLead tokens where
  noKeyword := noKeyword
  led before item after parts starts := by
    rw [parts] at chain
    have spells := (neighbours_of_isChain chain).1.trans starts
    rw [← any_eq_getD isOperator .opening rfl, Option.any_eq_true] at spells
    obtain ⟨last, isLast, isOperator⟩ := spells
    have member : last ∈ tokens := by simp [parts, List.mem_of_getLast? isLast]
    obtain ⟨operator, rfl⟩ := eq_symbol_of_isOperator noKeyword member isOperator
    exact ⟨operator, isLast⟩
  leads before operator after parts := by
    rw [parts] at chain
    rw [any_eq_getD startsItem .closing rfl]
    exact (neighbours_of_isChain chain).2.symm

namespace SymbolsLead

variable {tokens : List Token} (lead : SymbolsLead tokens)

include lead

theorem haveItems : HaveItems tokens := by
  intro before token after parts spells
  obtain ⟨operator, rfl⟩ :=
    eq_symbol_of_isOperator lead.noKeyword (by rw [parts]; simp) spells
  exact lead.leads before operator after parts

/-- All neighbours are paired, where the edges count as brackets. -/
theorem isChain : (.opening :: (tokens ++ [.closing])).IsChain Paired := by
  refine isChain_paired (fun before item after parts starts => ?_) lead.haveItems
  obtain ⟨operator, isLast⟩ := lead.led before item after parts starts
  rw [isLast]
  rfl

/-- No two operators are neighbours. -/
theorem isChain_apart : tokens.IsChain Apart := by
  have chain : tokens.IsChain Paired := lead.isChain.tail.left_of_append
  refine chain.imp fun left right paired spells => ?_
  exact isOperator_of_startsItem (paired.symm.trans spells)

theorem getLast?_ne (operator : Operator) : tokens.getLast? ≠ some (.symbol operator) := by
  intro isLast
  obtain ⟨front, shape⟩ := List.getLast?_eq_some_iff.mp isLast
  cases lead.leads front operator [] shape

end SymbolsLead

/-! ## The query -/

/-- With paired neighbours, plain tokens are printed with spaces in front of symbols only. The
induction is on the tokens: an item has an operator before it, so it joins that, and a symbol has
none, so what decides is whether a group begins. -/
theorem printFrom_eq_symbolSpacedFrom {before : Token} {tokens : List Token}
    (chain : (before :: tokens).IsChain Paired)
    (noKeyword : ∀ operator, .keyword operator ∉ tokens)
    (plain : ∀ token ∈ tokens, IsPlain token) :
    printFrom before.joinsNext tokens = symbolSpacedFrom (before = .opening) tokens := by
  induction tokens generalizing before with
  | nil => rfl
  | cons token rest ih =>
    obtain ⟨paired, restChain⟩ := List.isChain_cons_cons.mp chain
    have later : printFrom token.joinsNext rest = symbolSpacedFrom (token = .opening) rest :=
      ih restChain (fun operator member => noKeyword operator (List.mem_cons_of_mem _ member))
        fun next member => plain next (List.mem_cons_of_mem _ member)
    have here := plain token List.mem_cons_self
    -- An item comes right after an operator, without a space.
    have joined (starts : token.startsItem) : gap before.joinsNext = [] := by
      have spells : before.isOperator := paired.trans starts
      rw [joinsNext, spells]
      rfl
    have text {word : Text} (compact : Compact word) (starts : token.startsItem) :
        gap before.joinsNext ++ settleSpaces word ++ printFrom token.joinsNext rest =
          word ++ symbolSpacedFrom (token = .opening) rest := by
      rw [joined starts, compact.settleSpaces_eq, later]
      rfl
    cases token with
    | operand word => exact text (compact_of_inert here.1 here.2) rfl
    | phrase word => exact text (PlainPhrase.compact here) rfl
    | keyword operator => exact absurd List.mem_cons_self (noKeyword operator)
    | closing => exact congrArg (')' :: ·) later
    | opening =>
      have opens : printFrom before.joinsNext (.opening :: rest) =
          gap before.joinsNext ++ '(' :: printFrom Token.opening.joinsNext rest := rfl
      rw [opens, joined rfl, later]
      rfl
    | symbol operator =>
      have alone : before.joinsNext = decide (before = .opening) := by
        have other : before.isOperator = false := paired
        rw [joinsNext, other, Bool.false_or]
      have marks : printFrom before.joinsNext (.symbol operator :: rest) =
          gap before.joinsNext ++ shownMark operator ++
            printFrom (Token.symbol operator).joinsNext rest := rfl
      rw [marks, alone, later]
      rfl

/-- The query of plain tokens in which every item has a symbol right before it and every symbol an
item right after it: the tokens one after the other, nothing for the mark of OR, and one space in
front of each symbol that is neither the first token nor right after an opening bracket. -/
theorem ofTokens_eq_symbolSpaced {tokens : List Token} (lead : SymbolsLead tokens)
    (plain : ∀ token ∈ tokens, IsPlain token) : ofTokens tokens = symbolSpaced tokens := by
  have solid : ∀ token ∈ tokens, IsSolid token := fun token member =>
    isSolid_of_isPlain (plain token member)
  have chain : ((opening :: tokens) ++ [closing]).IsChain Paired := lead.isChain
  rw [ofTokens_eq_printFrom solid lead.isChain_apart (lead.getLast?_ne .or)]
  exact printFrom_eq_symbolSpacedFrom chain.left_of_append lead.noKeyword plain

/-- The query of nested groups, with a phrase that has a space and a mark in it. -/
theorem ofTokens_eq_symbolSpaced_groups :
    let tokens := [symbol .and, opening, symbol .or, operand ['a'], symbol .not, opening,
      symbol .or, phrase ['\"', 'b', ' ', '+', 'c', '\"'], symbol .and, operand ['d'], closing,
      closing, symbol .or, operand ['e']]
    SymbolsLead tokens ∧ (∀ token ∈ tokens, IsPlain token) ∧
      ofTokens tokens = "+(a -(\"b +c\" +d)) e".toList := by
  intro tokens
  have lead : SymbolsLead tokens :=
    symbolsLead_of_isChain (fun operator => by cases operator <;> decide) (by decide)
  have plain : ∀ token ∈ tokens, IsPlain token := by decide
  exact ⟨lead, plain, ofTokens_eq_symbolSpaced lead plain⟩

end FullTextQuery.FullText
