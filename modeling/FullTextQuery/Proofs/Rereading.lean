import FullTextQuery.Proofs.AcceptedAgain
import FullTextQuery.Proofs.FixedPoints
import FullTextQuery.Proofs.Replay

/-!
# Reading a full-text query again

A full-text query without the mark of OR is read back as the tokens that it was printed from
(`tokensOfClean_printFrom`). A word or phrase is `Rereadable`: it is a term by itself, and a space
or a bracket comes after it where it is printed. Symbols and brackets are terms wherever they stand.
A hyphen that is printed for a NOT has a space, a bracket or nothing before it and its item after
it, so it joins no compound and is not stray. With `passes_eq_self` this makes such a query a fixed
point of the conversion (`convert_again`).
-/

namespace FullTextQuery

namespace Lexeme

/-- An allowed character is in words, or it is a lexeme of its own. -/
theorem inWord_or_solo {c : Char} (allowed : Term.isAllowed c) : InWord c ∨ Solo c := by
  have known : delimiters.flatten.all fun c => !Term.isAllowed c || decide (Solo c) := by
    decide +kernel
  refine Classical.or_iff_not_imp_left.mpr fun notInWord => ?_
  unfold InWord at notInWord
  push Not at notInWord
  obtain ⟨delimiter, isOne, inside⟩ := notInWord
  have found := List.all_eq_true.mp known c (List.mem_flatten.mpr ⟨delimiter, isOne, inside⟩)
  simpa [allowed] using found

end Lexeme

namespace Term

open FullText Lexeme

/-! ## Words and phrases -/

/-- A text of allowed characters in which delimiters stand alone is one lexeme. -/
theorem ofText_unbroken {text : Text} (notEmpty : text ≠ []) (allowed : ∀ c ∈ text, isAllowed c)
    (unbroken : Unbroken text) : ofText text = [text] := by
  by_cases delimited : ∃ c ∈ text, Solo c
  · obtain ⟨c, inside, solo⟩ := delimited
    rw [unbroken c inside solo, ofText_solo solo]
    rfl
  · push Not at delimited
    exact ofText_word notEmpty fun c inside =>
      (inWord_or_solo (allowed c inside)).resolve_right (delimited c inside)

/-- A word or phrase that is read back from where it is printed. -/
structure Rereadable (text : Text) : Prop extends Solid text where
  /-- It is one term. -/
  single : ofClean text = [text]
  /-- Its quotes are closed. -/
  even : text.count '\"' % 2 = 0
  /-- Its characters are allowed, and none is a wildcard or a space. -/
  allowed : ∀ c ∈ text, isAllowed c ∧ c ≠ '*' ∧ c ≠ ' '

namespace Rereadable

variable {text : Text} (rereadable : Rereadable text)

include rereadable

theorem isBlank_eq_false {c : Char} (inside : c ∈ text) : Character.isBlank c = false := by
  obtain ⟨allowed, -, notSpace⟩ := rereadable.allowed c inside
  exact Bool.eq_false_iff.mpr fun blank => notSpace (eq_space_of_isBlank allowed blank)

/-- Printing does not change it. -/
theorem compact : Compact text where
  toSolid := rereadable.toSolid
  tight := tight_of_visible fun _ inside => rereadable.isBlank_eq_false inside
  noMarker inside := absurd (rereadable.allowed _ inside).1 (by decide +kernel)

/-- What stands after it is read by itself, if a solo character cuts it off. -/
theorem ofClean_append {back : Text} (cut : ∀ c ∈ back.head?, Solo c ∧ c ≠ '\"') :
    ofClean (text ++ back) = text :: ofClean back := by
  cases back with
  | nil =>
    rw [List.append_nil, rereadable.single]
    rfl
  | cons c back =>
    obtain ⟨solo, noQuote⟩ := cut c rfl
    rw [ofClean_append_solo solo noQuote rereadable.even, rereadable.single,
      ofClean_cons_solo solo noQuote]
    rfl

end Rereadable

/-- A visible term without spaces is rereadable if it is no bracket and no operator. -/
theorem Shaped.rereadable {term : Text} (shaped : Shaped term) (visible : term.isBlank = false)
    (noSpace : ' ' ∉ term) (noBracket : term ≠ ['('] ∧ term ≠ [')'])
    (noSymbol : term ≠ ['+'] ∧ term ≠ ['-']) : Rereadable term := by
  have allowed : ∀ c ∈ term, isAllowed c ∧ c ≠ '*' ∧ c ≠ ' ' := by
    intro c inside
    obtain ⟨isAllowed, noWildcard⟩ := shaped.allowed c inside
    refine ⟨isAllowed, noWildcard, ?_⟩
    rintro rfl
    exact noSpace inside
  rcases shaped.whole with quoted | ⟨noQuote, unbroken⟩
  · have solid := solid_of_isQuoted quoted
    obtain ⟨body, free, rfl⟩ := quoted
    have none : body.count '\"' = 0 := List.count_eq_zero.mpr free
    refine ⟨solid, ofClean_phrase free, ?_, allowed⟩
    rw [List.count_cons_self, List.count_append, none, List.count_singleton_self]
  · have notEmpty : term ≠ [] := by
      rintro rfl
      cases visible
    have inert := shaped.inert unbroken visible noBracket noSymbol
    refine ⟨solid_of_inert notEmpty inert, ?_, ?_, allowed⟩
    · rw [ofClean_eq_ofText noQuote]
      exact ofText_unbroken notEmpty (fun c inside => (allowed c inside).1) unbroken
    · rw [List.count_eq_zero.mpr noQuote]

end Term

namespace Token

open Term

/-- A token that is read back from what is printed of it. -/
def IsPrintable : Token → Prop
  | .operand text => Rereadable text ∧ ofTerm text = .operand text
  | .phrase text => Rereadable text ∧ ofTerm text = .phrase text
  | .symbol operator => operator ≠ .or
  | .opening | .closing => True
  | .keyword _ => False

namespace IsPrintable

variable {token : Token} (printable : token.IsPrintable)

include printable

/-- Its text is the term that it stands for. -/
theorem ofTerm_text : ofTerm token.text = token := by
  cases token with
  | operand text | phrase text => exact printable.2
  | symbol operator => cases operator <;> rfl
  | opening | closing => rfl
  | keyword operator => cases printable

/-- It is written in allowed characters, without wildcards and spaces. -/
theorem allowed : ∀ c ∈ token.text, isAllowed c ∧ c ≠ '*' ∧ c ≠ ' ' := by
  have marks : ['(', ')', '+', '-'].all fun c => isAllowed c ∧ c ≠ '*' ∧ c ≠ ' ' := by
    decide +kernel
  have known {c : Char} (listed : c ∈ ['(', ')', '+', '-']) :
      isAllowed c ∧ c ≠ '*' ∧ c ≠ ' ' := of_decide_eq_true (List.all_eq_true.mp marks c listed)
  intro c inside
  cases token with
  | operand text | phrase text => exact printable.1.allowed c inside
  | symbol operator =>
    rw [List.mem_singleton.mp inside]
    cases operator with
    | and | not => exact known (by decide)
    | or => exact absurd rfl printable
  | opening | closing =>
    rw [List.mem_singleton.mp inside]
    exact known (by decide)
  | keyword operator => cases printable

theorem text_ne_nil : token.text ≠ [] := by
  cases token with
  | operand text | phrase text =>
    obtain ⟨c, rest, rfl, -⟩ := printable.1.first
    exact List.cons_ne_nil c rest
  | symbol operator | opening | closing => exact List.cons_ne_nil _ _
  | keyword operator => cases printable

theorem isBlank_text : token.text.isBlank = false := by
  refine Bool.eq_false_iff.mpr fun blank => ?_
  obtain ⟨c, rest, shape⟩ := List.exists_cons_of_ne_nil printable.text_ne_nil
  have inside : c ∈ token.text := by simp [shape]
  obtain ⟨allowed, -, notSpace⟩ := printable.allowed c inside
  exact notSpace (eq_space_of_isBlank allowed (List.all_eq_true.mp blank c inside))

/-- If it ends with a hyphen, it is a NOT. -/
theorem isOperator_of_getLast? (last : token.text.getLast? = some '-') : token.isOperator := by
  cases token with
  | operand text | phrase text =>
    obtain ⟨front, c, rfl, inert⟩ := printable.1.last
    rw [Token.text, List.getLast?_concat] at last
    obtain rfl := Option.some.inj last
    exact absurd inert (by decide)
  | symbol operator | keyword operator => rfl
  | opening | closing => cases last

end IsPrintable

end Token

namespace FullText

open Term Token

/-! ## Printed terms -/

/-- A printable token is printed as its text, with a space in front unless it closes a group. -/
theorem printFrom_cons {token : Token} (printable : token.IsPrintable) (begins : Bool)
    (rest : List Token) :
    printFrom begins (token :: rest) =
      (if token = .closing then [] else gap begins) ++
        (token.text ++ printFrom token.joinsNext rest) := by
  cases token with
  | operand text | phrase text =>
    rw [printFrom, printable.1.compact.settleSpaces_eq, List.append_assoc]
    rfl
  | symbol operator =>
    cases operator with
    | and | not => rw [printFrom, List.append_assoc]; rfl
    | or => exact absurd rfl printable
  | opening | closing => rfl
  | keyword operator => cases printable

/-- The terms that printable tokens are read as: their texts, and the spaces between them. -/
def printedTerms (begins : Bool) : List Token → List Text
  | [] => []
  | token :: rest =>
    (if token = .closing || begins then [] else [[' ']]) ++
      token.text :: printedTerms token.joinsNext rest

theorem head?_printFrom_false (tokens : List Token) :
    ∀ c ∈ (printFrom false tokens).head?, c = ' ' ∨ c = ')' := by
  cases tokens with
  | nil => simp [printFrom]
  | cons token rest => cases token <;> simp [printFrom, gap]

/-- A token is read back as its text, whatever is printed after it. -/
theorem ofClean_token {token : Token} (printable : token.IsPrintable) (rest : List Token) :
    ofClean (token.text ++ printFrom token.joinsNext rest) =
      token.text :: ofClean (printFrom token.joinsNext rest) := by
  cases token with
  | operand text | phrase text =>
    refine printable.1.ofClean_append fun c isFirst => ?_
    rcases head?_printFrom_false rest c isFirst with rfl | rfl
    · decide
    · decide
  | symbol operator =>
    cases operator with
    | and | not => exact ofClean_cons_solo (by decide) (by decide) _
    | or => exact absurd rfl printable
  | opening | closing => exact ofClean_cons_solo (by decide) (by decide) _
  | keyword operator => cases printable

variable {tokens : List Token} (printable : ∀ token ∈ tokens, token.IsPrintable)

include printable

theorem ofClean_printFrom (begins : Bool) :
    ofClean (printFrom begins tokens) = printedTerms begins tokens := by
  induction tokens generalizing begins with
  | nil => rfl
  | cons token rest ih =>
    have walk := ih fun next member => printable next (List.mem_cons_of_mem _ member)
    have here := printable token List.mem_cons_self
    rw [printFrom_cons here, printedTerms]
    by_cases closes : token = .closing
    · rw [if_pos closes, List.nil_append, ofClean_token here, walk, closes]
      rfl
    · rw [if_neg closes]
      cases begins with
      | true =>
        have none : gap true = [] := rfl
        rw [none, List.nil_append, ofClean_token here, walk, Bool.or_true]
        rfl
      | false =>
        have spaced (back : Text) : ofClean (gap false ++ back) = [' '] :: ofClean back :=
          ofClean_cons_solo (by decide) (by decide) back
        rw [spaced, ofClean_token here, walk]
        simp [closes]

theorem mem_printedTerms {begins : Bool} {term : Text}
    (member : term ∈ printedTerms begins tokens) :
    term = [' '] ∨ ∃ token ∈ tokens, term = token.text := by
  induction tokens generalizing begins with
  | nil => cases member
  | cons token rest ih =>
    rw [printedTerms, List.mem_append, List.mem_cons] at member
    rcases member with isGap | rfl | later
    · split at isGap
      · cases isGap
      · exact .inl (List.mem_singleton.mp isGap)
    · exact .inr ⟨token, List.mem_cons_self, rfl⟩
    · rcases ih (fun next isNext => printable next (List.mem_cons_of_mem _ isNext)) later with
        isGap | ⟨next, isNext, isText⟩
      · exact .inl isGap
      · exact .inr ⟨next, List.mem_cons_of_mem _ isNext, isText⟩

/-- All characters are allowed, so none is dropped. -/
theorem map_keepAllowed_printedTerms (begins : Bool) :
    (printedTerms begins tokens).map keepAllowed = printedTerms begins tokens := by
  have kept : ∀ term ∈ printedTerms begins tokens, keepAllowed term = id term := by
    intro term member
    rcases mem_printedTerms printable member with rfl | ⟨token, isToken, rfl⟩
    · decide
    · exact List.filter_eq_self.mpr fun c inside => ((printable token isToken).allowed c inside).1
  exact (List.map_congr_left kept).trans (List.map_id _)

theorem wildcard_not_mem_printedTerms (begins : Bool) : wildcard ∉ printedTerms begins tokens := by
  intro member
  rcases mem_printedTerms printable member with same | ⟨token, isToken, same⟩
  · cases same
  · have inside : '*' ∈ token.text := by rw [← same]; exact List.mem_singleton_self '*'
    exact ((printable token isToken).allowed '*' inside).2.1 rfl

theorem visible_printedTerms (begins : Bool) :
    visible (printedTerms begins tokens) = tokens.map Token.text := by
  induction tokens generalizing begins with
  | nil => rfl
  | cons token rest ih =>
    have walk := ih fun next member => printable next (List.mem_cons_of_mem _ member)
    have notBlank := (printable token List.mem_cons_self).isBlank_text
    have shown : visible (token.text :: printedTerms token.joinsNext rest) =
        token.text :: rest.map Token.text := by
      rw [visible, List.filter_cons_of_pos (by simp [notBlank])]
      exact congrArg _ (walk _)
    rw [printedTerms, List.map_cons]
    split
    · exact shown
    · exact shown

/-- The texts are read as the tokens that they are of. -/
theorem map_ofTerm_text : (tokens.map Token.text).map Token.ofTerm = tokens :=
  Token.map_ofTerm_of_isRead fun token member => (printable token member).ofTerm_text

/-! ## No compounds -/

/-- No term that can be part of a compound stands before a hyphen. -/
def Unjoined (left right : Text) : Prop :=
  right = ['-'] → isCompoundPart left = false

/-- A hyphen is printed after a space, a bracket or nothing. -/
theorem isChain_unjoined (apart : tokens.IsChain Prefixed.Apart) {before : Text} {begins : Bool}
    (fits : begins →
      isCompoundPart before = false ∨ ∀ token ∈ tokens.head?, token.isOperator = false) :
    (before :: printedTerms begins tokens).IsChain Unjoined := by
  induction tokens generalizing before begins with
  | nil => exact .singleton before
  | cons token rest ih =>
    have here := printable token List.mem_cons_self
    have later : (token.text :: printedTerms token.joinsNext rest).IsChain Unjoined := by
      apply ih (fun next member => printable next (List.mem_cons_of_mem _ member)) apart.tail
      intro joins
      unfold joinsNext at joins
      rw [Bool.or_eq_true, decide_eq_true_eq] at joins
      rcases joins with spells | rfl
      · exact .inr fun next isNext => (List.isChain_cons.mp apart).1 next isNext spells
      · exact .inl rfl
    have spells (isHyphen : token.text = ['-']) : token.isOperator :=
      here.isOperator_of_getLast? (by rw [isHyphen]; rfl)
    rw [printedTerms]
    split
    case isTrue noGap =>
      refine List.isChain_cons_cons.mpr ⟨fun isHyphen => ?_, later⟩
      rw [Bool.or_eq_true, decide_eq_true_eq] at noGap
      rcases noGap with rfl | starts
      · cases isHyphen
      · rcases fits starts with noPart | noOperator
        · exact noPart
        · rw [noOperator token rfl] at spells
          cases spells isHyphen
    case isFalse =>
      refine List.isChain_cons_cons.mpr ⟨fun isHyphen => ?_,
        List.isChain_cons_cons.mpr ⟨fun _ => rfl, later⟩⟩
      cases isHyphen

end FullText

namespace Term

theorem mergeCompounds_eq_self {terms : List Text} (chain : terms.IsChain FullText.Unjoined) :
    mergeCompounds terms = terms := by
  have walk (held before : Text) (rest : List Text)
      (chain : (before :: rest).IsChain FullText.Unjoined) :
      mergeCompoundsFrom held before rest = held :: rest := by
    fun_induction mergeCompoundsFrom held before rest with
    | case1 held before term after rest joined ih =>
      obtain ⟨isHyphen, ⟨partBefore, -⟩, -⟩ := joins_iff.mp joined
      have noPart := (List.isChain_cons_cons.mp chain).1 isHyphen
      rw [partBefore] at noPart
      cases noPart
    | case2 held before term after rest apart ih => rw [ih chain.tail]
    | case3 => rfl
  cases terms with
  | nil => rfl
  | cons first rest => exact walk first first rest chain

end Term

namespace FullText

open Term Token

variable {tokens : List Token} (printable : ∀ token ∈ tokens, token.IsPrintable)
  (apart : tokens.IsChain Prefixed.Apart)

include printable apart

/-- Printable tokens of which no two operators are neighbours are read back from what is printed. -/
theorem tokensOfClean_printFrom : Query.tokensOfClean (printFrom true tokens) = tokens := by
  have unjoined : (printedTerms true tokens).IsChain Unjoined :=
    (isChain_unjoined printable apart fun _ => .inl (rfl : isCompoundPart opening = false)).tail
  rw [Query.tokensOfClean_eq, ofClean_printFrom printable, map_keepAllowed_printedTerms printable,
    mergeCompounds_eq_self unjoined,
    attachWildcards_eq_self (wildcard_not_mem_printedTerms printable true),
    visible_printedTerms printable, map_ofTerm_text printable]

end FullText

/-! ## Cleaning -/

namespace CleanText

open Term Token FullText

/-- Text without spaces puts none after a space or hyphen. -/
theorem isChain_apart_append {text more : Text} (free : ' ' ∉ text) {c : Char}
    (last : ∀ d, (c :: text).getLast? = some d → (d :: more).IsChain Apart) :
    (c :: (text ++ more)).IsChain Apart := by
  induction text generalizing c with
  | nil => exact last c rfl
  | cons d text ih =>
    rw [List.mem_cons, not_or] at free
    have later : (d :: (text ++ more)).IsChain Apart := ih free.2 fun e isLast =>
      last e (by rw [List.getLast?_cons_cons, isLast])
    exact List.isChain_cons_cons.mpr ⟨fun loose => free.1 loose.2.symm, later⟩

/-- What is printed has no space after a space or hyphen. -/
theorem isChain_apart_printFrom {tokens : List Token}
    (printable : ∀ token ∈ tokens, token.IsPrintable) {c : Char} {begins : Bool}
    (fits : begins = false → c ≠ ' ' ∧ c ≠ '-') :
    (c :: printFrom begins tokens).IsChain Apart := by
  induction tokens generalizing c begins with
  | nil => exact .singleton c
  | cons token rest ih =>
    have here := printable token List.mem_cons_self
    have walk {d : Char} {begun : Bool} := @ih
      (fun next member => printable next (List.mem_cons_of_mem _ member)) d begun
    have noSpace : ' ' ∉ token.text := fun inside => (here.allowed ' ' inside).2.2 rfl
    have text (before : Char) :
        (before :: (token.text ++ printFrom token.joinsNext rest)).IsChain Apart := by
      apply isChain_apart_append noSpace
      intro last isLast
      rw [List.getLast?_cons, List.getLast?_eq_some_getLast here.text_ne_nil] at isLast
      have isEnd : token.text.getLast? = some last := by
        rw [List.getLast?_eq_some_getLast here.text_ne_nil]
        exact isLast
      apply walk
      intro noJoin
      unfold joinsNext at noJoin
      rw [Bool.or_eq_false_iff] at noJoin
      refine ⟨?_, ?_⟩
      · rintro rfl
        exact noSpace (List.mem_of_getLast? isEnd)
      · rintro rfl
        rw [here.isOperator_of_getLast? isEnd] at noJoin
        cases noJoin.1
    rw [printFrom_cons here]
    split
    case isTrue => exact text c
    case isFalse =>
      cases begins with
      | true => exact text c
      | false =>
        have apart : Apart c ' ' := fun loose =>
          loose.1.elim (fits rfl).1 (fits rfl).2
        exact List.isChain_cons_cons.mpr ⟨apart, text ' '⟩

/-- An allowed small character begins no entity and ends no field marker. -/
theorem foldCase_of_isAllowed {c : Char} (allowed : isAllowed c) (small : Small c) :
    Text.afterFolded?.foldCase c ≠ ':' ∧ Text.afterFolded?.foldCase c ≠ '&' := by
  have other : c ∉ [':', '&'] := not_mem_of_isAllowed (by decide +kernel) allowed
  rw [List.mem_cons, List.mem_singleton, not_or] at other
  have same : c.toLower = c := by
    have notUpper : ¬ ('A'.val ≤ c.val ∧ c.val ≤ 'Z'.val) := by
      rw [← isUpper_iff, small.isUpper_eq_false]
      exact Bool.false_ne_true
    exact dif_neg notUpper
  unfold Text.afterFolded?.foldCase
  rw [same]
  split
  · decide
  · split
    · decide
    · exact other

end CleanText

/-! ## Queries without quotes and wildcards -/

namespace Query

open CleanText Brackets Term Prefixed FullText

variable {clean : Text} (noQuote : '\"' ∉ clean)

include noQuote

/-- Without quotes a term that is visible has no spaces. -/
theorem space_not_mem_compoundsOf : ∀ term ∈ compoundsOf clean, term.isBlank ∨ ' ' ∉ term := by
  have kept : ∀ term ∈ (ofClean clean).map keepAllowed, term.isBlank ∨ ' ' ∉ term := by
    intro term member
    obtain ⟨source, isSource, rfl⟩ := List.mem_map.mp member
    refine Classical.or_iff_not_imp_right.mpr fun notFree => ?_
    have inside : ' ' ∈ source := (List.mem_filter.mp (not_not.mp notFree)).1
    have notPhrase : ¬ isPhrase source := by
      intro phrase
      apply noQuote
      rw [← flatten_ofClean clean]
      refine List.mem_flatten.mpr ⟨source, isSource, List.mem_of_mem_head? ?_⟩
      simpa [isPhrase] using phrase
    rw [eq_singleton_of_mem_ofClean (by decide) isSource notPhrase inside]
    decide
  have free {part : Text} (isPart : isCompoundPart part) (known : part.isBlank ∨ ' ' ∉ part) :
      ' ' ∉ part := by
    apply known.resolve_left
    intro blank
    simp [isCompoundPart, blank] at isPart
  refine forall_mem_mergeCompounds (fun before hyphen after joined first _ second => .inr ?_) kept
  obtain ⟨-, ⟨partBefore, -⟩, partAfter, -⟩ := joins_iff.mp joined
  simp [compound, quote, free partBefore first, free partAfter second]

/-- The words, phrases and brackets of such a text are printable. -/
theorem isPrintable_of_mem_tokensOfClean (noWildcard : '*' ∉ clean) {token : Token}
    (member : token ∈ tokensOfClean clean) (other : token.isOperator = false) :
    token.IsPrintable := by
  have even : clean.count '\"' % 2 = 0 := by rw [List.count_eq_zero.mpr noQuote]
  rw [tokensOfClean_eq_visible even noWildcard] at member
  obtain ⟨term, isVisible, rfl⟩ := List.mem_map.mp member
  obtain ⟨isTerm, notBlank⟩ := List.mem_filter.mp isVisible
  have visible : term.isBlank = false := by simpa using notBlank
  have noSpace : ' ' ∉ term :=
    (space_not_mem_compoundsOf noQuote term isTerm).resolve_left (by simp [visible])
  have shaped := shaped_compoundsOf even noWildcard term isTerm
  have again : Token.ofTerm (Token.ofTerm term).text = Token.ofTerm term :=
    congrArg Token.ofTerm (text_ofTerm term)
  have word (noBracket : Token.ofTerm term ≠ .opening ∧ Token.ofTerm term ≠ .closing) :
      Rereadable (Token.ofTerm term).text := by
    rw [text_ofTerm]
    refine shaped.rereadable visible noSpace ⟨?_, ?_⟩ ⟨?_, ?_⟩
    · rintro rfl
      exact noBracket.1 rfl
    · rintro rfl
      exact noBracket.2 rfl
    · rintro rfl
      cases other
    · rintro rfl
      cases other
  cases isRead : Token.ofTerm term with
  | operand text | phrase text =>
    rw [isRead] at word again
    exact ⟨word (by simp), again⟩
  | opening | closing => trivial
  | keyword operator | symbol operator =>
    rw [isRead] at other
    cases other

/-- So are the prefixed tokens, if none is an OR. -/
theorem isPrintable_of_mem_passes (noWildcard : '*' ∉ clean)
    (noOr : .symbol .or ∉ Pass.runAll structuralPasses (tokensOfClean clean)) :
    ∀ token ∈ Pass.runAll structuralPasses (tokensOfClean clean), token.IsPrintable := by
  intro token member
  cases spells : token.isOperator with
  | true =>
    cases token with
    | symbol operator =>
      rintro rfl
      exact noOr member
    | keyword operator =>
      exact absurd member ((singlyPrefixed_passes (tokensOfClean clean)).noKeyword operator)
    | operand text | phrase text | opening | closing => cases spells
  | false =>
    rcases isOperator_or_mem_of_mem_passes member with isOperator | isRead
    · rw [spells] at isOperator
      cases isOperator
    · exact isPrintable_of_mem_tokensOfClean noQuote noWildcard isRead spells

omit noQuote

/-- A full-text query that is printed of printable tokens is clean. -/
theorem ofRaw_of_convert {query output : Text} (accepted : convert query = .ok output)
    {tokens : List Token} (printable : ∀ token ∈ tokens, token.IsPrintable)
    (printed : output = printFrom true tokens) : ofRaw output = output := by
  have known := allowed_of_convert accepted
  obtain ⟨first, last⟩ := ends_of_convert accepted
  have tidy : Tidy output := {
    noMarker := fun c member => foldCase_of_isAllowed (known c member).1 (known c member).2
    plain := fun c member => plainMark_eq_self (known c member).1
    spaces := fun c member => eq_space_of_isBlank (known c member).1
    apart := by
      rw [printed]
      exact (@isChain_apart_printFrom tokens printable '(' true (by simp)).tail
    first := by
      rintro c isFirst rfl
      exact absurd (first ' ' isFirst) (by decide)
    last := by
      rintro c isLast rfl
      exact absurd (last ' ' isLast) (by decide) }
  rw [ofRaw_of_tidy tidy]
  exact lowercase_eq_self fun c member => (known c member).2

/-- A full-text query is a fixed point of the conversion, if it comes from a query without quotes
and wildcards whose prefixed tokens have no OR and all operators right before an item. -/
theorem convert_again (query output : Text)
    (plain : ∀ c ∈ query, c ≠ '*' ∧ isQuoteMark c = false)
    (accepted : convert query = .ok output) {stream : List Text}
    (shown : (trace query).snapshot? .prefixed = some ⟨.prefixed, stream⟩)
    (noOr : [Operator.or.symbol] ∉ stream) (items : HaveItems (stream.map Token.ofTerm)) :
    convert output = .ok output := by
  obtain ⟨even, balance, converted⟩ := convert_eq_ok.mp accepted
  have noQuote : '\"' ∉ ofRaw query := quote_not_mem_ofRaw fun c member => (plain c member).2
  have noWildcard : '*' ∉ ofRaw query :=
    wildcard_not_mem_ofRaw fun member => (plain '*' member).1 rfl
  -- The prefixed tokens are what the trace shows, and they are printable.
  obtain ⟨tokens, passed⟩ : ∃ tokens,
      tokens = Pass.runAll structuralPasses (tokensOfClean (ofRaw query)) := ⟨_, rfl⟩
  have prefixed : SinglyPrefixed tokens := passed ▸ singlyPrefixed_passes _
  have apart : tokens.IsChain Prefixed.Apart := passed ▸ isChain_passes _
  have recorded := snapshot?_prefixed even balance
  rw [shown, ← passed] at recorded
  obtain rfl := (Snapshot.mk.inj (Option.some.inj recorded)).2
  have absent : .symbol .or ∉ tokens := fun member =>
    noOr (List.mem_map.mpr ⟨.symbol .or, member, rfl⟩)
  have printable : ∀ token ∈ tokens, token.IsPrintable := by
    rw [passed] at absent ⊢
    exact isPrintable_of_mem_passes noQuote noWildcard absent
  rw [map_ofTerm_text printable] at items
  have printed : output = printFrom true tokens := by
    have solid := isSolid_of_mem_tokensOfClean even noWildcard
    rw [← converted, passed]
    exact ofTokens_passes solid
  have clean : ofRaw output = output := ofRaw_of_convert accepted printable printed
  -- They are read again, and the passes leave them.
  have read : tokensOfClean output = tokens := by
    rw [printed]
    exact tokensOfClean_printFrom printable apart
  have fixed : Pass.runAll structuralPasses (tokensOfClean output) = tokens := by
    rw [read]
    exact passes_eq_self prefixed items absent
  have same : SameShape (ofRaw output) (ofRaw query) := by
    rw [clean]
    exact sameShape_of_convert accepted
  have again := convert_of_sameShape same accepted
  rw [clean] at again
  calc
    convert output
      = .ok (ofTokens (Pass.runAll structuralPasses (tokensOfClean output))) := again
    _ = .ok (ofTokens (Pass.runAll structuralPasses (tokensOfClean (ofRaw query)))) := by
      rw [fixed, passed]
    _ = .ok output := congrArg _ converted

/-- Groups in groups, a compound, a NOT before a group and in one, an AND at the start of a group
and a stray hyphen. -/
theorem convert_again_groups :
    let query := "A (b-c (and not d)) NOT [e  - Fg]".toList
    let output := "+a +(+\"b-c\" +(-d)) -(+e +fg)".toList
    let stream := [['+'], ['a'], ['+'], ['('], ['+'], "\"b-c\"".toList, ['+'], ['('], ['-'], ['d'],
      [')'], [')'], ['-'], ['('], ['+'], ['e'], ['+'], ['f', 'g'], [')']]
    (∀ c ∈ query, c ≠ '*' ∧ isQuoteMark c = false) ∧ convert query = .ok output ∧
      (trace query).snapshot? .prefixed = some ⟨.prefixed, stream⟩ ∧
      [Operator.or.symbol] ∉ stream ∧ HaveItems (stream.map Token.ofTerm) ∧
      convert output = .ok output := by
  intro query output stream
  have plain : ∀ c ∈ query, c ≠ '*' ∧ isQuoteMark c = false := by
    have known : query.all fun c => c != '*' && !isQuoteMark c := by decide +kernel
    intro c member
    simpa using List.all_eq_true.mp known c member
  have accepted : convert query = .ok output := by decide +kernel
  have shown : (trace query).snapshot? .prefixed = some ⟨.prefixed, stream⟩ := by decide +kernel
  have noOr : [Operator.or.symbol] ∉ stream := by decide +kernel
  have items : HaveItems (stream.map Token.ofTerm) := by
    have read : stream.map Token.ofTerm =
        Pass.runAll structuralPasses (tokensOfClean (ofRaw query)) := by decide +kernel
    rw [read, haveItems_iff (isChain_passes _)]
    decide +kernel
  exact ⟨plain, accepted, shown, noOr, items,
    convert_again query output plain accepted shown noOr items⟩

end Query

end FullTextQuery
