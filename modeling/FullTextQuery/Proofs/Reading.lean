import FullTextQuery.Proofs.Expression
import FullTextQuery.Proofs.Parts
import FullTextQuery.Proofs.TidyText

/-!
# Reading expressions

What the conversion makes of the spelling of an expression, up to its tokens. `Reads text tokens`
says that a part of a query is read as tokens, whatever stands around it: it is tidy, its quotes and
brackets are closed, and its terms stand for these tokens. Each kind of atom is read by itself, and
parts are put together with spaces and brackets (`Reads.space`, `Reads.group`), so that
`Expression.reads` is an induction on the expression.
-/

namespace FullTextQuery

open CleanText Term Query

/-! ## Typed characters -/

/-- The characters that expressions are typed with. -/
def isTyped (c : Char) : Bool :=
  isWordChar c || [' ', '\"', '(', ')', '-', '*'].contains c

theorem ascii_of_isWordChar {c : Char} (plain : isWordChar c) : c.toNat < 128 := by
  rw [isWordChar, Bool.or_eq_true] at plain
  rcases plain with isLetter | isDigit
  · have bound : c.val ≤ 'z'.val := of_decide_eq_true (Bool.and_eq_true_iff.mp isLetter).2
    exact Nat.lt_of_le_of_lt (UInt32.le_iff_toNat_le.mp bound) (by decide)
  · have bound : c.val ≤ '9'.val := of_decide_eq_true (Bool.and_eq_true_iff.mp isDigit).2
    exact Nat.lt_of_le_of_lt (UInt32.le_iff_toNat_le.mp bound) (by decide)

theorem ascii_of_isTyped {c : Char} (typed : isTyped c) : c.toNat < 128 := by
  rw [isTyped, Bool.or_eq_true] at typed
  rcases typed with plain | other
  · exact ascii_of_isWordChar plain
  · have ascii : [' ', '\"', '(', ')', '-', '*'].all fun c => c.toNat < 128 := by decide
    exact of_decide_eq_true (List.all_eq_true.mp ascii c (List.contains_iff_mem.mp other))

theorem ascii_of_toLower {c : Char} (ascii : c.toLower.toNat < 128) : c.toNat < 128 := by
  by_cases capital : c.val ≥ 'A'.val ∧ c.val ≤ 'Z'.val
  · exact Nat.lt_of_le_of_lt (UInt32.le_iff_toNat_le.mp capital.2) (by decide)
  · have kept : c.toLower = c := dif_neg capital
    rwa [kept] at ascii

/-- No step changes a letter or digit of a word, and no delimiter has one. -/
theorem isWordChar_facts {c : Char} (plain : isWordChar c) :
    Lexeme.InWord c ∧ isAllowed c ∧ Character.isBlank c = false := by
  have codes : ∀ code < 128, isWordChar (Char.ofNat code) →
      Lexeme.InWord (Char.ofNat code) ∧ isAllowed (Char.ofNat code) ∧
        Character.isBlank (Char.ofNat code) = false := by decide +kernel
  exact ascii_induction (motive := fun c => isWordChar c →
    Lexeme.InWord c ∧ isAllowed c ∧ Character.isBlank c = false) codes c
      (ascii_of_isWordChar plain) plain

theorem isMark_of_isWordChar {c : Char} (plain : isWordChar c) : isMark c = false := by
  refine Bool.eq_false_iff.mpr fun mark => ?_
  rcases isMark_eq_true mark with rfl | rfl | rfl
  · cases plain
  · cases plain
  · cases plain

/-- Cleaning changes no typed character but capitals. -/
theorem isTyped_facts {c : Char} (ascii : c.toNat < 128) (typed : isTyped c.toLower) :
    Text.afterFolded?.foldCase c ≠ ':' ∧ Text.afterFolded?.foldCase c ≠ '&' ∧ plainMark c = c ∧
      (Character.isBlank c → c = ' ') := by
  have codes : ∀ code < 128, isTyped (Char.ofNat code).toLower →
      Text.afterFolded?.foldCase (Char.ofNat code) ≠ ':' ∧
        Text.afterFolded?.foldCase (Char.ofNat code) ≠ '&' ∧
        plainMark (Char.ofNat code) = Char.ofNat code ∧
        (Character.isBlank (Char.ofNat code) → Char.ofNat code = ' ') := by decide +kernel
  exact ascii_induction (motive := fun c => isTyped c.toLower →
    Text.afterFolded?.foldCase c ≠ ':' ∧ Text.afterFolded?.foldCase c ≠ '&' ∧ plainMark c = c ∧
      (Character.isBlank c → c = ' ')) codes c ascii typed

/-! ## Typed text -/

/-- Text that can stand between spaces in a query. -/
structure TypedText (text : Text) : Prop where
  /-- There is some text. -/
  notEmpty : text ≠ []
  /-- It has typed characters only. -/
  typed : ∀ c ∈ text, isTyped c
  /-- No space stands after a space or a hyphen. -/
  apart : text.IsChain Apart
  /-- It does not begin with a space. -/
  first : ∀ c ∈ text.head?, c ≠ ' '
  /-- It does not end with a space or a hyphen. -/
  last : ∀ c ∈ text.getLast?, c ≠ ' ' ∧ c ≠ '-'

namespace TypedText

variable {front back : Text}

theorem single {c : Char} (typed : isTyped c) (visible : c ≠ ' ' ∧ c ≠ '-') : TypedText [c] where
  notEmpty := by simp
  typed := by simpa using typed
  apart := .singleton c
  first := by simpa using visible.1
  last := by simpa using visible

/-- Two parts are typed with nothing, a space or a hyphen between them. -/
theorem append_between {between : Text} (known : between = [] ∨ between = [' '] ∨ between = ['-'])
    (left : TypedText front) (right : TypedText back) : TypedText (front ++ (between ++ back)) where
  notEmpty := by simp [left.notEmpty]
  typed := by
    have typedBetween : between.all isTyped := by
      rcases known with rfl | rfl | rfl
      · rfl
      · rfl
      · rfl
    intro c member
    rw [List.mem_append, List.mem_append] at member
    rcases member with inFront | inBetween | inBack
    · exact left.typed c inFront
    · exact List.all_eq_true.mp typedBetween c inBetween
    · exact right.typed c inBack
  apart := by
    have inner : (between ++ back).IsChain Apart := by
      rcases known with rfl | rfl | rfl
      · exact right.apart
      · exact List.isChain_cons.mpr ⟨fun next isNext => fun loose =>
          right.first next isNext loose.2, right.apart⟩
      · exact List.isChain_cons.mpr ⟨fun next isNext => fun loose =>
          right.first next isNext loose.2, right.apart⟩
    refine List.isChain_append.mpr ⟨left.apart, inner, fun final isLast next _ loose => ?_⟩
    obtain ⟨noSpace, noHyphen⟩ := left.last final isLast
    rcases loose.1 with isSpace | isHyphen
    · exact noSpace isSpace
    · exact noHyphen isHyphen
  first := by
    rw [List.head?_append_of_ne_nil _ left.notEmpty]
    exact left.first
  last := by
    have shape : front ++ (between ++ back) = (front ++ between) ++ back := by simp
    rw [shape, List.getLast?_append_of_ne_nil _ right.notEmpty]
    exact right.last

theorem append (left : TypedText front) (right : TypedText back) : TypedText (front ++ back) :=
  append_between (.inl rfl) left right

theorem space (left : TypedText front) (right : TypedText back) :
    TypedText (front ++ ' ' :: back) :=
  append_between (.inr (.inl rfl)) left right

theorem hyphen (left : TypedText front) (right : TypedText back) :
    TypedText (front ++ '-' :: back) :=
  append_between (.inr (.inr rfl)) left right

theorem of_isWordChar {text : Text} (notEmpty : text ≠ []) (plain : ∀ c ∈ text, isWordChar c) :
    TypedText text := by
  have start {c : Char} (isPlain : isWordChar c) : TypedText [c] := by
    refine single (by rw [isTyped, isPlain]; rfl) ⟨?_, ?_⟩
    · intro equal
      subst equal
      cases isPlain
    · intro equal
      subst equal
      cases isPlain
  induction text with
  | nil => exact absurd rfl notEmpty
  | cons c rest ih =>
    have first := start (plain c List.mem_cons_self)
    cases rest with
    | nil => exact first
    | cons next rest =>
      exact first.append (ih (by simp) fun c member => plain c (List.mem_cons_of_mem _ member))

/-- Typed in any letter case, typed text is tidy, and cleaning gives it in small letters. -/
theorem ofRaw_eq {query text : Text} (typed : TypedText text)
    (spelled : query.map Char.toLower = text) : ofRaw query = text := by
  subst spelled
  have lowered {c : Char} (member : c ∈ query) : isTyped c.toLower :=
    typed.typed _ (List.mem_map_of_mem member)
  have ascii : ∀ c ∈ query, c.toNat < 128 := fun c member =>
    ascii_of_toLower (ascii_of_isTyped (lowered member))
  have facts {c : Char} (member : c ∈ query) := isTyped_facts (ascii c member) (lowered member)
  have tidy : Tidy query := {
    noMarker := fun c member => ⟨(facts member).1, (facts member).2.1⟩
    plain := fun c member => (facts member).2.2.1
    spaces := fun c member => (facts member).2.2.2
    apart := by
      have chain := typed.apart
      rw [List.isChain_map] at chain
      refine chain.imp fun left right fine loose => fine ⟨?_, by rw [loose.2]; rfl⟩
      rcases loose.1 with rfl | rfl
      · exact .inl rfl
      · exact .inr rfl
    first := by
      intro c isFirst equal
      subst equal
      exact typed.first ' ' (by rw [List.head?_map, isFirst]; rfl) rfl
    last := by
      intro c isLast equal
      subst equal
      exact (typed.last ' ' (by rw [List.getLast?_map, isLast]; rfl)).1 rfl }
  rw [ofRaw_of_tidy tidy, lowercase_ascii ascii]

end TypedText

/-! ## Terms -/

/-- Text that is read as one term of kept characters is one token. -/
theorem tokensOfClean_term {clean term : Text} (single : ofClean clean = [term])
    (allowed : ∀ c ∈ term, isAllowed c) (visible : term.isBlank = false) :
    tokensOfClean clean = [Token.ofTerm term] := by
  have kept : keepAllowed term = term := List.filter_eq_self.mpr allowed
  have shown : Term.visible [term] = [term] := by simp [Term.visible, visible]
  have merged : attachWildcards (mergeCompounds [term]) = [term] := rfl
  rw [tokensOfClean_eq, single, List.map_singleton, kept, merged, shown]
  rfl

theorem ofTerm_operand {term : Text} (noKeyword : ∀ operator : Operator, term ≠ operator.keyword)
    (noBracket : term ≠ ['('] ∧ term ≠ [')'])
    (noSymbol : ∀ operator : Operator, term ≠ [operator.symbol])
    (noPhrase : term.head? ≠ some '\"') : Token.ofTerm term = .operand term := by
  simp only [Token.ofTerm, noKeyword, noBracket.1, noBracket.2, noSymbol, noPhrase, if_false]

theorem ofTerm_phrase (body : Text) : Token.ofTerm ('\"' :: body) = .phrase ('\"' :: body) := by
  simp [Token.ofTerm, Operator.keyword, Operator.symbol]

namespace Word

variable (word : Word)

theorem isWordChar_of_mem {c : Char} (member : c ∈ word.text) : isWordChar c :=
  List.all_eq_true.mp word.plain c member

/-- A word begins with a letter or digit. -/
theorem exists_cons : ∃ c rest, word.text = c :: rest ∧ isWordChar c := by
  cases text : word.text with
  | nil => exact absurd text word.notEmpty
  | cons c rest => exact ⟨c, rest, rfl, word.isWordChar_of_mem (by simp [text])⟩

theorem not_mem {c : Char} (other : isWordChar c = false) : c ∉ word.text := by
  intro member
  rw [word.isWordChar_of_mem member] at other
  cases other

theorem quote_not_mem : '\"' ∉ word.text :=
  word.not_mem (by decide)

theorem head?_ne {c : Char} (other : isWordChar c = false) (rest : Text) :
    (word.text ++ rest).head? ≠ some c := by
  obtain ⟨first, more, text, plain⟩ := word.exists_cons
  rw [text]
  intro impossible
  cases impossible
  rw [plain] at other
  cases other

theorem ne_singleton {c : Char} (other : isWordChar c = false) (rest : Text) :
    word.text ++ rest ≠ [c] := by
  intro same
  exact word.head?_ne other rest (by rw [same]; rfl)

theorem typedText : TypedText word.text :=
  .of_isWordChar word.notEmpty fun _ member => word.isWordChar_of_mem member

theorem allowed : ∀ c ∈ word.text, isAllowed c := fun _ member =>
  (isWordChar_facts (word.isWordChar_of_mem member)).2.1

theorem visible (rest : Text) : (word.text ++ rest).isBlank = false := by
  obtain ⟨first, more, text, plain⟩ := word.exists_cons
  rw [text, List.cons_append, Text.isBlank, List.all_cons, (isWordChar_facts plain).2.2]
  rfl

theorem ofText_text : Lexeme.ofText word.text = [word.text] :=
  Lexeme.ofText_word word.notEmpty fun _ member =>
    (isWordChar_facts (word.isWordChar_of_mem member)).1

/-- A word with what may follow it is no operator, no bracket and no phrase. -/
theorem ofTerm_append {rest : Text}
    (noKeyword : ∀ operator : Operator, word.text ++ rest ≠ operator.keyword) :
    Token.ofTerm (word.text ++ rest) = .operand (word.text ++ rest) := by
  refine ofTerm_operand noKeyword ⟨?_, ?_⟩ (fun operator => ?_) ?_
  · exact word.ne_singleton (by decide) rest
  · exact word.ne_singleton (by decide) rest
  · exact word.ne_singleton (by cases operator <;> decide) rest
  · exact word.head?_ne (by decide) rest

/-! ## Atoms -/

theorem tokensOfClean_text : tokensOfClean word.text = [.operand word.text] := by
  have single : ofClean word.text = [word.text] := by
    rw [ofClean_eq_ofText word.quote_not_mem, word.ofText_text]
  have noKeyword (operator : Operator) : word.text ++ [] ≠ operator.keyword := by
    rw [List.append_nil]
    exact word.notKeyword operator (by cases operator <;> decide)
  have isOperand := word.ofTerm_append noKeyword
  have visible := word.visible []
  rw [List.append_nil] at isOperand visible
  rw [tokensOfClean_term single word.allowed visible, isOperand]

/-- A wildcard goes with the word before it. -/
theorem tokensOfClean_wildcard :
    tokensOfClean (word.text ++ ['*']) = [.operand (word.text ++ ['*'])] := by
  have solo : Lexeme.Solo '*' := by decide
  have noQuote : '\"' ∉ word.text ++ ['*'] := by simp [word.quote_not_mem]
  have terms : ofClean (word.text ++ ['*']) = [word.text, ['*']] := by
    rw [ofClean_eq_ofText noQuote, Lexeme.ofText_append_solo solo, word.ofText_text]
    rfl
  have kept : keepAllowed word.text = word.text := List.filter_eq_self.mpr word.allowed
  have noKeyword (operator : Operator) : word.text ++ ['*'] ≠ operator.keyword := by
    intro same
    have last : operator.keyword.getLast? = some '*' := by rw [← same, List.getLast?_concat]
    cases operator <;> cases last
  have shown : Term.visible [word.text ++ ['*']] = [word.text ++ ['*']] := by
    simp [Term.visible, word.visible]
  have merged : attachWildcards (mergeCompounds [word.text, ['*']]) = [word.text ++ ['*']] := rfl
  have keptMark : keepAllowed ['*'] = ['*'] := by decide
  rw [tokensOfClean_eq, terms, List.map_cons, List.map_singleton, kept, keptMark, merged, shown,
    List.map_singleton, word.ofTerm_append noKeyword]

theorem isCompoundPart_text : isCompoundPart word.text ∧ isPhrase word.text = false := by
  have visible := word.visible []
  have notOpening := @ne_singleton word '(' (by decide) []
  have notClosing := @ne_singleton word ')' (by decide) []
  have noPhrase := @head?_ne word '\"' (by decide) []
  rw [List.append_nil] at visible notOpening notClosing noPhrase
  constructor
  · simp [isCompoundPart, visible, opening, closing, notOpening, notClosing]
  · exact beq_false_of_ne noPhrase

/-- A hyphen between two words makes a phrase of them. -/
theorem tokensOfClean_compound (second : Word) :
    tokensOfClean (word.text ++ '-' :: second.text) =
      [.phrase ('\"' :: (word.text ++ '-' :: second.text ++ ['\"']))] := by
  have solo : Lexeme.Solo '-' := by decide
  have noQuote : '\"' ∉ word.text ++ '-' :: second.text := by
    simp [word.quote_not_mem, second.quote_not_mem]
  have terms : ofClean (word.text ++ '-' :: second.text) = [word.text, ['-'], second.text] := by
    rw [ofClean_eq_ofText noQuote, Lexeme.ofText_append_solo solo, word.ofText_text,
      second.ofText_text]
    rfl
  have keptFirst : keepAllowed word.text = word.text := List.filter_eq_self.mpr word.allowed
  have keptSecond : keepAllowed second.text = second.text :=
    List.filter_eq_self.mpr second.allowed
  have keptHyphen : keepAllowed ['-'] = ['-'] := by decide
  have joined : joins word.text ['-'] second.text := by
    simp [joins, word.isCompoundPart_text, second.isCompoundPart_text]
  have merged : mergeCompounds [word.text, ['-'], second.text] =
      [compound word.text second.text] := by
    rw [mergeCompounds, mergeCompoundsFrom, if_pos joined]
    rfl
  have shape : compound word.text second.text =
      '\"' :: (word.text ++ '-' :: second.text ++ ['\"']) := by
    simp [compound, quote]
  have shown : Term.visible [compound word.text second.text] =
      [compound word.text second.text] := by
    rw [shape, Term.visible, List.filter_cons_of_pos]
    · rfl
    · rfl
  have attached : attachWildcards [compound word.text second.text] =
      [compound word.text second.text] := rfl
  rw [tokensOfClean_eq, terms, List.map_cons, List.map_cons, List.map_singleton, keptFirst,
    keptHyphen, keptSecond, merged, attached, shown, shape, List.map_singleton, ofTerm_phrase]

end Word

/-- The words of a phrase and the spaces between them. -/
def phraseBody (first : Word) (more : List Word) : Text :=
  Text.join [' '] ((first :: more).map Word.text)

theorem phraseBody_cons (first second : Word) (more : List Word) :
    phraseBody first (second :: more) = first.text ++ ' ' :: phraseBody second more := by
  simp [phraseBody, Text.join]

theorem mem_phraseBody {first : Word} {more : List Word} {c : Char}
    (member : c ∈ phraseBody first more) : isWordChar c ∨ c = ' ' := by
  induction more generalizing first with
  | nil => exact .inl (first.isWordChar_of_mem member)
  | cons second more ih =>
    rw [phraseBody_cons, List.mem_append, List.mem_cons] at member
    rcases member with inWord | isSpace | later
    · exact .inl (first.isWordChar_of_mem inWord)
    · exact .inr isSpace
    · exact ih later

theorem typedText_phraseBody (first : Word) (more : List Word) :
    TypedText (phraseBody first more) := by
  induction more generalizing first with
  | nil => exact first.typedText
  | cons second more ih =>
    rw [phraseBody_cons]
    exact first.typedText.space (ih second)

theorem not_mem_phraseBody {c : Char} (other : isWordChar c = false) (visible : c ≠ ' ')
    (first : Word) (more : List Word) : c ∉ phraseBody first more := by
  intro member
  rcases mem_phraseBody member with plain | isSpace
  · rw [plain] at other
    cases other
  · exact visible isSpace

theorem spellPhrase_eq (first : Word) (more : List Word) :
    spellPhrase first more = '\"' :: (phraseBody first more ++ ['\"']) := rfl

theorem tokensOfClean_phrase (first : Word) (more : List Word) :
    tokensOfClean (spellPhrase first more) = [.phrase (spellPhrase first more)] := by
  have noQuote := not_mem_phraseBody (c := '\"') (by decide) (by decide) first more
  have single : ofClean (spellPhrase first more) = [spellPhrase first more] := by
    rw [spellPhrase_eq, ofClean_phrase noQuote]
    rfl
  have allowed : ∀ c ∈ spellPhrase first more, isAllowed c := by
    intro c member
    rw [spellPhrase_eq, List.mem_cons, List.mem_append, List.mem_singleton] at member
    rcases member with rfl | inBody | rfl
    · decide
    · rcases mem_phraseBody inBody with plain | rfl
      · exact (isWordChar_facts plain).2.1
      · decide
    · decide
  rw [tokensOfClean_term single allowed rfl, spellPhrase_eq, ofTerm_phrase]

/-! ## Reading -/

/-- A part of a query that is read as tokens, whatever stands around it. -/
structure Reads (text : Text) (tokens : List Token) : Prop where
  /-- It can stand between spaces. -/
  typed : TypedText text
  /-- Its phrases are closed. -/
  even : text.count '\"' % 2 = 0
  /-- Its groups are closed. -/
  closed : ∀ depth rest, balancedFrom false depth (text ++ rest) = balancedFrom false depth rest
  /-- It does not begin with a wildcard. -/
  noWildcard : text.head? ≠ some '*'
  /-- Its tokens. -/
  tokens_eq : tokensOfClean text = tokens

namespace Reads

variable {front back : Text} {frontTokens backTokens : List Token}

/-- Text without quotes and brackets has nothing to close. -/
theorem of_unmarked {text : Text} {tokens : List Token} (typed : TypedText text)
    (unmarked : ∀ c ∈ text, isMark c = false) (noWildcard : text.head? ≠ some '*')
    (tokens_eq : tokensOfClean text = tokens) : Reads text tokens := by
  have free {mark : Char} (isOne : isMark mark) : mark ∉ text := by
    intro member
    rw [unmarked mark member] at isOne
    cases isOne
  have noQuote : '\"' ∉ text := free (by decide)
  refine ⟨typed, by rw [List.count_eq_zero.mpr noQuote], fun depth rest => ?_, noWildcard,
    tokens_eq⟩
  exact balancedFrom_skip noQuote (fun _ => ⟨free (by decide), free (by decide)⟩) depth rest

/-- What is read is a part that is typed. -/
theorem part (reads : Reads front frontTokens) : Part front frontTokens :=
  ⟨reads.even, reads.closed, reads.noWildcard, reads.tokens_eq⟩

theorem of_part (typed : TypedText front) (part : Part front frontTokens) :
    Reads front frontTokens :=
  ⟨typed, part.even, part.closed, part.noWildcard, part.tokens_eq⟩

/-- Parts on both sides of a space are read by themselves. -/
theorem space (left : Reads front frontTokens) (right : Reads back backTokens) :
    Reads (front ++ ' ' :: back) (frontTokens ++ backTokens) :=
  .of_part (left.typed.space right.typed) (left.part.space right.part)

/-- A part in brackets is read as a group. -/
theorem group (inner : Reads front frontTokens) :
    Reads ('(' :: (front ++ [')'])) (.opening :: (frontTokens ++ [.closing])) := by
  have opens : TypedText ['('] := .single (by decide) (by decide)
  have closes : TypedText [')'] := .single (by decide) (by decide)
  exact .of_part (opens.append (inner.typed.append closes)) inner.part.group

theorem keyword (operator : Operator) : Reads operator.keyword [.keyword operator] := by
  have allPlain : operator.keyword.all isWordChar := by cases operator <;> rfl
  have plain := List.all_eq_true.mp allPlain
  have notEmpty : operator.keyword ≠ [] := by cases operator <;> decide
  refine of_unmarked (.of_isWordChar notEmpty plain)
    (fun c member => isMark_of_isWordChar (plain c member)) ?_ ?_
  · cases operator <;> decide
  · cases operator <;> decide

theorem word (word : Word) : Reads word.text [.operand word.text] := by
  refine of_unmarked word.typedText
    (fun c member => isMark_of_isWordChar (word.isWordChar_of_mem member)) ?_
    word.tokensOfClean_text
  simpa using word.head?_ne (c := '*') (by decide) []

theorem wildcard (word : Word) :
    Reads (word.text ++ ['*']) [.operand (word.text ++ ['*'])] := by
  have mark : TypedText ['*'] := .single (by decide) (by decide)
  refine of_unmarked (word.typedText.append mark) (fun c member => ?_)
    (word.head?_ne (by decide) ['*']) word.tokensOfClean_wildcard
  rcases List.mem_append.mp member with inWord | isMark
  · exact isMark_of_isWordChar (word.isWordChar_of_mem inWord)
  · rw [List.mem_singleton.mp isMark]
    rfl

theorem compound (first second : Word) :
    Reads (first.text ++ '-' :: second.text)
      [.phrase ('\"' :: (first.text ++ '-' :: second.text ++ ['\"']))] := by
  refine of_unmarked (first.typedText.hyphen second.typedText) (fun c member => ?_)
    (first.head?_ne (by decide) _) (first.tokensOfClean_compound second)
  rw [List.mem_append, List.mem_cons] at member
  rcases member with inFirst | rfl | inSecond
  · exact isMark_of_isWordChar (first.isWordChar_of_mem inFirst)
  · rfl
  · exact isMark_of_isWordChar (second.isWordChar_of_mem inSecond)

theorem phrase (first : Word) (more : List Word) :
    Reads (spellPhrase first more) [.phrase (spellPhrase first more)] where
  typed := by
    have mark : TypedText ['\"'] := .single (by decide) (by decide)
    exact mark.append ((typedText_phraseBody first more).append mark)
  even := by
    have noQuote := not_mem_phraseBody (c := '\"') (by decide) (by decide) first more
    rw [spellPhrase_eq, List.count_cons_self, List.count_append, List.count_eq_zero.mpr noQuote]
    rfl
  closed depth rest := by
    have noQuote := not_mem_phraseBody (c := '\"') (by decide) (by decide) first more
    have shape : spellPhrase first more ++ rest =
        '\"' :: (phraseBody first more ++ '\"' :: rest) := by simp [spellPhrase_eq]
    rw [shape, balancedFrom_quote, balancedFrom_skip noQuote (by simp), balancedFrom_quote]
    rfl
  noWildcard := by simp [spellPhrase_eq]
  tokens_eq := tokensOfClean_phrase first more

end Reads

end FullTextQuery
