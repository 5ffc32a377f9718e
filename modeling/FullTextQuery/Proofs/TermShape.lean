import FullTextQuery.Proofs.BracketsKept
import FullTextQuery.Proofs.Layout
import Mathlib.Data.List.Count

/-!
# What terms look like

The terms of a clean text with paired quotes are phrases, with their quotes at both ends and none
inside, and pieces without a quote, in which a character that is a delimiter by itself stands alone.
Dropping characters and merging compounds keep that (`Shaped`), so without wildcards every token is
solid (`isSolid_of_mem_tokensOfClean`): it begins and ends with a character that settling the spaces
does not look at. The brackets of such tokens are those of the text, so they balance if the text is
accepted (`balanced_tokensOfClean`).
-/

namespace FullTextQuery

namespace Brackets

variable {α β : Type} [DecidableEq α] [DecidableEq β] {opening closing : α}

/-- Renaming tokens one by one keeps the balance of their brackets. -/
theorem Balanced.map {name : α → β} (injective : Function.Injective name) {tokens : List α}
    (balanced : Balanced opening closing tokens) :
    Balanced (name opening) (name closing) (tokens.map name) := by
  obtain ⟨closed_le, count_eq⟩ := balanced
  refine ⟨fun front isFront => ?_, ?_⟩
  · obtain ⟨named, isNamed, rfl⟩ := List.prefix_map_iff.mp isFront
    rw [List.count_map_of_injective _ _ injective, List.count_map_of_injective _ _ injective]
    exact closed_le named isNamed
  · rwa [List.count_map_of_injective _ _ injective, List.count_map_of_injective _ _ injective]

end Brackets

namespace Term

open FullText Lexeme

/-! ## Phrases and pieces -/

/-- A phrase with its quotes at both ends and none inside. -/
def IsQuoted (term : Text) : Prop :=
  ∃ body, '\"' ∉ body ∧ term = '\"' :: (body ++ ['\"'])

theorem IsQuoted.isPhrase {term : Text} (quoted : IsQuoted term) : isPhrase term := by
  obtain ⟨body, -, rfl⟩ := quoted
  rfl

/-- A delimiter of one character stands alone. -/
def Unbroken (term : Text) : Prop :=
  ∀ c ∈ term, Solo c → term = [c]

/-- Where quotes come in pairs, a term is a phrase that is closed, or a lexeme that is no quote. -/
theorem isQuoted_or_mem {lexemes : List Text}
    (own : ∀ lexeme ∈ lexemes, '\"' ∈ lexeme → lexeme = quote) {phrase : Option Text}
    (opened : ∀ text ∈ phrase, ∃ body, '\"' ∉ body ∧ text = '\"' :: body)
    (closed : (lexemes.count quote + phrase.toList.length) % 2 = 0) {term : Text}
    (member : term ∈ mergePhrasesFrom phrase lexemes) :
    IsQuoted term ∨ (term ∈ lexemes ∧ term ≠ quote) := by
  induction lexemes generalizing phrase with
  | nil =>
    cases phrase with
    | none => cases member
    | some phrase => simp at closed
  | cons lexeme lexemes ih =>
    have ownRest : ∀ next ∈ lexemes, '\"' ∈ next → next = quote := fun next isNext =>
      own next (List.mem_cons_of_mem _ isNext)
    have later (known : IsQuoted term ∨ (term ∈ lexemes ∧ term ≠ quote)) :
        IsQuoted term ∨ (term ∈ lexeme :: lexemes ∧ term ≠ quote) :=
      known.imp_right (And.imp_left (List.mem_cons_of_mem _))
    by_cases isQuote : lexeme = quote
    · subst isQuote
      rw [List.count_cons_self] at closed
      cases phrase with
      | none =>
        rw [mergePhrasesFrom, if_pos rfl] at member
        refine later (ih ownRest (fun text isText => ?_) (by simp at closed ⊢; omega) member)
        obtain rfl := Option.some.inj isText
        exact ⟨[], by simp, rfl⟩
      | some phrase =>
        obtain ⟨body, free, rfl⟩ := opened _ rfl
        rw [mergePhrasesFrom, if_pos rfl] at member
        rcases List.mem_cons.mp member with rfl | inRest
        · exact .inl ⟨body, free, rfl⟩
        · exact later (ih ownRest (by simp) (by simp at closed ⊢; omega) inRest)
    · rw [List.count_cons_of_ne isQuote] at closed
      cases phrase with
      | none =>
        rw [mergePhrasesFrom, if_neg isQuote] at member
        rcases List.mem_cons.mp member with rfl | inRest
        · exact .inr ⟨List.mem_cons_self, isQuote⟩
        · exact later (ih ownRest (by simp) closed inRest)
      | some phrase =>
        obtain ⟨body, free, rfl⟩ := opened _ rfl
        rw [mergePhrasesFrom, if_neg isQuote] at member
        have noQuote : '\"' ∉ lexeme := fun inside =>
          isQuote (own lexeme List.mem_cons_self inside)
        have longer : ∀ text ∈ some ('\"' :: body ++ lexeme),
            ∃ body, '\"' ∉ body ∧ text = '\"' :: body := by
          intro text isText
          obtain rfl := Option.some.inj isText
          exact ⟨body ++ lexeme, by simp [free, noQuote], rfl⟩
        exact later (ih ownRest longer closed member)

/-- A term of a clean text whose quotes are paired. -/
theorem shape_of_mem_ofClean {clean term : Text} (even : clean.count '\"' % 2 = 0)
    (member : term ∈ ofClean clean) : IsQuoted term ∨ '\"' ∉ term ∧ Unbroken term := by
  have closed : (ofText clean).count quote % 2 = 0 := by rwa [count_quote_ofText]
  have own (lexeme : Text) (isOne : lexeme ∈ ofText clean) (inside : '\"' ∈ lexeme) :
      lexeme = quote := eq_singleton_of_mem_ofText solo_quote isOne inside
  rcases isQuoted_or_mem own (by simp) (by simpa using closed) member with
    quoted | ⟨isOne, notQuote⟩
  · exact .inl quoted
  · refine .inr ⟨fun inside => notQuote (own term isOne inside), fun c inside solo => ?_⟩
    exact eq_singleton_of_mem_ofText solo isOne inside

/-! ## Terms without wildcards -/

/-- A term of allowed characters without wildcards, as a phrase or a piece outside phrases. -/
structure Shaped (term : Text) : Prop where
  /-- Its characters are allowed, and none is a wildcard. -/
  allowed : ∀ c ∈ term, isAllowed c ∧ c ≠ '*'
  /-- It is a closed phrase, or it has no quote and no delimiter beside other characters. -/
  whole : IsQuoted term ∨ '\"' ∉ term ∧ Unbroken term

theorem shaped_keepAllowed {clean term : Text} (even : clean.count '\"' % 2 = 0)
    (noWildcard : '*' ∉ clean) (member : term ∈ ofClean clean) : Shaped (keepAllowed term) where
  allowed c inside := by
    obtain ⟨inTerm, allowed⟩ := List.mem_filter.mp inside
    refine ⟨allowed, fun isWildcard => noWildcard ?_⟩
    subst isWildcard
    rw [← flatten_ofClean clean]
    exact List.mem_flatten.mpr ⟨term, member, inTerm⟩
  whole := by
    rcases shape_of_mem_ofClean even member with ⟨body, free, rfl⟩ | ⟨noQuote, unbroken⟩
    · have quoteKept : isAllowed '\"' := by decide
      refine .inl ⟨keepAllowed body, fun inside => free (List.mem_filter.mp inside).1, ?_⟩
      unfold keepAllowed
      rw [List.filter_cons_of_pos quoteKept, List.filter_append, List.filter_cons_of_pos quoteKept]
      rfl
    · refine .inr ⟨fun inside => noQuote (List.mem_filter.mp inside).1, fun c inside solo => ?_⟩
      obtain ⟨inTerm, allowed⟩ := List.mem_filter.mp inside
      rw [unbroken c inTerm solo]
      exact List.filter_cons_of_pos allowed

/-- A compound of shaped terms is a phrase. -/
theorem Shaped.compound {before hyphen after : Text} (first : Shaped before)
    (joined : joins before hyphen after) (second : Shaped after) :
    Shaped (compound before after) := by
  obtain ⟨-, ⟨-, noPhraseFirst⟩, -, noPhraseSecond⟩ := joins_iff.mp joined
  have free {part : Text} (shaped : Shaped part) (noPhrase : isPhrase part = false) :
      '\"' ∉ part := by
    rcases shaped.whole with quoted | ⟨noQuote, -⟩
    · rw [quoted.isPhrase] at noPhrase
      cases noPhrase
    · exact noQuote
  have noneFirst := free first noPhraseFirst
  have noneSecond := free second noPhraseSecond
  have shape : Term.compound before after = '\"' :: (before ++ '-' :: after ++ ['\"']) := by
    simp [Term.compound, quote]
  refine ⟨fun c inside => ?_, .inl ⟨before ++ '-' :: after, ?_, shape⟩⟩
  · simp only [shape, List.mem_cons, List.mem_append, List.not_mem_nil, or_false] at inside
    rcases inside with rfl | (inFirst | rfl | inSecond) | rfl
    · decide
    · exact first.allowed c inFirst
    · decide
    · exact second.allowed c inSecond
    · decide
  · simp [noneFirst, noneSecond]

theorem shaped_mergeCompounds {terms : List Text} (shaped : ∀ term ∈ terms, Shaped term) :
    ∀ term ∈ mergeCompounds terms, Shaped term :=
  forall_mem_mergeCompounds
    (fun _ _ _ joined first _ second => first.compound joined second) shaped

theorem attachWildcards_eq_self {terms : List Text} (free : wildcard ∉ terms) :
    attachWildcards terms = terms := by
  have walk (held : Text) (rest : List Text) (restFree : wildcard ∉ rest) :
      attachWildcardsFrom held rest = held :: rest := by
    induction rest generalizing held with
    | nil => rfl
    | cons term rest ih =>
      rw [List.mem_cons, not_or] at restFree
      rw [attachWildcardsFrom, if_neg (Ne.symm restFree.1), ih term restFree.2]
  cases terms with
  | nil => rfl
  | cons first rest =>
    rw [List.mem_cons, not_or] at free
    exact walk first rest free.2

/-! ## Solid tokens -/

/-- The only blank that is allowed is the space. -/
theorem eq_space_of_isBlank {c : Char} (allowed : isAllowed c) (blank : Character.isBlank c) :
    c = ' ' :=
  @Character.forall_blank (fun c => isAllowed c → c = ' ') (by decide +kernel) c blank allowed

/-- An allowed character is none of those that are dropped. -/
theorem not_mem_of_isAllowed {marks : List Char} (dropped : marks.all fun mark => !isAllowed mark)
    {c : Char} (allowed : isAllowed c) : c ∉ marks := by
  intro member
  have isDropped := List.all_eq_true.mp dropped c member
  rw [allowed] at isDropped
  cases isDropped

/-- A word of a shaped term has inert characters only. -/
theorem Shaped.inert {term : Text} (shaped : Shaped term) (unbroken : Unbroken term)
    (visible : term.isBlank = false)
    (noBracket : term ≠ ['('] ∧ term ≠ [')']) (noSymbol : term ≠ ['+'] ∧ term ≠ ['-']) :
    ∀ c ∈ term, Inert c := by
  intro c inside
  have allowed := (shaped.allowed c inside).1
  have alone (solo : Solo c) : term = [c] := unbroken c inside solo
  refine ⟨Bool.eq_false_iff.mpr fun blank => ?_, fun listed => ?_⟩
  · obtain rfl := eq_space_of_isBlank allowed blank
    rw [alone (by decide)] at visible
    cases visible
  · simp only [List.mem_cons, List.not_mem_nil, or_false] at listed
    rcases listed with rfl | rfl | rfl | rfl | rfl
    · exact noSymbol.1 (alone (by decide))
    · exact noSymbol.2 (alone (by decide))
    · exact absurd allowed (by decide)
    · exact noBracket.1 (alone (by decide))
    · exact noBracket.2 (alone (by decide))

theorem solid_of_isQuoted {text : Text} (quoted : IsQuoted text) : Solid text := by
  obtain ⟨body, -, rfl⟩ := quoted
  exact ⟨⟨'\"', _, rfl, by decide⟩, '\"' :: body, '\"', rfl, by decide⟩

/-- The token of a shaped term is solid. -/
theorem Shaped.isSolid {term : Text} (shaped : Shaped term) (visible : term.isBlank = false) :
    IsSolid (Token.ofTerm term) := by
  unfold Token.ofTerm
  split_ifs with isAnd isOr isNot opens closes plus marker minus starts
  · exact isSolid_of_isOperator rfl
  · exact isSolid_of_isOperator rfl
  · exact isSolid_of_isOperator rfl
  · trivial
  · trivial
  · trivial
  · trivial
  · trivial
  · refine solid_of_isQuoted (shaped.whole.resolve_right fun other => other.1 ?_)
    exact List.mem_of_mem_head? starts
  · rcases shaped.whole with ⟨body, -, rfl⟩ | ⟨-, unbroken⟩
    · exact absurd rfl starts
    · refine solid_of_inert ?_
        (shaped.inert unbroken visible ⟨opens, closes⟩ ⟨plus, minus⟩)
      rintro rfl
      cases visible

end Term

namespace Query

open Brackets FullText Prefixed Term

variable {clean : Text}

/-! ## Tokens without wildcards -/

theorem shaped_compoundsOf (even : clean.count '\"' % 2 = 0) (noWildcard : '*' ∉ clean) :
    ∀ term ∈ compoundsOf clean, Shaped term := by
  refine shaped_mergeCompounds fun term member => ?_
  obtain ⟨source, isSource, rfl⟩ := List.mem_map.mp member
  exact shaped_keepAllowed even noWildcard isSource

/-- Without wildcards the tokens are the visible compounds. -/
theorem tokensOfClean_eq_visible (even : clean.count '\"' % 2 = 0) (noWildcard : '*' ∉ clean) :
    tokensOfClean clean = (visible (compoundsOf clean)).map Token.ofTerm := by
  have free : wildcard ∉ compoundsOf clean := fun member =>
    ((shaped_compoundsOf even noWildcard _ member).allowed '*' List.mem_cons_self).2 rfl
  rw [tokensOfClean_eq]
  exact congrArg (fun terms => (visible terms).map Token.ofTerm) (attachWildcards_eq_self free)

theorem isSolid_of_mem_tokensOfClean (even : clean.count '\"' % 2 = 0) (noWildcard : '*' ∉ clean) :
    ∀ token ∈ tokensOfClean clean, IsSolid token := by
  intro token member
  rw [tokensOfClean_eq_visible even noWildcard] at member
  obtain ⟨term, isVisible, rfl⟩ := List.mem_map.mp member
  obtain ⟨isTerm, visible⟩ := List.mem_filter.mp isVisible
  exact (shaped_compoundsOf even noWildcard term isTerm).isSolid (by simpa using visible)

/-- The brackets of an accepted text without wildcards balance in its tokens. -/
theorem balanced_tokensOfClean (even : clean.count '\"' % 2 = 0) (noWildcard : '*' ∉ clean)
    (balance : bracketsBalance (ofClean clean)) :
    Balanced Token.opening Token.closing (tokensOfClean clean) := by
  have injective : Function.Injective Token.ofTerm := Function.LeftInverse.injective text_ofTerm
  have same :
      (visible (compoundsOf clean)).filter isBracket = (ofClean clean).filter isBracket := by
    rw [filter_isBracket_visible, filter_isBracket_compoundsOf]
  have balanced := (balanced_congr same).mpr ((bracketsBalance_iff_balanced _).mp balance)
  rw [tokensOfClean_eq_visible even noWildcard]
  exact balanced.map injective

end Query

end FullTextQuery
