import FullTextQuery.Proofs.Lexing
import FullTextQuery.Query.Trace

/-!
# Terms of a text

How the merges of lexemes into terms behave on parts of a text. Phrases are merged part by part
where every phrase is closed, compounds where a blank, a bracket or a phrase stands between the
parts, and wildcards where the later part does not begin with one. `Query.tokensOfClean` puts the
steps together: `tokensOfClean_append_separator` reads a text on both sides of a space or a bracket
by itself.

The merges keep the brackets, too, so in the terms of balanced lexemes a group opens before any
closes (`head?_dropWhile_tokensOfClean`).
-/

namespace FullTextQuery

namespace Term

open Lexeme

/-! ## Phrases -/

/-- Quotes that come in pairs close every phrase, so what comes after them is merged by itself.
`phrase` is open at the start, and then the quotes that follow are odd. -/
theorem mergePhrasesFrom_append (front back : List Text) (phrase : Option Text)
    (closed : (front.count quote + phrase.toList.length) % 2 = 0) :
    mergePhrasesFrom phrase (front ++ back) =
      mergePhrasesFrom phrase front ++ mergePhrases back := by
  induction front generalizing phrase with
  | nil =>
    cases phrase with
    | none => rfl
    | some phrase => simp at closed
  | cons lexeme front ih =>
    by_cases isQuote : lexeme = quote
    · subst isQuote
      rw [List.count_cons_self] at closed
      cases phrase with
      | none =>
        simpa [mergePhrasesFrom] using ih (some quote) (by simp at closed ⊢; omega)
      | some phrase =>
        simpa [mergePhrasesFrom] using ih none (by simp at closed ⊢; omega)
    · rw [List.count_cons_of_ne isQuote] at closed
      cases phrase with
      | none => simpa [mergePhrasesFrom, isQuote] using ih none closed
      | some phrase => simpa [mergePhrasesFrom, isQuote] using ih (some (phrase ++ lexeme)) closed

theorem mergePhrases_append {front : List Text} (closed : front.count quote % 2 = 0)
    (back : List Text) :
    mergePhrases (front ++ back) = mergePhrases front ++ mergePhrases back :=
  mergePhrasesFrom_append front back none (by simpa using closed)

theorem flatten_mergePhrasesFrom (phrase : Option Text) (lexemes : List Text) :
    (mergePhrasesFrom phrase lexemes).flatten = phrase.getD [] ++ lexemes.flatten := by
  induction lexemes generalizing phrase with
  | nil => cases phrase <;> simp [mergePhrasesFrom]
  | cons lexeme lexemes ih =>
    cases phrase <;> rw [mergePhrasesFrom] <;> split <;> rename_i isQuote <;> simp [ih, isQuote]

theorem isPhrase_append {phrase : Text} (starts : isPhrase phrase) (more : Text) :
    isPhrase (phrase ++ more) := by
  cases phrase with
  | nil => cases starts
  | cons c rest => exact starts

/-- A term is a phrase or a lexeme. -/
theorem isPhrase_or_mem {phrase : Option Text} (opened : ∀ text ∈ phrase, isPhrase text)
    {lexemes : List Text} {term : Text} (member : term ∈ mergePhrasesFrom phrase lexemes) :
    isPhrase term ∨ term ∈ lexemes := by
  induction lexemes generalizing phrase with
  | nil =>
    cases phrase with
    | none => cases member
    | some phrase =>
      rw [mergePhrasesFrom, List.mem_singleton] at member
      exact .inl (member ▸ opened phrase rfl)
  | cons lexeme lexemes ih =>
    cases phrase with
    | none =>
      rw [mergePhrasesFrom] at member
      split at member
      · refine (ih (fun text isIt => ?_) member).imp_right (List.mem_cons_of_mem _)
        cases isIt
        rfl
      · rcases List.mem_cons.mp member with rfl | later
        · exact .inr List.mem_cons_self
        · exact (ih (by simp) later).imp_right (List.mem_cons_of_mem _)
    | some phrase =>
      rw [mergePhrasesFrom] at member
      split at member
      · rcases List.mem_cons.mp member with rfl | later
        · exact .inl (isPhrase_append (opened phrase rfl) _)
        · exact (ih (by simp) later).imp_right (List.mem_cons_of_mem _)
      · refine (ih (fun text isIt => ?_) member).imp_right (List.mem_cons_of_mem _)
        cases isIt
        exact isPhrase_append (opened phrase rfl) _

/-- The terms of a clean text, before anything is dropped or joined. -/
def ofClean (clean : Text) : List Text :=
  mergePhrases (ofText clean)

theorem flatten_ofClean (clean : Text) : (ofClean clean).flatten = clean := by
  rw [ofClean, mergePhrases, flatten_mergePhrasesFrom, flatten_ofText]
  rfl

/-- A solo character that is not in a phrase is a term of its own. -/
theorem eq_singleton_of_mem_ofClean {c : Char} (solo : Solo c) {clean term : Text}
    (member : term ∈ ofClean clean) (noPhrase : ¬ isPhrase term) (inside : c ∈ term) :
    term = [c] :=
  eq_singleton_of_mem_ofText solo
    ((isPhrase_or_mem (by simp) member).resolve_left noPhrase) inside

theorem solo_quote : Solo '\"' := by decide

theorem count_quote_flatten {lexemes : List Text}
    (own : ∀ lexeme ∈ lexemes, '\"' ∈ lexeme → lexeme = quote) :
    lexemes.flatten.count '\"' = lexemes.count quote := by
  induction lexemes with
  | nil => rfl
  | cons lexeme lexemes ih =>
    have rest := ih fun lexeme member => own lexeme (List.mem_cons_of_mem _ member)
    rw [List.flatten_cons, List.count_append, rest]
    by_cases isQuote : lexeme = quote
    · rw [isQuote, List.count_cons_self, Nat.add_comm]
      rfl
    · have free : '\"' ∉ lexeme := fun inside => isQuote (own lexeme List.mem_cons_self inside)
      rw [List.count_cons_of_ne isQuote, List.count_eq_zero.mpr free, Nat.zero_add]

/-- Every quote of a text is a lexeme. -/
theorem count_quote_ofText (text : Text) : (ofText text).count quote = text.count '\"' := by
  have counts := @count_quote_flatten (ofText text) fun lexeme member inside =>
    eq_singleton_of_mem_ofText solo_quote member inside
  rw [← counts, flatten_ofText]

theorem quote_not_mem_ofText {text : Text} (free : '\"' ∉ text) : quote ∉ ofText text := by
  rw [← List.count_eq_zero, count_quote_ofText, List.count_eq_zero]
  exact free

/-- A text is read part by part on both sides of a delimiter that cuts it outside phrases. -/
theorem ofClean_append {front : Text} {c : Char} (cuts : Cuts front c) (noQuote : c ≠ '\"')
    (closed : front.count '\"' % 2 = 0) (back : Text) :
    ofClean (front ++ c :: back) = ofClean front ++ [c] :: ofClean back := by
  have notQuote : [c] ≠ quote := fun same => noQuote (List.singleton_inj.mp same)
  rw [ofClean, ofText_append cuts, mergePhrases_append (by rwa [count_quote_ofText]),
    mergePhrases, mergePhrases, mergePhrasesFrom, if_neg notQuote]
  rfl

theorem ofClean_append_solo {c : Char} (solo : Solo c) (noQuote : c ≠ '\"') {front : Text}
    (closed : front.count '\"' % 2 = 0) (back : Text) :
    ofClean (front ++ c :: back) = ofClean front ++ [c] :: ofClean back :=
  ofClean_append (solo.cuts front) noQuote closed back

theorem ofClean_cons_solo {c : Char} (solo : Solo c) (noQuote : c ≠ '\"') (back : Text) :
    ofClean (c :: back) = [c] :: ofClean back :=
  @ofClean_append_solo c solo noQuote [] rfl back

/-- What comes before the next quote goes into the phrase that is open. -/
theorem mergePhrasesFrom_close {lexemes : List Text} (free : quote ∉ lexemes) (phrase : Text) :
    mergePhrasesFrom (some phrase) (lexemes ++ [quote]) =
      [phrase ++ lexemes.flatten ++ quote] := by
  induction lexemes generalizing phrase with
  | nil => simp [mergePhrasesFrom]
  | cons lexeme lexemes ih =>
    rw [List.mem_cons, not_or] at free
    rw [List.cons_append, mergePhrasesFrom, if_neg (Ne.symm free.1), ih free.2]
    simp

/-- A phrase is one term, whatever stands in it. -/
theorem ofClean_phrase {body : Text} (free : '\"' ∉ body) :
    ofClean ('\"' :: (body ++ ['\"'])) = [quote ++ body ++ quote] := by
  have lexemes : ofText ('\"' :: (body ++ ['\"'])) = quote :: (ofText body ++ [quote]) := by
    rw [ofText_solo solo_quote, ofText_append_solo solo_quote]
    rfl
  rw [ofClean, lexemes, mergePhrases, mergePhrasesFrom, if_pos rfl,
    mergePhrasesFrom_close (quote_not_mem_ofText free), flatten_ofText]

theorem mergePhrases_eq_self {lexemes : List Text} (free : quote ∉ lexemes) :
    mergePhrases lexemes = lexemes := by
  induction lexemes with
  | nil => rfl
  | cons lexeme lexemes ih =>
    rw [List.mem_cons, not_or] at free
    rw [mergePhrases, mergePhrasesFrom, if_neg (Ne.symm free.1)]
    exact congrArg _ (ih free.2)

/-- Without quotes the terms are the lexemes. -/
theorem ofClean_eq_ofText {clean : Text} (free : '\"' ∉ clean) : ofClean clean = ofText clean :=
  mergePhrases_eq_self (quote_not_mem_ofText free)

/-! ## Separators -/

/-- A compound has a hyphen between two parts that are no phrases. -/
theorem joins_iff {before hyphen after : Text} :
    joins before hyphen after ↔
      hyphen = ['-'] ∧ (isCompoundPart before ∧ isPhrase before = false) ∧
        isCompoundPart after ∧ isPhrase after = false := by
  simp [joins, and_assoc]

/-- No compound has a term as a part: it is a blank, a bracket or a phrase. -/
def Severs (term : Text) : Prop :=
  ¬ (isCompoundPart term ∧ isPhrase term = false)

theorem severs_of_noPart {term : Text} (noPart : isCompoundPart term = false) : Severs term :=
  fun joinable => absurd joinable.1 (Bool.eq_false_iff.mp noPart)

theorem severs_of_isPhrase {term : Text} (phrase : isPhrase term) : Severs term :=
  fun joinable => absurd phrase (Bool.eq_false_iff.mp joinable.2)

theorem Severs.ne_hyphen {term : Text} (severs : Severs term) : term ≠ ['-'] := by
  rintro rfl
  exact severs (by decide)

theorem mergeCompoundsFrom_after_separator {separator : Text} (severs : Severs separator)
    (held : Text) (back : List Text) :
    mergeCompoundsFrom held separator back = held :: mergeCompounds back := by
  have noFirst (hyphen after : Text) : joins separator hyphen after = false :=
    Bool.eq_false_iff.mpr fun joined => severs (joins_iff.mp joined).2.1
  cases back with
  | nil => rfl
  | cons term back =>
    cases back with
    | nil => rfl
    | cons after back =>
      rw [mergeCompoundsFrom, noFirst]
      rfl

theorem mergeCompoundsFrom_separator {separator : Text} (severs : Severs separator)
    (held before : Text) (back : List Text) :
    mergeCompoundsFrom held before (separator :: back) =
      held :: separator :: mergeCompounds back := by
  have noHyphen (after : Text) : joins before separator after = false := by
    simp [joins, severs.ne_hyphen]
  cases back with
  | nil => rfl
  | cons term back =>
    rw [mergeCompoundsFrom, noHyphen, ← mergeCompoundsFrom_after_separator severs]
    rfl

theorem mergeCompoundsFrom_append_separator {separator : Text} (severs : Severs separator)
    (held before : Text) (front back : List Text) :
    mergeCompoundsFrom held before (front ++ separator :: back) =
      mergeCompoundsFrom held before front ++ separator :: mergeCompounds back := by
  fun_induction mergeCompoundsFrom held before front with
  | case1 held before term after rest joined ih =>
    rw [List.cons_append, List.cons_append, mergeCompoundsFrom, if_pos joined]
    exact ih
  | case2 held before term after rest apart ih =>
    rw [List.cons_append, List.cons_append, mergeCompoundsFrom, if_neg apart, List.cons_append]
    exact congrArg _ ih
  | case3 held before rest short =>
    cases rest with
    | nil => exact mergeCompoundsFrom_separator severs held before back
    | cons term rest =>
      cases rest with
      | cons after rest => exact absurd rfl (short term after rest)
      | nil =>
        have noLast : joins before term separator = false :=
          Bool.eq_false_iff.mpr fun joined => severs (joins_iff.mp joined).2.2
        rw [List.cons_append, List.nil_append, mergeCompoundsFrom, noLast,
          mergeCompoundsFrom_separator severs]
        rfl

/-- No compound reaches over a term that cannot be part of one: the terms before it and after it
are merged by themselves. -/
theorem mergeCompounds_append_separator {separator : Text} (severs : Severs separator)
    (front back : List Text) :
    mergeCompounds (front ++ separator :: back) =
      mergeCompounds front ++ separator :: mergeCompounds back := by
  cases front with
  | nil => exact mergeCompoundsFrom_after_separator severs separator back
  | cons first front => exact mergeCompoundsFrom_append_separator severs first first front back

theorem forall_mem_mergeCompoundsFrom {property : Text → Prop}
    (joined : ∀ before hyphen after, joins before hyphen after → property before → property hyphen →
      property after → property (compound before after)) {held before : Text} {rest : List Text}
    (ofHeld : property held) (ofBefore : property before) (ofRest : ∀ term ∈ rest, property term) :
    ∀ term ∈ mergeCompoundsFrom held before rest, property term := by
  fun_induction mergeCompoundsFrom held before rest with
  | case1 held before hyphen after rest joins ih =>
    have ofAfter := ofRest after (by simp)
    have ofCompound := joined before hyphen after joins ofBefore (ofRest hyphen (by simp)) ofAfter
    exact ih ofCompound ofAfter fun next member => ofRest next (by simp [member])
  | case2 held before term after rest apart ih =>
    have ofTerm := ofRest term List.mem_cons_self
    have walk := ih ofTerm ofTerm fun next member => ofRest next (List.mem_cons_of_mem _ member)
    intro next member
    rcases List.mem_cons.mp member with rfl | later
    · exact ofHeld
    · exact walk next later
  | case3 held before rest short =>
    intro next member
    rcases List.mem_cons.mp member with rfl | later
    · exact ofHeld
    · exact ofRest next later

/-- What a compound has if its parts and the hyphen have it, all terms keep. -/
theorem forall_mem_mergeCompounds {property : Text → Prop}
    (joined : ∀ before hyphen after, joins before hyphen after → property before → property hyphen →
      property after → property (compound before after)) {terms : List Text}
    (all : ∀ term ∈ terms, property term) : ∀ term ∈ mergeCompounds terms, property term := by
  cases terms with
  | nil => exact all
  | cons first rest =>
    have ofFirst := all first List.mem_cons_self
    exact forall_mem_mergeCompoundsFrom joined ofFirst ofFirst fun next member =>
      all next (List.mem_cons_of_mem _ member)

theorem head?_mergeCompoundsFrom (held before : Text) (rest : List Text)
    (noWildcard : held ≠ wildcard) :
    (mergeCompoundsFrom held before rest).head? ≠ some wildcard := by
  fun_induction mergeCompoundsFrom held before rest with
  | case1 held before term after rest joined ih => exact ih (by simp [compound, quote, wildcard])
  | case2 | case3 => simpa using noWildcard

/-- Merging compounds puts a term or a phrase first, so no wildcard comes first that did not. -/
theorem head?_mergeCompounds {terms : List Text} (noWildcard : terms.head? ≠ some wildcard) :
    (mergeCompounds terms).head? ≠ some wildcard := by
  cases terms with
  | nil => simp [mergeCompounds]
  | cons first rest => exact head?_mergeCompoundsFrom first first rest (by simpa using noWildcard)

/-- The first term stays first if no hyphen comes after it. -/
theorem head?_mergeCompounds_cons {rest : List Text} (noHyphen : rest.head? ≠ some ['-'])
    (first : Text) : (mergeCompounds (first :: rest)).head? = some first := by
  rcases rest with _ | ⟨term, _ | ⟨after, rest⟩⟩
  · rfl
  · rfl
  · have apart : joins first term after = false := by
      have other : term ≠ ['-'] := by simpa using noHyphen
      simp [joins, other]
    rw [mergeCompounds, mergeCompoundsFrom, apart]
    rfl

theorem mergeCompoundsFrom_concat {rest : List Text} (noHyphen : rest.getLast? ≠ some ['-'])
    (held before last : Text) :
    mergeCompoundsFrom held before (rest ++ [last]) =
      mergeCompoundsFrom held before rest ++ [last] := by
  fun_induction mergeCompoundsFrom held before rest with
  | case1 held before term after rest joined ih =>
    rw [List.cons_append, List.cons_append, mergeCompoundsFrom, if_pos joined]
    refine ih fun isLast => noHyphen ?_
    rw [List.getLast?_cons_cons, List.getLast?_cons, isLast]
    rfl
  | case2 held before term after rest apart ih =>
    rw [List.getLast?_cons_cons] at noHyphen
    rw [List.cons_append, List.cons_append, mergeCompoundsFrom, if_neg apart, List.cons_append]
    exact congrArg _ (ih noHyphen)
  | case3 held before rest short =>
    rcases rest with _ | ⟨term, _ | ⟨after, rest⟩⟩
    · rfl
    · have apart : joins before term last = false := by
        have other : term ≠ ['-'] := by simpa using noHyphen
        simp [joins, other]
      rw [List.cons_append, List.nil_append, mergeCompoundsFrom, apart]
      rfl
    · exact absurd rfl (short term after rest)

/-- The last term stays last if no hyphen comes before it. -/
theorem mergeCompounds_concat {front : List Text} (noHyphen : front.getLast? ≠ some ['-'])
    (last : Text) : mergeCompounds (front ++ [last]) = mergeCompounds front ++ [last] := by
  cases front with
  | nil => rfl
  | cons first rest =>
    refine mergeCompoundsFrom_concat (fun isLast => noHyphen ?_) first first last
    rw [List.getLast?_cons, isLast]
    rfl

theorem flatten_attachWildcardsFrom (held : Text) (rest : List Text) :
    (attachWildcardsFrom held rest).flatten = held ++ rest.flatten := by
  induction rest generalizing held with
  | nil => simp [attachWildcardsFrom]
  | cons term rest ih =>
    rw [attachWildcardsFrom]
    split
    case isTrue isWildcard => rw [ih, isWildcard, List.flatten_cons, List.append_assoc]
    case isFalse => rw [List.flatten_cons, ih, List.flatten_cons]

/-- Attaching wildcards moves no character. -/
theorem flatten_attachWildcards (terms : List Text) :
    (attachWildcards terms).flatten = terms.flatten := by
  cases terms with
  | nil => rfl
  | cons first rest => exact flatten_attachWildcardsFrom first rest

theorem attachWildcardsFrom_append {back : List Text} (noWildcard : back.head? ≠ some wildcard)
    (held : Text) (front : List Text) :
    attachWildcardsFrom held (front ++ back) =
      attachWildcardsFrom held front ++ attachWildcards back := by
  induction front generalizing held with
  | nil =>
    cases back with
    | nil => rfl
    | cons term back =>
      have other : term ≠ wildcard := by simpa using noWildcard
      simp [attachWildcardsFrom, attachWildcards, other]
  | cons term front ih =>
    rw [List.cons_append, attachWildcardsFrom, attachWildcardsFrom]
    split <;> simp [ih]

theorem attachWildcards_append {back : List Text} (noWildcard : back.head? ≠ some wildcard)
    (front : List Text) :
    attachWildcards (front ++ back) = attachWildcards front ++ attachWildcards back := by
  cases front with
  | nil => rfl
  | cons first front => exact attachWildcardsFrom_append noWildcard first front

/-- The terms before and after one that cannot be part of a compound are merged and attached by
themselves, unless a wildcard comes right after it. -/
theorem attached_separator {separator : Text} (severs : Severs separator) {back : List Text}
    (noWildcard : (mergeCompounds back).head? ≠ some wildcard) (front : List Text) :
    attachWildcards (mergeCompounds (front ++ separator :: back)) =
      attachWildcards (mergeCompounds front) ++
        ([separator] ++ attachWildcards (mergeCompounds back)) := by
  have notWildcard : separator ≠ wildcard := by
    rintro rfl
    exact severs (by decide)
  have alone : separator :: mergeCompounds back = [separator] ++ mergeCompounds back := rfl
  rw [mergeCompounds_append_separator severs, attachWildcards_append (by simpa using notWildcard),
    alone, attachWildcards_append noWildcard]
  rfl

/-- The allowed terms of a clean text are together its allowed characters. -/
theorem flatten_keepAllowed (clean : Text) :
    ((ofClean clean).map keepAllowed).flatten = keepAllowed clean := by
  conv_rhs => rw [← flatten_ofClean clean]
  exact (List.filter_flatten ..).symm

/-- Visible terms keep the characters of a kind that no blank has. -/
theorem filter_visible {p : Char → Bool} (noBlank : ∀ c, Character.isBlank c → p c = false)
    (terms : List Text) : (visible terms).flatten.filter p = terms.flatten.filter p := by
  induction terms with
  | nil => rfl
  | cons term terms ih =>
    rw [visible, List.filter_cons]
    split
    case isTrue =>
      rw [List.flatten_cons, List.filter_append, List.flatten_cons, List.filter_append, ← ih,
        visible]
    case isFalse blank =>
      have isBlank : term.isBlank := by simpa using blank
      have none : term.filter p = [] := by
        refine List.filter_eq_nil_iff.mpr fun c inside => ?_
        rw [noBlank c (List.all_eq_true.mp isBlank c inside)]
        exact Bool.false_ne_true
      rw [List.flatten_cons, List.filter_append, none, List.nil_append, ← ih, visible]

theorem keepAllowed_of_isPhrase {term : Text} (phrase : isPhrase term) :
    isPhrase (keepAllowed term) := by
  cases term with
  | nil => cases phrase
  | cons c rest =>
    have isQuote : c = '\"' := by simpa [isPhrase] using phrase
    rw [isQuote, keepAllowed, List.filter_cons_of_pos (by decide)]
    rfl

/-- A term that is one solo character once the others are dropped was that character all along. -/
theorem eq_singleton_of_keepAllowed {c : Char} (solo : Solo c) (noQuote : c ≠ '\"')
    {clean term : Text} (member : term ∈ ofClean clean) (kept : keepAllowed term = [c]) :
    term = [c] := by
  have inside : c ∈ term := by
    have left : c ∈ keepAllowed term := by rw [kept]; exact List.mem_singleton_self c
    exact (List.mem_filter.mp left).1
  refine eq_singleton_of_mem_ofClean solo member (fun phrase => ?_) inside
  have starts := keepAllowed_of_isPhrase phrase
  rw [kept] at starts
  exact noQuote (by simpa [isPhrase] using starts)

/-- A solo character that a text does not begin with is not its first term. -/
theorem head?_keepAllowed {c : Char} (solo : Solo c) (noQuote : c ≠ '\"') {clean : Text}
    (other : clean.head? ≠ some c) : ((ofClean clean).map keepAllowed).head? ≠ some [c] := by
  have whole := flatten_ofClean clean
  cases terms : ofClean clean with
  | nil => simp
  | cons term rest =>
    intro first
    have kept : keepAllowed term = [c] := by simpa using first
    have isMark : term = [c] :=
      eq_singleton_of_keepAllowed solo noQuote
        (terms ▸ List.mem_cons_self : term ∈ ofClean clean) kept
    rw [terms, isMark] at whole
    rw [← whole] at other
    exact other rfl

/-- One that a text does not end with is not its last term. -/
theorem getLast?_keepAllowed {c : Char} (solo : Solo c) (noQuote : c ≠ '\"') {clean : Text}
    (other : clean.getLast? ≠ some c) : ((ofClean clean).map keepAllowed).getLast? ≠ some [c] := by
  have whole := flatten_ofClean clean
  rcases List.eq_nil_or_concat' (ofClean clean) with none | ⟨front, term, terms⟩
  · simp [none]
  · intro last
    rw [terms, List.map_append, List.map_singleton, List.getLast?_concat] at last
    have member : term ∈ ofClean clean := by simp [terms]
    have isMark : term = [c] :=
      eq_singleton_of_keepAllowed solo noQuote member (Option.some.inj last)
    rw [terms, isMark, List.flatten_append, List.flatten_singleton] at whole
    rw [← whole, List.getLast?_concat] at other
    exact other rfl

/-! ## Brackets -/

theorem bracketsBalanceFrom_opening (depth : Nat) (terms : List Text) :
    bracketsBalanceFrom depth (opening :: terms) = bracketsBalanceFrom (depth + 1) terms := by
  cases depth <;> rfl

theorem bracketsBalanceFrom_closing (depth : Nat) (terms : List Text) :
    bracketsBalanceFrom depth (closing :: terms) =
      (depth != 0 && bracketsBalanceFrom (depth - 1) terms) := by
  cases depth <;> rfl

theorem bracketsBalanceFrom_other {term : Text} (notOpening : term ≠ opening)
    (notClosing : term ≠ closing) (depth : Nat) (terms : List Text) :
    bracketsBalanceFrom depth (term :: terms) = bracketsBalanceFrom depth terms := by
  cases depth <;> rw [bracketsBalanceFrom, if_neg notOpening, if_neg notClosing]

theorem not_bracket_of_isPhrase {term : Text} (phrase : isPhrase term) :
    term ≠ opening ∧ term ≠ closing := by
  constructor
  · intro equal
    subst equal
    cases phrase
  · intro equal
    subst equal
    cases phrase

/-- A term that is a bracket and nothing else. -/
def isBracket (term : Text) : Bool :=
  term = opening || term = closing

theorem isBracket_eq_true {term : Text} (bracket : isBracket term) :
    term = opening ∨ term = closing := by
  simpa [isBracket] using bracket

/-- Where brackets balance, the first one opens a group. -/
theorem head?_filter_isBracket {terms : List Text} (balance : bracketsBalance terms) :
    (terms.filter isBracket).head? ≠ some closing := by
  induction terms with
  | nil => simp
  | cons term terms ih =>
    by_cases isOpening : term = opening
    · subst isOpening
      simp [isBracket, opening, closing]
    · by_cases isClosing : term = closing
      · subst isClosing
        cases balance
      · rw [bracketsBalance, bracketsBalanceFrom_other isOpening isClosing] at balance
        rw [List.filter_cons_of_neg (by simp [isBracket, isOpening, isClosing])]
        exact ih balance

theorem isBracket_keepAllowed {clean term : Text} (member : term ∈ ofClean clean) :
    isBracket (keepAllowed term) = isBracket term := by
  have forth (bracket : isBracket term) : isBracket (keepAllowed term) := by
    rcases isBracket_eq_true bracket with isOne | isOne
    · rw [isOne]
      decide
    · rw [isOne]
      decide
  have back (bracket : isBracket (keepAllowed term)) : isBracket term := by
    rcases isBracket_eq_true bracket with isOne | isOne
    · rw [eq_singleton_of_keepAllowed (by decide) (by decide) member isOne]
      rfl
    · rw [eq_singleton_of_keepAllowed (by decide) (by decide) member isOne]
      rfl
  exact Bool.eq_iff_iff.mpr ⟨back, forth⟩

theorem filter_isBracket_keepAllowed (clean : Text) :
    ((ofClean clean).map keepAllowed).filter isBracket = (ofClean clean).filter isBracket := by
  have unchanged (terms : List Text) (known : ∀ term ∈ terms, term ∈ ofClean clean) :
      (terms.map keepAllowed).filter isBracket = terms.filter isBracket := by
    induction terms with
    | nil => rfl
    | cons term terms ih =>
      have rest := ih fun term member => known term (List.mem_cons_of_mem _ member)
      have same := isBracket_keepAllowed (known term List.mem_cons_self)
      rw [List.map_cons, List.filter_cons, List.filter_cons, same, rest]
      split
      case isTrue bracket =>
        rcases isBracket_eq_true bracket with isOne | isOne
        · rw [isOne]
          rfl
        · rw [isOne]
          rfl
      case isFalse => rfl
  exact unchanged _ fun term member => member

theorem isBracket_of_isCompoundPart {term : Text} (part : isCompoundPart term) :
    isBracket term = false := by
  have parts : (¬ term.isBlank ∧ term ≠ opening) ∧ term ≠ closing := by
    simpa [isCompoundPart] using part
  simp [isBracket, parts.1.2, parts.2]

/-- What a compound replaces is no bracket: the term held back is the one before the rest, or else
neither is a bracket. -/
theorem filter_isBracket_mergeCompoundsFrom (held before : Text) (rest : List Text)
    (holds : held = before ∨ isBracket held = false) :
    (mergeCompoundsFrom held before rest).filter isBracket = (held :: rest).filter isBracket := by
  fun_induction mergeCompoundsFrom held before rest with
  | case1 held before term after rest joined ih =>
    obtain ⟨isHyphen, ⟨partBefore, -⟩, partAfter, -⟩ := joins_iff.mp joined
    have noneHeld : isBracket held = false := by
      rcases holds with rfl | noBracket
      · exact isBracket_of_isCompoundPart partBefore
      · exact noBracket
    have noneNew : isBracket (compound before after) = false := by
      simp [isBracket, compound, quote, opening, closing]
    have noneHyphen : isBracket ['-'] = false := rfl
    rw [ih (.inr noneNew), isHyphen]
    simp [noneHeld, noneNew, noneHyphen, isBracket_of_isCompoundPart partAfter]
  | case2 held before term after rest apart ih =>
    rw [List.filter_cons, ih (.inl rfl), ← List.filter_cons]
  | case3 => rfl

theorem filter_isBracket_mergeCompounds (terms : List Text) :
    (mergeCompounds terms).filter isBracket = terms.filter isBracket := by
  cases terms with
  | nil => rfl
  | cons first rest => exact filter_isBracket_mergeCompoundsFrom first first rest (.inl rfl)

/-- Whether a group is closed before any term begins with an opening bracket. -/
def closesFirst : List Text → Bool
  | [] => false
  | term :: terms => term = closing || term.head? ≠ some '(' && closesFirst terms

theorem closesFirst_of_head? {terms : List Text}
    (opens : (terms.filter isBracket).head? ≠ some closing) : closesFirst terms = false := by
  induction terms with
  | nil => rfl
  | cons term terms ih =>
    by_cases isClosing : term = closing
    · subst isClosing
      exact absurd rfl opens
    · by_cases isOpening : term = opening
      · subst isOpening
        rfl
      · rw [List.filter_cons_of_neg (by simp [isBracket, isOpening, isClosing])] at opens
        simp [closesFirst, isClosing, ih opens]

theorem closesFirst_attachWildcardsFrom (held : Text) (rest : List Text)
    (opens : closesFirst (held :: rest) = false) :
    closesFirst (attachWildcardsFrom held rest) = false := by
  induction rest generalizing held with
  | nil => exact opens
  | cons term rest ih =>
    rw [attachWildcardsFrom]
    obtain ⟨notClosing, opens⟩ : held ≠ closing ∧
        (held.head? = some '(' ∨ closesFirst (term :: rest) = false) := by
      simpa [closesFirst, Classical.or_iff_not_imp_left] using opens
    split
    case isTrue isWildcard =>
      subst isWildcard
      have longer : held ++ wildcard ≠ closing := by
        cases held with
        | nil => decide
        | cons c held => simp [wildcard, closing]
      apply ih
      rcases opens with starts | opens
      · cases held with
        | nil => cases starts
        | cons c held => simp_all [closesFirst]
      · have restOpens : closesFirst rest = false := by
          simpa [closesFirst, wildcard, closing] using opens
        simp [closesFirst, longer, restOpens]
    case isFalse =>
      rcases opens with starts | opens
      · simp [closesFirst, notClosing, starts]
      · simp [closesFirst, notClosing, ih term opens]

theorem closesFirst_attachWildcards {terms : List Text} (opens : closesFirst terms = false) :
    closesFirst (attachWildcards terms) = false := by
  cases terms with
  | nil => rfl
  | cons first rest => exact closesFirst_attachWildcardsFrom first rest opens

theorem closesFirst_visible (terms : List Text) :
    closesFirst (visible terms) = closesFirst terms := by
  induction terms with
  | nil => rfl
  | cons term terms ih =>
    rw [visible, List.filter_cons]
    split
    case isTrue => rw [closesFirst, closesFirst, ← ih, visible]
    case isFalse blank =>
      have isBlank : term.isBlank := by simpa using blank
      have notClosing : term ≠ closing := by
        intro equal
        subst equal
        revert isBlank
        decide
      have noBracket : term.head? ≠ some '(' := by
        intro starts
        cases term with
        | nil => cases starts
        | cons c term =>
          obtain rfl : c = '(' := by simpa using starts
          rw [Text.isBlank, List.all_cons, Bool.and_eq_true] at isBlank
          exact absurd isBlank.1 (by decide)
      rw [closesFirst, ← ih, visible]
      simp [notClosing, noBracket]

end Term

namespace Query

open Lexeme Term

/-- The tokens of a clean text, as the passes on tokens get them. -/
def tokensOfClean (clean : Text) : List Token :=
  tokensOf (ofClean clean)

theorem tokensOfClean_eq (clean : Text) :
    tokensOfClean clean =
      (visible (attachWildcards (mergeCompounds ((ofClean clean).map keepAllowed)))).map
        Token.ofTerm := rfl

/-- The first term of a clean text is a wildcard. One with which a compound begins is none. -/
def LeadsWildcard (clean : Text) : Prop :=
  (mergeCompounds ((ofClean clean).map keepAllowed)).head? = some wildcard

instance (clean : Text) : Decidable (LeadsWildcard clean) :=
  inferInstanceAs (Decidable (_ = _))

theorem not_leadsWildcard {clean : Text} (noWildcard : clean.head? ≠ some '*') :
    ¬ LeadsWildcard clean :=
  head?_mergeCompounds (head?_keepAllowed (by decide) (by decide) noWildcard)

/-- A delimiter outside phrases separates a text if no compound reaches over what is left of it: the
terms on either side are those of that side alone, unless a wildcard comes right after it. -/
theorem attached_append_separator {c : Char} {front back : Text} (cuts : Cuts front c)
    (noQuote : c ≠ '\"') (noPart : isCompoundPart (keepAllowed [c]) = false)
    (closed : front.count '\"' % 2 = 0) (noWildcard : ¬ LeadsWildcard back) :
    attachWildcards (mergeCompounds ((ofClean (front ++ c :: back)).map keepAllowed)) =
      attachWildcards (mergeCompounds ((ofClean front).map keepAllowed)) ++
        ([keepAllowed [c]] ++
          attachWildcards (mergeCompounds ((ofClean back).map keepAllowed))) := by
  rw [ofClean_append cuts noQuote closed, List.map_append, List.map_cons,
    attached_separator (severs_of_noPart noPart) noWildcard]

/-- Spaces and brackets outside phrases separate a text: the tokens on either side are those of
that side alone, unless a wildcard comes right after the separator. -/
theorem tokensOfClean_append_separator {c : Char} (solo : Solo c) (allowed : isAllowed c)
    (noPart : isCompoundPart [c] = false) {front back : Text}
    (closed : front.count '\"' % 2 = 0) (noWildcard : back.head? ≠ some '*') :
    tokensOfClean (front ++ c :: back) =
      tokensOfClean front ++ tokensOfClean [c] ++ tokensOfClean back := by
  have noQuote : c ≠ '\"' := by
    intro equal
    subst equal
    cases noPart
  have kept : keepAllowed [c] = [c] := by simp [keepAllowed, allowed]
  have single : ofClean [c] = [[c]] := by
    have lexemes : ofText [c] = [[c]] := ofText_solo solo []
    have free : '\"' ∉ [c] := by simpa using Ne.symm noQuote
    rw [ofClean_eq_ofText free, lexemes]
  have alone : tokensOfClean [c] = (visible (attachWildcards [[c]])).map Token.ofTerm := by
    rw [tokensOfClean_eq, single, List.map_singleton, kept]
    rfl
  have lone : attachWildcards [[c]] = [[c]] := rfl
  rw [tokensOfClean_eq, attached_append_separator (solo.cuts front) noQuote (by rwa [kept]) closed
    (not_leadsWildcard noWildcard), kept, alone, lone, tokensOfClean_eq, tokensOfClean_eq]
  simp only [visible, List.filter_append, List.map_append, List.append_assoc]

theorem convert_eq (query : Text) :
    convert query =
      if countQuotes (CleanText.ofRaw query) % 2 = 1 then
        .error (.oddQuotes (countQuotes (CleanText.ofRaw query)))
      else if bracketsBalance (ofClean (CleanText.ofRaw query)) then
        .ok (ofBalancedTerms (ofClean (CleanText.ofRaw query)))
      else .error .unbalancedBrackets := rfl

theorem convert_eq_ok {query output : Text} :
    convert query = .ok output ↔
      countQuotes (CleanText.ofRaw query) % 2 = 0 ∧
        bracketsBalance (ofClean (CleanText.ofRaw query)) ∧
        ofBalancedTerms (ofClean (CleanText.ofRaw query)) = output := by
  rw [convert_eq]
  rcases Nat.mod_two_eq_zero_or_one (countQuotes (CleanText.ofRaw query)) with even | odd
  · cases bracketsBalance (ofClean (CleanText.ofRaw query)) <;> simp [even]
  · simp [odd]

theorem ofTerm_eq_closing {term : Text} (closes : Token.ofTerm term = .closing) :
    term = closing := by
  by_contra other
  have notClosing : term ≠ [')'] := other
  rw [Token.ofTerm, if_neg notClosing] at closes
  repeat' split at closes
  all_goals cases closes

theorem head?_of_isOperator_ofTerm {term : Text} (spells : (Token.ofTerm term).isOperator) :
    term.head? ≠ some '(' := by
  intro starts
  cases term with
  | nil => cases starts
  | cons c term =>
    obtain rfl : c = '(' := by simpa using starts
    have noOperator : (Token.ofTerm ('(' :: term)).operator? = none := by
      simp only [Token.ofTerm, Operator.keyword, Operator.symbol]
      cases term <;> rfl
    rw [Token.isOperator, noOperator] at spells
    cases spells

/-- The first token of an accepted query that is no operator closes no group. -/
theorem head?_dropWhile_tokensOfClean {clean : Text} (balance : bracketsBalance (ofClean clean)) :
    ((tokensOfClean clean).dropWhile Token.isOperator).head? ≠ some .closing := by
  have opens : closesFirst
      (visible (attachWildcards (mergeCompounds ((ofClean clean).map keepAllowed)))) = false := by
    rw [closesFirst_visible]
    apply closesFirst_attachWildcards
    apply closesFirst_of_head?
    rw [filter_isBracket_mergeCompounds, filter_isBracket_keepAllowed]
    exact head?_filter_isBracket balance
  rw [tokensOfClean_eq]
  generalize visible _ = terms at opens
  induction terms with
  | nil => simp
  | cons term terms ih =>
    obtain ⟨notClosing, starts⟩ : term ≠ closing ∧
        (term.head? = some '(' ∨ closesFirst terms = false) := by
      simpa [closesFirst, Classical.or_iff_not_imp_left] using opens
    rw [List.map_cons, List.dropWhile_cons]
    split
    case isTrue spells => exact ih (starts.resolve_left (head?_of_isOperator_ofTerm spells))
    case isFalse => exact fun closes => notClosing (ofTerm_eq_closing (Option.some.inj closes))

end Query

end FullTextQuery
