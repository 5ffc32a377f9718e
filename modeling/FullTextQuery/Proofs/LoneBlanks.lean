import FullTextQuery.Proofs.TermShape

/-!
# Blanks between terms

A blank outside phrases parts the text if it is a lexeme (`tokensOfClean_append_blank`). Every other
blank goes into the word next to it and is dropped from there as a character that is not allowed, or
it is a word of its own that nothing is left of. So the terms are those of both sides, or those of
the text without the blank (`terms_insert_blank`). They are those of both sides if the text without
it has just these (`TermsApart`), and if a delimiter stands next to it; but a hyphen there can join
words that nothing is left between, so it has to be another delimiter (`IsParting`), or a hyphen has
to stand on the other side, too (`tokensOfClean_append_dropped`).
-/

namespace FullTextQuery

namespace Lexeme

/-! ## Seams between lexemes -/

/-- Whether no delimiter lies across the seam between two texts. -/
def SeamFree (front back : Text) : Prop :=
  ∀ last ∈ front.getLast?, ∀ first ∈ back.head?, isDelimiter [last, first] = false

theorem SeamFree.of_append {lead front back : Text} (free : SeamFree (lead ++ front) back) :
    SeamFree front back := by
  intro last isLast
  refine free last ?_
  rw [List.getLast?_append, isLast]
  rfl

/-- Whether a delimiter begins before a seam does not depend on what comes after it. -/
theorem SeamFree.delimiterAt?_append {front back : Text} (free : SeamFree front back)
    (notEmpty : front ≠ []) : delimiterAt? (front ++ back) = delimiterAt? front := by
  cases back with
  | nil => rw [List.append_nil]
  | cons first back =>
    exact Lexeme.delimiterAt?_append notEmpty (fun last isLast => free last isLast first rfl) back

theorem exists_ofText_cons {first : Char} (single : isDelimiter [first]) (back : Text) :
    ∃ delimiter lexemes, isDelimiter delimiter ∧ ofText (first :: back) = delimiter :: lexemes := by
  cases found : delimiterAt? (first :: back) with
  | none =>
    rw [isDelimiter_of_none found ⟨back, rfl⟩] at single
    cases single
  | some delimiter =>
    have isOne := delimiterAt?_eq_some.mp found
    obtain ⟨rest, shape⟩ := isOne.begins
    rw [← shape] at found ⊢
    exact ⟨delimiter, _, isDelimiter_iff.mpr isOne.isOne, ofText_of_delimiter found⟩

theorem prependWord_append_of_ne_nil {first : Text} {front : List Text} (some : front ≠ [])
    (back : List Text) :
    prependWord first (front ++ back) = prependWord first front ++ back := by
  obtain ⟨lexeme, front, rfl⟩ := List.exists_cons_of_ne_nil some
  rw [List.cons_append, prependWord, prependWord]
  split
  case isTrue => cases first <;> rfl
  case isFalse => rfl

/-- Lexemes that one word does not run into no word does. -/
theorem prependWord_of_apart {word : Text} {lexemes : List Text}
    (apart : prependWord word lexemes = word :: lexemes) (first : Char) :
    prependWord [first] lexemes = [first] :: lexemes := by
  cases lexemes with
  | nil => rfl
  | cons lexeme lexemes =>
    cases isOne : isDelimiter lexeme with
    | true => exact if_pos isOne
    | false =>
      rw [prependWord, if_neg (by simp [isOne])] at apart
      simpa using congrArg List.length apart

theorem ofText_ne_nil {text : Text} (notEmpty : text ≠ []) : ofText text ≠ [] := by
  intro none
  have whole := flatten_ofText text
  rw [none] at whole
  exact notEmpty whole.symm

/-- Texts are read by themselves on the sides of a seam that a delimiter stands at. -/
theorem ofText_append_seam {front back : Text} (free : SeamFree front back)
    (parts : (∃ last ∈ front.getLast?, isDelimiter [last]) ∨
      ∃ first ∈ back.head?, isDelimiter [first]) :
    ofText (front ++ back) = ofText front ++ ofText back := by
  induction front using scan_induction with
  | nil => rfl
  | delimiter delimiter rest found ih =>
    have notEmpty := List.append_ne_nil_of_left_ne_nil
      (delimiter_ne_nil (delimiterAt?_eq_some.mp found).isOne) rest
    have foundWhole : delimiterAt? (delimiter ++ (rest ++ back)) = some delimiter := by
      rw [← List.append_assoc, free.delimiterAt?_append notEmpty, found]
    rw [List.append_assoc, ofText_of_delimiter foundWhole, ofText_of_delimiter found]
    rcases List.eq_nil_or_concat' rest with rfl | ⟨more, last, rfl⟩
    · rfl
    · rw [ih free.of_append (by simpa using parts), List.cons_append]
  | character first rest none ih =>
    have noneWhole : delimiterAt? (first :: (rest ++ back)) = .none :=
      (free.delimiterAt?_append (List.cons_ne_nil first rest)).trans none
    rw [List.cons_append, ofText_of_none noneWhole, ofText_of_none none]
    rcases List.eq_nil_or_concat' rest with rfl | ⟨more, last, rfl⟩
    · have isWord : isDelimiter [first] = false := isDelimiter_of_none none ⟨[], rfl⟩
      obtain ⟨next, isFirst, single⟩ := parts.resolve_left (by simp [isWord])
      obtain ⟨back, rfl⟩ := List.head?_eq_some_iff.mp isFirst
      obtain ⟨delimiter, lexemes, isOne, known⟩ := exists_ofText_cons single back
      rw [List.nil_append, known, prependWord, if_pos isOne]
      rfl
    · have later := @SeamFree.of_append [first] (more ++ [last]) back free
      rw [← List.cons_append, List.getLast?_concat] at parts
      rw [ih later (by simpa using parts), prependWord_append_of_ne_nil (ofText_ne_nil (by simp))]

/-! ## Blanks and lexemes -/

/-- The separators: the blanks that are lexemes. -/
def isSeparator (c : Char) : Bool :=
  ['\t', '\n', ' '].contains c

theorem separator_cases {motive : Char → Prop}
    (each : motive '\t' ∧ motive '\n' ∧ motive ' ') {c : Char} (separates : isSeparator c) :
    motive c := by
  have listed : c = '\t' ∨ c = '\n' ∨ c = ' ' := by simpa [isSeparator] using separates
  rcases listed with rfl | rfl | rfl
  · exact each.1
  · exact each.2.1
  · exact each.2.2

variable {c : Char} (blank : Character.isBlank c) (other : isSeparator c = false)

include blank other

/-- Only one blank that is no separator is part of a delimiter, and it is so before a line feed. -/
theorem delimiter_of_blank {delimiter : Text} (isOne : isDelimiter delimiter)
    (member : c ∈ delimiter) : delimiter = ['\r', '\n'] := by
  have codes := Character.forall_blank (motive := fun c => isSeparator c = false →
    ∀ delimiter ∈ delimiters, c ∈ delimiter → delimiter = ['\r', '\n']) (by decide +kernel) blank
  exact codes other delimiter (isDelimiter_iff.mp isOne) member

theorem isDelimiter_append_blank (text : Text) : isDelimiter (text ++ [c]) = false := by
  refine Bool.eq_false_iff.mpr fun isOne => ?_
  have pair := congrArg List.getLast? (delimiter_of_blank blank other isOne (by simp))
  obtain rfl : c = '\n' := by simpa using pair
  cases other

theorem isDelimiter_insert_blank {front back : Text}
    (isWord : isDelimiter (front ++ back) = false) : isDelimiter (front ++ c :: back) = false := by
  refine Bool.eq_false_iff.mpr fun isOne => ?_
  have pair := delimiter_of_blank blank other isOne (by simp)
  cases front with
  | nil =>
    obtain ⟨-, rfl⟩ := List.cons.inj pair
    cases isWord
  | cons first front =>
    have tail : front ++ c :: back = ['\n'] := (List.cons.inj pair).2
    have member : c ∈ ['\n'] := tail ▸ List.mem_append_right front List.mem_cons_self
    obtain rfl := List.mem_singleton.mp member
    cases other

theorem seamFree_before_blank (front back : Text) : SeamFree front (c :: back) := by
  rintro last - first ⟨⟩
  exact isDelimiter_append_blank blank other [last]

theorem seamFree_after_blank {back : Text} (noBreak : back.head? ≠ some '\n') (front : Text) :
    SeamFree (front ++ [c]) back := by
  intro last isLast first isFirst
  obtain rfl : c = last := by simpa using isLast
  refine Bool.eq_false_iff.mpr fun isOne => noBreak ?_
  have same := delimiter_of_blank blank other isOne List.mem_cons_self
  rwa [← (List.cons.inj (List.cons.inj same).2).1]

/-- A blank goes in front of the word after it, if there is one. -/
theorem ofText_cons_blank {back : Text} (noBreak : back.head? ≠ some '\n') :
    ofText (c :: back) = prependWord [c] (ofText back) := by
  have alone : isDelimiter [c] = false := isDelimiter_append_blank blank other []
  refine ofText_of_none ?_
  have free : SeamFree [c] back := seamFree_after_blank blank other noBreak []
  have none := free.delimiterAt?_append (List.cons_ne_nil c [])
  rw [List.singleton_append, delimiterAt?_eq [c]] at none
  simpa [alone] using none

/-- A blank is a word of its own, or it goes into the word that is there without it. -/
theorem ofText_insert_blank {front back : Text} (free : SeamFree front back)
    (noBreak : back.head? ≠ some '\n') :
    ofText (front ++ c :: back) = ofText front ++ [c] :: ofText back ∨
      ∃ lexemes start rest more, isDelimiter (start ++ rest) = false ∧
        ofText (front ++ back) = lexemes ++ (start ++ rest) :: more ∧
        ofText (front ++ c :: back) = lexemes ++ (start ++ c :: rest) :: more := by
  have alone : isDelimiter [c] = false := isDelimiter_append_blank blank other []
  have freeBlank (front : Text) := seamFree_before_blank blank other front back
  induction front using scan_induction with
  | nil =>
    rw [List.nil_append, List.nil_append, ofText_cons_blank blank other noBreak]
    cases known : ofText back with
    | nil => exact .inl rfl
    | cons lexeme lexemes =>
      cases isOne : isDelimiter lexeme with
      | true => exact .inl (if_pos isOne)
      | false => exact .inr ⟨[], [], lexeme, lexemes, isOne, rfl, if_neg (by simp [isOne])⟩
  | delimiter delimiter rest found ih =>
    have notEmpty := List.append_ne_nil_of_left_ne_nil
      (delimiter_ne_nil (delimiterAt?_eq_some.mp found).isOne) rest
    have foundWhole {back : Text} (free : SeamFree (delimiter ++ rest) back) :
        delimiterAt? (delimiter ++ (rest ++ back)) = some delimiter := by
      rw [← List.append_assoc, free.delimiterAt?_append notEmpty, found]
    rw [List.append_assoc, List.append_assoc, ofText_of_delimiter (foundWhole (freeBlank _)),
      ofText_of_delimiter (foundWhole free), ofText_of_delimiter found]
    rcases ih free.of_append with parted | ⟨lexemes, start, word, more, isWord, known, longer⟩
    · exact .inl (congrArg (delimiter :: ·) parted)
    · exact .inr ⟨delimiter :: lexemes, start, word, more, isWord, congrArg (delimiter :: ·) known,
        congrArg (delimiter :: ·) longer⟩
  | character first rest none ih =>
    have noneWhole {back : Text} (free : SeamFree (first :: rest) back) :
        delimiterAt? (first :: (rest ++ back)) = .none :=
      (free.delimiterAt?_append (List.cons_ne_nil first rest)).trans none
    have noneFree := noneWhole free
    rw [List.cons_append, List.cons_append, ofText_of_none (noneWhole (freeBlank _)),
      ofText_of_none noneFree, ofText_of_none none]
    rcases ih (@SeamFree.of_append [first] rest back free) with
      parted | ⟨lexemes, start, word, more, isWord, known, longer⟩
    · rw [parted]
      rcases List.eq_nil_or_concat' rest with rfl | ⟨more, last, rfl⟩
      · rw [List.nil_append, ofText_cons_blank blank other noBreak] at parted
        have apart := prependWord_of_apart parted first
        have joined : prependWord [first] ([c] :: ofText back) = [first, c] :: ofText back :=
          if_neg (by simp [alone])
        exact .inr ⟨[], [first], [], _, isDelimiter_of_none none ⟨[], rfl⟩, apart, joined⟩
      · exact .inl (prependWord_append_of_ne_nil (ofText_ne_nil (by simp)) _)
    · rw [known, longer]
      cases lexemes with
      | nil =>
        refine .inr ⟨[], first :: start, word, more, isDelimiter_cons_word noneFree known, ?_, ?_⟩
        · exact if_neg (by simp [isWord])
        · exact if_neg (by simp [isDelimiter_insert_blank blank other isWord])
      | cons lexeme lexemes =>
        exact .inr ⟨prependWord [first] (lexeme :: lexemes), start, word, more, isWord,
          prependWord_append_of_ne_nil (by simp) _, prependWord_append_of_ne_nil (by simp) _⟩

end Lexeme

namespace Term

open Lexeme

/-! ## Seams between terms -/

theorem mergeCompoundsFrom_of_head? {back : List Text} (noFirst : back.head? ≠ some ['-'])
    (held before : Text) : mergeCompoundsFrom held before back = held :: mergeCompounds back := by
  rcases back with _ | ⟨term, _ | ⟨after, back⟩⟩
  · rfl
  · rfl
  · have apart : joins before term after = false := by
      have other : term ≠ ['-'] := by simpa using noFirst
      simp [joins, other]
    rw [mergeCompoundsFrom, apart]
    rfl

theorem mergeCompoundsFrom_append {front back : List Text} (noLast : front.getLast? ≠ some ['-'])
    (noFirst : back.head? ≠ some ['-']) (held before : Text) :
    mergeCompoundsFrom held before (front ++ back) =
      mergeCompoundsFrom held before front ++ mergeCompounds back := by
  fun_induction mergeCompoundsFrom held before front with
  | case1 held before term after rest joined ih =>
    rw [List.cons_append, List.cons_append, mergeCompoundsFrom, if_pos joined]
    refine ih fun isLast => noLast ?_
    rw [List.getLast?_cons_cons, List.getLast?_cons, isLast]
    rfl
  | case2 held before term after rest apart ih =>
    rw [List.getLast?_cons_cons] at noLast
    rw [List.cons_append, List.cons_append, mergeCompoundsFrom, if_neg apart, List.cons_append]
    exact congrArg _ (ih noLast)
  | case3 held before rest short =>
    rcases rest with _ | ⟨term, _ | ⟨after, rest⟩⟩
    · exact mergeCompoundsFrom_of_head? noFirst held before
    · have alone : mergeCompoundsFrom held before (term :: back) =
          held :: term :: mergeCompounds back := by
        cases back with
        | nil => rfl
        | cons after back =>
          have apart : joins before term after = false := by
            have other : term ≠ ['-'] := by simpa using noLast
            simp [joins, other]
          rw [mergeCompoundsFrom, apart, ← mergeCompoundsFrom_of_head? noFirst term term]
          rfl
      exact alone
    · exact absurd rfl (short term after rest)

/-- No compound reaches over a seam without a hyphen on either side. -/
theorem mergeCompounds_append {front back : List Text} (noLast : front.getLast? ≠ some ['-'])
    (noFirst : back.head? ≠ some ['-']) :
    mergeCompounds (front ++ back) = mergeCompounds front ++ mergeCompounds back := by
  cases front with
  | nil => rfl
  | cons first rest =>
    refine mergeCompoundsFrom_append (fun isLast => noLast ?_) noFirst first first
    rw [List.getLast?_cons, isLast]
    rfl

section Seams

variable {front back : List Text} (noWildcard : (mergeCompounds back).head? ≠ some wildcard)

include noWildcard

/-- Terms without a hyphen and a wildcard at the seam are attached by themselves. -/
theorem attached_append (noLast : front.getLast? ≠ some ['-']) (noFirst : back.head? ≠ some ['-']) :
    visible (attachWildcards (mergeCompounds (front ++ back))) =
      visible (attachWildcards (mergeCompounds front)) ++
        visible (attachWildcards (mergeCompounds back)) := by
  rw [mergeCompounds_append noLast noFirst, attachWildcards_append noWildcard]
  exact List.filter_append ..

/-- So are terms with an empty one at the seam. -/
theorem attached_append_empty :
    visible (attachWildcards (mergeCompounds (front ++ [] :: back))) =
      visible (attachWildcards (mergeCompounds front)) ++
        visible (attachWildcards (mergeCompounds back)) := by
  rw [attached_separator (severs_of_noPart (by decide)) noWildcard]
  simp [visible, Text.isBlank]

end Seams

/-! ## The terms on both sides of a blank -/

theorem ofClean_append_seam {front back : Text} (free : SeamFree front back)
    (parts : (∃ last ∈ front.getLast?, isDelimiter [last]) ∨
      ∃ first ∈ back.head?, isDelimiter [first])
    (closed : front.count '\"' % 2 = 0) :
    ofClean (front ++ back) = ofClean front ++ ofClean back := by
  rw [ofClean, ofText_append_seam free parts, mergePhrases_append (by rwa [count_quote_ofText])]
  rfl

/-- Characters can be dropped before phrases are merged, where no lexeme becomes a quote by that. -/
theorem map_mergePhrasesFrom {lexemes : List Text}
    (own : ∀ lexeme ∈ lexemes, keepAllowed lexeme = quote → lexeme = quote)
    (phrase : Option Text) :
    (mergePhrasesFrom phrase lexemes).map keepAllowed =
      mergePhrasesFrom (phrase.map keepAllowed) (lexemes.map keepAllowed) := by
  have quoteKept : keepAllowed quote = quote := by decide
  have append (front back : Text) :
      keepAllowed (front ++ back) = keepAllowed front ++ keepAllowed back := List.filter_append ..
  induction lexemes generalizing phrase with
  | nil => cases phrase <;> rfl
  | cons lexeme lexemes ih =>
    rw [List.forall_mem_cons] at own
    by_cases isQuote : lexeme = quote
    · subst isQuote
      cases phrase <;> simp [mergePhrasesFrom, quoteKept, append, ih own.2]
    · have noQuote : keepAllowed lexeme ≠ quote := fun kept => isQuote (own.1 kept)
      cases phrase <;> simp [mergePhrasesFrom, isQuote, noQuote, append, ih own.2]

/-- The allowed terms of a text are those of its allowed lexemes. -/
theorem map_keepAllowed_ofClean (clean : Text) :
    (ofClean clean).map keepAllowed = mergePhrases ((ofText clean).map keepAllowed) := by
  refine map_mergePhrasesFrom (fun lexeme member kept => ?_) none
  have inside : '\"' ∈ keepAllowed lexeme := kept ▸ List.mem_singleton_self _
  exact eq_singleton_of_mem_ofText solo_quote member (List.mem_filter.mp inside).1

theorem ne_quote_of_isBlank {c : Char} (blank : Character.isBlank c) : c ≠ '\"' :=
  (Text.visible_ne_blank rfl blank).symm

/-- Of the blanks only the space is allowed. -/
theorem keepAllowed_insert_blank {c : Char} (blank : Character.isBlank c) (noSpace : c ≠ ' ')
    (front back : Text) : keepAllowed (front ++ c :: back) = keepAllowed (front ++ back) := by
  have dropped : ¬ isAllowed c := fun allowed => noSpace (eq_space_of_isBlank allowed blank)
  rw [keepAllowed, keepAllowed, List.filter_append, List.filter_append,
    List.filter_cons_of_neg dropped]

section Blank

variable {c : Char} (blank : Character.isBlank c) (other : isSeparator c = false)

include blank other

theorem keepAllowed_insert_other (front back : Text) :
    keepAllowed (front ++ c :: back) = keepAllowed (front ++ back) := by
  refine keepAllowed_insert_blank blank ?_ front back
  rintro rfl
  cases other

/-- The terms of a text with a blank that is no lexeme are those of both sides with an empty one
between them, or those of the text without it. -/
theorem terms_insert_blank {front back : Text} (closed : front.count '\"' % 2 = 0)
    (free : SeamFree front back) (noBreak : back.head? ≠ some '\n') :
    (ofClean (front ++ c :: back)).map keepAllowed =
        (ofClean front).map keepAllowed ++ [] :: (ofClean back).map keepAllowed ∨
      (ofClean (front ++ c :: back)).map keepAllowed =
        (ofClean (front ++ back)).map keepAllowed := by
  have dropped (start rest : Text) := keepAllowed_insert_other blank other start rest
  rcases ofText_insert_blank blank other free noBreak with
    parted | ⟨lexemes, start, word, more, -, known, longer⟩
  · refine .inl ?_
    have noQuote : [c] ≠ quote := fun same =>
      ne_quote_of_isBlank blank (List.singleton_inj.mp same)
    rw [ofClean, parted, mergePhrases_append (by rwa [count_quote_ofText]), mergePhrases,
      mergePhrases, mergePhrasesFrom, if_neg noQuote, List.map_append, List.map_cons]
    exact congrArg (fun term => _ ++ term :: _) (dropped [] [])
  · refine .inr ?_
    rw [map_keepAllowed_ofClean, map_keepAllowed_ofClean, known, longer, List.map_append,
      List.map_append, List.map_cons, List.map_cons, dropped]

/-- Between delimiters a blank is an empty term. -/
theorem terms_between_delimiters {front back : Text} (closed : front.count '\"' % 2 = 0)
    (noBreak : back.head? ≠ some '\n') (ends : ∃ last ∈ front.getLast?, isDelimiter [last])
    (begins : ∃ first ∈ back.head?, isDelimiter [first]) :
    (ofClean (front ++ c :: back)).map keepAllowed =
      (ofClean front).map keepAllowed ++ [] :: (ofClean back).map keepAllowed := by
  have noQuote : '\"' ∉ [c] := by simpa using (ne_quote_of_isBlank blank).symm
  have single : ofClean [c] = [[c]] := by
    rw [ofClean_eq_ofText noQuote]
    exact ofText_cons_blank blank other (by simp)
  have after : ofClean ([c] ++ back) = ofClean [c] ++ ofClean back :=
    ofClean_append_seam (seamFree_after_blank blank other noBreak []) (.inr begins)
      (by rw [List.count_eq_zero.mpr noQuote])
  rw [ofClean_append_seam (seamFree_before_blank blank other front back) (.inl ends) closed,
    ← List.singleton_append, after, single, List.map_append, List.map_append, List.map_singleton]
  exact congrArg (fun term => _ ++ (term :: _))
    (keepAllowed_insert_other blank other [] [])

/-- Beside a delimiter it is one, or nothing in the word on its other side. -/
theorem terms_beside_delimiter {front back : Text} (closed : front.count '\"' % 2 = 0)
    (noBreak : back.head? ≠ some '\n')
    (parts : (∃ last ∈ front.getLast?, isDelimiter [last]) ∨
      ∃ first ∈ back.head?, isDelimiter [first]) :
    (ofClean (front ++ c :: back)).map keepAllowed =
        (ofClean front).map keepAllowed ++ [] :: (ofClean back).map keepAllowed ∨
      (ofClean (front ++ c :: back)).map keepAllowed =
        (ofClean front).map keepAllowed ++ (ofClean back).map keepAllowed := by
  rcases parts with ends | begins
  · rw [ofClean_append_seam (seamFree_before_blank blank other front back) (.inl ends) closed,
      List.map_append]
    have alone := @terms_insert_blank c blank other [] back rfl (by simp [SeamFree]) noBreak
    exact alone.imp (congrArg (_ ++ ·)) (congrArg (_ ++ ·))
  · have closedBlank : (front ++ [c]).count '\"' % 2 = 0 := by
      simpa [ne_quote_of_isBlank blank] using closed
    have alone := @terms_insert_blank c blank other front [] closed (by simp [SeamFree]) (by simp)
    rw [List.append_cons, ofClean_append_seam (seamFree_after_blank blank other noBreak front)
      (.inr begins) closedBlank, List.map_append]
    refine alone.imp (fun apart => ?_) fun joined => ?_
    · rw [apart, List.append_assoc]
      rfl
    · rw [joined, List.append_nil]

end Blank

end Term

namespace Query

open Lexeme Term

/-- A blank outside phrases that is a lexeme separates a text, as a space does. -/
theorem tokensOfClean_append_blank {front : Text} {c : Char} (cuts : Cuts front c)
    (blank : Character.isBlank c) (closed : front.count '\"' % 2 = 0) {back : Text}
    (noWildcard : ¬ LeadsWildcard back) :
    tokensOfClean (front ++ c :: back) = tokensOfClean front ++ tokensOfClean back := by
  have noQuote := ne_quote_of_isBlank blank
  have dropped : (keepAllowed [c]).isBlank := by
    rw [keepAllowed, List.filter_singleton]
    cases isAllowed c
    · rfl
    · simpa [Text.isBlank] using blank
  have noPart : isCompoundPart (keepAllowed [c]) = false := by simp [isCompoundPart, dropped]
  rw [tokensOfClean_eq, attached_append_separator cuts noQuote noPart closed noWildcard,
    tokensOfClean_eq, tokensOfClean_eq]
  simp [visible, dropped]

/-- A delimiter next to which no compound can come about. -/
def IsParting (c : Char) : Prop :=
  isDelimiter [c] ∧ c ≠ '-'

instance (c : Char) : Decidable (IsParting c) :=
  inferInstanceAs (Decidable (_ ∧ _))

/-- Whether a delimiter next to a blank between two texts keeps their terms apart: it is no hyphen,
or a hyphen stands on both sides. -/
def BesideDelimiter (front back : Text) : Prop :=
  (∃ last ∈ front.getLast?, IsParting last) ∨ (∃ first ∈ back.head?, IsParting first) ∨
    front.getLast? = some '-' ∧ back.head? = some '-'

theorem BesideDelimiter.delimiter {front back : Text} (beside : BesideDelimiter front back) :
    (∃ last ∈ front.getLast?, isDelimiter [last]) ∨ ∃ first ∈ back.head?, isDelimiter [first] := by
  rcases beside with ⟨last, isLast, parting⟩ | ⟨first, isFirst, parting⟩ | ⟨isLast, -⟩
  · exact .inl ⟨last, isLast, parting.1⟩
  · exact .inr ⟨first, isFirst, parting.1⟩
  · exact .inl ⟨'-', isLast, rfl⟩

/-- With a hyphen next to the blank, delimiters stand on both sides. -/
theorem BesideDelimiter.delimiters {front back : Text} (beside : BesideDelimiter front back)
    (hyphen : ¬ (front.getLast? ≠ some '-' ∧ back.head? ≠ some '-')) :
    (∃ last ∈ front.getLast?, isDelimiter [last]) ∧ ∃ first ∈ back.head?, isDelimiter [first] := by
  simp only [not_and_or, not_not] at hyphen
  rcases beside with ⟨last, isLast, parting⟩ | ⟨first, isFirst, parting⟩ | ⟨isLast, isFirst⟩
  · have isFirst := hyphen.resolve_left fun same =>
      parting.2 (Option.some.inj (isLast.symm.trans same))
    exact ⟨⟨last, isLast, parting.1⟩, '-', isFirst, rfl⟩
  · have isLast := hyphen.resolve_right fun same =>
      parting.2 (Option.some.inj (isFirst.symm.trans same))
    exact ⟨⟨'-', isLast, rfl⟩, first, isFirst, parting.1⟩
  · exact ⟨⟨'-', isLast, rfl⟩, '-', isFirst, rfl⟩

/-- Whether the terms of two texts are apart with nothing between the texts. -/
def TermsApart (front back : Text) : Prop :=
  tokensOfClean (front ++ back) = tokensOfClean front ++ tokensOfClean back

instance (front back : Text) : Decidable (TermsApart front back) :=
  inferInstanceAs (Decidable (_ = _))

/-- In clean text without ampersands the delimiters of two characters end with one that parts. -/
theorem besideDelimiter_of_not_seamFree {front back : Text} (noBreak : back.head? ≠ some '\n')
    (noAmpersand : back.head? ≠ some '&') (across : ¬ SeamFree front back) :
    BesideDelimiter front back := by
  have known : ∀ delimiter ∈ delimiters, delimiter.length = 2 → delimiter.getLast?.all fun first =>
      decide (first = '\n' ∨ first = '&' ∨ IsParting first) := by decide
  simp only [SeamFree, not_forall, Bool.not_eq_false] at across
  obtain ⟨last, -, first, isFirst, isOne⟩ := across
  rcases of_decide_eq_true (known _ (isDelimiter_iff.mp isOne) rfl) with rfl | rfl | parting
  · exact absurd isFirst noBreak
  · exact absurd isFirst noAmpersand
  · exact .inr (.inl ⟨first, isFirst, parting⟩)

section Dropped

variable {c : Char} (blank : Character.isBlank c) (other : isSeparator c = false)
  {front back : Text} (closed : front.count '\"' % 2 = 0) (noBreak : back.head? ≠ some '\n')
  (noWildcard : ¬ LeadsWildcard back)

include blank other closed noBreak noWildcard

theorem tokensOfClean_append_parting (beside : BesideDelimiter front back) :
    tokensOfClean (front ++ c :: back) = tokensOfClean front ++ tokensOfClean back := by
  have hyphen : Solo '-' := by decide
  simp only [tokensOfClean_eq, ← List.map_append]
  refine congrArg (List.map Token.ofTerm) ?_
  by_cases noHyphen : front.getLast? ≠ some '-' ∧ back.head? ≠ some '-'
  · have noLast := getLast?_keepAllowed hyphen (by decide) noHyphen.1
    have noFirst := head?_keepAllowed hyphen (by decide) noHyphen.2
    rcases terms_beside_delimiter blank other closed noBreak beside.delimiter with apart | joined
    · rw [apart, attached_append_empty noWildcard]
    · rw [joined, attached_append noWildcard noLast noFirst]
  · obtain ⟨ends, begins⟩ := beside.delimiters noHyphen
    rw [terms_between_delimiters blank other closed noBreak ends begins,
      attached_append_empty noWildcard]

/-- Any other blank does if a delimiter stands next to it, or if the terms are apart without it. -/
theorem tokensOfClean_append_dropped (noAmpersand : back.head? ≠ some '&')
    (parted : BesideDelimiter front back ∨ TermsApart front back) :
    tokensOfClean (front ++ c :: back) = tokensOfClean front ++ tokensOfClean back := by
  by_cases beside : BesideDelimiter front back
  · exact tokensOfClean_append_parting blank other closed noBreak noWildcard beside
  · have apart := parted.resolve_left beside
    have free : SeamFree front back := by
      by_contra across
      exact beside (besideDelimiter_of_not_seamFree noBreak noAmpersand across)
    rcases terms_insert_blank blank other closed free noBreak with empty | joined
    · simp only [tokensOfClean_eq, ← List.map_append]
      rw [empty, attached_append_empty noWildcard]
    · rw [← apart, tokensOfClean_eq, tokensOfClean_eq, joined]

end Dropped

end Query

end FullTextQuery
