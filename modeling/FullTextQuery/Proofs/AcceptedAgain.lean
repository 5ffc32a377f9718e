import FullTextQuery.Proofs.Acceptance
import FullTextQuery.Proofs.Alphabet

/-!
# Outputs are accepted

A full-text query can be given to the conversion again (`accepted_again`). The check of quotes and
brackets is made on characters, so it is followed through the stages as `SameShape`: two texts have
the same shape if the check cannot tell them apart, whatever comes before them. Up to the
compounds the quotes and brackets stay where they are; a compound is a phrase whose parts have none;
wildcards, also those that are attached to brackets, move no character; and the passes and the
settling of spaces keep all quotes and brackets in their order.
-/

namespace FullTextQuery.Query

open CleanText Brackets Term Prefixed FullText

/-! ## Brackets outside phrases -/

/-- What stands outside the quoted segments of a text. -/
def outsidePhrasesFrom (inPhrase : Bool) : Text → Text
  | [] => []
  | c :: rest =>
    if c = '\"' then outsidePhrasesFrom (!inPhrase) rest
    else if inPhrase then outsidePhrasesFrom true rest
    else c :: outsidePhrasesFrom false rest

/-- What stands outside the quoted segments of a text. -/
def outsidePhrases (text : Text) : Text :=
  outsidePhrasesFrom false text

/-- The check of plain text counts the brackets outside quoted segments. -/
theorem balancedFrom_iff_closesFrom (inPhrase : Bool) (depth : Nat) (text : Text) :
    balancedFrom inPhrase depth text ↔
      ClosesFrom '(' ')' depth (outsidePhrasesFrom inPhrase text) := by
  have distinct : '(' ≠ ')' := by decide
  induction text generalizing inPhrase depth with
  | nil => rw [balancedFrom, outsidePhrasesFrom, closesFrom_nil, beq_iff_eq]
  | cons c rest ih =>
    rw [balancedFrom, outsidePhrasesFrom]
    split
    case isTrue => exact ih (!inPhrase) depth
    case isFalse =>
      cases inPhrase with
      | true => exact ih true depth
      | false =>
        rw [if_neg Bool.false_ne_true, if_neg Bool.false_ne_true]
        split
        case isTrue opens =>
          rw [opens, closesFrom_opening distinct]
          exact ih false (depth + 1)
        case isFalse notOpening =>
          split
          case isTrue closes =>
            rw [closes, closesFrom_closing distinct, Bool.and_eq_true, bne_iff_ne]
            exact and_congr_right fun _ => ih false (depth - 1)
          case isFalse notClosing =>
            rw [closesFrom_other notOpening notClosing]
            exact ih false depth

/-! ## The shape of a text -/

/-- Two texts that the check cannot tell apart. -/
structure SameShape (left right : Text) : Prop where
  /-- Their brackets close alike, wherever they stand. -/
  balance : ∀ inPhrase depth, balancedFrom inPhrase depth left = balancedFrom inPhrase depth right
  /-- Their quotes are even or odd alike. -/
  quotes : left.count '\"' % 2 = right.count '\"' % 2

namespace SameShape

variable {left middle right : Text}

theorem refl (text : Text) : SameShape text text :=
  ⟨fun _ _ => rfl, rfl⟩

theorem symm (same : SameShape left right) : SameShape right left :=
  ⟨fun inPhrase depth => (same.balance inPhrase depth).symm, same.quotes.symm⟩

theorem trans (first : SameShape left middle) (second : SameShape middle right) :
    SameShape left right where
  balance inPhrase depth := (first.balance inPhrase depth).trans (second.balance inPhrase depth)
  quotes := first.quotes.trans second.quotes

theorem append_left (same : SameShape left right) (front : Text) :
    SameShape (front ++ left) (front ++ right) where
  balance inPhrase depth := by
    induction front generalizing inPhrase depth with
    | nil => exact same.balance inPhrase depth
    | cons c front ih =>
      rw [List.cons_append, List.cons_append, balancedFrom, balancedFrom]
      simp only [ih]
  quotes := by
    have quotes := same.quotes
    rw [List.count_append, List.count_append]
    omega

/-- The quotes and brackets in their order are the shape. -/
theorem of_filter (same : left.filter isMark = right.filter isMark) : SameShape left right where
  balance inPhrase depth := by rw [← balancedFrom_filter, same, balancedFrom_filter]
  quotes := by
    have isQuote : isMark '\"' := by decide
    rw [← List.count_filter isQuote, same, List.count_filter isQuote]

/-- Text without quotes and brackets has no part in the shape. -/
theorem of_unmarked {text : Text} (unmarked : ∀ c ∈ text, isMark c = false) (rest : Text) :
    SameShape (text ++ rest) rest := by
  apply of_filter
  rw [List.filter_append, List.filter_eq_nil_iff.mpr (by simpa using unmarked), List.nil_append]

/-- Nor has a phrase without quotes and brackets inside. -/
theorem of_phrase {body : Text} (unmarked : ∀ c ∈ body, isMark c = false) (rest : Text) :
    SameShape (quote ++ body ++ quote ++ rest) rest where
  balance inPhrase depth := by
    have free {c : Char} (mark : isMark c) : c ∉ body := fun inside => by
      rw [unmarked c inside] at mark
      cases mark
    have shape : quote ++ body ++ quote ++ rest = '\"' :: (body ++ '\"' :: rest) := by simp [quote]
    rw [shape, balancedFrom_quote,
      balancedFrom_skip (free (by decide)) (fun _ => ⟨free (by decide), free (by decide)⟩),
      balancedFrom_quote, Bool.not_not]
  quotes := by
    have none : body.count '\"' = 0 := List.count_eq_zero.mpr fun inside => by
      cases unmarked _ inside
    rw [List.count_append, List.count_append, List.count_append, none, quote,
      List.count_singleton_self]
    omega

end SameShape

/-! ## Compounds -/

/-- The parts of compounds among terms have no quotes and brackets. -/
def PartsUnmarked (terms : List Text) : Prop :=
  ∀ term ∈ terms, isCompoundPart term → isPhrase term = false → ∀ c ∈ term, isMark c = false

theorem partsUnmarked_keepAllowed (clean : Text) :
    PartsUnmarked ((ofClean clean).map keepAllowed) := by
  intro term member part noPhrase c inside
  obtain ⟨source, isSource, rfl⟩ := List.mem_map.mp member
  refine Bool.eq_false_iff.mpr fun mark => ?_
  have notPhrase : ¬ isPhrase source := fun phrase => by
    rw [keepAllowed_of_isPhrase phrase] at noPhrase
    cases noPhrase
  have inSource : c ∈ source := (List.mem_filter.mp inside).1
  have alone : source = [c] :=
    eq_singleton_of_mem_ofClean (solo_of_isMark mark) isSource notPhrase inSource
  subst alone
  rcases isMark_eq_true mark with rfl | rfl | rfl
  · exact notPhrase rfl
  · cases part
  · cases part

/-- A compound takes the place of terms without quotes and brackets: of the term held back, unless
this is the term before the rest, of the hyphen and of the term after it. -/
theorem sameShape_mergeCompoundsFrom {held before : Text} {rest : List Text}
    (parts : PartsUnmarked (before :: rest))
    (holds : held = before ∨ ∀ more, SameShape (held ++ more) more) :
    SameShape (mergeCompoundsFrom held before rest).flatten (held ++ rest.flatten) := by
  fun_induction mergeCompoundsFrom held before rest with
  | case1 held before term after rest joined ih =>
    obtain ⟨rfl, ⟨partBefore, phraseBefore⟩, partAfter, phraseAfter⟩ := joins_iff.mp joined
    have first := parts before (by simp) partBefore phraseBefore
    have second := parts after (by simp) partAfter phraseAfter
    have dropsHeld (more : Text) : SameShape (held ++ more) more := by
      rcases holds with rfl | drops
      · exact .of_unmarked first more
      · exact drops more
    have hyphen : ∀ c ∈ ['-'], isMark c = false := by simp [isMark]
    have body : ∀ c ∈ before ++ ['-'] ++ after, isMark c = false := by
      intro c inside
      rcases List.mem_append.mp inside with inFront | inSecond
      · rcases List.mem_append.mp inFront with inFirst | isHyphen
        · exact first c inFirst
        · exact hyphen c isHyphen
      · exact second c inSecond
    have dropsCompound (more : Text) : SameShape (compound before after ++ more) more := by
      have shape : compound before after = quote ++ (before ++ ['-'] ++ after) ++ quote := by
        simp [compound]
      rw [shape]
      exact .of_phrase body more
    have dropsJoined : SameShape (['-'] ++ (after ++ rest.flatten)) rest.flatten :=
      (SameShape.of_unmarked hyphen _).trans (.of_unmarked second _)
    have restParts : PartsUnmarked (after :: rest) := fun next member =>
      parts next (List.mem_cons_of_mem _ (List.mem_cons_of_mem _ member))
    have later := ih restParts (.inr dropsCompound)
    exact (later.trans (dropsCompound _)).trans ((dropsHeld _).trans dropsJoined).symm
  | case2 held before term after rest apart ih =>
    have later := ih (fun next member => parts next (List.mem_cons_of_mem _ member)) (.inl rfl)
    exact later.append_left held
  | case3 held before rest short => exact .refl _

theorem sameShape_mergeCompounds {terms : List Text} (parts : PartsUnmarked terms) :
    SameShape (mergeCompounds terms).flatten terms.flatten := by
  cases terms with
  | nil => exact .refl _
  | cons first rest => exact sameShape_mergeCompoundsFrom parts (.inl rfl)

/-! ## All stages -/

theorem filter_isMark_keepAllowed (clean : Text) :
    (((ofClean clean).map keepAllowed).flatten).filter isMark = clean.filter isMark := by
  rw [flatten_keepAllowed, keepAllowed, List.filter_filter]
  refine List.filter_congr fun c _ => ?_
  cases mark : isMark c with
  | false => rfl
  | true =>
    rcases isMark_eq_true mark with rfl | rfl | rfl
    · decide
    · decide
    · decide

theorem sameShape_compoundsOf (clean : Text) : SameShape (compoundsOf clean).flatten clean :=
  (sameShape_mergeCompounds (partsUnmarked_keepAllowed clean)).trans
    (.of_filter (filter_isMark_keepAllowed clean))

theorem filter_isMark_tokensOfClean (clean : Text) :
    ((tokensOfClean clean).flatMap Token.text).filter isMark =
      (compoundsOf clean).flatten.filter isMark := by
  have texts : (tokensOfClean clean).flatMap Token.text =
      (visible (attachWildcards (compoundsOf clean))).flatten := by
    have same : Token.text ∘ Token.ofTerm = id := funext text_ofTerm
    rw [tokensOfClean_eq, List.flatMap, List.map_map, same, List.map_id]
    rfl
  rw [texts, filter_visible isMark_of_blank, flatten_attachWildcards]

/-- No operator is spelled with a quote or bracket. -/
theorem filter_isMark_text {token : Token} (spells : token.isOperator) :
    token.text.filter isMark = [] := by
  cases token with
  | keyword operator | symbol operator => cases operator <;> rfl
  | operand text | phrase text | opening | closing => cases spells

theorem filter_isMark_terms (tokens : List Token) :
    ((terms tokens).flatMap Token.text).filter isMark =
      (tokens.flatMap Token.text).filter isMark := by
  induction tokens with
  | nil => rfl
  | cons token rest ih =>
    rw [List.flatMap_cons, List.filter_append]
    cases spells : token.isOperator with
    | true => rw [terms_cons_operator spells, filter_isMark_text spells, ih, List.nil_append]
    | false => rw [terms_cons_other spells, List.flatMap_cons, List.filter_append, ih]

/-- Settling keeps the quotes and brackets. -/
theorem filter_isMark_ofTokens (tokens : List Token) :
    (ofTokens tokens).filter isMark = (tokens.flatMap Token.text).filter isMark := by
  have inked (text : Text) : (text.filter isInk).filter isMark = text.filter isMark := by
    rw [List.filter_filter]
    refine List.filter_congr fun c _ => ?_
    cases mark : isMark c with
    | false => rfl
    | true =>
      rcases isMark_eq_true mark with rfl | rfl | rfl
      · decide
      · decide
      · decide
  rw [← inked, filter_isInk_ofTokens, inked]

/-- A full-text query has the shape of the clean text it comes from. -/
theorem sameShape_of_convert {query output : Text} (accepted : convert query = .ok output) :
    SameShape output (ofRaw query) := by
  obtain ⟨-, -, rfl⟩ := convert_eq_ok.mp accepted
  have kept : (ofBalancedTerms (ofClean (ofRaw query))).filter isMark =
      (compoundsOf (ofRaw query)).flatten.filter isMark := by
    rw [ofBalancedTerms, filter_isMark_ofTokens, ← filter_isMark_terms, terms_passes,
      filter_isMark_terms]
    exact filter_isMark_tokensOfClean _
  exact (SameShape.of_filter kept).trans (sameShape_compoundsOf _)

/-! ## Acceptance -/

theorem plainMark_eq_self {c : Char} (allowed : isAllowed c) : plainMark c = c :=
  plainMark_of_not_mem (not_mem_of_isAllowed (by decide +kernel) allowed)

theorem map_plainMark_eq_self {text : Text} (allowed : ∀ c ∈ text, isAllowed c) :
    text.map plainMark = text := by
  have same : ∀ c ∈ text, plainMark c = id c := fun c member => plainMark_eq_self (allowed c member)
  exact (List.map_congr_left same).trans (List.map_id text)

/-- A query is accepted if its clean text has the shape of one that is. -/
theorem convert_of_sameShape {left right output : Text}
    (same : SameShape (ofRaw left) (ofRaw right)) (accepted : convert right = .ok output) :
    convert left = .ok (ofBalancedTerms (ofClean (ofRaw left))) := by
  obtain ⟨even, balance, -⟩ := convert_eq_ok.mp accepted
  have evenLeft : (ofRaw left).count '\"' % 2 = 0 := same.quotes.trans even
  refine convert_eq_ok.mpr ⟨evenLeft, ?_, rfl⟩
  rw [bracketsBalance_ofClean evenLeft, same.balance, ← bracketsBalance_ofClean even]
  exact balance

/-- A full-text query is a valid query: its quotes are even, its brackets outside quoted segments
balance, and it is accepted. -/
theorem accepted_again (query output : Text) (accepted : convert query = .ok output) :
    output.count '\"' % 2 = 0 ∧ Balanced '(' ')' (outsidePhrases output) ∧
      ∃ again, convert output = .ok again := by
  have shape := sameShape_of_convert accepted
  obtain ⟨even, balance, -⟩ := convert_eq_ok.mp accepted
  rw [bracketsBalance_ofClean even] at balance
  have outputBalance : balancedFrom false 0 output := (shape.balance false 0).trans balance
  have cleaned : SameShape (ofRaw output) output := by
    have allowed : ∀ c ∈ output, isAllowed c := fun c member =>
      (allowed_of_convert accepted c member).1
    apply SameShape.of_filter
    rw [filter_isMark_ofRaw, map_plainMark_eq_self allowed]
  refine ⟨shape.quotes.trans even, ?_, _, convert_of_sameShape (cleaned.trans shape) accepted⟩
  exact closesFrom_zero.mp ((balancedFrom_iff_closesFrom false 0 output).mp outputBalance)

/-- A bracket that a wildcard has made a word of, one of another shape, a bracket in a phrase, and a
chain of hyphens of which two parts are left. -/
theorem accepted_again_altered :
    let output := "+(* +\"b-c\") \"x(\" (+y +)* +\"e-f\"".toList
    convert "[*a-b-c) \u201cx(\u201d or (y)* d-e-f".toList = .ok output ∧
      output.count '\"' % 2 = 0 ∧ Balanced '(' ')' (outsidePhrases output) ∧
      ∃ again, convert output = .ok again := by
  intro output
  have accepted : convert "[*a-b-c) \u201cx(\u201d or (y)* d-e-f".toList = .ok output := by
    decide +kernel
  exact ⟨accepted, accepted_again _ output accepted⟩

end FullTextQuery.Query
