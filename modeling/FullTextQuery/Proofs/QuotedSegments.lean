import FullTextQuery.Proofs.Alphabet
import FullTextQuery.Proofs.Printing
import FullTextQuery.Proofs.TermShape

/-!
# Phrases in the full-text query

A full-text query quotes the phrases of the visible terms, in their order and no others. But the
spaces of joined tokens settle in phrases as they do between them, since a quote is a character
that no step looks at: it cuts the text, and what stands between two quotes settles by itself
(`quotedSegments_settleSpaces`). So each phrase comes out with its own spaces settled, and it comes
out as it went in exactly if nothing in it is `Loose`: no space after a plus, a hyphen or an opening
bracket, none before a closing bracket and no two in a row (`quotedSegments_of_convert`).
-/

namespace FullTextQuery

namespace Text

/-! ## Quoted segments -/

/-- The segments of the rest of a text that stand between a quote and the next one. `open?` is what
has been read of the segment that is open, if one is; a segment that is never closed is none. -/
def quotedSegmentsFrom (open? : Option Text) : Text → List Text
  | [] => []
  | c :: rest =>
    match open? with
    | none => quotedSegmentsFrom (if c = '\"' then some [] else none) rest
    | some segment =>
      if c = '\"' then segment :: quotedSegmentsFrom none rest
      else quotedSegmentsFrom (some (segment ++ [c])) rest

/-- The segments of a text between its quotes: each odd quote opens one, and the next quote closes
it. -/
def quotedSegments (text : Text) : List Text :=
  quotedSegmentsFrom none text

/-- Text without quotes goes into the segment that is open, or into none. -/
theorem quotedSegmentsFrom_plain {plain : Text} (free : '\"' ∉ plain) (open? : Option Text)
    (rest : Text) :
    quotedSegmentsFrom open? (plain ++ rest) =
      quotedSegmentsFrom (open?.map (· ++ plain)) rest := by
  induction plain generalizing open? with
  | nil => cases open? <;> simp
  | cons c plain ih =>
    rw [List.mem_cons, not_or] at free
    have noQuote : c ≠ '\"' := Ne.symm free.1
    cases open? with
    | none =>
      rw [List.cons_append, quotedSegmentsFrom, if_neg noQuote]
      exact ih free.2 none
    | some segment =>
      rw [List.cons_append, quotedSegmentsFrom, if_neg noQuote, ih free.2]
      simp

theorem quotedSegments_plain {plain : Text} (free : '\"' ∉ plain) : quotedSegments plain = [] := by
  have walk := quotedSegmentsFrom_plain free none []
  rwa [List.append_nil] at walk

theorem quotedSegments_plain_append {plain : Text} (free : '\"' ∉ plain) (rest : Text) :
    quotedSegments (plain ++ rest) = quotedSegments rest :=
  quotedSegmentsFrom_plain free none rest

/-- A quote that no other one comes after closes nothing. -/
theorem quotedSegments_open {lead rest : Text} (noneBefore : '\"' ∉ lead)
    (noneAfter : '\"' ∉ rest) : quotedSegments (lead ++ '\"' :: rest) = [] := by
  have walk := quotedSegmentsFrom_plain noneAfter (some []) []
  rw [List.append_nil] at walk
  rw [quotedSegments_plain_append noneBefore]
  exact walk

theorem quotedSegments_phrase {lead segment : Text} (noneBefore : '\"' ∉ lead)
    (free : '\"' ∉ segment) (rest : Text) :
    quotedSegments (lead ++ '\"' :: (segment ++ '\"' :: rest)) =
      segment :: quotedSegments rest := by
  rw [quotedSegments_plain_append noneBefore]
  exact quotedSegmentsFrom_plain free (some []) ('\"' :: rest)

/-- Induction along the quotes: a text has none, or one, or it begins with a segment. -/
theorem quote_induction {motive : Text → Prop} (plain : ∀ text, '\"' ∉ text → motive text)
    (opened : ∀ lead rest, '\"' ∉ lead → '\"' ∉ rest → motive (lead ++ '\"' :: rest))
    (phrase : ∀ lead segment rest, '\"' ∉ lead → '\"' ∉ segment → motive rest →
      motive (lead ++ '\"' :: (segment ++ '\"' :: rest)))
    (text : Text) : motive text := by
  induction size : text.length using Nat.strong_induction_on generalizing text with
  | _ size ih =>
    subst size
    by_cases quoted : '\"' ∈ text
    · obtain ⟨lead, more, rfl, noneBefore⟩ := List.eq_append_cons_of_mem quoted
      by_cases closed : '\"' ∈ more
      · obtain ⟨segment, rest, rfl, free⟩ := List.eq_append_cons_of_mem closed
        refine phrase lead segment rest noneBefore free (ih rest.length ?_ rest rfl)
        simp only [List.length_append, List.length_cons]
        omega
      · exact opened lead more noneBefore closed
    · exact plain text quoted

/-- Where the quotes are paired, what comes after them is cut by itself. -/
theorem quotedSegments_append {front : Text} (paired : front.count '\"' % 2 = 0) (back : Text) :
    quotedSegments (front ++ back) = quotedSegments front ++ quotedSegments back := by
  induction front using quote_induction with
  | plain front free =>
    rw [quotedSegments_plain_append free, quotedSegments_plain free, List.nil_append]
  | opened lead rest noneBefore noneAfter =>
    rw [List.count_append, List.count_cons_self, List.count_eq_zero.mpr noneBefore,
      List.count_eq_zero.mpr noneAfter] at paired
    cases paired
  | phrase lead segment rest noneBefore free ih =>
    have shape : lead ++ '\"' :: (segment ++ '\"' :: rest) ++ back =
        lead ++ '\"' :: (segment ++ '\"' :: (rest ++ back)) := by simp
    rw [List.count_append, List.count_cons_self, List.count_append, List.count_cons_self,
      List.count_eq_zero.mpr noneBefore, List.count_eq_zero.mpr free] at paired
    rw [shape, quotedSegments_phrase noneBefore free, quotedSegments_phrase noneBefore free,
      ih (by omega), List.cons_append]

theorem mem_of_mem_quotedSegments {text segment : Text} (member : segment ∈ quotedSegments text) :
    segment ⊆ text := by
  induction text using quote_induction with
  | plain text free =>
    rw [quotedSegments_plain free] at member
    cases member
  | opened lead rest noneBefore noneAfter =>
    rw [quotedSegments_open noneBefore noneAfter] at member
    cases member
  | phrase lead first rest noneBefore free ih =>
    rw [quotedSegments_phrase noneBefore free, List.mem_cons] at member
    intro c inside
    rcases member with rfl | later
    · simp [inside]
    · simp [ih later inside]

/-! ## Trimming and joining -/

theorem quotedSegments_trimStart (text : Text) :
    quotedSegments (trimStart text) = quotedSegments text := by
  induction text with
  | nil => rfl
  | cons c rest ih =>
    unfold trimStart at ih ⊢
    rw [List.dropWhile_cons]
    split
    case isFalse => rfl
    case isTrue blank =>
      have free : '\"' ∉ [c] := by
        rw [List.mem_singleton]
        rintro rfl
        cases blank
      rw [ih]
      exact (quotedSegments_plain_append free rest).symm

/-- What is trimmed at the end stands in no segment, as it comes after the last quote. -/
theorem quotedSegmentsFrom_trimEnd (open? : Option Text) (text : Text) :
    quotedSegmentsFrom open? (trimEnd text) = quotedSegmentsFrom open? text := by
  induction text generalizing open? with
  | nil => rfl
  | cons c rest ih =>
    have keeps : quotedSegmentsFrom open? (c :: trimEnd rest) =
        quotedSegmentsFrom open? (c :: rest) := by
      simp only [quotedSegmentsFrom, ih]
    rw [trimEnd]
    cases kept : trimEnd rest with
    | cons next more =>
      rw [← keeps, kept]
    | nil =>
      rw [← keeps, kept]
      dsimp only
      split
      case isFalse => rfl
      case isTrue blank =>
        have free : '\"' ∉ [c] := by
          rw [List.mem_singleton]
          rintro rfl
          cases blank
        exact (quotedSegmentsFrom_plain free open? []).symm

theorem quotedSegments_trim (text : Text) : quotedSegments (trim text) = quotedSegments text :=
  (quotedSegmentsFrom_trimEnd none _).trans (quotedSegments_trimStart text)

/-- Joined texts with paired quotes have their own segments. -/
theorem quotedSegments_join {texts : List Text}
    (paired : ∀ text ∈ texts, text.count '\"' % 2 = 0) :
    quotedSegments (join [' '] texts) = texts.flatMap quotedSegments := by
  fun_induction join [' '] texts with
  | case1 => rfl
  | case2 text => simp
  | case3 text texts _ ih =>
    have first := paired text List.mem_cons_self
    have rest := ih fun next member => paired next (List.mem_cons_of_mem _ member)
    have space : '\"' ∉ [' '] := by decide
    rw [List.append_assoc, quotedSegments_append first, quotedSegments_plain_append space, rest,
      List.flatMap_cons]

end Text

namespace FullText

open Text

/-! ## Settling in segments -/

/-- Each segment settles by itself. -/
theorem quotedSegments_settleSpaces (text : Text) :
    quotedSegments (settleSpaces text) = (quotedSegments text).map settleSpaces := by
  have cut (front back : Text) :
      settleSpaces (front ++ '\"' :: back) = settleSpaces front ++ '\"' :: settleSpaces back :=
    settleSpaces_cut (by decide) front back
  have free {plain : Text} (none : '\"' ∉ plain) : '\"' ∉ settleSpaces plain := fun member =>
    none ((mem_of_mem_settleSpaces member).1.resolve_left (by decide))
  induction text using quote_induction with
  | plain text none =>
    rw [quotedSegments_plain (free none), quotedSegments_plain none, List.map_nil]
  | opened lead rest noneBefore noneAfter =>
    rw [cut, quotedSegments_open (free noneBefore) (free noneAfter),
      quotedSegments_open noneBefore noneAfter, List.map_nil]
  | phrase lead segment rest noneBefore none ih =>
    rw [cut, cut, quotedSegments_phrase (free noneBefore) (free none),
      quotedSegments_phrase noneBefore none, ih, List.map_cons]

/-! ## Text that settles as it is -/

/-- The places of the spaces in a text, added up. -/
def spacePlaces : Text → Nat
  | [] => 0
  | _ :: rest => rest.count ' ' + spacePlaces rest

theorem attach_perm (mark : Char) (text : Text) : (attach mark text).Perm text := by
  fun_induction attach mark text with
  | case1 a b rest moved ih =>
    obtain ⟨rfl, rfl⟩ := moved
    exact (List.Perm.swap _ _ _).trans ((ih.cons ' ').cons a)
  | case2 a b rest _ ih => exact ih.cons a
  | case3 => exact .refl _

/-- Spaces move to the front only. -/
theorem attach_eq_or_spacePlaces_lt {mark : Char} (noSpace : mark ≠ ' ') (text : Text) :
    attach mark text = text ∨ spacePlaces (attach mark text) < spacePlaces text := by
  have bound {text : Text} (same : attach mark text = text ∨
      spacePlaces (attach mark text) < spacePlaces text) :
      spacePlaces (attach mark text) ≤ spacePlaces text :=
    same.elim (fun equal => (congrArg spacePlaces equal).le) Nat.le_of_lt
  have spaces (text : Text) : (attach mark text).count ' ' = text.count ' ' :=
    (attach_perm mark text).count_eq ' '
  fun_induction attach mark text with
  | case1 a b rest moved ih =>
    obtain ⟨rfl, rfl⟩ := moved
    have later := bound ih
    refine .inr ?_
    simp only [spacePlaces, List.count_cons_self, List.count_cons_of_ne noSpace, spaces]
    omega
  | case2 a b rest _ ih =>
    refine ih.imp (congrArg (a :: ·)) fun less => ?_
    simp only [spacePlaces, spaces] at less ⊢
    omega
  | case3 => exact .inl rfl

theorem tightenClosing_sublist (text : Text) : (tightenClosing text).Sublist text := by
  fun_induction tightenClosing text with
  | case1 => exact .slnil
  | case2 c rest _ ih => exact ih.cons c
  | case3 c rest _ ih => exact ih.cons_cons c

theorem tightenOpening_sublist (text : Text) : (tightenOpening text).Sublist text := by
  fun_induction tightenOpening text with
  | case1 a b rest opens ih =>
    rw [opens.1]
    exact (ih.cons b).cons_cons '('
  | case2 a b rest _ ih => exact ih.cons_cons a
  | case3 text => exact .refl text

/-- Where a step changes `bad` neighbours, a text that it leaves has none. -/
theorem isChain_of_step_eq {step : Text → Text} {bad : Char → Char → Prop}
    (keeps : ∀ c rest, (∀ next ∈ rest.head?, ¬ bad c next) → step (c :: rest) = c :: step rest)
    (changes : ∀ c next rest, bad c next → step (c :: next :: rest) ≠ c :: next :: rest)
    {text : Text} (fixed : step text = text) : text.IsChain fun left right => ¬ bad left right := by
  induction text with
  | nil => exact .nil
  | cons c rest ih =>
    have good : ∀ next ∈ rest.head?, ¬ bad c next := by
      intro next isNext isBad
      cases rest with
      | nil => cases isNext
      | cons first rest =>
        obtain rfl := Option.some.inj isNext
        exact changes c first rest isBad fixed
    rw [keeps c rest good] at fixed
    exact List.isChain_cons.mpr ⟨good, ih (List.cons.inj fixed).2⟩

/-- The steps that settle spaces leave a text one by one if they leave it together. The moves keep
its length and the other steps shorten it, so nothing is dropped; and no move takes a space further
back, so nothing is moved. -/
theorem steps_of_settleSpaces_eq {text : Text} (fixed : settleSpaces text = text) :
    (∀ operator : Operator, attach operator.symbol text = text) ∧ squeezeBlanks text = text ∧
      tightenClosing text = text ∧ tightenOpening text = text ∧ '§' ∉ text := by
  let moves := [attach Operator.not.symbol, attach Operator.and.symbol, attach Operator.or.symbol]
  let drops := [squeezeBlanks, tightenClosing, tightenOpening,
    List.filter (· != Operator.or.symbol)]
  have together : inTurn drops (inTurn moves text) = text := fixed
  have shortens : ∀ step ∈ drops, Shortens step := by
    simp only [drops, List.forall_mem_cons]
    exact ⟨squeezeBlanks_removes.shortens, .of_sublist tightenClosing_sublist,
      .of_sublist tightenOpening_sublist, .of_sublist fun _ => List.filter_sublist, by simp⟩
  have length : (inTurn moves text).length = text.length :=
    ((attach_perm _ _).trans ((attach_perm _ _).trans (attach_perm _ _))).length_eq
  have dropped : ∀ step ∈ drops, step (inTurn moves text) = inTurn moves text :=
    eq_self_of_length_inTurn shortens (by rw [together, length])
  have still : inTurn moves text = text := (inTurn_eq_self dropped).symm.trans together
  rw [still] at dropped
  have frontwards (operator : Operator) (text : Text) : attach operator.symbol text = text ∨
      spacePlaces (attach operator.symbol text) < spacePlaces text :=
    attach_eq_or_spacePlaces_lt (by cases operator <;> decide) text
  have lowers : ∀ step ∈ moves, ∀ text,
      step text = text ∨ spacePlaces (step text) < spacePlaces text := by
    simp only [moves, List.forall_mem_cons]
    exact ⟨frontwards .not, frontwards .and, frontwards .or, by simp⟩
  have moved : ∀ step ∈ moves, step text = text :=
    eq_self_of_measure_inTurn lowers (by rw [still])
  simp only [drops, moves, List.forall_mem_cons] at dropped moved
  obtain ⟨byNot, byAnd, byOr, -⟩ := moved
  obtain ⟨squeezed, closed, opened, filtered, -⟩ := dropped
  refine ⟨fun operator => ?_, squeezed, closed, opened, fun member => ?_⟩
  · cases operator with
    | and => exact byAnd
    | or => exact byOr
    | not => exact byNot
  · have kept := List.filter_eq_self.mp filtered '§' member
    cases kept

/-- Exactly the tight texts without the mark of OR settle as they are. -/
theorem settleSpaces_eq_self_iff {text : Text} :
    settleSpaces text = text ↔
      text.IsChain (fun left right => ¬ Loose left right) ∧ '§' ∉ text := by
  refine ⟨fun fixed => ?_, fun ⟨tight, noMarker⟩ => settleSpaces_eq_of_tight tight noMarker⟩
  obtain ⟨moved, squeezed, closed, opened, noMarker⟩ := steps_of_settleSpaces_eq fixed
  have apart := not_not.mp (squeezeBlanks_removes.not_finds squeezed)
  have marks (operator : Operator) := isChain_of_step_eq (fun _ _ => attach_cons)
    (fun c next rest isBad same => by
      obtain ⟨rfl, rfl⟩ := isBad
      rw [attach_mark] at same
      have first := (List.cons.inj same).1
      revert first
      cases operator <;> decide) (moved operator)
  have closings := isChain_of_step_eq (fun _ _ => tightenClosing_cons)
    (fun c next rest isBad same => by
      obtain ⟨rfl, rfl⟩ := isBad
      have shorter := (tightenClosing_sublist (')' :: rest)).length_le
      rw [tightenClosing, if_pos ⟨rfl, rfl⟩] at same
      rw [same] at shorter
      exact Nat.not_succ_le_self _ shorter) closed
  have openings := isChain_of_step_eq (fun _ _ => tightenOpening_cons)
    (fun c next rest isBad same => by
      have shorter := (tightenOpening_sublist rest).length_le
      rw [tightenOpening, if_pos isBad] at same
      rw [(List.cons.inj same).2] at shorter
      exact Nat.not_succ_le_self _ shorter) opened
  refine ⟨?_, noMarker⟩
  rw [List.isChain_iff_forall_rel_of_append_cons_cons] at *
  intro left right front back shape
  have notMark (operator : Operator) : ¬ (left = operator.symbol ∧ right = ' ') :=
    List.isChain_iff_forall_rel_of_append_cons_cons.mp (marks operator) shape
  rintro (blanks | ⟨listed, rfl⟩ | closes)
  · exact apart shape blanks
  · simp only [List.mem_cons, List.not_mem_nil, or_false] at listed
    rcases listed with rfl | rfl | rfl | rfl
    · exact notMark .and ⟨rfl, rfl⟩
    · exact notMark .not ⟨rfl, rfl⟩
    · exact notMark .or ⟨rfl, rfl⟩
    · exact openings shape ⟨rfl, rfl⟩
  · exact closings shape closes

end FullText

namespace Query

open FullText Prefixed Term Text

/-! ## Paired quotes -/

/-- Attaching a wildcard keeps what a wildcard at the end does not change. -/
theorem forall_mem_attachWildcards {property : Text → Prop}
    (attached : ∀ term, property term → property (term ++ wildcard)) {terms : List Text}
    (all : ∀ term ∈ terms, property term) : ∀ term ∈ attachWildcards terms, property term := by
  have walk {held : Text} {rest : List Text} (ofHeld : property held)
      (ofRest : ∀ term ∈ rest, property term) :
      ∀ term ∈ attachWildcardsFrom held rest, property term := by
    induction rest generalizing held with
    | nil => simpa [attachWildcardsFrom] using ofHeld
    | cons term rest ih =>
      obtain ⟨ofTerm, later⟩ := List.forall_mem_cons.mp ofRest
      rw [attachWildcardsFrom]
      split
      · exact ih (attached held ofHeld) later
      · exact List.forall_mem_cons.mpr ⟨ofHeld, ih ofTerm later⟩
  cases terms with
  | nil => exact all
  | cons first rest =>
    obtain ⟨ofFirst, ofRest⟩ := List.forall_mem_cons.mp all
    exact walk ofFirst ofRest

/-- Where the quotes of a clean text are paired, those of each of its visible terms are. -/
theorem paired_of_mem_visible {clean : Text} (even : clean.count '\"' % 2 = 0) :
    ∀ term ∈ Pass.runAll lexicalPasses (ofClean clean), term.count '\"' % 2 = 0 := by
  have read : ∀ term ∈ ofClean clean, term.count '\"' % 2 = 0 := by
    intro term member
    rcases shape_of_mem_ofClean even member with ⟨body, free, rfl⟩ | ⟨noQuote, -⟩
    · simp [List.count_eq_zero.mpr free]
    · rw [List.count_eq_zero.mpr noQuote]
  have kept : ∀ term ∈ (ofClean clean).map keepAllowed, term.count '\"' % 2 = 0 := by
    intro term member
    obtain ⟨source, isSource, rfl⟩ := List.mem_map.mp member
    have same : (keepAllowed source).count '\"' = source.count '\"' :=
      List.count_filter (by decide)
    rw [same]
    exact read source isSource
  have merged := @forall_mem_mergeCompounds (fun term => term.count '\"' % 2 = 0)
    (fun before hyphen after _ first _ second => by
      simp only [compound, quote, List.count_append, List.count_cons_self, List.count_nil]
      have hyphenFree : ['-'].count '\"' = 0 := by decide
      omega) _ kept
  have attached := forall_mem_attachWildcards (fun term paired => by
    have wildcardFree : wildcard.count '\"' = 0 := by decide
    rwa [List.count_append, wildcardFree]) merged
  exact fun term member => attached term (List.mem_filter.mp member).1

/-- Operators have no quotes. -/
theorem quote_not_mem_of_isOperator {token : Token} (spells : token.isOperator) :
    '\"' ∉ token.text := by
  have none (operator : Operator) : '\"' ∉ operator.symbol :: operator.keyword := by
    cases operator <;> decide
  cases token with
  | keyword operator => exact (not_or.mp (List.mem_cons.not.mp (none operator))).2
  | symbol operator =>
    exact fun member => none operator (List.mem_singleton.mp member ▸ List.mem_cons_self)
  | operand text | phrase text | opening | closing => cases spells

/-- The segments of tokens are those of the tokens that are no operators. -/
theorem flatMap_quotedSegments_terms (tokens : List Token) :
    (terms tokens).flatMap (fun token => quotedSegments token.text) =
      tokens.flatMap fun token => quotedSegments token.text := by
  induction tokens with
  | nil => rfl
  | cons token tokens ih =>
    cases spells : token.isOperator with
    | false => rw [terms_cons_other spells, List.flatMap_cons, List.flatMap_cons, ih]
    | true =>
      rw [terms_cons_operator spells, List.flatMap_cons,
        quotedSegments_plain (quote_not_mem_of_isOperator spells), ih, List.nil_append]

/-! ## Conversions -/

/-- The segments of prefixed tokens, joined, are those of the visible terms that they come from. -/
theorem quotedSegments_joinTokens {clean : Text} (even : clean.count '\"' % 2 = 0) :
    quotedSegments (joinTokens (Pass.runAll structuralPasses (tokensOf (ofClean clean)))) =
      (Pass.runAll lexicalPasses (ofClean clean)).flatMap quotedSegments := by
  have paired : ∀ text ∈ (Pass.runAll structuralPasses (tokensOf (ofClean clean))).map Token.text,
      text.count '\"' % 2 = 0 := by
    intro text member
    obtain ⟨token, isToken, rfl⟩ := List.mem_map.mp member
    rcases isOperator_or_mem_of_mem_passes isToken with spells | isRead
    · rw [List.count_eq_zero.mpr (quote_not_mem_of_isOperator spells)]
    · obtain ⟨term, isVisible, rfl⟩ := List.mem_map.mp isRead
      rw [text_ofTerm]
      exact paired_of_mem_visible even term isVisible
  rw [joinTokens, quotedSegments_join paired, List.flatMap_map, ← flatMap_quotedSegments_terms,
    terms_passes, flatMap_quotedSegments_terms, tokensOf, List.flatMap_map]
  simp only [text_ofTerm]

/-- The quoted segments of a full-text query are those of the visible terms, in order, each with its
spaces settled. So they are those of the visible terms character for character exactly if no segment
has neighbours that are loose. -/
theorem quotedSegments_of_convert (query output : Text) (accepted : convert query = .ok output) :
    ∃ visible : List Text, (trace query).snapshot? .visible = some ⟨.visible, visible⟩ ∧
      let segments := visible.flatMap quotedSegments
      quotedSegments output = segments.map settleSpaces ∧
        (quotedSegments output = segments ↔
          ∀ segment ∈ segments, segment.IsChain fun left right => ¬ Loose left right) := by
  obtain ⟨even, balance, rfl⟩ := convert_eq_ok.mp accepted
  refine ⟨_, snapshot?_visible even balance, ?_⟩
  intro segments
  have settled : quotedSegments (ofBalancedTerms (ofClean (CleanText.ofRaw query))) =
      segments.map settleSpaces := by
    rw [ofBalancedTerms, ofTokens, settle_eq, quotedSegments_trim, quotedSegments_settleSpaces,
      quotedSegments_joinTokens even]
  have noMarker : ∀ segment ∈ segments, '§' ∉ segment := by
    intro segment member inside
    obtain ⟨term, isVisible, isSegment⟩ := List.mem_flatMap.mp member
    have isToken : Token.ofTerm term ∈ tokensOfClean (CleanText.ofRaw query) :=
      List.mem_map_of_mem isVisible
    have inTerm := mem_of_mem_quotedSegments isSegment inside
    rw [← text_ofTerm term] at inTerm
    exact absurd (allowed_of_mem_tokensOfClean isToken _ inTerm).1 (by decide)
  refine ⟨settled, ?_⟩
  have fixed : segments.map settleSpaces = segments ↔
      ∀ segment ∈ segments, settleSpaces segment = segment := by
    conv_lhs => rw [← List.map_id segments, List.map_map]
    exact List.map_inj_left
  rw [settled, fixed]
  refine forall₂_congr fun segment member => ?_
  rw [settleSpaces_eq_self_iff, and_iff_left (noMarker segment member)]

/-- Phrases and compounds whose segments are loose next to those that are not. -/
theorem quotedSegments_of_convert_loose :
    let query := "\"c++ developer\" or x-y \"( a )\" not (\"low-code\" \"b\"*)".toList
    let output := "\"c+ +developer\" \"x-y\" +\"(a)\" -(+\"low-code\" +\"b\"*)".toList
    convert query = .ok output ∧
      ∃ visible : List Text, (trace query).snapshot? .visible = some ⟨.visible, visible⟩ ∧
        let segments := visible.flatMap quotedSegments
        quotedSegments output = segments.map settleSpaces ∧
          (quotedSegments output = segments ↔
            ∀ segment ∈ segments, segment.IsChain fun left right => ¬ Loose left right) := by
  intro query output
  have accepted : convert query = .ok output := by decide
  exact ⟨accepted, quotedSegments_of_convert query output accepted⟩

end Query

end FullTextQuery
