import FullTextQuery.Proofs.Conservation

/-!
# Brackets through the stages

A query is accepted for the brackets of its merged phrases. Dropping characters and merging
compounds keep these brackets, and the passes on tokens keep all that is no operator. The one stage
that may take a bracket away is the one in between: a wildcard is attached to the term before it,
also if that term is a bracket, and then the two are one word. So `balanced_of_convert` says that
the lists up to the compounds balance, and that from the wildcards on the brackets are those that no
wildcard follows.
-/

namespace FullTextQuery

namespace Brackets

variable {α : Type} [DecidableEq α] {opening closing : α}

/-- Only the brackets count. -/
theorem balanced_filter {p : α → Bool} (keepsOpening : p opening) (keepsClosing : p closing)
    (tokens : List α) :
    Balanced opening closing (tokens.filter p) ↔ Balanced opening closing tokens := by
  constructor
  · rintro ⟨closed_le, count_eq⟩
    refine ⟨fun front isFront => ?_, ?_⟩
    · have bound := closed_le (front.filter p) (isFront.filter p)
      rwa [List.count_filter keepsOpening, List.count_filter keepsClosing] at bound
    · rwa [List.count_filter keepsOpening, List.count_filter keepsClosing] at count_eq
  · rintro ⟨closed_le, count_eq⟩
    refine ⟨fun front isFront => ?_, ?_⟩
    · obtain ⟨whole, isWhole, rfl⟩ := List.prefix_filter_iff.mp isFront
      rw [List.count_filter keepsOpening, List.count_filter keepsClosing]
      exact closed_le whole isWhole
    · rwa [List.count_filter keepsOpening, List.count_filter keepsClosing]

end Brackets

namespace Pass

/-- A list on record is that of one of the passes. -/
theorem stage_of_mem_record {α : Type} {passes : List (Pass α)} {texts : α → List Text} {start : α}
    {snapshot : Snapshot} (member : snapshot ∈ record texts passes start) :
    snapshot.stage ∈ passes.map Pass.stage := by
  induction passes generalizing start with
  | nil => cases member
  | cons pass passes ih =>
    rw [List.map_cons]
    rcases List.mem_cons.mp member with rfl | later
    · exact List.mem_cons_self
    · exact List.mem_cons_of_mem _ (ih later)

end Pass

namespace Term

open Brackets

/-! ## The check of brackets -/

/-- The check with groups open counts. The induction is on the terms; a bracket changes the depth,
so the depth is general. -/
theorem bracketsBalanceFrom_iff (depth : Nat) (terms : List Text) :
    bracketsBalanceFrom depth terms ↔ ClosesFrom opening closing depth terms := by
  have distinct : opening ≠ closing := by decide
  induction terms generalizing depth with
  | nil => rw [closesFrom_nil, bracketsBalanceFrom, beq_iff_eq]
  | cons term terms ih =>
    by_cases isOpening : term = opening
    · subst isOpening
      rw [bracketsBalanceFrom_opening, closesFrom_opening distinct]
      exact ih (depth + 1)
    · by_cases isClosing : term = closing
      · subst isClosing
        rw [bracketsBalanceFrom_closing, closesFrom_closing distinct, Bool.and_eq_true, bne_iff_ne]
        exact and_congr_right fun _ => ih (depth - 1)
      · rw [bracketsBalanceFrom_other isOpening isClosing, closesFrom_other isOpening isClosing]
        exact ih depth

theorem bracketsBalance_iff_balanced (terms : List Text) :
    bracketsBalance terms ↔ Balanced opening closing terms :=
  (bracketsBalanceFrom_iff 0 terms).trans closesFrom_zero

/-- Terms with the same brackets balance alike. -/
theorem balanced_congr {left right : List Text}
    (same : left.filter isBracket = right.filter isBracket) :
    Balanced opening closing left ↔ Balanced opening closing right := by
  rw [← balanced_filter (p := isBracket) rfl rfl left, same, balanced_filter rfl rfl]

/-! ## Wildcards -/

/-- The terms that no wildcard comes right after. -/
def unmarked : List Text → List Text
  | [] => []
  | term :: rest => if rest.head? = some wildcard then unmarked rest else term :: unmarked rest

/-- No wildcard comes right after a bracket. -/
def BracketsUnmarked (terms : List Text) : Prop :=
  ∀ before bracket after, terms = before ++ bracket :: after → isBracket bracket →
    after.head? ≠ some wildcard

theorem isBracket_append_wildcard (term : Text) : isBracket (term ++ wildcard) = false := by
  cases term with
  | nil => rfl
  | cons c rest => cases rest <;> simp [isBracket, wildcard, opening, closing]

/-- The first term counts for its bracket only. -/
theorem filter_isBracket_unmarked_cons {left right : Text} (noneLeft : isBracket left = false)
    (noneRight : isBracket right = false) (rest : List Text) :
    (unmarked (left :: rest)).filter isBracket = (unmarked (right :: rest)).filter isBracket := by
  unfold unmarked
  split
  · rfl
  · rw [List.filter_cons_of_neg (by simp [noneLeft]), List.filter_cons_of_neg (by simp [noneRight])]

theorem filter_isBracket_attachWildcardsFrom (held : Text) (rest : List Text) :
    (attachWildcardsFrom held rest).filter isBracket =
      (unmarked (held :: rest)).filter isBracket := by
  induction rest generalizing held with
  | nil => rfl
  | cons term rest ih =>
    rw [attachWildcardsFrom]
    split
    case isTrue isWildcard =>
      subst isWildcard
      have dropped : unmarked (held :: wildcard :: rest) = unmarked (wildcard :: rest) := by
        rw [unmarked, List.head?_cons, if_pos rfl]
      rw [ih, dropped]
      exact filter_isBracket_unmarked_cons (isBracket_append_wildcard held) rfl rest
    case isFalse other =>
      have kept : unmarked (held :: term :: rest) = held :: unmarked (term :: rest) := by
        rw [unmarked, List.head?_cons, if_neg fun same => other (Option.some.inj same)]
      rw [kept, List.filter_cons, List.filter_cons, ih]

/-- Attaching wildcards takes away the brackets that one comes right after. -/
theorem filter_isBracket_attachWildcards (terms : List Text) :
    (attachWildcards terms).filter isBracket = (unmarked terms).filter isBracket := by
  cases terms with
  | nil => rfl
  | cons first rest => exact filter_isBracket_attachWildcardsFrom first rest

/-- Where no bracket has a wildcard, all brackets stay. -/
theorem BracketsUnmarked.filter_isBracket {terms : List Text} (plain : BracketsUnmarked terms) :
    (unmarked terms).filter isBracket = terms.filter isBracket := by
  induction terms with
  | nil => rfl
  | cons term rest ih =>
    have restPlain : BracketsUnmarked rest := fun before bracket after parts =>
      plain (term :: before) bracket after (by rw [parts]; rfl)
    rw [unmarked]
    split
    case isFalse => rw [List.filter_cons, List.filter_cons, ih restPlain]
    case isTrue starred =>
      have noBracket : ¬ isBracket term := fun bracket => plain [] term rest rfl bracket starred
      rw [List.filter_cons_of_neg noBracket, ih restPlain]

/-! ## Blanks and tokens -/

theorem isBracket_of_isBlank {term : Text} (blank : term.isBlank) : isBracket term = false := by
  refine Bool.eq_false_iff.mpr fun bracket => ?_
  rcases isBracket_eq_true bracket with rfl | rfl
  · exact absurd blank (by decide)
  · exact absurd blank (by decide)

theorem filter_isBracket_visible (terms : List Text) :
    (visible terms).filter isBracket = terms.filter isBracket := by
  rw [visible, List.filter_filter]
  refine List.filter_congr fun term _ => ?_
  cases blank : term.isBlank with
  | true => rw [isBracket_of_isBlank blank]; rfl
  | false => simp

/-- A token has the text of the term it was read from. -/
theorem text_ofTerm (term : Text) : (Token.ofTerm term).text = term := by
  unfold Token.ofTerm
  split_ifs with isAnd isOr isNot opens closes plus marker minus
  · exact isAnd.symm
  · exact isOr.symm
  · exact isNot.symm
  · exact opens.symm
  · exact closes.symm
  · exact plus.symm
  · exact marker.symm
  · exact minus.symm
  · rfl
  · rfl

/-- No operator is spelled as a bracket. -/
theorem isBracket_text_of_isOperator {token : Token} (spells : token.isOperator) :
    isBracket token.text = false := by
  cases token with
  | keyword operator | symbol operator => cases operator <;> decide
  | operand text | phrase text | opening | closing => cases spells

/-- The brackets among the texts of tokens are among those of the tokens that are no operators. -/
theorem filter_isBracket_map_text (tokens : List Token) :
    (tokens.map Token.text).filter isBracket =
      ((Prefixed.terms tokens).map Token.text).filter isBracket := by
  induction tokens with
  | nil => rfl
  | cons token rest ih =>
    cases spells : token.isOperator with
    | true =>
      rw [List.map_cons, List.filter_cons_of_neg (by simp [isBracket_text_of_isOperator spells]),
        Prefixed.terms_cons_operator spells, ih]
    | false =>
      rw [Prefixed.terms_cons_other spells, List.map_cons, List.map_cons, List.filter_cons,
        List.filter_cons, ih]

end Term

namespace Query

open Brackets Term

/-! ## The stages -/

/-- The compounds of a clean text. -/
def compoundsOf (clean : Text) : List Text :=
  mergeCompounds ((ofClean clean).map keepAllowed)

theorem filter_isBracket_compoundsOf (clean : Text) :
    (compoundsOf clean).filter isBracket = (ofClean clean).filter isBracket := by
  rw [compoundsOf, filter_isBracket_mergeCompounds, filter_isBracket_keepAllowed]

theorem record_lexicalPasses (clean : Text) :
    Pass.record id lexicalPasses (ofClean clean) =
      [⟨.allowed, (ofClean clean).map keepAllowed⟩, ⟨.compounds, compoundsOf clean⟩,
        ⟨.wildcards, attachWildcards (compoundsOf clean)⟩,
        ⟨.visible, visible (attachWildcards (compoundsOf clean))⟩] := by
  simp only [lexicalPasses, Pass.record, compoundsOf, id]

/-- The tokens of a clean text show as its visible terms. -/
theorem map_text_tokensOfClean (clean : Text) :
    (tokensOfClean clean).map Token.text = visible (attachWildcards (compoundsOf clean)) := by
  have texts : Token.text ∘ Token.ofTerm = id := funext text_ofTerm
  rw [tokensOfClean_eq, List.map_map, texts, List.map_id]
  rfl

/-- All stages of the conversion of an accepted query. -/
theorem stages_eq {query clean : Text} (isClean : CleanText.ofRaw query = clean)
    (even : countQuotes clean % 2 = 0) (balance : bracketsBalance (ofClean clean)) :
    (trace query).stages =
      [⟨.cleanText, [clean]⟩, ⟨.lexemes, Lexeme.ofText clean⟩, ⟨.phrases, ofClean clean⟩,
        ⟨.allowed, (ofClean clean).map keepAllowed⟩, ⟨.compounds, compoundsOf clean⟩,
        ⟨.wildcards, attachWildcards (compoundsOf clean)⟩,
        ⟨.visible, visible (attachWildcards (compoundsOf clean))⟩] ++
        Pass.record (List.map Token.text) structuralPasses (tokensOfClean clean) ++
        [⟨.fullText, [ofBalancedTerms (ofClean clean)]⟩] := by
  rw [stages_trace, snapshots_eq, isClean, if_neg (by omega), if_pos balance, record_lexicalPasses]
  simp only [List.cons_append, List.nil_append]

/-- From the wildcards on, every list has the brackets that no wildcard follows. -/
theorem filter_isBracket_of_mem_record {clean : Text} {snapshot : Snapshot}
    (member : snapshot ∈
      Pass.record (List.map Token.text) structuralPasses (tokensOfClean clean)) :
    snapshot.tokens.filter isBracket = (unmarked (compoundsOf clean)).filter isBracket := by
  obtain ⟨tokens, shown, same⟩ :=
    Pass.view_of_mem_record (fun _ isPass => Prefixed.terms_pass isPass) member
  calc snapshot.tokens.filter isBracket
    _ = ((Prefixed.terms tokens).map Token.text).filter isBracket := by
      rw [shown, filter_isBracket_map_text]
    _ = ((tokensOfClean clean).map Token.text).filter isBracket := by
      rw [same, ← filter_isBracket_map_text]
    _ = (unmarked (compoundsOf clean)).filter isBracket := by
      rw [map_text_tokensOfClean, filter_isBracket_visible, filter_isBracket_attachWildcards]

/-- The brackets of an accepted query through all stages between the check and the full-text query.
They balance in the merged phrases, in the kept characters and in the compounds. After that a list
has, in their order, the brackets of the compounds that no wildcard comes right after: it balances
exactly if these do, and so it does if no bracket has a wildcard. -/
theorem balanced_of_convert (query output : Text) (accepted : convert query = .ok output) :
    (trace query).stages.map Snapshot.stage = Stage.all ∧
    ∃ compounds : List Text, (trace query).snapshot? .compounds = some ⟨.compounds, compounds⟩ ∧
      ∀ snapshot ∈ (trace query).stages,
        (snapshot.stage ∈ [.phrases, .allowed, .compounds] →
          Balanced opening closing snapshot.tokens) ∧
        (snapshot.stage ∈ [.wildcards, .visible, .supported, .distributedOr, .distributedAnd,
            .spelledNot, .reduced, .prefixed] →
          snapshot.tokens.filter isBracket = (unmarked compounds).filter isBracket ∧
            (Balanced opening closing snapshot.tokens ↔
              Balanced opening closing (unmarked compounds)) ∧
            (BracketsUnmarked compounds → Balanced opening closing snapshot.tokens)) := by
  obtain ⟨even, balance, -⟩ := convert_eq_ok.mp accepted
  obtain ⟨clean, isClean⟩ : ∃ clean, CleanText.ofRaw query = clean := ⟨_, rfl⟩
  rw [isClean] at even balance
  have stages := stages_eq isClean even balance
  have checked : Balanced opening closing (ofClean clean) :=
    (bracketsBalance_iff_balanced _).mp balance
  -- Up to the compounds the brackets are those that were checked.
  have early {terms : List Text}
      (same : terms.filter isBracket = (ofClean clean).filter isBracket) :
      Balanced opening closing terms := (balanced_congr same).mpr checked
  -- Later they are those without a wildcard.
  have late {terms : List Text}
      (same : terms.filter isBracket = (unmarked (compoundsOf clean)).filter isBracket) :
      terms.filter isBracket = (unmarked (compoundsOf clean)).filter isBracket ∧
        (Balanced opening closing terms ↔
          Balanced opening closing (unmarked (compoundsOf clean))) ∧
        (BracketsUnmarked (compoundsOf clean) → Balanced opening closing terms) := by
    refine ⟨same, balanced_congr same, fun plain => early ?_⟩
    rw [same, plain.filter_isBracket, filter_isBracket_compoundsOf]
  refine ⟨by rw [stages]; rfl, compoundsOf clean, by rw [Trace.snapshot?, stages]; rfl, ?_⟩
  intro snapshot member
  rw [stages, List.mem_append, List.mem_append] at member
  rcases member with (lexical | recorded) | final
  · simp only [List.mem_cons, List.not_mem_nil, or_false] at lexical
    rcases lexical with rfl | rfl | rfl | rfl | rfl | rfl | rfl
    · exact ⟨by simp, by simp⟩
    · exact ⟨by simp, by simp⟩
    · exact ⟨fun _ => checked, by simp⟩
    · exact ⟨fun _ => early (filter_isBracket_keepAllowed clean), by simp⟩
    · exact ⟨fun _ => early (filter_isBracket_compoundsOf clean), by simp⟩
    · exact ⟨by simp, fun _ => late (filter_isBracket_attachWildcards _)⟩
    · refine ⟨by simp, fun _ => late ?_⟩
      rw [filter_isBracket_visible, filter_isBracket_attachWildcards]
  · have isLate := Pass.stage_of_mem_record recorded
    refine ⟨fun isEarly => ?_, fun _ => late (filter_isBracket_of_mem_record recorded)⟩
    simp only [structuralPasses, List.map_cons, List.map_nil, List.mem_cons, List.not_mem_nil,
      or_false] at isLate isEarly
    rcases isEarly with same | same | same <;> simp [same] at isLate
  · rw [List.mem_singleton.mp final]
    exact ⟨by simp, by simp⟩

/-- A wildcard after the inner group: its bracket is gone from there on, those in the phrase never
counted, and a wildcard on a compound changes nothing. -/
theorem balanced_of_convert_wildcard :
    let query := "(a (b)* or \"(\" c-d*)".toList
    convert query = .ok "+(+a +(+b )* \"(\" +\"c-d\"*)".toList ∧
      ∀ snapshot ∈ (trace query).stages,
        (snapshot.stage ∈ [.phrases, .allowed, .compounds] →
          Balanced opening closing snapshot.tokens) ∧
        (snapshot.stage ∈ [.wildcards, .visible, .supported, .distributedOr, .distributedAnd,
            .spelledNot, .reduced, .prefixed] →
          snapshot.tokens.filter isBracket = [opening, opening, closing]) := by
  intro query
  have accepted : convert query = .ok "+(+a +(+b )* \"(\" +\"c-d\"*)".toList := by decide
  obtain ⟨-, compounds, shown, kept⟩ := balanced_of_convert query _ accepted
  have known : (trace query).snapshot? .compounds =
      some ⟨.compounds, [['('], ['a'], [' '], ['('], ['b'], [')'], ['*'], [' '], ['o', 'r'], [' '],
        "\"(\"".toList, [' '], "\"c-d\"".toList, ['*'], [')']]⟩ := by decide
  obtain rfl := (Snapshot.mk.inj (Option.some.inj (shown.symm.trans known))).2
  refine ⟨accepted, fun snapshot member => ⟨(kept snapshot member).1, fun late => ?_⟩⟩
  rw [((kept snapshot member).2 late).1]
  rfl

/-- A wildcard after a bracket makes a word of it, and the bracket that closes its group is left
alone: the brackets of an accepted query need not balance from the wildcards on. -/
theorem wildcards_not_balanced :
    let query := "(*a)".toList
    convert query = .ok "+(* +a)".toList ∧
      (trace query).snapshot? .compounds = some ⟨.compounds, [['('], ['*'], ['a'], [')']]⟩ ∧
      Balanced opening closing [['('], ['*'], ['a'], [')']] ∧
      (trace query).snapshot? .wildcards = some ⟨.wildcards, [['(', '*'], ['a'], [')']]⟩ ∧
      ¬ Balanced opening closing [['(', '*'], ['a'], [')']] := by
  intro query
  exact ⟨by decide, by decide, by decide, by decide, by decide⟩

end Query

end FullTextQuery
