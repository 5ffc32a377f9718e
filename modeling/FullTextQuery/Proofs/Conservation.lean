import FullTextQuery.Proofs.Layout
import FullTextQuery.Proofs.Marks
import FullTextQuery.Proofs.OperatorItems
import FullTextQuery.Proofs.PrefixRule

/-!
# What the passes keep

The passes on tokens drop, move and write operators. They touch nothing else: the words, phrases
and brackets come out as they went in, each once and in their order, whether or not the brackets
balance (`terms_passes`). Settling the joined tokens moves and drops spaces and the mark of OR, so
what is left of a full-text query without blanks and this mark are the tokens without them
(`filter_isInk_ofTokens`).
-/

namespace FullTextQuery

/-! ## Runs of passes -/

namespace Pass

variable {α β : Type} {passes : List (Pass α)} {view : α → β}

/-- What every pass keeps, passes in a row keep. -/
theorem view_runAll (keeps : ∀ pass ∈ passes, ∀ value, view (pass.run value) = view value)
    (start : α) : view (runAll passes start) = view start := by
  induction passes generalizing start with
  | nil => rfl
  | cons pass passes ih =>
    have rest := ih fun next member => keeps next (List.mem_cons_of_mem _ member)
    calc view (runAll (pass :: passes) start)
      _ = view (runAll passes (pass.run start)) := rfl
      _ = view (pass.run start) := rest _
      _ = view start := keeps pass List.mem_cons_self start

/-- Every list on record shows a value with what the passes keep. -/
theorem view_of_mem_record (keeps : ∀ pass ∈ passes, ∀ value, view (pass.run value) = view value)
    {texts : α → List Text} {start : α} {snapshot : Snapshot}
    (member : snapshot ∈ record texts passes start) :
    ∃ value, snapshot.tokens = texts value ∧ view value = view start := by
  induction passes generalizing start with
  | nil => cases member
  | cons pass passes ih =>
    have here := keeps pass List.mem_cons_self start
    rcases List.mem_cons.mp member with rfl | later
    · exact ⟨pass.run start, rfl, here⟩
    · obtain ⟨value, shown, same⟩ :=
        ih (fun next isNext => keeps next (List.mem_cons_of_mem _ isNext)) later
      exact ⟨value, shown, same.trans here⟩

end Pass

namespace Prefixed

open Token

/-! ## Words, phrases and brackets -/

/-- The tokens that are no operators. -/
def terms (tokens : List Token) : List Token :=
  tokens.filter fun token => !token.isOperator

@[simp]
theorem terms_nil : terms [] = [] := rfl

theorem terms_append (front back : List Token) :
    terms (front ++ back) = terms front ++ terms back :=
  List.filter_append ..

theorem terms_reverse (tokens : List Token) : terms tokens.reverse = (terms tokens).reverse :=
  List.filter_reverse ..

theorem terms_cons_operator {token : Token} (spells : token.isOperator) (rest : List Token) :
    terms (token :: rest) = terms rest :=
  List.filter_cons_of_neg (by simp [spells])

theorem terms_cons_other {token : Token} (other : token.isOperator = false) (rest : List Token) :
    terms (token :: rest) = token :: terms rest :=
  List.filter_cons_of_pos (by simp [other])

/-- A token in front adds itself or nothing. -/
theorem terms_cons_congr {left right : List Token} (same : terms left = terms right)
    (token : Token) : terms (token :: left) = terms (token :: right) := by
  unfold terms at same ⊢
  rw [List.filter_cons, List.filter_cons, same]

/-- Only operators are ever dropped. What is held in front is one of the tokens that may go. -/
theorem terms_dropDanglingFrom (held : Option Token) (tokens : List Token) :
    terms (dropDanglingFrom held tokens) = terms (held.toList ++ tokens) := by
  induction tokens generalizing held with
  | nil => rw [dropDanglingFrom, List.append_nil]
  | cons token rest ih =>
    rcases dropDanglingFrom_cases held token rest.head? with stays | ⟨operates, left, side, goes⟩
    · rw [stays rest rfl, terms_append, ih, ← terms_append]
      rfl
    · have same : terms left.toList = terms held.toList := by
        rcases side with rfl | ⟨rfl, connective⟩
        · rfl
        -- The connective that is held goes along, and it is no term either.
        · cases held with
          | none => cases connective
          | some held =>
            have heldOperator : held.isOperator := by
              rw [Token.isOperator_eq, Bool.or_eq_true]
              exact .inl connective
            exact (terms_cons_operator heldOperator []).symm
      rw [goes rest rfl, terms_append, dropDangling, ih, same, terms_append _ (token :: rest),
        terms_cons_operator operates]
      rfl

theorem terms_dropDangling (tokens : List Token) : terms (dropDangling tokens) = terms tokens :=
  terms_dropDanglingFrom none tokens

/-- The item before a keyword is written back as it was read, with symbols around it. -/
theorem terms_handOut (operator : Operator) (written : List Token) (token : Token) :
    terms (handOut operator written token) = terms (token :: written) := by
  by_cases isKeyword : token = .keyword operator
  · subst isKeyword
    have parts := splitItem_append 0 written
    rw [handOut_keyword, markLast, terms_cons_operator rfl, terms_cons_operator rfl, terms_append,
      terms_cons_operator rfl, ← terms_append, parts]
  · rw [handOut_other isKeyword]

theorem terms_foldl_handOut (operator : Operator) (tokens written : List Token) :
    terms (tokens.foldl (handOut operator) written) = terms (tokens.reverse ++ written) := by
  induction tokens generalizing written with
  | nil => rfl
  | cons token rest ih =>
    rw [List.foldl_cons, ih, List.reverse_cons, List.append_assoc, terms_append, terms_handOut,
      ← terms_append]
    rfl

theorem terms_distribute (operator : Operator) (tokens : List Token) :
    terms (distribute operator tokens) = terms tokens := by
  rw [distribute, terms_reverse, terms_foldl_handOut, List.append_nil, terms_reverse,
    List.reverse_reverse]

theorem terms_spellNot (tokens : List Token) : terms (spellNot tokens) = terms tokens := by
  induction tokens with
  | nil => rfl
  | cons token rest ih =>
    have parts : spellNot (token :: rest) =
        (if token.isNot then .symbol .not else token) :: spellNot rest := rfl
    rw [parts]
    split
    case isFalse => exact terms_cons_congr ih token
    case isTrue spellsNot =>
      have isOperator : token.isOperator := by rw [Token.isOperator_eq, spellsNot, Bool.or_true]
      rw [terms_cons_operator rfl, terms_cons_operator isOperator, ih]

theorem terms_reduce (tokens : List Token) : terms (reduce tokens) = terms tokens := by
  induction tokens with
  | nil => rfl
  | cons token rest ih =>
    cases spells : token.operator? with
    | none =>
      rw [reduce_of_not_isOperator spells]
      exact terms_cons_congr ih token
    | some operator =>
      rw [terms_cons_operator (isOperator_of_operator? spells), ← ih]
      rcases reduce_operator spells rest with ⟨next, more, reduced, shape⟩ | ⟨-, shape⟩
      · rw [shape, reduced, terms_cons_operator rfl, terms_cons_operator rfl]
      · rw [shape, terms_cons_operator rfl]

theorem terms_supplyAndFrom (afterOperator : Bool) (tokens : List Token) :
    terms (supplyAndFrom afterOperator tokens) = terms tokens := by
  induction tokens generalizing afterOperator with
  | nil => rfl
  | cons token rest ih =>
    rw [supplyAndFrom]
    split
    case isTrue => exact terms_cons_congr (ih _) token
    case isFalse =>
      rw [terms_cons_operator rfl]
      exact terms_cons_congr (ih _) token

theorem terms_pass {pass : Pass (List Token)} (member : pass ∈ Query.structuralPasses)
    (tokens : List Token) : terms (pass.run tokens) = terms tokens := by
  simp only [Query.structuralPasses, List.mem_cons, List.not_mem_nil, or_false] at member
  rcases member with rfl | rfl | rfl | rfl | rfl | rfl
  · exact terms_dropDangling tokens
  · exact terms_distribute .or tokens
  · exact terms_distribute .and tokens
  · exact terms_spellNot tokens
  · exact terms_reduce tokens
  · exact terms_supplyAndFrom false tokens

/-- The passes on tokens keep the words, phrases and brackets of any tokens. -/
theorem terms_passes (tokens : List Token) :
    terms (Pass.runAll Query.structuralPasses tokens) = terms tokens :=
  Pass.view_runAll (fun _ member => terms_pass member) tokens

/-- Where the same words, phrases and brackets are left, only operators are new. -/
theorem isOperator_or_mem_of_terms_eq {left right : List Token} (same : terms left = terms right)
    {token : Token} (member : token ∈ left) : token.isOperator ∨ token ∈ right := by
  cases spells : token.isOperator with
  | true => exact .inl rfl
  | false =>
    have isTerm : token ∈ terms left := List.mem_filter.mpr ⟨member, by simp [spells]⟩
    rw [same] at isTerm
    exact .inr (List.mem_filter.mp isTerm).1

/-- The passes write operators only. -/
theorem isOperator_or_mem_of_mem_passes {tokens : List Token} {token : Token}
    (member : token ∈ Pass.runAll Query.structuralPasses tokens) :
    token.isOperator ∨ token ∈ tokens :=
  isOperator_or_mem_of_terms_eq (terms_passes tokens) member

end Prefixed

/-! ## Ink -/

namespace FullText

open Text

/-- A character that settling keeps: no blank and not the mark of OR. -/
def isInk (c : Char) : Bool :=
  !Character.isBlank c && c != Operator.or.symbol

theorem isInk_of_blank (c : Char) (blank : Character.isBlank c) : isInk c = false := by
  rw [isInk, blank]
  rfl

section Spaces

variable {p : Char → Bool} (space : p ' ' = false)

include space

theorem filter_attach (mark : Char) (text : Text) :
    (attach mark text).filter p = text.filter p := by
  fun_induction attach mark text with
  | case1 a b rest moved ih =>
    obtain ⟨rfl, rfl⟩ := moved
    simp [space, List.filter_cons, ih]
  | case2 a b rest _ ih => rw [List.filter_cons, ih, ← List.filter_cons]
  | case3 => rfl

theorem filter_tightenClosing (text : Text) : (tightenClosing text).filter p = text.filter p := by
  fun_induction tightenClosing text with
  | case1 => rfl
  | case2 c rest dropped ih => rw [ih, dropped.1, List.filter_cons_of_neg (by simp [space])]
  | case3 c rest _ ih => rw [List.filter_cons, ih, ← List.filter_cons]

theorem filter_tightenOpening (text : Text) : (tightenOpening text).filter p = text.filter p := by
  fun_induction tightenOpening text with
  | case1 a b rest dropped ih =>
    obtain ⟨rfl, rfl⟩ := dropped
    simp [space, List.filter_cons, ih]
  | case2 a b rest _ ih => rw [List.filter_cons, ih, ← List.filter_cons]
  | case3 => rfl

theorem filter_join (texts : List Text) :
    (join [' '] texts).filter p = texts.flatten.filter p := by
  fun_induction join [' '] texts with
  | case1 => rfl
  | case2 text => simp
  | case3 text texts _ ih => simp [space, ih]

end Spaces

/-- Settling the spaces of any text keeps its ink. -/
theorem filter_isInk_settle (joined : Text) :
    (settle joined).filter isInk = joined.filter isInk := by
  have space : isInk ' ' = false := by decide
  have marks (text : Text) : (text.filter (· != Operator.or.symbol)).filter isInk =
      text.filter isInk := by
    rw [List.filter_filter]
    refine List.filter_congr fun c _ => ?_
    rw [isInk, Bool.and_assoc, Bool.and_self]
  rw [settle, filter_trim isInk_of_blank, marks, filter_tightenOpening space,
    filter_tightenClosing space, filter_squeezeBlanks isInk_of_blank, filter_attach space,
    filter_attach space, filter_attach space]

/-- The ink of a full-text query is that of its tokens. -/
theorem filter_isInk_ofTokens (tokens : List Token) :
    (ofTokens tokens).filter isInk = (tokens.flatMap Token.text).filter isInk := by
  rw [ofTokens, filter_isInk_settle, joinTokens, filter_join (by decide), List.flatMap]

end FullText

namespace Query

open Prefixed FullText Term

/-! ## Conversions -/

/-- What the trace of an accepted query shows of the last pass on terms. -/
theorem snapshot?_visible {query : Text} (even : countQuotes (CleanText.ofRaw query) % 2 = 0)
    (balance : bracketsBalance (ofClean (CleanText.ofRaw query))) :
    (trace query).snapshot? .visible =
      some ⟨.visible, Pass.runAll lexicalPasses (ofClean (CleanText.ofRaw query))⟩ := by
  rw [Trace.snapshot?, stages_trace, snapshots_eq, if_neg (by omega), if_pos balance]
  rfl

/-- No word, phrase or bracket is lost, doubled, moved or changed on the way from the visible terms
to the full-text query. The passes on tokens keep those of any tokens, balanced or not, and the
text of an accepted query has the ink of its prefixed tokens. -/
theorem terms_kept :
    (∀ tokens : List Token, terms (Pass.runAll structuralPasses tokens) = terms tokens) ∧
    ∀ query output : Text, convert query = .ok output →
      ∃ visible : List Text, (trace query).snapshot? .visible = some ⟨.visible, visible⟩ ∧
        let prefixed := Pass.runAll structuralPasses (visible.map Token.ofTerm)
        (trace query).snapshot? .prefixed = some ⟨.prefixed, prefixed.map Token.text⟩ ∧
          terms prefixed = terms (visible.map Token.ofTerm) ∧
          output.filter isInk = (prefixed.flatMap Token.text).filter isInk := by
  refine ⟨terms_passes, fun query output accepted => ?_⟩
  obtain ⟨even, balance, converted⟩ := convert_eq_ok.mp accepted
  refine ⟨_, snapshot?_visible even balance, snapshot?_prefixed even balance, terms_passes _, ?_⟩
  rw [← converted]
  exact filter_isInk_ofTokens _

/-- An OR after a group, a run of NOTs before one, a wildcard on a compound, and an AND that
goes. -/
theorem terms_kept_group :
    let query := "x (a or \"b - c\") or not not (x-y*) and".toList
    let output := "+x (a \"b c\") -(+\"x-y\"*)".toList
    convert query = .ok output ∧
      ∃ visible : List Text, (trace query).snapshot? .visible = some ⟨.visible, visible⟩ ∧
        let prefixed := Pass.runAll structuralPasses (visible.map Token.ofTerm)
        (trace query).snapshot? .prefixed = some ⟨.prefixed, prefixed.map Token.text⟩ ∧
          terms prefixed = terms (visible.map Token.ofTerm) ∧
          output.filter isInk = (prefixed.flatMap Token.text).filter isInk := by
  intro query output
  have accepted : convert query = .ok output := by decide
  exact ⟨accepted, terms_kept.2 query output accepted⟩

end Query

end FullTextQuery
