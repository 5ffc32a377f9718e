import FullTextQuery.Proofs.BracketsKept

/-!
# Replaying a trace

A trace keeps texts, but the passes on tokens hand each other tokens. Nothing is lost between them:
a token that was read from a term is read from its own text again (`Token.IsRead`), and so is every
symbol that a pass writes. The texts that one stage left therefore decide those of the next, and
the stages of a trace are what `Stage.replayFrom` makes of the query alone (`trace_eq_replay`).
-/

namespace FullTextQuery

namespace Token

/-- A token that is read from its own text again. -/
def IsRead (token : Token) : Prop :=
  ofTerm token.text = token

theorem isRead_ofTerm (term : Text) : IsRead (ofTerm term) :=
  congrArg ofTerm (Term.text_ofTerm term)

theorem isRead_of_isOperator {token : Token} (spells : token.isOperator) : IsRead token := by
  cases token with
  | keyword operator | symbol operator => cases operator <;> rfl
  | operand text | phrase text | opening | closing => cases spells

theorem map_ofTerm_of_isRead {tokens : List Token} (read : ∀ token ∈ tokens, IsRead token) :
    (tokens.map text).map ofTerm = tokens := by
  rw [List.map_map]
  exact (List.map_congr_left read).trans (List.map_id tokens)

end Token

namespace Prefixed

open Token

/-- A pass writes operators, and those are read from their texts. -/
theorem isRead_pass {pass : Pass (List Token)} (member : pass ∈ Query.structuralPasses)
    {tokens : List Token} (read : ∀ token ∈ tokens, IsRead token) :
    ∀ token ∈ pass.run tokens, IsRead token := by
  intro token written
  rcases isOperator_or_mem_of_terms_eq (terms_pass member tokens) written with spells | kept
  · exact isRead_of_isOperator spells
  · exact read token kept

end Prefixed

namespace Stage

/-! ## Stages by themselves -/

/-- What is done to tokens, done to the texts that they are read from. -/
def onTexts (step : List Token → List Token) (texts : List Text) : List Text :=
  (step (texts.map Token.ofTerm)).map Token.text

/-- What a stage makes of the texts that the stage before it left; the first one is given the
query. -/
def replay (stage : Stage) (texts : List Text) : List Text :=
  match stage with
  | .cleanText => texts.map CleanText.ofRaw
  | .lexemes => texts.flatMap Lexeme.ofText
  | .phrases => Term.mergePhrases texts
  | .allowed => texts.map Term.keepAllowed
  | .compounds => Term.mergeCompounds texts
  | .wildcards => Term.attachWildcards texts
  | .visible => Term.visible texts
  | .supported => onTexts Prefixed.dropDangling texts
  | .distributedOr => onTexts (Prefixed.distribute .or) texts
  | .distributedAnd => onTexts (Prefixed.distribute .and) texts
  | .spelledNot => onTexts Prefixed.spellNot texts
  | .reduced => onTexts Prefixed.reduce texts
  | .prefixed => onTexts Prefixed.supplyAnd texts
  | .fullText => [FullText.ofTokens (texts.map Token.ofTerm)]

/-- What stages leave that each start from nothing but the texts before them. -/
def replayFrom (texts : List Text) : List Stage → List Snapshot
  | [] => []
  | stage :: stages => ⟨stage, stage.replay texts⟩ :: replayFrom (stage.replay texts) stages

theorem length_replayFrom (texts : List Text) (stages : List Stage) :
    (replayFrom texts stages).length = stages.length := by
  induction stages generalizing texts with
  | nil => rfl
  | cons stage stages ih => rw [replayFrom, List.length_cons, ih, List.length_cons]

theorem onTexts_map_text {tokens : List Token} (read : ∀ token ∈ tokens, token.IsRead)
    (step : List Token → List Token) :
    onTexts step (tokens.map Token.text) = (step tokens).map Token.text := by
  rw [onTexts, Token.map_ofTerm_of_isRead read]

/-- A pass on tokens is its stage on their texts. -/
theorem replay_pass {pass : Pass (List Token)} (member : pass ∈ Query.structuralPasses)
    {tokens : List Token} (read : ∀ token ∈ tokens, token.IsRead) :
    pass.stage.replay (tokens.map Token.text) = (pass.run tokens).map Token.text := by
  simp only [Query.structuralPasses, List.mem_cons, List.not_mem_nil, or_false] at member
  rcases member with rfl | rfl | rfl | rfl | rfl | rfl
  all_goals exact onTexts_map_text read _

/-- Passes on tokens in a row are their stages in a row, and leave tokens that are read again for
the stages after them. The induction is on the passes; `rest` is what comes after all of them. -/
theorem replayFrom_passes {passes : List (Pass (List Token))}
    (members : ∀ pass ∈ passes, pass ∈ Query.structuralPasses) {tokens : List Token}
    (read : ∀ token ∈ tokens, token.IsRead) (rest : List Stage) :
    (∀ token ∈ Pass.runAll passes tokens, token.IsRead) ∧
      replayFrom (tokens.map Token.text) (passes.map Pass.stage ++ rest) =
        Pass.record (List.map Token.text) passes tokens ++
          replayFrom ((Pass.runAll passes tokens).map Token.text) rest := by
  induction passes generalizing tokens with
  | nil => exact ⟨read, rfl⟩
  | cons pass passes ih =>
    have isPass := members pass List.mem_cons_self
    obtain ⟨readAfter, replayed⟩ :=
      ih (fun next member => members next (List.mem_cons_of_mem _ member))
        (Prefixed.isRead_pass isPass read)
    refine ⟨readAfter, ?_⟩
    rw [List.map_cons, List.cons_append, replayFrom, replay_pass isPass read, replayed]
    rfl

end Stage

namespace Query

open Stage Term

/-! ## Traces -/

/-- All stages of an accepted query replay from the query. -/
theorem stages_eq_replayFrom {query : Text} (even : countQuotes (CleanText.ofRaw query) % 2 = 0)
    (balance : bracketsBalance (ofClean (CleanText.ofRaw query))) :
    (trace query).stages = replayFrom [query] Stage.all := by
  obtain ⟨clean, isClean⟩ : ∃ clean, CleanText.ofRaw query = clean := ⟨_, rfl⟩
  rw [isClean] at even balance
  have read : ∀ token ∈ tokensOfClean clean, token.IsRead := by
    intro token member
    rw [tokensOfClean_eq] at member
    obtain ⟨term, -, rfl⟩ := List.mem_map.mp member
    exact Token.isRead_ofTerm term
  obtain ⟨readAfter, passes⟩ :=
    replayFrom_passes (fun _ isPass => isPass) read [.fullText]
  have final : replayFrom
      ((Pass.runAll structuralPasses (tokensOfClean clean)).map Token.text) [.fullText] =
        [⟨.fullText, [ofBalancedTerms (ofClean clean)]⟩] := by
    rw [replayFrom, replay, Token.map_ofTerm_of_isRead readAfter]
    rfl
  have lexical : replayFrom [query] Stage.all =
      [⟨.cleanText, [clean]⟩, ⟨.lexemes, Lexeme.ofText clean⟩, ⟨.phrases, ofClean clean⟩,
        ⟨.allowed, (ofClean clean).map keepAllowed⟩, ⟨.compounds, compoundsOf clean⟩,
        ⟨.wildcards, attachWildcards (compoundsOf clean)⟩,
        ⟨.visible, visible (attachWildcards (compoundsOf clean))⟩] ++
        replayFrom (visible (attachWildcards (compoundsOf clean)))
          (structuralPasses.map Pass.stage ++ [.fullText]) := by
    have lexemes : [clean].flatMap Lexeme.ofText = Lexeme.ofText clean := List.flatMap_singleton ..
    simp only [Stage.all, replayFrom, replay, List.map_cons, List.map_nil, isClean, lexemes,
      structuralPasses, List.cons_append, List.nil_append]
    rfl
  rw [stages_eq isClean even balance, lexical, ← map_text_tokensOfClean, passes, final,
    List.append_assoc]

/-- With odd quotes the first stage is all that is left. -/
theorem stages_eq_of_odd {query : Text} (odd : countQuotes (CleanText.ofRaw query) % 2 = 1) :
    (trace query).stages = replayFrom [query] (Stage.all.take 1) := by
  rw [stages_trace, snapshots_eq, if_pos odd]
  rfl

/-- With brackets that do not balance the merged phrases are the last that is left. -/
theorem stages_eq_of_unbalanced {query : Text}
    (even : countQuotes (CleanText.ofRaw query) % 2 = 0)
    (unbalanced : bracketsBalance (ofClean (CleanText.ofRaw query)) = false) :
    (trace query).stages = replayFrom [query] (Stage.all.take 3) := by
  have lexemes : [CleanText.ofRaw query].flatMap Lexeme.ofText =
      Lexeme.ofText (CleanText.ofRaw query) := List.flatMap_singleton ..
  rw [stages_trace, snapshots_eq, if_neg (by omega), if_neg (Bool.eq_false_iff.mp unbalanced)]
  simp only [Stage.all, List.take, replayFrom, replay, List.map_cons, List.map_nil, lexemes]
  rfl

/-- A trace is a faithful record of a conversion. Its stages are the first ones of all, and each
shows what the stage makes of the texts shown before it and of nothing else. There is one stage
exactly if the quotes are odd, there are three exactly if the brackets do not balance, and there
are fourteen exactly if the query is accepted; then the single text of the last one is the
full-text query. -/
theorem trace_eq_replay (query : Text) :
    let trace := trace query
    trace.result = convert query ∧
      trace.stages = replayFrom [query] (Stage.all.take trace.stages.length) ∧
      (trace.stages.length = 1 ↔ ∃ count, convert query = .error (.oddQuotes count)) ∧
      (trace.stages.length = 3 ↔ convert query = .error .unbalancedBrackets) ∧
      (trace.stages.length = 14 ↔ ∃ output, convert query = .ok output) ∧
      ∀ output, convert query = .ok output →
        trace.stages.getLast? = some ⟨.fullText, [output]⟩ := by
  intro trace
  refine ⟨result_trace query, ?_⟩
  have taken {count : Nat} (within : count ≤ Stage.all.length)
      (shown : trace.stages = replayFrom [query] (Stage.all.take count)) :
      trace.stages.length = count := by
    rw [shown, length_replayFrom, List.length_take, Nat.min_eq_left within]
  rcases Nat.mod_two_eq_zero_or_one (countQuotes (CleanText.ofRaw query)) with even | odd
  · cases balance : bracketsBalance (ofClean (CleanText.ofRaw query)) with
    | true =>
      have accepted := convert_eq_ok.mpr ⟨even, balance, rfl⟩
      have shown : trace.stages = replayFrom [query] (Stage.all.take 14) :=
        stages_eq_replayFrom even balance
      rw [accepted, taken (by decide) shown]
      refine ⟨shown, by simp, by simp, by simp, fun output same => ?_⟩
      rw [Except.ok.inj same.symm, stages_eq rfl even balance]
      exact List.getLast?_concat
    | false =>
      have rejected : convert query = .error .unbalancedBrackets := by
        rw [convert_eq, if_neg (by omega), if_neg (Bool.eq_false_iff.mp balance)]
      have shown := stages_eq_of_unbalanced even balance
      rw [rejected, taken (by decide) shown]
      exact ⟨shown, by simp, by simp, by simp, by simp⟩
  · have rejected : convert query = .error (.oddQuotes (countQuotes (CleanText.ofRaw query))) := by
      rw [convert_eq, if_pos odd]
    have shown := stages_eq_of_odd odd
    rw [rejected, taken (by decide) shown]
    exact ⟨shown, by simp, by simp, by simp, by simp⟩

end Query

end FullTextQuery
