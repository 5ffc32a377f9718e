import FullTextQuery.Proofs.LoneBlanks
import FullTextQuery.Proofs.PhraseTerms
import FullTextQuery.Proofs.Reading
import Mathlib.Data.List.DropRight
import Mathlib.Logic.Function.Basic

/-!
# Changes within a phrase

A phrase is one token, whatever stands in it (`exists_tokensOfClean_quoted`). The passes look at
operators and brackets only, so with the text of a phrase changed they do the same
(`runAll_map_withText`). What is left of the change is how the spaces of the phrase settle
(`ofBalancedTerms_quoted_congr`). So a blank in a phrase, which is dropped unless it is a space, can
be one where a space is lost as they settle (`ofBalancedTerms_insert_lost`).
-/

namespace FullTextQuery

namespace Token

/-- A token with the text of its term changed. Operators and brackets have no term. -/
def withText (change : Text → Text) : Token → Token
  | .operand text => .operand (change text)
  | .phrase text => .phrase (change text)
  | token => token

variable (change : Text → Text) (token : Token)

@[simp]
theorem operator?_withText : (token.withText change).operator? = token.operator? := by
  cases token <;> rfl

@[simp]
theorem isOperator_withText : (token.withText change).isOperator = token.isOperator := by
  rw [isOperator, isOperator, operator?_withText]

@[simp]
theorem isConnective_withText : (token.withText change).isConnective = token.isConnective := by
  rw [isConnective, isConnective, operator?_withText]

@[simp]
theorem withText_eq_opening : token.withText change = .opening ↔ token = .opening := by
  cases token <;> simp [withText]

@[simp]
theorem withText_eq_closing : token.withText change = .closing ↔ token = .closing := by
  cases token <;> simp [withText]

@[simp]
theorem withText_eq_keyword {operator : Operator} :
    token.withText change = .keyword operator ↔ token = .keyword operator := by
  cases token <;> simp [withText]

end Token

namespace Prefixed

open Token

/-! ## Passes and the texts of terms -/

variable (change : Text → Text)

theorem lacksLeft_map (held : Option Token) :
    lacksLeft (held.map (withText change)) = lacksLeft held := by
  cases held <;> simp [lacksLeft]

theorem lacksRight_map (next : Option Token) :
    lacksRight (next.map (withText change)) = lacksRight next := by
  cases next <;> simp [lacksRight]

theorem dropDanglingFrom_map (held : Option Token) (tokens : List Token) :
    dropDanglingFrom (held.map (withText change)) (tokens.map (withText change)) =
      (dropDanglingFrom held tokens).map (withText change) := by
  have heldBack (held : Option Token) : (held.map (withText change)).toList =
      held.toList.map (withText change) := by cases held <;> rfl
  have connects (held : Option Token) :
      (held.map (withText change)).any isConnective = held.any isConnective := by
    cases held <;> simp
  induction tokens generalizing held with
  | nil => exact heldBack held
  | cons token rest ih =>
    have kept : dropDanglingFrom (some (token.withText change)) (rest.map (withText change)) =
        (dropDanglingFrom (some token) rest).map (withText change) := ih (some token)
    have dropped : dropDanglingFrom none (rest.map (withText change)) =
        (dropDanglingFrom none rest).map (withText change) := ih none
    rw [List.map_cons, dropDanglingFrom, dropDanglingFrom, operator?_withText, List.head?_map,
      lacksLeft_map, lacksRight_map, connects, heldBack, kept, dropped]
    cases token.operator? with
    | none => exact List.map_append.symm
    | some operator =>
      dsimp only
      split_ifs
      · rfl
      · exact List.map_append.symm
      · exact List.map_append.symm

theorem dropDangling_map (tokens : List Token) :
    dropDangling (tokens.map (withText change)) = (dropDangling tokens).map (withText change) :=
  dropDanglingFrom_map change none tokens

theorem splitItem_map (depth : Nat) (tokens : List Token) :
    splitItem depth (tokens.map (withText change)) =
      (splitItem depth tokens).map (List.map (withText change)) (List.map (withText change)) := by
  induction tokens generalizing depth with
  | nil => rfl
  | cons token rest ih =>
    cases token <;> simp only [List.map_cons, withText, splitItem, ih] <;> split_ifs <;> rfl

theorem handOut_map (operator : Operator) (written : List Token) (token : Token) :
    handOut operator (written.map (withText change)) (token.withText change) =
      (handOut operator written token).map (withText change) := by
  unfold handOut
  rw [splitItem_map]
  simp only [withText_eq_keyword]
  split
  case isTrue => simp [withText]
  case isFalse => rfl

/-- Connectives are handed out to items, whatever their texts. -/
theorem distribute_map (operator : Operator) (tokens : List Token) :
    distribute operator (tokens.map (withText change)) =
      (distribute operator tokens).map (withText change) := by
  have walk (written : List Token) :
      (tokens.map (withText change)).foldl (handOut operator) (written.map (withText change)) =
        (tokens.foldl (handOut operator) written).map (withText change) := by
    rw [List.foldl_map]
    exact List.foldl_hom (List.map (withText change)) fun written token =>
      handOut_map change operator written token
  rw [distribute, distribute, List.map_reverse]
  exact congrArg List.reverse (walk [])

theorem spellNot_map (tokens : List Token) :
    spellNot (tokens.map (withText change)) = (spellNot tokens).map (withText change) := by
  rw [spellNot, spellNot, List.map_map, List.map_map]
  refine List.map_congr_left fun token _ => ?_
  rw [Function.comp_apply, Function.comp_apply, isNot, isNot, operator?_withText]
  split_ifs <;> rfl

theorem reduce_map (tokens : List Token) :
    reduce (tokens.map (withText change)) = (reduce tokens).map (withText change) := by
  induction tokens with
  | nil => rfl
  | cons token rest ih =>
    rw [List.map_cons, reduce, reduce, operator?_withText, ih]
    cases token.operator? with
    | none => rfl
    | some operator =>
      rcases reduce rest with _ | ⟨next, collapsed⟩
      · rfl
      · cases next <;> rfl

theorem supplyAndFrom_map (afterOperator : Bool) (tokens : List Token) :
    supplyAndFrom afterOperator (tokens.map (withText change)) =
      (supplyAndFrom afterOperator tokens).map (withText change) := by
  induction tokens generalizing afterOperator with
  | nil => rfl
  | cons token rest ih =>
    rw [List.map_cons, supplyAndFrom, supplyAndFrom, isOperator_withText, ih, ih]
    simp only [withText_eq_closing]
    split <;> rfl

end Prefixed

namespace FullText

open Text Token

/-! ## Settling and the texts of terms -/

theorem joinTokens_cons (token next : Token) (rest : List Token) :
    joinTokens (token :: next :: rest) = token.text ++ ' ' :: joinTokens (next :: rest) :=
  List.append_assoc token.text [' '] _

/-- Joined tokens settle alike if the changed texts settle as the texts do, whatever stands around
them. -/
theorem settleSpaces_map_withText {change : Text → Text}
    (alike : ∀ text front back : Text,
      settleSpaces (front ++ (change text ++ back)) = settleSpaces (front ++ (text ++ back)))
    (front : Text) (tokens : List Token) :
    settleSpaces (front ++ joinTokens (tokens.map (withText change))) =
      settleSpaces (front ++ joinTokens tokens) := by
  have one (token : Token) (front back : Text) :
      settleSpaces (front ++ ((token.withText change).text ++ back)) =
        settleSpaces (front ++ (token.text ++ back)) := by
    cases token with
    | operand text | phrase text => exact alike text front back
    | keyword | symbol | opening | closing => rfl
  induction tokens generalizing front with
  | nil => rfl
  | cons token rest ih =>
    cases rest with
    | nil => simpa [joinTokens, join] using one token front []
    | cons next rest =>
      have walk := ih (front ++ (token.text ++ [' ']))
      rw [List.map_cons] at walk
      rw [List.map_cons, List.map_cons, joinTokens_cons, joinTokens_cons, one]
      simpa using walk

end FullText

namespace Term

/-- Wildcards go to the end of the term before them, whatever that is. -/
theorem exists_attachWildcardsFrom (rest : List Text) :
    ∃ wildcards more, ∀ held, attachWildcardsFrom held rest = (held ++ wildcards) :: more := by
  induction rest with
  | nil => exact ⟨[], [], fun held => by rw [attachWildcardsFrom, List.append_nil]⟩
  | cons term rest ih =>
    by_cases isWildcard : term = wildcard
    · obtain ⟨wildcards, more, known⟩ := ih
      refine ⟨wildcard ++ wildcards, more, fun held => ?_⟩
      rw [attachWildcardsFrom, if_pos isWildcard, known, List.append_assoc]
    · refine ⟨[], attachWildcardsFrom term rest, fun held => ?_⟩
      rw [attachWildcardsFrom, if_neg isWildcard, List.append_nil]

end Term

namespace Query

open FullText Prefixed Term Text Token

/-- The passes put out the terms that they are given, whatever their texts. -/
theorem runAll_map_withText (change : Text → Text) (tokens : List Token) :
    Pass.runAll structuralPasses (tokens.map (withText change)) =
      (Pass.runAll structuralPasses tokens).map (withText change) := by
  simp only [Pass.runAll, structuralPasses, List.foldl_cons, List.foldl_nil, dropDangling_map,
    distribute_map, spellNot_map, reduce_map, supplyAnd, supplyAndFrom_map]

/-! ## Phrases as tokens -/

/-- The text of a phrase with its allowed characters, and with the wildcards after it. -/
def phraseText (segment wildcards : Text) : Text :=
  '\"' :: (keepAllowed segment ++ '\"' :: wildcards)

theorem settleSpaces_phraseText (segment wildcards front back : Text) :
    settleSpaces (front ++ (phraseText segment wildcards ++ back)) =
      settleSpaces front ++ '\"' :: (settleSpaces (keepAllowed segment) ++
        '\"' :: settleSpaces (wildcards ++ back)) := by
  simp only [phraseText, List.cons_append, List.append_assoc]
  rw [settleSpaces_cut (by decide), settleSpaces_cut (by decide)]

/-- What stands in a phrase makes no difference to the other tokens. -/
theorem exists_tokensOfClean_quoted {lead : Text} (closed : lead.count '\"' % 2 = 0) (rest : Text) :
    ∃ front wildcards back, ∀ segment, '\"' ∉ segment →
      tokensOfClean (lead ++ '\"' :: (segment ++ '\"' :: rest)) =
        front ++ .phrase (phraseText segment wildcards) :: back := by
  obtain ⟨wildcards, more, attached⟩ :=
    exists_attachWildcardsFrom (mergeCompounds ((ofClean rest).map keepAllowed))
  refine ⟨(visible (attachWildcards (mergeCompounds ((ofClean lead).map keepAllowed)))).map ofTerm,
    wildcards, (visible more).map ofTerm, fun segment free => ?_⟩
  have kept : keepAllowed (quote ++ segment ++ quote) =
      '\"' :: (keepAllowed segment ++ ['\"']) := by
    have quoteKept : isAllowed '\"' := by decide
    simp [keepAllowed, quote, quoteKept]
  have longer : '\"' :: (keepAllowed segment ++ ['\"']) ++ wildcards =
      phraseText segment wildcards := by simp [phraseText]
  have shown : Text.isBlank (phraseText segment wildcards) = false := rfl
  have read : ofTerm (phraseText segment wildcards) = .phrase (phraseText segment wildcards) :=
    ofTerm_phrase _
  rw [tokensOfClean_eq, ofClean_quoted closed free, List.map_append, List.map_cons, kept,
    mergeCompounds_append_separator (severs_of_isPhrase rfl),
    attachWildcards_append (by simp [wildcard]), attachWildcards, attached, longer, visible,
    List.filter_append, List.filter_cons_of_pos (by simp [shown]), List.map_append, List.map_cons,
    read, visible, visible]

theorem ofTokens_map_withText {change : Text → Text}
    (alike : ∀ text front back : Text,
      settleSpaces (front ++ (change text ++ back)) = settleSpaces (front ++ (text ++ back)))
    (tokens : List Token) :
    ofTokens (Pass.runAll structuralPasses (tokens.map (withText change))) =
      ofTokens (Pass.runAll structuralPasses tokens) := by
  have settled := settleSpaces_map_withText alike [] (Pass.runAll structuralPasses tokens)
  rw [List.nil_append, List.nil_append] at settled
  rw [runAll_map_withText, ofTokens, ofTokens, settle_eq, settle_eq, settled]

/-- Phrases that settle alike make no difference to the full-text query. -/
theorem ofBalancedTerms_quoted_congr {lead : Text} (closed : lead.count '\"' % 2 = 0) (rest : Text)
    {segment segment' : Text} (free : '\"' ∉ segment) (free' : '\"' ∉ segment')
    (alike : settleSpaces (keepAllowed segment) = settleSpaces (keepAllowed segment')) :
    ofBalancedTerms (ofClean (lead ++ '\"' :: (segment ++ '\"' :: rest))) =
      ofBalancedTerms (ofClean (lead ++ '\"' :: (segment' ++ '\"' :: rest))) := by
  obtain ⟨front, wildcards, back, tokens⟩ := exists_tokensOfClean_quoted closed rest
  -- The one phrase becomes the other wherever it stands, so both lists of tokens become the same.
  let change := Function.update id (phraseText segment wildcards) (phraseText segment' wildcards)
  have changed : change (phraseText segment wildcards) = phraseText segment' wildcards :=
    Function.update_self ..
  have kept (text : Text) (other : text ≠ phraseText segment wildcards) : change text = text :=
    Function.update_of_ne other ..
  have unchanged (text front back : Text) :
      settleSpaces (front ++ (change text ++ back)) = settleSpaces (front ++ (text ++ back)) := by
    by_cases isOne : text = phraseText segment wildcards
    · rw [isOne, changed, settleSpaces_phraseText, settleSpaces_phraseText, alike]
    · rw [kept text isOne]
  have same : (tokensOfClean (lead ++ '\"' :: (segment ++ '\"' :: rest))).map (withText change) =
      (tokensOfClean (lead ++ '\"' :: (segment' ++ '\"' :: rest))).map (withText change) := by
    have fixed : change (phraseText segment' wildcards) = phraseText segment' wildcards := by
      by_cases equal : phraseText segment' wildcards = phraseText segment wildcards
      · rw [equal, changed, equal]
      · exact kept _ equal
    rw [tokens segment free, tokens segment' free', List.map_append, List.map_append, List.map_cons,
      List.map_cons, withText, withText, changed, fixed]
  have whole (clean : Text) : ofBalancedTerms (ofClean clean) =
      ofTokens (Pass.runAll structuralPasses (tokensOfClean clean)) := rfl
  rw [whole, whole, ← ofTokens_map_withText unchanged, same, ofTokens_map_withText unchanged]

/-! ## Lost spaces -/

/-- The first quote of a text comes after those of its characters that are none. -/
theorem exists_first_quote {text : Text} (member : '\"' ∈ text) :
    ∃ front rest, text.takeWhile (· ≠ '\"') = front ∧ '\"' ∉ front ∧
      text = front ++ '\"' :: rest := by
  obtain ⟨front, rest, rfl, free⟩ := List.eq_append_cons_of_mem member
  have passed : ∀ c ∈ front, decide (c ≠ '\"') = true := fun c inside =>
    decide_eq_true fun isQuote => free (isQuote ▸ inside)
  refine ⟨front, rest, ?_, free, rfl⟩
  rw [List.takeWhile_append_of_pos passed, List.takeWhile_cons_of_neg (by simp), List.append_nil]

/-- The last one comes before the last of them. -/
theorem exists_last_quote {text : Text} (member : '\"' ∈ text) :
    ∃ lead back, text.rtakeWhile (· ≠ '\"') = back ∧ '\"' ∉ back ∧
      text = lead ++ '\"' :: back := by
  obtain ⟨back, lead, taken, free, shape⟩ := exists_first_quote (List.mem_reverse.mpr member)
  refine ⟨lead.reverse, back.reverse, congrArg List.reverse taken, by simpa using free, ?_⟩
  simpa using congrArg List.reverse shape

/-- Whether a space between the texts before and after it is lost in the phrase that it stands in:
with the space or without it, what is between the quotes settles alike. -/
def SpaceLost (front back : Text) : Prop :=
  let start := front.rtakeWhile (· ≠ '\"')
  let rest := back.takeWhile (· ≠ '\"')
  FullText.settleSpaces (keepAllowed (start ++ rest)) =
    FullText.settleSpaces (keepAllowed (start ++ ' ' :: rest))

instance (front back : Text) : Decidable (SpaceLost front back) :=
  inferInstanceAs (Decidable (_ = _))

/-- A blank in the phrase makes no difference then. -/
theorem ofBalancedTerms_insert_lost {c : Char} (blank : Character.isBlank c) {front back : Text}
    (opens : front.count '\"' % 2 = 1) (closes : back.count '\"' % 2 = 1)
    (lost : SpaceLost front back) :
    ofBalancedTerms (ofClean (front ++ c :: back)) =
      ofBalancedTerms (ofClean (front ++ ' ' :: back)) := by
  by_cases isSpace : c = ' '
  · rw [isSpace]
  obtain ⟨lead, start, isStart, freeStart, rfl⟩ :=
    exists_last_quote (List.count_pos_iff.mp (by omega : 0 < front.count '\"'))
  obtain ⟨rest, later, isRest, freeRest, rfl⟩ :=
    exists_first_quote (List.count_pos_iff.mp (by omega : 0 < back.count '\"'))
  rw [SpaceLost, isStart, isRest] at lost
  rw [List.count_append, List.count_cons_self, List.count_eq_zero.mpr freeStart] at opens
  have shape (d : Char) : (lead ++ '\"' :: start) ++ d :: (rest ++ '\"' :: later) =
      lead ++ '\"' :: ((start ++ d :: rest) ++ '\"' :: later) := by simp
  have free {d : Char} (isBlank : Character.isBlank d) : '\"' ∉ start ++ d :: rest := by
    have noQuote := (ne_quote_of_isBlank isBlank).symm
    simp [freeStart, freeRest, noQuote]
  rw [shape, shape]
  refine ofBalancedTerms_quoted_congr (by omega) later (free blank) (free (by decide)) ?_
  rw [keepAllowed_insert_blank blank isSpace, lost]

end Query

end FullTextQuery
