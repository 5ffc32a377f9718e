import FullTextQuery.Proofs.Marks
import FullTextQuery.Proofs.Terms

/-!
# Which queries are accepted

A query is rejected for its quotes or its brackets, and both can be read off the query as it was
typed. `Scan` reads it once: a quote of any shape enters or leaves a phrase, and outside phrases a
bracket of any shape opens or closes a group. `acceptance` says that the conversion, which checks
the terms of the clean text, decides the same.

The two meet in `balancedFrom`, the check of brackets on plain text. It depends on the quotes and
brackets only, so cleaning does not change it, and on the merged lexemes it is the check of terms.
-/

namespace FullTextQuery.Query

open Term

/-! ## The scan of a query -/

/-- What a scan of a query knows. -/
structure Scan where
  /-- A phrase is open. -/
  inPhrase : Bool
  /-- The groups opened outside phrases, less those closed there. -/
  depth : Int
deriving DecidableEq, Repr

/-- A quote of any shape. -/
def isQuoteMark (c : Char) : Bool :=
  c = '\"' || c = '\u201c' || c = '\u201d'

namespace Scan

/-- Takes one more character of a query. -/
def step (scan : Scan) (c : Char) : Scan :=
  if isQuoteMark c then { scan with inPhrase := !scan.inPhrase }
  else if scan.inPhrase then scan
  else if c = '(' ∨ c = '[' ∨ c = '\x7b' then { scan with depth := scan.depth + 1 }
  else if c = ')' ∨ c = ']' ∨ c = '\x7d' then { scan with depth := scan.depth - 1 }
  else scan

/-- What is known after a text. -/
def after (scan : Scan) (text : Text) : Scan :=
  text.foldl step scan

end Scan

/-- The scan of a text from its start. -/
def scan (text : Text) : Scan :=
  Scan.after ⟨false, 0⟩ text

/-- The number of quotes of any shape. -/
def quoteMarks (query : Text) : Nat :=
  query.countP isQuoteMark

/-- Somewhere more groups are closed than opened, or in the end not all are closed. -/
def Unbalanced (query : Text) : Prop :=
  (∃ front, front <+: query ∧ (scan front).depth < 0) ∨ (scan query).depth ≠ 0

/-! ## Brackets of plain text -/

/-- Whether the brackets of plain text outside phrases balance, when `depth` groups are open. -/
def balancedFrom (inPhrase : Bool) (depth : Nat) : Text → Bool
  | [] => depth == 0
  | c :: rest =>
    if c = '\"' then balancedFrom (!inPhrase) depth rest
    else if inPhrase then balancedFrom true depth rest
    else if c = '(' then balancedFrom false (depth + 1) rest
    else if c = ')' then depth != 0 && balancedFrom false (depth - 1) rest
    else balancedFrom false depth rest

theorem balancedFrom_quote (inPhrase : Bool) (depth : Nat) (rest : Text) :
    balancedFrom inPhrase depth ('\"' :: rest) = balancedFrom (!inPhrase) depth rest := rfl

/-- In a phrase only a quote counts, and outside it only a quote or a bracket. -/
theorem balancedFrom_skip {skipped : Text} {inPhrase : Bool}
    (noQuote : '\"' ∉ skipped) (noBracket : inPhrase = false → '(' ∉ skipped ∧ ')' ∉ skipped)
    (depth : Nat) (rest : Text) :
    balancedFrom inPhrase depth (skipped ++ rest) = balancedFrom inPhrase depth rest := by
  induction skipped with
  | nil => rfl
  | cons c skipped ih =>
    rw [List.mem_cons, not_or] at noQuote
    have tail := ih noQuote.2 fun outside =>
      ⟨fun member => (noBracket outside).1 (List.mem_cons_of_mem _ member),
        fun member => (noBracket outside).2 (List.mem_cons_of_mem _ member)⟩
    rw [List.cons_append, balancedFrom, if_neg (Ne.symm noQuote.1)]
    cases inPhrase with
    | true => exact tail
    | false =>
      obtain ⟨noOpening, noClosing⟩ := noBracket rfl
      rw [List.mem_cons, not_or] at noOpening noClosing
      rw [if_neg (by simp), if_neg (Ne.symm noOpening.1), if_neg (Ne.symm noClosing.1)]
      exact tail

theorem balancedFrom_filter (inPhrase : Bool) (depth : Nat) (text : Text) :
    balancedFrom inPhrase depth (text.filter CleanText.isMark) =
      balancedFrom inPhrase depth text := by
  induction text generalizing inPhrase depth with
  | nil => rfl
  | cons c rest ih =>
    cases mark : CleanText.isMark c with
    | true =>
      rw [List.filter_cons_of_pos mark, balancedFrom, balancedFrom]
      simp only [ih]
    | false =>
      have other : c ≠ '\"' ∧ c ≠ '(' ∧ c ≠ ')' := by simpa [CleanText.isMark] using mark
      have skip := @balancedFrom_skip [c] inPhrase (by simpa using Ne.symm other.1)
        (fun _ => by simpa using And.imp Ne.symm Ne.symm other.2) depth rest
      rw [List.filter_cons_of_neg (by simp [mark]), ih]
      exact skip.symm

theorem solo_of_isMark {c : Char} (mark : CleanText.isMark c) : Lexeme.Solo c := by
  rcases CleanText.isMark_eq_true mark with rfl | rfl | rfl
  · decide
  · decide
  · decide

/-- The brackets of merged lexemes are those of the text outside phrases. The phrase that is open
is closed before the end. -/
theorem bracketsBalanceFrom_mergePhrasesFrom {lexemes : List Text}
    (own : ∀ c, CleanText.isMark c → ∀ lexeme ∈ lexemes, c ∈ lexeme → lexeme = [c])
    (phrase : Option Text) (opened : ∀ text ∈ phrase, isPhrase text) (depth : Nat)
    (closed : (lexemes.count quote + phrase.toList.length) % 2 = 0) :
    bracketsBalanceFrom depth (mergePhrasesFrom phrase lexemes) =
      balancedFrom phrase.isSome depth lexemes.flatten := by
  induction lexemes generalizing phrase depth with
  | nil =>
    cases phrase with
    | none => rfl
    | some phrase => simp at closed
  | cons lexeme lexemes ih =>
    have ownRest : ∀ c, CleanText.isMark c → ∀ lexeme ∈ lexemes, c ∈ lexeme → lexeme = [c] :=
      fun c mark next member => own c mark next (List.mem_cons_of_mem _ member)
    have free (c : Char) (mark : CleanText.isMark c) (other : lexeme ≠ [c]) : c ∉ lexeme :=
      fun inside => other (own c mark lexeme List.mem_cons_self inside)
    rw [List.flatten_cons]
    by_cases isQuote : lexeme = quote
    · subst isQuote
      rw [List.count_cons_self] at closed
      have shape : quote ++ lexemes.flatten = '\"' :: lexemes.flatten := rfl
      rw [shape, balancedFrom_quote]
      cases phrase with
      | none =>
        rw [mergePhrasesFrom, if_pos rfl]
        exact ih ownRest (some quote) (by simp [isPhrase, quote]) depth
          (by simp at closed ⊢; omega)
      | some phrase =>
        obtain ⟨notOpening, notClosing⟩ :=
          not_bracket_of_isPhrase (isPhrase_append (opened phrase rfl) quote)
        rw [mergePhrasesFrom, if_pos rfl, bracketsBalanceFrom_other notOpening notClosing]
        exact ih ownRest none (by simp) depth (by simp at closed ⊢; omega)
    · rw [List.count_cons_of_ne isQuote] at closed
      have noQuote := free '\"' rfl isQuote
      cases phrase with
      | some phrase =>
        rw [mergePhrasesFrom, if_neg isQuote, balancedFrom_skip noQuote (by simp)]
        refine ih ownRest (some (phrase ++ lexeme)) (fun text isIt => ?_) depth closed
        obtain rfl : phrase ++ lexeme = text := Option.some.inj isIt
        exact isPhrase_append (opened phrase rfl) lexeme
      | none =>
        have known (depth : Nat) := ih ownRest none (by simp) depth closed
        rw [mergePhrasesFrom, if_neg isQuote]
        by_cases isOpening : lexeme = opening
        · subst isOpening
          rw [bracketsBalanceFrom_opening]
          exact known (depth + 1)
        · by_cases isClosing : lexeme = closing
          · subst isClosing
            rw [bracketsBalanceFrom_closing, known]
            rfl
          · have noOpening := free '(' rfl isOpening
            have noClosing := free ')' rfl isClosing
            rw [bracketsBalanceFrom_other isOpening isClosing, known]
            exact (balancedFrom_skip noQuote (fun _ => ⟨noOpening, noClosing⟩) depth _).symm

/-! ## The scan and the check -/

theorem plainMark_eq_quote (c : Char) : CleanText.plainMark c = '\"' ↔ isQuoteMark c := by
  rw [CleanText.plainMark]
  split
  case isTrue isOpening => rcases isOpening with rfl | rfl <;> decide
  case isFalse =>
    split
    case isTrue isClosing => rcases isClosing with rfl | rfl <;> decide
    case isFalse =>
      split
      case isTrue curly => rcases curly with rfl | rfl <;> decide
      case isFalse straight =>
        rw [not_or] at straight
        simp [isQuoteMark, straight.1, straight.2]

theorem plainMark_eq_opening (c : Char) :
    CleanText.plainMark c = '(' ↔ c = '(' ∨ c = '[' ∨ c = '\x7b' := by
  rw [CleanText.plainMark]
  split
  case isTrue isOpening => rcases isOpening with rfl | rfl <;> decide
  case isFalse other =>
    split
    case isTrue isClosing => rcases isClosing with rfl | rfl <;> decide
    case isFalse =>
      split
      case isTrue curly => rcases curly with rfl | rfl <;> decide
      case isFalse => grind

theorem plainMark_eq_closing (c : Char) :
    CleanText.plainMark c = ')' ↔ c = ')' ∨ c = ']' ∨ c = '\x7d' := by
  rw [CleanText.plainMark]
  split
  case isTrue isOpening => rcases isOpening with rfl | rfl <;> decide
  case isFalse =>
    split
    case isTrue isClosing => rcases isClosing with rfl | rfl <;> decide
    case isFalse other =>
      split
      case isTrue curly => rcases curly with rfl | rfl <;> decide
      case isFalse => grind

/-- A step of the scan looks at a character in its plain form. -/
theorem Scan.step_eq (scan : Scan) (c : Char) :
    scan.step c =
      if CleanText.plainMark c = '\"' then { scan with inPhrase := !scan.inPhrase }
      else if scan.inPhrase then scan
      else if CleanText.plainMark c = '(' then { scan with depth := scan.depth + 1 }
      else if CleanText.plainMark c = ')' then { scan with depth := scan.depth - 1 }
      else scan := by
  simp only [step, plainMark_eq_quote, plainMark_eq_opening, plainMark_eq_closing]

/-- From here on no more groups are closed than are open, and in the end all are closed. -/
def Scan.Closes (scan : Scan) (text : Text) : Prop :=
  (∀ front, front <+: text → 0 ≤ (scan.after front).depth) ∧ (scan.after text).depth = 0

theorem Scan.closes_cons (scan : Scan) (c : Char) (rest : Text) :
    scan.Closes (c :: rest) ↔ 0 ≤ scan.depth ∧ (scan.step c).Closes rest := by
  constructor
  · intro found
    rcases found with ⟨closed, final⟩
    refine ⟨closed [] List.nil_prefix, fun front isFront => ?_, final⟩
    exact closed (c :: front) ((List.prefix_cons_inj c).mpr isFront)
  · intro found
    rcases found with ⟨start, closed, final⟩
    refine ⟨fun front isFront => ?_, final⟩
    cases front with
    | nil => exact start
    | cons first front =>
      obtain ⟨rfl, isRest⟩ := List.cons_prefix_cons.mp isFront
      exact closed front isRest

theorem Scan.Closes.depth_nonneg {scan : Scan} {text : Text} (closes : scan.Closes text) :
    0 ≤ scan.depth :=
  closes.1 [] List.nil_prefix

/-- The check of plain text is the scan of the text it comes from. The induction is on the text,
and any phrase may be open with any number of groups. -/
theorem balancedFrom_map_plainMark (inPhrase : Bool) (depth : Nat) (text : Text) :
    balancedFrom inPhrase depth (text.map CleanText.plainMark) ↔
      Scan.Closes ⟨inPhrase, depth⟩ text := by
  induction text generalizing inPhrase depth with
  | nil => simp [balancedFrom, Scan.Closes, Scan.after]
  | cons c rest ih =>
    rw [List.map_cons, balancedFrom, Scan.closes_cons, Scan.step_eq]
    split
    case isTrue => simpa using ih (!inPhrase) depth
    case isFalse =>
      cases inPhrase with
      | true => simpa using ih true depth
      | false =>
        simp only [Bool.false_eq_true, if_false]
        split
        case isTrue => simpa using ih false (depth + 1)
        case isFalse =>
          split
          case isTrue =>
            cases depth with
            | zero =>
              have noGroup : ¬ Scan.Closes ⟨false, ((0 : Nat) : Int) - 1⟩ rest := fun closes =>
                absurd closes.depth_nonneg (by simp)
              exact iff_of_false Bool.false_ne_true fun closes => noGroup closes.2
            | succ outer =>
              have opened : (0 : Int) ≤ (outer + 1 : Nat) := by omega
              have outside : ((outer + 1 : Nat) : Int) - 1 = outer := by omega
              rw [outside, ← ih false outer]
              exact (and_iff_right opened).symm
          case isFalse => simpa using ih false depth

/-! ## Acceptance -/

theorem countQuotes_ofRaw (query : Text) :
    countQuotes (CleanText.ofRaw query) = quoteMarks query := by
  have quoteIsMark : CleanText.isMark '\"' := by decide
  have plain (c : Char) : (CleanText.plainMark c == '\"') = isQuoteMark c := by
    rw [Bool.eq_iff_iff, beq_iff_eq]
    exact plainMark_eq_quote c
  calc countQuotes (CleanText.ofRaw query)
    _ = ((CleanText.ofRaw query).filter CleanText.isMark).count '\"' :=
      (List.count_filter quoteIsMark).symm
    _ = ((query.map CleanText.plainMark).filter CleanText.isMark).count '\"' := by
      rw [CleanText.filter_isMark_ofRaw]
    _ = (query.map CleanText.plainMark).count '\"' := List.count_filter quoteIsMark
    _ = quoteMarks query := by
      rw [List.count, List.countP_map, quoteMarks]
      exact List.countP_congr fun c _ => by rw [Function.comp_apply, plain]

theorem quote_not_mem_ofRaw {query : Text} (free : ∀ c ∈ query, isQuoteMark c = false) :
    '\"' ∉ CleanText.ofRaw query := by
  have none : quoteMarks query = 0 :=
    List.countP_eq_zero.mpr fun c member => by simp [free c member]
  rw [← List.count_eq_zero, ← none]
  exact countQuotes_ofRaw query

theorem closes_iff (query : Text) : Scan.Closes ⟨false, 0⟩ query ↔ ¬ Unbalanced query := by
  rw [Unbalanced, not_or, not_not, not_exists]
  simp only [not_and, Int.not_lt]
  rfl

theorem bracketsBalance_ofClean {clean : Text} (even : clean.count '\"' % 2 = 0) :
    bracketsBalance (ofClean clean) = balancedFrom false 0 clean := by
  have closed : (Lexeme.ofText clean).count quote % 2 = 0 := by rwa [count_quote_ofText]
  have check := @bracketsBalanceFrom_mergePhrasesFrom (Lexeme.ofText clean)
    (fun c mark lexeme member => Lexeme.eq_singleton_of_mem_ofText (solo_of_isMark mark) member)
    none (by simp) 0 (by simpa using closed)
  rw [bracketsBalance, ofClean, mergePhrases, check, Lexeme.flatten_ofText, Option.isSome_none]

/-- The brackets of the clean text balance exactly if those of the query do. -/
theorem bracketsBalance_iff {query : Text} (even : quoteMarks query % 2 = 0) :
    bracketsBalance (ofClean (CleanText.ofRaw query)) ↔ ¬ Unbalanced query := by
  have evenClean : (CleanText.ofRaw query).count '\"' % 2 = 0 := by
    rw [← even, ← countQuotes_ofRaw]
    rfl
  rw [bracketsBalance_ofClean evenClean, ← balancedFrom_filter, CleanText.filter_isMark_ofRaw,
    balancedFrom_filter, balancedFrom_map_plainMark]
  exact closes_iff query

/-- Whether a query is accepted, and why not, is decided by the quotes and brackets as they were
typed. Odd quotes are reported with their number, whatever the brackets are; with even quotes a
query is rejected if its brackets outside phrases do not balance, and accepted otherwise. -/
theorem acceptance (query : Text) :
    (∀ count, convert query = .error (.oddQuotes count) ↔
      count = quoteMarks query ∧ quoteMarks query % 2 = 1) ∧
    (convert query = .error .unbalancedBrackets ↔
      quoteMarks query % 2 = 0 ∧ Unbalanced query) ∧
    ((∃ output, convert query = .ok output) ↔
      quoteMarks query % 2 = 0 ∧ ¬ Unbalanced query) := by
  rw [convert_eq, countQuotes_ofRaw]
  rcases Nat.mod_two_eq_zero_or_one (quoteMarks query) with even | odd
  · have balance := bracketsBalance_iff even
    cases brackets : bracketsBalance (ofClean (CleanText.ofRaw query)) with
    | true =>
      have balanced : ¬ Unbalanced query := balance.mp brackets
      simp [even, balanced]
    | false =>
      have unbalanced : Unbalanced query := by
        by_contra balanced
        rw [balance.mpr balanced] at brackets
        cases brackets
      simp [even, unbalanced]
  · simp [odd, eq_comm]

end FullTextQuery.Query
