import FullTextQuery.Proofs.Dangling
import FullTextQuery.Proofs.Forest
import FullTextQuery.Proofs.Terms
import Mathlib.Data.List.TakeWhile

/-!
# Operators and their items

The passes after `dropDangling` write new operators in front of items only, and keep what hangs.
They leave no two operators side by side, so an operator that does not hang has its item. Together
`haveItems_passes` says exactly when every operator of the prefixed tokens has an item to work on,
and `haveItems_iff_of_convert` says it of every query that is accepted.
-/

namespace FullTextQuery

namespace Prefixed

open Token

/-! ## Handing out connectives -/

/-- The backward scan ends with a token that closes no group, or goes on after it. -/
theorem splitItem_cons (depth : Nat) (token : Token) (rest : List Token) :
    (token ≠ .closing ∧ splitItem depth (token :: rest) = ([token], rest)) ∨
      ∃ inside, splitItem depth (token :: rest) =
        (token :: (splitItem inside rest).1, (splitItem inside rest).2) := by
  cases token with
  | closing => exact .inr ⟨depth + 1, by simp [splitItem]⟩
  | opening =>
    by_cases last : depth - 1 = 0
    · exact .inl ⟨by simp, by simp [splitItem, last]⟩
    · exact .inr ⟨depth - 1, by simp [splitItem, last]⟩
  | operand text | phrase text | keyword operator | symbol operator =>
    by_cases last : depth = 0
    · exact .inl ⟨by simp, by simp [splitItem, last]⟩
    · exact .inr ⟨depth, by simp [splitItem, last]⟩

theorem splitItem_append (depth : Nat) (written : List Token) :
    (splitItem depth written).1 ++ (splitItem depth written).2 = written := by
  induction written generalizing depth with
  | nil => rfl
  | cons token rest ih =>
    rcases splitItem_cons depth token rest with ⟨-, ends⟩ | ⟨inside, goesOn⟩
    · rw [ends]
      rfl
    · rw [goesOn]
      exact congrArg _ (ih inside)

/-- The scan ends at a closing bracket only for want of more tokens. -/
theorem getLast?_splitItem {written : List Token} (opens : written.getLast? ≠ some .closing)
    (depth : Nat) : (splitItem depth written).1.getLast? ≠ some .closing := by
  induction written generalizing depth with
  | nil => exact opens
  | cons token rest ih =>
    rcases splitItem_cons depth token rest with ⟨notClosing, ends⟩ | ⟨inside, goesOn⟩
    · rw [ends]
      simpa using notClosing
    · rw [goesOn]
      cases rest with
      | nil => exact opens
      | cons next rest =>
        rw [List.getLast?_cons_cons] at opens
        have found := ih opens inside
        rcases splitItem_cons inside next rest with ⟨-, shape⟩ | ⟨deeper, shape⟩
        · rw [shape] at found ⊢
          rwa [List.getLast?_cons_cons]
        · rw [shape] at found ⊢
          rwa [List.getLast?_cons_cons]

theorem hangs_append_congr {left right : List Token} (sameHangs : hangs left = hangs right)
    (sameEdge : atEdge left = atEdge right) (front : List Token) :
    hangs (front ++ left) = hangs (front ++ right) := by
  induction front with
  | nil => exact sameHangs
  | cons token front ih =>
    have edge : atEdge (front ++ left) = atEdge (front ++ right) := by
      cases front with
      | nil => exact sameEdge
      | cons => rfl
    rw [List.cons_append, List.cons_append, hangs, hangs, edge, ih]

/-- The symbol that the item before a keyword gets stands in front of an item, so it does not
hang. -/
theorem hangs_handOut_keyword {operator : Operator} {written : List Token}
    (opens : written.getLast? ≠ some .closing) (rest : List Token) :
    hangs ((handOut operator written (.keyword operator)).reverse ++ rest) =
      hangs (written.reverse ++ .keyword operator :: rest) := by
  have itemOpens := getLast?_splitItem opens 0
  have parts := splitItem_append 0 written
  rw [handOut_keyword, markLast]
  generalize (splitItem 0 written).1 = item at itemOpens parts ⊢
  generalize (splitItem 0 written).2 = before at parts ⊢
  subst parts
  have inside (token : Token) (notClosing : token ≠ .closing) :
      atEdge (item.reverse ++ token :: rest) = false := by
    rw [← List.head?_reverse] at itemOpens
    cases reversed : item.reverse with
    | nil => simpa [atEdge] using notClosing
    | cons first more => simpa [reversed, atEdge] using itemOpens
  have spelled : hangs (item.reverse ++ .symbol operator :: rest) =
      hangs (item.reverse ++ .keyword operator :: rest) := by
    apply hangs_append_congr
    · rfl
    · rfl
  have marked : hangs (.symbol operator :: (item.reverse ++ .symbol operator :: rest)) =
      hangs (item.reverse ++ .keyword operator :: rest) := by
    rw [hangs_of_not_atEdge (inside _ (by simp)), spelled]
  have edge : atEdge (.symbol operator :: (item.reverse ++ .symbol operator :: rest)) =
      atEdge (item.reverse ++ .keyword operator :: rest) := by
    rw [inside _ (by simp)]
    rfl
  have whole := hangs_append_congr marked edge before.reverse
  simpa using whole

theorem head?_handOut_keyword {operator : Operator} {written : List Token}
    (opens : written.getLast? ≠ some .closing) (rest : List Token) :
    ((handOut operator written (.keyword operator)).reverse ++ rest).head? ≠ some .closing := by
  have parts := splitItem_append 0 written
  rw [← List.head?_reverse, ← parts, List.reverse_append] at opens
  rw [handOut_keyword, markLast]
  cases before : (splitItem 0 written).2.reverse with
  | nil => simp [before]
  | cons first more => simpa [before] using opens

theorem hangs_foldl_handOut (operator : Operator) (tokens written : List Token)
    (opens : (written.reverse ++ tokens).head? ≠ some .closing) :
    hangs (tokens.foldl (handOut operator) written).reverse = hangs (written.reverse ++ tokens) ∧
      (tokens.foldl (handOut operator) written).reverse.head? ≠ some .closing := by
  induction tokens generalizing written with
  | nil => simpa using opens
  | cons token rest ih =>
    rw [List.foldl_cons]
    by_cases isKeyword : token = .keyword operator
    · subst isKeyword
      have writtenOpens : written.getLast? ≠ some .closing := by
        rw [List.head?_append, List.head?_reverse] at opens
        intro last
        rw [last] at opens
        exact opens rfl
      rw [← hangs_handOut_keyword writtenOpens rest]
      exact ih _ (head?_handOut_keyword writtenOpens rest)
    · rw [handOut_other isKeyword]
      simpa using ih (token :: written) (by simpa using opens)

/-- Handing a connective out keeps what hangs. -/
theorem hangs_distribute (operator : Operator) {tokens : List Token}
    (opens : tokens.head? ≠ some .closing) :
    hangs (distribute operator tokens) = hangs tokens ∧
      (distribute operator tokens).head? ≠ some .closing :=
  hangs_foldl_handOut operator tokens [] opens

/-! ## Symbols -/

theorem atEdge_spellNot (tokens : List Token) : atEdge (spellNot tokens) = atEdge tokens := by
  cases tokens with
  | nil => rfl
  | cons token rest =>
    rw [spellNot, List.map_cons, atEdge_cons, atEdge_cons]
    cases token with
    | keyword operator | symbol operator => cases operator <;> rfl
    | operand text | phrase text | opening | closing => rfl

theorem hangs_spellNot (tokens : List Token) : hangs (spellNot tokens) = hangs tokens := by
  induction tokens with
  | nil => rfl
  | cons token rest ih =>
    have same : (if token.isNot then .symbol .not else token).isOperator = token.isOperator := by
      cases token with
      | keyword operator | symbol operator => cases operator <;> rfl
      | operand text | phrase text | opening | closing => rfl
    have parts : spellNot (token :: rest) =
        (if token.isNot then .symbol .not else token) :: spellNot rest := rfl
    rw [parts, hangs, same, atEdge_spellNot, ih, hangs]

/-- An operator is reduced with the symbol after it, or else becomes a symbol itself. -/
theorem reduce_operator {token : Token} {operator : Operator}
    (spells : token.operator? = some operator) (rest : List Token) :
    (∃ next more, reduce rest = .symbol next :: more ∧
        reduce (token :: rest) = .symbol (operator.stronger next) :: more) ∨
      (∀ next, (reduce rest).head? ≠ some (.symbol next)) ∧
        reduce (token :: rest) = .symbol operator :: reduce rest := by
  rw [reduce, spells]
  cases reduce rest with
  | nil => exact .inr ⟨by simp, by cases operator <;> rfl⟩
  | cons first more =>
    cases first with
    | symbol next => exact .inl ⟨next, more, rfl, by cases operator <;> rfl⟩
    | operand text | phrase text | keyword other =>
      exact .inr ⟨by simp, by cases operator <;> rfl⟩
    | opening | closing => exact .inr ⟨by simp, by cases operator <;> rfl⟩

theorem not_atEdge_of_operator {token : Token} {operator : Operator}
    (spells : token.operator? = some operator) (rest : List Token) :
    atEdge (token :: rest) = false := by
  rw [atEdge_cons, decide_eq_false_iff_not]
  intro equal
  subst equal
  cases spells

/-- Of a run of operators only the last can come right before an edge. -/
theorem hangs_reduce (tokens : List Token) :
    hangs (reduce tokens) = hangs tokens ∧ atEdge (reduce tokens) = atEdge tokens := by
  induction tokens with
  | nil => exact ⟨rfl, rfl⟩
  | cons token rest ih =>
    obtain ⟨sameHangs, sameEdge⟩ := ih
    cases spells : token.operator? with
    | none =>
      have noOperator : token.isOperator = false := isOperator_eq_false spells
      rw [reduce, spells, hangs_of_not_isOperator noOperator, hangs_of_not_isOperator noOperator]
      exact ⟨sameHangs, rfl⟩
    | some operator =>
      have isOperator : token.isOperator := isOperator_of_operator? spells
      rw [not_atEdge_of_operator spells]
      rcases reduce_operator spells rest with ⟨next, more, reduced, shape⟩ | ⟨-, shape⟩
      · rw [reduced] at sameHangs sameEdge
        have inside : atEdge rest = false := by rw [← sameEdge]; rfl
        rw [shape, hangs_of_not_atEdge inside, ← sameHangs]
        exact ⟨rfl, rfl⟩
      · rw [shape, hangs, hangs, sameHangs, sameEdge, isOperator]
        exact ⟨rfl, rfl⟩

/-- Filling a gap puts AND in front of an item. -/
theorem hangs_supplyAndFrom (afterOperator : Bool) (tokens : List Token) :
    hangs (supplyAndFrom afterOperator tokens) = hangs tokens ∧
      atEdge (supplyAndFrom afterOperator tokens) = atEdge tokens := by
  induction tokens generalizing afterOperator with
  | nil => exact ⟨rfl, rfl⟩
  | cons token rest ih =>
    have kept (gap : Bool) : hangs (token :: supplyAndFrom gap rest) = hangs (token :: rest) := by
      rw [hangs, hangs, (ih gap).1, (ih gap).2]
    rw [supplyAndFrom]
    split
    case isTrue => exact ⟨kept _, rfl⟩
    case isFalse fills =>
      have inside : ∀ more : List Token, atEdge (token :: more) = false := by
        intro more
        rw [Bool.or_eq_true, Bool.or_eq_true, not_or, not_or, decide_eq_true_eq] at fills
        rw [atEdge_cons, decide_eq_false_iff_not]
        exact fills.1.2
      rw [hangs_of_not_atEdge (inside _), kept, inside]
      exact ⟨rfl, rfl⟩

/-! ## Neighbours -/

/-- Of two neighbours at most one is an operator. -/
def Apart (left right : Token) : Prop :=
  left.isOperator → right.isOperator = false

theorem isChain_reduce (tokens : List Token) :
    (reduce tokens).IsChain Apart ∧
      ∀ token ∈ (reduce tokens).head?, token.isOperator → ∃ operator, token = .symbol operator := by
  induction tokens with
  | nil => exact ⟨.nil, by simp [reduce]⟩
  | cons token rest ih =>
    obtain ⟨chain, symbols⟩ := ih
    cases spells : token.operator? with
    | none =>
      have noOperator : token.isOperator = false := isOperator_eq_false spells
      rw [reduce, spells]
      refine ⟨?_, by simp [noOperator]⟩
      cases collapsed : reduce rest with
      | nil => exact .singleton token
      | cons first more =>
        rw [collapsed] at chain
        exact .cons_cons (by simp [Apart, noOperator]) chain
    | some operator =>
      rcases reduce_operator spells rest with ⟨next, more, reduced, shape⟩ | ⟨noSymbol, shape⟩
      · rw [reduced] at chain
        rw [shape]
        refine ⟨?_, by simp⟩
        cases more with
        | nil => exact .singleton _
        | cons first more =>
          rw [List.isChain_cons_cons] at chain
          exact .cons_cons (fun _ => chain.1 rfl) chain.2
      · rw [shape]
        refine ⟨?_, by simp⟩
        cases collapsed : reduce rest with
        | nil => exact .singleton _
        | cons first more =>
          rw [collapsed] at chain noSymbol symbols
          refine .cons_cons (fun _ => ?_) chain
          refine Bool.eq_false_iff.mpr fun spellsToo => ?_
          obtain ⟨next, rfl⟩ := symbols first rfl spellsToo
          exact noSymbol next rfl

theorem isChain_supplyAndFrom (before : Token) (tokens : List Token)
    (chain : (before :: tokens).IsChain Apart) :
    (before :: supplyAndFrom before.isOperator tokens).IsChain Apart := by
  induction tokens generalizing before with
  | nil => exact .singleton before
  | cons token rest ih =>
    rw [List.isChain_cons_cons] at chain
    rw [supplyAndFrom]
    split
    case isTrue => exact .cons_cons chain.1 (ih token chain.2)
    case isFalse fills =>
      rw [Bool.or_eq_true, Bool.or_eq_true, not_or, not_or, Bool.not_eq_true, Bool.not_eq_true]
        at fills
      obtain ⟨⟨noOperator, -⟩, noneBefore⟩ := fills
      have walk := ih token chain.2
      rw [noOperator] at walk
      exact .cons_cons (by simp [Apart, noneBefore]) (.cons_cons (fun _ => noOperator) walk)

theorem isChain_supplyAnd {tokens : List Token} (chain : tokens.IsChain Apart) :
    (supplyAnd tokens).IsChain Apart := by
  have opened : (Token.opening :: tokens).IsChain Apart := by
    cases tokens with
    | nil => exact .singleton _
    | cons token rest => exact .cons_cons (fun isOperator => by cases isOperator) chain
  exact (isChain_supplyAndFrom .opening tokens opened).tail

/-! ## Operators and their items -/

/-- Every operator stands right before an item. -/
def HaveItems (tokens : List Token) : Prop :=
  ∀ before token after, tokens = before ++ token :: after →
    token.isOperator → after.head?.any startsItem

/-- Of two neighbours the left one is an operator exactly if the right one starts an item. -/
def Paired (left right : Token) : Prop :=
  left.isOperator = right.startsItem

instance (left right : Token) : Decidable (Paired left right) :=
  inferInstanceAs (Decidable (_ = _))

/-- Where every item has an operator right before it and every operator an item right after it, all
neighbours are paired, and the edges of the query count as the brackets of a group. -/
theorem isChain_paired {tokens : List Token}
    (led : ∀ before item after, tokens = before ++ item :: after → item.startsItem →
      before.getLast?.any isOperator)
    (items : HaveItems tokens) : (.opening :: (tokens ++ [.closing])).IsChain Paired := by
  have chain : (Token.opening :: (tokens ++ [.closing])).IsChain fun left right =>
      (right.startsItem → left.isOperator) ∧ (left.isOperator → right.startsItem) := by
    refine isChain_of_neighbours nofun (fun _ => nofun) fun before token after parts => ?_
    rw [← any_eq_getD isOperator .opening rfl, ← any_eq_getD startsItem .closing rfl]
    exact ⟨led before token after parts, items before token after parts⟩
  exact chain.imp fun _ _ both => Bool.eq_iff_iff.mpr ⟨both.2, both.1⟩

/-- Somewhere a NOT comes right after a NOT, and after them only operators up to an edge. -/
def EndsInNots (tokens : List Token) : Prop :=
  ∃ before first second run after, tokens = before ++ first :: second :: (run ++ after) ∧
    first.isNot ∧ second.isNot ∧ (∀ token ∈ run, token.isOperator) ∧ atEdge after

theorem hangs_iff {tokens : List Token} :
    hangs tokens ↔ ∃ before token after, tokens = before ++ token :: after ∧
      token.isOperator ∧ atEdge after := by
  induction tokens with
  | nil => simp [hangs]
  | cons token rest ih =>
    rw [hangs, Bool.or_eq_true, Bool.and_eq_true, ih]
    constructor
    · intro either
      rcases either with ⟨spells, edge⟩ | ⟨before, inner, after, rfl, spells, edge⟩
      · exact ⟨[], token, rest, rfl, spells, edge⟩
      · exact ⟨token :: before, inner, after, rfl, spells, edge⟩
    · intro found
      rcases found with ⟨before, inner, after, parts, spells, edge⟩
      cases before with
      | nil =>
        obtain ⟨rfl, rfl⟩ := List.cons.inj parts
        exact .inl ⟨spells, edge⟩
      | cons first before =>
        obtain ⟨-, rfl⟩ := List.cons.inj parts
        exact .inr ⟨before, inner, after, rfl, spells, edge⟩

/-- Where no operators are neighbours, each has its item unless one hangs. -/
theorem haveItems_iff {tokens : List Token} (chain : tokens.IsChain Apart) :
    HaveItems tokens ↔ hangs tokens = false := by
  rw [← Bool.not_eq_true, hangs_iff]
  constructor
  · intro items found
    rcases found with ⟨before, token, after, parts, spells, edge⟩
    have starts := items before token after parts spells
    cases after with
    | nil => cases starts
    | cons next after =>
      obtain rfl : next = .closing := by simpa [atEdge] using edge
      cases starts
  · intro inside before token after parts spells
    cases after with
    | nil => exact absurd ⟨before, token, [], parts, spells, rfl⟩ inside
    | cons next after =>
      rw [List.isChain_iff_forall_rel_of_append_cons_cons] at chain
      have noOperator : next.operator? = none := by
        simpa [isOperator] using chain parts spells
      refine startsItem_of_operator? noOperator ?_
      intro equal
      subst equal
      exact inside ⟨before, token, .closing :: after, parts, spells, rfl⟩

theorem dropWhile_isOperator_append {run : List Token} (operators : ∀ token ∈ run, token.isOperator)
    {after : List Token} (edge : atEdge after) :
    atEdge ((run ++ after).dropWhile isOperator) := by
  rw [List.dropWhile_append_of_pos operators]
  cases after with
  | nil => rfl
  | cons token after =>
    obtain rfl : token = .closing := by simpa [atEdge] using edge
    rfl

theorem doublesNot_iff {tokens : List Token} : doublesNot tokens ↔ EndsInNots tokens := by
  induction tokens with
  | nil => simp [doublesNot, EndsInNots]
  | cons token rest ih =>
    rw [doublesNot, Bool.or_eq_true, ih]
    constructor
    · intro either
      rcases either with doubled | ⟨before, first, second, run, after, rfl, rest⟩
      · cases rest with
        | nil => simp at doubled
        | cons second rest =>
          obtain ⟨⟨firstNot, secondNot⟩, edge⟩ :
              (token.isNot ∧ second.isNot) ∧
                atEdge ((second :: rest).dropWhile isOperator) := by simpa using doubled
          have spells : second.isOperator := by rw [isOperator_eq, secondNot, Bool.or_true]
          rw [List.dropWhile_cons, if_pos spells] at edge
          refine ⟨[], token, second, rest.takeWhile isOperator, rest.dropWhile isOperator, ?_,
            firstNot, secondNot, fun token member => List.mem_takeWhile_imp member, edge⟩
          rw [List.takeWhile_append_dropWhile]
          rfl
      · exact ⟨token :: before, first, second, run, after, rfl, rest⟩
    · intro found
      rcases found with
        ⟨before, first, second, run, after, parts, firstNot, secondNot, operators, edge⟩
      cases before with
      | nil =>
        obtain ⟨rfl, rfl⟩ := List.cons.inj parts
        have spells : second.isOperator := by rw [isOperator_eq, secondNot, Bool.or_true]
        left
        rw [List.dropWhile_cons, if_pos spells, dropWhile_isOperator_append operators edge]
        simp [firstNot, secondNot]
      | cons head before =>
        obtain ⟨-, rfl⟩ := List.cons.inj parts
        exact .inr ⟨before, first, second, run, after, rfl, firstNot, secondNot, operators, edge⟩

theorem isChain_passes (tokens : List Token) :
    (Pass.runAll Query.structuralPasses tokens).IsChain Apart :=
  isChain_supplyAnd (isChain_reduce _).1

/-- After all passes every operator has its item, unless the tokens end in NOTs. -/
theorem haveItems_passes {tokens : List Token}
    (opens : (tokens.dropWhile isOperator).head? ≠ some .closing) :
    HaveItems (Pass.runAll Query.structuralPasses tokens) ↔ ¬ EndsInNots tokens := by
  have leftOpens : (dropDangling tokens).head? ≠ some .closing := by
    rcases head?_dropDangling tokens with same | ⟨⟨kept, first, spellsNot⟩, -⟩
    · rwa [same]
    · rw [first]
      intro impossible
      cases impossible
      cases spellsNot
  obtain ⟨orHangs, orOpens⟩ := hangs_distribute .or leftOpens
  obtain ⟨andHangs, -⟩ := hangs_distribute .and orOpens
  have runs : Pass.runAll Query.structuralPasses tokens =
      supplyAnd (reduce (spellNot (distribute .and (distribute .or (dropDangling tokens))))) := rfl
  rw [haveItems_iff (isChain_passes tokens), ← doublesNot_iff, Bool.not_eq_true, runs, supplyAnd,
    (hangs_supplyAndFrom _ _).1, (hangs_reduce _).1, hangs_spellNot, andHangs, orHangs,
    hangs_dropDangling]

end Prefixed

namespace Query

open Prefixed Term

theorem result_trace (query : Text) : (trace query).result = convert query := by
  rw [trace]

theorem stages_trace (query : Text) : (trace query).stages = snapshots query := by
  rw [trace]

theorem snapshots_eq (query : Text) :
    snapshots query =
      ⟨.cleanText, [CleanText.ofRaw query]⟩ ::
        if countQuotes (CleanText.ofRaw query) % 2 = 1 then []
        else
          ⟨.lexemes, Lexeme.ofText (CleanText.ofRaw query)⟩ ::
            ⟨.phrases, ofClean (CleanText.ofRaw query)⟩ ::
              if bracketsBalance (ofClean (CleanText.ofRaw query)) then
                Pass.record id lexicalPasses (ofClean (CleanText.ofRaw query)) ++
                  Pass.record (List.map Token.text) structuralPasses
                    (tokensOfClean (CleanText.ofRaw query)) ++
                  [⟨.fullText, [ofBalancedTerms (ofClean (CleanText.ofRaw query))]⟩]
              else [] := rfl

/-- What the trace of an accepted query shows of the last pass on tokens. -/
theorem snapshot?_prefixed {query : Text} (even : countQuotes (CleanText.ofRaw query) % 2 = 0)
    (balance : bracketsBalance (ofClean (CleanText.ofRaw query))) :
    (trace query).snapshot? .prefixed =
      some ⟨.prefixed, (Pass.runAll structuralPasses
        (tokensOfClean (CleanText.ofRaw query))).map Token.text⟩ := by
  rw [Trace.snapshot?, stages_trace, snapshots_eq, if_neg (by omega), if_pos balance]
  rfl

/-- The visible terms of an accepted query decide whether every operator of its prefixed tokens
stands right before an item: each does, unless a NOT comes right after a NOT with only operators
between the two and the end of the query or of a group. -/
theorem haveItems_iff_of_convert (query output : Text) (accepted : convert query = .ok output) :
    let visible := tokensOfClean (CleanText.ofRaw query)
    let prefixed := Pass.runAll structuralPasses visible
    (trace query).snapshot? .prefixed = some ⟨.prefixed, prefixed.map Token.text⟩ ∧
      (HaveItems prefixed ↔ ¬ EndsInNots visible) := by
  obtain ⟨even, balance, -⟩ := convert_eq_ok.mp accepted
  exact ⟨snapshot?_prefixed even balance,
    haveItems_passes (head?_dropWhile_tokensOfClean balance)⟩

/-- Of two NOTs at the end of a query the first one is left without an item. -/
theorem haveItems_iff_of_convert_not_not :
    let query := ['a', ' ', 'n', 'o', 't', ' ', 'n', 'o', 't']
    let prefixed := Pass.runAll structuralPasses (tokensOfClean (CleanText.ofRaw query))
    convert query = .ok ['+', 'a', ' ', '-'] ∧
      (trace query).snapshot? .prefixed = some ⟨.prefixed, [['+'], ['a'], ['-']]⟩ ∧
      ¬ HaveItems prefixed := by
  intro query prefixed
  have accepted : convert query = .ok ['+', 'a', ' ', '-'] := by decide
  have visible : tokensOfClean (CleanText.ofRaw query) =
      [.operand ['a'], .keyword .not, .keyword .not] := by decide
  have left : prefixed = [.symbol .and, .operand ['a'], .symbol .not] := by decide
  obtain ⟨snapshot, items⟩ := haveItems_iff_of_convert query _ accepted
  have ends : EndsInNots (tokensOfClean (CleanText.ofRaw query)) :=
    ⟨[.operand ['a']], .keyword .not, .keyword .not, [], [], visible, rfl, rfl, by simp, rfl⟩
  refine ⟨accepted, snapshot.trans ?_, fun every => items.mp every ends⟩
  exact congrArg
    (fun tokens : List Token => some (Snapshot.mk .prefixed (tokens.map Token.text))) left

end Query

end FullTextQuery
