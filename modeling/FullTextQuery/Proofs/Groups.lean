import FullTextQuery.Proofs.BracketsKept
import FullTextQuery.Proofs.Connectives

/-!
# Groups through the passes

A bracket is to the passes what the edge of a query is. Dropping operators finds nothing before an
opening bracket and nothing after a closing one, connectives are handed out on each level by itself,
and no run of operators reaches over a bracket. So the tokens of a group get the prefixes that they
get alone (`passes_group`), with a NOT in front of the brackets (`passes_negation`) and with a
connective between two groups (`passes_connected`).
-/

namespace FullTextQuery

namespace Forest

/-! ## Levels -/

/-- No level begins with a connective. -/
structure LevelsOpen (forest : Forest) : Prop where
  /-- The outer level does not. -/
  starts : ∀ operator : Operator, operator.isConnective → forest.startsWith operator = false
  /-- No group does. -/
  opens : ∀ operator : Operator, operator.isConnective → forest.GroupsOpen operator

/-- The keyword of an operator as a leaf. -/
def keywordLeaf (operator : Operator) : Leaf := ⟨.keyword operator, by simp⟩

/-- A forest in brackets. -/
def single (inner : Forest) : Forest :=
  .group inner .nil

/-- A forest in brackets after NOT. -/
def negated (inner : Forest) : Forest :=
  .leaf (keywordLeaf .not) (single inner)

/-- Two forests in brackets with a connective between them. -/
def connected (operator : Operator) (first second : Forest) : Forest :=
  .group first (.leaf (keywordLeaf operator) (single second))

namespace LevelsOpen

variable {first second : Forest} (levels : first.LevelsOpen)

include levels

/-- Handing a connective out puts no keyword of a connective first. -/
theorem startsWith_distribute {connective : Operator} (connects : connective.isConnective)
    (operator : Operator) : (first.distribute operator).startsWith connective = false := by
  refine Bool.eq_false_iff.mpr fun starts => ?_
  have known := levels.starts connective connects
  rw [startsWith_of_distribute starts] at known
  cases known

theorem single : first.single.LevelsOpen where
  starts _ _ := rfl
  opens operator connective :=
    ⟨levels.starts operator connective, levels.opens operator connective, trivial⟩

theorem negated : first.negated.LevelsOpen where
  starts operator connective := by
    cases operator with
    | and | or => rfl
    | not => cases connective
  opens := levels.single.opens

theorem connected (others : second.LevelsOpen) (operator : Operator) :
    (Forest.connected operator first second).LevelsOpen where
  starts _ _ := rfl
  opens other connective :=
    ⟨levels.starts other connective, levels.opens other connective,
      others.single.opens other connective⟩

end LevelsOpen

end Forest

namespace Prefixed

open Token

/-! ## Dropping operators at a bracket -/

/-- A closing bracket is nothing to have on the right. -/
theorem lacksRight_append_closing (front back : List Token) :
    lacksRight (front ++ .closing :: back).head? = lacksRight front.head? := by
  cases front <;> rfl

/-- What stands before a closing bracket is dropped as at the end of a query. -/
theorem dropDanglingFrom_append_closing (held : Option Token) (front back : List Token) :
    dropDanglingFrom held (front ++ .closing :: back) =
      dropDanglingFrom held front ++ dropDanglingFrom (some .closing) back := by
  induction front generalizing held with
  | nil => rfl
  | cons token front ih =>
    rw [List.cons_append]
    cases spells : token.operator? with
    | none =>
      rw [dropDanglingFrom_other spells, dropDanglingFrom_other spells, ih, List.append_assoc]
    | some operator =>
      rw [dropDanglingFrom, dropDanglingFrom, spells]
      dsimp only
      rw [lacksRight_append_closing, ih, ih, ← List.append_assoc, ← List.append_assoc]
      split
      · split
        · rfl
        · rfl
      · rfl

/-- An opening bracket is nothing to have on the left. -/
theorem dropDanglingFrom_opening (tokens : List Token) :
    dropDanglingFrom (some .opening) tokens = .opening :: dropDangling tokens := by
  have missing : lacksLeft (some .opening) = lacksLeft none := rfl
  have none : (some Token.opening).any isConnective = false := rfl
  cases tokens with
  | nil => rfl
  | cons token rest =>
    unfold dropDangling dropDanglingFrom
    rw [missing, none]
    split
    · rfl
    · split
      · rw [if_neg (by simp), if_neg (by simp)]
        rfl
      · rfl

theorem dropDanglingFrom_group (tokens back : List Token) :
    dropDanglingFrom (some .opening) (tokens ++ .closing :: back) =
      .opening :: (dropDangling tokens ++ dropDanglingFrom (some .closing) back) := by
  rw [dropDanglingFrom_append_closing, dropDanglingFrom_opening]
  rfl

/-! ## Prefixes at a bracket -/

/-- A run of operators ends where a token that is none stands. -/
theorem reduce_append_other {token : Token} (other : token.operator? = none)
    (front back : List Token) :
    reduce (front ++ token :: back) = reduce front ++ reduce (token :: back) := by
  have stays := reduce_of_not_isOperator other back
  induction front with
  | nil => rfl
  | cons first front ih =>
    rw [List.cons_append]
    cases spells : first.operator? with
    | none =>
      rw [reduce_of_not_isOperator spells, reduce_of_not_isOperator spells, ih]
      rfl
    | some operator =>
      have whole := reduce_operator spells (front ++ token :: back)
      rw [ih] at whole
      rcases reduce_operator spells front with ⟨next, more, reduced, shape⟩ | ⟨noSymbol, shape⟩
      · rw [reduced] at whole
        rcases whole with ⟨same, after, parts, wholeShape⟩ | ⟨absent, -⟩
        · obtain ⟨symbols, rfl⟩ := List.cons.inj parts
          obtain rfl : next = same := Token.symbol.inj symbols
          rw [wholeShape, shape]
          rfl
        · exact absurd rfl (absent next)
      · rcases whole with ⟨next, after, parts, -⟩ | ⟨-, wholeShape⟩
        · cases reduced : reduce front with
          | nil =>
            rw [reduced, List.nil_append, stays] at parts
            obtain ⟨rfl, -⟩ := List.cons.inj parts
            cases other
          | cons head more =>
            rw [reduced] at parts noSymbol
            obtain ⟨rfl, -⟩ := List.cons.inj parts
            exact absurd rfl (noSymbol next)
        · rw [wholeShape, shape]
          rfl

theorem supplyAndFrom_append_closing (afterOperator : Bool) (front back : List Token) :
    supplyAndFrom afterOperator (front ++ .closing :: back) =
      supplyAndFrom afterOperator front ++ .closing :: supplyAnd back := by
  induction front generalizing afterOperator with
  | nil => rfl
  | cons token front ih =>
    rw [List.cons_append]
    unfold supplyAndFrom
    rw [ih, ih]
    split
    · rfl
    · rfl

/-- Both sides of a closing bracket are finished by themselves. -/
theorem finish_append_closing (front back : List Token) :
    finish (front ++ .closing :: back) = finish front ++ .closing :: finish back := by
  unfold finish supplyAnd
  rw [reduce_append_other rfl, reduce_of_not_isOperator rfl, supplyAndFrom_append_closing]
  rfl

/-! ## Groups -/

/-- A group with its operator in front. -/
def prefixedGroup (rule : Operator) (inner : List Token) : List Token :=
  .symbol rule :: .opening :: (inner ++ [.closing])

/-- A group after a run of operators gets the strongest of them. -/
theorem finish_group {run : List Token} (allOperators : ∀ token ∈ run, token.isOperator)
    (inner rest : List Token) :
    finish (run ++ .opening :: (inner ++ .closing :: rest)) =
      prefixedGroup (strongest (operators run)) (finish inner) ++ finish rest := by
  rw [finish_item allOperators rfl, finish_append_closing]
  simp [prefixedGroup]

/-- Only the tokens that are no operators count for brackets. -/
theorem balanced_terms (tokens : List Token) :
    Brackets.Balanced Token.opening Token.closing (terms tokens) ↔
      Brackets.Balanced Token.opening Token.closing tokens :=
  Brackets.balanced_filter rfl rfl tokens

/-- What is left of nested tokens is a forest that can be handed to. -/
theorem exists_forest_dropDangling {tokens : List Token}
    (balanced : Brackets.Balanced Token.opening Token.closing tokens) :
    ∃ forest : Forest, forest.flatten = dropDangling tokens ∧ forest.LevelsOpen := by
  have left : Brackets.Balanced Token.opening Token.closing (dropDangling tokens) := by
    have kept := (balanced_terms tokens).mpr balanced
    rw [← terms_dropDangling] at kept
    exact (balanced_terms _).mp kept
  obtain ⟨forest, flat⟩ := Forest.exists_flatten (left.nested (by simp))
  have chain := isChain_dropDangling tokens
  rw [← flat] at chain
  have ends (left right : Token) (connects : Connects left right) := connects.1
  refine ⟨forest, flat, fun operator connective => ?_, fun operator connective => ?_⟩
  · exact not_startsWith_of_isChain ends connective rfl chain
  · exact groupsOpen_of_isChain ends connective forest chain

/-- On what is left, the other passes work along the forest. -/
theorem passes_eq_finish {tokens : List Token} {forest : Forest}
    (flat : forest.flatten = dropDangling tokens) (levels : forest.LevelsOpen) :
    Pass.runAll Query.structuralPasses tokens = finish (handed forest) := by
  rw [← flatten_handed (levels.opens .or rfl) (levels.starts .or rfl) (levels.opens .and rfl)
    (levels.startsWith_distribute rfl .or), flat]
  rfl

theorem handed_single (inner : Forest) :
    handed inner.single = .opening :: (handed inner ++ [.closing]) := by
  simp [handed, Forest.single, Forest.distribute, Forest.handTo, spellNot, isNot, operator?]

theorem handed_negated (inner : Forest) :
    handed inner.negated = .symbol .not :: .opening :: (handed inner ++ [.closing]) := by
  simp [handed, Forest.negated, Forest.single, Forest.keywordLeaf, Forest.distribute, Forest.handTo,
    Forest.spellLeaf, spellNot, isNot, operator?]

theorem handed_connected {operator : Operator} (connective : operator.isConnective)
    (first second : Forest) :
    handed (Forest.connected operator first second) =
      .symbol operator :: .opening :: (handed first ++ .closing ::
        .symbol operator :: .opening :: (handed second ++ [.closing])) := by
  cases operator with
  | not => cases connective
  | and | or =>
    simp [handed, Forest.connected, Forest.single, Forest.keywordLeaf, Forest.distribute,
      Forest.handTo, Forest.spellLeaf, Forest.symbolLeaf, spellNot, isNot, operator?]

section Groups

variable {tokens others : List Token}
  (balanced : Brackets.Balanced Token.opening Token.closing tokens)
  (othersBalanced : Brackets.Balanced Token.opening Token.closing others)

include balanced

/-- The tokens of a group get the prefixes that they get alone. -/
theorem passes_group :
    Pass.runAll Query.structuralPasses (.opening :: (tokens ++ [.closing])) =
      prefixedGroup .and (Pass.runAll Query.structuralPasses tokens) := by
  obtain ⟨forest, flat, levels⟩ := exists_forest_dropDangling balanced
  have whole : forest.single.flatten = dropDangling (.opening :: (tokens ++ [.closing])) := by
    have start : dropDangling (.opening :: (tokens ++ [.closing])) =
        dropDanglingFrom (some .opening) (tokens ++ [.closing]) := rfl
    rw [start, dropDanglingFrom_group, ← flat]
    rfl
  have noRun : ∀ token ∈ ([] : List Token), token.isOperator := by simp
  rw [passes_eq_finish whole levels.single, passes_eq_finish flat levels, handed_single]
  exact (finish_group noRun _ []).trans (List.append_nil _)

/-- A NOT in front of a group is its operator. -/
theorem passes_negation :
    Pass.runAll Query.structuralPasses (.keyword .not :: .opening :: (tokens ++ [.closing])) =
      prefixedGroup .not (Pass.runAll Query.structuralPasses tokens) := by
  obtain ⟨forest, flat, levels⟩ := exists_forest_dropDangling balanced
  have whole : forest.negated.flatten =
      dropDangling (.keyword .not :: .opening :: (tokens ++ [.closing])) := by
    have start : dropDangling (.keyword .not :: .opening :: (tokens ++ [.closing])) =
        .keyword .not :: dropDanglingFrom (some .opening) (tokens ++ [.closing]) := rfl
    rw [start, dropDanglingFrom_group, ← flat]
    rfl
  have run : ∀ token ∈ [Token.symbol .not], token.isOperator := by simp [isOperator, operator?]
  rw [passes_eq_finish whole levels.negated, passes_eq_finish flat levels, handed_negated]
  exact (finish_group run _ []).trans (List.append_nil _)

include othersBalanced

/-- A connective between two groups is the operator of both. -/
theorem passes_connected {operator : Operator} (connective : operator.isConnective) :
    Pass.runAll Query.structuralPasses (.opening :: (tokens ++ .closing ::
        .keyword operator :: .opening :: (others ++ [.closing]))) =
      prefixedGroup operator (Pass.runAll Query.structuralPasses tokens) ++
        prefixedGroup operator (Pass.runAll Query.structuralPasses others) := by
  obtain ⟨first, firstFlat, firstLevels⟩ := exists_forest_dropDangling balanced
  obtain ⟨second, secondFlat, secondLevels⟩ := exists_forest_dropDangling othersBalanced
  have whole : (Forest.connected operator first second).flatten =
      dropDangling (.opening :: (tokens ++ .closing ::
        .keyword operator :: .opening :: (others ++ [.closing]))) := by
    have start (rest : List Token) : dropDangling (.opening :: rest) =
        dropDanglingFrom (some .opening) rest := rfl
    have joins (rest : List Token) :
        dropDanglingFrom (some .closing) (.keyword operator :: .opening :: rest) =
          .closing :: .keyword operator :: dropDanglingFrom (some .opening) rest := by
      cases operator with
      | and | or => rfl
      | not => cases connective
    rw [start, dropDanglingFrom_group, joins, dropDanglingFrom_group, ← firstFlat, ← secondFlat]
    rfl
  have run : ∀ token ∈ [Token.symbol operator], token.isOperator := by
    simp [isOperator, operator?]
  have rule : strongest (operators [.symbol operator]) = operator := by
    cases operator <;> rfl
  have after (inner rest : List Token) :
      finish (.symbol operator :: .opening :: (inner ++ .closing :: rest)) =
        prefixedGroup operator (finish inner) ++ finish rest := by
    have known := finish_group run inner rest
    rwa [rule] at known
  rw [passes_eq_finish whole (firstLevels.connected secondLevels operator),
    passes_eq_finish firstFlat firstLevels, passes_eq_finish secondFlat secondLevels,
    handed_connected connective, after, after]
  exact congrArg _ (List.append_nil _)

end Groups

end Prefixed

end FullTextQuery
