import FullTextQuery.Query.Prefixed
import Mathlib.Data.List.Chain

/-!
# Operators in their place

An operator is well placed if it has something to work on: AND and OR an item that ends on their
left, and every operator an item that starts on its right, or a NOT. The edge of a query acts like
the bracket of a group, so `WellPlaced` is also a condition on neighbours alone, in the tokens put
between two brackets (`WellPlaced.isChain`).
-/

namespace FullTextQuery

namespace Token

/-- A word, a phrase or the start of a group. -/
def startsItem : Token → Bool
  | .operand _ | .phrase _ | .opening => true
  | .keyword _ | .symbol _ | .closing => false

/-- A word, a phrase or the end of a group. -/
def endsItem : Token → Bool
  | .operand _ | .phrase _ | .closing => true
  | .keyword _ | .symbol _ | .opening => false

/-- An operator may stand before the start of an item and before NOT. -/
def takesOperator (token : Token) : Bool :=
  token.startsItem || token.isNot

@[simp]
theorem isConnective_keyword (operator : Operator) :
    (keyword operator).isConnective = operator.isConnective := rfl

section Spelling

variable {token : Token}

theorem isOperator_of_operator? {operator : Operator} (spells : token.operator? = some operator) :
    token.isOperator := by
  rw [isOperator, spells]
  rfl

theorem isConnective_of_operator? {operator : Operator}
    (spells : token.operator? = some operator) :
    token.isConnective = operator.isConnective := by
  rw [isConnective, spells]
  rfl

theorem isNot_of_operator? (spells : token.operator? = some .not) : token.isNot := by
  rw [isNot, spells]
  rfl

theorem isOperator_eq_false (other : token.operator? = none) : token.isOperator = false := by
  rw [isOperator, other]
  rfl

theorem isConnective_eq_false (other : token.operator? = none) : token.isConnective = false := by
  rw [isConnective, other]
  rfl

theorem isNot_eq_false (other : token.operator? = none) : token.isNot = false := by
  rw [isNot, other]
  rfl

end Spelling

/-- The start of an item spells no operator. -/
theorem operator?_of_startsItem {token : Token} (starts : token.startsItem) :
    token.operator? = none := by
  cases token with
  | operand text | phrase text | opening => rfl
  | keyword operator | symbol operator | closing => cases starts

theorem isOperator_of_startsItem {token : Token} (starts : token.startsItem) :
    token.isOperator = false :=
  isOperator_eq_false (operator?_of_startsItem starts)

/-- The end of an item spells no operator. -/
theorem operator?_of_endsItem {token : Token} (ends : token.endsItem) : token.operator? = none := by
  cases token with
  | operand text | phrase text | closing => rfl
  | keyword operator | symbol operator | opening => cases ends

/-- A token that is neither an operator nor the end of a group starts an item. -/
theorem startsItem_of_operator? {token : Token} (other : token.operator? = none)
    (notClosing : token ≠ .closing) : token.startsItem := by
  cases token with
  | operand text | phrase text | opening => rfl
  | keyword operator | symbol operator => cases other
  | closing => exact absurd rfl notClosing

theorem endsItem_of_isOperator {token : Token} (spells : token.isOperator) :
    token.endsItem = false := by
  cases token with
  | keyword operator | symbol operator | opening => rfl
  | operand text | phrase text | closing => cases spells

/-- An operator is a connective or NOT. -/
theorem isOperator_eq (token : Token) :
    token.isOperator = (token.isConnective || token.isNot) := by
  cases token with
  | keyword operator | symbol operator => cases operator <;> rfl
  | operand text | phrase text | opening | closing => rfl

end Token

namespace Prefixed

open Token

/-- Every AND and OR has an item that ends right before it, and every operator an item that starts
right after it, or a NOT. -/
def WellPlaced (tokens : List Token) : Prop :=
  ∀ before token after, tokens = before ++ token :: after →
    (token.isConnective → before.getLast?.any endsItem) ∧
    (token.isOperator → after.head?.any takesOperator)

/-- Two tokens that may be neighbours among well placed operators. -/
def Fits (left right : Token) : Prop :=
  (right.isConnective → left.endsItem) ∧ (left.isOperator → right.takesOperator)

section Neighbours

variable {first last : Token} {tokens : List Token}

/-- Tokens are a chain between two others if each of them has the neighbours it needs, where these
two count as neighbours at the ends. `back` is what a token asks of the one before it, and `ahead`
what it asks of the one after it. -/
theorem isChain_of_neighbours {back ahead : Token → Token → Prop}
    (opens : ahead first (tokens.head?.getD last)) (closes : ∀ token, back token last)
    (neighbours : ∀ before token after, tokens = before ++ token :: after →
      back (before.getLast?.getD first) token ∧ ahead token (after.head?.getD last)) :
    (first :: (tokens ++ [last])).IsChain fun left right => back left right ∧ ahead left right := by
  induction tokens generalizing first with
  | nil => exact .cons_cons ⟨closes first, opens⟩ (.singleton last)
  | cons token rest ih =>
    obtain ⟨left, right⟩ := neighbours [] token rest rfl
    refine .cons_cons ⟨left, opens⟩ (ih right fun before next after parts => ?_)
    have known := neighbours (token :: before) next after (congrArg _ parts)
    rwa [List.getLast?_cons, Option.getD_some] at known

/-- The neighbours of a token that stands in a list, with what stands at the ends of the list. -/
theorem neighbours_of_isChain {related : Token → Token → Prop} {token : Token}
    {before after : List Token}
    (chain : (first :: ((before ++ token :: after) ++ [last])).IsChain related) :
    related (before.getLast?.getD first) token ∧ related token (after.head?.getD last) := by
  rw [List.isChain_iff_forall_rel_of_append_cons_cons] at chain
  constructor
  · rcases List.eq_nil_or_concat' before with rfl | ⟨front, left, rfl⟩
    · exact @chain first token [] (after ++ [last]) (by simp)
    · rw [List.getLast?_concat]
      exact @chain left token (first :: front) (after ++ [last]) (by simp)
  · cases after with
    | nil => exact @chain token last (first :: before) [] (by simp)
    | cons right rest => exact @chain token right (first :: before) (rest ++ [last]) (by simp)

end Neighbours

/-- What an edge does not have, a neighbour has only if there is one. -/
theorem any_eq_getD (p : Token → Bool) (edge : Token) (none : p edge = false)
    (neighbour : Option Token) : neighbour.any p = p (neighbour.getD edge) := by
  cases neighbour with
  | none => exact none.symm
  | some token => rfl

/-- Among well placed operators all neighbours fit, and the edges of the query count as the
brackets of a group. -/
theorem WellPlaced.isChain {tokens : List Token} (placed : WellPlaced tokens) :
    (.opening :: (tokens ++ [.closing])).IsChain Fits := by
  refine isChain_of_neighbours nofun (fun _ => nofun) fun before token after parts => ?_
  rw [← any_eq_getD endsItem .opening rfl, ← any_eq_getD takesOperator .closing rfl]
  exact placed before token after parts

theorem WellPlaced.of_isChain {tokens : List Token}
    (chain : (.opening :: (tokens ++ [.closing])).IsChain Fits) : WellPlaced tokens := by
  intro before token after parts
  rw [parts] at chain
  obtain ⟨left, right⟩ := neighbours_of_isChain chain
  rw [any_eq_getD endsItem .opening rfl, any_eq_getD takesOperator .closing rfl]
  exact ⟨left.1, right.2⟩

/-- Operators are well placed exactly if all neighbours fit. -/
theorem wellPlaced_iff_isChain {tokens : List Token} :
    WellPlaced tokens ↔ (.opening :: (tokens ++ [.closing])).IsChain Fits :=
  ⟨WellPlaced.isChain, WellPlaced.of_isChain⟩

instance (left right : Token) : Decidable (Fits left right) :=
  inferInstanceAs (Decidable (_ ∧ _))

instance (tokens : List Token) : Decidable (WellPlaced tokens) :=
  decidable_of_iff _ wellPlaced_iff_isChain.symm

end Prefixed

end FullTextQuery
