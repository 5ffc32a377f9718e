import FullTextQuery.Proofs.Forest
import FullTextQuery.Proofs.OperatorItems

/-!
# Levels of a forest

Handing a connective out over flat tokens finds the item before a keyword by counting brackets
backwards. On the forest of the tokens that item is the node before the keyword, and nothing has
to be counted. `distribute_flatten_iff` says that the two agree exactly if no level of the forest
begins with the keyword.

One half follows the walk node by node (`distribute_flatten`). The other half compares lengths: the
walk writes one symbol more for every keyword, and the forest one for every keyword that has a node
before it.
-/

namespace FullTextQuery

namespace Forest

/-- The levels inside the groups of a forest, at any depth. -/
def innerLevels : Forest → List Forest
  | .nil => []
  | .leaf _ rest => rest.innerLevels
  | .group inner rest => inner :: (inner.innerLevels ++ rest.innerLevels)

/-- Every level of a forest: the outer one and those inside its groups. -/
def levels (forest : Forest) : List Forest :=
  forest :: forest.innerLevels

variable (operator : Operator)

theorem groupsOpen_iff (forest : Forest) :
    forest.GroupsOpen operator ↔
      ∀ level ∈ forest.innerLevels, level.startsWith operator = false := by
  induction forest with
  | nil => simp [GroupsOpen, innerLevels]
  | leaf token rest ih => exact ih
  | group inner rest innerIH restIH =>
    rw [GroupsOpen, innerLevels, List.forall_mem_cons, List.forall_mem_append, innerIH, restIH]

/-- The symbol in front of a node is one token more. -/
theorem length_flatten_handTo (after node : Forest) :
    (handTo operator after node).flatten.length =
      node.flatten.length + (after.startsWith operator).toNat := by
  rw [handTo]
  cases after.startsWith operator <;> rfl

theorem countP_levels (forest : Forest) :
    forest.levels.countP (startsWith operator) =
      forest.innerLevels.countP (startsWith operator) + (forest.startsWith operator).toNat := by
  rw [levels, List.countP_cons]
  cases forest.startsWith operator <;> rfl

theorem count_flatten_leaf (token : Leaf) (rest : Forest) :
    (leaf token rest).flatten.count (.keyword operator) =
      rest.flatten.count (.keyword operator) + ((leaf token rest).startsWith operator).toNat := by
  rw [flatten_leaf, List.count_cons, startsWith_leaf]
  by_cases isKeyword : token.1 = .keyword operator <;> simp [isKeyword]

theorem count_flatten_group (inner rest : Forest) :
    (group inner rest).flatten.count (.keyword operator) =
      inner.flatten.count (.keyword operator) + rest.flatten.count (.keyword operator) := by
  simp [List.count_append]

/-- Every keyword adds a symbol, save one that begins a level. -/
theorem length_flatten_distribute (forest : Forest) :
    (forest.distribute operator).flatten.length + forest.levels.countP (startsWith operator) =
      forest.flatten.length + forest.flatten.count (.keyword operator) := by
  induction forest with
  | nil => rfl
  | leaf token rest ih =>
    rw [countP_levels] at ih ⊢
    rw [distribute, length_flatten_handTo, count_flatten_leaf, innerLevels, flatten_leaf,
      flatten_leaf, List.length_cons, List.length_cons]
    omega
  | group inner rest innerIH restIH =>
    rw [countP_levels] at innerIH restIH ⊢
    have inside : (group inner rest).innerLevels = inner.levels ++ rest.innerLevels := rfl
    rw [distribute, length_flatten_handTo, count_flatten_group, inside, List.countP_append,
      countP_levels, startsWith_group, flatten_group, flatten_group]
    simp only [List.length_cons, List.length_append, Bool.toNat_false]
    omega

end Forest

namespace Prefixed

variable (operator : Operator)

/-- A keyword is written as two symbols, and any other token once. -/
theorem length_handOut (written : List Token) (token : Token) :
    (handOut operator written token).length =
      written.length + 1 + [token].count (.keyword operator) := by
  by_cases isKeyword : token = .keyword operator
  · subst isKeyword
    have parts := congrArg List.length (splitItem_append 0 written)
    rw [List.length_append] at parts
    rw [handOut_keyword, markLast, List.length_cons, List.length_append, List.length_cons,
      List.count_singleton_self]
    omega
  · rw [handOut_other isKeyword, List.length_cons, List.count_singleton, if_neg (by simpa)]

theorem length_foldl_handOut (tokens written : List Token) :
    (tokens.foldl (handOut operator) written).length =
      written.length + tokens.length + tokens.count (.keyword operator) := by
  induction tokens generalizing written with
  | nil => rfl
  | cons token rest ih =>
    have parts : token :: rest = [token] ++ rest := rfl
    rw [List.foldl_cons, ih, length_handOut, parts, List.count_append, List.length_append,
      List.length_singleton]
    omega

/-- Handing a connective out writes one symbol more for every keyword. -/
theorem length_distribute (tokens : List Token) :
    (distribute operator tokens).length = tokens.length + tokens.count (.keyword operator) := by
  rw [distribute, List.length_reverse, length_foldl_handOut, List.length_nil, Nat.zero_add]

/-- Handing an operator out over the flat form of a forest is handing it out on the forest, level by
level and at any depth, exactly if no level begins with its keyword. -/
theorem distribute_flatten_iff (forest : Forest) :
    distribute operator forest.flatten = (forest.distribute operator).flatten ↔
      ∀ level ∈ forest.levels, level.startsWith operator = false := by
  constructor
  · intro same level member
    have walked := length_distribute operator forest.flatten
    have grown := Forest.length_flatten_distribute operator forest
    rw [same] at walked
    have none : forest.levels.countP (Forest.startsWith operator) = 0 := by omega
    exact Bool.eq_false_iff.mpr (List.countP_eq_zero.mp none level member)
  · intro closed
    rw [Forest.levels, List.forall_mem_cons] at closed
    exact distribute_flatten ((Forest.groupsOpen_iff operator forest).mpr closed.2) closed.1

/-- Where a group begins with the keyword, the bracket before it is what gets the symbol. -/
example (inner : Text) :
    distribute .and [.opening, .keyword .and, .operand inner, .closing] =
      [.symbol .and, .opening, .symbol .and, .operand inner, .closing] := rfl

end Prefixed

end FullTextQuery
