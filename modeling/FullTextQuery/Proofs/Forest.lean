import FullTextQuery.Proofs.Brackets
import FullTextQuery.Query.Prefixed

/-!
# Forests of tokens

A list of tokens in which brackets nest is the flat form of a forest: each node is a token that is
no bracket, or a group with a forest of its own. `Forest.distribute` hands out a connective on the
forest, where the item before a keyword is simply the node before it. `distribute_flatten` says
that the walk over the flat list, which finds that item by counting brackets backwards, does the
same.
-/

namespace FullTextQuery

/-- A token that is no bracket. -/
abbrev Leaf := { token : Token // token ≠ .opening ∧ token ≠ .closing }

/-- The nodes of one level, in order. -/
inductive Forest where
  /-- No node. -/
  | nil
  /-- A token and the nodes after it. -/
  | leaf (token : Leaf) (rest : Forest)
  /-- A group and the nodes after it. -/
  | group (inner rest : Forest)

namespace Forest

/-- The tokens of a forest in order, with the brackets of its groups. -/
def flatten : Forest → List Token
  | .nil => []
  | .leaf token rest => token.1 :: rest.flatten
  | .group inner rest => .opening :: (inner.flatten ++ .closing :: rest.flatten)

@[simp]
theorem flatten_nil : nil.flatten = [] := rfl

@[simp]
theorem flatten_leaf (token : Leaf) (rest : Forest) :
    (leaf token rest).flatten = token.1 :: rest.flatten := rfl

@[simp]
theorem flatten_group (inner rest : Forest) :
    (group inner rest).flatten = .opening :: (inner.flatten ++ .closing :: rest.flatten) := rfl

/-- Tokens in which brackets nest are the flat form of a forest. -/
theorem exists_flatten {tokens : List Token}
    (nested : Brackets.Nested Token.opening Token.closing tokens) :
    ∃ forest : Forest, forest.flatten = tokens := by
  induction nested with
  | nil => exact ⟨.nil, rfl⟩
  | @item token rest notOpening notClosing _ ih =>
    obtain ⟨forest, rfl⟩ := ih
    exact ⟨.leaf ⟨token, notOpening, notClosing⟩ forest, rfl⟩
  | group _ _ innerIH restIH =>
    obtain ⟨inner, rfl⟩ := innerIH
    obtain ⟨rest, rfl⟩ := restIH
    exact ⟨.group inner rest, rfl⟩

/-! ## Connectives on a forest -/

variable (operator : Operator)

/-- Whether the first node is the keyword of an operator. -/
def startsWith : Forest → Bool
  | .leaf token _ => token.1 = .keyword operator
  | _ => false

@[simp]
theorem startsWith_nil : nil.startsWith operator = false := rfl

@[simp]
theorem startsWith_leaf (token : Leaf) (rest : Forest) :
    (leaf token rest).startsWith operator = decide (token.1 = .keyword operator) := rfl

@[simp]
theorem startsWith_group (inner rest : Forest) :
    (group inner rest).startsWith operator = false := rfl

/-- The symbol of an operator as a leaf. -/
def symbolLeaf : Leaf := ⟨.symbol operator, by simp⟩

/-- A leaf, or the symbol instead of the keyword of an operator. -/
def spellLeaf (token : Leaf) : Leaf :=
  if token.1 = .keyword operator then symbolLeaf operator else token

@[simp]
theorem spellLeaf_symbolLeaf (other : Operator) :
    spellLeaf operator (symbolLeaf other) = symbolLeaf other := by
  simp [spellLeaf, symbolLeaf]

/-- Spelling a keyword by its symbol keeps the operator. -/
theorem operator?_spellLeaf (token : Leaf) :
    (spellLeaf operator token).1.operator? = token.1.operator? := by
  rw [spellLeaf]
  split
  · rename_i isKeyword
    rw [isKeyword]
    rfl
  · rfl

/-- The symbol goes in front of a node if the keyword comes right after the node. -/
def handTo (after node : Forest) : Forest :=
  if after.startsWith operator then .leaf (symbolLeaf operator) node else node

/-- Hands a connective out on every level: its keyword becomes its symbol, and the node before
the keyword, a whole group if it is one, gets the symbol too. -/
def distribute : Forest → Forest
  | .nil => .nil
  | .leaf token rest => handTo operator rest (.leaf (spellLeaf operator token) rest.distribute)
  | .group inner rest => handTo operator rest (.group inner.distribute rest.distribute)

/-- No group inside begins with the keyword of an operator. -/
def GroupsOpen : Forest → Prop
  | .nil => True
  | .leaf _ rest => rest.GroupsOpen
  | .group inner rest => inner.startsWith operator = false ∧ inner.GroupsOpen ∧ rest.GroupsOpen

variable {operator}

/-- Handing a connective out puts no other keyword first. -/
theorem startsWith_of_distribute {other : Operator} {forest : Forest}
    (starts : (forest.distribute operator).startsWith other) : forest.startsWith other := by
  cases forest with
  | nil => cases starts
  | leaf token rest =>
    rw [distribute, handTo] at starts
    split at starts
    · cases starts
    · rw [startsWith_leaf, decide_eq_true_eq, spellLeaf] at starts
      split at starts
      · cases starts
      · rw [startsWith_leaf, decide_eq_true_eq]
        exact starts
  | group inner rest =>
    rw [distribute, handTo] at starts
    split at starts
    · cases starts
    · cases starts

/-- Where no group begins with a keyword, none does after another connective is handed out. -/
theorem GroupsOpen.distribute {other : Operator} {forest : Forest}
    (opens : forest.GroupsOpen other) : (forest.distribute operator).GroupsOpen other := by
  induction forest with
  | nil => trivial
  | leaf token rest ih =>
    rw [Forest.distribute, handTo]
    split <;> exact ih opens
  | group inner rest innerIH restIH =>
    obtain ⟨innerStarts, innerOpens, restOpens⟩ := opens
    have noneFirst : (inner.distribute operator).startsWith other = false := by
      refine Bool.eq_false_iff.mpr fun starts => ?_
      rw [startsWith_of_distribute starts] at innerStarts
      cases innerStarts
    rw [Forest.distribute, handTo]
    split <;> exact ⟨noneFirst, innerIH innerOpens, restIH restOpens⟩

end Forest

namespace Prefixed

open Token

/-! ## The backward scan -/

/-- A closing bracket opens one more group for the scan. -/
theorem splitItem_closing (depth : Nat) (written : List Token) :
    splitItem depth (.closing :: written) =
      (.closing :: (splitItem (depth + 1) written).1, (splitItem (depth + 1) written).2) := by
  simp [splitItem]

/-- An opening bracket that leaves groups open is inside the item. -/
theorem splitItem_opening (depth : Nat) (written : List Token) :
    splitItem (depth + 2) (.opening :: written) =
      (.opening :: (splitItem (depth + 1) written).1, (splitItem (depth + 1) written).2) := by
  simp [splitItem]

theorem splitItem_leaf (token : Leaf) (depth : Nat) (written : List Token) :
    splitItem (depth + 1) (token.1 :: written) =
      (token.1 :: (splitItem (depth + 1) written).1, (splitItem (depth + 1) written).2) := by
  obtain ⟨token, notOpening, notClosing⟩ := token
  cases token with
  | opening => exact absurd rfl notOpening
  | closing => exact absurd rfl notClosing
  | operand text | phrase text => simp [splitItem]
  | keyword operator | symbol operator => simp [splitItem]

/-- Reading a whole forest backwards inside a group leaves the group open, so the scan goes on to
what was written before the forest. -/
theorem splitItem_forest (forest : Forest) (depth : Nat) (written : List Token) :
    splitItem (depth + 1) (forest.flatten.reverse ++ written) =
      (forest.flatten.reverse ++ (splitItem (depth + 1) written).1,
        (splitItem (depth + 1) written).2) := by
  induction forest generalizing depth written with
  | nil => rfl
  | leaf token rest ih =>
    rw [Forest.flatten_leaf, List.reverse_cons, List.append_assoc, ih, List.singleton_append,
      splitItem_leaf]
    simp
  | group inner rest innerIH restIH =>
    have shape : (Forest.group inner rest).flatten.reverse ++ written =
        rest.flatten.reverse ++ .closing :: (inner.flatten.reverse ++ .opening :: written) := by
      simp
    rw [shape, restIH, splitItem_closing, innerIH, splitItem_opening]
    simp

/-- A group that has just been written is the item that a connective after it works on. -/
theorem splitItem_group (inner : Forest) (written : List Token) :
    splitItem 0 (.closing :: (inner.flatten.reverse ++ .opening :: written)) =
      (.closing :: (inner.flatten.reverse ++ [.opening]), written) := by
  rw [splitItem_closing, splitItem_forest]
  simp [splitItem]

/-- A token that closes no group is an item by itself. -/
theorem splitItem_token {token : Token} (notClosing : token ≠ .closing) (written : List Token) :
    splitItem 0 (token :: written) = ([token], written) := by
  cases token with
  | closing => exact absurd rfl notClosing
  | opening => rfl
  | operand text | phrase text => rfl
  | keyword operator | symbol operator => rfl

/-! ## Handing out -/

variable {operator : Operator}

/-- The last item of a list that is written backwards gets the symbol of an operator. -/
def markLast (operator : Operator) (written : List Token) : List Token :=
  (splitItem 0 written).1 ++ .symbol operator :: (splitItem 0 written).2

theorem markLast_token {token : Token} (notClosing : token ≠ .closing) (written : List Token) :
    markLast operator (token :: written) = token :: .symbol operator :: written := by
  rw [markLast, splitItem_token notClosing]
  rfl

theorem markLast_group (inner : Forest) (written : List Token) :
    markLast operator (.closing :: (inner.flatten.reverse ++ .opening :: written)) =
      .closing :: (inner.flatten.reverse ++ .opening :: .symbol operator :: written) := by
  rw [markLast, splitItem_group]
  simp

theorem handOut_keyword (written : List Token) :
    handOut operator written (.keyword operator) =
      .symbol operator :: markLast operator written := by
  simp [handOut, markLast]

theorem handOut_other {token : Token} (other : token ≠ .keyword operator)
    (written : List Token) : handOut operator written token = token :: written := by
  simp [handOut, other]

/-- One walk over a forest writes the forest with the connective handed out. What stands before
the forest is touched only if the forest begins with the keyword; then its last item gets the
symbol. -/
theorem foldl_handOut_forest (forest : Forest) (opens : forest.GroupsOpen operator)
    (written : List Token) :
    forest.flatten.foldl (handOut operator) written =
      (forest.distribute operator).flatten.reverse ++
        (if forest.startsWith operator then markLast operator written else written) := by
  induction forest generalizing written with
  | nil => rfl
  | leaf token rest ih =>
    rw [Forest.flatten_leaf, List.foldl_cons, Forest.distribute, Forest.handTo]
    by_cases isKeyword : token.1 = .keyword operator
    · rw [isKeyword, handOut_keyword, ih opens, markLast_token (by simp)]
      have spelled : Forest.spellLeaf operator token = Forest.symbolLeaf operator := by
        simp [Forest.spellLeaf, isKeyword]
      rw [spelled]
      cases rest.startsWith operator <;> simp [Forest.symbolLeaf, isKeyword]
    · rw [handOut_other isKeyword, ih opens, markLast_token token.2.2]
      have spelled : Forest.spellLeaf operator token = token := by
        simp [Forest.spellLeaf, isKeyword]
      rw [spelled]
      cases rest.startsWith operator <;> simp [Forest.symbolLeaf, isKeyword]
  | group inner rest innerIH restIH =>
    obtain ⟨innerStarts, innerOpens, restOpens⟩ := opens
    have walkInner := innerIH innerOpens (.opening :: written)
    rw [innerStarts, if_neg (by simp)] at walkInner
    rw [Forest.flatten_group, List.foldl_cons, List.foldl_append, List.foldl_cons,
      @handOut_other operator .opening (by simp), walkInner, handOut_other (by simp),
      restIH restOpens, markLast_group, Forest.distribute, Forest.handTo]
    cases rest.startsWith operator <;> simp [Forest.symbolLeaf]

/-- Handing a connective out over the flat list is handing it out on the forest, if its keyword
begins no level. -/
theorem distribute_flatten {forest : Forest} (opens : forest.GroupsOpen operator)
    (starts : forest.startsWith operator = false) :
    distribute operator forest.flatten = (forest.distribute operator).flatten := by
  rw [distribute, foldl_handOut_forest forest opens, starts]
  simp

end Prefixed

end FullTextQuery
