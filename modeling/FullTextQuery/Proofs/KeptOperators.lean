import FullTextQuery.Proofs.Connectives

/-!
# Operators that are dropped and kept

Dropping operators decides in one walk, with the tokens after an operator still unjudged and those
before it already gone or kept. What comes out of any tokens, nested or not, is part of them with
the same words, phrases and brackets, and each connective in it has both its sides. And it is no
smaller than it has to be: an operator with its sides right beside it in the tokens as they are
given stays, and what comes after it is dropped as if nothing stood before it
(`dropDangling_of_supported`). `dropDangling_keeps` puts these together.
-/

namespace FullTextQuery.Prefixed

open Token

/-- An operator with its sides right beside it: an item that starts on its right and, if it is a
connective, an item that ends on its left. -/
structure Supported (before : List Token) (token : Token) (after : List Token) : Prop where
  /-- It is an operator. -/
  operates : token.isOperator
  /-- An item starts right after it. -/
  starts : after.head?.any startsItem
  /-- An item ends right before a connective. -/
  ends : token.isConnective → before.getLast?.any endsItem

instance (before : List Token) (token : Token) (after : List Token) :
    Decidable (Supported before token after) :=
  decidable_of_iff
    (token.isOperator ∧ after.head?.any startsItem ∧
      (token.isConnective → before.getLast?.any endsItem))
    ⟨fun ⟨operates, starts, ends⟩ => ⟨operates, starts, ends⟩,
      fun ⟨operates, starts, ends⟩ => ⟨operates, starts, ends⟩⟩

/-- A supported operator stays. What is left before it is part of what stood there, and what is left
after it is what would be left of that alone. -/
theorem dropDangling_of_supported {before after : List Token} {token : Token}
    (supported : Supported before token after) :
    ∃ kept : List Token, kept.Sublist before ∧
      dropDangling (before ++ token :: after) = kept ++ token :: dropDangling after := by
  obtain ⟨operates, starts, ends⟩ := supported
  cases after with
  | nil => cases starts
  | cons next rest =>
    obtain ⟨kept, reached, walk⟩ := exists_walk none before (some token)
    -- The walk comes to a connective with the end of the item before it in its hand.
    have hasLeft (connective : token.isConnective) : lacksLeft reached = false := by
      cases isLast : before.getLast? with
      | none =>
        rw [isLast] at ends
        cases ends connective
      | some last =>
        have lastEnds : last.endsItem := by
          rw [isLast] at ends
          exact ends connective
        rw [walk.ends last isLast (operator?_of_endsItem lastEnds)]
        exact lacksLeft_of_endsItem lastEnds
    refine ⟨kept ++ reached.toList, walk.part, ?_⟩
    rw [dropDangling, walk.goesOn (token :: next :: rest) rfl,
      dropDanglingFrom_supported operates hasLeft starts, List.append_assoc]

/-- A connective that is left has an item that ends right before it, and right after it an item that
starts or a NOT. -/
theorem sides_of_dropDangling {tokens before after : List Token} {token : Token}
    (parts : dropDangling tokens = before ++ token :: after) (connective : token.isConnective) :
    before.getLast?.any endsItem ∧ after.head?.any takesOperator := by
  have chain := isChain_dropDangling tokens
  rw [parts] at chain
  obtain ⟨left, right⟩ := neighbours_of_isChain chain
  rw [any_eq_getD endsItem .opening rfl, any_eq_getD takesOperator .closing rfl]
  exact ⟨left.1 connective, right.2 connective⟩

/-- Dropping operators takes away operators only, leaves no connective without its sides and takes
no operator that has them. What is left of any tokens is part of them in their order, with the same
words, phrases and brackets. Each AND and OR in it has an item that ends right before it, and right
after it an item that starts or a NOT. And each AND and OR that stands between the end and the start
of an item, and each NOT right before the start of one, is still there. -/
theorem dropDangling_keeps (tokens : List Token) :
    (dropDangling tokens).Sublist tokens ∧
    terms (dropDangling tokens) = terms tokens ∧
    (∀ before token after, dropDangling tokens = before ++ token :: after → token.isConnective →
      before.getLast?.any endsItem ∧ after.head?.any takesOperator) ∧
    ∀ before token after, tokens = before ++ token :: after → Supported before token after →
      ∃ kept : List Token, kept.Sublist before ∧
        dropDangling tokens = kept ++ token :: dropDangling after := by
  refine ⟨dropDanglingFrom_sublist none tokens, terms_dropDangling tokens,
    fun _ _ _ => sides_of_dropDangling, ?_⟩
  rintro before token after rfl
  exact dropDangling_of_supported

/-- In `a OR NOT AND ( NOT b AND )` the NOT before `b` has its item beside it: it stays, and the
other operators are dropped. -/
theorem dropDangling_keeps_inner_not :
    let before := [operand ['a'], keyword .or, keyword .not, keyword .and, opening]
    let after := [operand ['b'], keyword .and, closing]
    Supported before (keyword .not) after ∧
      dropDangling (before ++ keyword .not :: after) =
        [operand ['a'], opening, keyword .not, operand ['b'], closing] ∧
      ∃ kept : List Token, kept.Sublist before ∧
        dropDangling (before ++ keyword .not :: after) =
          kept ++ keyword .not :: dropDangling after := by
  intro before after
  have supported : Supported before (keyword .not) after := by decide
  obtain ⟨-, -, -, keeps⟩ := dropDangling_keeps (before ++ keyword .not :: after)
  exact ⟨supported, rfl, keeps before (keyword .not) after rfl supported⟩

end FullTextQuery.Prefixed
