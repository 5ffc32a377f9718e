import FullTextQuery.Proofs.BracketsKept

/-!
# Matching brackets

The check of brackets keeps one number, and the walk that hands a connective to a group looks for
the bracket that opens it. What joins the two is the derivation: a list passes the check exactly if
it is derived from the grammar of groups, and then every bracket has one partner. Two brackets are
partners, `Matches`, if the tokens between them nest.

* `Nested.exists_matches`: every bracket of a derivation belongs to a pair.
* `Matches.first_le`, `Matches.last_le`: no bracket has a second partner, in any list.
* `bracketsBalance_iff_nested`: the check, the derivation and the partners.
* `splitItem_of_matches`: the walk backwards from a bracket ends at its partner.
-/

namespace FullTextQuery

namespace Brackets

variable {α : Type} {opening closing : α} {tokens : List α}

/-! ## Between two places -/

/-- The tokens between two places of a list, neither of them included. -/
def between (tokens : List α) (first last : Nat) : List α :=
  (tokens.take last).drop (first + 1)

theorem take_eq_append_between {place last : Nat} {token : α}
    (stands : tokens[place]? = some token) (before : place < last) :
    tokens.take last = tokens.take place ++ token :: between tokens place last := by
  have kept : (tokens.take last)[place]? = some token := by
    rwa [List.getElem?_take_of_lt before]
  obtain ⟨inside, isToken⟩ := List.getElem?_eq_some_iff.mp kept
  calc tokens.take last
    _ = (tokens.take last).take place ++ (tokens.take last).drop place :=
      (List.take_append_drop place _).symm
    _ = tokens.take place ++ token :: between tokens place last := by
      rw [List.take_take, Nat.min_eq_left before.le, List.drop_eq_getElem_cons inside, isToken,
        between]

/-- A token between two places parts the tokens between them. -/
theorem between_eq_append {first middle last : Nat} {token : α}
    (stands : tokens[middle]? = some token) (after : first < middle) (before : middle < last) :
    between tokens first last =
      between tokens first middle ++ token :: between tokens middle last := by
  obtain ⟨inside, -⟩ := List.getElem?_eq_some_iff.mp stands
  have reached : first + 1 ≤ (tokens.take middle).length := by
    rw [List.length_take]
    omega
  rw [between, take_eq_append_between stands before, List.drop_append_of_le_length reached]
  rfl

/-! ## Pairs -/

/-- The brackets at two places of a list are partners: what stands between them nests. -/
structure Matches (opening closing : α) (tokens : List α) (first last : Nat) : Prop where
  /-- A group is opened at the first place. -/
  opens : tokens[first]? = some opening
  /-- A group is closed at the last place. -/
  closes : tokens[last]? = some closing
  /-- The group is opened before it is closed. -/
  before : first < last
  /-- Every group that is opened inside is closed inside, and none other. -/
  nests : Nested opening closing (between tokens first last)

theorem Matches.cons {first last : Nat} (pair : Matches opening closing tokens first last)
    (token : α) : Matches opening closing (token :: tokens) (first + 1) (last + 1) where
  opens := pair.opens
  closes := pair.closes
  before := Nat.succ_lt_succ pair.before
  nests := pair.nests

/-- What comes before a pair moves its places. -/
theorem Matches.append_left {first last : Nat} (pair : Matches opening closing tokens first last)
    (front : List α) :
    Matches opening closing (front ++ tokens) (front.length + first) (front.length + last) := by
  induction front with
  | nil => simpa using pair
  | cons token front ih =>
    rw [List.length_cons, Nat.add_right_comm, Nat.add_right_comm front.length 1 last]
    exact ih.cons token

/-- What comes after a pair does not count. -/
theorem Matches.append_right {first last : Nat} (pair : Matches opening closing tokens first last)
    (back : List α) : Matches opening closing (tokens ++ back) first last := by
  obtain ⟨opens, closes, before, nests⟩ := pair
  obtain ⟨inside, -⟩ := List.getElem?_eq_some_iff.mp closes
  have same : between (tokens ++ back) first last = between tokens first last := by
    rw [between, List.take_append_of_le_length inside.le, between]
  refine ⟨?_, ?_, before, same ▸ nests⟩
  · rwa [List.getElem?_append_left (before.trans inside)]
  · rwa [List.getElem?_append_left inside]

/-- The brackets of the group that a list begins with. -/
theorem Nested.matches_group {inner : List α} (nested : Nested opening closing inner)
    (rest : List α) :
    Matches opening closing (opening :: (inner ++ closing :: rest)) 0 (inner.length + 1) where
  opens := rfl
  closes := by simp
  before := Nat.succ_pos _
  nests := by simpa [between] using nested

/-- Every bracket of a derivation belongs to a pair. The induction is on the derivation: a bracket
is one of the outer two of a group, or it stands inside the group or after it. -/
theorem Nested.exists_matches (nested : Nested opening closing tokens) {place : Nat} {bracket : α}
    (isBracket : bracket = opening ∨ bracket = closing) (stands : tokens[place]? = some bracket) :
    ∃ first last, Matches opening closing tokens first last ∧ (place = first ∨ place = last) := by
  induction nested generalizing place with
  | nil => cases stands
  | @item token rest notOpening notClosing _ ih =>
    cases place with
    | zero =>
      obtain rfl : token = bracket := Option.some.inj stands
      exact absurd isBracket (not_or.mpr ⟨notOpening, notClosing⟩)
    | succ place =>
      obtain ⟨first, last, pair, here⟩ := ih stands
      exact ⟨first + 1, last + 1, pair.cons token, by omega⟩
  | @group inner rest innerNested _ innerIH restIH =>
    have outer := innerNested.matches_group rest
    rcases Nat.lt_trichotomy place (inner.length + 1) with inside | isLast | outside
    · cases place with
      | zero => exact ⟨0, _, outer, .inl rfl⟩
      | succ place =>
        rw [List.getElem?_cons_succ, List.getElem?_append_left (by omega)] at stands
        obtain ⟨first, last, pair, here⟩ := innerIH stands
        exact ⟨first + 1, last + 1, (pair.append_right _).cons opening, by omega⟩
    · exact ⟨0, _, outer, .inr isLast⟩
    · have shape : opening :: (inner ++ closing :: rest) =
          (opening :: (inner ++ [closing])) ++ rest := by simp
      have length : (opening :: (inner ++ [closing])).length = inner.length + 2 := by simp
      rw [shape, List.getElem?_append_right (by omega)] at stands
      obtain ⟨first, last, pair, here⟩ := restIH stands
      rw [shape]
      exact ⟨_, _, pair.append_left _, by omega⟩

/-! ## One partner -/

section Counting

variable [DecidableEq α]

/-- No partner of an opening bracket stands beyond another: the tokens up to the farther one would
close a group that they do not open. -/
theorem Matches.last_le (distinct : opening ≠ closing) {first last other : Nat}
    (pair : Matches opening closing tokens first last)
    (otherPair : Matches opening closing tokens first other) : last ≤ other := by
  by_contra farther
  have same := (otherPair.nests.balanced distinct).count_eq
  have longer := pair.nests.balanced distinct
  rw [between_eq_append otherPair.closes otherPair.before (Nat.lt_of_not_le farther)] at longer
  exact not_balanced_append_closing distinct same _ longer

/-- No partner of a closing bracket stands before another: the tokens from the farther one on would
open a group that they do not close. -/
theorem Matches.first_le (distinct : opening ≠ closing) {first other last : Nat}
    (pair : Matches opening closing tokens first last)
    (otherPair : Matches opening closing tokens other last) : first ≤ other := by
  by_contra farther
  have same := (pair.nests.balanced distinct).count_eq
  have longer := otherPair.nests.balanced distinct
  rw [between_eq_append pair.opens (Nat.lt_of_not_le farther) pair.before] at longer
  exact not_balanced_append_opening distinct _ same longer

/-- In a list that nests, every bracket that closes a group has exactly one partner. -/
theorem Nested.existsUnique_opening (distinct : opening ≠ closing)
    (nested : Nested opening closing tokens) {last : Nat} (closes : tokens[last]? = some closing) :
    ∃! first, Matches opening closing tokens first last := by
  obtain ⟨first, found, pair, isFirst | isLast⟩ := nested.exists_matches (.inr rfl) closes
  · rw [isFirst, pair.opens] at closes
    exact absurd (Option.some.inj closes) distinct
  · subst isLast
    exact ⟨first, pair, fun other otherPair =>
      Nat.le_antisymm (otherPair.first_le distinct pair) (pair.first_le distinct otherPair)⟩

/-- In a list that nests, every bracket that opens a group has exactly one partner. -/
theorem Nested.existsUnique_closing (distinct : opening ≠ closing)
    (nested : Nested opening closing tokens) {first : Nat} (opens : tokens[first]? = some opening) :
    ∃! last, Matches opening closing tokens first last := by
  obtain ⟨found, last, pair, isFirst | isLast⟩ := nested.exists_matches (.inl rfl) opens
  · subst isFirst
    exact ⟨last, pair, fun other otherPair =>
      Nat.le_antisymm (otherPair.last_le distinct pair) (pair.last_le distinct otherPair)⟩
  · rw [isLast, pair.closes] at opens
    exact absurd (Option.some.inj opens).symm distinct

end Counting

end Brackets

namespace Prefixed

open Brackets

/-- The walk backwards from a bracket that closes a group ends at the partner of the bracket. -/
theorem splitItem_of_matches {tokens : List Token} {first last : Nat}
    (pair : Matches Token.opening Token.closing tokens first last) :
    splitItem 0 (tokens.take (last + 1)).reverse =
      (((tokens.take (last + 1)).drop first).reverse, (tokens.take first).reverse) := by
  obtain ⟨inner, isInner⟩ := Forest.exists_flatten pair.nests
  have written : tokens.take (last + 1) =
      tokens.take first ++ (.opening :: (inner.flatten ++ [.closing])) := by
    rw [List.take_add_one, pair.closes, take_eq_append_between pair.opens pair.before, isInner]
    simp
  obtain ⟨inside, -⟩ := List.getElem?_eq_some_iff.mp pair.opens
  have length : (tokens.take first).length = first := by
    rw [List.length_take, Nat.min_eq_left inside.le]
  have backwards : (tokens.take (last + 1)).reverse =
      .closing :: (inner.flatten.reverse ++ .opening :: (tokens.take first).reverse) := by
    rw [written]
    simp
  rw [backwards, splitItem_group, written, List.drop_left' length]
  simp

end Prefixed

namespace Term

open Brackets

instance (terms : List Text) : Decidable (Nested opening closing terms) :=
  decidable_of_iff _ (balanced_iff_nested (by decide) terms)

instance (terms : List Text) (first last : Nat) :
    Decidable (Matches opening closing terms first last) :=
  decidable_of_iff
    (terms[first]? = some opening ∧ terms[last]? = some closing ∧ first < last ∧
      Nested opening closing (between terms first last))
    ⟨fun ⟨opens, closes, before, nests⟩ => ⟨opens, closes, before, nests⟩,
      fun ⟨opens, closes, before, nests⟩ => ⟨opens, closes, before, nests⟩⟩

/-- The check of brackets recognises the grammar of groups: it passes exactly the lists that are
empty, or a term that is no bracket and such a list, or such a list in brackets and another one. So
in a list that passes, every bracket that closes a group has exactly one that opens it, and the
other way round. -/
theorem bracketsBalance_iff_nested (terms : List Text) :
    (bracketsBalance terms ↔ Nested opening closing terms) ∧
    (bracketsBalance terms →
      (∀ last, terms[last]? = some closing →
        ∃! first, Matches opening closing terms first last) ∧
      (∀ first, terms[first]? = some opening →
        ∃! last, Matches opening closing terms first last)) := by
  have distinct : opening ≠ closing := by decide
  have derives : bracketsBalance terms ↔ Nested opening closing terms :=
    (bracketsBalance_iff_balanced terms).trans (balanced_iff_nested distinct terms)
  refine ⟨derives, fun balance => ?_⟩
  have nested := derives.mp balance
  exact ⟨fun last closes => nested.existsUnique_opening distinct closes,
    fun first opens => nested.existsUnique_closing distinct opens⟩

/-- A group in a group and a group after them; the bracket in a phrase has no part in it. -/
theorem bracketsBalance_iff_nested_groups :
    let terms := [['('], ['a'], ['('], ['b'], [')'], "\")\"".toList, [')'], ['('], [')']]
    bracketsBalance terms ∧ Nested opening closing terms ∧
      (∀ first, Matches opening closing terms first 6 ↔ first = 0) ∧
      (∀ last, Matches opening closing terms 2 last ↔ last = 4) := by
  intro terms
  have balance : bracketsBalance terms := by decide
  obtain ⟨derives, partners⟩ := bracketsBalance_iff_nested terms
  obtain ⟨opened, closed⟩ := partners balance
  refine ⟨balance, derives.mp balance, fun first => ?_, fun last => ?_⟩
  · have outer : Matches opening closing terms 0 6 := by decide
    constructor
    · intro pair
      exact (opened 6 rfl).unique pair outer
    · rintro rfl
      exact outer
  · have inner : Matches opening closing terms 2 4 := by decide
    constructor
    · intro pair
      exact (closed 2 rfl).unique pair inner
    · rintro rfl
      exact inner

end Term

end FullTextQuery
