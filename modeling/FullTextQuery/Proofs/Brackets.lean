import Mathlib.Data.List.Infix

/-!
# Balanced brackets

Two views of a list in which brackets match, over any kind of token. `Balanced` counts: no start
of the list closes more groups than it opens, and in the end all are closed. `Nested` derives:
the list is empty, begins with a token that is no bracket, or begins with a whole group. Counting
is what a query is checked by; the derivation is what a proof about groups follows.
`balanced_iff_nested` says that the two views agree. The walk between them is `ClosesFrom`: what the
rest of a list still has to count for when some groups are open.
-/

namespace FullTextQuery.Brackets

variable {α : Type} {opening closing : α}

/-- Brackets balance by their counts. -/
structure Balanced [DecidableEq α] (opening closing : α) (tokens : List α) : Prop where
  /-- No start of the list closes more groups than it opens. -/
  closed_le : ∀ front, front <+: tokens → front.count closing ≤ front.count opening
  /-- Every group is closed. -/
  count_eq : tokens.count closing = tokens.count opening

instance [DecidableEq α] (tokens : List α) : Decidable (Balanced opening closing tokens) :=
  decidable_of_iff
    ((∀ front ∈ tokens.inits, front.count closing ≤ front.count opening) ∧
      tokens.count closing = tokens.count opening)
    ⟨fun ⟨closed, same⟩ =>
        ⟨fun front isFront => closed front ((List.mem_inits _ _).mpr isFront), same⟩,
      fun balanced =>
        ⟨fun front isFront => balanced.closed_le front ((List.mem_inits _ _).mp isFront),
          balanced.count_eq⟩⟩

/-- Brackets nest: a derivation of the list from the grammar of groups. -/
inductive Nested (opening closing : α) : List α → Prop
  | nil : Nested opening closing []
  | item {token : α} {rest : List α} :
    token ≠ opening → token ≠ closing → Nested opening closing rest →
    Nested opening closing (token :: rest)
  | group {inner rest : List α} :
    Nested opening closing inner → Nested opening closing rest →
    Nested opening closing (opening :: (inner ++ closing :: rest))

theorem Nested.append {front back : List α} (left : Nested opening closing front)
    (right : Nested opening closing back) : Nested opening closing (front ++ back) := by
  induction left with
  | nil => exact right
  | item notOpening notClosing _ ih => exact .item notOpening notClosing ih
  | group inner _ _ restIH =>
    rw [List.cons_append, List.append_assoc, List.cons_append]
    exact .group inner restIH

/-- `NestedWithin opening closing depth tokens`: brackets nest in `tokens`, save that `depth`
groups are already open; the list closes each of them. -/
inductive NestedWithin (opening closing : α) : Nat → List α → Prop
  | base {tokens : List α} : Nested opening closing tokens → NestedWithin opening closing 0 tokens
  | close {depth : Nat} {inner rest : List α} :
    Nested opening closing inner → NestedWithin opening closing depth rest →
    NestedWithin opening closing (depth + 1) (inner ++ closing :: rest)

theorem NestedWithin.item {depth : Nat} {token : α} {rest : List α}
    (notOpening : token ≠ opening) (notClosing : token ≠ closing)
    (nested : NestedWithin opening closing depth rest) :
    NestedWithin opening closing depth (token :: rest) := by
  cases nested with
  | base nested => exact .base (.item notOpening notClosing nested)
  | close inner outer => exact .close (.item notOpening notClosing inner) outer

/-- A group that is closed at once leaves the open groups as they are. -/
theorem NestedWithin.group {depth : Nat} {inner rest : List α}
    (group : Nested opening closing inner) (nested : NestedWithin opening closing depth rest) :
    NestedWithin opening closing depth (opening :: (inner ++ closing :: rest)) := by
  cases nested with
  | base nested => exact .base (.group group nested)
  | @close depth first rest next outer =>
    have shape : opening :: (inner ++ closing :: (first ++ closing :: rest)) =
        (opening :: (inner ++ closing :: first)) ++ closing :: rest := by simp
    rw [shape]
    exact .close (.group group next) outer

section Counting

variable [DecidableEq α]

/-- After as many closing brackets as opening ones no group is left to close. -/
theorem not_balanced_append_closing (distinct : opening ≠ closing) {front : List α}
    (same : front.count closing = front.count opening) (back : List α) :
    ¬ Balanced opening closing (front ++ closing :: back) := by
  intro balanced
  have bound := balanced.closed_le (front ++ [closing]) ⟨back, by simp⟩
  rw [List.count_append, List.count_append, List.count_singleton_self,
    List.count_cons_of_ne (Ne.symm distinct), List.count_nil] at bound
  omega

/-- Before as many closing brackets as opening ones no group can be opened. -/
theorem not_balanced_append_opening (distinct : opening ≠ closing) (front : List α)
    {back : List α} (same : back.count closing = back.count opening) :
    ¬ Balanced opening closing (front ++ opening :: back) := by
  intro balanced
  have bound := balanced.closed_le front (List.prefix_append _ _)
  have total := balanced.count_eq
  rw [List.count_append, List.count_append, List.count_cons_self,
    List.count_cons_of_ne distinct] at total
  omega

/-- No group closes at the start. -/
theorem Balanced.head?_ne (distinct : opening ≠ closing) {tokens : List α}
    (balanced : Balanced opening closing tokens) : tokens.head? ≠ some closing := by
  cases tokens with
  | nil => simp
  | cons first rest =>
    intro closes
    obtain rfl : first = closing := Option.some.inj closes
    exact not_balanced_append_closing distinct List.count_nil rest balanced

/-- No group opens at the end. -/
theorem Balanced.getLast?_ne (distinct : opening ≠ closing) {tokens : List α}
    (balanced : Balanced opening closing tokens) : tokens.getLast? ≠ some opening := by
  rcases List.eq_nil_or_concat' tokens with rfl | ⟨front, last, rfl⟩
  · simp
  · intro opens
    obtain rfl : last = opening := by simpa using opens
    exact not_balanced_append_opening distinct front List.count_nil balanced

/-- The rest of a list closes `depth` open groups and all of its own. -/
def ClosesFrom (opening closing : α) (depth : Nat) (tokens : List α) : Prop :=
  (∀ front, front <+: tokens → front.count closing ≤ depth + front.count opening) ∧
    tokens.count closing = depth + tokens.count opening

theorem closesFrom_zero {tokens : List α} :
    ClosesFrom opening closing 0 tokens ↔ Balanced opening closing tokens := by
  unfold ClosesFrom
  simp only [Nat.zero_add]
  constructor
  · rintro ⟨closed_le, count_eq⟩
    exact ⟨closed_le, count_eq⟩
  · rintro ⟨closed_le, count_eq⟩
    exact ⟨closed_le, count_eq⟩

theorem closesFrom_nil {depth : Nat} : ClosesFrom opening closing depth [] ↔ depth = 0 := by
  simp [ClosesFrom, eq_comm]

theorem forall_prefix_cons {β : Type} {bound : List β → Prop} (token : β) (rest : List β) :
    (∀ front, front <+: token :: rest → bound front) ↔
      bound [] ∧ ∀ front, front <+: rest → bound (token :: front) := by
  constructor
  · intro all
    refine ⟨all [] List.nil_prefix, fun front isFront => ?_⟩
    exact all _ ((List.prefix_cons_inj token).mpr isFront)
  · rintro ⟨empty, longer⟩ front isFront
    rcases List.prefix_cons_iff.mp isFront with rfl | ⟨more, rfl, isMore⟩
    · exact empty
    · exact longer more isMore

theorem closesFrom_opening (distinct : opening ≠ closing) (depth : Nat) (rest : List α) :
    ClosesFrom opening closing depth (opening :: rest) ↔
      ClosesFrom opening closing (depth + 1) rest := by
  unfold ClosesFrom
  rw [forall_prefix_cons]
  simp only [List.count_cons_self, List.count_cons_of_ne distinct, List.count_nil]
  constructor
  · rintro ⟨⟨-, bound⟩, same⟩
    refine ⟨fun front isFront => ?_, by omega⟩
    have known := bound front isFront
    omega
  · rintro ⟨bound, same⟩
    refine ⟨⟨by omega, fun front isFront => ?_⟩, by omega⟩
    have known := bound front isFront
    omega

theorem closesFrom_closing (distinct : opening ≠ closing) (depth : Nat) (rest : List α) :
    ClosesFrom opening closing depth (closing :: rest) ↔
      depth ≠ 0 ∧ ClosesFrom opening closing (depth - 1) rest := by
  unfold ClosesFrom
  rw [forall_prefix_cons]
  simp only [List.count_cons_self, List.count_cons_of_ne (Ne.symm distinct), List.count_nil]
  constructor
  · rintro ⟨⟨-, bound⟩, same⟩
    have first := bound [] List.nil_prefix
    rw [List.count_nil, List.count_nil] at first
    refine ⟨by omega, fun front isFront => ?_, by omega⟩
    have known := bound front isFront
    omega
  · rintro ⟨opened, bound, same⟩
    refine ⟨⟨by omega, fun front isFront => ?_⟩, by omega⟩
    have known := bound front isFront
    omega

theorem closesFrom_other {token : α} (notOpening : token ≠ opening) (notClosing : token ≠ closing)
    (depth : Nat) (rest : List α) :
    ClosesFrom opening closing depth (token :: rest) ↔ ClosesFrom opening closing depth rest := by
  unfold ClosesFrom
  rw [forall_prefix_cons]
  simp only [List.count_cons_of_ne notOpening, List.count_cons_of_ne notClosing, List.count_nil]
  simp

/-- A list that closes `depth` groups by its counts closes them by a derivation. The induction is
on the list; a bracket changes the depth, so the depth is general. -/
theorem ClosesFrom.nestedWithin (distinct : opening ≠ closing) {depth : Nat} {tokens : List α}
    (closes : ClosesFrom opening closing depth tokens) :
    NestedWithin opening closing depth tokens := by
  induction tokens generalizing depth with
  | nil =>
    obtain rfl := closesFrom_nil.mp closes
    exact .base .nil
  | cons token rest ih =>
    by_cases isOpening : token = opening
    · subst isOpening
      cases ih ((closesFrom_opening distinct depth rest).mp closes) with
      | close group outer => exact .group group outer
    · by_cases isClosing : token = closing
      · subst isClosing
        obtain ⟨opened, outer⟩ := (closesFrom_closing distinct depth rest).mp closes
        obtain ⟨outerDepth, rfl⟩ := Nat.exists_eq_succ_of_ne_zero opened
        exact .close .nil (ih outer)
      · have inside := (closesFrom_other isOpening isClosing depth rest).mp closes
        exact .item isOpening isClosing (ih inside)

/-- Nested brackets change nothing for what comes after them. -/
theorem Nested.closesFrom_append (distinct : opening ≠ closing) {front : List α}
    (nested : Nested opening closing front) (depth : Nat) (rest : List α) :
    ClosesFrom opening closing depth (front ++ rest) ↔
      ClosesFrom opening closing depth rest := by
  induction nested generalizing depth rest with
  | nil => rfl
  | item notOpening notClosing _ ih =>
    rw [List.cons_append, closesFrom_other notOpening notClosing]
    exact ih depth rest
  | @group inner next _ _ innerIH nextIH =>
    have outside : ClosesFrom opening closing (depth + 1) (closing :: (next ++ rest)) ↔
        ClosesFrom opening closing depth (next ++ rest) := by
      rw [closesFrom_closing distinct]
      exact and_iff_right (Nat.succ_ne_zero depth)
    rw [List.cons_append, List.append_assoc, List.cons_append, closesFrom_opening distinct,
      innerIH, outside, nextIH]

/-- Brackets balance exactly if they nest. -/
theorem balanced_iff_nested (distinct : opening ≠ closing) (tokens : List α) :
    Balanced opening closing tokens ↔ Nested opening closing tokens := by
  rw [← closesFrom_zero]
  constructor
  · intro closes
    cases closes.nestedWithin distinct with
    | base nested => exact nested
  · intro nested
    rw [← List.append_nil tokens, nested.closesFrom_append distinct, closesFrom_nil]

/-- Brackets that balance nest. -/
theorem Balanced.nested (distinct : opening ≠ closing) {tokens : List α}
    (balanced : Balanced opening closing tokens) : Nested opening closing tokens :=
  (balanced_iff_nested distinct tokens).mp balanced

/-- Brackets that nest balance. -/
theorem Nested.balanced (distinct : opening ≠ closing) {tokens : List α}
    (nested : Nested opening closing tokens) : Balanced opening closing tokens :=
  (balanced_iff_nested distinct tokens).mpr nested

end Counting

end FullTextQuery.Brackets
