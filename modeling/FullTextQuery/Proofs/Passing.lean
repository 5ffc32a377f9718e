import FullTextQuery.Text
import Mathlib.Data.List.Chain

/-!
# Steps that leave text

A step on text changes it only where two neighbours call for it: a blank next to a blank, a space
next to a bracket. So a step leaves a text without such neighbours (`step_eq_self`), and trimming
leaves a text without blanks at its ends.
-/

namespace FullTextQuery.Text

theorem visible_ne_blank {c blank : Char} (visible : Character.isBlank c = false)
    (isBlank : Character.isBlank blank) : c ≠ blank := by
  rintro rfl
  rw [visible] at isBlank
  cases isBlank

/-- A step that changes text only where a character and the next one are `bad` leaves a text
without such neighbours. -/
theorem step_eq_self {step : Text → Text} {bad : Char → Char → Prop} (none : step [] = [])
    (keeps : ∀ c rest, (∀ next ∈ rest.head?, ¬ bad c next) → step (c :: rest) = c :: step rest)
    {text : Text} (chain : text.IsChain fun left right => ¬ bad left right) :
    step text = text := by
  induction text with
  | nil => exact none
  | cons c rest ih => rw [keeps c rest (List.isChain_cons.mp chain).1, ih chain.tail]

theorem squeezeBlanksFrom_cons {c : Char} {rest : Text}
    (good : ∀ next ∈ rest.head?, ¬ (Character.isBlank c ∧ Character.isBlank next)) :
    squeezeBlanksFrom false (c :: rest) = c :: squeezeBlanksFrom false rest := by
  rw [squeezeBlanksFrom]
  split
  case isFalse => rfl
  case isTrue blank =>
    have lone : ¬ rest.head?.any Character.isBlank := by
      cases rest with
      | nil => simp
      | cons next rest => simpa [blank] using good next rfl
    rw [if_neg (by simp), if_neg lone]

theorem trimStart_eq_self {text : Text}
    (first : ∀ c ∈ text.head?, Character.isBlank c = false) : trimStart text = text := by
  cases text with
  | nil => rfl
  | cons c rest => rw [trimStart, List.dropWhile_cons, if_neg (by simp [first c rfl])]

theorem trimEnd_eq_self {text : Text}
    (last : ∀ c ∈ text.getLast?, Character.isBlank c = false) : trimEnd text = text := by
  induction text with
  | nil => rfl
  | cons c rest ih =>
    cases rest with
    | nil => simp [trimEnd, last c rfl]
    | cons next rest =>
      rw [List.getLast?_cons_cons] at last
      rw [trimEnd, ih last]

end FullTextQuery.Text
