import FullTextQuery.Proofs.Marks

/-!
# Loosened texts

Every step of cleaning that drops or writes characters only loosens a text (`Loosens`): it writes
spaces, and drops characters at the start of the text or at its end, after a blank or before one. So
what stands together in its result stood together before (`Loosens.word_isInfix`).
-/

namespace FullTextQuery

namespace Text

/-- What is left of a text if characters are dropped beside blanks and spaces are written. `apart`
says that nothing visible has been written right before it. -/
inductive Loosens : Bool → Text → Text → Prop where
  /-- The text ends. -/
  | nil {apart : Bool} : Loosens apart [] []
  /-- A character is kept. -/
  | keep {apart : Bool} {c : Char} {text left : Text}
    (rest : Loosens (Character.isBlank c) text left) :
    Loosens apart (c :: text) (c :: left)
  /-- A space is written. -/
  | space {apart : Bool} {text left : Text} (rest : Loosens true text left) :
    Loosens apart text (' ' :: left)
  /-- A character is dropped after a blank or at the start. -/
  | dropAfter {c : Char} {text left : Text} (rest : Loosens true text left) :
    Loosens true (c :: text) left
  /-- A character is dropped before a blank or at the end. -/
  | dropBefore {apart : Bool} {c : Char} {text left : Text} (rest : Loosens apart text left)
      (blank : ∀ next ∈ left.head?, Character.isBlank next) :
    Loosens apart (c :: text) left

namespace Loosens

variable {word text left : Text}

/-- Characters in a row without a blank among them were in a row before. At the start of what is
left they stood at the start of the text, if something visible comes before it. -/
theorem word_isInfix {apart : Bool} (loosens : Loosens apart text left)
    (visible : ∀ c ∈ word, Character.isBlank c = false) :
    (word <:+: left → word <:+: text) ∧ (apart = false → word <+: left → word <+: text) := by
  induction loosens generalizing word with
  | nil => exact ⟨id, fun _ => id⟩
  | @keep apart c text left _ ih =>
    have starts (isFirst : word <+: c :: left) : word <+: c :: text := by
      cases word with
      | nil => exact List.nil_prefix
      | cons first word =>
        obtain ⟨rfl, more⟩ := List.cons_prefix_cons.mp isFirst
        rw [List.forall_mem_cons] at visible
        exact List.cons_prefix_cons.mpr ⟨rfl, (ih visible.2).2 visible.1 more⟩
    refine ⟨fun inside => ?_, fun _ => starts⟩
    rcases List.infix_cons_iff.mp inside with isFirst | later
    · exact (starts isFirst).isInfix
    · exact List.infix_cons ((ih visible).1 later)
  | @space apart text left _ ih =>
    have starts (isFirst : word <+: ' ' :: left) : word = [] := by
      cases word with
      | nil => rfl
      | cons first word =>
        obtain ⟨rfl, -⟩ := List.cons_prefix_cons.mp isFirst
        exact absurd (visible ' ' List.mem_cons_self) (by decide)
    refine ⟨fun inside => ?_, fun _ isFirst => starts isFirst ▸ List.nil_prefix⟩
    rcases List.infix_cons_iff.mp inside with isFirst | later
    · exact starts isFirst ▸ List.nil_infix
    · exact (ih visible).1 later
  | dropAfter _ ih => exact ⟨fun inside => List.infix_cons ((ih visible).1 inside), by simp⟩
  | @dropBefore apart c text left _ blank ih =>
    refine ⟨fun inside => List.infix_cons ((ih visible).1 inside), fun _ isFirst => ?_⟩
    cases word with
    | nil => exact List.nil_prefix
    | cons first word =>
      obtain ⟨rest, rfl⟩ := isFirst
      have blankFirst := blank first rfl
      rw [visible first List.mem_cons_self] at blankFirst
      cases blankFirst

end Loosens

/-! ## Steps that loosen -/

variable {apart : Bool} {text : Text}

theorem Loosens.refl : Loosens apart text text := by
  induction text generalizing apart with
  | nil => exact .nil
  | cons c rest ih => exact .keep ih

theorem head?_squeeze (mark : Char) (text : Text) : (squeeze mark text).head? = text.head? := by
  induction text with
  | nil => rfl
  | cons c rest ih =>
    rw [squeeze]
    split
    case isTrue repeats => rw [ih, repeats.2, repeats.1, List.head?_cons]
    case isFalse => rfl

theorem loosens_squeeze {mark : Char} (blank : Character.isBlank mark) :
    Loosens apart text (squeeze mark text) := by
  induction text generalizing apart with
  | nil => exact .nil
  | cons c rest ih =>
    rw [squeeze]
    split
    case isTrue repeats =>
      refine .dropBefore ih fun next isNext => ?_
      rw [head?_squeeze, repeats.2] at isNext
      rwa [← Option.some.inj isNext]
    case isFalse => exact .keep ih

theorem loosens_dropWhile (property : Char → Bool) :
    Loosens true text (text.dropWhile property) := by
  induction text with
  | nil => exact .nil
  | cons c rest ih =>
    rw [List.dropWhile_cons]
    split
    · exact .dropAfter ih
    · exact .refl

/-- Where a run is being dropped its space has been written. -/
theorem loosens_squeezeBlanksFrom {within : Bool} (follows : within → apart) :
    Loosens apart text (squeezeBlanksFrom within text) := by
  induction text generalizing within apart with
  | nil => exact .nil
  | cons c rest ih =>
    rw [squeezeBlanksFrom]
    split
    case isFalse => exact .keep (ih (by simp))
    case isTrue blank =>
      split
      case isTrue isWithin =>
        rw [follows isWithin]
        exact .dropAfter (ih fun _ => rfl)
      case isFalse =>
        split
        · exact .space (.dropAfter (ih fun _ => rfl))
        · exact .keep (ih (by simp))

end Text

namespace CleanText

open Text

variable {apart : Bool} {text : Text}

/-- What is skipped of a marker stands after its space. -/
theorem loosens_dropTitleMarkersFrom {pending : Nat} (follows : 0 < pending → apart) :
    Loosens apart text (dropTitleMarkersFrom pending text) := by
  induction text generalizing pending apart with
  | nil => exact .nil
  | cons c rest ih =>
    cases pending with
    | succ pending =>
      rw [dropTitleMarkersFrom, follows (Nat.succ_pos _)]
      exact .dropAfter (ih fun _ => rfl)
    | zero =>
      rw [dropTitleMarkersFrom]
      split
      · exact .space (.dropAfter (ih fun _ => rfl))
      · exact .keep (ih (by simp))

theorem loosens_dropIndentsFrom {lineStart : Bool} (starts : lineStart → apart) :
    Loosens apart text (dropIndentsFrom lineStart text) := by
  induction text generalizing lineStart apart with
  | nil => exact .nil
  | cons c rest ih =>
    rw [dropIndentsFrom]
    split
    case isTrue drops =>
      rw [Bool.and_eq_true] at drops
      rw [starts drops.1]
      exact .dropAfter (ih fun _ => rfl)
    case isFalse =>
      refine .keep (ih fun breaks => ?_)
      rw [beq_iff_eq.mp breaks]
      decide

/-- What is left after the end of a line begins with a blank. -/
theorem head?_dropLineTails (ends : endsLine text) :
    ∀ c ∈ (dropLineTails text).head?, Character.isBlank c := by
  induction text with
  | nil => simp [dropLineTails]
  | cons c rest ih =>
    rw [dropLineTails]
    split
    case isTrue drops =>
      rw [Bool.and_eq_true] at drops
      exact ih drops.2
    case isFalse keeps =>
      rintro d ⟨⟩
      unfold endsLine at ends keeps
      rw [List.dropWhile_cons] at ends
      cases skipped : Character.isBlank c && c != '\n' with
      | true =>
        rw [skipped, if_pos rfl] at ends
        rw [Bool.and_eq_true] at skipped
        exact absurd (Bool.and_eq_true _ _ ▸ ⟨skipped.1, ends⟩) keeps
      | false =>
        rw [skipped, if_neg Bool.false_ne_true] at ends
        rw [beq_iff_eq.mp ends]
        decide

theorem loosens_dropLineTails : Loosens apart text (dropLineTails text) := by
  induction text generalizing apart with
  | nil => exact .nil
  | cons c rest ih =>
    rw [dropLineTails]
    split
    case isTrue drops =>
      rw [Bool.and_eq_true] at drops
      exact .dropBefore ih (head?_dropLineTails drops.2)
    case isFalse => exact .keep ih

/-- What is skipped of an entity stands at the start of a line. -/
theorem loosens_emptyEntityLinesFrom {lineStart : Bool} {pending : Nat}
    (starts : lineStart → apart) (follows : 0 < pending → apart) :
    Loosens apart text (emptyEntityLinesFrom lineStart pending text) := by
  induction text generalizing lineStart pending apart with
  | nil => exact .nil
  | cons c rest ih =>
    cases pending with
    | succ pending =>
      rw [emptyEntityLinesFrom, follows (Nat.succ_pos _)]
      exact .dropAfter (ih (by simp) fun _ => rfl)
    | zero =>
      rw [emptyEntityLinesFrom]
      split
      case isTrue entity =>
        rw [Bool.and_eq_true] at entity
        rw [starts entity.1]
        exact .dropAfter (ih (by simp) fun _ => rfl)
      case isFalse =>
        refine .keep (ih (fun breaks => ?_) (by simp))
        rw [beq_iff_eq.mp breaks]
        decide

theorem loosens_dropStrayHyphensFrom (afterWord : Bool) :
    Loosens apart text (dropStrayHyphensFrom afterWord text) := by
  fun_induction dropStrayHyphensFrom afterWord text generalizing apart with
  | case1 afterWord a b c rest _ ih => exact .space (.dropAfter (.dropAfter (.dropAfter ih)))
  | case2 afterWord a b c rest _ _ ih => exact .space (.dropAfter (.dropAfter ih))
  | case3 afterWord a b c rest _ _ ih => exact .keep ih
  | case4 afterWord a b stray => exact .space (.dropAfter (.dropAfter .nil))
  | case5 | case6 => exact .refl

end CleanText

end FullTextQuery
