import FullTextQuery.Proofs.Alphabet
import Mathlib.Data.List.Infix

/-!
# Squeezed and trimmed text

Squeezing leaves no two blanks side by side (`isChain_squeezeBlanksFrom`), and trimming takes blanks
at the ends only (`exists_trim`). Neither depends on what the other one does, so they come to the
same in either order (`trim_squeezeBlanks`). They are the last steps before lowering, which leaves
the ends of a text visible (`ends_ofRaw`).
-/

namespace FullTextQuery.Text

/-! ## Squeezing -/

/-- Squeezed text begins with a blank if the text does and no run is being dropped. -/
theorem any_head?_squeezeBlanksFrom (within : Bool) (text : Text) :
    (squeezeBlanksFrom within text).head?.any Character.isBlank =
      (!within && text.head?.any Character.isBlank) := by
  induction text generalizing within with
  | nil => exact (Bool.and_false _).symm
  | cons c rest ih =>
    rw [squeezeBlanksFrom, List.head?_cons, Option.any_some]
    cases blank : Character.isBlank c with
    | false => simp [blank]
    | true =>
      cases within with
      | true => exact (ih true).trans (Bool.false_and _)
      | false =>
        rw [if_pos rfl, if_neg Bool.false_ne_true]
        split
        · rfl
        · exact blank

/-- No two blanks of squeezed text are neighbours. -/
theorem isChain_squeezeBlanksFrom (within : Bool) (text : Text) :
    (squeezeBlanksFrom within text).IsChain BlanksApart := by
  have begins {within : Bool} {text : Text} {next : Char}
      (isNext : next ∈ (squeezeBlanksFrom within text).head?) (blank : Character.isBlank next) :
      within = false ∧ text.head?.any Character.isBlank := by
    have known := any_head?_squeezeBlanksFrom within text
    rw [Option.mem_def.mp isNext, Option.any_some, blank] at known
    simpa using known.symm
  induction text generalizing within with
  | nil => exact .nil
  | cons c rest ih =>
    rw [squeezeBlanksFrom]
    split
    case isFalse visible =>
      exact List.isChain_cons.mpr ⟨fun next _ both => visible both.1, ih false⟩
    case isTrue =>
      split
      case isTrue => exact ih true
      case isFalse =>
        split
        case isTrue =>
          refine List.isChain_cons.mpr ⟨fun next isNext both => ?_, ih true⟩
          exact absurd (begins isNext both.2).1 (by simp)
        case isFalse alone =>
          exact List.isChain_cons.mpr
            ⟨fun next isNext both => alone (begins isNext both.2).2, ih false⟩

theorem isBlank_squeezeBlanks {run : Text} (blank : run.isBlank) (within : Bool) :
    Text.isBlank (squeezeBlanksFrom within run) := by
  refine List.all_eq_true.mpr fun c member => ?_
  by_cases space : c = ' '
  · rw [space]
    decide
  · exact List.all_eq_true.mp blank c (mem_of_mem_squeezeBlanksFrom space member)

theorem squeezeBlanks_cons {c : Char} (visible : Character.isBlank c = false) (back : Text) :
    squeezeBlanks (c :: back) = c :: squeezeBlanks back :=
  FullText.squeezeBlanksFrom_cut visible false [] back

theorem squeezeBlanks_concat {c : Char} (visible : Character.isBlank c = false) (front : Text) :
    squeezeBlanks (front ++ [c]) = squeezeBlanks front ++ [c] :=
  FullText.squeezeBlanksFrom_cut visible false front []

/-- What follows a visible character is squeezed by itself. -/
theorem squeezeBlanks_append {c : Char} (visible : Character.isBlank c = false)
    (front back : Text) :
    squeezeBlanks (front ++ [c] ++ back) = squeezeBlanks (front ++ [c]) ++ squeezeBlanks back := by
  rw [squeezeBlanks_concat visible, List.append_assoc, List.append_assoc]
  exact FullText.squeezeBlanksFrom_cut visible false front back

/-- A text that begins and ends visibly is squeezed by itself. -/
theorem squeezeBlanks_around {c d : Char} {rest front : Text} (same : c :: rest = front ++ [d])
    (first : Character.isBlank c = false) (last : Character.isBlank d = false)
    (start tail : Text) :
    squeezeBlanks (start ++ (c :: rest ++ tail)) =
      squeezeBlanks start ++ (squeezeBlanks (c :: rest) ++ squeezeBlanks tail) := by
  have before : squeezeBlanks (start ++ (c :: rest ++ tail)) =
      squeezeBlanks start ++ squeezeBlanks (c :: rest ++ tail) := by
    rw [List.cons_append, squeezeBlanks_cons first]
    exact FullText.squeezeBlanksFrom_cut first false start (rest ++ tail)
  rw [before, same, squeezeBlanks_append last]

/-! ## Trimming -/

theorem exists_trimEnd (text : Text) : ∃ tail, text = trimEnd text ++ tail ∧ tail.isBlank := by
  induction text with
  | nil => exact ⟨[], rfl, rfl⟩
  | cons c rest ih =>
    obtain ⟨tail, whole, blank⟩ := ih
    rw [trimEnd]
    cases kept : trimEnd rest with
    | cons next more =>
      rw [kept] at whole
      exact ⟨tail, congrArg (c :: ·) whole, blank⟩
    | nil =>
      rw [kept, List.nil_append] at whole
      dsimp only
      split
      case isTrue blankFirst =>
        refine ⟨c :: rest, rfl, ?_⟩
        rw [Text.isBlank, List.all_cons, blankFirst, whole]
        exact blank
      case isFalse => exact ⟨rest, rfl, whole ▸ blank⟩

/-- What is trimmed off a text are blanks at its ends. -/
theorem exists_trim (text : Text) :
    ∃ start tail, text = start ++ (trim text ++ tail) ∧ start.isBlank ∧ tail.isBlank := by
  obtain ⟨tail, whole, blank⟩ := exists_trimEnd (trimStart text)
  refine ⟨text.takeWhile Character.isBlank, tail, ?_, ?_, blank⟩
  · rw [trim, ← whole]
    exact List.takeWhile_append_dropWhile.symm
  · exact List.all_eq_true.mpr fun c member => List.mem_takeWhile_imp member

theorem trim_isInfix (text : Text) : trim text <:+: text := by
  obtain ⟨start, tail, whole, -⟩ := exists_trim text
  exact ⟨start, tail, by rw [List.append_assoc, ← whole]⟩

theorem trimEnd_append_blank {tail : Text} (blank : tail.isBlank) (front : Text) :
    trimEnd (front ++ tail) = trimEnd front := by
  induction front with
  | cons c front ih => rw [List.cons_append, trimEnd, trimEnd, ih]
  | nil =>
    induction tail with
    | nil => rfl
    | cons c tail ih =>
      rw [Text.isBlank, List.all_cons, Bool.and_eq_true] at blank
      have gone : trimEnd tail = [] := ih blank.2
      have start : trimEnd (c :: tail) = [] := by
        rw [trimEnd, gone]
        exact if_pos blank.1
      exact start

section Ends

variable {text : Text} (first : ∀ c ∈ text.head?, Character.isBlank c = false)
  (last : ∀ c ∈ text.getLast?, Character.isBlank c = false)

include first last

theorem trim_around {start tail : Text} (blankStart : start.isBlank) (blankTail : tail.isBlank) :
    trim (start ++ (text ++ tail)) = text := by
  have begins : trimStart (start ++ (text ++ tail)) = trimStart (text ++ tail) :=
    List.dropWhile_append_of_pos (List.all_eq_true.mp blankStart)
  rw [trim, begins]
  cases text with
  | nil =>
    have gone : trimStart tail = [] := List.dropWhile_eq_nil_iff.mpr (List.all_eq_true.mp blankTail)
    rw [List.nil_append, gone]
    rfl
  | cons c rest =>
    have kept : trimStart (c :: rest ++ tail) = c :: rest ++ tail := trimStart_eq_self first
    rw [kept, trimEnd_append_blank blankTail, trimEnd_eq_self last]

end Ends

/-- Squeezing and trimming come to the same in either order. -/
theorem trim_squeezeBlanks (text : Text) :
    trim (squeezeBlanks text) = squeezeBlanks (trim text) := by
  obtain ⟨start, tail, whole, blankStart, blankTail⟩ := exists_trim text
  obtain ⟨first, last⟩ := ends_trim text
  generalize trim text = core at whole first last ⊢
  subst whole
  cases core with
  | nil =>
    have blank : Text.isBlank (start ++ tail) := by
      rw [Text.isBlank, List.all_append, Bool.and_eq_true]
      exact ⟨blankStart, blankTail⟩
    have gone := @trim_around [] (by simp) (by simp) _ [] (isBlank_squeezeBlanks blank false) rfl
    rwa [List.append_nil, List.append_nil] at gone
  | cons c rest =>
    obtain ⟨front, d, same⟩ :=
      (List.eq_nil_or_concat' (c :: rest)).resolve_left (List.cons_ne_nil _ _)
    have visible : Character.isBlank c = false := first c rfl
    have visibleLast : Character.isBlank d = false := last d (same ▸ List.getLast?_concat)
    rw [squeezeBlanks_around same visible visibleLast]
    refine trim_around ?_ ?_ (isBlank_squeezeBlanks blankStart false)
      (isBlank_squeezeBlanks blankTail false)
    · rw [squeezeBlanks_cons visible]
      rintro e ⟨⟩
      exact visible
    · rw [same, squeezeBlanks_concat visibleLast, List.getLast?_concat]
      rintro e ⟨⟩
      exact visibleLast

end FullTextQuery.Text

namespace FullTextQuery.CleanText

open Text Character

/-! ## The ends of clean text -/

theorem ends_pared (query : Text) : (∀ c ∈ (pared query).head?, Character.isBlank c = false) ∧
    ∀ c ∈ (pared query).getLast?, Character.isBlank c = false := by
  simp only [pared, inTurn, paringSteps, List.foldl_cons, List.foldl_nil]
  exact ends_trim _

/-- No two blanks of a pared query are neighbours. -/
theorem isChain_pared (query : Text) : (pared query).IsChain BlanksApart := by
  simp only [pared, inTurn, paringSteps, List.foldl_cons, List.foldl_nil]
  exact List.IsChain.infix (isChain_squeezeBlanksFrom false _) (trim_isInfix _)

/-- Clean text neither begins nor ends with a blank: lowering comes after trimming, but no part of a
word is lowered to a blank. -/
theorem ends_ofRaw (query : Text) : (∀ c ∈ (ofRaw query).head?, Character.isBlank c = false) ∧
    ∀ c ∈ (ofRaw query).getLast?, Character.isBlank c = false := by
  obtain ⟨begins, ends⟩ := ends_pared query
  rw [ofRaw_eq_lowercase, lowercase]
  refine ⟨fun c first => Bool.eq_false_iff.mpr fun blank => ?_,
    fun c last => Bool.eq_false_iff.mpr fun blank => ?_⟩
  · rw [begins c (head?_of_lowercaseFrom (isWordPart_of_isBlank blank) first)] at blank
    cases blank
  · rw [ends c (getLast?_of_lowercaseFrom (isWordPart_of_isBlank blank) last)] at blank
    cases blank

end FullTextQuery.CleanText
