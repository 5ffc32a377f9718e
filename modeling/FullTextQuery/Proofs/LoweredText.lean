import FullTextQuery.Query.CleanText
import Mathlib.Data.List.Basic

/-!
# Lower case and the parts of words

Lowering a text changes the parts of words only, and makes parts of words of them
(`lowercaseFrom_cons_cases`). So the blanks, hyphens and marks between the words stay, and none is
added (`filter_lowercaseFrom`). The capitals are known by their runs: that a run lies within ranges
of code points is computed from its ends (`CapitalRun.liesIn`), and its members are not looked up
one by one unless there are gaps between them.
-/

namespace FullTextQuery

namespace Character

/-! ## Blanks -/

theorem exists_range {ranges : CodeRanges} {n : Nat} (inside : ranges.contains n) :
    ∃ range ∈ ranges, range.1 ≤ n ∧ n ≤ range.2 := by
  induction ranges with
  | nil => cases inside
  | cons range ranges ih =>
    unfold CodeRanges.contains at inside
    rw [Bool.and_eq_true, Bool.or_eq_true, decide_eq_true_eq, decide_eq_true_eq] at inside
    rcases inside with ⟨first, last | later⟩
    · exact ⟨range, List.mem_cons_self, first, last⟩
    · obtain ⟨other, member, bounds⟩ := ih later
      exact ⟨other, List.mem_cons_of_mem _ member, bounds⟩

/-- What holds of the code points of the blanks holds of every blank. -/
theorem forall_blank {motive : Char → Prop}
    (codes : ∀ range ∈ blanks, ∀ offset < range.2 - range.1 + 1,
      motive (Char.ofNat (range.1 + offset))) {c : Char} (blank : isBlank c) : motive c := by
  obtain ⟨range, member, first, last⟩ := exists_range blank
  have known := codes range member (c.toNat - range.1) (by omega)
  rwa [Nat.add_sub_cancel' first, Char.ofNat_toNat] at known

theorem isWordPart_of_isBlank {c : Char} (blank : isBlank c) : isWordPart c = false :=
  forall_blank (motive := fun c => isWordPart c = false) (by decide +kernel) blank

theorem isBlank_of_isWordPart {c : Char} (word : isWordPart c) : isBlank c = false := by
  refine Bool.eq_false_iff.mpr fun blank => ?_
  rw [isWordPart_of_isBlank blank] at word
  cases word

/-! ## Runs of capitals -/

/-- Whether one of the ranges has all code points from the first to the last. -/
def CodeRanges.covers : CodeRanges → Nat → Nat → Bool
  | [], _, _ => false
  | (least, greatest) :: rest, first, last =>
    least.ble first && (last.ble greatest || CodeRanges.covers rest first last)

theorem CodeRanges.contains_of_covers {ranges : CodeRanges} {first last n : Nat}
    (covers : ranges.covers first last) (after : first ≤ n) (before : n ≤ last) :
    ranges.contains n := by
  induction ranges with
  | nil => cases covers
  | cons range ranges ih =>
    rw [CodeRanges.covers, Bool.and_eq_true, Bool.or_eq_true, Nat.ble_eq, Nat.ble_eq] at covers
    rw [CodeRanges.contains, Bool.and_eq_true, Bool.or_eq_true, decide_eq_true_eq,
      decide_eq_true_eq]
    exact ⟨Nat.le_trans covers.1 after, covers.2.imp (Nat.le_trans before) ih⟩

/-- A code point is a capital of a run. -/
def CapitalRun.Has (run : CapitalRun) (n : Nat) : Prop :=
  run.first ≤ n ∧ n ≤ run.last ∧ (n - run.first) % run.stride = 0

/-- Whether the members of a run are in the ranges if the first of them is the given code point: the
first capital for the capitals, and its small letter for their small letters. -/
def CapitalRun.liesIn (run : CapitalRun) (ranges : CodeRanges) (first : Nat) : Bool :=
  ranges.covers first (first + (run.last - run.first)) ||
    (List.range (run.last - run.first + 1)).all fun offset =>
      offset % run.stride != 0 || ranges.contains (first + offset)

theorem CapitalRun.Has.contains {run : CapitalRun} {n first : Nat} {ranges : CodeRanges}
    (has : run.Has n) (within : run.liesIn ranges first) :
    ranges.contains (first + (n - run.first)) := by
  obtain ⟨least, greatest, step⟩ := has
  rw [CapitalRun.liesIn, Bool.or_eq_true] at within
  rcases within with covers | each
  · exact CodeRanges.contains_of_covers covers (Nat.le_add_right _ _) (by omega)
  · have known := List.all_eq_true.mp each (n - run.first) (List.mem_range.mpr (by omega))
    rw [step] at known
    exact known

/-- The members of a run are parts of words if both the capitals and their small letters lie in the
ranges of such characters. -/
def CapitalRun.isWord (run : CapitalRun) (first : Nat) : Bool :=
  run.liesIn letters first || run.liesIn wordExtenders first

theorem CapitalRun.Has.isWordPart {run : CapitalRun} {n first : Nat} (has : run.Has n)
    (word : run.isWord first) {c : Char} (code : c.toNat = first + (n - run.first)) :
    Character.isWordPart c := by
  rw [CapitalRun.isWord, Bool.or_eq_true] at word
  rw [Character.isWordPart, isLetter, code, Bool.or_eq_true]
  exact word.imp has.contains has.contains

/-- What every run has: its small letters are characters, and its members are parts of words. -/
theorem capitalRuns_all : ∀ run ∈ capitalRuns,
    (run.lowered + (run.last - run.first) < 0xd800 ∨
      0xe000 ≤ run.lowered ∧ run.lowered + (run.last - run.first) < 0x110000) ∧
      run.isWord run.first ∧ run.isWord run.lowered := by
  decide +kernel

/-- A code point is lowered by a run that has it, or stays. -/
theorem lowerBy_eq_or (runs : List CapitalRun) (n : Nat) :
    lowerBy runs n = n ∨
      ∃ run ∈ runs, run.Has n ∧ lowerBy runs n = run.lowered + (n - run.first) := by
  induction runs with
  | nil => exact .inl rfl
  | cons run runs ih =>
    rw [lowerBy]
    split
    case isTrue =>
      rcases ih with same | ⟨other, member, known⟩
      · exact .inl same
      · exact .inr ⟨other, List.mem_cons_of_mem _ member, known⟩
    case isFalse within =>
      split
      case isTrue capital =>
        exact .inr ⟨run, List.mem_cons_self, ⟨capital.1, by omega, capital.2⟩, rfl⟩
      case isFalse => exact .inl rfl

theorem CapitalRun.Has.toNat_lowered {run : CapitalRun} {n : Nat} (has : run.Has n)
    (member : run ∈ capitalRuns) : (Char.ofNat (run.lowered + (n - run.first))).toNat =
      run.lowered + (n - run.first) := by
  have first : run.first ≤ n := has.1
  have last : n ≤ run.last := has.2.1
  have valid : (run.lowered + (n - run.first)).isValidChar :=
    (capitalRuns_all run member).1.imp (fun below => by omega) fun above => ⟨by omega, by omega⟩
  have code : Char.ofNat (run.lowered + (n - run.first)) = Char.ofNatAux _ valid := dif_pos valid
  rw [code]
  rfl

theorem toNat_ofNat_lowerBy (c : Char) :
    (Char.ofNat (lowerBy capitalRuns c.toNat)).toNat = lowerBy capitalRuns c.toNat := by
  rcases lowerBy_eq_or capitalRuns c.toNat with same | ⟨run, member, has, lowered⟩
  · rw [same, Char.ofNat_toNat]
  · rw [lowered, has.toNat_lowered member]

/-- A character that lowering changes is a part of a word, and so is all that it is lowered to. -/
theorem lower_cases (c : Char) :
    lower c = [c] ∨ isWordPart c ∧ lower c ≠ [] ∧ ∀ small ∈ lower c, isWordPart small := by
  unfold lower
  split
  case isTrue dotted =>
    rw [dotted]
    refine .inr ⟨by decide +kernel, by decide +kernel, List.all_eq_true.mp ?_⟩
    decide +kernel
  case isFalse =>
    rcases lowerBy_eq_or capitalRuns c.toNat with same | ⟨run, member, has, lowered⟩
    · rw [same, Char.ofNat_toNat]
      exact .inl rfl
    · obtain ⟨-, capitals, smalls⟩ := capitalRuns_all run member
      have code : c.toNat = run.first + (c.toNat - run.first) := (Nat.add_sub_cancel' has.1).symm
      rw [lowered]
      refine .inr ⟨has.isWordPart capitals code, List.cons_ne_nil _ _, fun small inside => ?_⟩
      rw [List.mem_singleton.mp inside]
      exact has.isWordPart smalls (has.toNat_lowered member)

end Character

namespace Text

open Character

/-! ## Lowered texts -/

/-- A text is lowered character by character. One that lowering changes is a part of a word, and so
is all that it becomes. -/
theorem lowercaseFrom_cons_cases (afterCased : Bool) (c : Char) (rest : Text) :
    ∃ later, lowercaseFrom afterCased (c :: rest) = c :: lowercaseFrom later rest ∨
      isWordPart c ∧ ∃ lowered, lowered ≠ [] ∧ (∀ small ∈ lowered, isWordPart small) ∧
        lowercaseFrom afterCased (c :: rest) = lowered ++ lowercaseFrom later rest := by
  refine ⟨if isCaseIgnorable c then afterCased else isCased c, ?_⟩
  rw [lowercaseFrom]
  split
  case isTrue sigma =>
    rw [sigma]
    refine .inr ⟨by decide +kernel, _, List.cons_ne_nil _ _, fun small member => ?_, rfl⟩
    rw [List.mem_singleton.mp member]
    split
    · decide +kernel
    · decide +kernel
  case isFalse =>
    rcases lower_cases c with same | ⟨word, some, words⟩
    · rw [same]
      exact .inl rfl
    · exact .inr ⟨word, _, some, words, rfl⟩

/-- A character is lowered to some characters, and to no other one that is no part of a word. -/
theorem exists_lowercaseFrom_cons (afterCased : Bool) (c : Char) (rest : Text) :
    ∃ lowered later, lowered ≠ [] ∧ (∀ mark ∈ lowered, isWordPart mark = false → mark = c) ∧
      lowercaseFrom afterCased (c :: rest) = lowered ++ lowercaseFrom later rest := by
  obtain ⟨later, shape | ⟨-, lowered, some, words, shape⟩⟩ :=
    lowercaseFrom_cons_cases afterCased c rest
  · exact ⟨[c], later, List.cons_ne_nil _ _, fun _ member _ => List.mem_singleton.mp member, shape⟩
  · refine ⟨lowered, later, some, fun mark member noWord => ?_, shape⟩
    rw [words mark member] at noWord
    cases noWord

theorem lowercaseFrom_ne_nil {text : Text} (notEmpty : text ≠ []) (afterCased : Bool) :
    lowercaseFrom afterCased text ≠ [] := by
  obtain ⟨c, rest, rfl⟩ := List.exists_cons_of_ne_nil notEmpty
  obtain ⟨lowered, later, some, -, shape⟩ := exists_lowercaseFrom_cons afterCased c rest
  rw [shape]
  exact List.append_ne_nil_of_left_ne_nil some _

/-- Lowering leaves a blank at the start of a text and brings none there. -/
theorem any_head?_lowercaseFrom (afterCased : Bool) (text : Text) :
    (lowercaseFrom afterCased text).head?.any Character.isBlank =
      text.head?.any Character.isBlank := by
  cases text with
  | nil => rfl
  | cons c rest =>
    obtain ⟨later, shape | ⟨word, lowered, some, words, shape⟩⟩ :=
      lowercaseFrom_cons_cases afterCased c rest
    · rw [shape]
      rfl
    · obtain ⟨small, more, rfl⟩ := List.exists_cons_of_ne_nil some
      have visible := isBlank_of_isWordPart (words small List.mem_cons_self)
      rw [shape]
      exact visible.trans (isBlank_of_isWordPart word).symm

/-- The characters that are no parts of words stay, in their order. -/
theorem filter_lowercaseFrom {p : Char → Bool} (noWord : ∀ c, isWordPart c → p c = false)
    (afterCased : Bool) (text : Text) :
    (lowercaseFrom afterCased text).filter p = text.filter p := by
  induction text generalizing afterCased with
  | nil => rfl
  | cons c rest ih =>
    obtain ⟨later, shape | ⟨word, lowered, -, words, shape⟩⟩ :=
      lowercaseFrom_cons_cases afterCased c rest
    · rw [shape, List.filter_cons, List.filter_cons, ih]
    · have gone : lowered.filter p = [] :=
        List.filter_eq_nil_iff.mpr fun small member => by simp [noWord small (words small member)]
      rw [shape, List.filter_append, gone, ih, List.nil_append,
        List.filter_cons_of_neg (by simp [noWord c word])]

section Marks

variable {mark : Char} (noWord : isWordPart mark = false) {afterCased : Bool} {text : Text}

include noWord

theorem mem_of_mem_lowercaseFrom (member : mark ∈ lowercaseFrom afterCased text) :
    mark ∈ text := by
  induction text generalizing afterCased with
  | nil => cases member
  | cons c rest ih =>
    obtain ⟨lowered, later, -, known, shape⟩ := exists_lowercaseFrom_cons afterCased c rest
    rw [shape, List.mem_append] at member
    rcases member with here | after
    · exact known mark here noWord ▸ List.mem_cons_self
    · exact List.mem_cons_of_mem _ (ih after)

theorem head?_of_lowercaseFrom (first : (lowercaseFrom afterCased text).head? = some mark) :
    text.head? = some mark := by
  cases text with
  | nil => cases first
  | cons c rest =>
    obtain ⟨lowered, later, some, known, shape⟩ := exists_lowercaseFrom_cons afterCased c rest
    rw [shape, List.head?_append_of_ne_nil _ some] at first
    rw [known mark (List.mem_of_mem_head? first) noWord]
    rfl

theorem getLast?_of_lowercaseFrom (last : (lowercaseFrom afterCased text).getLast? = some mark) :
    text.getLast? = some mark := by
  induction text generalizing afterCased with
  | nil => cases last
  | cons c rest ih =>
    obtain ⟨lowered, later, -, known, shape⟩ := exists_lowercaseFrom_cons afterCased c rest
    rw [shape] at last
    by_cases empty : rest = []
    · subst empty
      have onlyLowered : lowercaseFrom later [] = [] := rfl
      rw [onlyLowered, List.append_nil] at last
      rw [known mark (List.mem_of_mem_getLast? last) noWord]
      rfl
    · rw [List.getLast?_append_of_ne_nil _ (lowercaseFrom_ne_nil empty later)] at last
      rw [List.getLast?_cons_of_ne_nil empty]
      exact ih last

end Marks

end Text

end FullTextQuery
