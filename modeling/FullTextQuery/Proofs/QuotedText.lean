import FullTextQuery.Text.Quoted
import Mathlib.Data.List.Basic
import Mathlib.Data.Nat.Digits.Defs

/-!
# Quoted text

Quoting hides nothing and breaks no line: different texts have different quoted forms
(`quoted_injective`), and none has a line feed (`lineFeed_not_mem_quoted`). A character is written
in one of three ways (`quotedChar_cases`), and the first characters tell which: no character that
stands for itself is a backslash, and no short escape has the letter of a number. A number ends at
its closing brace, so where one character ends and the next begins is known as well
(`quotedChar_append_inj`).
-/

namespace FullTextQuery.Text

/-! ## Numbers in base sixteen -/

theorem mem_hexadecimal {n : Nat} {c : Char} (member : c ∈ hexadecimal n) :
    ∃ digit < 16, c = Nat.digitChar digit := by
  unfold hexadecimal at member
  induction n using Nat.strong_induction_on with
  | _ n ih =>
    rw [Nat.toDigits_eq_if (by decide)] at member
    split at member
    case isTrue single => exact ⟨n, single, List.mem_singleton.mp member⟩
    case isFalse longer =>
      rcases List.mem_append.mp member with front | last
      · exact ih (n / 16) (by omega) front
      · exact ⟨n % 16, by omega, List.mem_singleton.mp last⟩

theorem digitChar_inj : ∀ first < 16, ∀ second < 16,
    Nat.digitChar first = Nat.digitChar second → first = second := by
  decide

theorem hexadecimal_injective : Function.Injective hexadecimal := by
  intro first
  unfold hexadecimal
  induction first using Nat.strong_induction_on with
  | _ first ih =>
    intro second same
    have step (n : Nat) := @Nat.toDigits_eq_if 16 n (by decide)
    have some (n : Nat) : Nat.toDigits 16 n ≠ [] := Nat.toDigits_ne_nil
    rw [step first, step second] at same
    split_ifs at same with short short' short'
    · exact digitChar_inj first short second short' (List.singleton_inj.mp same)
    · exact absurd (List.append_eq_singleton_iff.mp same.symm) (by simp [some])
    · exact absurd (List.append_eq_singleton_iff.mp same) (by simp [some])
    · obtain ⟨front, last⟩ := List.append_inj' same rfl
      have high := ih (first / 16) (by omega) front
      have low := digitChar_inj (first % 16) (by omega) (second % 16) (by omega)
        (List.singleton_inj.mp last)
      omega

/-! ## Characters -/

/-- The characters with a short escape, and the letter that it has. -/
def shortEscapes : List (Char × Char) :=
  [('\x00', '0'), ('\t', 't'), ('\r', 'r'), ('\n', 'n'), ('\\', '\\'), ('\"', '\"')]

/-- A short escape has a letter that no other one has and that begins no number, and it has no line
feed. -/
theorem shortEscapes_apart : ∀ one ∈ shortEscapes,
    (∀ other ∈ shortEscapes, one.2 = other.2 → one.1 = other.1) ∧ one.2 ≠ 'u' ∧ one.2 ≠ '\n' := by
  decide

/-- A character is written as a short escape, as itself, or as its number. -/
theorem quotedChar_cases (c : Char) :
    (∃ letter, (c, letter) ∈ shortEscapes ∧ quotedChar c = ['\\', letter]) ∨
      (c ≠ '\\' ∧ c ≠ '\n' ∧ quotedChar c = [c]) ∨
      quotedChar c = '\\' :: 'u' :: '\x7b' :: (hexadecimal c.toNat ++ ['\x7d']) := by
  unfold quotedChar
  split_ifs with zero tab carriageReturn lineFeed backslash quotes visible
  · exact .inl ⟨'0', by simp [zero, shortEscapes], rfl⟩
  · exact .inl ⟨'t', by simp [tab, shortEscapes], rfl⟩
  · exact .inl ⟨'r', by simp [carriageReturn, shortEscapes], rfl⟩
  · exact .inl ⟨'n', by simp [lineFeed, shortEscapes], rfl⟩
  · exact .inl ⟨'\\', by simp [backslash, shortEscapes], rfl⟩
  · exact .inl ⟨'\"', by simp [quotes, shortEscapes], rfl⟩
  · exact .inr (.inl ⟨backslash, lineFeed, rfl⟩)
  · exact .inr (.inr rfl)

theorem quotedChar_ne_nil (c : Char) : quotedChar c ≠ [] := by
  rcases quotedChar_cases c with ⟨letter, -, shape⟩ | ⟨-, -, shape⟩ | shape
  · simp [shape]
  · simp [shape]
  · simp [shape]

theorem brace_not_mem_hexadecimal (n : Nat) : '\x7d' ∉ hexadecimal n := by
  intro member
  obtain ⟨digit, small, same⟩ := mem_hexadecimal member
  exact Nat.digitChar_ne '\x7d' (by decide) same.symm

/-- What is written for a character ends where the next one begins. -/
theorem quotedChar_append_inj {c d : Char} {rest rest' : Text}
    (same : quotedChar c ++ rest = quotedChar d ++ rest') : c = d ∧ rest = rest' := by
  rcases quotedChar_cases c with ⟨letter, short, shape⟩ | ⟨noEscape, -, shape⟩ | shape <;>
    rcases quotedChar_cases d with ⟨letter', short', shape'⟩ | ⟨noEscape', -, shape'⟩ | shape' <;>
    rw [shape, shape'] at same
  case inl.inl =>
    obtain ⟨sameLetter, sameRest⟩ := List.cons.inj (List.cons.inj same).2
    exact ⟨(shortEscapes_apart _ short).1 _ short' sameLetter, sameRest⟩
  case inl.inr.inl => exact absurd (List.cons.inj same).1.symm noEscape'
  case inl.inr.inr =>
    exact absurd (List.cons.inj (List.cons.inj same).2).1 (shortEscapes_apart _ short).2.1
  case inr.inl.inl => exact absurd (List.cons.inj same).1 noEscape
  case inr.inl.inr.inl => exact List.cons.inj same
  case inr.inl.inr.inr => exact absurd (List.cons.inj same).1 noEscape
  case inr.inr.inl =>
    exact absurd (List.cons.inj (List.cons.inj same).2).1.symm (shortEscapes_apart _ short').2.1
  case inr.inr.inr.inl => exact absurd (List.cons.inj same).1.symm noEscape'
  case inr.inr.inr.inr =>
    have numbers :
        hexadecimal c.toNat ++ '\x7d' :: rest = hexadecimal d.toNat ++ '\x7d' :: rest' := by
      simpa using same
    have cut := congrArg (List.splitOn '\x7d') numbers
    rw [List.splitOn_append_cons_self_of_not_mem (brace_not_mem_hexadecimal _),
      List.splitOn_append_cons_self_of_not_mem (brace_not_mem_hexadecimal _)] at cut
    have sameNumber : hexadecimal c.toNat = hexadecimal d.toNat := (List.cons.inj cut).1
    rw [sameNumber] at numbers
    exact ⟨Char.toNat_inj.mp (hexadecimal_injective sameNumber),
      (List.cons.inj (List.append_cancel_left numbers)).2⟩

/-! ## Texts -/

theorem quoted_injective : Function.Injective quoted := by
  intro first
  have contents (first second : Text) (same : quoted first = quoted second) :
      first.flatMap quotedChar = second.flatMap quotedChar := by
    simpa [quoted] using same
  induction first with
  | nil =>
    intro second same
    cases second with
    | nil => rfl
    | cons d second => simpa [quotedChar_ne_nil] using contents _ _ same
  | cons c first ih =>
    intro second same
    cases second with
    | nil => simpa [quotedChar_ne_nil] using contents _ _ same
    | cons d second =>
      have written := contents _ _ same
      rw [List.flatMap_cons, List.flatMap_cons] at written
      obtain ⟨rfl, rest⟩ := quotedChar_append_inj written
      rw [ih (show quoted first = quoted second by simp only [quoted, rest])]

theorem lineFeed_not_mem_hexadecimal (n : Nat) : '\n' ∉ hexadecimal n := by
  intro member
  obtain ⟨digit, small, same⟩ := mem_hexadecimal member
  exact Nat.digitChar_ne '\n' (by decide) same.symm

theorem lineFeed_not_mem_quotedChar (c : Char) : '\n' ∉ quotedChar c := by
  rcases quotedChar_cases c with ⟨letter, short, shape⟩ | ⟨-, noBreak, shape⟩ | shape
  · have letterApart := (shortEscapes_apart _ short).2.2
    simp [shape, Ne.symm letterApart]
  · simp [shape, Ne.symm noBreak]
  · simp [shape, lineFeed_not_mem_hexadecimal]

/-- A quoted text is on one line. -/
theorem lineFeed_not_mem_quoted (text : Text) : '\n' ∉ quoted text := by
  simp [quoted, lineFeed_not_mem_quotedChar]

theorem lineFeed_not_mem_join {separator : Text} {texts : List Text}
    (inSeparator : '\n' ∉ separator) (inTexts : ∀ text ∈ texts, '\n' ∉ text) :
    '\n' ∉ join separator texts := by
  induction texts with
  | nil => exact List.not_mem_nil
  | cons text texts ih =>
    rw [List.forall_mem_cons] at inTexts
    cases texts with
    | nil => exact inTexts.1
    | cons next texts =>
      have whole : join separator (text :: next :: texts) =
          text ++ separator ++ join separator (next :: texts) := rfl
      simp [whole, inTexts.1, inSeparator, ih inTexts.2]

theorem lineFeed_not_mem_quotedList (texts : List Text) : '\n' ∉ quotedList texts := by
  have items : '\n' ∉ join [',', ' '] (texts.map quoted) := by
    refine lineFeed_not_mem_join (by decide) fun text member => ?_
    obtain ⟨unquoted, -, rfl⟩ := List.mem_map.mp member
    exact lineFeed_not_mem_quoted unquoted
  simp [quotedList, items]

end FullTextQuery.Text
