import FullTextQuery.Query.Lexeme
import Mathlib.Data.List.Infix

/-!
# Cutting text into lexemes

The scan tries pieces of the text by their number of bytes. What it finds is the longest delimiter
that the text begins with (`delimiterAt?_eq_some`), and the word that it holds back comes out in
front of the lexemes of what follows (`ofTextFrom_eq_prependWord`).

A delimiter `Cuts` a text that comes before it if no longer delimiter begins with it or ends with it
there. What stands on either side of it is then read as if it stood alone (`ofText_append`). A
character is `Solo` if it is a delimiter and no longer delimiter has it: spaces, quotes, brackets
and the marks of operators and wildcards are. A solo character cuts every text and is a lexeme
wherever it stands (`eq_singleton_of_mem_ofText`). Together the lexemes are the text again
(`flatten_ofText`).
-/

namespace FullTextQuery

namespace Text

/-! ## The bytes that a text begins with -/

theorem byteLength_cons (c : Char) (rest : Text) :
    byteLength (c :: rest) = c.utf8Size + byteLength rest := by
  simp [byteLength, String.ofList_cons]

theorem byteLength_eq_zero {text : Text} : byteLength text = 0 ↔ text = [] := by
  cases text with
  | nil => simp [byteLength]
  | cons c rest =>
    have size := c.utf8Size_pos
    simp only [byteLength_cons, reduceCtorEq, iff_false]
    omega

/-- The piece of so many bytes is what the text begins with, if that has as many. -/
theorem firstBytes?_eq_some {text part : Text} {count : Nat} :
    text.firstBytes? count = some part ↔ part <+: text ∧ part.byteLength = count := by
  fun_induction firstBytes? text count generalizing part with
  | case1 text =>
    rw [byteLength_eq_zero, Option.some.injEq, eq_comm]
    exact ⟨fun empty => ⟨empty ▸ List.nil_prefix, empty⟩, And.right⟩
  | case2 count =>
    refine ⟨nofun, fun ⟨begins, size⟩ => ?_⟩
    rw [List.prefix_nil.mp begins] at size
    cases size
  | case3 c rest count fits ih =>
    rw [Option.map_eq_some_iff]
    constructor
    · rintro ⟨more, found, rfl⟩
      obtain ⟨begins, size⟩ := ih.mp found
      exact ⟨List.cons_prefix_cons.mpr ⟨rfl, begins⟩, by rw [byteLength_cons]; omega⟩
    · rintro ⟨begins, size⟩
      cases part with
      | nil => cases size
      | cons first more =>
        obtain ⟨rfl, later⟩ := List.cons_prefix_cons.mp begins
        rw [byteLength_cons] at size
        exact ⟨more, ih.mpr ⟨later, by omega⟩, rfl⟩
  | case4 c rest count long =>
    refine ⟨nofun, fun ⟨begins, size⟩ => ?_⟩
    cases part with
    | nil => cases size
    | cons first more =>
      obtain ⟨rfl, -⟩ := List.cons_prefix_cons.mp begins
      rw [byteLength_cons] at size
      omega

end Text

namespace Lexeme

/-! ## The delimiter at a place -/

theorem isDelimiter_iff {text : Text} : isDelimiter text ↔ text ∈ delimiters :=
  List.contains_iff_mem

/-- Delimiters have one or two characters of one byte. -/
theorem delimiter_size : ∀ delimiter ∈ delimiters,
    (delimiter.length = 1 ∨ delimiter.length = 2) ∧ delimiter.byteLength = delimiter.length := by
  decide

theorem length_le_longestDelimiter : ∀ delimiter ∈ delimiters,
    delimiter.length ≤ longestDelimiter := by
  decide

theorem delimiter_ne_nil {delimiter : Text} (isOne : delimiter ∈ delimiters) : delimiter ≠ [] := by
  rintro rfl
  rcases (delimiter_size _ isOne).1 with one | two
  · cases one
  · cases two

/-- The delimiter of so many bytes that a text begins with. -/
theorem filter_firstBytes? {text delimiter : Text} {length : Nat} :
    (text.firstBytes? length).filter isDelimiter = some delimiter ↔
      delimiter ∈ delimiters ∧ delimiter <+: text ∧ delimiter.length = length := by
  rw [Option.filter_eq_some_iff, Text.firstBytes?_eq_some, isDelimiter_iff]
  constructor
  · rintro ⟨⟨begins, size⟩, isOne⟩
    exact ⟨isOne, begins, (delimiter_size _ isOne).2.symm.trans size⟩
  · rintro ⟨isOne, begins, size⟩
    exact ⟨⟨begins, (delimiter_size _ isOne).2.trans size⟩, isOne⟩

/-- The longest of the delimiters that a text begins with. -/
structure IsLongest (delimiter text : Text) : Prop where
  /-- It is a delimiter. -/
  isOne : delimiter ∈ delimiters
  /-- The text begins with it. -/
  begins : delimiter <+: text
  /-- No delimiter that the text begins with is longer. -/
  longest : ∀ other ∈ delimiters, other <+: text → other.length ≤ delimiter.length

/-- The lengths that have been tried are those up to the limit. -/
theorem longestWithin_cases (text : Text) (limit : Nat) :
    (delimiterAt?.longestWithin text limit = none ∧
      ∀ other ∈ delimiters, other <+: text → limit < other.length) ∨
    ∃ delimiter ∈ delimiters, delimiterAt?.longestWithin text limit = some delimiter ∧
      delimiter <+: text ∧
      ∀ other ∈ delimiters, other <+: text → limit < other.length ∨
        other.length ≤ delimiter.length := by
  induction limit with
  | zero =>
    refine .inl ⟨rfl, fun other isOne _ => List.length_pos_iff.mpr (delimiter_ne_nil isOne)⟩
  | succ limit ih =>
    rw [delimiterAt?.longestWithin]
    cases found : (text.firstBytes? (limit + 1)).filter isDelimiter with
    | some delimiter =>
      obtain ⟨isOne, begins, size⟩ := filter_firstBytes?.mp found
      refine .inr ⟨delimiter, isOne, rfl, begins, fun other _ _ => ?_⟩
      omega
    | none =>
      -- No delimiter has just so many bytes, so the limit may be lowered by one.
      have other (delimiter : Text) (isOne : delimiter ∈ delimiters) (begins : delimiter <+: text) :
          delimiter.length ≠ limit + 1 := by
        intro size
        rw [filter_firstBytes?.mpr ⟨isOne, begins, size⟩] at found
        cases found
      rw [Option.none_or]
      rcases ih with ⟨none, longer⟩ | ⟨delimiter, isOne, taken, begins, longest⟩
      · refine .inl ⟨none, fun delimiter isOne begins => ?_⟩
        have := longer delimiter isOne begins
        have := other delimiter isOne begins
        omega
      · refine .inr ⟨delimiter, isOne, taken, begins, fun next nextOne nextBegins => ?_⟩
        have := longest next nextOne nextBegins
        have := other next nextOne nextBegins
        omega

theorem delimiterAt?_cases (text : Text) :
    (delimiterAt? text = none ∧ ∀ delimiter ∈ delimiters, ¬ delimiter <+: text) ∨
      ∃ delimiter, delimiterAt? text = some delimiter ∧ IsLongest delimiter text := by
  rcases longestWithin_cases text longestDelimiter with
    ⟨none, longer⟩ | ⟨delimiter, isOne, taken, begins, longest⟩
  · refine .inl ⟨none, fun delimiter isOne begins => ?_⟩
    exact absurd (length_le_longestDelimiter delimiter isOne)
      (Nat.not_le.mpr (longer delimiter isOne begins))
  · refine .inr ⟨delimiter, taken, isOne, begins, fun other otherOne otherBegins => ?_⟩
    exact (longest other otherOne otherBegins).resolve_left
      (Nat.not_lt.mpr (length_le_longestDelimiter other otherOne))

/-- Where no delimiter is found, none begins. -/
theorem delimiterAt?_eq_none {text : Text} :
    delimiterAt? text = none ↔ ∀ delimiter ∈ delimiters, ¬ delimiter <+: text := by
  rcases delimiterAt?_cases text with ⟨none, noneBegins⟩ | ⟨delimiter, found, isLongest⟩
  · exact iff_of_true none noneBegins
  · rw [found]
    exact ⟨nofun, fun noneBegins => absurd isLongest.begins (noneBegins _ isLongest.isOne)⟩

theorem IsLongest.unique {first second text : Text} (left : IsLongest first text)
    (right : IsLongest second text) : first = second := by
  have shorter := right.longest first left.isOne left.begins
  have longer := left.longest second right.isOne right.begins
  exact (List.prefix_of_prefix_length_le left.begins right.begins shorter).eq_of_length_le longer

/-- The delimiter that is found is the longest one that the text begins with. -/
theorem delimiterAt?_eq_some {text delimiter : Text} :
    delimiterAt? text = some delimiter ↔ IsLongest delimiter text := by
  rcases delimiterAt?_cases text with ⟨none, noneBegins⟩ | ⟨found, isFound, isLongest⟩
  · rw [none]
    exact ⟨nofun, fun other => absurd other.begins (noneBegins _ other.isOne)⟩
  · rw [isFound, Option.some.injEq]
    exact ⟨fun same => same ▸ isLongest, isLongest.unique⟩

/-- Delimiters have one or two characters, so two lengths need trying. -/
theorem delimiterAt?_eq (text : Text) :
    delimiterAt? text =
      if isDelimiter (text.take 2) then some (text.take 2)
      else if isDelimiter (text.take 1) then some (text.take 1)
      else none := by
  have taken {delimiter : Text} (isOne : delimiter ∈ delimiters) (begins : delimiter <+: text) :
      delimiter = text.take 1 ∨ delimiter = text.take 2 := by
    have same := List.prefix_iff_eq_take.mp begins
    rcases (delimiter_size _ isOne).1 with one | two
    · exact .inl (one ▸ same)
    · exact .inr (two ▸ same)
  have shorter : (text.take 1).length ≤ (text.take 2).length := by
    simp only [List.length_take]
    omega
  split
  case isTrue isTwo =>
    refine delimiterAt?_eq_some.mpr ⟨isDelimiter_iff.mp isTwo, List.take_prefix _ _, ?_⟩
    intro other isOne begins
    rcases taken isOne begins with rfl | rfl
    · exact shorter
    · exact le_rfl
  case isFalse notTwo =>
    split
    case isTrue isOne =>
      refine delimiterAt?_eq_some.mpr ⟨isDelimiter_iff.mp isOne, List.take_prefix _ _, ?_⟩
      intro other otherOne begins
      rcases taken otherOne begins with rfl | rfl
      · exact le_rfl
      · exact absurd (isDelimiter_iff.mpr otherOne) notTwo
    case isFalse notOne =>
      refine delimiterAt?_eq_none.mpr fun other otherOne begins => ?_
      rcases taken otherOne begins with rfl | rfl
      · exact notOne (isDelimiter_iff.mpr otherOne)
      · exact notTwo (isDelimiter_iff.mpr otherOne)

/-- A delimiter that no longer one shares a character with. -/
def Solo (c : Char) : Prop :=
  [c] ∈ delimiters ∧ ∀ delimiter ∈ delimiters, c ∈ delimiter → delimiter = [c]

instance (c : Char) : Decidable (Solo c) :=
  inferInstanceAs (Decidable (_ ∧ _))

theorem Solo.single {c : Char} (solo : Solo c) : isDelimiter [c] :=
  isDelimiter_iff.mpr solo.1

/-- A delimiter is one wherever it stands after a text: no longer one begins with it, and none ends
with it that the text ends with the start of. -/
structure Cuts (front : Text) (c : Char) : Prop where
  /-- It is a delimiter. -/
  single : isDelimiter [c]
  /-- No longer one begins with it. -/
  begins : ∀ delimiter ∈ delimiters, delimiter.head? = some c → delimiter = [c]
  /-- None ends with it that begins in the text. -/
  apart : ∀ last ∈ front.getLast?, isDelimiter [last, c] = false

theorem Solo.cuts {c : Char} (solo : Solo c) (front : Text) : Cuts front c where
  single := solo.single
  begins delimiter isOne starts := solo.2 delimiter isOne (List.mem_of_mem_head? starts)
  apart last _ := by
    refine Bool.eq_false_iff.mpr fun isOne => ?_
    cases solo.2 _ (isDelimiter_iff.mp isOne) (by simp)

theorem Cuts.delimiterAt?_cons {front : Text} {c : Char} (cuts : Cuts front c) (rest : Text) :
    delimiterAt? (c :: rest) = some [c] := by
  rw [delimiterAt?_eq]
  split
  case isTrue isOne =>
    have same := cuts.begins _ (isDelimiter_iff.mp isOne) (by simp)
    rw [same]
  case isFalse => simp [cuts.single]

theorem Solo.delimiterAt?_cons {c : Char} (solo : Solo c) (rest : Text) :
    delimiterAt? (c :: rest) = some [c] :=
  (solo.cuts []).delimiterAt?_cons rest

/-- Whether a delimiter begins at a place does not depend on a character further on that no
delimiter reaches. -/
theorem delimiterAt?_append {front : Text} {c : Char} (notEmpty : front ≠ [])
    (apart : ∀ last ∈ front.getLast?, isDelimiter [last, c] = false) (back : Text) :
    delimiterAt? (front ++ c :: back) = delimiterAt? front := by
  rcases front with _ | ⟨first, _ | ⟨second, front⟩⟩
  · exact absurd rfl notEmpty
  · have pair : delimiterAt? ([first] ++ c :: back) =
        if isDelimiter [first, c] then some [first, c]
        else if isDelimiter [first] then some [first] else none := delimiterAt?_eq _
    have alone : delimiterAt? [first] =
        if isDelimiter [first] then some [first]
        else if isDelimiter [first] then some [first] else none := delimiterAt?_eq _
    rw [pair, alone, apart first rfl]
    cases isDelimiter [first] <;> rfl
  · rw [delimiterAt?_eq, delimiterAt?_eq]
    rfl

/-! ## One step of the scan -/

theorem ofTextFrom_eq_drop (word : Text) (pending : Nat) (text : Text) :
    ofTextFrom word pending text = ofTextFrom word 0 (text.drop pending) := by
  induction text generalizing pending with
  | nil => simp [ofTextFrom]
  | cons c rest ih =>
    cases pending with
    | zero => rfl
    | succ pending => exact ih pending

/-- Where a delimiter begins, the word before it is given, and then the delimiter. -/
theorem ofTextFrom_of_delimiter {delimiter rest : Text}
    (found : delimiterAt? (delimiter ++ rest) = some delimiter) (word : Text) :
    ofTextFrom word 0 (delimiter ++ rest) = flush word (delimiter :: ofText rest) := by
  cases delimiter with
  | nil => exact absurd rfl (delimiter_ne_nil (delimiterAt?_eq_some.mp found).isOne)
  | cons c front =>
    rw [List.cons_append] at found ⊢
    rw [ofTextFrom, found]
    simp [ofTextFrom_eq_drop [] front.length, ofText]

/-- Where no delimiter begins, the character goes to the end of the word. -/
theorem ofTextFrom_of_none {c : Char} {rest : Text} (none : delimiterAt? (c :: rest) = .none)
    (word : Text) : ofTextFrom word 0 (c :: rest) = ofTextFrom (word ++ [c]) 0 rest := by
  rw [ofTextFrom, none]

/-- Where a delimiter begins, it is the next lexeme. -/
theorem ofText_of_delimiter {delimiter rest : Text}
    (found : delimiterAt? (delimiter ++ rest) = some delimiter) :
    ofText (delimiter ++ rest) = delimiter :: ofText rest :=
  ofTextFrom_of_delimiter found []

/-- Induction along the scan: either a delimiter comes next, or a character of a word. -/
theorem scan_induction {motive : Text → Prop} (nil : motive [])
    (delimiter : ∀ delimiter rest, delimiterAt? (delimiter ++ rest) = some delimiter →
      motive rest → motive (delimiter ++ rest))
    (character : ∀ c rest, delimiterAt? (c :: rest) = none → motive rest → motive (c :: rest))
    (text : Text) : motive text := by
  induction size : text.length using Nat.strong_induction_on generalizing text with
  | _ size ih =>
    subst size
    cases text with
    | nil => exact nil
    | cons c rest =>
      cases found : delimiterAt? (c :: rest) with
      | none => exact character c rest found (ih rest.length (by simp) rest rfl)
      | some taken =>
        obtain ⟨isOne, ⟨back, shape⟩, -⟩ := delimiterAt?_eq_some.mp found
        rw [← shape] at found ⊢
        refine delimiter taken back found (ih back.length ?_ back rfl)
        have longer : 0 < taken.length := List.length_pos_iff.mpr (delimiter_ne_nil isOne)
        rw [← shape, List.length_append]
        omega

/-! ## The lexemes of a text -/

@[simp]
theorem flush_cons (c : Char) (word : Text) (lexemes : List Text) :
    flush (c :: word) lexemes = (c :: word) :: lexemes := rfl

theorem flatten_flush (word : Text) (lexemes : List Text) :
    (flush word lexemes).flatten = word ++ lexemes.flatten := by
  cases word <;> rfl

theorem flatten_ofTextFrom (word text : Text) :
    (ofTextFrom word 0 text).flatten = word ++ text := by
  induction text using scan_induction generalizing word with
  | nil => exact flatten_flush word []
  | delimiter delimiter rest found ih =>
    rw [ofTextFrom_of_delimiter found, flatten_flush, List.flatten_cons, ofText, ih,
      List.nil_append]
  | character c rest none ih =>
    rw [ofTextFrom_of_none none, ih, List.append_assoc, List.singleton_append]

/-- Joined again, the lexemes are the text. -/
theorem flatten_ofText (text : Text) : (ofText text).flatten = text :=
  flatten_ofTextFrom [] text

/-- Where no delimiter is found, nothing that the text begins with is one. -/
theorem isDelimiter_of_none {text part : Text} (none : delimiterAt? text = .none)
    (begins : part <+: text) : isDelimiter part = false :=
  Bool.eq_false_iff.mpr fun isOne =>
    delimiterAt?_eq_none.mp none part (isDelimiter_iff.mp isOne) begins

/-- A word that a character is put in front of does not become a delimiter. -/
theorem isDelimiter_cons_word {first : Char} {rest word : Text} {lexemes : List Text}
    (none : delimiterAt? (first :: rest) = .none) (known : ofText rest = word :: lexemes) :
    isDelimiter (first :: word) = false := by
  refine isDelimiter_of_none none ⟨lexemes.flatten, ?_⟩
  have whole := flatten_ofText rest
  rw [known, List.flatten_cons] at whole
  rw [List.cons_append, whole]

/-- Puts a word in front of lexemes: into the word they begin with, or as a word of its own before a
delimiter. -/
def prependWord (word : Text) : List Text → List Text
  | [] => flush word []
  | lexeme :: lexemes =>
    if isDelimiter lexeme then flush word (lexeme :: lexemes) else (word ++ lexeme) :: lexemes

/-- What is held back as a word is put in front of the lexemes of what follows. -/
theorem ofTextFrom_eq_prependWord (word text : Text) :
    ofTextFrom word 0 text = prependWord word (ofText text) := by
  induction text using scan_induction generalizing word with
  | nil => rfl
  | delimiter delimiter rest found ih =>
    have isOne := isDelimiter_iff.mpr (delimiterAt?_eq_some.mp found).isOne
    rw [ofTextFrom_of_delimiter found, ofText_of_delimiter found, prependWord, if_pos isOne]
  | character c rest none ih =>
    have alone : isDelimiter [c] = false := isDelimiter_of_none none ⟨rest, rfl⟩
    have one : ofText (c :: rest) = prependWord [c] (ofText rest) :=
      (ofTextFrom_of_none none []).trans (ih [c])
    rw [ofTextFrom_of_none none, ih, one]
    cases known : ofText rest with
    | nil => simp [prependWord, flush, alone]
    | cons lexeme lexemes =>
      have longer := isDelimiter_cons_word none known
      cases isOne : isDelimiter lexeme <;> simp [prependWord, flush, alone, isOne, longer]

/-- Where no delimiter begins, the character goes in front of the word after it. -/
theorem ofText_of_none {c : Char} {rest : Text} (none : delimiterAt? (c :: rest) = .none) :
    ofText (c :: rest) = prependWord [c] (ofText rest) :=
  (ofTextFrom_of_none none []).trans (ofTextFrom_eq_prependWord [c] rest)

/-- A solo character is a lexeme of its own. -/
theorem eq_singleton_of_mem_ofText {c : Char} (solo : Solo c) {text lexeme : Text}
    (member : lexeme ∈ ofText text) (inside : c ∈ lexeme) : lexeme = [c] := by
  induction text using scan_induction generalizing lexeme with
  | nil => cases member
  | delimiter delimiter rest found ih =>
    rw [ofText_of_delimiter found, List.mem_cons] at member
    rcases member with rfl | later
    · exact solo.2 _ (delimiterAt?_eq_some.mp found).isOne inside
    · exact ih later inside
  | character first rest none ih =>
    have other : c ≠ first := by
      intro equal
      subst equal
      rw [solo.delimiterAt?_cons] at none
      cases none
    rw [ofText_of_none none] at member
    cases lexemes : ofText rest with
    | nil =>
      rw [lexemes, prependWord, flush_cons, List.mem_singleton] at member
      rw [member, List.mem_singleton] at inside
      exact absurd inside other
    | cons next more =>
      rw [lexemes, prependWord, flush_cons, List.singleton_append] at member
      rw [lexemes] at ih
      split at member
      case isTrue =>
        rw [List.mem_cons] at member
        rcases member with rfl | later
        · exact absurd (List.mem_singleton.mp inside) other
        · exact ih later inside
      case isFalse notDelimiter =>
        rw [List.mem_cons] at member
        rcases member with rfl | later
        · have isSolo : next = [c] :=
            ih List.mem_cons_self ((List.mem_cons.mp inside).resolve_left other)
          rw [isSolo] at notDelimiter
          exact absurd solo.single notDelimiter
        · exact ih (List.mem_cons_of_mem _ later) inside

theorem prependWord_append {c : Char} (single : isDelimiter [c]) (first : Char)
    (front back : List Text) :
    prependWord [first] (front ++ [c] :: back) = prependWord [first] front ++ [c] :: back := by
  cases front with
  | nil => simp [prependWord, single]
  | cons lexeme front =>
    rw [List.cons_append, prependWord, prependWord]
    split <;> rfl

theorem ofText_solo {c : Char} (solo : Solo c) (rest : Text) :
    ofText (c :: rest) = [c] :: ofText rest :=
  @ofText_of_delimiter [c] rest (solo.delimiterAt?_cons rest)

theorem Cuts.of_append {front rest : Text} {c : Char} (cuts : Cuts (front ++ rest) c) :
    Cuts rest c where
  single := cuts.single
  begins := cuts.begins
  apart last isLast := by
    refine cuts.apart last ?_
    rw [List.getLast?_append, isLast]
    rfl

/-- What stands before a delimiter that cuts a text and what stands after it is read by itself. -/
theorem ofText_append {front : Text} {c : Char} (cuts : Cuts front c) (back : Text) :
    ofText (front ++ c :: back) = ofText front ++ [c] :: ofText back := by
  induction front using scan_induction with
  | nil => exact @ofText_of_delimiter [c] back (cuts.delimiterAt?_cons back)
  | delimiter delimiter rest found ih =>
    have notEmpty := List.append_ne_nil_of_left_ne_nil
      (delimiter_ne_nil (delimiterAt?_eq_some.mp found).isOne) rest
    have foundWhole : delimiterAt? (delimiter ++ (rest ++ c :: back)) = some delimiter := by
      rw [← List.append_assoc, delimiterAt?_append notEmpty cuts.apart, found]
    rw [List.append_assoc, ofText_of_delimiter foundWhole, ih cuts.of_append,
      ofText_of_delimiter found, List.cons_append]
  | character first rest none ih =>
    have noneWhole : delimiterAt? (first :: (rest ++ c :: back)) = .none :=
      (delimiterAt?_append (List.cons_ne_nil first rest) cuts.apart back).trans none
    have later : Cuts rest c := @Cuts.of_append [first] rest c cuts
    rw [List.cons_append, ofText_of_none noneWhole, ih later, prependWord_append cuts.single,
      ofText_of_none none]

/-- A solo character cuts a text: what stands before it and after it is read by itself. -/
theorem ofText_append_solo {c : Char} (solo : Solo c) (front back : Text) :
    ofText (front ++ c :: back) = ofText front ++ [c] :: ofText back :=
  ofText_append (solo.cuts front) back

/-! ## Words -/

/-- A character that no delimiter has. -/
def InWord (c : Char) : Prop :=
  ∀ delimiter ∈ delimiters, c ∉ delimiter

instance (c : Char) : Decidable (InWord c) :=
  inferInstanceAs (Decidable (∀ delimiter ∈ delimiters, c ∉ delimiter))

theorem InWord.not_isDelimiter {c : Char} (inWord : InWord c) {text : Text} (member : c ∈ text) :
    isDelimiter text = false := by
  refine Bool.eq_false_iff.mpr fun isOne => ?_
  exact inWord text (isDelimiter_iff.mp isOne) member

/-- A text without delimiters is one word. -/
theorem ofText_word {word : Text} (notEmpty : word ≠ []) (inWord : ∀ c ∈ word, InWord c) :
    ofText word = [word] := by
  induction word with
  | nil => exact absurd rfl notEmpty
  | cons c rest ih =>
    have free := inWord c List.mem_cons_self
    have none : delimiterAt? (c :: rest) = .none := by
      simp [delimiterAt?_eq, free.not_isDelimiter]
    rw [ofText_of_none none]
    cases rest with
    | nil => rfl
    | cons next more =>
      have nextFree := inWord next (by simp)
      rw [ih (by simp) fun c member => inWord c (List.mem_cons_of_mem _ member), prependWord,
        nextFree.not_isDelimiter List.mem_cons_self]
      rfl

end Lexeme

end FullTextQuery
