import FullTextQuery.Proofs.LoweredText
import Mathlib.Data.List.Infix

/-!
# What cleaning keeps

Cleaning a query drops blanks, stray hyphens, field markers and entities, and nothing else. A
character that is none of these is kept by every step, in its place: that is what filtering by `p`
says below, for a `p` that holds of no blank and, where hyphens go, of no hyphen. For the quotes and
brackets, which the last step leaves as they are, `filter_isMark_ofRaw` puts the steps together: the
clean text has those of the query in their order, each in its plain form.
-/

namespace FullTextQuery

namespace Text

open Character

variable {p : Char → Bool}

/-! ## Blanks and runs -/

theorem filter_dropWhile {q : Char → Bool} (dropped : ∀ c, q c → p c = false) (text : Text) :
    (text.dropWhile q).filter p = text.filter p := by
  induction text with
  | nil => rfl
  | cons c rest ih =>
    rw [List.dropWhile_cons]
    split
    case isTrue drops => rw [ih, List.filter_cons_of_neg (by simp [dropped c drops])]
    case isFalse => rfl

section Blanks

variable (noBlank : ∀ c, Character.isBlank c → p c = false)

include noBlank

theorem filter_trimEnd (text : Text) : (trimEnd text).filter p = text.filter p := by
  induction text with
  | nil => rfl
  | cons c rest ih =>
    rw [List.filter_cons, ← ih, trimEnd]
    cases trimEnd rest with
    | cons next more => exact List.filter_cons
    | nil =>
      cases blank : Character.isBlank c with
      | true => simp [noBlank c blank]
      | false => exact List.filter_cons

theorem filter_trim (text : Text) : (trim text).filter p = text.filter p := by
  rw [trim, filter_trimEnd noBlank, trimStart, filter_dropWhile noBlank]

theorem filter_squeezeBlanksFrom (within : Bool) (text : Text) :
    (squeezeBlanksFrom within text).filter p = text.filter p := by
  induction text generalizing within with
  | nil => rfl
  | cons c rest ih =>
    have space : p ' ' = false := noBlank ' ' (by decide)
    rw [squeezeBlanksFrom]
    split
    case isFalse => rw [List.filter_cons, List.filter_cons, ih]
    case isTrue blank =>
      rw [@List.filter_cons_of_neg _ p c rest (by simp [noBlank c blank])]
      split
      · exact ih true
      · split
        · rw [List.filter_cons_of_neg (by simp [space]), ih]
        · rw [List.filter_cons_of_neg (by simp [noBlank c blank]), ih]

theorem filter_squeezeBlanks (text : Text) : (squeezeBlanks text).filter p = text.filter p :=
  filter_squeezeBlanksFrom noBlank false text

end Blanks

theorem filter_squeeze {mark : Char} (dropped : p mark = false) (text : Text) :
    (squeeze mark text).filter p = text.filter p := by
  induction text with
  | nil => rfl
  | cons c rest ih =>
    rw [squeeze]
    split
    case isTrue repeats =>
      rw [ih, List.filter_cons_of_neg (by simp [repeats.1, dropped])]
    case isFalse => rw [List.filter_cons, List.filter_cons, ih]

/-- One step after the other. -/
def inTurn (steps : List (Text → Text)) (text : Text) : Text :=
  steps.foldl (fun text step => step text) text

theorem afterFolded?_eq_some {lead text after : Text}
    (found : afterFolded? lead text = some after) :
    ∃ front, text = front ++ after ∧ front.map afterFolded?.foldCase = lead := by
  induction lead generalizing text with
  | nil =>
    obtain rfl : text = after := by simpa [afterFolded?] using found
    exact ⟨[], rfl, rfl⟩
  | cons l lead ih =>
    cases text with
    | nil => cases found
    | cons c text =>
      rw [afterFolded?] at found
      split at found
      case isTrue same =>
        obtain ⟨front, rfl, folded⟩ := ih found
        exact ⟨c :: front, rfl, by rw [List.map_cons, same, folded]⟩
      case isFalse => cases found

end Text

namespace CleanText

open Text Character

variable {p : Char → Bool}

/-! ## Lines and hyphens -/

section Blanks

variable (noBlank : ∀ c, Character.isBlank c → p c = false)

include noBlank

theorem filter_dropIndentsFrom (lineStart : Bool) (text : Text) :
    (dropIndentsFrom lineStart text).filter p = text.filter p := by
  induction text generalizing lineStart with
  | nil => rfl
  | cons c rest ih =>
    rw [dropIndentsFrom]
    split
    case isTrue drops =>
      rw [Bool.and_eq_true] at drops
      rw [ih, List.filter_cons_of_neg (by simp [noBlank c drops.2])]
    case isFalse => rw [List.filter_cons, List.filter_cons, ih]

theorem filter_dropLineTails (text : Text) : (dropLineTails text).filter p = text.filter p := by
  induction text with
  | nil => rfl
  | cons c rest ih =>
    rw [dropLineTails]
    split
    case isTrue drops =>
      rw [Bool.and_eq_true] at drops
      rw [ih, List.filter_cons_of_neg (by simp [noBlank c drops.1])]
    case isFalse => rw [List.filter_cons, List.filter_cons, ih]

theorem filter_dropStrayHyphensFrom (noHyphen : p '-' = false) (afterWord : Bool) (text : Text) :
    (dropStrayHyphensFrom afterWord text).filter p = text.filter p := by
  have space : p ' ' = false := noBlank ' ' (by decide)
  fun_induction dropStrayHyphensFrom afterWord text with
  | case1 afterWord a b c rest stray ih =>
    obtain ⟨blankA, rfl, blankC⟩ := stray
    simp [noBlank a blankA, noBlank c blankC, noHyphen, space, ih]
  | case2 afterWord a b c rest _ stray ih =>
    obtain ⟨-, rfl, blankB⟩ := stray
    simp [noBlank b blankB, noHyphen, space, ih]
  | case3 afterWord a b c rest _ _ ih => rw [List.filter_cons, ih, ← List.filter_cons]
  | case4 afterWord a b stray =>
    obtain ⟨-, rfl, blankB⟩ := stray
    simp [noBlank b blankB, noHyphen, space]
  | case5 | case6 => rfl

end Blanks

/-! ## Markers and entities -/

/-- What a marker takes is no more than the letters of the marker. -/
theorem filter_drop_marker {lead : Text} {c : Char} {rest after : Text}
    (found : afterFolded? lead (c :: rest) = some after) (notEmpty : lead ≠ [])
    (dropped : ∀ c, afterFolded?.foldCase c ∈ lead → p c = false) :
    (rest.drop (lead.length - 1)).filter p = (c :: rest).filter p := by
  obtain ⟨front, parts, folded⟩ := afterFolded?_eq_some found
  have gone (first : Char) (member : first ∈ front) : p first = false :=
    dropped first (folded ▸ List.mem_map_of_mem member)
  cases front with
  | nil => exact absurd folded.symm notEmpty
  | cons first front =>
    rw [List.cons_append] at parts
    obtain ⟨rfl, rfl⟩ := List.cons.inj parts
    have length : front.length = lead.length - 1 := by simp [← folded]
    have none : (c :: front).filter p = [] := List.filter_eq_nil_iff.mpr (by simpa using gone)
    rw [← length, List.drop_left, ← List.cons_append, List.filter_append, none, List.nil_append]

/-- A marker is skipped as its letters are pending, so the text that is filtered is the one after
them. -/
theorem filter_dropTitleMarkersFrom (space : p ' ' = false)
    (dropped : ∀ c, afterFolded?.foldCase c ∈ ['t', 'i', 't', 'l', 'e', ':'] → p c = false)
    (pending : Nat) (text : Text) :
    (dropTitleMarkersFrom pending text).filter p = (text.drop pending).filter p := by
  induction text generalizing pending with
  | nil => simp [dropTitleMarkersFrom]
  | cons c rest ih =>
    cases pending with
    | succ pending => exact ih pending
    | zero =>
      rw [dropTitleMarkersFrom]
      split
      case isTrue isMarker =>
        obtain ⟨after, found⟩ := Option.isSome_iff_exists.mp isMarker
        rw [List.filter_cons_of_neg (by simp [space]), ih]
        exact filter_drop_marker found (by simp) dropped
      case isFalse => rw [List.filter_cons, ih, List.drop_zero, List.drop_zero, ← List.filter_cons]

theorem isEntityLine_eq_true {line : Text} (entity : emptyEntityLinesFrom.isEntityLine line) :
    ∃ after, afterFolded? ['&', 'n', 'b', 's', 'p', ';'] line = some after := by
  rw [emptyEntityLinesFrom.isEntityLine] at entity
  split at entity
  · cases entity
  · exact ⟨_, ‹_›⟩
  · exact ⟨_, ‹_›⟩

theorem filter_emptyEntityLinesFrom
    (dropped : ∀ c, afterFolded?.foldCase c ∈ ['&', 'n', 'b', 's', 'p', ';'] → p c = false)
    (lineStart : Bool) (pending : Nat) (text : Text) :
    (emptyEntityLinesFrom lineStart pending text).filter p = (text.drop pending).filter p := by
  induction text generalizing lineStart pending with
  | nil => simp [emptyEntityLinesFrom]
  | cons c rest ih =>
    cases pending with
    | succ pending => exact ih false pending
    | zero =>
      rw [emptyEntityLinesFrom]
      split
      case isTrue isEntity =>
        rw [Bool.and_eq_true] at isEntity
        obtain ⟨after, found⟩ := isEntityLine_eq_true isEntity.2
        rw [ih]
        exact filter_drop_marker found (by simp) dropped
      case isFalse => rw [List.filter_cons, ih, List.drop_zero, List.drop_zero, ← List.filter_cons]

/-! ## All steps but the last -/

/-- The steps that drop blanks, entities and stray hyphens. -/
def paringSteps : List (Text → Text) :=
  [squeeze ' ', dropIndents, dropLineTails, squeeze '\n', List.dropWhile (· == ' '),
    emptyEntityLines, dropStrayHyphens, squeezeBlanks, trim]

/-- The query before its letters are lowered. -/
def pared (query : Text) : Text :=
  inTurn paringSteps ((dropTitleMarkers query).map plainMark)

theorem ofRaw_eq_lowercase (query : Text) : ofRaw query = lowercase (pared query) := rfl

theorem filter_pared (noBlank : ∀ c, Character.isBlank c → p c = false) (noHyphen : p '-' = false)
    (entities : ∀ c, afterFolded?.foldCase c ∈ ['&', 'n', 'b', 's', 'p', ';'] → p c = false)
    (query : Text) :
    (pared query).filter p = ((dropTitleMarkers query).map plainMark).filter p := by
  have space : p ' ' = false := noBlank ' ' (by decide)
  have lineFeed : p '\n' = false := noBlank '\n' (by decide)
  simp only [pared, inTurn, paringSteps, List.foldl_cons, List.foldl_nil]
  rw [filter_trim noBlank, filter_squeezeBlanks noBlank, dropStrayHyphens,
    filter_dropStrayHyphensFrom noBlank noHyphen, emptyEntityLines,
    filter_emptyEntityLinesFrom entities, List.drop_zero,
    filter_dropWhile (by simpa using space), filter_squeeze lineFeed, filter_dropLineTails noBlank,
    dropIndents, filter_dropIndentsFrom noBlank, filter_squeeze space]

/-! ## Quotes and brackets -/

/-- The quotes and brackets of clean text. -/
def isMark (c : Char) : Bool :=
  ['\"', '(', ')'].contains c

theorem isMark_eq_true {c : Char} (mark : isMark c) : c = '\"' ∨ c = '(' ∨ c = ')' := by
  simpa [isMark] using mark

theorem isMark_of_blank (c : Char) (blank : Character.isBlank c) : isMark c = false := by
  refine Bool.eq_false_iff.mpr fun mark => ?_
  rcases isMark_eq_true mark with rfl | rfl | rfl
  · exact absurd blank (by decide)
  · exact absurd blank (by decide)
  · exact absurd blank (by decide)

theorem plainMark_of_not_mem {c : Char}
    (other : c ∉ ['\x7b', '[', '\x7d', ']', '\u201c', '\u201d']) : plainMark c = c := by
  simp only [List.mem_cons, List.not_mem_nil, or_false, not_or] at other
  simp [plainMark, other]

theorem isMark_plainMark_eq_true {c : Char} (mark : isMark (plainMark c)) :
    c ∈ ['\"', '\u201c', '\u201d', '(', '[', '\x7b', ')', ']', '\x7d'] := by
  by_contra other
  simp only [List.mem_cons, List.not_mem_nil, or_false, not_or] at other
  have same : plainMark c = c := by simp [plainMark, other]
  rw [same] at mark
  rcases isMark_eq_true mark with rfl | rfl | rfl
  · exact other.1 rfl
  · exact other.2.2.2.1 rfl
  · exact other.2.2.2.2.2.2.1 rfl

theorem isMark_of_isWordPart (c : Char) (word : Character.isWordPart c) : isMark c = false := by
  refine Bool.eq_false_iff.mpr fun mark => ?_
  rcases isMark_eq_true mark with rfl | rfl | rfl
  · exact absurd word (by decide +kernel)
  · exact absurd word (by decide +kernel)
  · exact absurd word (by decide +kernel)

/-- Cleaning keeps the quotes and brackets of a query, in their order and in plain form. -/
theorem filter_isMark_ofRaw (query : Text) :
    (ofRaw query).filter isMark = (query.map plainMark).filter isMark := by
  have markers : (dropTitleMarkers query).filter (isMark ∘ plainMark) =
      query.filter (isMark ∘ plainMark) := by
    refine filter_dropTitleMarkersFrom rfl (fun c folded => ?_) 0 query
    refine Bool.eq_false_iff.mpr fun mark => ?_
    have known := isMark_plainMark_eq_true mark
    have apart : ['\"', '\u201c', '\u201d', '(', '[', '\x7b', ')', ']', '\x7d'].all fun c =>
        afterFolded?.foldCase c ∉ ['t', 'i', 't', 'l', 'e', ':'] := by decide
    exact of_decide_eq_true (List.all_eq_true.mp apart c known) folded
  have entities (c : Char) (folded : afterFolded?.foldCase c ∈ ['&', 'n', 'b', 's', 'p', ';']) :
      isMark c = false := by
    refine Bool.eq_false_iff.mpr fun mark => ?_
    rcases isMark_eq_true mark with rfl | rfl | rfl
    · exact absurd folded (by decide)
    · exact absurd folded (by decide)
    · exact absurd folded (by decide)
  rw [ofRaw_eq_lowercase, lowercase, filter_lowercaseFrom isMark_of_isWordPart,
    filter_pared isMark_of_blank rfl entities, List.filter_map, markers, ← List.filter_map]

end CleanText

end FullTextQuery
