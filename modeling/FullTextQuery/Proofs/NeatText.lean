import FullTextQuery.Proofs.Marks
import FullTextQuery.Proofs.Passing

/-!
# Neat text

A text is `Neat` if cleaning finds nothing in it to change but its capitals: no field marker, no
mark of another shape, no line that is an entity, no stray hyphen, and blanks that stand alone
between visible characters. `ofRaw_of_neat` takes the steps one by one. Each walks over the text
with the little it has to know of what came before, and so does the check for what it looks for.
-/

namespace FullTextQuery

namespace Text

/-- Neighbours that are not both blank. -/
def BlanksApart (left right : Char) : Prop :=
  ¬ (Character.isBlank left ∧ Character.isBlank right)

instance (left right : Char) : Decidable (BlanksApart left right) :=
  inferInstanceAs (Decidable (¬ (_ ∧ _)))

theorem squeeze_cons {mark c : Char} {rest : Text}
    (good : ∀ next ∈ rest.head?, ¬ (c = mark ∧ next = mark)) :
    squeeze mark (c :: rest) = c :: squeeze mark rest := by
  rw [squeeze, if_neg fun repeats => good mark repeats.2 ⟨repeats.1, rfl⟩]

theorem squeeze_eq_self {mark : Char} (blank : Character.isBlank mark) {text : Text}
    (apart : text.IsChain BlanksApart) : squeeze mark text = text := by
  refine step_eq_self rfl (fun c rest => squeeze_cons) (apart.imp fun left right fine same => ?_)
  obtain ⟨rfl, rfl⟩ := same
  exact fine ⟨blank, blank⟩

theorem squeezeBlanks_eq_self {text : Text} (apart : text.IsChain BlanksApart) :
    squeezeBlanks text = text :=
  step_eq_self rfl (fun _ _ => squeezeBlanksFrom_cons) apart

end Text

namespace CleanText

open Text

/-! ## What the steps look for -/

/-- Whether a field marker begins somewhere. -/
def hasTitleMarker : Text → Bool
  | [] => false
  | c :: rest =>
    (afterFolded? ['t', 'i', 't', 'l', 'e', ':'] (c :: rest)).isSome || hasTitleMarker rest

/-- Whether some line is the entity alone. `lineStart` says that a line begins here. -/
def hasEntityLine (lineStart : Bool) : Text → Bool
  | [] => false
  | c :: rest =>
    lineStart && emptyEntityLinesFrom.isEntityLine (c :: rest) || hasEntityLine (c == '\n') rest

/-- Whether some hyphen is stray. `loose` says that one is if it comes next with a blank after it:
a word or a blank ends here. -/
def hasStrayHyphen (loose : Bool) : Text → Bool
  | a :: b :: rest =>
    loose && a == '-' && Character.isBlank b ||
      hasStrayHyphen (Character.isWordPart a || Character.isBlank a) (b :: rest)
  | _ => false

/-- A text in which cleaning changes nothing but capitals. -/
structure Neat (text : Text) : Prop where
  /-- No field marker. -/
  noMarker : hasTitleMarker text = false
  /-- Brackets are round and quotes are straight. -/
  plain : ∀ c ∈ text, plainMark c = c
  /-- Blanks stand alone. -/
  apart : text.IsChain BlanksApart
  /-- It does not begin with a blank. -/
  first : ∀ c ∈ text.head?, Character.isBlank c = false
  /-- It does not end with a blank. -/
  last : ∀ c ∈ text.getLast?, Character.isBlank c = false
  /-- No line is an entity. -/
  noEntity : hasEntityLine true text = false
  /-- No hyphen is stray. -/
  noStray : hasStrayHyphen false text = false

variable {text : Text}

/-! ## The steps on neat text -/

theorem dropTitleMarkers_eq_self (none : hasTitleMarker text = false) :
    dropTitleMarkers text = text := by
  unfold dropTitleMarkers
  induction text with
  | nil => rfl
  | cons c rest ih =>
    unfold hasTitleMarker at none
    rw [Bool.or_eq_false_iff] at none
    rw [dropTitleMarkersFrom, none.1, ih none.2]
    rfl

theorem emptyEntityLines_eq_self {lineStart : Bool} (none : hasEntityLine lineStart text = false) :
    emptyEntityLinesFrom lineStart 0 text = text := by
  induction text generalizing lineStart with
  | nil => rfl
  | cons c rest ih =>
    unfold hasEntityLine at none
    rw [Bool.or_eq_false_iff] at none
    rw [emptyEntityLinesFrom, none.1, ih none.2]
    rfl

theorem hasStrayHyphen_cons {c : Char}
    (good : ∀ next ∈ text.head?, ¬ (c = '-' ∧ Character.isBlank next))
    (none : hasStrayHyphen (Character.isWordPart c || Character.isBlank c) text = false)
    (loose : Bool) : hasStrayHyphen loose (c :: text) = false := by
  cases text with
  | nil => rfl
  | cons next text =>
    unfold hasStrayHyphen
    rw [none, Bool.or_false]
    refine Bool.eq_false_iff.mpr fun stray => good next rfl ?_
    rw [Bool.and_eq_true, Bool.and_eq_true, beq_iff_eq] at stray
    exact ⟨stray.1.2, stray.2⟩

/-- A hyphen that is not stray after a word or a blank is not stray. -/
theorem hasStrayHyphen_false {loose : Bool} (none : hasStrayHyphen loose text = false) :
    hasStrayHyphen false text = false := by
  cases text with
  | nil => rfl
  | cons a rest =>
    cases rest with
    | nil => rfl
    | cons b rest =>
      unfold hasStrayHyphen at none ⊢
      rw [Bool.or_eq_false_iff] at none
      rw [none.2]
      rfl

theorem hasStrayHyphen_left {loose other : Bool}
    (none : hasStrayHyphen (loose || other) text = false) : hasStrayHyphen loose text = false := by
  cases loose with
  | true => exact none
  | false => exact hasStrayHyphen_false none

/-- What `dropStrayHyphens` takes is a stray hyphen: a word ends before it, or a blank stands there
that the walk looks at first. -/
theorem dropStrayHyphens_eq_self {afterWord : Bool} (none : hasStrayHyphen afterWord text = false) :
    dropStrayHyphensFrom afterWord text = text := by
  fun_induction dropStrayHyphensFrom afterWord text with
  | case1 afterWord a b c rest stray ih =>
    obtain ⟨blankA, rfl, blankC⟩ := stray
    simp [hasStrayHyphen, blankA, blankC] at none
  | case2 afterWord a b c rest _ stray ih =>
    obtain ⟨afterWord, rfl, blank⟩ := stray
    simp [hasStrayHyphen, afterWord, blank] at none
  | case3 afterWord a b c rest _ _ ih =>
    unfold hasStrayHyphen at none
    rw [Bool.or_eq_false_iff] at none
    rw [ih (hasStrayHyphen_left none.2)]
  | case4 afterWord a b stray =>
    obtain ⟨afterWord, rfl, blank⟩ := stray
    simp [hasStrayHyphen, afterWord, blank] at none
  | case5 | case6 => rfl

/-- No line begins with a blank: the line feed before it would be a second one. -/
theorem dropIndentsFrom_eq_self {lineStart : Bool} (apart : text.IsChain BlanksApart)
    (first : lineStart → ∀ c ∈ text.head?, Character.isBlank c = false) :
    dropIndentsFrom lineStart text = text := by
  induction text generalizing lineStart with
  | nil => rfl
  | cons c rest ih =>
    have stays : ¬ (lineStart && Character.isBlank c) := by
      rw [Bool.and_eq_true]
      rintro ⟨start, blank⟩
      rw [first start c rfl] at blank
      cases blank
    rw [dropIndentsFrom, if_neg stays, ih apart.tail]
    intro breaks next isNext
    obtain rfl : c = '\n' := beq_iff_eq.mp breaks
    cases rest with
    | nil => cases isNext
    | cons first rest =>
      obtain rfl := Option.some.inj isNext
      rw [List.isChain_cons_cons] at apart
      exact Bool.eq_false_iff.mpr fun blank => apart.1 ⟨by decide, blank⟩

/-- No line ends with a blank: the line feed after it would be a second one. -/
theorem dropLineTails_eq_self (apart : text.IsChain BlanksApart)
    (last : ∀ c ∈ text.getLast?, Character.isBlank c = false) : dropLineTails text = text := by
  induction text with
  | nil => rfl
  | cons c rest ih =>
    have stays : ¬ (Character.isBlank c && endsLine rest) := by
      rw [Bool.and_eq_true]
      rintro ⟨blank, ends⟩
      cases rest with
      | nil =>
        rw [last c rfl] at blank
        cases blank
      | cons next rest =>
        rw [List.isChain_cons_cons] at apart
        have visible : Character.isBlank next = false :=
          Bool.eq_false_iff.mpr fun blankNext => apart.1 ⟨blank, blankNext⟩
        unfold endsLine at ends
        rw [List.dropWhile_cons, visible, Bool.false_and, if_neg (by simp)] at ends
        obtain rfl : next = '\n' := beq_iff_eq.mp ends
        exact absurd visible (by decide)
    rw [dropLineTails, if_neg stays]
    cases rest with
    | nil => rfl
    | cons next rest =>
      rw [List.getLast?_cons_cons] at last
      rw [ih apart.tail last]

/-- Nothing is pared off a neat text. -/
theorem pared_of_neat (neat : Neat text) : pared text = text := by
  have marks : (dropTitleMarkers text).map plainMark = text := by
    rw [dropTitleMarkers_eq_self neat.noMarker]
    exact (List.map_congr_left neat.plain).trans (List.map_id text)
  have dense : text.dropWhile (· == ' ') = text := by
    have first := neat.first
    cases text with
    | nil => rfl
    | cons c rest =>
      have noSpace : ¬ (c == ' ') := by
        intro isSpace
        have visible := first c rfl
        rw [beq_iff_eq.mp isSpace] at visible
        cases visible
      rw [List.dropWhile_cons, if_neg noSpace]
  have indents : dropIndents text = text :=
    dropIndentsFrom_eq_self neat.apart fun _ => neat.first
  have entities : emptyEntityLines text = text := emptyEntityLines_eq_self neat.noEntity
  have hyphens : dropStrayHyphens text = text := dropStrayHyphens_eq_self neat.noStray
  simp only [pared, inTurn, paringSteps, List.foldl_cons, List.foldl_nil]
  rw [marks, squeeze_eq_self (by decide) neat.apart, indents,
    dropLineTails_eq_self neat.apart neat.last, squeeze_eq_self (by decide) neat.apart, dense,
    entities, hyphens, squeezeBlanks_eq_self neat.apart, trim, trimStart_eq_self neat.first,
    trimEnd_eq_self neat.last]

/-- Cleaning lowers a neat text and changes nothing else. -/
theorem ofRaw_of_neat (neat : Neat text) : ofRaw text = lowercase text := by
  rw [ofRaw_eq_lowercase, pared_of_neat neat]

end CleanText

end FullTextQuery
