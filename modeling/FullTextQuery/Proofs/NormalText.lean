import FullTextQuery.Proofs.LetterCase
import FullTextQuery.Proofs.Loosening
import FullTextQuery.Proofs.SqueezedText

/-!
# The normal form of clean text

Whatever is typed, its clean text is in normal form (`normal_ofRaw`): no later step of cleaning
undoes what an earlier one has done. For blanks and marks this is seen from the few steps after the
one that is about them. No field marker comes back since the later steps loosen the text, and since
nothing but its own letters is lowered to a letter of the marker.
-/

namespace FullTextQuery

namespace Text

open Character

/-! ## Blanks -/

/-- Lowering brings no blanks together. -/
theorem isChain_lowercaseFrom {afterCased : Bool} {text : Text} (apart : text.IsChain BlanksApart) :
    (lowercaseFrom afterCased text).IsChain BlanksApart := by
  induction text generalizing afterCased with
  | nil => exact .nil
  | cons c rest ih =>
    rw [List.isChain_cons] at apart
    obtain ⟨later, shape | ⟨-, lowered, -, words, shape⟩⟩ :=
      lowercaseFrom_cons_cases afterCased c rest
    · rw [shape, List.isChain_cons]
      refine ⟨fun next isNext both => ?_, ih apart.2⟩
      have noWord := isWordPart_of_isBlank both.2
      exact apart.1 next (head?_of_lowercaseFrom noWord isNext) both
    · have visible (d : Char) (member : d ∈ lowered) : ¬ Character.isBlank d := by
        rw [isBlank_of_isWordPart (words d member)]
        exact Bool.false_ne_true
      have inside : lowered.Pairwise BlanksApart :=
        List.pairwise_of_forall_mem_list fun d member _ _ both => visible d member both.1
      rw [shape, List.isChain_append]
      exact ⟨inside.isChain, ih apart.2, fun d isLast next _ both =>
        visible d (List.mem_of_mem_getLast? isLast) both.1⟩

end Text

namespace CleanText

open Text Character

/-! ## Field markers -/

/-- The letters of a field marker. -/
def titleLetters : Text :=
  ['t', 'i', 't', 'l', 'e', ':']

/-- A text spells a field marker, in any letter case. -/
def IsTitleMarker (marker : Text) : Prop :=
  marker.map afterFolded?.foldCase = titleLetters

variable {marker text : Text}

theorem IsTitleMarker.folded_mem (isMarker : IsTitleMarker marker) {c : Char}
    (member : c ∈ marker) : afterFolded?.foldCase c ∈ titleLetters := by
  rw [← isMarker]
  exact List.mem_map_of_mem member

theorem IsTitleMarker.visible (isMarker : IsTitleMarker marker) :
    ∀ c ∈ marker, Character.isBlank c = false := by
  intro c member
  refine Bool.eq_false_iff.mpr fun blank => ?_
  have other : afterFolded?.foldCase c ∉ titleLetters :=
    forall_blank (motive := fun c => afterFolded?.foldCase c ∉ titleLetters) (by decide +kernel)
      blank
  exact other (isMarker.folded_mem member)

theorem afterFolded?_append_of_map {front lead : Text}
    (folded : front.map afterFolded?.foldCase = lead) (after : Text) :
    afterFolded? lead (front ++ after) = some after := by
  subst folded
  induction front with
  | nil => rfl
  | cons c front ih => rw [List.map_cons, List.cons_append, afterFolded?, if_pos rfl, ih]

/-- No marker is left. What comes after a character that is kept is loosened only, so a marker that
begins with this character would have begun with it before. -/
theorem not_infix_dropTitleMarkersFrom (isMarker : IsTitleMarker marker) (pending : Nat) :
    ¬ marker <:+: dropTitleMarkersFrom pending text := by
  have notEmpty : marker ≠ [] := by
    rintro rfl
    cases isMarker
  induction text generalizing pending with
  | nil => cases pending <;> simpa [dropTitleMarkersFrom] using notEmpty
  | cons c rest ih =>
    cases pending with
    | succ pending => exact ih pending
    | zero =>
      rw [dropTitleMarkersFrom]
      split
      case isTrue =>
        intro inside
        rcases List.infix_cons_iff.mp inside with isFirst | later
        · obtain ⟨first, more, rfl⟩ := List.exists_cons_of_ne_nil notEmpty
          obtain ⟨rfl, -⟩ := List.cons_prefix_cons.mp isFirst
          exact absurd (isMarker.visible ' ' List.mem_cons_self) (by decide)
        · exact ih 5 later
      case isFalse noMarker =>
        intro inside
        rcases List.infix_cons_iff.mp inside with isFirst | later
        · have loosens : Loosens false (c :: rest) (c :: dropTitleMarkersFrom 0 rest) :=
            .keep (loosens_dropTitleMarkersFrom (by simp))
          obtain ⟨after, whole⟩ := (loosens.word_isInfix isMarker.visible).2 rfl isFirst
          have found : afterFolded? titleLetters (c :: rest) = some after := by
            rw [← whole, afterFolded?_append_of_map isMarker]
          exact noMarker (Option.isSome_of_eq_some found)
        · exact ih 0 later

/-- Plain marks are no letters of a marker. -/
theorem infix_of_infix_map_plainMark (isMarker : IsTitleMarker marker)
    (inside : marker <:+: text.map plainMark) : marker <:+: text := by
  obtain ⟨front, part, rfl⟩ := List.infix_map_iff.mp inside
  have same : front.map plainMark = front := by
    refine (List.map_congr_left fun c member => ?_).trans (List.map_id front)
    refine (eq_of_plainMark_eq rfl (Bool.eq_false_iff.mpr fun mark => ?_)).symm
    have letter := isMarker.folded_mem (List.mem_map_of_mem member)
    rcases isMark_eq_true mark with plain | plain | plain
    · exact absurd (plain ▸ letter) (by decide)
    · exact absurd (plain ▸ letter) (by decide)
    · exact absurd (plain ▸ letter) (by decide)
  rwa [same]

/-- What stands together after a step stood together before it. -/
theorem word_infix_of_paringStep {word : Text} (visible : ∀ c ∈ word, Character.isBlank c = false) :
    ∀ step ∈ paringSteps, ∀ text, word <:+: step text → word <:+: text := by
  have loosened {text left : Text} (loosens : Loosens true text left) :
      word <:+: left → word <:+: text := (loosens.word_isInfix visible).1
  simp only [paringSteps, List.forall_mem_cons]
  exact ⟨fun _ => loosened (loosens_squeeze (by decide)),
    fun _ => loosened (loosens_dropIndentsFrom fun _ => rfl),
    fun _ => loosened loosens_dropLineTails,
    fun _ => loosened (loosens_squeeze (by decide)),
    fun _ => loosened (loosens_dropWhile _),
    fun _ => loosened (loosens_emptyEntityLinesFrom (fun _ => rfl) (by simp)),
    fun _ => loosened (loosens_dropStrayHyphensFrom false),
    fun _ => loosened (loosens_squeezeBlanksFrom (by simp)),
    fun text inside => inside.trans (trim_isInfix text), by simp⟩

theorem infix_of_infix_inTurn {word : Text} {steps : List (Text → Text)}
    (stays : ∀ step ∈ steps, ∀ text, word <:+: step text → word <:+: text) :
    word <:+: inTurn steps text → word <:+: text := by
  induction steps generalizing text with
  | nil => exact id
  | cons step steps ih =>
    rw [List.forall_mem_cons] at stays
    exact fun inside => stays.1 text (ih stays.2 inside)

/-- No marker comes back while the text is pared. -/
theorem not_infix_pared (isMarker : IsTitleMarker marker) (query : Text) :
    ¬ marker <:+: pared query := by
  intro inside
  have marked := infix_of_infix_inTurn (word_infix_of_paringStep isMarker.visible) inside
  exact not_infix_dropTitleMarkersFrom isMarker 0 (infix_of_infix_map_plainMark isMarker marked)

/-! ## Lowered markers -/

/-- A character that is lowered to an ASCII character stands for it where case is ignored. -/
theorem foldCase_of_lower {c small : Char} (written : lower c = [small])
    (ascii : small.toNat < 128) : afterFolded?.foldCase c = small := by
  have codes : ∀ code < 128,
      lower (Char.ofNat code) = [afterFolded?.foldCase (Char.ofNat code)] := by decide +kernel
  have runs : ∀ run ∈ capitalRuns, run.lowered < 128 →
      run.last < 128 ∨ run.first = 0x212a ∧ run.last = 0x212a := by decide +kernel
  have folded : lower c = [afterFolded?.foldCase c] := by
    by_cases below : c.toNat < 128
    · exact ascii_induction (motive := fun c => lower c = [afterFolded?.foldCase c]) codes c below
    · have dotless : c ≠ '\u0130' := by
        rintro rfl
        have two : ['i', '\u0307'] = [small] := written
        cases two
      unfold lower at written
      rw [if_neg dotless] at written
      obtain rfl := List.singleton_inj.mp written
      rcases lowerBy_eq_or capitalRuns c.toNat with same | ⟨run, member, has, lowered⟩
      · rw [same, Char.ofNat_toNat] at ascii
        exact absurd ascii below
      · rw [lowered, has.toNat_lowered member] at ascii
        obtain ⟨first, last, -⟩ := has
        have kelvin : c.toNat = '\u212a'.toNat := by
          have code : '\u212a'.toNat = 0x212a := rfl
          have known := runs run member (by omega)
          omega
        rw [Char.toNat_inj.mp kelvin]
        decide +kernel
  rw [folded] at written
  exact List.singleton_inj.mp written

/-- Only its capital is lowered to a letter of a marker, but for the dotted capital I, which leaves
its dot. -/
theorem lowercaseFrom_cons_letter (afterCased : Bool) (c : Char) (rest : Text) :
    ∃ later, (∃ small, lowercaseFrom afterCased (c :: rest) = small :: lowercaseFrom later rest ∧
        (small ∈ titleLetters → afterFolded?.foldCase c = small)) ∨
      lowercaseFrom afterCased (c :: rest) = 'i' :: '\u0307' :: lowercaseFrom later rest := by
  have ascii : ∀ letter ∈ titleLetters, letter.toNat < 128 := by simp [titleLetters]
  refine ⟨if isCaseIgnorable c then afterCased else isCased c, ?_⟩
  rw [lowercaseFrom]
  split
  case isTrue =>
    refine .inl ⟨_, rfl, fun letter => ?_⟩
    revert letter
    split
    · exact fun letter => absurd letter (by decide)
    · exact fun letter => absurd letter (by decide)
  case isFalse =>
    by_cases dotted : c = '\u0130'
    · rw [dotted]
      exact .inr rfl
    · have written : lower c = [Char.ofNat (lowerBy capitalRuns c.toNat)] := if_neg dotted
      rw [written]
      exact .inl ⟨_, rfl, fun letter => foldCase_of_lower written (ascii _ letter)⟩

/-- What is lowered to the end of a marker is the end of a marker. -/
theorem exists_prefix_of_lowercaseFrom {lead : Text} (ending : lead <:+ titleLetters)
    {afterCased : Bool} (isFirst : lead <+: lowercaseFrom afterCased text) :
    ∃ front, front <+: text ∧ front.map afterFolded?.foldCase = lead := by
  induction text generalizing lead afterCased with
  | nil => exact ⟨[], List.prefix_rfl, (List.prefix_nil.mp isFirst).symm⟩
  | cons c rest ih =>
    cases lead with
    | nil => exact ⟨[], List.nil_prefix, rfl⟩
    | cons l lead =>
      have later := (List.suffix_cons l lead).trans ending
      obtain ⟨cased, ⟨small, shape, folds⟩ | shape⟩ := lowercaseFrom_cons_letter afterCased c rest
      · rw [shape] at isFirst
        obtain ⟨rfl, more⟩ := List.cons_prefix_cons.mp isFirst
        obtain ⟨front, isFront, folded⟩ := ih later more
        refine ⟨c :: front, List.cons_prefix_cons.mpr ⟨rfl, isFront⟩, ?_⟩
        rw [List.map_cons, folded, folds (ending.subset List.mem_cons_self)]
      · rw [shape] at isFirst
        obtain ⟨rfl, more⟩ := List.cons_prefix_cons.mp isFirst
        cases lead with
        | nil => exact absurd ending (by decide)
        | cons next lead =>
          obtain ⟨rfl, -⟩ := List.cons_prefix_cons.mp more
          exact absurd (later.subset List.mem_cons_self) (by decide)

/-- No marker comes about by lowering. -/
theorem exists_isTitleMarker_of_lowercaseFrom {afterCased : Bool}
    (inside : titleLetters <:+: lowercaseFrom afterCased text) :
    ∃ marker, IsTitleMarker marker ∧ marker <:+: text := by
  induction text generalizing afterCased with
  | nil => exact absurd (List.infix_nil.mp inside) (List.cons_ne_nil _ _)
  | cons c rest ih =>
    have inRest {cased : Bool} (later : titleLetters <:+: lowercaseFrom cased rest) :
        ∃ marker, IsTitleMarker marker ∧ marker <:+: c :: rest := by
      obtain ⟨marker, isMarker, part⟩ := ih later
      exact ⟨marker, isMarker, List.infix_cons part⟩
    by_cases isFirst : titleLetters <+: lowercaseFrom afterCased (c :: rest)
    · obtain ⟨front, isFront, folded⟩ :=
        exists_prefix_of_lowercaseFrom List.suffix_rfl isFirst
      exact ⟨front, folded, isFront.isInfix⟩
    · obtain ⟨cased, ⟨small, shape, -⟩ | shape⟩ := lowercaseFrom_cons_letter afterCased c rest
      · rw [shape] at inside isFirst
        exact inRest ((List.infix_cons_iff.mp inside).resolve_left isFirst)
      · rw [shape] at inside isFirst
        have afterI := (List.infix_cons_iff.mp inside).resolve_left isFirst
        refine inRest ((List.infix_cons_iff.mp afterI).resolve_left fun atDot => ?_)
        exact absurd (List.cons_prefix_cons.mp atDot).1 (by decide)

/-! ## The normal form -/

/-- The marks that clean text has in plain form only: braces, square brackets and curly quotes. -/
def shapedMarks : Text :=
  ['\x7b', '\x7d', '[', ']', '\u201c', '\u201d']

theorem plainMark_not_mem (c : Char) : plainMark c ∉ shapedMarks := by
  unfold plainMark
  split_ifs with opens closes quotes
  · decide
  · decide
  · decide
  · simp only [shapedMarks, List.mem_cons, List.not_mem_nil, or_false, not_or]
    rw [not_or] at opens closes quotes
    exact ⟨opens.1, closes.1, opens.2, closes.2, quotes⟩

/-- What is said of the shaped marks by their names. -/
theorem shapedMarks_apart : ∀ mark ∈ shapedMarks, isWordPart mark = false ∧
    Character.isBlank mark = false ∧
    afterFolded?.foldCase mark ∉ ['&', 'n', 'b', 's', 'p', ';'] := by
  simp only [shapedMarks, List.forall_mem_cons, List.not_mem_nil, false_implies, implies_true]
  decide +kernel

/-- Paring brings no shaped mark back. -/
theorem shapedMarks_not_mem_pared (query : Text) : ∀ mark ∈ shapedMarks, mark ∉ pared query := by
  have noBlank (c : Char) (blank : Character.isBlank c) : shapedMarks.contains c = false := by
    refine Bool.eq_false_iff.mpr fun shaped => ?_
    rw [(shapedMarks_apart c (List.contains_iff_mem.mp shaped)).2.1] at blank
    cases blank
  have entities (c : Char) (folded : afterFolded?.foldCase c ∈ ['&', 'n', 'b', 's', 'p', ';']) :
      shapedMarks.contains c = false :=
    Bool.eq_false_iff.mpr fun shaped =>
      (shapedMarks_apart c (List.contains_iff_mem.mp shaped)).2.2 folded
  have none : (pared query).filter shapedMarks.contains = [] := by
    rw [filter_pared noBlank (by decide) entities, List.filter_eq_nil_iff]
    intro c member shaped
    obtain ⟨d, -, rfl⟩ := List.mem_map.mp member
    exact plainMark_not_mem d (List.contains_iff_mem.mp shaped)
  exact fun mark shaped member =>
    List.filter_eq_nil_iff.mp none mark member (List.contains_iff_mem.mpr shaped)

/-- A text in normal form. -/
structure Normal (text : Text) : Prop where
  /-- It does not begin with a blank. -/
  first : ∀ c ∈ text.head?, Character.isBlank c = false
  /-- It does not end with a blank. -/
  last : ∀ c ∈ text.getLast?, Character.isBlank c = false
  /-- No two blanks are neighbours. -/
  apart : text.IsChain BlanksApart
  /-- Brackets are round and quotes are straight. -/
  plain : ∀ mark ∈ shapedMarks, mark ∉ text
  /-- No ASCII letter is a capital. -/
  small : ∀ c ∈ text, c.isUpper = false
  /-- No part of it is a field marker, in any letter case. -/
  noMarker : ∀ marker : Text, marker.map Char.toLower = "title:".toList → ¬ marker <:+: text

/-- Every clean text is in normal form. -/
theorem normal_ofRaw (query : Text) : Normal (ofRaw query) where
  first := (ends_ofRaw query).1
  last := (ends_ofRaw query).2
  apart := by
    rw [ofRaw_eq_lowercase]
    exact isChain_lowercaseFrom (isChain_pared query)
  plain mark shaped member := by
    rw [ofRaw_eq_lowercase] at member
    exact shapedMarks_not_mem_pared query mark shaped
      (mem_of_mem_lowercaseFrom (shapedMarks_apart mark shaped).1 member)
  small c member := (small_of_mem_ofRaw query c member).isUpper_eq_false
  noMarker marker spells inside := by
    have same : marker.map Char.toLower = marker := by
      refine (List.map_congr_left fun c member => ?_).trans (List.map_id marker)
      have noCapital := (small_of_mem_ofRaw query c (inside.subset member)).isUpper_eq_false
      exact toLower_eq_self (by simp [noCapital])
    have title : "title:".toList = titleLetters := by decide +kernel
    rw [← same, spells, title, ofRaw_eq_lowercase] at inside
    obtain ⟨found, isMarker, part⟩ := exists_isTitleMarker_of_lowercaseFrom inside
    exact not_infix_pared isMarker query part

/-- Markers within markers, an emptied line and a dotted capital. -/
example : ofRaw "  \x7bTITLE: Title:\n &nbsp; \n \u201cTİtle:\u201d  - x]".toList =
    "( \"ti\u0307tle:\" x)".toList := by
  decide +kernel

end CleanText

end FullTextQuery
