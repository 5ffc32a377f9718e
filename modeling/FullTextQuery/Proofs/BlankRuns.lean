import FullTextQuery.Proofs.AcceptedAgain
import FullTextQuery.Proofs.LetterCase
import FullTextQuery.Proofs.Lines
import FullTextQuery.Proofs.Seams
import FullTextQuery.Proofs.StrayHyphens

/-!
# Runs of blanks in a query

What becomes of a run of blanks before the letters are lowered. `RunAround` says what run there is
around a place in a query and what stands on its sides. Field markers and marks are replaced
character by character, so a run stays one and its sides stay; the lines and the hyphens cut it off
from the rest of the text (`Lines`, `StrayHyphens`). So a blank in it can be replaced by a space at
an end of the query (`pared_of_edge`), beside a line feed (`pared_of_lineFeed`), beside other blanks
(`pared_of_long`) and beside a stray hyphen (`pared_of_stray`); but between two stray hyphens the
run must not become a single blank by that, or have been one (`HyphensAlike`). What is left is that
it stays as it is, between the texts on its sides (`pared_of_single`).
-/

namespace FullTextQuery.CleanText

open Text

/-! ## Field markers -/

/-- A blank is no part of a marker, so what stands before it and after it loses its markers by
itself. -/
theorem dropTitleMarkersFrom_append {c : Char} (blank : Character.isBlank c) {pending : Nat}
    {before : Text} (within : pending ≤ before.length) (after : Text) :
    dropTitleMarkersFrom pending (before ++ c :: after) =
      dropTitleMarkersFrom pending before ++ c :: dropTitleMarkersFrom 0 after := by
  have free : afterFolded?.foldCase c ∉ ['t', 'i', 't', 'l', 'e', ':'] :=
    Character.forall_blank (motive := fun c =>
      afterFolded?.foldCase c ∉ ['t', 'i', 't', 'l', 'e', ':']) (by decide +kernel) blank
  induction before generalizing pending with
  | nil =>
    obtain rfl : pending = 0 := Nat.le_zero.mp within
    have none := afterFolded?_append free [] after
    rw [List.nil_append] at none ⊢
    have start : dropTitleMarkersFrom 0 (c :: after) = c :: dropTitleMarkersFrom 0 after := by
      rw [dropTitleMarkersFrom, none]
      rfl
    exact start
  | cons a before ih =>
    cases pending with
    | succ pending =>
      exact ih (Nat.le_of_succ_le_succ within)
    | zero =>
      have passed := afterFolded?_append free (a :: before) after
      rw [List.cons_append] at passed ⊢
      rw [dropTitleMarkersFrom, dropTitleMarkersFrom, passed, Option.isSome_map]
      split
      case isTrue isMarker =>
        obtain ⟨rest, found⟩ := Option.isSome_iff_exists.mp isMarker
        obtain ⟨front, shape, folded⟩ := afterFolded?_eq_some found
        have long : 5 ≤ before.length := by
          have lengths := congrArg List.length shape
          have marker := congrArg List.length folded
          simp at lengths marker
          omega
        rw [ih long]
        rfl
      case isFalse =>
        rw [ih (Nat.zero_le _)]
        rfl

theorem dropTitleMarkers_append {c : Char} (blank : Character.isBlank c) (before after : Text) :
    dropTitleMarkers (before ++ c :: after) =
      dropTitleMarkers before ++ c :: dropTitleMarkers after :=
  dropTitleMarkersFrom_append blank (Nat.zero_le _) after

theorem plainMark_of_blank {c : Char} (blank : Character.isBlank c) : plainMark c = c :=
  Character.forall_blank (motive := fun c => plainMark c = c) (by decide +kernel) blank

theorem isBlank_plainMark (c : Char) : Character.isBlank (plainMark c) = Character.isBlank c := by
  unfold plainMark
  split_ifs with opens closes quotes
  · rcases opens with rfl | rfl <;> decide
  · rcases closes with rfl | rfl <;> decide
  · rcases quotes with rfl | rfl <;> decide
  · rfl

theorem plainMark_of_isWordPart {c : Char} (word : Character.isWordPart c) : plainMark c = c := by
  have noWord : ['\x7b', '[', '\x7d', ']', '\u201c', '\u201d'].all
      fun mark => !Character.isWordPart mark := by decide +kernel
  refine plainMark_of_not_mem fun member => ?_
  have known := List.all_eq_true.mp noWord c member
  rw [word] at known
  cases known

/-! ## Texts without entities -/

theorem head?_dropIndents (text : Text) :
    ∀ c ∈ (dropIndents text).head?, Character.isBlank c = false := by
  unfold dropIndents
  induction text with
  | nil => simp [dropIndentsFrom]
  | cons c rest ih =>
    rw [dropIndentsFrom]
    split
    case isTrue => exact ih
    case isFalse visible =>
      rintro d ⟨⟩
      simpa using visible

theorem head?_lined (text : Text) : ∀ c ∈ (lined text).head?, Character.isBlank c = false := by
  have first := head?_dropIndents (squeeze ' ' text)
  unfold lined
  cases indented : dropIndents (squeeze ' ' text) with
  | nil => simp [dropLineTails, squeeze]
  | cons c rest =>
    have visible := first c (congrArg List.head? indented)
    have apart : c ≠ '\n' := visible_ne_blank visible (by decide)
    rw [cutsAtVisible_dropLineTails.cons visible, squeeze_cons fun _ _ found => apart found.1]
    rintro d ⟨⟩
    exact visible

theorem lined_subset (text : Text) : lined text ⊆ text := by
  have part : (lined text).Sublist text :=
    (squeeze_sublist '\n' _).trans ((dropLineTails_sublist _).trans
      ((dropIndentsFrom_sublist true _).trans (squeeze_sublist ' ' text)))
  exact part.subset

/-- Without an ampersand there are no entities, and the lines begin with no blanks to drop. -/
theorem inTurn_paringSteps {text : Text} (free : '&' ∉ text) :
    inTurn paringSteps text = smoothed (lined text) := by
  have noEntity : ∀ c ∈ lined text, afterFolded?.foldCase c ≠ '&' := by
    intro c member folded
    have isOne : c = '&' := by
      unfold afterFolded?.foldCase at folded
      split_ifs at folded
      · cases folded
      · cases folded
      · exact (Character.toLower_eq_iff (by decide) c).mp folded
    exact free (lined_subset text (isOne ▸ member))
  have spaces : (lined text).dropWhile (· == ' ') = lined text := by
    cases shape : lined text with
    | nil => rfl
    | cons c rest =>
      have visible := head?_lined text c (congrArg List.head? shape)
      rw [List.dropWhile_cons, if_neg (by simpa using visible_ne_blank visible (by decide))]
  have entities : emptyEntityLines (lined text) = lined text :=
    emptyEntityLines_eq_self (hasEntityLine_eq_false noEntity true)
  calc inTurn paringSteps text
    _ = smoothed (emptyEntityLines ((lined text).dropWhile (· == ' '))) := rfl
    _ = smoothed (lined text) := by rw [spaces, entities]

theorem not_mem_map_plainMark {query : Text} (free : '&' ∉ query) :
    '&' ∉ (dropTitleMarkers query).map plainMark := by
  rw [List.mem_map]
  rintro ⟨c, member, isOne⟩
  obtain rfl : c = '&' := eq_of_plainMark_eq isOne rfl
  have kept : (dropTitleMarkers query).filter (· == '&') = query.filter (· == '&') :=
    filter_dropTitleMarkersFrom (by decide) (fun c folded => beq_false_of_ne fun isOne => by
      subst isOne
      exact absurd folded (by decide)) 0 query
  have found : '&' ∈ (dropTitleMarkers query).filter (· == '&') := by simpa using member
  rw [kept] at found
  exact free (List.mem_filter.mp found).1

theorem pared_eq_smoothed {query : Text} (free : '&' ∉ query) :
    pared query = smoothed (lined ((dropTitleMarkers query).map plainMark)) :=
  inTurn_paringSteps (not_mem_map_plainMark free)

theorem getLast?_lined {text : Text} (ends : ∀ c ∈ text.getLast?, Character.isBlank c = false) :
    (lined text).getLast? = text.getLast? := by
  rcases List.eq_nil_or_concat' text with rfl | ⟨front, c, rfl⟩
  · rfl
  · rw [cutsAtVisible_lined.concat (ends c (by simp)), List.getLast?_concat, List.getLast?_concat]

/-- The lines of a text begin with a hyphen before a blank only if the text does. -/
theorem beginsStray_of_lined {text : Text}
    (begins : ∀ c ∈ text.head?, Character.isBlank c = false) (stray : BeginsStray (lined text)) :
    BeginsStray text := by
  obtain ⟨blank, rest, shape, isBlank⟩ := stray
  cases text with
  | nil => cases shape
  | cons c text =>
    rw [cutsAtVisible_lined.cons (begins c rfl)] at shape
    obtain ⟨rfl, after⟩ := List.cons.inj shape
    cases text with
    | nil => cases after
    | cons d text =>
      cases blankNext : Character.isBlank d with
      | true => exact ⟨d, text, rfl, blankNext⟩
      | false =>
        have next := cutsAtVisible_lined.next blankNext [] text
        rw [List.nil_append, after, between_lined rfl] at next
        obtain ⟨rfl, -⟩ := List.cons.inj next
        rw [blankNext] at isBlank
        cases isBlank

theorem pared_insert {before after : Text} (free : '&' ∉ before ++ after) {c : Char}
    (blank : Character.isBlank c) :
    pared (before ++ c :: after) =
      smoothed (lined ((dropTitleMarkers (before ++ c :: after)).map plainMark)) := by
  refine pared_eq_smoothed fun member => free ?_
  have other : '&' ≠ c := visible_ne_blank rfl blank
  simpa [other] using member

/-! ## The run around a place -/

/-- The run of blanks around a place in a query, where field markers are spaces: `left` is what it
has before the place, `right` what it has after it, and `front` and `back` stand on its sides. -/
structure RunAround (before after front left right back : Text) : Prop where
  /-- What stands before the place. -/
  lead : dropTitleMarkers before = front ++ left
  /-- What stands after it. -/
  tail : dropTitleMarkers after = right ++ back
  /-- The run has blanks only. -/
  blankLeft : left.isBlank
  /-- The run has blanks only. -/
  blankRight : right.isBlank
  /-- It begins there. -/
  ends : ∀ c ∈ front.getLast?, Character.isBlank c = false
  /-- It ends there. -/
  begins : ∀ c ∈ back.head?, Character.isBlank c = false

instance (before after front left right back : Text) :
    Decidable (RunAround before after front left right back) :=
  decidable_of_iff (dropTitleMarkers before = front ++ left ∧
      dropTitleMarkers after = right ++ back ∧ left.isBlank ∧ right.isBlank ∧
      front.getLast?.all (!Character.isBlank ·) ∧ back.head?.all (!Character.isBlank ·)) <| by
    simp only [Option.all_eq_true, Bool.not_eq_true']
    exact ⟨fun ⟨lead, tail, blankLeft, blankRight, ends, begins⟩ =>
      ⟨lead, tail, blankLeft, blankRight, ends, begins⟩,
      fun run => ⟨run.lead, run.tail, run.blankLeft, run.blankRight, run.ends, run.begins⟩⟩

/-- Whether the text before a run of blanks ends with a hyphen that is stray there. Of the blanks in
it only those count that its lines keep. -/
def StrayBefore (front : Text) : Prop :=
  EndsStray (lined (front.map plainMark))

instance (front : Text) : Decidable (StrayBefore front) :=
  inferInstanceAs (Decidable (EndsStray _))

/-- Whether the text after one begins with a hyphen that is stray there: a blank follows it, and
more than blanks. -/
def StrayAfter (back : Text) : Prop :=
  BeginsStray back ∧ Text.isBlank back.tail = false

/-- Whether the hyphens next to a run stay as they do with a space in the place of a character. Of
two that are stray one stays if the run comes to a single blank, so it must do so with both
characters or with neither. -/
def HyphensAlike (front left : Text) (c : Char) (right back : Text) : Prop :=
  StrayBefore front → StrayAfter back →
    ((linedRun (left ++ c :: right)).length = 1 ↔ (linedRun (left ++ ' ' :: right)).length = 1)

theorem exists_run_last (text : Text) : ∃ front run : Text, text = front ++ run ∧ run.isBlank ∧
    ∀ c ∈ front.getLast?, Character.isBlank c = false := by
  induction text using List.reverseRecOn with
  | nil => exact ⟨[], [], rfl, rfl, by simp⟩
  | append_singleton text c ih =>
    cases blank : Character.isBlank c with
    | false => exact ⟨text ++ [c], [], by simp, rfl, by simp [blank]⟩
    | true =>
      obtain ⟨front, run, rfl, isBlank, ends⟩ := ih
      refine ⟨front, run ++ [c], by simp, ?_, ends⟩
      simpa [Text.isBlank, blank] using isBlank

theorem exists_run_first (text : Text) : ∃ run back : Text, text = run ++ back ∧ run.isBlank ∧
    ∀ c ∈ back.head?, Character.isBlank c = false := by
  induction text with
  | nil => exact ⟨[], [], rfl, rfl, by simp⟩
  | cons c rest ih =>
    cases blank : Character.isBlank c with
    | false => exact ⟨[], c :: rest, rfl, rfl, by simp [blank]⟩
    | true =>
      obtain ⟨run, back, rfl, isBlank, begins⟩ := ih
      refine ⟨c :: run, back, rfl, ?_, begins⟩
      simpa [Text.isBlank, blank] using isBlank

/-- Every place has a run around it. -/
theorem exists_runAround (before after : Text) :
    ∃ front left right back, RunAround before after front left right back := by
  obtain ⟨front, left, lead, blankLeft, ends⟩ := exists_run_last (dropTitleMarkers before)
  obtain ⟨right, back, tail, blankRight, begins⟩ := exists_run_first (dropTitleMarkers after)
  exact ⟨front, left, right, back, lead, tail, blankLeft, blankRight, ends, begins⟩

theorem map_plainMark_run {run : Text} (blank : run.isBlank) : run.map plainMark = run := by
  have same : ∀ c ∈ run, plainMark c = id c := fun c member =>
    plainMark_of_blank (List.all_eq_true.mp blank c member)
  exact (List.map_congr_left same).trans (List.map_id run)

theorem becomesSpace_squeeze {run : Text} (blank : run.isBlank)
    (long : ' ' ∈ run ∨ 2 ≤ run.length) : BecomesSpace (squeeze ' ' run) where
  blank := isBlank_squeeze blank
  long := by
    by_cases spaced : ' ' ∈ run
    · have kept : ' ' ∈ squeeze ' ' run := mem_squeeze.mpr spaced
      match squeeze ' ' run, kept with
      | [c], kept => exact .inl (by rw [List.mem_singleton.mp kept])
      | c :: d :: rest, _ => exact .inr (Nat.le_add_left 2 rest.length)
    · rw [squeeze_of_not_mem spaced]
      exact .inr (long.resolve_left spaced)

/-- A hyphen that ends a word is stray before a run. -/
theorem strayBefore_of_isWordPart {last : Char} (word : Character.isWordPart last) (front : Text) :
    StrayBefore (front ++ [last, '-']) := by
  have hyphen : Character.isBlank '-' = false := by decide
  have cut := cutsAtVisible_lined.start (Character.isBlank_of_isWordPart word)
    (front.map plainMark) ['-']
  have alone := cutsAtVisible_lined.next hyphen [] []
  rw [List.nil_append, between_lined rfl, cutsAtVisible_lined.after_nil] at alone
  rw [alone] at cut
  have shape : (front ++ [last, '-']).map plainMark = front.map plainMark ++ last :: ['-'] := by
    rw [List.map_append, List.map_cons, plainMark_of_isWordPart word]
    rfl
  rw [StrayBefore, shape, cut]
  exact endsStray_of_isWordPart word _

/-- A hyphen that is stray after a run still is when lines and marks are settled. -/
theorem StrayAfter.beginsStray {back : Text} (stray : StrayAfter back) :
    BeginsStray (lined (back.map plainMark)) := by
  obtain ⟨⟨first, rest, rfl, isBlank⟩, more⟩ := stray
  obtain ⟨run, back, shape, blank, begins⟩ := exists_run_first (first :: rest)
  rw [List.tail_cons, shape] at more
  cases back with
  | nil =>
    rw [List.append_nil, blank] at more
    cases more
  | cons c back =>
    have visible : Character.isBlank (plainMark c) = false := by
      rw [isBlank_plainMark, begins c rfl]
    have notEmpty : run ≠ [] := by
      rintro rfl
      obtain ⟨rfl, -⟩ := List.cons.inj shape
      rw [begins first rfl] at isBlank
      cases isBlank
    have plain : ('-' :: first :: rest).map plainMark =
        '-' :: (run ++ plainMark c :: back.map plainMark) := by
      rw [List.map_cons, shape, List.map_append, List.map_cons, map_plainMark_run blank]
      rfl
    have hyphen : Character.isBlank '-' = false := by decide
    have cut := cutsAtVisible_lined.cons hyphen (run ++ plainMark c :: back.map plainMark)
    obtain ⟨next, later, kept⟩ := List.exists_cons_of_ne_nil (linedRun_ne_nil notEmpty)
    have blankNext := isBlank_linedRun blank
    rw [kept, Text.isBlank, List.all_cons, Bool.and_eq_true] at blankNext
    rw [cutsAtVisible_lined.next visible, between_lined blank, kept] at cut
    exact ⟨next, _, (congrArg lined plain).trans cut, blankNext.1⟩

namespace RunAround

variable {before after front left right back : Text}
  (run : RunAround before after front left right back)

include run

theorem plain {c : Char} (blank : Character.isBlank c) :
    (dropTitleMarkers (before ++ c :: after)).map plainMark =
      front.map plainMark ++ ((left ++ c :: right) ++ back.map plainMark) := by
  rw [dropTitleMarkers_append blank, run.lead, run.tail]
  simp only [List.map_append, List.map_cons, map_plainMark_run run.blankLeft,
    map_plainMark_run run.blankRight, plainMark_of_blank blank, List.append_assoc, List.cons_append]

theorem isBlank_run {c : Char} (blank : Character.isBlank c) :
    Text.isBlank (left ++ c :: right) := by
  rw [Text.isBlank, List.all_append, List.all_cons, blank, Bool.true_and, Bool.and_eq_true]
  exact ⟨run.blankLeft, run.blankRight⟩

theorem visible_last : ∀ c ∈ (front.map plainMark).getLast?, Character.isBlank c = false := by
  intro c isLast
  rw [List.getLast?_map] at isLast
  obtain ⟨d, isSource, rfl⟩ := Option.map_eq_some_iff.mp isLast
  rw [isBlank_plainMark]
  exact run.ends d isSource

theorem visible_first : ∀ c ∈ (back.map plainMark).head?, Character.isBlank c = false := by
  intro c isFirst
  rw [List.head?_map] at isFirst
  obtain ⟨d, isSource, rfl⟩ := Option.map_eq_some_iff.mp isFirst
  rw [isBlank_plainMark]
  exact run.begins d isSource

/-- A run of blanks at the start of a query is no part of its lines. -/
theorem lined_of_front_nil (first : front = []) {c : Char} (blank : Character.isBlank c) :
    lined ((dropTitleMarkers (before ++ c :: after)).map plainMark) =
      lined (back.map plainMark) := by
  rw [run.plain blank, first]
  exact lined_run_first (run.isBlank_run blank) run.visible_first

/-- One at the end is none, either. -/
theorem lined_of_back_nil (last : back = []) {c : Char} (blank : Character.isBlank c) :
    lined ((dropTitleMarkers (before ++ c :: after)).map plainMark) =
      lined (front.map plainMark) := by
  rw [run.plain blank, last, List.map_nil, List.append_nil]
  rcases List.eq_nil_or_concat' (front.map plainMark) with empty | ⟨rest, d, shape⟩
  · have gone := @lined_run_first [] _ (run.isBlank_run blank) (by simp)
    rw [List.append_nil] at gone
    rw [empty, List.nil_append, gone]
  · have visible := run.visible_last d (by rw [shape, List.getLast?_concat]; rfl)
    rw [shape, List.append_assoc]
    exact lined_run_last visible (run.isBlank_run blank)

/-- Between visible characters it is treated by itself. -/
theorem lined_between (first : front ≠ []) (last : back ≠ []) {c : Char}
    (blank : Character.isBlank c) :
    lined ((dropTitleMarkers (before ++ c :: after)).map plainMark) =
      lined (front.map plainMark) ++
        (linedRun (left ++ c :: right) ++ lined (back.map plainMark)) := by
  rw [run.plain blank]
  have visibleFirst := run.visible_first
  have visibleLast := run.visible_last
  obtain ⟨d, rest, shape⟩ := List.exists_cons_of_ne_nil (List.map_eq_nil_iff.not.mpr last)
  obtain ⟨more, e, split⟩ := (List.eq_nil_or_concat' (front.map plainMark)).resolve_left
    (List.map_eq_nil_iff.not.mpr first)
  rw [shape] at visibleFirst ⊢
  rw [split] at visibleLast ⊢
  have walk := @lined_run more rest e d (visibleLast e (by simp)) (visibleFirst d rfl) _
    (run.isBlank_run blank)
  simpa using walk

theorem strayAfter_iff : StrayAfter back ↔ BeginsStray (lined (back.map plainMark)) := by
  refine ⟨StrayAfter.beginsStray, fun stray => ?_⟩
  obtain ⟨blank, rest, shape, isBlank⟩ := beginsStray_of_lined run.visible_first stray
  rcases back with _ | ⟨d, _ | ⟨e, more⟩⟩
  · cases shape
  · exact absurd (List.cons.inj shape).2 (by simp)
  · obtain ⟨first, shape⟩ := List.cons.inj shape
    obtain ⟨second, -⟩ := List.cons.inj shape
    obtain rfl : d = '-' := eq_of_plainMark_eq first rfl
    refine ⟨⟨e, more, rfl, by rwa [← isBlank_plainMark, second]⟩, Bool.eq_false_iff.mpr ?_⟩
    intro gone
    have alone : lined ('-' :: e :: more) = ['-'] :=
      @lined_run_last [] '-' (by decide) (e :: more) gone
    have plain : ('-' :: e :: more).map plainMark = '-' :: e :: more :=
      congrArg ('-' :: ·) (map_plainMark_run gone)
    rw [plain, alone] at stray
    obtain ⟨next, later, single, -⟩ := stray
    cases single

/-- Without line feeds the run becomes a space if it has a space or is longer than one blank. -/
theorem becomesSpace_linedRun (noBreak : '\n' ∉ left ++ right) {c : Char}
    (blank : Character.isBlank c) (other : c ≠ '\n') (long : c = ' ' ∨ left ++ right ≠ []) :
    BecomesSpace (linedRun (left ++ c :: right)) := by
  have none : '\n' ∉ left ++ c :: right := by
    simp only [List.mem_append, List.mem_cons, not_or] at noBreak ⊢
    exact ⟨noBreak.1, Ne.symm other, noBreak.2⟩
  rw [linedRun, if_neg none]
  refine becomesSpace_squeeze (run.isBlank_run blank) (long.imp (fun isSpace => ?_) fun some => ?_)
  · simp [isSpace]
  · have more := List.length_pos_iff.mpr some
    simp only [List.length_append, List.length_cons] at more ⊢
    omega

/-- The sides of an inner run are visible in their lines, too. -/
theorem sides (first : front ≠ []) (last : back ≠ []) :
    lined (front.map plainMark) ≠ [] ∧
      (∀ c ∈ (lined (front.map plainMark)).getLast?, Character.isBlank c = false) ∧
      ∃ c rest, lined (back.map plainMark) = c :: rest ∧ Character.isBlank c = false := by
  have visibleFirst := run.visible_first
  have visibleLast := run.visible_last
  obtain ⟨c, rest, shape⟩ := List.exists_cons_of_ne_nil (List.map_eq_nil_iff.not.mpr last)
  rw [shape] at visibleFirst ⊢
  refine ⟨fun empty => first ?_, ?_, c, _, cutsAtVisible_lined.cons (visibleFirst c rfl) rest,
    visibleFirst c rfl⟩
  · have same := getLast?_lined visibleLast
    rw [empty, List.getLast?_nil] at same
    exact List.map_eq_nil_iff.mp (List.getLast?_eq_none_iff.mp same.symm)
  · rwa [getLast?_lined visibleLast]

theorem lined_before (first : front ≠ []) :
    lined ((dropTitleMarkers before).map plainMark) = lined (front.map plainMark) := by
  obtain ⟨more, c, split⟩ := (List.eq_nil_or_concat' (front.map plainMark)).resolve_left
    (List.map_eq_nil_iff.not.mpr first)
  have visible := run.visible_last c (by rw [split, List.getLast?_concat]; rfl)
  rw [run.lead, List.map_append, map_plainMark_run run.blankLeft, split, List.append_assoc]
  exact lined_run_last visible run.blankLeft

theorem lined_after :
    lined ((dropTitleMarkers after).map plainMark) = lined (back.map plainMark) := by
  rw [run.tail, List.map_append, map_plainMark_run run.blankRight]
  exact lined_run_first run.blankRight run.visible_first

variable (free : '&' ∉ before ++ after)

include free

/-- At either end of a query the blanks of a run make no difference. -/
theorem pared_of_edge (edge : front = [] ∨ back = []) {c d : Char} (blank : Character.isBlank c)
    (blank' : Character.isBlank d) :
    pared (before ++ c :: after) = pared (before ++ d :: after) := by
  rw [pared_insert free blank, pared_insert free blank']
  rcases edge with first | last
  · rw [run.lined_of_front_nil first blank, run.lined_of_front_nil first blank']
  · rw [run.lined_of_back_nil last blank, run.lined_of_back_nil last blank']

/-- Next to a line feed they make none. -/
theorem pared_of_lineFeed (breaks : '\n' ∈ left ++ right) {c d : Char}
    (blank : Character.isBlank c) (blank' : Character.isBlank d) :
    pared (before ++ c :: after) = pared (before ++ d :: after) := by
  have known (c : Char) : linedRun (left ++ c :: right) = ['\n'] := by
    refine if_pos ?_
    rcases List.mem_append.mp breaks with inLeft | inRight
    · exact List.mem_append_left _ inLeft
    · exact List.mem_append_right _ (List.mem_cons_of_mem _ inRight)
  by_cases edge : front = [] ∨ back = []
  · exact run.pared_of_edge free edge blank blank'
  · rw [not_or] at edge
    rw [pared_insert free blank, pared_insert free blank', run.lined_between edge.1 edge.2 blank,
      run.lined_between edge.1 edge.2 blank', known, known]

theorem pared_between (first : front ≠ []) (last : back ≠ []) {c : Char}
    (blank : Character.isBlank c) :
    pared (before ++ c :: after) = smoothed (lined (front.map plainMark) ++
      (linedRun (left ++ c :: right) ++ lined (back.map plainMark))) := by
  rw [pared_insert free blank, run.lined_between first last blank]

/-- A longer run of blanks without line feeds becomes a space, whatever the blanks are, unless it
stands between stray hyphens. -/
theorem pared_of_long (noBreak : '\n' ∉ left ++ right) (long : left ++ right ≠ []) {c : Char}
    (alike : HyphensAlike front left c right back) (blank : Character.isBlank c)
    (other : c ≠ '\n') : pared (before ++ c :: after) = pared (before ++ ' ' :: after) := by
  by_cases edge : front = [] ∨ back = []
  · exact run.pared_of_edge free edge blank (by decide)
  · rw [not_or] at edge
    obtain ⟨notEmpty, ends, -⟩ := run.sides edge.1 edge.2
    rw [run.pared_between free edge.1 edge.2 blank,
      run.pared_between free edge.1 edge.2 (by decide)]
    exact smoothed_congr notEmpty ends (run.becomesSpace_linedRun noBreak blank other (.inr long))
      (run.becomesSpace_linedRun noBreak (by decide) (by decide) (.inr long))
      fun endsStray begins => alike endsStray (run.strayAfter_iff.mpr begins)

/-- A stray hyphen takes the run next to it, whatever its blanks are, unless another one stands on
the other side. -/
theorem pared_of_stray (stray : StrayBefore front ∨ StrayAfter back) {c : Char}
    (alike : HyphensAlike front left c right back) (blank : Character.isBlank c) :
    pared (before ++ c :: after) = pared (before ++ ' ' :: after) := by
  by_cases edge : front = [] ∨ back = []
  · exact run.pared_of_edge free edge blank (by decide)
  · rw [not_or] at edge
    obtain ⟨notEmpty, ends, -⟩ := run.sides edge.1 edge.2
    have some (d : Char) : linedRun (left ++ d :: right) ≠ [] := linedRun_ne_nil (by simp)
    rw [run.pared_between free edge.1 edge.2 blank,
      run.pared_between free edge.1 edge.2 (by decide)]
    exact smoothed_stray notEmpty ends (stray.imp id run.strayAfter_iff.mp)
      (isBlank_linedRun (run.isBlank_run blank)) (some c)
      (isBlank_linedRun (run.isBlank_run (by decide))) (some ' ')
      fun endsStray begins => alike endsStray (run.strayAfter_iff.mpr begins)

/-- A blank that stays alone is kept between the texts on its sides if the hyphens there are not
stray, and a space in its place is, too. -/
theorem pared_of_single (first : front ≠ []) (last : back ≠ []) (noBreak : '\n' ∉ left ++ right)
    (apart : ¬ (StrayBefore front ∨ StrayAfter back)) {c : Char} (blank : Character.isBlank c)
    (alone : left ++ right = [] ∨ c = '\n') :
    pared (before ++ c :: after) = pared before ++ c :: pared after ∧
      pared (before ++ ' ' :: after) = pared before ++ ' ' :: pared after := by
  obtain ⟨notEmpty, ends, begins⟩ := run.sides first last
  obtain ⟨freeBefore, freeAfter⟩ := not_or.mp (List.mem_append.not.mp free)
  obtain ⟨stays, apart⟩ := not_or.mp apart
  rw [run.strayAfter_iff] at apart
  have cut {d : Char} (isBlank : Character.isBlank d) :
      smoothed (lined (front.map plainMark) ++ d :: lined (back.map plainMark)) =
        pared before ++ d :: pared after := by
    rw [smoothed_kept notEmpty ends stays apart begins isBlank, pared_eq_smoothed freeBefore,
      pared_eq_smoothed freeAfter, run.lined_before first, run.lined_after]
  have kept : linedRun (left ++ c :: right) = [c] := by
    rcases alone with none | rfl
    · obtain ⟨rfl, rfl⟩ := List.append_eq_nil_iff.mp none
      exact linedRun_singleton c
    · exact if_pos (by simp)
  have spaced : smoothed (lined (front.map plainMark) ++
        (linedRun (left ++ ' ' :: right) ++ lined (back.map plainMark))) =
      smoothed (lined (front.map plainMark) ++ ([' '] ++ lined (back.map plainMark))) :=
    smoothed_congr notEmpty ends
      (run.becomesSpace_linedRun noBreak (by decide) (by decide) (.inl rfl)) ⟨rfl, .inl rfl⟩
      fun stray => absurd stray stays
  rw [run.pared_between free first last blank, kept,
    run.pared_between free first last (by decide), spaced]
  exact ⟨cut blank, cut (by decide)⟩

/-- Without line feeds and with the hyphens alike, a space makes no difference before the letters
are lowered, or the blank stays between the texts on its sides, as a space does. -/
theorem pared_eq_or_kept (noBreak : '\n' ∉ left ++ right) {c : Char}
    (alike : HyphensAlike front left c right back) (blank : Character.isBlank c) :
    pared (before ++ c :: after) = pared (before ++ ' ' :: after) ∨
      pared (before ++ c :: after) = pared before ++ c :: pared after ∧
        pared (before ++ ' ' :: after) = pared before ++ ' ' :: pared after := by
  by_cases edge : front = [] ∨ back = []
  · exact .inl (run.pared_of_edge free edge blank (by decide))
  by_cases stray : StrayBefore front ∨ StrayAfter back
  · exact .inl (run.pared_of_stray free stray alike blank)
  by_cases alone : left ++ right = [] ∨ c = '\n'
  · rw [not_or] at edge
    exact .inr (run.pared_of_single free edge.1 edge.2 noBreak stray blank alone)
  · rw [not_or] at alone
    exact .inl (run.pared_of_long free noBreak alone.1 alike blank alone.2)

end RunAround

end FullTextQuery.CleanText
