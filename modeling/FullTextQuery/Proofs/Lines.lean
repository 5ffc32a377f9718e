import FullTextQuery.Proofs.FixedText

/-!
# Lines of a query

The first steps of cleaning look for blanks only, so they treat the parts of a text between visible
characters one by one (`CutsAtVisible`): one after the other, too. What they make of a run of blanks
is then known wherever it stands. At either end of a text it goes, and between visible characters it
becomes the line feed of its lines, or its blanks with the spaces squeezed (`linedRun`).
-/

namespace FullTextQuery

namespace Text

/-! ## Cutting at visible characters -/

/-- A step that treats the parts of a text between visible characters one by one: `before` is what
it does up to the first one, `between` what it does between two of them and `after` what it does
after one. -/
structure CutsAtVisible (step before between after : Text → Text) : Prop where
  /-- The first visible character cuts a text. -/
  start : ∀ {c}, Character.isBlank c = false → ∀ front back,
    step (front ++ c :: back) = before front ++ c :: after back
  /-- So does every other one. -/
  next : ∀ {c}, Character.isBlank c = false → ∀ front back,
    after (front ++ c :: back) = between front ++ c :: after back
  /-- Nothing comes before a visible character that comes first. -/
  before_nil : before [] = []
  /-- Nothing comes after one that comes last. -/
  after_nil : after [] = []

namespace CutsAtVisible

variable {step step' before before' between between' after after' : Text → Text}

theorem comp (later : CutsAtVisible step' before' between' after')
    (earlier : CutsAtVisible step before between after) :
    CutsAtVisible (step' ∘ step) (before' ∘ before) (between' ∘ between) (after' ∘ after) where
  start visible front back := by
    simp only [Function.comp_apply, earlier.start visible, later.start visible]
  next visible front back := by
    simp only [Function.comp_apply, earlier.next visible, later.next visible]
  before_nil := by simp only [Function.comp_apply, earlier.before_nil, later.before_nil]
  after_nil := by simp only [Function.comp_apply, earlier.after_nil, later.after_nil]

theorem concat (cuts : CutsAtVisible step before between after) {c : Char}
    (visible : Character.isBlank c = false) (front : Text) :
    step (front ++ [c]) = before front ++ [c] := by
  rw [cuts.start visible, cuts.after_nil]

theorem cons (cuts : CutsAtVisible step before between after) {c : Char}
    (visible : Character.isBlank c = false) (back : Text) :
    step (c :: back) = c :: after back := by
  have start := cuts.start visible [] back
  rwa [cuts.before_nil] at start

/-- What stands between two visible characters is treated by itself. -/
theorem run (cuts : CutsAtVisible step before between after) {c d : Char}
    (left : Character.isBlank c = false) (right : Character.isBlank d = false)
    (front middle back : Text) :
    step (front ++ c :: (middle ++ d :: back)) =
      step (front ++ [c]) ++ between middle ++ step (d :: back) := by
  rw [cuts.start left, cuts.next right, cuts.concat left, cuts.cons right]
  simp

end CutsAtVisible

theorem squeeze_cut {mark c : Char} (other : c ≠ mark) (front back : Text) :
    squeeze mark (front ++ c :: back) = squeeze mark front ++ c :: squeeze mark back := by
  induction front with
  | nil => exact squeeze_cons fun _ _ found => other found.1
  | cons a front ih =>
    have next : (front ++ c :: back).head? = some mark ↔ front.head? = some mark := by
      cases front with
      | nil => simpa using other
      | cons b front => rfl
    rw [List.cons_append, squeeze, squeeze, ih]
    simp only [next]
    split
    · rfl
    · rfl

theorem cutsAtVisible_squeeze {mark : Char} (blank : Character.isBlank mark) :
    CutsAtVisible (squeeze mark) (squeeze mark) (squeeze mark) (squeeze mark) where
  start visible := squeeze_cut (visible_ne_blank visible blank)
  next visible := squeeze_cut (visible_ne_blank visible blank)
  before_nil := rfl
  after_nil := rfl

end Text

namespace CleanText

open Text

/-! ## Lines -/

theorem dropIndentsFrom_cut {c : Char} (visible : Character.isBlank c = false) (lineStart : Bool)
    (front back : Text) :
    dropIndentsFrom lineStart (front ++ c :: back) =
      dropIndentsFrom lineStart front ++ c :: dropIndentsFrom false back := by
  induction front generalizing lineStart with
  | nil =>
    have noBreak : (c == '\n') = false := beq_false_of_ne (visible_ne_blank visible (by decide))
    have start : dropIndentsFrom lineStart (c :: back) = c :: dropIndentsFrom false back := by
      rw [dropIndentsFrom, visible, Bool.and_false, if_neg Bool.false_ne_true, noBreak]
    exact start
  | cons a front ih =>
    rw [List.cons_append, dropIndentsFrom, dropIndentsFrom, ih, ih]
    split
    · rfl
    · rfl

theorem cutsAtVisible_dropIndents :
    CutsAtVisible dropIndents dropIndents (dropIndentsFrom false) (dropIndentsFrom false) where
  start visible := dropIndentsFrom_cut visible true
  next visible := dropIndentsFrom_cut visible false
  before_nil := rfl
  after_nil := rfl

/-- Whether the line ends before the visible character that follows a text. -/
def endsLineBefore (text : Text) : Bool :=
  (text.dropWhile fun c => Character.isBlank c && c != '\n').head? == some '\n'

/-- Drops the blanks at the end of every line of a text that a visible character follows. -/
def dropLineTailsBefore : Text → Text
  | [] => []
  | c :: rest =>
    if Character.isBlank c && endsLineBefore rest then dropLineTailsBefore rest
    else c :: dropLineTailsBefore rest

theorem endsLine_append {c : Char} (visible : Character.isBlank c = false) (front back : Text) :
    endsLine (front ++ c :: back) = endsLineBefore front := by
  induction front with
  | nil =>
    have noBreak : (c == '\n') = false := beq_false_of_ne (visible_ne_blank visible (by decide))
    simp [endsLine, endsLineBefore, visible, noBreak]
  | cons a front ih =>
    unfold endsLine endsLineBefore at ih ⊢
    rw [List.cons_append, List.dropWhile_cons, List.dropWhile_cons]
    cases Character.isBlank a && a != '\n' with
    | true => exact ih
    | false => rfl

theorem dropLineTails_cut {c : Char} (visible : Character.isBlank c = false) (front back : Text) :
    dropLineTails (front ++ c :: back) = dropLineTailsBefore front ++ c :: dropLineTails back := by
  induction front with
  | nil =>
    rw [List.nil_append, dropLineTails, visible]
    rfl
  | cons a front ih =>
    rw [List.cons_append, dropLineTails, dropLineTailsBefore, endsLine_append visible, ih]
    split
    · rfl
    · rfl

theorem cutsAtVisible_dropLineTails :
    CutsAtVisible dropLineTails dropLineTailsBefore dropLineTailsBefore dropLineTails where
  start visible := dropLineTails_cut visible
  next visible := dropLineTails_cut visible
  before_nil := rfl
  after_nil := rfl

/-- A text with its blanks at both ends of each line dropped, and with them its empty lines. -/
def lined (text : Text) : Text :=
  squeeze '\n' (dropLineTails (dropIndents (squeeze ' ' text)))

/-- What becomes of a run of blanks between visible characters: the line feed of its lines, or its
blanks with its runs of spaces squeezed. -/
def linedRun (run : Text) : Text :=
  if '\n' ∈ run then ['\n'] else squeeze ' ' run

theorem linedRun_singleton (c : Char) : linedRun [c] = [c] := by
  unfold linedRun
  split
  case isTrue isBreak => rw [List.mem_singleton.mp isBreak]
  case isFalse => exact squeeze_cons (by simp)

theorem cutsAtVisible_lined :
    CutsAtVisible lined
      (squeeze '\n' ∘ dropLineTailsBefore ∘ dropIndents ∘ squeeze ' ')
      (squeeze '\n' ∘ dropLineTailsBefore ∘ dropIndentsFrom false ∘ squeeze ' ')
      (squeeze '\n' ∘ dropLineTails ∘ dropIndentsFrom false ∘ squeeze ' ') :=
  (cutsAtVisible_squeeze (by decide)).comp (cutsAtVisible_dropLineTails.comp
    (cutsAtVisible_dropIndents.comp (cutsAtVisible_squeeze (by decide))))

theorem isBlank_squeeze {mark : Char} {run : Text} (blank : run.isBlank) :
    (squeeze mark run).isBlank :=
  List.all_eq_true.mpr fun c member =>
    List.all_eq_true.mp blank c ((squeeze_sublist mark run).subset member)

/-- Of every run one character stays. -/
theorem mem_squeeze {mark c : Char} {text : Text} : c ∈ squeeze mark text ↔ c ∈ text := by
  refine ⟨fun member => (squeeze_sublist mark text).subset member, fun member => ?_⟩
  induction text with
  | nil => cases member
  | cons d rest ih =>
    rw [squeeze]
    split
    case isTrue repeats =>
      rcases List.mem_cons.mp member with rfl | later
      · exact ih (repeats.1 ▸ List.mem_of_mem_head? repeats.2)
      · exact ih later
    case isFalse =>
      rcases List.mem_cons.mp member with rfl | later
      · exact List.mem_cons_self
      · exact List.mem_cons_of_mem _ (ih later)

theorem isBlank_linedRun {run : Text} (blank : run.isBlank) : (linedRun run).isBlank := by
  unfold linedRun
  split
  · rfl
  · exact isBlank_squeeze blank

theorem linedRun_ne_nil {run : Text} (notEmpty : run ≠ []) : linedRun run ≠ [] := by
  unfold linedRun
  split
  · exact List.cons_ne_nil _ _
  · obtain ⟨c, member⟩ := List.exists_mem_of_ne_nil run notEmpty
    exact List.ne_nil_of_mem (mem_squeeze.mpr member)

theorem squeeze_of_not_mem {mark : Char} {text : Text} (free : mark ∉ text) :
    squeeze mark text = text := by
  induction text with
  | nil => rfl
  | cons c rest ih =>
    rw [List.mem_cons, not_or] at free
    rw [squeeze_cons fun _ _ found => free.1 found.1.symm, ih free.2]

theorem dropIndentsFrom_append {front : Text} (free : '\n' ∉ front) (back : Text) :
    dropIndentsFrom false (front ++ back) = front ++ dropIndentsFrom false back := by
  induction front with
  | nil => rfl
  | cons c front ih =>
    rw [List.mem_cons, not_or] at free
    have noBreak : (c == '\n') = false := beq_false_of_ne (Ne.symm free.1)
    rw [List.cons_append, dropIndentsFrom, Bool.false_and, if_neg Bool.false_ne_true, noBreak,
      ih free.2, List.cons_append]

/-- A line that begins with a run of blanks loses it. -/
theorem dropIndentsFrom_run {run : Text} (blank : run.isBlank) (back : Text) :
    dropIndentsFrom true (run ++ back) = dropIndentsFrom true back := by
  induction run with
  | nil => rfl
  | cons c run ih =>
    rw [Text.isBlank, List.all_cons, Bool.and_eq_true] at blank
    rw [List.cons_append, dropIndentsFrom, blank.1, Bool.and_true, if_pos rfl, ih blank.2]

theorem dropLineTailsBefore_of_not_mem {text : Text} (free : '\n' ∉ text) :
    dropLineTailsBefore text = text := by
  induction text with
  | nil => rfl
  | cons c rest ih =>
    rw [List.mem_cons, not_or] at free
    have goesOn : endsLineBefore rest = false := by
      refine beq_false_of_ne fun isBreak => free.2 ?_
      exact (List.dropWhile_sublist _).subset (List.mem_of_mem_head? isBreak)
    rw [dropLineTailsBefore, goesOn, Bool.and_false, if_neg Bool.false_ne_true, ih free.2]

/-- A run of blanks before a line feed ends its line. -/
theorem endsLineBefore_run {run : Text} (blank : run.isBlank) : endsLineBefore (run ++ ['\n']) := by
  induction run with
  | nil => rfl
  | cons c run ih =>
    rw [Text.isBlank, List.all_cons, Bool.and_eq_true] at blank
    have later := ih blank.2
    unfold endsLineBefore at later ⊢
    rw [List.cons_append, List.dropWhile_cons, blank.1, Bool.true_and]
    by_cases isBreak : c = '\n'
    · rw [isBreak]
      rfl
    · rwa [if_pos (bne_iff_ne.mpr isBreak)]

theorem dropLineTailsBefore_run {run : Text} (blank : run.isBlank) :
    dropLineTailsBefore (run ++ ['\n']) = ['\n'] := by
  induction run with
  | nil => rfl
  | cons c run ih =>
    rw [Text.isBlank, List.all_cons, Bool.and_eq_true] at blank
    rw [List.cons_append, dropLineTailsBefore, blank.1, endsLineBefore_run blank.2, Bool.and_true,
      if_pos rfl, ih blank.2]

theorem between_lined {run : Text} (blank : run.isBlank) :
    (squeeze '\n' ∘ dropLineTailsBefore ∘ dropIndentsFrom false ∘ squeeze ' ') run =
      linedRun run := by
  simp only [Function.comp_apply]
  unfold linedRun
  split
  case isTrue breaks =>
    obtain ⟨front, back, rfl, free⟩ := List.eq_append_cons_of_mem breaks
    rw [Text.isBlank, List.all_append, List.all_cons, Bool.and_eq_true, Bool.and_eq_true] at blank
    have frontFree : '\n' ∉ squeeze ' ' front := fun member => free (mem_squeeze.mp member)
    have indents : dropIndentsFrom true (squeeze ' ' back) = [] := by
      have gone := dropIndentsFrom_run (@isBlank_squeeze ' ' _ blank.2.2) []
      rwa [List.append_nil] at gone
    have lineFeed : dropIndentsFrom false ('\n' :: squeeze ' ' back) = ['\n'] :=
      congrArg ('\n' :: ·) indents
    rw [squeeze_cut (by decide), dropIndentsFrom_append frontFree, lineFeed,
      dropLineTailsBefore_run (isBlank_squeeze blank.1)]
    rfl
  case isFalse free =>
    have squeezedFree : '\n' ∉ squeeze ' ' run := fun member =>
      free (mem_squeeze.mp member)
    have indents : dropIndentsFrom false (squeeze ' ' run) = squeeze ' ' run := by
      simpa [dropIndentsFrom] using dropIndentsFrom_append squeezedFree []
    rw [indents, dropLineTailsBefore_of_not_mem squeezedFree, squeeze_of_not_mem squeezedFree]

theorem endsLine_of_isBlank {text : Text} (blank : text.isBlank) : endsLine text := by
  induction text with
  | nil => rfl
  | cons c rest ih =>
    rw [Text.isBlank, List.all_cons, Bool.and_eq_true] at blank
    have later := ih blank.2
    unfold endsLine at later ⊢
    rw [List.dropWhile_cons, blank.1, Bool.true_and]
    by_cases isBreak : c = '\n'
    · rw [isBreak]
      rfl
    · rwa [if_pos (bne_iff_ne.mpr isBreak)]

theorem dropLineTails_of_isBlank {text : Text} (blank : text.isBlank) :
    dropLineTails text = [] := by
  induction text with
  | nil => rfl
  | cons c rest ih =>
    rw [Text.isBlank, List.all_cons, Bool.and_eq_true] at blank
    rw [dropLineTails, blank.1, endsLine_of_isBlank blank.2, Bool.and_true, if_pos rfl, ih blank.2]

variable {front back : Text} {c d : Char}

/-- A run of blanks between visible characters. -/
theorem lined_run (left : Character.isBlank c = false) (right : Character.isBlank d = false)
    {run : Text} (blank : run.isBlank) :
    lined (front ++ c :: (run ++ d :: back)) =
      lined (front ++ [c]) ++ linedRun run ++ lined (d :: back) := by
  rw [cutsAtVisible_lined.run left right, between_lined blank]

/-- A run of blanks that comes last goes. -/
theorem lined_run_last (visible : Character.isBlank c = false) {run : Text}
    (blank : run.isBlank) : lined (front ++ c :: run) = lined (front ++ [c]) := by
  have indents : (dropIndentsFrom false (squeeze ' ' run)).isBlank :=
    List.all_eq_true.mpr fun c member => List.all_eq_true.mp (isBlank_squeeze blank) c
      ((dropIndentsFrom_sublist false _).subset member)
  rw [cutsAtVisible_lined.start visible, cutsAtVisible_lined.concat visible]
  simp only [Function.comp_apply]
  rw [dropLineTails_of_isBlank indents]
  rfl

/-- A run of blanks that comes first goes. -/
theorem lined_run_first {run : Text} (blank : run.isBlank)
    (begins : ∀ c ∈ back.head?, Character.isBlank c = false) :
    lined (run ++ back) = lined back := by
  have squeezed : squeeze ' ' (run ++ back) = squeeze ' ' run ++ squeeze ' ' back := by
    cases back with
    | nil => simp [squeeze]
    | cons c back =>
      have apart : c ≠ ' ' := visible_ne_blank (begins c rfl) (by decide)
      rw [squeeze_cut apart, squeeze_cons fun _ _ found => apart found.1]
  unfold lined dropIndents
  rw [squeezed, dropIndentsFrom_run (isBlank_squeeze blank)]

end CleanText

end FullTextQuery
