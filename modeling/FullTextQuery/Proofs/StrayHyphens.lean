import FullTextQuery.Proofs.SqueezedText

/-!
# Stray hyphens and runs of blanks

A stray hyphen goes with the blanks next to it, and then runs of blanks are squeezed. So of a run of
blanks only this matters: whether a hyphen next to it is stray, and whether it `BecomesSpace`, that
is whether it is a space or longer than one blank (`smoothed_congr`). Next to a stray hyphen it goes
with it, whatever it is; but a single blank between two stray hyphens goes with the first one, and
the second one stays (`smoothed_stray`). Elsewhere a single blank stays as it is (`smoothed_kept`).

Whether the hyphen before a run is stray may depend on the hyphens before that, as a blank that one
of them has used up does not count (`EndsStray`).
-/

namespace FullTextQuery.CleanText

open Text

variable {c d : Char}

/-! ## Stray hyphens -/

/-- Whether a text begins with a hyphen that is stray after a blank. -/
def BeginsStray (text : Text) : Prop :=
  ∃ blank rest, text = '-' :: blank :: rest ∧ Character.isBlank blank

theorem ne_hyphen_of_isBlank (blank : Character.isBlank c) : c ≠ '-' :=
  (visible_ne_blank rfl blank).symm

theorem not_beginsStray_cons (other : c ≠ '-') (rest : Text) : ¬ BeginsStray (c :: rest) := by
  rintro ⟨blank, more, shape, -⟩
  exact other (List.cons.inj shape).1

/-- What stands before a text matters only if the text begins with a stray hyphen. -/
theorem dropStrayHyphensFrom_congr {text : Text} (none : ¬ BeginsStray text) (afterWord : Bool) :
    dropStrayHyphensFrom afterWord text = dropStrayHyphensFrom false text := by
  have notHere {a b : Char} {rest : Text} (shape : text = a :: b :: rest) (word : Bool) :
      ¬ (word ∧ a = '-' ∧ Character.isBlank b) := by
    rintro ⟨-, rfl, blank⟩
    exact none ⟨b, rest, shape, blank⟩
  rcases text with _ | ⟨a, _ | ⟨b, _ | ⟨c, rest⟩⟩⟩
  · rfl
  · rfl
  · rw [dropStrayHyphensFrom, dropStrayHyphensFrom, if_neg (notHere rfl _), if_neg (notHere rfl _)]
  · rw [dropStrayHyphensFrom, dropStrayHyphensFrom, if_neg (notHere rfl _), if_neg (notHere rfl _)]

/-- A visible character before a blank is kept, unless it is a hyphen that is stray. -/
theorem dropStrayHyphensFrom_visible (visible : Character.isBlank c = false)
    (blank : Character.isBlank d) (afterWord : Bool) (rest : Text) :
    dropStrayHyphensFrom afterWord (c :: d :: rest) =
      if afterWord ∧ c = '-' then ' ' :: dropStrayHyphensFrom false rest
      else c :: dropStrayHyphensFrom false (d :: rest) := by
  have noHyphen := ne_hyphen_of_isBlank blank
  cases rest with
  | nil =>
    rw [dropStrayHyphensFrom]
    by_cases stray : afterWord ∧ c = '-'
    · rw [if_pos stray, if_pos ⟨stray.1, stray.2, blank⟩]
      rfl
    · rw [if_neg stray, if_neg fun found => stray ⟨found.1, found.2.1⟩]
      rfl
  | cons e rest =>
    rw [dropStrayHyphensFrom, if_neg fun found => by rw [visible] at found; cases found.1]
    by_cases stray : afterWord ∧ c = '-'
    · rw [if_pos stray, if_pos ⟨stray.1, stray.2, blank⟩]
    · rw [if_neg stray, if_neg fun found => stray ⟨found.1, found.2.1⟩,
        dropStrayHyphensFrom_congr (not_beginsStray_cons noHyphen _)]

/-! ## Hyphens at the end of a text -/

/-- Whether a text, which is read from its end, ends with a hyphen that is stray if a blank follows:
a word ends before it, or a blank stands there that no stray hyphen before it has used up.
`afterWord` says that the character before the text belongs to a word. -/
def endsStrayFrom (afterWord : Bool) : Text → Bool
  | [] => false
  | [c] => c == '-' && afterWord
  | c :: d :: front =>
    c == '-' && (Character.isWordPart d || Character.isBlank d && !endsStrayFrom afterWord front)

/-- Whether a text ends with a hyphen that is stray if a blank follows. -/
def EndsStray (text : Text) : Prop :=
  endsStrayFrom false text.reverse

instance (text : Text) : Decidable (EndsStray text) :=
  inferInstanceAs (Decidable (_ = true))

theorem endsStrayFrom_cons_cons (afterWord : Bool) (front : Text) :
    endsStrayFrom afterWord (c :: d :: front) =
      (c == '-' &&
        (Character.isWordPart d || Character.isBlank d && !endsStrayFrom afterWord front)) :=
  rfl

/-- A word before it makes a hyphen stray. -/
theorem endsStray_of_isWordPart {last : Char} (word : Character.isWordPart last) (front : Text) :
    EndsStray (front ++ [last, '-']) := by
  simp [EndsStray, endsStrayFrom, word]

theorem endsStrayFrom_of_ne (other : c ≠ '-') (afterWord : Bool) (front : Text) :
    endsStrayFrom afterWord (c :: front) = false := by
  cases front <;> simp [endsStrayFrom, other]

/-- How a text ends is decided two characters at a time, so the rest of it matters only where this
comes to its end. -/
theorem endsStrayFrom_append {afterWord afterWord' : Bool} {lead lead' : Text}
    (start : endsStrayFrom afterWord lead = endsStrayFrom afterWord' lead')
    (next : ∀ c, endsStrayFrom afterWord (c :: lead) = endsStrayFrom afterWord' (c :: lead'))
    (text : Text) :
    endsStrayFrom afterWord (text ++ lead) = endsStrayFrom afterWord' (text ++ lead') := by
  induction text using List.twoStepInduction with
  | nil => exact start
  | singleton c => exact next c
  | cons_cons c d text ih _ =>
    simp only [List.cons_append, endsStrayFrom, ih]

/-- A blank after a stray hyphen has been used up, and what stands after it is judged by itself. -/
theorem endsStrayFrom_used {afterWord : Bool} {lead : Text} (stray : endsStrayFrom afterWord lead)
    (blank : Character.isBlank c) (text : Text) :
    endsStrayFrom afterWord (text ++ c :: lead) = endsStrayFrom false text := by
  have start : endsStrayFrom afterWord (c :: lead) = false :=
    endsStrayFrom_of_ne (ne_hyphen_of_isBlank blank) afterWord lead
  have alike := @endsStrayFrom_append afterWord false (c :: lead) [] start
    (fun d => by simp [endsStrayFrom, Character.isWordPart_of_isBlank blank, blank, stray]) text
  rwa [List.append_nil] at alike

theorem endsStrayFrom_pair {a b : Char} (noBlank : ¬ (Character.isBlank a ∧ b = '-'))
    (afterWord : Bool) : endsStrayFrom afterWord [b, a] =
      endsStrayFrom (Character.isWordPart a) [b] := by
  by_cases hyphen : b = '-'
  · have visible : Character.isBlank a = false :=
      Bool.eq_false_iff.mpr fun blank => noBlank ⟨blank, hyphen⟩
    simp [endsStrayFrom, visible]
  · simp [endsStrayFrom, beq_false_of_ne hyphen]

/-- After a character that no hyphen takes along, only whether it belongs to a word matters. -/
theorem endsStrayFrom_kept {a b : Char} {afterWord : Bool}
    (noBlank : ¬ (Character.isBlank a ∧ b = '-' ∧ Character.isBlank c))
    (noWord : ¬ (afterWord ∧ a = '-' ∧ Character.isBlank b)) (text : Text) :
    endsStrayFrom afterWord (text ++ [c, b, a]) =
      endsStrayFrom (Character.isWordPart a) (text ++ [c, b]) := by
  refine endsStrayFrom_append ?_ (fun d => ?_) text
  · cases blank : Character.isBlank b with
    | false => simp [endsStrayFrom, blank]
    | true =>
      have stays : endsStrayFrom afterWord [a] = false := by
        refine Bool.eq_false_iff.mpr fun stray => ?_
        rw [endsStrayFrom, Bool.and_eq_true, beq_iff_eq] at stray
        exact noWord ⟨stray.2, stray.1, blank⟩
      rw [endsStrayFrom_cons_cons, endsStrayFrom_cons_cons, stays]
      rfl
  · cases blank : Character.isBlank c with
    | false => simp [endsStrayFrom, blank]
    | true =>
      have apart : ¬ (Character.isBlank a ∧ b = '-') := fun found =>
        noBlank ⟨found.1, found.2, blank⟩
      exact congrArg
        (fun used => d == '-' && (Character.isWordPart c || Character.isBlank c && !used))
        (endsStrayFrom_pair apart afterWord)

/-- What a text that ends visibly leaves of itself and a blank after it: the text and the blank, or
a space if the text ends with a hyphen that is stray there. What follows is read by itself. -/
def CutsStray (afterWord : Bool) (left : Text) : Prop :=
  (endsStrayFrom afterWord left.reverse = false ∧ ∀ blank rest, Character.isBlank blank →
    dropStrayHyphensFrom afterWord (left ++ blank :: rest) =
      dropStrayHyphensFrom afterWord left ++ dropStrayHyphensFrom false (blank :: rest)) ∨
  (endsStrayFrom afterWord left.reverse ∧ ∃ kept, ∀ blank rest, Character.isBlank blank →
    dropStrayHyphensFrom afterWord (left ++ blank :: rest) =
      kept ++ ' ' :: dropStrayHyphensFrom false rest)

theorem CutsStray.cons {afterWord later : Bool} {lead kept left : Text}
    (keeps : ∀ rest, dropStrayHyphensFrom afterWord (lead ++ left ++ rest) =
      kept ++ dropStrayHyphensFrom later (left ++ rest))
    (ends : endsStrayFrom afterWord (lead ++ left).reverse = endsStrayFrom later left.reverse)
    (cuts : CutsStray later left) : CutsStray afterWord (lead ++ left) := by
  have alone := keeps []
  rw [List.append_nil, List.append_nil] at alone
  rcases cuts with ⟨stays, whole⟩ | ⟨stray, known, cut⟩
  · refine .inl ⟨ends.trans stays, fun blank rest isBlank => ?_⟩
    rw [keeps, whole blank rest isBlank, alone, List.append_assoc]
  · refine .inr ⟨ends.trans stray, kept ++ known, fun blank rest isBlank => ?_⟩
    rw [keeps, cut blank rest isBlank, List.append_assoc]

theorem cutsStray_single (visible : Character.isBlank c = false) (afterWord : Bool) :
    CutsStray afterWord [c] := by
  have walk {blank : Char} (isBlank : Character.isBlank blank) (rest : Text) :=
    dropStrayHyphensFrom_visible visible isBlank afterWord rest
  by_cases stray : afterWord ∧ c = '-'
  · refine .inr ⟨?_, [], fun blank rest isBlank => (walk isBlank rest).trans (if_pos stray)⟩
    simpa [endsStrayFrom] using stray.symm
  · refine .inl ⟨?_, fun blank rest isBlank => (walk isBlank rest).trans (if_neg stray)⟩
    rw [not_and'] at stray
    simpa [endsStrayFrom] using stray

/-- The induction is that of the walk: what it takes at once lies in the text, as the text ends
visibly, unless the text ends with the hyphen. A hyphen further on is judged as if the text began
after what was taken, as a blank in it has been used up. -/
theorem cutsStray (afterWord : Bool) {left : Text} (notEmpty : left ≠ [])
    (ends : ∀ c ∈ left.getLast?, Character.isBlank c = false) : CutsStray afterWord left := by
  fun_induction dropStrayHyphensFrom afterWord left with
  | case1 afterWord a b c rest stray ih =>
    have more : rest ≠ [] := by
      rintro rfl
      have visible := ends c rfl
      rw [stray.2.2] at visible
      cases visible
    have pair : endsStrayFrom afterWord [b, a] := by simp [endsStrayFrom, stray]
    refine @CutsStray.cons _ _ [a, b, c] [' '] _ (fun next => if_pos stray) ?_ (ih more ?_)
    · simpa using endsStrayFrom_used pair stray.2.2 rest.reverse
    · rwa [List.getLast?_cons_cons, List.getLast?_cons_cons, List.getLast?_cons_of_ne_nil more]
        at ends
  | case2 afterWord a b c rest notBefore stray ih =>
    have alone : endsStrayFrom afterWord [a] := by simp [endsStrayFrom, stray]
    refine @CutsStray.cons _ _ [a, b] [' '] _
      (fun next => (if_neg notBefore).trans (if_pos stray)) ?_ (ih (by simp) ?_)
    · simpa using endsStrayFrom_used alone stray.2.2 (c :: rest).reverse
    · rwa [List.getLast?_cons_cons, List.getLast?_cons_cons] at ends
  | case3 afterWord a b c rest notBefore notHere ih =>
    refine @CutsStray.cons _ _ [a] [a] _
      (fun next => (if_neg notBefore).trans (if_neg notHere)) ?_ (ih (by simp) ?_)
    · simpa using endsStrayFrom_kept notBefore notHere rest.reverse
    · rwa [List.getLast?_cons_cons] at ends
  | case4 afterWord a b stray =>
    have visible := ends b rfl
    rw [stray.2.2] at visible
    cases visible
  | case5 afterWord a b notHere =>
    by_cases stray : Character.isBlank a ∧ b = '-'
    · refine .inr ⟨by simp [endsStrayFrom, stray], [], fun blank rest isBlank => ?_⟩
      exact if_pos ⟨stray.1, stray.2, isBlank⟩
    · refine @CutsStray.cons _ _ [a] [a] [b] (fun next => ?_) ?_
        (cutsStray_single (ends b rfl) (Character.isWordPart a))
      · cases next with
        | nil => exact if_neg notHere
        | cons next rest =>
          exact (if_neg fun found => stray ⟨found.1, found.2.1⟩).trans (if_neg notHere)
      · exact endsStrayFrom_pair stray afterWord
  | case6 afterWord text longer pair =>
    rcases text with _ | ⟨a, _ | ⟨b, _ | ⟨c, rest⟩⟩⟩
    · exact absurd rfl notEmpty
    · exact cutsStray_single (ends a rfl) afterWord
    · exact absurd rfl (pair a b)
    · exact absurd rfl (longer a b c rest)

/-- A blank is kept if no stray hyphen follows. -/
theorem dropStrayHyphensFrom_blank (blank : Character.isBlank c) {text : Text}
    (none : ¬ BeginsStray text) :
    dropStrayHyphensFrom false (c :: text) = c :: dropStrayHyphensFrom false text := by
  have noHyphen := ne_hyphen_of_isBlank blank
  rcases text with _ | ⟨a, _ | ⟨b, rest⟩⟩
  · rfl
  · exact if_neg fun found => noHyphen found.2.1
  · have notBefore : ¬ (Character.isBlank c ∧ a = '-' ∧ Character.isBlank b) := by
      rintro ⟨-, rfl, isBlank⟩
      exact none ⟨b, rest, rfl, isBlank⟩
    rw [dropStrayHyphensFrom, if_neg notBefore, if_neg fun found => noHyphen found.2.1,
      dropStrayHyphensFrom_congr none]

theorem not_beginsStray_run {run : Text} (blank : run.isBlank) {right : Text}
    (none : ¬ BeginsStray right) : ¬ BeginsStray (run ++ right) := by
  cases run with
  | nil => exact none
  | cons c run =>
    rw [Text.isBlank, List.all_cons, Bool.and_eq_true] at blank
    exact not_beginsStray_cons (ne_hyphen_of_isBlank blank.1) _

theorem dropStrayHyphensFrom_run {run : Text} (blank : run.isBlank) {right : Text}
    (none : ¬ BeginsStray right) :
    dropStrayHyphensFrom false (run ++ right) = run ++ dropStrayHyphensFrom false right := by
  induction run with
  | nil => rfl
  | cons c run ih =>
    rw [Text.isBlank, List.all_cons, Bool.and_eq_true] at blank
    rw [List.cons_append, dropStrayHyphensFrom_blank blank.1 (not_beginsStray_run blank.2 none),
      ih blank.2]
    rfl

/-! ## Squeezing -/

/-- A run of blanks that is squeezed to a space, wherever it stands. -/
structure BecomesSpace (run : Text) : Prop where
  /-- It has blanks only. -/
  blank : run.isBlank
  /-- It is a space or longer than one blank. -/
  long : run = [' '] ∨ 2 ≤ run.length

theorem squeezeBlanksFrom_within {run : Text} (blank : run.isBlank) (rest : Text) :
    squeezeBlanksFrom true (run ++ rest) = squeezeBlanksFrom true rest := by
  induction run with
  | nil => rfl
  | cons c run ih =>
    rw [Text.isBlank, List.all_cons, Bool.and_eq_true] at blank
    rw [List.cons_append, squeezeBlanksFrom, if_pos blank.1, if_pos rfl, ih blank.2]

theorem BecomesSpace.squeezeBlanksFrom_append {run : Text} (becomes : BecomesSpace run)
    (rest : Text) : squeezeBlanksFrom false (run ++ rest) = ' ' :: squeezeBlanksFrom true rest := by
  obtain ⟨blank, rfl | long⟩ := becomes
  · rw [List.singleton_append, squeezeBlanksFrom, if_pos (by decide), if_neg Bool.false_ne_true]
    split
    case isTrue => rfl
    case isFalse notBlank =>
      cases rest with
      | nil => rfl
      | cons c rest =>
        have visible : Character.isBlank c = false := by simpa using notBlank
        rw [squeezeBlanksFrom, squeezeBlanksFrom, visible]
        rfl
  · rcases run with _ | ⟨c, _ | ⟨d, run⟩⟩
    · cases long
    · exact absurd long (Nat.not_succ_le_self 1)
    · rw [Text.isBlank, List.all_cons, Bool.and_eq_true] at blank
      have next : ((d :: run) ++ rest).head?.any Character.isBlank :=
        (Bool.and_eq_true _ _ ▸ blank.2).1
      rw [List.cons_append, squeezeBlanksFrom, if_pos blank.1, if_neg Bool.false_ne_true,
        if_pos next, squeezeBlanksFrom_within blank.2]

theorem BecomesSpace.exists_cons {run : Text} (becomes : BecomesSpace run) :
    ∃ (c : Char) (rest : Text), run = c :: rest ∧ Character.isBlank c ∧ rest.isBlank := by
  obtain ⟨blank, shape⟩ := becomes
  cases run with
  | nil => simp at shape
  | cons c rest =>
    rw [Text.isBlank, List.all_cons, Bool.and_eq_true] at blank
    exact ⟨c, rest, rfl, blank⟩

theorem BecomesSpace.ne_nil {run : Text} (becomes : BecomesSpace run) : run ≠ [] := by
  obtain ⟨c, rest, rfl, -⟩ := becomes.exists_cons
  exact List.cons_ne_nil c rest

/-- Which of two such runs stands in a text makes no difference. -/
theorem squeezeBlanksFrom_congr {run run' : Text} (becomes : BecomesSpace run)
    (becomes' : BecomesSpace run') (within : Bool) (front back : Text) :
    squeezeBlanksFrom within (front ++ (run ++ back)) =
      squeezeBlanksFrom within (front ++ (run' ++ back)) := by
  induction front generalizing within with
  | nil =>
    cases within with
    | true =>
      rw [List.nil_append, List.nil_append, squeezeBlanksFrom_within becomes.blank,
        squeezeBlanksFrom_within becomes'.blank]
    | false =>
      rw [List.nil_append, List.nil_append, becomes.squeezeBlanksFrom_append,
        becomes'.squeezeBlanksFrom_append]
  | cons c front ih =>
    have next : (front ++ (run ++ back)).head?.any Character.isBlank =
        (front ++ (run' ++ back)).head?.any Character.isBlank := by
      cases front with
      | cons d front => rfl
      | nil =>
        obtain ⟨d, rest, rfl, isBlank, -⟩ := becomes.exists_cons
        obtain ⟨d', rest', rfl, isBlank', -⟩ := becomes'.exists_cons
        exact isBlank.trans isBlank'.symm
    rw [List.cons_append, List.cons_append, squeezeBlanksFrom, squeezeBlanksFrom, ih, ih, next]

theorem becomesSpace_cons {run : Text} (blank : run.isBlank) : BecomesSpace (' ' :: run) := by
  refine ⟨?_, ?_⟩
  · rw [Text.isBlank, List.all_cons, Bool.and_eq_true]
    exact ⟨by decide, blank⟩
  · cases run with
    | nil => exact .inl rfl
    | cons c run => exact .inr (Nat.le_add_left 2 run.length)

theorem becomesSpace_concat {run : Text} (blank : run.isBlank) : BecomesSpace (run ++ [' ']) := by
  refine ⟨?_, ?_⟩
  · rw [Text.isBlank, List.all_append, Bool.and_eq_true]
    exact ⟨blank, by decide⟩
  · cases run with
    | nil => exact .inl rfl
    | cons c run => exact .inr (by simp)

/-- The last blank of a run goes with a stray hyphen that follows, and what is left of the run
becomes a space. -/
theorem exists_becomesSpace_of_beginsStray {right : Text} (stray : BeginsStray right) :
    ∃ rest, ∀ run : Text, run.isBlank → run ≠ [] → ∃ space, BecomesSpace space ∧
      dropStrayHyphensFrom false (run ++ right) = space ++ rest := by
  obtain ⟨d, rest, rfl, isBlank⟩ := stray
  refine ⟨dropStrayHyphensFrom false rest, fun run blank notEmpty => ?_⟩
  rcases List.eq_nil_or_concat' run with empty | ⟨front, c, rfl⟩
  · exact absurd empty notEmpty
  · rw [Text.isBlank, List.all_append, Bool.and_eq_true, List.all_cons, Bool.and_eq_true] at blank
    have noHyphen := ne_hyphen_of_isBlank blank.2.1
    have here : dropStrayHyphensFrom false (c :: '-' :: d :: rest) =
        ' ' :: dropStrayHyphensFrom false rest := if_pos ⟨blank.2.1, rfl, isBlank⟩
    refine ⟨front ++ [' '], becomesSpace_concat blank.1, ?_⟩
    rw [List.append_assoc, List.singleton_append,
      dropStrayHyphensFrom_run blank.1 (not_beginsStray_cons noHyphen _), here, List.append_assoc]
    rfl

/-- A text that begins visibly begins as it did. -/
theorem exists_dropStrayHyphens_cons (visible : Character.isBlank c = false) (rest : Text) :
    ∃ next, dropStrayHyphens (c :: rest) = c :: next := by
  have notBlank : ¬ Character.isBlank c := Bool.eq_false_iff.mp visible
  rcases rest with _ | ⟨a, _ | ⟨b, rest⟩⟩
  · exact ⟨[], rfl⟩
  · exact ⟨[a], (if_neg fun found => Bool.false_ne_true found.1 :
      dropStrayHyphensFrom false [c, a] = _)⟩
  · exact ⟨_, (if_neg fun found => notBlank found.1).trans
      (if_neg fun found => Bool.false_ne_true found.1)⟩

theorem getLast?_cons_congr {a b : Char} {text text' : Text} (notEmpty : text ≠ [])
    (same : text'.getLast? = text.getLast?) : (a :: text').getLast? = (b :: text).getLast? := by
  rw [List.getLast?_cons, List.getLast?_cons, same]
  cases last : text.getLast? with
  | none => exact absurd (List.getLast?_eq_none_iff.mp last) notEmpty
  | some c => rfl

/-! ## Trimming -/

theorem trimStart_concat (visible : Character.isBlank c = false) (front : Text) :
    ∃ rest, ∀ back, trimStart (front ++ c :: back) = rest ++ c :: back := by
  induction front with
  | nil => exact ⟨[], fun back => trimStart_eq_self (by simpa using visible)⟩
  | cons a front ih =>
    unfold trimStart at ih ⊢
    cases blank : Character.isBlank a with
    | true =>
      obtain ⟨rest, known⟩ := ih
      refine ⟨rest, fun back => ?_⟩
      rw [List.cons_append, List.dropWhile_cons, if_pos blank, known]
    | false =>
      refine ⟨a :: front, fun back => ?_⟩
      rw [List.cons_append, List.dropWhile_cons, if_neg (by simp [blank])]

theorem trimEnd_append {back : Text} (visible : trimEnd back ≠ []) (front : Text) :
    trimEnd (front ++ back) = front ++ trimEnd back := by
  induction front with
  | nil => rfl
  | cons a front ih =>
    rw [List.cons_append, trimEnd, ih]
    cases rest : front ++ trimEnd back with
    | nil => exact absurd (List.append_eq_nil_iff.mp rest).2 visible
    | cons b more => rw [List.cons_append, rest]

/-- What stands between visible characters is not trimmed. -/
theorem trim_between (left : Character.isBlank c = false) (right : Character.isBlank d = false)
    (front middle back : Text) :
    trim ((front ++ [c]) ++ (middle ++ d :: back)) =
      trim (front ++ [c]) ++ (middle ++ trim (d :: back)) := by
  obtain ⟨rest, known⟩ := trimStart_concat left front
  have start : trimStart (d :: back) = d :: back := trimStart_eq_self (by simpa using right)
  have visible : trimEnd (d :: back) ≠ [] := by
    rw [trimEnd]
    cases trimEnd back with
    | nil => simp [right]
    | cons e more => exact List.cons_ne_nil d _
  have last : trimEnd (rest ++ [c]) = rest ++ [c] := trimEnd_eq_self (by simpa using left)
  unfold trim
  rw [List.append_assoc, List.singleton_append, known, known [], last, start,
    ← List.singleton_append, ← List.append_assoc, ← List.append_assoc, trimEnd_append visible,
    List.append_assoc]

/-- A text with its stray hyphens dropped and its blanks squeezed and trimmed. -/
def smoothed (text : Text) : Text :=
  trim (squeezeBlanks (dropStrayHyphens text))

/-- A single blank between visible characters stays. -/
theorem trim_squeezeBlanks_single {blank : Char} (left : Character.isBlank c = false)
    (right : Character.isBlank d = false) (front back : Text) :
    trim (squeezeBlanks ((front ++ [c]) ++ blank :: (d :: back))) =
      trim (squeezeBlanks (front ++ [c])) ++ blank :: trim (squeezeBlanks (d :: back)) := by
  have alone : squeezeBlanks (blank :: d :: back) = blank :: squeezeBlanks (d :: back) :=
    squeezeBlanksFrom_cons fun next isNext both => by
      obtain rfl := Option.some.inj isNext
      rw [right] at both
      cases both.2
  rw [squeezeBlanks_append left, alone, squeezeBlanks_concat left, squeezeBlanks_cons right]
  exact trim_between left right _ [blank] _

section Sides

variable {left right : Text} (notEmpty : left ≠ [])
  (ends : ∀ c ∈ left.getLast?, Character.isBlank c = false)

include notEmpty ends

/-- A run of blanks is kept if the hyphens next to it are not stray. -/
theorem dropStrayHyphens_kept (stays : ¬ EndsStray left) (apart : ¬ BeginsStray right) {run : Text}
    (blank : run.isBlank) (some : run ≠ []) :
    dropStrayHyphens (left ++ (run ++ right)) =
      dropStrayHyphens left ++ (run ++ dropStrayHyphens right) := by
  unfold dropStrayHyphens
  obtain ⟨c, rest, rfl⟩ := List.exists_cons_of_ne_nil some
  rcases cutsStray false notEmpty ends with ⟨-, whole⟩ | ⟨stray, -⟩
  · rw [List.cons_append, whole c (rest ++ right) (List.all_eq_true.mp blank c List.mem_cons_self),
      ← List.cons_append, dropStrayHyphensFrom_run blank apart]
  · exact absurd stray stays

/-- If one of the hyphens is stray, the run becomes a space with it; and if both are, so it does
unless it is a single blank. -/
theorem exists_dropStrayHyphens_spaced (stray : EndsStray left ∨ BeginsStray right) :
    ∃ front back, ∀ run : Text, run.isBlank → run ≠ [] →
      (EndsStray left → BeginsStray right → run.length ≠ 1) → ∃ space, BecomesSpace space ∧
        dropStrayHyphens (left ++ (run ++ right)) = front ++ (space ++ back) := by
  unfold dropStrayHyphens
  rcases cutsStray false notEmpty ends with ⟨stays, whole⟩ | ⟨endsStray, kept, cut⟩
  · have begins : BeginsStray right := stray.resolve_left (Bool.eq_false_iff.mp stays)
    obtain ⟨back, shape⟩ := exists_becomesSpace_of_beginsStray begins
    refine ⟨dropStrayHyphensFrom false left, back, fun run blank some _ => ?_⟩
    obtain ⟨space, becomes, walk⟩ := shape run blank some
    obtain ⟨c, rest, rfl⟩ := List.exists_cons_of_ne_nil some
    have cut := whole c (rest ++ right) (List.all_eq_true.mp blank c List.mem_cons_self)
    exact ⟨space, becomes, cut.trans (congrArg _ walk)⟩
  · by_cases begins : BeginsStray right
    · obtain ⟨back, shape⟩ := exists_becomesSpace_of_beginsStray begins
      refine ⟨kept, back, fun run blank some long => ?_⟩
      obtain ⟨c, rest, rfl⟩ := List.exists_cons_of_ne_nil some
      have more : rest ≠ [] := by
        rintro rfl
        exact long endsStray begins rfl
      rw [Text.isBlank, List.all_cons, Bool.and_eq_true] at blank
      obtain ⟨space, becomes, walk⟩ := shape rest blank.2 more
      refine ⟨' ' :: space, becomesSpace_cons becomes.blank, ?_⟩
      have walkOn := cut c (rest ++ right) blank.1
      rwa [walk] at walkOn
    · refine ⟨kept, dropStrayHyphensFrom false right, fun run blank some _ => ?_⟩
      obtain ⟨c, rest, rfl⟩ := List.exists_cons_of_ne_nil some
      rw [Text.isBlank, List.all_cons, Bool.and_eq_true] at blank
      refine ⟨' ' :: rest, becomesSpace_cons blank.2, ?_⟩
      have walk := cut c (rest ++ right) blank.1
      rwa [dropStrayHyphensFrom_run blank.2 begins] at walk

/-- A single blank between two stray hyphens is used up by the first one, and the second one
stays. -/
theorem exists_dropStrayHyphens_shared (stray : EndsStray left) (right : Text) :
    ∃ text, ∀ c, Character.isBlank c → dropStrayHyphens (left ++ c :: right) = text := by
  rcases cutsStray false notEmpty ends with ⟨stays, -⟩ | ⟨-, kept, cut⟩
  · exact absurd stray (Bool.eq_false_iff.mp stays)
  · exact ⟨_, fun c blank => cut c right blank⟩

/-- Next to a stray hyphen it makes no difference which blanks a run has. Between two stray hyphens
it matters whether it is a single one. -/
theorem smoothed_stray (stray : EndsStray left ∨ BeginsStray right) {run run' : Text}
    (blank : run.isBlank) (some : run ≠ []) (blank' : run'.isBlank) (some' : run' ≠ [])
    (alike : EndsStray left → BeginsStray right → (run.length = 1 ↔ run'.length = 1)) :
    smoothed (left ++ (run ++ right)) = smoothed (left ++ (run' ++ right)) := by
  refine congrArg trim ?_
  by_cases shared : EndsStray left ∧ BeginsStray right ∧ run.length = 1
  · obtain ⟨endsStray, begins, single⟩ := shared
    obtain ⟨c, rfl⟩ := List.length_eq_one_iff.mp single
    obtain ⟨d, rfl⟩ := List.length_eq_one_iff.mp ((alike endsStray begins).mp single)
    obtain ⟨text, same⟩ := exists_dropStrayHyphens_shared notEmpty ends endsStray right
    rw [List.singleton_append, List.singleton_append,
      same c (List.all_eq_true.mp blank c List.mem_cons_self),
      same d (List.all_eq_true.mp blank' d List.mem_cons_self)]
  · obtain ⟨front, back, spaced⟩ := exists_dropStrayHyphens_spaced notEmpty ends stray
    have long (endsStray : EndsStray left) (begins : BeginsStray right) : run.length ≠ 1 :=
      fun single => shared ⟨endsStray, begins, single⟩
    obtain ⟨space, settles, walk⟩ := spaced run blank some long
    obtain ⟨space', settles', walk'⟩ := spaced run' blank' some' fun endsStray begins single =>
      long endsStray begins ((alike endsStray begins).mpr single)
    rw [walk, walk']
    exact squeezeBlanksFrom_congr settles settles' false _ _

/-- Two runs that become a space can stand for each other, unless only one of them is a single blank
between two stray hyphens. -/
theorem smoothed_congr {run run' : Text} (becomes : BecomesSpace run) (becomes' : BecomesSpace run')
    (alike : EndsStray left → BeginsStray right → (run.length = 1 ↔ run'.length = 1)) :
    smoothed (left ++ (run ++ right)) = smoothed (left ++ (run' ++ right)) := by
  by_cases stray : EndsStray left ∨ BeginsStray right
  · exact smoothed_stray notEmpty ends stray becomes.blank becomes.ne_nil becomes'.blank
      becomes'.ne_nil alike
  · obtain ⟨stays, apart⟩ := not_or.mp stray
    unfold smoothed
    rw [dropStrayHyphens_kept notEmpty ends stays apart becomes.blank becomes.ne_nil,
      dropStrayHyphens_kept notEmpty ends stays apart becomes'.blank becomes'.ne_nil]
    exact congrArg trim (squeezeBlanksFrom_congr becomes becomes' false _ _)

/-- A text that ends visibly ends as it did. -/
theorem getLast?_dropStrayHyphensFrom (afterWord : Bool) :
    (dropStrayHyphensFrom afterWord left).getLast? = left.getLast? := by
  fun_induction dropStrayHyphensFrom afterWord left with
  | case1 afterWord a b c rest stray ih =>
    have more : rest ≠ [] := by
      rintro rfl
      have visible := ends c rfl
      rw [stray.2.2] at visible
      cases visible
    rw [List.getLast?_cons_cons, List.getLast?_cons_cons] at ends ⊢
    rw [List.getLast?_cons_of_ne_nil more] at ends
    exact getLast?_cons_congr more (ih more ends)
  | case2 afterWord a b c rest notBefore stray ih =>
    rw [List.getLast?_cons_cons] at ends ⊢
    exact getLast?_cons_congr (List.cons_ne_nil c rest)
      (ih (List.cons_ne_nil c rest) (by rwa [List.getLast?_cons_cons] at ends))
  | case3 afterWord a b c rest notBefore notHere ih =>
    rw [List.getLast?_cons_cons] at ends
    exact getLast?_cons_congr (List.cons_ne_nil b _) (ih (List.cons_ne_nil b _) ends)
  | case4 afterWord a b stray =>
    have visible := ends b rfl
    rw [stray.2.2] at visible
    cases visible
  | case5 | case6 => rfl

/-- A single blank stays between visible characters if the hyphens next to it are not stray. -/
theorem smoothed_kept (stays : ¬ EndsStray left) (apart : ¬ BeginsStray right)
    (begins : ∃ d rest, right = d :: rest ∧ Character.isBlank d = false)
    (blank : Character.isBlank c) :
    smoothed (left ++ c :: right) = smoothed left ++ c :: smoothed right := by
  have single : Text.isBlank [c] := by simpa [Text.isBlank] using blank
  have walk := dropStrayHyphens_kept notEmpty ends stays apart single (List.cons_ne_nil c [])
  rw [List.singleton_append, List.singleton_append] at walk
  obtain ⟨d, rest, rfl, visible⟩ := begins
  obtain ⟨next, isNext⟩ := exists_dropStrayHyphens_cons visible rest
  obtain ⟨last, isLast⟩ : ∃ last, left.getLast? = some last :=
    Option.ne_none_iff_exists'.mp (List.getLast?_eq_none_iff.not.mpr notEmpty)
  have same := (getLast?_dropStrayHyphensFrom notEmpty ends false).trans isLast
  obtain ⟨front, shape⟩ : ∃ front, dropStrayHyphens left = front ++ [last] :=
    List.getLast?_eq_some_iff.mp same
  unfold smoothed
  rw [walk, isNext, shape]
  exact trim_squeezeBlanks_single (ends last isLast) visible front next

end Sides

end FullTextQuery.CleanText
