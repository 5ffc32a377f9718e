import FullTextQuery.Proofs.FixedText

/-!
# Seams between clean texts

Clean texts can be put in brackets (`Clean.group`) and joined with a space (`Clean.space`): no step
of cleaning finds something at the seam that is on neither side. What the steps look for either
lacks the characters of a seam, or is a hyphen with a blank on its right, and so the space between
two texts is the only seam with a condition.
-/

namespace FullTextQuery

namespace Text

/-- A lead that begins before a character that it does not have ends before it. -/
theorem afterFolded?_append {lead : Text} {c : Char} (free : afterFolded?.foldCase c ∉ lead)
    (front back : Text) :
    afterFolded? lead (front ++ c :: back) = (afterFolded? lead front).map (· ++ c :: back) := by
  induction lead generalizing front with
  | nil => cases front <;> rfl
  | cons l lead ih =>
    rw [List.mem_cons, not_or] at free
    cases front with
    | nil =>
      rw [List.nil_append, afterFolded?, afterFolded?, if_neg free.1]
      rfl
    | cons first front =>
      rw [List.cons_append, afterFolded?, afterFolded?]
      split
      · exact ih free.2 front
      · rfl

end Text

namespace CleanText

open Text Character

variable {front back : Text} {c : Char}

/-- No marker reaches over a character that it does not have. -/
theorem hasTitleMarker_append (free : afterFolded?.foldCase c ∉ ['t', 'i', 't', 'l', 'e', ':']) :
    hasTitleMarker (front ++ c :: back) = (hasTitleMarker front || hasTitleMarker back) := by
  induction front with
  | nil =>
    have none := afterFolded?_append free [] back
    rw [List.nil_append] at none ⊢
    rw [hasTitleMarker, hasTitleMarker, none]
    rfl
  | cons first front ih =>
    have passed := afterFolded?_append free (first :: front) back
    rw [List.cons_append] at passed ⊢
    rw [hasTitleMarker, passed, ih, Option.isSome_map, ← Bool.or_assoc]
    rfl

theorem isEntityLine_append (free : afterFolded?.foldCase c ∉ ['&', 'n', 'b', 's', 'p', ';'])
    {line : Text} (other : emptyEntityLinesFrom.isEntityLine line = false) :
    emptyEntityLinesFrom.isEntityLine (line ++ c :: back) = false := by
  unfold emptyEntityLinesFrom.isEntityLine at other ⊢
  rw [afterFolded?_append free]
  cases found : afterFolded? ['&', 'n', 'b', 's', 'p', ';'] line with
  | none => rfl
  | some after =>
    rw [found] at other
    cases after with
    | nil => cases other
    | cons next after => exact other

/-- Nor does an entity, and the line goes on after the character. -/
theorem hasEntityLine_append (free : afterFolded?.foldCase c ∉ ['&', 'n', 'b', 's', 'p', ';'])
    (inLine : c ≠ '\n') {lineStart : Bool} (noneFront : hasEntityLine lineStart front = false)
    (noneBack : hasEntityLine false back = false) :
    hasEntityLine lineStart (front ++ c :: back) = false := by
  induction front generalizing lineStart with
  | nil =>
    have none : emptyEntityLinesFrom.isEntityLine (c :: back) = false :=
      @isEntityLine_append back c free [] rfl
    rw [List.nil_append, hasEntityLine, none, beq_false_of_ne inLine, noneBack, Bool.and_false]
    rfl
  | cons first front ih =>
    unfold hasEntityLine at noneFront
    rw [Bool.or_eq_false_iff] at noneFront
    rw [List.cons_append, hasEntityLine, ih noneFront.2, Bool.or_false, ← List.cons_append]
    rcases Bool.and_eq_false_iff.mp noneFront.1 with inside | other
    · rw [inside, Bool.false_and]
    · rw [isEntityLine_append free other, Bool.and_false]

theorem hasEntityLine_false {lineStart : Bool} (none : hasEntityLine lineStart back = false) :
    hasEntityLine false back = false := by
  cases back with
  | nil => rfl
  | cons first back =>
    unfold hasEntityLine at none ⊢
    rw [Bool.or_eq_false_iff] at none
    rw [none.2]
    rfl

/-- A hyphen is stray on either side of a seam by itself. On the left it may be stray before the
seam, on the right after it. -/
theorem hasStrayHyphen_append (noHyphen : c ≠ '-') (loose : Bool) (front back : Text) :
    hasStrayHyphen loose (front ++ c :: back) =
      (hasStrayHyphen loose (front ++ [c]) ||
        hasStrayHyphen (Character.isWordPart c || Character.isBlank c) back) := by
  induction front generalizing loose with
  | nil =>
    cases back with
    | nil => rfl
    | cons next back =>
      rw [List.nil_append, hasStrayHyphen, beq_false_of_ne noHyphen, Bool.and_false]
      rfl
  | cons first front ih =>
    cases front with
    | nil =>
      have known := ih (Character.isWordPart first || Character.isBlank first)
      rw [List.nil_append, List.nil_append] at known
      rw [List.singleton_append, List.singleton_append, hasStrayHyphen, known, hasStrayHyphen,
        Bool.or_assoc]
    | cons second front =>
      have known := ih (Character.isWordPart first || Character.isBlank first)
      rw [List.cons_append, List.cons_append] at known
      rw [List.cons_append, List.cons_append, List.cons_append, List.cons_append, hasStrayHyphen,
        known, hasStrayHyphen, Bool.or_assoc]

/-- Before a seam no hyphen is stray that was not, unless it is the last character and the seam is
blank. -/
theorem hasStrayHyphen_concat (last : Character.isBlank c → front.getLast? ≠ some '-')
    {loose : Bool} (none : hasStrayHyphen loose front = false) :
    hasStrayHyphen loose (front ++ [c]) = false := by
  induction front generalizing loose with
  | nil => rfl
  | cons first front ih =>
    cases front with
    | nil =>
      refine hasStrayHyphen_cons (fun next isNext stray => ?_) rfl loose
      obtain rfl := Option.some.inj isNext
      exact last stray.2 (by rw [stray.1]; rfl)
    | cons second front =>
      unfold hasStrayHyphen at none
      rw [Bool.or_eq_false_iff] at none
      rw [List.getLast?_cons_cons] at last
      rw [List.cons_append, List.cons_append, hasStrayHyphen, none.1, Bool.false_or]
      exact ih last none.2

/-- A hyphen that is stray only before a seam is the last character, after a word or a blank. -/
theorem exists_of_hasStrayHyphen_concat {loose : Bool} (none : hasStrayHyphen loose front = false)
    (stray : hasStrayHyphen loose (front ++ [c])) :
    (loose ∧ front = ['-']) ∨
      ∃ before a, front = before ++ [a, '-'] ∧ (Character.isWordPart a || Character.isBlank a) := by
  induction front generalizing loose with
  | nil => cases stray
  | cons first front ih =>
    cases front with
    | nil =>
      simp only [List.cons_append, List.nil_append, hasStrayHyphen, Bool.or_false,
        Bool.and_eq_true, beq_iff_eq] at stray
      exact .inl ⟨stray.1.1, by rw [stray.1.2]⟩
    | cons second front =>
      unfold hasStrayHyphen at none
      rw [Bool.or_eq_false_iff] at none
      rw [List.cons_append, List.cons_append, hasStrayHyphen, none.1, Bool.false_or] at stray
      rcases ih none.2 stray with ⟨loose, shape⟩ | ⟨before, a, shape, known⟩
      · exact .inr ⟨[], first, by rw [shape]; rfl, loose⟩
      · exact .inr ⟨first :: before, a, by rw [shape]; rfl, known⟩

/-- A hyphen that comes first is stray after a word only. -/
theorem hasStrayHyphen_of_head? (none : hasStrayHyphen false back = false)
    (first : back.head? ≠ some '-') (loose : Bool) : hasStrayHyphen loose back = false := by
  cases back with
  | nil => rfl
  | cons a back =>
    cases back with
    | nil => rfl
    | cons b back =>
      have noHyphen : (a == '-') = false :=
        beq_false_of_ne fun isHyphen => first (by rw [isHyphen]; rfl)
      unfold hasStrayHyphen at none ⊢
      rw [Bool.or_eq_false_iff] at none
      rw [none.2, noHyphen, Bool.and_false]
      rfl

/-- The characters that clean texts are joined with mean nothing to any step. -/
theorem seam_facts {c : Char} (seam : c ∈ [' ', '(', ')']) :
    afterFolded?.foldCase c ∉ ['t', 'i', 't', 'l', 'e', ':'] ∧
      afterFolded?.foldCase c ∉ ['&', 'n', 'b', 's', 'p', ';'] ∧ c ≠ '\n' ∧ c ≠ '-' ∧
      Character.isWordPart c = false ∧ plainMark c = c ∧ c ≠ 'Σ' ∧ lower c = [c] := by
  have known : [' ', '(', ')'].all fun c =>
      afterFolded?.foldCase c ∉ ['t', 'i', 't', 'l', 'e', ':'] ∧
        afterFolded?.foldCase c ∉ ['&', 'n', 'b', 's', 'p', ';'] ∧ c ≠ '\n' ∧ c ≠ '-' ∧
        Character.isWordPart c = false ∧ plainMark c = c ∧ c ≠ 'Σ' ∧ lower c = [c] := by
    decide +kernel
  exact of_decide_eq_true (List.all_eq_true.mp known c seam)

namespace Clean

variable {front back : Text}

theorem nil : Clean [] :=
  ofRaw_eq_self_iff.mp rfl

/-- Clean texts are joined with a bracket, or with a space if both have a character and no hyphen
becomes stray. -/
theorem append {c : Char} (seam : c ∈ [' ', '(', ')']) (left : Clean front) (right : Clean back)
    (touches : Character.isBlank c →
      (front ≠ [] ∧ hasStrayHyphen false (front ++ [c]) = false) ∧
        (back ≠ [] ∧ hasStrayHyphen true back = false)) : Clean (front ++ c :: back) := by
  obtain ⟨noMarker, noEntity, inLine, noHyphen, noWord, plain, small⟩ := seam_facts seam
  have before : hasStrayHyphen false (front ++ [c]) = false := by
    by_cases blank : Character.isBlank c
    · exact (touches blank).1.2
    · exact hasStrayHyphen_concat (fun isBlank => absurd isBlank blank) left.noStray
  have after : hasStrayHyphen (Character.isWordPart c || Character.isBlank c) back = false := by
    rw [noWord, Bool.false_or]
    cases blank : Character.isBlank c with
    | false => exact right.noStray
    | true => exact (touches blank).2.2
  have all {p : Char → Prop} (ofFront : ∀ d ∈ front, p d) (ofSeam : p c)
      (ofBack : ∀ d ∈ back, p d) : ∀ d ∈ front ++ c :: back, p d := by
    intro d member
    rcases List.mem_append.mp member with inFront | isSeam | ⟨_, inBack⟩
    · exact ofFront d inFront
    · exact ofSeam
    · exact ofBack d inBack
  exact {
    noMarker := by rw [hasTitleMarker_append noMarker, left.noMarker, right.noMarker]; rfl
    plain := all left.plain plain right.plain
    apart := by
      refine List.isChain_append.mpr ⟨left.apart, List.isChain_cons.mpr ⟨?_, right.apart⟩, ?_⟩
      · intro next isNext blanks
        rw [right.first next isNext] at blanks
        exact absurd blanks.2 (by simp)
      · intro before isBefore next _ blanks
        rw [left.last before isBefore] at blanks
        exact absurd blanks.1 (by simp)
    first := by
      cases front with
      | nil =>
        intro d isFirst
        obtain rfl := Option.some.inj isFirst
        exact Bool.eq_false_iff.mpr fun blank => (touches blank).1.1 rfl
      | cons first front => exact left.first
    last := by
      rw [List.getLast?_append_cons]
      cases back with
      | nil =>
        intro d isLast
        obtain rfl := Option.some.inj isLast
        exact Bool.eq_false_iff.mpr fun blank => (touches blank).2.1 rfl
      | cons next back =>
        rw [List.getLast?_cons_cons]
        exact right.last
    noEntity :=
      hasEntityLine_append noEntity inLine left.noEntity (hasEntityLine_false right.noEntity)
    noStray := by rw [hasStrayHyphen_append noHyphen, before, after]; rfl
    small := all left.small small right.small }

/-- A clean text in brackets is clean. -/
theorem group (inner : Clean front) : Clean ('(' :: (front ++ [')'])) :=
  nil.append (by decide) (inner.append (by decide) nil fun blank => absurd blank (by decide))
    fun blank => absurd blank (by decide)

/-- Clean texts on both sides of a space are clean if no hyphen becomes stray at it. -/
theorem spaced (left : Clean front) (right : Clean back)
    (before : front ≠ [] ∧ hasStrayHyphen false (front ++ [' ']) = false)
    (after : back ≠ [] ∧ hasStrayHyphen true back = false) : Clean (front ++ ' ' :: back) :=
  left.append (by decide) right fun _ => ⟨before, after⟩

/-- So they are if no hyphen touches it. -/
theorem space (left : Clean front) (right : Clean back)
    (before : front ≠ [] ∧ front.getLast? ≠ some '-')
    (after : back ≠ [] ∧ back.head? ≠ some '-') : Clean (front ++ ' ' :: back) :=
  left.spaced right
    ⟨before.1, hasStrayHyphen_concat (fun _ => before.2) left.noStray⟩
    ⟨after.1, hasStrayHyphen_of_head? right.noStray after.2 true⟩

end Clean

end CleanText

end FullTextQuery
