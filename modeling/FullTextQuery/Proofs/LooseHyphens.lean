import FullTextQuery.Proofs.StrayHyphens

/-!
# Stray hyphens of a text

A hyphen is stray if a blank follows it and a word or a blank ends before it (`HasStray`). Lowering
letters and squeezing blanks bring no stray hyphen about and remove none. Trimming removes those
with nothing visible before or after them (`hasStray_trim_iff`).
-/

namespace FullTextQuery.CleanText

open Text

/-- A character after which a hyphen is stray if a blank follows it. -/
def isLoose (c : Char) : Bool :=
  Character.isWordPart c || Character.isBlank c

theorem isLoose_of_isBlank {c : Char} (blank : Character.isBlank c) : isLoose c := by
  rw [isLoose, blank, Bool.or_true]

/-- Whether a text ends with such a character. -/
def EndsLoose (text : Text) : Prop :=
  ∃ c ∈ text.getLast?, isLoose c

/-- Whether a text begins with a blank. -/
def BeginsBlank (text : Text) : Prop :=
  ∃ c ∈ text.head?, Character.isBlank c

/-- A text has a stray hyphen: one with a blank after it, and a blank or a part of a word before
it. -/
def HasStray (text : Text) : Prop :=
  ∃ front back, text = front ++ '-' :: back ∧ EndsLoose front ∧ BeginsBlank back

theorem not_endsLoose_nil : ¬ EndsLoose [] := by
  rintro ⟨c, ⟨⟩, -⟩

/-- Whether a text with something before it ends with such a character. `loose` says so of what
stands before it. -/
def EndsLooseAfter (loose : Bool) (text : Text) : Prop :=
  (text = [] ∧ loose) ∨ EndsLoose text

theorem endsLoose_cons {c : Char} {text : Text} :
    EndsLoose (c :: text) ↔ EndsLooseAfter (isLoose c) text := by
  cases text with
  | nil => simp [EndsLooseAfter, EndsLoose]
  | cons d text => simp [EndsLooseAfter, EndsLoose]

theorem beginsBlank_cons {c : Char} {text : Text} :
    BeginsBlank (c :: text) ↔ Character.isBlank c := by
  simp [BeginsBlank]

theorem any_head?_iff {text : Text} : text.head?.any Character.isBlank ↔ BeginsBlank text := by
  cases text with
  | nil => simp [BeginsBlank]
  | cons c text => simp [BeginsBlank]

theorem beginsStray_cons {c : Char} {rest : Text} :
    BeginsStray (c :: rest) ↔ c = '-' ∧ BeginsBlank rest := by
  cases rest with
  | nil => simp [BeginsStray, BeginsBlank]
  | cons d rest => simp [BeginsStray, BeginsBlank]

theorem not_hasStray_nil : ¬ HasStray [] := by
  rintro ⟨front, back, whole, -⟩
  cases (List.nil_eq_append_iff.mp whole).2

theorem hasStray_cons {c : Char} {rest : Text} :
    HasStray (c :: rest) ↔ (isLoose c ∧ BeginsStray rest) ∨ HasStray rest := by
  constructor
  · rintro ⟨front, back, whole, loose, blank⟩
    cases front with
    | nil => exact absurd loose not_endsLoose_nil
    | cons d front =>
      obtain ⟨rfl, rfl⟩ := List.cons.inj whole
      rcases endsLoose_cons.mp loose with ⟨rfl, looseFirst⟩ | later
      · exact .inl ⟨looseFirst, beginsStray_cons.mpr ⟨rfl, blank⟩⟩
      · exact .inr ⟨front, back, rfl, later, blank⟩
  · rintro (⟨loose, blank, back, rfl, isBlank⟩ | ⟨front, back, rfl, loose, blank⟩)
    · exact ⟨[c], blank :: back, rfl, ⟨c, rfl, loose⟩, beginsBlank_cons.mpr isBlank⟩
    · exact ⟨c :: front, back, rfl, endsLoose_cons.mpr (.inr loose), blank⟩

/-! ## Steps that leave stray hyphens -/

theorem hasStrayHyphen_cons_eq (loose : Bool) (c : Char) (rest : Text) :
    hasStrayHyphen loose (c :: rest) =
      (loose && c == '-' && rest.head?.any Character.isBlank ||
        hasStrayHyphen (isLoose c) rest) := by
  cases rest with
  | nil => simp [hasStrayHyphen]
  | cons d rest => rfl

theorem hasStrayHyphen_iff {loose : Bool} {text : Text} :
    hasStrayHyphen loose text ↔ (loose ∧ BeginsStray text) ∨ HasStray text := by
  induction text generalizing loose with
  | nil => simp [hasStrayHyphen, BeginsStray, not_hasStray_nil]
  | cons c rest ih =>
    rw [hasStrayHyphen_cons_eq, Bool.or_eq_true, Bool.and_eq_true, Bool.and_eq_true, beq_iff_eq,
      any_head?_iff, ih, hasStray_cons, beginsStray_cons, and_assoc]

theorem hasStrayHyphen_false_iff {text : Text} : hasStrayHyphen false text ↔ HasStray text := by
  simp [hasStrayHyphen_iff]

/-- Parts of words are no stray hyphens, and one may come after them. -/
theorem hasStrayHyphen_append_words {words : Text} (notEmpty : words ≠ [])
    (all : ∀ c ∈ words, Character.isWordPart c) (loose : Bool) (rest : Text) :
    hasStrayHyphen loose (words ++ rest) = hasStrayHyphen true rest := by
  induction words generalizing loose with
  | nil => exact absurd rfl notEmpty
  | cons c words ih =>
    rw [List.forall_mem_cons] at all
    have noHyphen : (c == '-') = false := by
      refine beq_false_of_ne ?_
      rintro rfl
      exact absurd all.1 (by decide +kernel)
    rw [List.cons_append, hasStrayHyphen_cons_eq, noHyphen, Bool.and_false, Bool.false_and,
      Bool.false_or]
    by_cases more : words = []
    · rw [more, isLoose, all.1]
      rfl
    · exact ih more all.2 _

theorem hasStrayHyphen_lowercaseFrom (loose afterCased : Bool) (text : Text) :
    hasStrayHyphen loose (lowercaseFrom afterCased text) = hasStrayHyphen loose text := by
  induction text generalizing loose afterCased with
  | nil => rfl
  | cons c rest ih =>
    obtain ⟨later, shape | ⟨word, lowered, some, words, shape⟩⟩ :=
      lowercaseFrom_cons_cases afterCased c rest
    · rw [shape, hasStrayHyphen_cons_eq, hasStrayHyphen_cons_eq, ih, any_head?_lowercaseFrom]
    · have alone := hasStrayHyphen_append_words (List.cons_ne_nil c []) (by simpa using word) loose
        rest
      rw [shape, hasStrayHyphen_append_words some words, ih, ← alone]
      rfl

/-- A blank is no stray hyphen, and one may come after it. -/
theorem hasStrayHyphen_cons_blank {c : Char} (blank : Character.isBlank c) (loose : Bool)
    (rest : Text) : hasStrayHyphen loose (c :: rest) = hasStrayHyphen true rest := by
  have noHyphen : (c == '-') = false := by
    refine beq_false_of_ne ?_
    rintro rfl
    cases blank
  rw [hasStrayHyphen_cons_eq, noHyphen, isLoose_of_isBlank blank, Bool.and_false, Bool.false_and,
    Bool.false_or]

/-- Where a run of blanks is being dropped a hyphen is stray if a blank follows it. -/
theorem hasStrayHyphen_squeezeBlanksFrom {within loose : Bool} (follows : within → loose)
    (text : Text) :
    hasStrayHyphen loose (squeezeBlanksFrom within text) = hasStrayHyphen loose text := by
  induction text generalizing within loose with
  | nil => rfl
  | cons c rest ih =>
    rw [squeezeBlanksFrom]
    split
    case isFalse =>
      rw [hasStrayHyphen_cons_eq, hasStrayHyphen_cons_eq, ih (by simp), any_head?_squeezeBlanksFrom,
        Bool.not_false, Bool.true_and]
    case isTrue blank =>
      rw [hasStrayHyphen_cons_blank blank]
      split
      case isTrue isWithin =>
        rw [follows isWithin]
        exact ih fun _ => rfl
      case isFalse =>
        split
        case isTrue => rw [hasStrayHyphen_cons_blank (by decide), ih fun _ => rfl]
        case isFalse => rw [hasStrayHyphen_cons_blank blank, ih (by simp)]

theorem hasStray_squeezeBlanks_iff {text : Text} :
    HasStray (squeezeBlanks text) ↔ HasStray text := by
  rw [← hasStrayHyphen_false_iff, ← hasStrayHyphen_false_iff, squeezeBlanks,
    hasStrayHyphen_squeezeBlanksFrom (by simp)]

theorem hasStray_lowercase_iff {text : Text} : HasStray (lowercase text) ↔ HasStray text := by
  rw [← hasStrayHyphen_false_iff, ← hasStrayHyphen_false_iff, lowercase,
    hasStrayHyphen_lowercaseFrom]

/-! ## Trimming -/

theorem exists_visible {text : Text} : Text.isBlank text = false ↔
    ∃ c ∈ text, Character.isBlank c = false := by
  rw [Text.isBlank, List.all_eq_false]
  simp only [Bool.not_eq_true]

theorem EndsLoose.ne_nil {text : Text} (loose : EndsLoose text) : text ≠ [] := by
  rintro rfl
  exact not_endsLoose_nil loose

/-- A trimmed text has a stray hyphen if the text has one with something visible on both sides. -/
theorem hasStray_trim_iff {text : Text} :
    HasStray (trim text) ↔ ∃ front back, text = front ++ '-' :: back ∧ EndsLoose front ∧
      BeginsBlank back ∧ Text.isBlank front = false ∧ Text.isBlank back = false := by
  obtain ⟨start, tail, whole, blankStart, blankTail⟩ := exists_trim text
  obtain ⟨first, last⟩ := ends_trim text
  generalize trim text = core at whole first last ⊢
  subst whole
  constructor
  · rintro ⟨front, back, rfl, loose, blank⟩
    obtain ⟨c, front, rfl⟩ := List.exists_cons_of_ne_nil loose.ne_nil
    obtain ⟨d, isFirst, isBlank⟩ := blank
    obtain ⟨back, rfl⟩ := List.head?_eq_some_iff.mp isFirst
    have lastVisible : ∃ e ∈ d :: back, Character.isBlank e = false := by
      refine ⟨(d :: back).getLast (List.cons_ne_nil _ _), List.getLast_mem _, last _ ?_⟩
      rw [List.getLast?_append_of_ne_nil _ (List.cons_ne_nil _ _), List.getLast?_cons_cons]
      exact List.getLast?_eq_some_getLast _
    refine ⟨start ++ c :: front, d :: back ++ tail, by simp, ?_, ⟨d, rfl, isBlank⟩,
      exists_visible.mpr ⟨c, by simp, first c rfl⟩, exists_visible.mpr ?_⟩
    · rwa [EndsLoose, List.getLast?_append_of_ne_nil _ (List.cons_ne_nil _ _)]
    · exact lastVisible.imp fun e found => ⟨List.mem_append_left tail found.1, found.2⟩
  · rintro ⟨front, back, whole, loose, blank, before, after⟩
    have hidden {part run : Text} (isBlank : run.isBlank) (inside : part ⊆ run) :
        Text.isBlank part :=
      List.all_eq_true.mpr fun c member => List.all_eq_true.mp isBlank c (inside member)
    rcases List.append_eq_append_iff.mp whole with ⟨lead, rfl, rest⟩ | ⟨more, rfl, -⟩
    · rcases List.append_eq_append_iff.mp rest with ⟨more, -, rfl⟩ | ⟨more, rfl, inTail⟩
      · rw [hidden blankTail (by simp)] at after
        cases after
      · cases more with
        | nil =>
          subst inTail
          cases blankTail
        | cons c more =>
          rw [List.cons_append] at inTail
          obtain ⟨rfl, rfl⟩ := List.cons.inj inTail
          have leadSome : lead ≠ [] := by
            rintro rfl
            rw [List.append_nil, blankStart] at before
            cases before
          have moreSome : more ≠ [] := by
            rintro rfl
            rw [List.nil_append, blankTail] at after
            cases after
          rw [EndsLoose, List.getLast?_append_of_ne_nil _ leadSome] at loose
          rw [BeginsBlank, List.head?_append_of_ne_nil _ moreSome] at blank
          exact ⟨lead, more, rfl, loose, blank⟩
    · rw [hidden blankStart (List.subset_append_left front more)] at before
      cases before

end FullTextQuery.CleanText
