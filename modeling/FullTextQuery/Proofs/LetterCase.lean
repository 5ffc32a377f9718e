import FullTextQuery.Proofs.TidyText
import FullTextQuery.Query.Trace

/-!
# Letter case

Letters are lowered in the last step of cleaning, and what a letter is lowered to depends on the
letters around it. None of that tells a capital ASCII letter from the small one. The steps before
the last only move and drop characters, and whether they do is decided by properties that both
letters share (`CaseBlind`): so lowering the ASCII letters before such a step or after it comes to
the same (`PassesCase`). The last step lowers them anyway, so queries that differ in the case of
ASCII letters have one clean text (`ofRaw_map_toLower`) and are converted alike.
-/

namespace FullTextQuery

namespace Character

open CleanText Text

/-! ## Properties of letters -/

/-- A property that a capital ASCII letter shares with the small one. -/
def CaseBlind {α : Type} (property : Char → α) : Prop :=
  ∀ c : Char, property c.toLower = property c

theorem toLower_eq_self {c : Char} (noCapital : ¬ c.isUpper) : c.toLower = c :=
  dif_neg fun capital => noCapital (decide_eq_true capital)

/-- Only the ASCII letters have to be looked at. -/
theorem caseBlind_of_codes {α : Type} {property : Char → α}
    (codes : ∀ code < 128, property (Char.ofNat code).toLower = property (Char.ofNat code)) :
    CaseBlind property := by
  intro c
  by_cases capital : c.isUpper
  · have ascii : c.toNat < 128 := by
      have last : c.toNat ≤ 90 := (of_decide_eq_true capital).2
      omega
    exact ascii_induction (motive := fun c => property c.toLower = property c) codes c ascii
  · rw [toLower_eq_self capital]

theorem caseBlind_toLower : CaseBlind Char.toLower :=
  caseBlind_of_codes (by decide +kernel)

theorem caseBlind_isAlpha : CaseBlind Char.isAlpha :=
  caseBlind_of_codes (by decide +kernel)

theorem caseBlind_isBlank : CaseBlind isBlank :=
  caseBlind_of_codes (by decide +kernel)

theorem caseBlind_isWordPart : CaseBlind isWordPart :=
  caseBlind_of_codes (by decide +kernel)

theorem caseBlind_isCased : CaseBlind isCased :=
  caseBlind_of_codes (by decide +kernel)

theorem caseBlind_isCaseIgnorable : CaseBlind isCaseIgnorable :=
  caseBlind_of_codes (by decide +kernel)

theorem caseBlind_lower : CaseBlind lower :=
  caseBlind_of_codes (by decide +kernel)

theorem caseBlind_foldCase : CaseBlind afterFolded?.foldCase :=
  caseBlind_of_codes (by decide +kernel)

/-- A character that is no letter is only written as itself. -/
theorem toLower_eq_iff {mark : Char} (noLetter : mark.isAlpha = false) (c : Char) :
    c.toLower = mark ↔ c = mark := by
  have unchanged (c : Char) (other : c.isAlpha = false) : c.toLower = c :=
    toLower_eq_self fun capital => by
      have noCapital : (c.isUpper || c.isLower) = false := other
      rw [capital] at noCapital
      cases noCapital
  constructor
  · rintro rfl
    rw [caseBlind_isAlpha c] at noLetter
    exact (unchanged c noLetter).symm
  · rintro rfl
    exact unchanged c noLetter

end Character

/-! ## Steps on text -/

namespace Text

open Character

/-- A step by which lowering the ASCII letters before it or after it comes to the same. -/
def PassesCase (step : Text → Text) : Prop :=
  ∀ text : Text, step (text.map Char.toLower) = (step text).map Char.toLower

theorem passesCase_inTurn {steps : List (Text → Text)} (pass : ∀ step ∈ steps, PassesCase step) :
    PassesCase (inTurn steps) := by
  induction steps with
  | nil => exact fun _ => rfl
  | cons step steps ih =>
    intro text
    have rest := ih (fun next member => pass next (List.mem_cons_of_mem _ member)) (step text)
    calc inTurn (step :: steps) (text.map Char.toLower)
      _ = inTurn steps (step (text.map Char.toLower)) := rfl
      _ = inTurn steps ((step text).map Char.toLower) := by rw [pass step List.mem_cons_self]
      _ = (inTurn (step :: steps) text).map Char.toLower := rest

/-- A property of the first character that is blind to case. -/
theorem any_head?_map_toLower {property : Char → Bool} (blind : CaseBlind property) (text : Text) :
    (text.map Char.toLower).head?.any property = text.head?.any property := by
  cases text with
  | nil => rfl
  | cons c rest => exact blind c

theorem head?_map_toLower {mark : Char} (noLetter : mark.isAlpha = false) (text : Text) :
    (text.map Char.toLower).head? = some mark ↔ text.head? = some mark := by
  cases text with
  | nil => rfl
  | cons c rest => simpa using toLower_eq_iff noLetter c

theorem passesCase_dropWhile {property : Char → Bool} (blind : CaseBlind property) :
    PassesCase (List.dropWhile property) := by
  intro text
  have same : property ∘ Char.toLower = property := funext blind
  rw [List.dropWhile_map, same]

theorem passesCase_trimEnd : PassesCase trimEnd := by
  intro text
  induction text with
  | nil => rfl
  | cons c rest ih =>
    rw [List.map_cons, trimEnd, trimEnd, ih, caseBlind_isBlank c]
    cases trimEnd rest with
    | cons next more => rfl
    | nil => exact (apply_ite (List.map Char.toLower) (Character.isBlank c) [] [c]).symm

theorem passesCase_trim : PassesCase trim := by
  intro text
  rw [trim, trim, trimStart, passesCase_dropWhile caseBlind_isBlank, passesCase_trimEnd]
  rfl

theorem passesCase_squeeze {mark : Char} (noLetter : mark.isAlpha = false) :
    PassesCase (squeeze mark) := by
  intro text
  induction text with
  | nil => rfl
  | cons c rest ih =>
    have same : (c.toLower = mark ∧ (rest.map Char.toLower).head? = some mark) =
        (c = mark ∧ rest.head? = some mark) :=
      propext (and_congr (toLower_eq_iff noLetter c) (head?_map_toLower noLetter rest))
    simp only [List.map_cons, squeeze, same, ih]
    split
    · rfl
    · rfl

theorem passesCase_squeezeBlanks : PassesCase squeezeBlanks := by
  intro text
  have walk (within : Bool) : squeezeBlanksFrom within (text.map Char.toLower) =
      (squeezeBlanksFrom within text).map Char.toLower := by
    induction text generalizing within with
    | nil => rfl
    | cons c rest ih =>
      have space : ' '.toLower = ' ' := rfl
      rw [List.map_cons, squeezeBlanksFrom, squeezeBlanksFrom, caseBlind_isBlank c,
        any_head?_map_toLower caseBlind_isBlank, ih, ih]
      split
      · split
        · rfl
        · split
          · rw [List.map_cons, space]
          · rfl
      · rfl
  exact walk false

theorem afterFolded?_map_toLower (lead text : Text) :
    afterFolded? lead (text.map Char.toLower) =
      (afterFolded? lead text).map (List.map Char.toLower) := by
  induction lead generalizing text with
  | nil => rfl
  | cons l lead ih =>
    cases text with
    | nil => rfl
    | cons c text =>
      rw [List.map_cons, afterFolded?, afterFolded?, caseBlind_foldCase c, ih]
      split
      · rfl
      · rfl

end Text

namespace CleanText

open Text Character

theorem passesCase_dropTitleMarkers : PassesCase dropTitleMarkers := by
  intro text
  have walk (pending : Nat) : dropTitleMarkersFrom pending (text.map Char.toLower) =
      (dropTitleMarkersFrom pending text).map Char.toLower := by
    induction text generalizing pending with
    | nil => rfl
    | cons c rest ih =>
      cases pending with
      | succ pending => exact ih pending
      | zero =>
        have space : ' '.toLower = ' ' := rfl
        rw [List.map_cons, dropTitleMarkersFrom, dropTitleMarkersFrom, ← List.map_cons,
          afterFolded?_map_toLower, Option.isSome_map, ih, ih]
        split
        · rw [List.map_cons, space]
        · rfl
  exact walk 0

theorem plainMark_toLower (c : Char) : plainMark c.toLower = (plainMark c).toLower := by
  have same {mark : Char} (noLetter : mark.isAlpha = false) : (c.toLower = mark) = (c = mark) :=
    propext (toLower_eq_iff noLetter c)
  have opens : (c.toLower = '\x7b' ∨ c.toLower = '[') = (c = '\x7b' ∨ c = '[') := by
    rw [same rfl, same rfl]
  have closes : (c.toLower = '\x7d' ∨ c.toLower = ']') = (c = '\x7d' ∨ c = ']') := by
    rw [same rfl, same rfl]
  have quotes : (c.toLower = '\u201c' ∨ c.toLower = '\u201d') = (c = '\u201c' ∨ c = '\u201d') := by
    rw [same rfl, same rfl]
  simp only [plainMark, opens, closes, quotes]
  split_ifs
  · rfl
  · rfl
  · rfl
  · rfl

theorem passesCase_plainMark : PassesCase (List.map plainMark) := by
  intro text
  rw [List.map_map, List.map_map]
  exact List.map_congr_left fun c _ => plainMark_toLower c

theorem toLower_beq_lineFeed (c : Char) : (c.toLower == '\n') = (c == '\n') := by
  rw [Bool.eq_iff_iff, beq_iff_eq, beq_iff_eq]
  exact toLower_eq_iff rfl c

theorem passesCase_dropIndents : PassesCase dropIndents := by
  intro text
  have walk (lineStart : Bool) : dropIndentsFrom lineStart (text.map Char.toLower) =
      (dropIndentsFrom lineStart text).map Char.toLower := by
    induction text generalizing lineStart with
    | nil => rfl
    | cons c rest ih =>
      rw [List.map_cons, dropIndentsFrom, dropIndentsFrom, caseBlind_isBlank c,
        toLower_beq_lineFeed, ih, ih]
      split
      · rfl
      · rfl
  exact walk true

theorem endsLine_map_toLower (text : Text) : endsLine (text.map Char.toLower) = endsLine text := by
  have blind : CaseBlind fun c => Character.isBlank c && c != '\n' := by
    intro c
    simp only [bne, toLower_beq_lineFeed, caseBlind_isBlank c]
  rw [endsLine, endsLine, passesCase_dropWhile blind]
  cases text.dropWhile fun c => Character.isBlank c && c != '\n' with
  | nil => rfl
  | cons c rest => exact toLower_beq_lineFeed c

theorem passesCase_dropLineTails : PassesCase dropLineTails := by
  intro text
  induction text with
  | nil => rfl
  | cons c rest ih =>
    rw [List.map_cons, dropLineTails, dropLineTails, caseBlind_isBlank c, endsLine_map_toLower, ih]
    split
    · rfl
    · rfl

theorem isEntityLine_map_toLower (line : Text) :
    emptyEntityLinesFrom.isEntityLine (line.map Char.toLower) =
      emptyEntityLinesFrom.isEntityLine line := by
  rw [emptyEntityLinesFrom.isEntityLine, emptyEntityLinesFrom.isEntityLine,
    afterFolded?_map_toLower]
  rcases afterFolded? _ line with _ | _ | ⟨next, rest⟩
  · rfl
  · rfl
  · exact toLower_beq_lineFeed next

theorem passesCase_emptyEntityLines : PassesCase emptyEntityLines := by
  intro text
  have walk (lineStart : Bool) (pending : Nat) :
      emptyEntityLinesFrom lineStart pending (text.map Char.toLower) =
        (emptyEntityLinesFrom lineStart pending text).map Char.toLower := by
    induction text generalizing lineStart pending with
    | nil => rfl
    | cons c rest ih =>
      cases pending with
      | succ pending => exact ih false pending
      | zero =>
        rw [List.map_cons, emptyEntityLinesFrom, emptyEntityLinesFrom, ← List.map_cons,
          isEntityLine_map_toLower, toLower_beq_lineFeed, ih, ih]
        split
        · rfl
        · rfl
  exact walk true 0

theorem passesCase_dropStrayHyphens : PassesCase dropStrayHyphens := by
  intro text
  have hyphen (c : Char) : c.toLower = '-' ↔ c = '-' := toLower_eq_iff rfl c
  have walk (afterWord : Bool) : dropStrayHyphensFrom afterWord (text.map Char.toLower) =
      (dropStrayHyphensFrom afterWord text).map Char.toLower := by
    have space : ' '.toLower = ' ' := rfl
    fun_induction dropStrayHyphensFrom afterWord text with
    | case1 afterWord a b c rest stray ih =>
      simp only [List.map_cons, dropStrayHyphensFrom, caseBlind_isBlank _, hyphen, if_pos stray,
        ih, space]
    | case2 afterWord a b c rest notBefore stray ih =>
      simp only [List.map_cons] at ih
      simp only [List.map_cons, dropStrayHyphensFrom, caseBlind_isBlank _, hyphen,
        if_neg notBefore, if_pos stray, ih, space]
    | case3 afterWord a b c rest notBefore notHere ih =>
      simp only [List.map_cons] at ih
      simp only [List.map_cons, dropStrayHyphensFrom, caseBlind_isBlank _, caseBlind_isWordPart _,
        hyphen, if_neg notBefore, if_neg notHere, ih]
    | case4 afterWord a b stray =>
      simp only [List.map_cons, List.map_nil, dropStrayHyphensFrom, caseBlind_isBlank _, hyphen,
        if_pos stray, space]
    | case5 afterWord a b notHere =>
      simp only [List.map_cons, List.map_nil, dropStrayHyphensFrom, caseBlind_isBlank _, hyphen,
        if_neg notHere]
    | case6 afterWord text longer pair =>
      rcases text with _ | ⟨a, _ | ⟨b, _ | ⟨c, rest⟩⟩⟩
      · rfl
      · rfl
      · exact absurd rfl (pair a b)
      · exact absurd rfl (longer a b c rest)
  exact walk false

theorem passesCase_pared : PassesCase pared := by
  intro query
  have steps : ∀ step ∈ paringSteps, PassesCase step := by
    have space : CaseBlind (· == ' ') := by
      intro c
      rw [Bool.eq_iff_iff, beq_iff_eq, beq_iff_eq]
      exact toLower_eq_iff rfl c
    intro step member
    simp only [paringSteps, List.mem_cons, List.not_mem_nil, or_false] at member
    rcases member with rfl | rfl | rfl | rfl | rfl | rfl | rfl | rfl | rfl
    · exact passesCase_squeeze rfl
    · exact passesCase_dropIndents
    · exact passesCase_dropLineTails
    · exact passesCase_squeeze rfl
    · exact passesCase_dropWhile space
    · exact passesCase_emptyEntityLines
    · exact passesCase_dropStrayHyphens
    · exact passesCase_squeezeBlanks
    · exact passesCase_trim
  rw [pared, pared, passesCase_dropTitleMarkers, passesCase_plainMark, passesCase_inTurn steps]

/-! ## Lowering -/

theorem leadsToCased_map_toLower (text : Text) :
    leadsToCased (text.map Char.toLower) = leadsToCased text := by
  rw [leadsToCased, leadsToCased, passesCase_dropWhile caseBlind_isCaseIgnorable]
  cases text.dropWhile isCaseIgnorable with
  | nil => rfl
  | cons c rest => exact caseBlind_isCased c

/-- What a text is lowered to does not depend on the case of its ASCII letters, the sigmas among
them included: what ends a word for a sigma is blind to that case. -/
theorem lowercaseFrom_map_toLower (afterCased : Bool) (text : Text) :
    lowercaseFrom afterCased (text.map Char.toLower) = lowercaseFrom afterCased text := by
  induction text generalizing afterCased with
  | nil => rfl
  | cons c rest ih =>
    have sigma : c.toLower = 'Σ' ↔ c = 'Σ' := toLower_eq_iff rfl c
    simp only [List.map_cons, lowercaseFrom, sigma, leadsToCased_map_toLower, caseBlind_lower c,
      caseBlind_isCaseIgnorable c, caseBlind_isCased c, ih]

/-- The clean text of a query does not depend on the case of its ASCII letters. -/
theorem ofRaw_map_toLower (query : Text) : ofRaw (query.map Char.toLower) = ofRaw query := by
  rw [ofRaw_eq_lowercase, ofRaw_eq_lowercase, passesCase_pared, lowercase, lowercase,
    lowercaseFrom_map_toLower]

end CleanText

/-! ## Queries -/

namespace Query

/-- The same character, or the capital and the small form of one ASCII letter. -/
def CaseVariants (left right : Char) : Prop :=
  left = right ∨ (left.isUpper ∧ right = left.toLower) ∨ (right.isUpper ∧ left = right.toLower)

instance (left right : Char) : Decidable (CaseVariants left right) :=
  inferInstanceAs (Decidable (_ ∨ _))

theorem CaseVariants.toLower_eq {left right : Char} (variants : CaseVariants left right) :
    left.toLower = right.toLower := by
  rcases variants with rfl | ⟨-, rfl⟩ | ⟨-, rfl⟩
  · rfl
  · exact (Character.caseBlind_toLower left).symm
  · exact Character.caseBlind_toLower right

/-- Queries of one length that differ in the case of ASCII letters only are converted alike: to the
same full-text query, or rejected for the same cause with the same number of quotes. -/
theorem convert_of_caseVariants (left right : Text)
    (variants : List.Forall₂ CaseVariants left right) : convert left = convert right := by
  have lowered : left.map Char.toLower = right.map Char.toLower := by
    induction variants with
    | nil => rfl
    | cons first _ ih => rw [List.map_cons, List.map_cons, first.toLower_eq, ih]
  have clean : CleanText.ofRaw left = CleanText.ofRaw right := by
    rw [← CleanText.ofRaw_map_toLower left, lowered, CleanText.ofRaw_map_toLower]
  unfold convert
  rw [clean]

/-- Field markers, an entity line, keywords, a stray hyphen, and capital sigmas at the end of a word
and before an ASCII letter; and an error with its count. -/
theorem convert_of_caseVariants_sigma :
    (let left := "TITLE:ΟΣ\n&NBSP;\nOr (ΟΣa ANd NOT W- \"X Y\")".toList
     let right := "tItle:ΟΣ\n&nbSp;\noR (ΟΣA aND not w- \"x y\")".toList
     List.Forall₂ CaseVariants left right ∧ convert left = convert right ∧
       convert right = .ok "ος (+οσa -w +\"x y\")".toList) ∧
    (let left := "A \"b\" C\"".toList
     let right := "a \"B\" c\"".toList
     List.Forall₂ CaseVariants left right ∧ convert left = convert right ∧
       convert right = .error (.oddQuotes 3)) := by
  have variants {left right : Text} (checked : (left.length = right.length) ∧
      (left.zip right).all fun pair => CaseVariants pair.1 pair.2) :
      List.Forall₂ CaseVariants left right := by
    refine List.forall₂_iff_zip.mpr ⟨checked.1, fun {a b} member => ?_⟩
    exact of_decide_eq_true (List.all_eq_true.mp checked.2 (a, b) member)
  refine ⟨⟨variants (by decide +kernel), ?_, by decide +kernel⟩,
    variants (by decide +kernel), ?_, by decide +kernel⟩
  · exact convert_of_caseVariants _ _ (variants (by decide +kernel))
  · exact convert_of_caseVariants _ _ (variants (by decide +kernel))

end Query

end FullTextQuery
