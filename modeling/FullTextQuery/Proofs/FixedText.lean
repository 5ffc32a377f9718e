import FullTextQuery.Proofs.NeatText

/-!
# Text that is clean already

Cleaning leaves a text as it is exactly if the text is `Clean`: neat, and in small letters
(`ofRaw_eq_self_iff`). That a text is clean if cleaning leaves it follows from its length: no step
before the last makes a text longer, and a step that keeps the length keeps the text. The last step
makes a text longer at a dotted capital I only, and it never writes one.
-/

namespace FullTextQuery

namespace Text

/-! ## Steps that shorten -/

/-- A step that changes a text only by making it shorter. -/
def Shortens (step : Text → Text) : Prop :=
  ∀ text, step text = text ∨ (step text).length < text.length

namespace Shortens

variable {step : Text → Text} {text : Text}

theorem of_sublist (part : ∀ text, (step text).Sublist text) : Shortens step := by
  intro text
  rcases Nat.lt_or_ge (step text).length text.length with shorter | same
  · exact .inr shorter
  · exact .inl ((part text).eq_of_length_le same)

theorem length_le (shortens : Shortens step) (text : Text) :
    (step text).length ≤ text.length := by
  rcases shortens text with same | shorter
  · rw [same]
  · omega

theorem eq_self (shortens : Shortens step) (whole : text.length ≤ (step text).length) :
    step text = text := by
  rcases shortens text with same | shorter
  · exact same
  · omega

end Shortens

/-- Steps that change a text only by lowering a measure of it do so together. -/
theorem measure_inTurn_le {measure : Text → Nat} {steps : List (Text → Text)}
    (lowers : ∀ step ∈ steps, ∀ text, step text = text ∨ measure (step text) < measure text)
    (text : Text) : measure (inTurn steps text) ≤ measure text := by
  induction steps generalizing text with
  | nil => exact Nat.le_refl _
  | cons step steps ih =>
    have first : measure (step text) ≤ measure text :=
      (lowers step List.mem_cons_self text).elim (fun same => (congrArg measure same).le)
        Nat.le_of_lt
    have later := ih (fun next member => lowers next (List.mem_cons_of_mem _ member)) (step text)
    exact Nat.le_trans later first

theorem length_inTurn_le {steps : List (Text → Text)} (shortens : ∀ step ∈ steps, Shortens step)
    (text : Text) : (inTurn steps text).length ≤ text.length :=
  measure_inTurn_le shortens text

/-- Steps that lower a measure and together keep it change nothing. -/
theorem eq_self_of_measure_inTurn {measure : Text → Nat} {steps : List (Text → Text)}
    (lowers : ∀ step ∈ steps, ∀ text, step text = text ∨ measure (step text) < measure text)
    {text : Text} (whole : measure text ≤ measure (inTurn steps text)) :
    ∀ step ∈ steps, step text = text := by
  induction steps with
  | nil => simp
  | cons step steps ih =>
    have later : ∀ next ∈ steps, ∀ text, next text = text ∨ measure (next text) < measure text :=
      fun next member => lowers next (List.mem_cons_of_mem _ member)
    have bound : measure (inTurn (step :: steps) text) ≤ measure (step text) :=
      measure_inTurn_le later (step text)
    have same : step text = text :=
      (lowers step List.mem_cons_self text).resolve_right (by omega)
    have rest : inTurn (step :: steps) text = inTurn steps text :=
      congrArg (inTurn steps) same
    rw [rest] at whole
    intro next member
    rcases List.mem_cons.mp member with rfl | inSteps
    · exact same
    · exact ih later whole next inSteps

/-- Steps that shorten and together keep the length of a text change nothing. -/
theorem eq_self_of_length_inTurn {steps : List (Text → Text)}
    (shortens : ∀ step ∈ steps, Shortens step) {text : Text}
    (whole : text.length ≤ (inTurn steps text).length) : ∀ step ∈ steps, step text = text :=
  eq_self_of_measure_inTurn shortens whole

theorem inTurn_eq_self {steps : List (Text → Text)} {text : Text}
    (fixed : ∀ step ∈ steps, step text = text) : inTurn steps text = text := by
  induction steps with
  | nil => rfl
  | cons step steps ih =>
    have rest : inTurn (step :: steps) text = inTurn steps text :=
      congrArg (inTurn steps) (fixed step List.mem_cons_self)
    rw [rest, ih fun next member => fixed next (List.mem_cons_of_mem _ member)]

/-- A step that makes a text shorter if it finds something there, and else leaves it. -/
structure Removes (step : Text → Text) (finds : Text → Prop) : Prop where
  /-- It leaves a text where it finds nothing. -/
  leaves : ∀ text, ¬ finds text → step text = text
  /-- It shortens a text where it finds something. -/
  shorter : ∀ text, finds text → (step text).length < text.length

namespace Removes

variable {step : Text → Text} {finds : Text → Prop}

theorem shortens (removes : Removes step finds) : Shortens step := fun text =>
  (Classical.em (finds text)).symm.imp (removes.leaves text) (removes.shorter text)

theorem not_finds (removes : Removes step finds) {text : Text} (fixed : step text = text) :
    ¬ finds text := by
  intro found
  have shorter := removes.shorter text found
  rw [fixed] at shorter
  omega

end Removes

/-! ## Blanks -/

theorem squeeze_sublist (mark : Char) (text : Text) : (squeeze mark text).Sublist text := by
  induction text with
  | nil => exact .slnil
  | cons c rest ih =>
    unfold squeeze
    split
    · exact ih.cons c
    · exact ih.cons_cons c

theorem trimEnd_sublist (text : Text) : (trimEnd text).Sublist text := by
  induction text with
  | nil => exact .slnil
  | cons c rest ih =>
    unfold trimEnd
    cases kept : trimEnd rest with
    | nil =>
      dsimp only
      split
      · exact List.nil_sublist _
      · exact (List.nil_sublist rest).cons_cons c
    | cons next more =>
      rw [kept] at ih
      exact ih.cons_cons c

theorem trim_sublist (text : Text) : (trim text).Sublist text :=
  (trimEnd_sublist _).trans (List.dropWhile_sublist _)

theorem length_squeezeBlanksFrom_le (within : Bool) (text : Text) :
    (squeezeBlanksFrom within text).length ≤ text.length := by
  induction text generalizing within with
  | nil => rfl
  | cons c rest ih =>
    have kept := ih false
    have dropped := ih true
    unfold squeezeBlanksFrom
    simp only [List.length_cons]
    split
    · split
      · omega
      · split
        · simp only [List.length_cons]
          omega
        · simp only [List.length_cons]
          omega
    · simp only [List.length_cons]
      omega

/-- Two blanks become one space. -/
theorem squeezeBlanks_removes :
    Removes squeezeBlanks fun text => ¬ text.IsChain BlanksApart where
  leaves _ apart := squeezeBlanks_eq_self (not_not.mp apart)
  shorter text runs := by
    unfold squeezeBlanks
    induction text with
    | nil => exact absurd .nil runs
    | cons c rest ih =>
      cases rest with
      | nil => exact absurd (.singleton c) runs
      | cons d rest =>
        by_cases both : Character.isBlank c ∧ Character.isBlank d
        · have bound := length_squeezeBlanksFrom_le true rest
          simp only [squeezeBlanksFrom, both.1, both.2, List.head?_cons, Option.any_some, if_true,
            Bool.false_eq_true, if_false, List.length_cons]
          omega
        · have later : ¬ (d :: rest).IsChain BlanksApart := fun chain =>
            runs (List.isChain_cons_cons.mpr ⟨both, chain⟩)
          rw [squeezeBlanksFrom_cons (by simpa using both)]
          exact Nat.succ_lt_succ (ih later)

theorem first_of_trimStart_eq_self {text : Text} (fixed : trimStart text = text) :
    ∀ c ∈ text.head?, Character.isBlank c = false := by
  cases text with
  | nil => simp
  | cons first rest =>
    intro c isFirst
    obtain rfl := Option.some.inj isFirst
    refine Bool.eq_false_iff.mpr fun blank => ?_
    have shorter := (List.dropWhile_sublist Character.isBlank (l := rest)).length_le
    unfold trimStart at fixed
    rw [List.dropWhile_cons, if_pos blank] at fixed
    rw [fixed, List.length_cons] at shorter
    omega

theorem last_of_trimEnd_eq_self {text : Text} (fixed : trimEnd text = text) :
    ∀ c ∈ text.getLast?, Character.isBlank c = false := by
  induction text with
  | nil => simp
  | cons first rest ih =>
    unfold trimEnd at fixed
    cases kept : trimEnd rest with
    | nil =>
      rw [kept] at fixed
      dsimp only at fixed
      split at fixed
      case isTrue => cases fixed
      case isFalse visible =>
        obtain rfl : [] = rest := (List.cons.inj fixed).2
        simpa using visible
    | cons next more =>
      rw [kept] at fixed
      obtain rfl : next :: more = rest := (List.cons.inj fixed).2
      rw [List.getLast?_cons_cons]
      exact ih kept

theorem ends_of_trim_eq_self {text : Text} (fixed : trim text = text) :
    (∀ c ∈ text.head?, Character.isBlank c = false) ∧
      ∀ c ∈ text.getLast?, Character.isBlank c = false := by
  have start : (trimStart text).length = text.length := by
    have inner := (trimEnd_sublist (trimStart text)).length_le
    have outer : (trimStart text).length ≤ text.length :=
      (List.dropWhile_sublist Character.isBlank).length_le
    have whole := congrArg List.length fixed
    unfold trim at whole
    omega
  have trimmed : trimStart text = text := (List.dropWhile_sublist _).eq_of_length start
  refine ⟨first_of_trimStart_eq_self trimmed, last_of_trimEnd_eq_self ?_⟩
  unfold trim at fixed
  rwa [trimmed] at fixed

end Text

namespace CleanText

open Text Character

/-! ## Cleaning shortens -/

theorem dropIndentsFrom_sublist (lineStart : Bool) (text : Text) :
    (dropIndentsFrom lineStart text).Sublist text := by
  induction text generalizing lineStart with
  | nil => exact .slnil
  | cons c rest ih =>
    unfold dropIndentsFrom
    split
    · exact (ih true).cons c
    · exact (ih _).cons_cons c

theorem dropLineTails_sublist (text : Text) : (dropLineTails text).Sublist text := by
  induction text with
  | nil => exact .slnil
  | cons c rest ih =>
    unfold dropLineTails
    split
    · exact ih.cons c
    · exact ih.cons_cons c

theorem emptyEntityLinesFrom_sublist (lineStart : Bool) (pending : Nat) (text : Text) :
    (emptyEntityLinesFrom lineStart pending text).Sublist text := by
  induction text generalizing lineStart pending with
  | nil => cases pending <;> exact .slnil
  | cons c rest ih =>
    unfold emptyEntityLinesFrom
    cases pending with
    | succ pending => exact (ih false pending).cons c
    | zero =>
      dsimp only
      split
      · exact (ih false 5).cons c
      · exact (ih _ 0).cons_cons c

theorem length_dropTitleMarkersFrom_le (pending : Nat) (text : Text) :
    (dropTitleMarkersFrom pending text).length ≤ text.length - pending := by
  induction text generalizing pending with
  | nil => cases pending <;> exact Nat.zero_le _
  | cons c rest ih =>
    unfold dropTitleMarkersFrom
    cases pending with
    | succ pending =>
      have bound := ih pending
      simp only [List.length_cons]
      omega
    | zero =>
      have marker := ih 5
      have other := ih 0
      dsimp only
      split
      · simp only [List.length_cons]
        omega
      · simp only [List.length_cons]
        omega

theorem dropTitleMarkers_removes : Removes dropTitleMarkers fun text => hasTitleMarker text where
  leaves _ none := dropTitleMarkers_eq_self (by simpa using none)
  shorter text has := by
    unfold dropTitleMarkers
    induction text with
    | nil => cases has
    | cons c rest ih =>
      unfold dropTitleMarkersFrom
      dsimp only
      split
      case isTrue isMarker =>
        obtain ⟨after, found⟩ := Option.isSome_iff_exists.mp isMarker
        obtain ⟨front, parts, folded⟩ := afterFolded?_eq_some found
        have six : front.length = 6 := by
          rw [← List.length_map, folded]
          rfl
        have length := congrArg List.length parts
        have bound := length_dropTitleMarkersFrom_le 5 rest
        rw [List.length_append] at length
        simp only [List.length_cons] at length ⊢
        omega
      case isFalse noMarker =>
        unfold hasTitleMarker at has
        rw [Bool.or_eq_true] at has
        exact Nat.succ_lt_succ (ih (has.resolve_left noMarker))

theorem length_emptyEntityLinesFrom_lt {lineStart : Bool} {text : Text}
    (has : hasEntityLine lineStart text) :
    (emptyEntityLinesFrom lineStart 0 text).length < text.length := by
  induction text generalizing lineStart with
  | nil => cases has
  | cons c rest ih =>
    unfold emptyEntityLinesFrom
    dsimp only
    split
    case isTrue => exact Nat.lt_succ_of_le (emptyEntityLinesFrom_sublist false 5 rest).length_le
    case isFalse noEntity =>
      unfold hasEntityLine at has
      rw [Bool.or_eq_true] at has
      exact Nat.succ_lt_succ (ih (has.resolve_left noEntity))

theorem emptyEntityLines_removes :
    Removes emptyEntityLines fun text => hasEntityLine true text where
  leaves _ none := emptyEntityLines_eq_self (by simpa using none)
  shorter _ has := length_emptyEntityLinesFrom_lt has

theorem length_dropStrayHyphensFrom_le (afterWord : Bool) (text : Text) :
    (dropStrayHyphensFrom afterWord text).length ≤ text.length := by
  fun_induction dropStrayHyphensFrom afterWord text with
  | case1 | case2 | case3 =>
    simp only [List.length_cons] at *
    omega
  | case4 => exact Nat.le_succ 1
  | case5 | case6 => exact Nat.le_refl _

/-- A hyphen that is stray after a blank is found with the blank before it. -/
theorem length_dropStrayHyphensFrom_lt {afterWord : Bool} {text : Text}
    (has : hasStrayHyphen afterWord text) :
    (dropStrayHyphensFrom afterWord text).length < text.length := by
  fun_induction dropStrayHyphensFrom afterWord text with
  | case1 afterWord a b c rest =>
    have bound := length_dropStrayHyphensFrom_le false rest
    simp only [List.length_cons]
    omega
  | case2 afterWord a b c rest =>
    have bound := length_dropStrayHyphensFrom_le false (c :: rest)
    simp only [List.length_cons] at bound ⊢
    omega
  | case3 afterWord a b c rest notBefore notHere ih =>
    refine Nat.succ_lt_succ (ih ?_)
    simp only [hasStrayHyphen, Bool.or_eq_true, Bool.and_eq_true, beq_iff_eq] at has ⊢
    rcases has with ⟨⟨afterWord, hyphen⟩, blank⟩ | ⟨⟨wordPart | blankBefore, hyphen⟩, blank⟩ | later
    · exact absurd ⟨afterWord, hyphen, blank⟩ notHere
    · exact .inl ⟨⟨wordPart, hyphen⟩, blank⟩
    · exact absurd ⟨blankBefore, hyphen, blank⟩ notBefore
    · exact .inr later
  | case4 => exact Nat.lt_succ_self 1
  | case5 afterWord a b notHere =>
    simp only [hasStrayHyphen, Bool.or_false, Bool.and_eq_true, beq_iff_eq] at has
    exact absurd ⟨has.1.1, has.1.2, has.2⟩ notHere
  | case6 afterWord text longer pair =>
    rcases text with _ | ⟨a, _ | ⟨b, _ | ⟨c, rest⟩⟩⟩
    · cases has
    · cases has
    · exact absurd rfl (pair a b)
    · exact absurd rfl (longer a b c rest)

theorem dropStrayHyphens_removes :
    Removes dropStrayHyphens fun text => hasStrayHyphen false text where
  leaves _ none := dropStrayHyphens_eq_self (by simpa using none)
  shorter _ has := length_dropStrayHyphensFrom_lt has

/-! ## Small letters -/

/-- No character is lowered to the dotted capital I: the runs go around it. -/
theorem dotted_not_mem_lower (c : Char) : '\u0130' ∉ lower c := by
  have around : ∀ run ∈ capitalRuns,
      0x130 < run.lowered ∨ run.lowered + (run.last - run.first) < 0x130 := by decide +kernel
  unfold lower
  split
  case isTrue => decide
  case isFalse other =>
    rw [List.mem_singleton]
    intro same
    have code : 0x130 = lowerBy capitalRuns c.toNat := by
      rw [← toNat_ofNat_lowerBy, ← same]
      rfl
    rcases lowerBy_eq_or capitalRuns c.toNat with kept | ⟨run, member, ⟨first, last, -⟩, lowered⟩
    · exact other (Char.toNat_inj.mp (kept.symm.trans code.symm))
    · have outside := around run member
      omega

theorem dotted_not_mem_lowercaseFrom (afterCased : Bool) (text : Text) :
    '\u0130' ∉ lowercaseFrom afterCased text := by
  induction text generalizing afterCased with
  | nil => simp [lowercaseFrom]
  | cons c rest ih =>
    unfold lowercaseFrom
    dsimp only
    rw [List.mem_append, not_or]
    refine ⟨?_, ih _⟩
    split
    case isTrue => split <;> decide
    case isFalse => exact dotted_not_mem_lower c

/-- Every other character is lowered to one character. -/
theorem lowercaseFrom_cons {c : Char} (other : c ≠ '\u0130') (afterCased : Bool) (rest : Text) :
    ∃ lowered afterCased',
      lowercaseFrom afterCased (c :: rest) = lowered :: lowercaseFrom afterCased' rest ∧
        (c = 'Σ' → lowered = 'ς' ∨ lowered = 'σ') ∧ (c ≠ 'Σ' → lower c = [lowered]) := by
  refine ⟨if c = 'Σ' then if afterCased && !leadsToCased rest then 'ς' else 'σ'
    else Char.ofNat (lowerBy capitalRuns c.toNat),
    if isCaseIgnorable c then afterCased else isCased c, ?_, fun sigma => ?_, fun noSigma => ?_⟩
  · rw [lowercaseFrom]
    unfold lower
    rw [if_neg other]
    split <;> rfl
  · rw [if_pos sigma]
    split
    · exact .inl rfl
    · exact .inr rfl
  · rw [if_neg noSigma]
    unfold lower
    rw [if_neg other]

theorem length_lowercaseFrom {text : Text} (free : '\u0130' ∉ text) (afterCased : Bool) :
    (lowercaseFrom afterCased text).length = text.length := by
  induction text generalizing afterCased with
  | nil => rfl
  | cons c rest ih =>
    rw [List.mem_cons, not_or] at free
    obtain ⟨lowered, next, shape, -⟩ := lowercaseFrom_cons (Ne.symm free.1) afterCased rest
    rw [shape, List.length_cons, List.length_cons, ih free.2]

theorem lowercase_eq_self {text : Text} (small : ∀ c ∈ text, c ≠ 'Σ' ∧ lower c = [c]) :
    lowercase text = text := by
  have walk (afterCased : Bool) : lowercaseFrom afterCased text = text := by
    induction text generalizing afterCased with
    | nil => rfl
    | cons c rest ih =>
      obtain ⟨noSigma, lowered⟩ := small c List.mem_cons_self
      unfold lowercaseFrom
      dsimp only
      rw [if_neg noSigma, lowered, ih fun next member => small next (List.mem_cons_of_mem _ member)]
      rfl
  exact walk false

/-- A mark of another shape becomes one that is not lowered back to it. -/
theorem plainMark_eq_self_of_lower {c : Char} (back : lower (plainMark c) = [c]) :
    plainMark c = c := by
  unfold plainMark at back ⊢
  split_ifs at back ⊢ with opens closes quotes
  · rcases opens with rfl | rfl <;> exact absurd back (by decide)
  · rcases closes with rfl | rfl <;> exact absurd back (by decide)
  · rcases quotes with rfl | rfl <;> exact absurd back (by decide)
  · rfl

theorem plainMark_eq_of_letter {c : Char} (letter : isMark (plainMark c) = false) :
    plainMark c = c := by
  unfold plainMark at letter ⊢
  split_ifs at letter ⊢
  · cases letter
  · cases letter
  · cases letter
  · rfl

theorem eq_of_plainMark_eq {c mark : Char} (isOne : plainMark c = mark)
    (letter : isMark mark = false) : c = mark := by
  rw [← isOne, plainMark_eq_of_letter (by rw [isOne]; exact letter)]

/-- Where plain marks and small letters are the text itself, every character is. -/
theorem small_of_lowercaseFrom {text : Text} (free : '\u0130' ∉ text.map plainMark)
    {afterCased : Bool} (fixed : lowercaseFrom afterCased (text.map plainMark) = text) :
    ∀ c ∈ text, plainMark c = c ∧ c ≠ 'Σ' ∧ lower c = [c] := by
  induction text generalizing afterCased with
  | nil => simp
  | cons first rest ih =>
    rw [List.map_cons, List.mem_cons, not_or] at free
    obtain ⟨lowered, next, shape, sigma, other⟩ :=
      lowercaseFrom_cons (Ne.symm free.1) afterCased (rest.map plainMark)
    rw [List.map_cons, shape] at fixed
    obtain ⟨rfl, fixedRest⟩ := List.cons.inj fixed
    intro c member
    rcases List.mem_cons.mp member with rfl | inRest
    · have noSigma : plainMark c ≠ 'Σ' := by
        intro isSigma
        have small := sigma isSigma
        obtain rfl : c = 'Σ' := eq_of_plainMark_eq isSigma rfl
        exact absurd small (by decide)
      have back := other noSigma
      have same := plainMark_eq_self_of_lower back
      rw [same] at noSigma back
      exact ⟨same, noSigma, back⟩
    · exact ih free.2 fixedRest c inRest

/-! ## Clean text -/

/-- A neat text in small letters. -/
structure Clean (text : Text) : Prop extends Neat text where
  /-- Its letters are small. -/
  small : ∀ c ∈ text, c ≠ 'Σ' ∧ lower c = [c]

theorem paringSteps_shorten : ∀ step ∈ paringSteps, Shortens step := by
  intro step member
  simp only [paringSteps, List.mem_cons, List.not_mem_nil, or_false] at member
  rcases member with rfl | rfl | rfl | rfl | rfl | rfl | rfl | rfl | rfl
  · exact .of_sublist (squeeze_sublist ' ')
  · exact .of_sublist (dropIndentsFrom_sublist true)
  · exact .of_sublist dropLineTails_sublist
  · exact .of_sublist (squeeze_sublist '\n')
  · exact .of_sublist fun _ => List.dropWhile_sublist _
  · exact emptyEntityLines_removes.shortens
  · exact dropStrayHyphens_removes.shortens
  · exact squeezeBlanks_removes.shortens
  · exact .of_sublist trim_sublist

/-- The steps before the last bring in no character that is no blank, hyphen, quote or bracket and
that no marker has. -/
theorem not_mem_pared {mark : Char} (visible : Character.isBlank mark = false)
    (noHyphen : '-' ≠ mark) (letter : isMark mark = false)
    (noEntity : afterFolded?.foldCase mark ∉ ['&', 'n', 'b', 's', 'p', ';'])
    (noMarker : afterFolded?.foldCase mark ∉ ['t', 'i', 't', 'l', 'e', ':']) {query : Text}
    (free : mark ∉ query) : mark ∉ pared query := by
  have absent (text : Text) : mark ∉ text ↔ text.filter (· == mark) = [] := by
    rw [List.filter_eq_nil_iff]
    exact ⟨fun free c member same => free (beq_iff_eq.mp same ▸ member),
      fun none member => none _ member (beq_self_eq_true mark)⟩
  have noBlank (c : Char) (blank : Character.isBlank c) : (c == mark) = false :=
    beq_false_of_ne fun same => by rw [same, visible] at blank; cases blank
  have entities (c : Char) (folded : afterFolded?.foldCase c ∈ ['&', 'n', 'b', 's', 'p', ';']) :
      (c == mark) = false :=
    beq_false_of_ne fun same => noEntity (same ▸ folded)
  rw [absent, filter_pared noBlank (beq_false_of_ne noHyphen) entities, ← absent, List.mem_map]
  rintro ⟨c, member, isOne⟩
  obtain rfl : c = mark := eq_of_plainMark_eq isOne letter
  rw [absent] at free
  have none : (dropTitleMarkers query).filter (· == c) = [] := by
    rw [dropTitleMarkers, filter_dropTitleMarkersFrom (noBlank ' ' (by decide)), List.drop_zero,
      free]
    exact fun d folded => beq_false_of_ne fun same => noMarker (same ▸ folded)
  exact (absent _).mpr none member

theorem dotted_not_mem_pared {query : Text} (free : '\u0130' ∉ query) :
    '\u0130' ∉ pared query :=
  not_mem_pared (by decide) (by decide) (by decide) (by decide) (by decide) free

/-- A query without wildcards has a clean text without them. -/
theorem wildcard_not_mem_ofRaw {query : Text} (free : '*' ∉ query) : '*' ∉ ofRaw query := by
  rw [ofRaw_eq_lowercase]
  intro member
  refine not_mem_pared (by decide) (by decide) (by decide) (by decide) (by decide) free ?_
  exact mem_of_mem_lowercaseFrom (by decide +kernel) member

/-- No step changes a text if cleaning leaves it: the steps before the last together keep its
length. -/
theorem steps_of_ofRaw_eq_self {text : Text} (fixed : ofRaw text = text) :
    dropTitleMarkers text = text ∧
      (∀ step ∈ paringSteps, step (text.map plainMark) = text.map plainMark) ∧
      '\u0130' ∉ text := by
  have free : '\u0130' ∉ text := by
    rw [← fixed, ofRaw_eq_lowercase]
    exact dotted_not_mem_lowercaseFrom false _
  have length : (pared text).length = text.length := by
    have kept := length_lowercaseFrom (dotted_not_mem_pared free) false
    rw [← kept]
    exact congrArg List.length fixed
  have pares := length_inTurn_le paringSteps_shorten ((dropTitleMarkers text).map plainMark)
  have marks := dropTitleMarkers_removes.shortens.length_le text
  rw [List.length_map] at pares
  have whole : dropTitleMarkers text = text := by
    refine dropTitleMarkers_removes.shortens.eq_self ?_
    unfold pared at length
    omega
  refine ⟨whole, eq_self_of_length_inTurn paringSteps_shorten ?_, free⟩
  unfold pared at length
  rw [whole] at length
  rw [length, List.length_map]

/-- Cleaning leaves the clean texts, and no others, as they are. -/
theorem ofRaw_eq_self_iff {text : Text} : ofRaw text = text ↔ Clean text := by
  constructor
  · intro fixed
    obtain ⟨noMarkers, steps, free⟩ := steps_of_ofRaw_eq_self fixed
    have paredText : pared text = text.map plainMark := by
      unfold pared
      rw [noMarkers, inTurn_eq_self steps]
    have freePared := dotted_not_mem_pared free
    rw [ofRaw_eq_lowercase, paredText] at fixed
    rw [paredText] at freePared
    have small := small_of_lowercaseFrom freePared fixed
    have plain : text.map plainMark = text :=
      (List.map_congr_left fun c member => (small c member).1).trans (List.map_id text)
    rw [plain] at steps
    obtain ⟨first, last⟩ := ends_of_trim_eq_self (steps trim (by simp [paringSteps]))
    have noMarker := dropTitleMarkers_removes.not_finds noMarkers
    have noEntity := emptyEntityLines_removes.not_finds (steps _ (by simp [paringSteps]))
    have noStray := dropStrayHyphens_removes.not_finds (steps _ (by simp [paringSteps]))
    have apart := squeezeBlanks_removes.not_finds (steps _ (by simp [paringSteps]))
    exact {
      noMarker := by simpa using noMarker
      plain := fun c member => (small c member).1
      apart := not_not.mp apart
      first := first
      last := last
      noEntity := by simpa using noEntity
      noStray := by simpa using noStray
      small := fun c member => (small c member).2 }
  · intro clean
    rw [ofRaw_of_neat clean.toNeat, lowercase_eq_self clean.small]

end CleanText

end FullTextQuery
