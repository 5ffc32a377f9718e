import FullTextQuery.Proofs.Conservation
import FullTextQuery.Proofs.FixedText
import FullTextQuery.Proofs.TermShape
import FullTextQuery.Proofs.TidyText

/-!
# The alphabet of full-text queries

Whatever is typed, a full-text query is written in letters of any script, digits, spaces and the few
marks of `InAlphabet`, in small letters and on one line (`inAlphabet_of_convert`). Two facts are
carried from the text that is cleaned to the text that is printed. Letters are small because
lowering is idempotent: no run of capitals is lowered into one (`lower_of_mem_lower`). And after
the other characters have been dropped, the later steps write hyphens, quotes, spaces, and the
letters and symbols of operators only; the mark of OR, which is no character of the alphabet, goes
when the spaces settle.
-/

namespace FullTextQuery

/-! ## Small letters -/

namespace Character

/-- Lowering by `runs` leaves the small letters of a run: they lie before the capitals of the first
run that does not end before them, or between these, as every second letter is a capital. -/
def CapitalRun.isSettled (run : CapitalRun) : List CapitalRun → Bool
  | [] => true
  | other :: others =>
    if other.last < run.lowered then run.isSettled others
    else run.lowered + (run.last - run.first) < min other.first (other.last + 1) ||
      (other.stride == 2 && (run.stride == 2 || run.first == run.last) &&
        (run.lowered + other.first) % 2 == 1 && run.isSettled others)

theorem CapitalRun.Has.lowerBy_eq_self {run : CapitalRun} {n : Nat} (capital : run.Has n)
    {runs : List CapitalRun} (settled : run.isSettled runs) :
    lowerBy runs (run.lowered + (n - run.first)) = run.lowered + (n - run.first) := by
  obtain ⟨first, last, step⟩ := capital
  induction runs with
  | nil => rfl
  | cons other others ih =>
    rw [CapitalRun.isSettled] at settled
    rw [lowerBy]
    split
    case isTrue after =>
      split at settled
      case isTrue => exact ih settled
      case isFalse =>
        simp only [Bool.or_eq_true, Bool.and_eq_true, decide_eq_true_eq] at settled
        rcases settled with before | ⟨-, later⟩
        · omega
        · exact ih later
    case isFalse within =>
      refine if_neg fun found => ?_
      rw [if_neg (by omega)] at settled
      simp only [Bool.or_eq_true, Bool.and_eq_true, decide_eq_true_eq, beq_iff_eq] at settled
      rcases settled with before | ⟨⟨⟨twos, pairs⟩, odd⟩, -⟩
      · omega
      · rw [twos] at found
        rcases pairs with pairs | single
        · rw [pairs] at step
          omega
        · omega

theorem lowerBy_lowerBy (n : Nat) :
    lowerBy capitalRuns (lowerBy capitalRuns n) = lowerBy capitalRuns n := by
  have settled : capitalRuns.all fun run => run.isSettled capitalRuns := by decide +kernel
  rcases lowerBy_eq_or capitalRuns n with same | ⟨run, member, capital, lowered⟩
  · rw [same, same]
  · rw [lowered, capital.lowerBy_eq_self (List.all_eq_true.mp settled run member)]

/-- What a character is lowered to is small. -/
theorem lower_of_mem_lower {c small : Char} (member : small ∈ lower c) : lower small = [small] := by
  have noDot : small ≠ '\u0130' := fun isDotted =>
    CleanText.dotted_not_mem_lower c (isDotted ▸ member)
  unfold lower at member ⊢
  rw [if_neg noDot]
  split at member
  case isTrue =>
    simp only [List.mem_cons, List.not_mem_nil, or_false] at member
    rcases member with rfl | rfl
    · decide +kernel
    · decide +kernel
  case isFalse =>
    obtain rfl := List.mem_singleton.mp member
    rw [toNat_ofNat_lowerBy, lowerBy_lowerBy]

end Character

namespace CleanText

open Text Character

/-- A small letter stays as it is where a text is lowered. -/
def Small (c : Char) : Prop :=
  c ≠ 'Σ' ∧ lower c = [c]

theorem small_of_lower {c : Char} (fixed : lower c = [c]) : Small c := by
  refine ⟨?_, fixed⟩
  rintro rfl
  exact absurd fixed (by decide +kernel)

theorem small_of_mem_lowercaseFrom {afterCased : Bool} {text : Text} :
    ∀ c ∈ lowercaseFrom afterCased text, Small c := by
  induction text generalizing afterCased with
  | nil => simp [lowercaseFrom]
  | cons first rest ih =>
    intro c member
    rw [lowercaseFrom, List.mem_append] at member
    rcases member with here | later
    · split at here
      case isTrue =>
        obtain rfl := List.mem_singleton.mp here
        split
        · exact small_of_lower (by decide +kernel)
        · exact small_of_lower (by decide +kernel)
      case isFalse => exact small_of_lower (lower_of_mem_lower here)
    · exact ih c later

/-- A clean text has small letters. -/
theorem small_of_mem_ofRaw (query : Text) : ∀ c ∈ ofRaw query, Small c := by
  rw [ofRaw_eq_lowercase]
  exact small_of_mem_lowercaseFrom

theorem isUpper_iff {c : Char} : c.isUpper ↔ 'A'.val ≤ c.val ∧ c.val ≤ 'Z'.val :=
  decide_eq_true_iff

theorem Small.isUpper_eq_false {c : Char} (small : Small c) : c.isUpper = false := by
  have codes : ∀ code < 128, lower (Char.ofNat code) = [Char.ofNat code] →
      (Char.ofNat code).isUpper = false := by decide +kernel
  refine Bool.eq_false_iff.mpr fun upper => ?_
  have ascii : c.toNat < 128 := by
    have last : c.toNat ≤ 90 := (isUpper_iff.mp upper).2
    omega
  have known := ascii_induction
    (motive := fun c => lower c = [c] → c.isUpper = false) codes c ascii small.2
  rw [known] at upper
  cases upper

end CleanText

/-! ## What the steps write -/

namespace Text

theorem head?_trimStart (text : Text) :
    ∀ c ∈ (trimStart text).head?, Character.isBlank c = false := by
  intro c isFirst
  have notBlank := List.head?_dropWhile_not Character.isBlank text
  unfold trimStart at isFirst
  rw [Option.mem_def.mp isFirst] at notBlank
  simpa using notBlank

theorem head?_trimEnd {text : Text} (first : ∀ c ∈ text.head?, Character.isBlank c = false) :
    (trimEnd text).head? = text.head? := by
  cases text with
  | nil => rfl
  | cons c rest =>
    rw [trimEnd]
    split
    · rw [if_neg (by simp [first c rfl])]
      rfl
    · rfl

theorem getLast?_trimEnd (text : Text) :
    ∀ c ∈ (trimEnd text).getLast?, Character.isBlank c = false := by
  induction text with
  | nil => simp [trimEnd]
  | cons c rest ih =>
    rw [trimEnd]
    split
    case h_1 =>
      split
      case isTrue => simp
      case isFalse visible => simpa using visible
    case h_2 kept notEmpty =>
      cases kept : trimEnd rest with
      | nil => exact absurd kept notEmpty
      | cons next more =>
        rw [List.getLast?_cons_cons, ← kept]
        exact ih

/-- A trimmed text neither begins nor ends with a blank. -/
theorem ends_trim (text : Text) :
    (∀ c ∈ (trim text).head?, Character.isBlank c = false) ∧
      ∀ c ∈ (trim text).getLast?, Character.isBlank c = false := by
  refine ⟨?_, getLast?_trimEnd _⟩
  rw [trim, head?_trimEnd (head?_trimStart text)]
  exact head?_trimStart text

/-- Squeezing writes spaces only. -/
theorem mem_of_mem_squeezeBlanksFrom {within : Bool} {text : Text} {c : Char} (other : c ≠ ' ')
    (member : c ∈ squeezeBlanksFrom within text) : c ∈ text := by
  induction text generalizing within with
  | nil => cases member
  | cons first rest ih =>
    rw [squeezeBlanksFrom] at member
    split at member
    · split at member
      · exact List.mem_cons_of_mem _ (ih member)
      · split at member
        · exact List.mem_cons_of_mem _ (ih ((List.mem_cons.mp member).resolve_left other))
        · exact List.mem_cons.mpr ((List.mem_cons.mp member).imp_right ih)
    · exact List.mem_cons.mpr ((List.mem_cons.mp member).imp_right ih)

end Text

namespace FullText

open Text Prefixed Term

/-- A step that keeps all but spaces brings in no other character. -/
theorem mem_of_filter_eq {left right : Text} {c : Char}
    (same : left.filter (· == c) = right.filter (· == c)) (member : c ∈ left) : c ∈ right := by
  have kept : c ∈ left.filter (· == c) := List.mem_filter.mpr ⟨member, beq_self_eq_true c⟩
  rw [same] at kept
  exact (List.mem_filter.mp kept).1

/-- Settling writes spaces only, and drops the mark of OR. -/
theorem mem_of_mem_settleSpaces {joined : Text} {c : Char} (member : c ∈ settleSpaces joined) :
    (c = ' ' ∨ c ∈ joined) ∧ c ≠ Operator.or.symbol := by
  obtain ⟨tight, notMarker⟩ := List.mem_filter.mp member
  refine ⟨?_, bne_iff_ne.mp notMarker⟩
  by_cases isSpace : c = ' '
  · exact .inl isSpace
  · have space : (' ' == c) = false := beq_false_of_ne (Ne.symm isSpace)
    have opened := mem_of_filter_eq (filter_tightenOpening space _) tight
    have closed := mem_of_filter_eq (filter_tightenClosing space _) opened
    have attached := mem_of_mem_squeezeBlanksFrom isSpace closed
    have noOr := mem_of_filter_eq (filter_attach space Operator.or.symbol _) attached
    have noAnd := mem_of_filter_eq (filter_attach space Operator.and.symbol _) noOr
    exact .inr (mem_of_filter_eq (filter_attach space Operator.not.symbol _) noAnd)

/-- A full-text query is written with the characters of its tokens and spaces. -/
theorem mem_of_mem_ofTokens {tokens : List Token} {c : Char} (member : c ∈ ofTokens tokens) :
    (c = ' ' ∨ ∃ token ∈ tokens, c ∈ token.text) ∧ c ≠ Operator.or.symbol := by
  obtain ⟨source, notMarker⟩ := mem_of_mem_settleSpaces ((trim_sublist _).subset member)
  refine ⟨?_, notMarker⟩
  by_cases isSpace : c = ' '
  · exact .inl isSpace
  · have space : (' ' == c) = false := beq_false_of_ne (Ne.symm isSpace)
    have inTexts := mem_of_filter_eq (filter_join space _) (source.resolve_left isSpace)
    obtain ⟨text, isText, inside⟩ := List.mem_flatten.mp inTexts
    obtain ⟨token, isToken, rfl⟩ := List.mem_map.mp isText
    exact .inr ⟨token, isToken, inside⟩

end FullText

namespace Query

open CleanText Term Prefixed FullText

/-- The characters of tokens are allowed characters of the clean text, and the marks that compounds
are written with. -/
theorem allowed_of_mem_tokensOfClean {clean : Text} {token : Token}
    (member : token ∈ tokensOfClean clean) :
    ∀ c ∈ token.text, isAllowed c ∧ (c ∈ clean ∨ c = '\"' ∨ c = '-') := by
  have kept : ∀ term ∈ (ofClean clean).map keepAllowed, ∀ c ∈ term,
      isAllowed c ∧ (c ∈ clean ∨ c = '\"' ∨ c = '-') := by
    intro term isTerm c inside
    obtain ⟨source, isSource, rfl⟩ := List.mem_map.mp isTerm
    obtain ⟨inSource, allowed⟩ := List.mem_filter.mp inside
    refine ⟨allowed, .inl ?_⟩
    rw [← flatten_ofClean clean]
    exact List.mem_flatten.mpr ⟨source, isSource, inSource⟩
  have merged : ∀ term ∈ mergeCompounds ((ofClean clean).map keepAllowed), ∀ c ∈ term,
      isAllowed c ∧ (c ∈ clean ∨ c = '\"' ∨ c = '-') := by
    refine forall_mem_mergeCompounds (fun before hyphen after _ first _ second => ?_) kept
    intro c inside
    simp only [compound, quote, List.mem_append, List.mem_singleton] at inside
    rcases inside with (((rfl | inFirst) | rfl) | inSecond) | rfl
    · exact ⟨by decide, .inr (.inl rfl)⟩
    · exact first c inFirst
    · exact ⟨by decide, .inr (.inr rfl)⟩
    · exact second c inSecond
    · exact ⟨by decide, .inr (.inl rfl)⟩
  rw [tokensOfClean_eq] at member
  obtain ⟨term, isVisible, rfl⟩ := List.mem_map.mp member
  intro c inside
  rw [text_ofTerm] at inside
  have inTerms := List.mem_flatten.mpr ⟨term, (List.mem_filter.mp isVisible).1, inside⟩
  rw [flatten_attachWildcards] at inTerms
  obtain ⟨compound, isCompound, inCompound⟩ := List.mem_flatten.mp inTerms
  exact merged compound isCompound c inCompound

/-- Operators are spelled in small letters, by keywords and symbols. -/
theorem allowed_of_isOperator {token : Token} (spells : token.isOperator) {c : Char}
    (inside : c ∈ token.text) (notMarker : c ≠ Operator.or.symbol) : isAllowed c ∧ Small c := by
  have letters : ∀ operator : Operator, (operator.symbol :: operator.keyword).all fun c =>
      c = Operator.or.symbol || isAllowed c && (Character.lower c == [c]) := by
    intro operator
    cases operator <;> decide +kernel
  have known (operator : Operator) (member : c = operator.symbol ∨ c ∈ operator.keyword) :
      isAllowed c ∧ Small c := by
    have found := List.all_eq_true.mp (letters operator) c (List.mem_cons.mpr member)
    simp only [notMarker, decide_false, Bool.false_or, Bool.and_eq_true, beq_iff_eq] at found
    exact ⟨found.1, small_of_lower found.2⟩
  cases token with
  | keyword operator => exact known operator (.inr inside)
  | symbol operator => exact known operator (.inl (List.mem_singleton.mp inside))
  | operand text | phrase text | opening | closing => cases spells

/-- A full-text query has allowed characters and small letters only. -/
theorem allowed_of_convert {query output : Text} (accepted : convert query = .ok output) :
    ∀ c ∈ output, isAllowed c ∧ Small c := by
  have space : isAllowed ' ' ∧ Small ' ' := ⟨by decide, small_of_lower (by decide +kernel)⟩
  have marks : ∀ c, c = '\"' ∨ c = '-' → Small c := by
    rintro c (rfl | rfl)
    · exact small_of_lower (by decide +kernel)
    · exact small_of_lower (by decide +kernel)
  obtain ⟨-, -, rfl⟩ := convert_eq_ok.mp accepted
  intro c member
  obtain ⟨rfl | ⟨token, isToken, inside⟩, notMarker⟩ := mem_of_mem_ofTokens member
  · exact space
  · rcases isOperator_or_mem_of_mem_passes isToken with spells | isRead
    · exact allowed_of_isOperator spells inside notMarker
    · obtain ⟨allowed, inClean | mark⟩ := allowed_of_mem_tokensOfClean isRead c inside
      · exact ⟨allowed, small_of_mem_ofRaw query c inClean⟩
      · exact ⟨allowed, marks c mark⟩

/-- A full-text query neither begins nor ends with a blank. -/
theorem ends_of_convert {query output : Text} (accepted : convert query = .ok output) :
    (∀ c ∈ output.head?, Character.isBlank c = false) ∧
      ∀ c ∈ output.getLast?, Character.isBlank c = false := by
  obtain ⟨-, -, rfl⟩ := convert_eq_ok.mp accepted
  exact Text.ends_trim _

end Query

/-! ## The alphabet -/

namespace FullText

/-- A text that the database can be given: one line of words, groups and phrases in the alphabet of
full-text queries. -/
structure InAlphabet (text : Text) : Prop where
  /-- It has letters, digits, spaces and the marks of full-text queries. -/
  alphabet : ∀ c ∈ text, Character.isLetter c ∨ c.isDigit ∨
    c ∈ [' ', '@', '(', ')', '-', '+', '*', '.', '\"']
  /-- It has no capital of the ASCII letters. -/
  noCapital : ∀ c ∈ text, c.isUpper = false
  /-- It has no line break: no line feed, vertical tab, form feed, carriage return, next line, line
  separator or paragraph separator. -/
  noLineBreak : ∀ c ∈ text, c ∉ ['\n', '\x0b', '\x0c', '\r', '\u0085', '\u2028', '\u2029']
  /-- The mark of OR is gone. -/
  noMarker : Operator.or.symbol ∉ text
  /-- It does not begin with a space. -/
  first : text.head? ≠ some ' '
  /-- It does not end with a space. -/
  last : text.getLast? ≠ some ' '

end FullText

namespace Query

open CleanText FullText Term

/-- Nothing outside the alphabet reaches the database. -/
theorem inAlphabet_of_convert (query output : Text) (accepted : convert query = .ok output) :
    InAlphabet output := by
  have known := allowed_of_convert accepted
  have marker : isAllowed Operator.or.symbol = false := by decide +kernel
  obtain ⟨first, last⟩ := ends_of_convert accepted
  refine ⟨fun c member => ?_, fun c member => (known c member).2.isUpper_eq_false,
    fun c member => ?_, fun member => ?_, fun isFirst => ?_, fun isLast => ?_⟩
  · have allowed := (known c member).1
    unfold isAllowed at allowed
    rw [Bool.or_eq_true, Bool.or_eq_true, List.contains_iff_mem] at allowed
    rcases allowed with (letter | digit) | mark
    · exact .inl letter
    · exact .inr (.inl digit)
    · have listed : [' ', '@', '(', ')', '-', '+', '*', '\"', '.'] ⊆
          [' ', '@', '(', ')', '-', '+', '*', '.', '\"'] := by decide
      exact .inr (.inr (listed mark))
  · exact not_mem_of_isAllowed (by decide +kernel) (known c member).1
  · have allowed := (known _ member).1
    rw [marker] at allowed
    cases allowed
  · exact absurd (first ' ' isFirst) (by decide)
  · exact absurd (last ' ' isLast) (by decide)

/-- Characters that mean something to a database, capitals, curly quotes, an OR and a line break:
what is left of them is a phrase, a compound and two words. -/
theorem inAlphabet_of_convert_hostile :
    let query := "\u201cDROP TABLE; --\u201d §x or a~b<>'C-D\\\n%1*".toList
    convert query = .ok "+\"drop table --\" x ab +\"c-d\" +1*".toList ∧
      InAlphabet "+\"drop table --\" x ab +\"c-d\" +1*".toList := by
  intro query
  have accepted : convert query = .ok "+\"drop table --\" x ab +\"c-d\" +1*".toList := by
    decide +kernel
  exact ⟨accepted, inAlphabet_of_convert query _ accepted⟩

end Query

end FullTextQuery
