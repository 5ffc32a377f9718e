import FullTextQuery.Proofs.OperatorItems
import FullTextQuery.Proofs.Passing
import FullTextQuery.Query.FullText

/-!
# The layout of a full-text query

The full-text query is made from joined tokens by moving and dropping spaces. None of these steps
looks past a character that is `Inert`, so a word or a phrase cuts the joined text: what stands
before it and after it settles by itself, and so does what stands inside it
(`settleSpaces_solid`). Between two such texts stand symbols and brackets only, and what becomes of
them is a short calculation (`Lead`). Together the joined tokens settle to a direct printing
(`ofTokens_eq_printFrom`): one space in front of each item unless a group has just begun, with the
mark of its operator, and nothing around brackets.
-/

namespace FullTextQuery

/-- Whether what comes after a token is printed without a space in front. -/
def Token.joinsNext (token : Token) : Bool :=
  token.isOperator || token = .opening

namespace FullText

open Text Token

/-! ## Steps -/

theorem attach_cons {mark c : Char} {rest : Text}
    (good : ∀ next ∈ rest.head?, ¬ (c = mark ∧ next = ' ')) :
    attach mark (c :: rest) = c :: attach mark rest := by
  cases rest with
  | nil => rfl
  | cons next rest => rw [attach, if_neg (good next rfl)]

theorem attach_mark {mark : Char} (rest : Text) :
    attach mark (mark :: ' ' :: rest) = ' ' :: mark :: attach mark rest := by
  rw [attach, if_pos ⟨rfl, rfl⟩]

theorem tightenClosing_cons {c : Char} {rest : Text}
    (good : ∀ next ∈ rest.head?, ¬ (c = ' ' ∧ next = ')')) :
    tightenClosing (c :: rest) = c :: tightenClosing rest := by
  have apart : ¬ (c = ' ' ∧ rest.head? = some ')') := fun closes =>
    good ')' closes.2 ⟨closes.1, rfl⟩
  rw [tightenClosing, if_neg apart]

theorem tightenOpening_cons {c : Char} {rest : Text}
    (good : ∀ next ∈ rest.head?, ¬ (c = '(' ∧ next = ' ')) :
    tightenOpening (c :: rest) = c :: tightenOpening rest := by
  cases rest with
  | nil => rfl
  | cons next rest => rw [tightenOpening, if_neg (good next rfl)]

theorem isBlank_symbol (operator : Operator) : Character.isBlank operator.symbol = false := by
  cases operator <;> decide

/-! ## Cutting a text -/

theorem attach_cut {mark c : Char} (noMark : c ≠ mark) (noSpace : c ≠ ' ') (front back : Text) :
    attach mark (front ++ c :: back) = attach mark front ++ c :: attach mark back := by
  have start : attach mark (c :: back) = c :: attach mark back :=
    attach_cons fun _ _ found => noMark found.1
  fun_induction attach mark front with
  | case1 a b rest moved ih =>
    obtain ⟨rfl, rfl⟩ := moved
    rw [List.cons_append, List.cons_append, attach_mark, ih]
    rfl
  | case2 a b rest apart ih =>
    rw [List.cons_append, List.cons_append, attach, if_neg apart]
    exact congrArg _ ih
  | case3 text short =>
    cases text with
    | nil => exact start
    | cons a rest =>
      cases rest with
      | cons b rest => exact absurd rfl (short a b rest)
      | nil =>
        have apart (next : Char) (isNext : next ∈ (c :: back).head?) :
            ¬ (a = mark ∧ next = ' ') := by
          obtain rfl : c = next := Option.some.inj isNext
          exact fun found => noSpace found.2
        rw [List.singleton_append, attach_cons apart, start]
        rfl

theorem squeezeBlanksFrom_cut {c : Char} (visible : Character.isBlank c = false) (within : Bool)
    (front back : Text) :
    squeezeBlanksFrom within (front ++ c :: back) =
      squeezeBlanksFrom within front ++ c :: squeezeBlanksFrom false back := by
  have start (within : Bool) : squeezeBlanksFrom within (c :: back) =
      c :: squeezeBlanksFrom false back := by
    rw [squeezeBlanksFrom, visible]
    rfl
  induction front generalizing within with
  | nil => exact start within
  | cons a front ih =>
    have next : (front ++ c :: back).head?.any Character.isBlank =
        front.head?.any Character.isBlank := by
      cases front with
      | nil => exact visible
      | cons b front => rfl
    rw [List.cons_append, squeezeBlanksFrom, squeezeBlanksFrom, next]
    simp only [ih]
    split
    · split
      · rfl
      · split
        · rfl
        · rfl
    · rfl

theorem tightenClosing_cut {c : Char} (noSpace : c ≠ ' ') (noClosing : c ≠ ')')
    (front back : Text) :
    tightenClosing (front ++ c :: back) = tightenClosing front ++ c :: tightenClosing back := by
  induction front with
  | nil => exact tightenClosing_cons fun _ _ found => noSpace found.1
  | cons a front ih =>
    have next : (front ++ c :: back).head? = some ')' ↔ front.head? = some ')' := by
      cases front with
      | nil => simpa using noClosing
      | cons b front => rfl
    rw [List.cons_append, tightenClosing, tightenClosing]
    simp only [next, ih]
    split
    · rfl
    · rfl

/-- What comes after a closing bracket has no say in what becomes of the text before it. -/
theorem tightenClosing_cut_closing (front : Text) :
    ∃ kept, ∀ back, tightenClosing (front ++ ')' :: back) = kept ++ ')' :: tightenClosing back := by
  induction front with
  | nil => exact ⟨[], fun back => tightenClosing_cons fun _ _ found => absurd found.1 (by decide)⟩
  | cons a front ih =>
    obtain ⟨kept, known⟩ := ih
    have next (back : Text) : (front ++ ')' :: back).head? = (front ++ [')']).head? := by
      cases front <;> rfl
    by_cases dropped : a = ' ' ∧ (front ++ [')']).head? = some ')'
    · refine ⟨kept, fun back => ?_⟩
      rw [List.cons_append, tightenClosing, next, if_pos dropped, known]
    · refine ⟨a :: kept, fun back => ?_⟩
      rw [List.cons_append, tightenClosing, next, if_neg dropped, known]
      rfl

/-- What comes before a visible character has no say in what becomes of the text from there. -/
theorem tightenOpening_append {c : Char} (noSpace : c ≠ ' ') (front back : Text) :
    tightenOpening (front ++ c :: back) = tightenOpening front ++ tightenOpening (c :: back) := by
  fun_induction tightenOpening front with
  | case1 a b rest dropped ih =>
    rw [List.cons_append, List.cons_append, tightenOpening, if_pos dropped, ih]
    rfl
  | case2 a b rest apart ih =>
    rw [List.cons_append, List.cons_append, tightenOpening, if_neg apart]
    exact congrArg _ ih
  | case3 text short =>
    cases text with
    | nil => rfl
    | cons a rest =>
      cases rest with
      | cons b rest => exact absurd rfl (short a b rest)
      | nil =>
        have apart (next : Char) (isNext : next ∈ (c :: back).head?) :
            ¬ (a = '(' ∧ next = ' ') := by
          obtain rfl : c = next := Option.some.inj isNext
          exact fun found => noSpace found.2
        exact tightenOpening_cons apart

theorem tightenOpening_cut {c : Char} (noOpening : c ≠ '(') (noSpace : c ≠ ' ')
    (front back : Text) :
    tightenOpening (front ++ c :: back) = tightenOpening front ++ c :: tightenOpening back := by
  have start : tightenOpening (c :: back) = c :: tightenOpening back :=
    tightenOpening_cons fun _ _ found => noOpening found.1
  rw [tightenOpening_append noSpace, start]

/-! ## All steps -/

/-- Joined tokens with each mark moved to the term on its right and runs of blanks squeezed. -/
def spread (joined : Text) : Text :=
  squeezeBlanks (attach Operator.or.symbol (attach Operator.and.symbol
    (attach Operator.not.symbol joined)))

/-- Settles the spaces of joined tokens, but for those at the ends. -/
def settleSpaces (joined : Text) : Text :=
  (tightenOpening (tightenClosing (spread joined))).filter (· != Operator.or.symbol)

theorem settle_eq (joined : Text) : settle joined = trim (settleSpaces joined) := rfl

/-- A character that no step looks at: no blank, no mark and no bracket. -/
def Inert (c : Char) : Prop :=
  Character.isBlank c = false ∧ c ∉ ['+', '-', '§', '(', ')']

instance (c : Char) : Decidable (Inert c) :=
  inferInstanceAs (Decidable (_ ∧ _))

theorem filter_marker_cons {c : Char} (other : c ≠ Operator.or.symbol) (rest : Text) :
    (c :: rest).filter (· != Operator.or.symbol) = c :: rest.filter (· != Operator.or.symbol) :=
  List.filter_cons_of_pos (by simpa using other)

theorem ne_space {c : Char} (visible : Character.isBlank c = false) : c ≠ ' ' :=
  visible_ne_blank visible (by decide)

theorem spread_cut {c : Char} (visible : Character.isBlank c = false)
    (noMark : ∀ operator : Operator, c ≠ operator.symbol) (front back : Text) :
    spread (front ++ c :: back) = spread front ++ c :: spread back := by
  have noSpace := ne_space visible
  unfold spread squeezeBlanks
  rw [attach_cut (noMark .not) noSpace, attach_cut (noMark .and) noSpace,
    attach_cut (noMark .or) noSpace, squeezeBlanksFrom_cut visible]

/-- An inert character cuts a text in two. -/
theorem settleSpaces_cut {c : Char} (inert : Inert c) (front back : Text) :
    settleSpaces (front ++ c :: back) = settleSpaces front ++ c :: settleSpaces back := by
  obtain ⟨visible, apart⟩ := inert
  have noSpace := ne_space visible
  simp only [List.mem_cons, List.not_mem_nil, or_false, not_or] at apart
  obtain ⟨noPlus, noMinus, noMarker, noOpening, noClosing⟩ := apart
  have noMark (operator : Operator) : c ≠ operator.symbol := by
    cases operator with
    | and => exact noPlus
    | or => exact noMarker
    | not => exact noMinus
  unfold settleSpaces
  rw [spread_cut visible noMark, tightenClosing_cut noSpace noClosing,
    tightenOpening_cut noOpening noSpace, List.filter_append, filter_marker_cons (noMark .or)]

theorem settleSpaces_closing (front back : Text) :
    settleSpaces (front ++ ')' :: back) = settleSpaces (front ++ [')']) ++ settleSpaces back := by
  have noMark (operator : Operator) : ')' ≠ operator.symbol := by cases operator <;> decide
  obtain ⟨kept, known⟩ := tightenClosing_cut_closing (spread front)
  have settled (rest : Text) : settleSpaces (front ++ ')' :: rest) =
      (tightenOpening kept).filter (· != Operator.or.symbol) ++ ')' :: settleSpaces rest := by
    unfold settleSpaces
    rw [spread_cut (by decide) noMark, known, tightenOpening_cut (by decide) (by decide),
      List.filter_append, filter_marker_cons (noMark .or)]
  have none : settleSpaces [] = [] := rfl
  rw [settled, settled, none, List.append_assoc]
  rfl

theorem settleSpaces_opening (front back : Text) :
    settleSpaces (front ++ '(' :: back) = settleSpaces front ++ settleSpaces ('(' :: back) := by
  have noMark (operator : Operator) : '(' ≠ operator.symbol := by cases operator <;> decide
  have spreads (rest : Text) : spread ('(' :: rest) = '(' :: spread rest :=
    spread_cut (by decide) noMark [] rest
  have kept (rest : Text) : tightenClosing ('(' :: rest) = '(' :: tightenClosing rest :=
    tightenClosing_cons fun _ _ found => absurd found.1 (by decide)
  unfold settleSpaces
  rw [spread_cut (by decide) noMark, tightenClosing_cut (by decide) (by decide),
    tightenOpening_append (by decide), List.filter_append, spreads, kept]

/-! ## Words and phrases -/

/-- Text that cuts what it stands in at both its ends. -/
structure Solid (text : Text) : Prop where
  /-- It begins with an inert character. -/
  first : ∃ c rest, text = c :: rest ∧ Inert c
  /-- It ends with one. -/
  last : ∃ front c, text = front ++ [c] ∧ Inert c

/-- A word or phrase settles by itself, and so does what stands before it and after it. -/
theorem settleSpaces_solid {text : Text} (solid : Solid text) (front back : Text) :
    settleSpaces (front ++ (text ++ back)) =
      settleSpaces front ++ (settleSpaces text ++ settleSpaces back) := by
  have none : settleSpaces [] = [] := rfl
  obtain ⟨c, rest, starts, first⟩ := solid.first
  obtain ⟨init, d, ends, last⟩ := solid.last
  have after (before : Text) :
      settleSpaces (before ++ (text ++ back)) =
        settleSpaces (before ++ text) ++ settleSpaces back := by
    have shape : before ++ (text ++ back) = (before ++ init) ++ d :: back := by simp [ends]
    have alone : before ++ text = (before ++ init) ++ d :: [] := by simp [ends]
    rw [shape, alone, settleSpaces_cut last, settleSpaces_cut last, none, List.append_assoc]
    rfl
  have before : settleSpaces (front ++ text) = settleSpaces front ++ settleSpaces text := by
    have alone : settleSpaces (c :: rest) = c :: settleSpaces rest := settleSpaces_cut first [] rest
    rw [starts, settleSpaces_cut first, alone]
  rw [after, before, List.append_assoc]

theorem Solid.exists_cons {text : Text} (solid : Solid text) :
    ∃ c rest, settleSpaces text = c :: rest ∧ Character.isBlank c = false := by
  obtain ⟨c, rest, rfl, inert⟩ := solid.first
  exact ⟨c, settleSpaces rest, settleSpaces_cut inert [] rest, inert.1⟩

theorem Solid.exists_concat {text : Text} (solid : Solid text) :
    ∃ front c, settleSpaces text = front ++ [c] ∧ Character.isBlank c = false := by
  obtain ⟨front, c, rfl, inert⟩ := solid.last
  exact ⟨settleSpaces front, c, settleSpaces_cut inert front [], inert.1⟩

/-- A token is solid if it is a bracket, a symbol or a solid text. -/
def IsSolid : Token → Prop
  | .opening | .closing | .symbol _ => True
  | .operand text | .phrase text => Solid text
  | .keyword operator => Solid operator.keyword

theorem solid_of_inert {text : Text} (notEmpty : text ≠ []) (inert : ∀ c ∈ text, Inert c) :
    Solid text := by
  rcases List.eq_nil_or_concat' text with empty | ⟨front, last, shape⟩
  · exact absurd empty notEmpty
  · refine ⟨?_, front, last, shape, inert last (by simp [shape])⟩
    cases text with
    | nil => exact absurd rfl notEmpty
    | cons c rest => exact ⟨c, rest, rfl, inert c List.mem_cons_self⟩

theorem isSolid_of_isOperator {token : Token} (spells : token.isOperator) : IsSolid token := by
  cases token with
  | symbol operator => trivial
  | keyword operator =>
    have inert : operator.keyword.all fun c => Inert c := by cases operator <;> decide
    refine solid_of_inert ?_ fun c member => of_decide_eq_true (List.all_eq_true.mp inert c member)
    cases operator <;> simp [Operator.keyword]
  | operand text | phrase text | opening | closing => cases spells

/-! ## Printing -/

/-- The space in front of an item, unless the query or a group begins there. -/
def gap (begins : Bool) : Text :=
  if begins then [] else [' ']

/-- The mark in front of an item: none for OR. -/
def shownMark : Operator → Text
  | .or => []
  | operator => [operator.symbol]

/-- Prints tokens. `begins` says that no space stands in front of the first one: it follows an
opening bracket or a symbol, or it begins the query. -/
def printFrom (begins : Bool) : List Token → Text
  | [] => []
  | token :: rest =>
    match token with
    | .closing => ')' :: printFrom false rest
    | .opening => gap begins ++ '(' :: printFrom true rest
    | .symbol operator => gap begins ++ shownMark operator ++ printFrom true rest
    | .operand text | .phrase text => gap begins ++ settleSpaces text ++ printFrom false rest
    | .keyword operator => gap begins ++ settleSpaces operator.keyword ++ printFrom false rest

/-- What stands after a closing bracket is printed as if nothing stood before it. -/
theorem printFrom_append_closing (begins : Bool) (front back : List Token) :
    printFrom begins (front ++ .closing :: back) =
      printFrom begins front ++ ')' :: printFrom false back := by
  induction front generalizing begins with
  | nil => rfl
  | cons token front ih =>
    cases token <;> simp [printFrom, ih]

/-! ## Settling is printing -/

/-- What stands in front of the next token and settles only together with it: an opening bracket, a
symbol, both or none. -/
structure Lead where
  /-- A group has just begun. -/
  opened : Bool
  /-- The operator whose symbol stands here, if there is one. -/
  mark : Option Operator

namespace Lead

/-- The joined text of a lead. -/
def raw (lead : Lead) : Text :=
  (if lead.opened then ['('] else []) ++
    match lead.mark with
    | none => []
    | some operator => [' ', operator.symbol]

/-- The text of a lead as it is printed. -/
def printed (lead : Lead) : Text :=
  (if lead.opened then ['('] else []) ++
    match lead.mark with
    | none => []
    | some operator => gap lead.opened ++ shownMark operator

/-- Whether no space stands between the lead and the next token. -/
def begins (lead : Lead) : Bool :=
  lead.opened || lead.mark.isSome

/-- What becomes of a lead at the end of the tokens, in front of a space and in front of a closing
bracket. -/
theorem settled (lead : Lead) :
    settleSpaces lead.raw = lead.printed ∧
      settleSpaces (lead.raw ++ [' ']) = lead.printed ++ gap lead.begins ∧
      settleSpaces (lead.raw ++ [' '] ++ [')']) = lead.printed ++ [')'] := by
  rcases lead with ⟨opened, mark⟩
  cases opened with
  | false =>
    rcases mark with - | operator
    · decide
    · cases operator <;> decide
  | true =>
    rcases mark with - | operator
    · decide
    · cases operator <;> decide

end Lead

/-- The texts of tokens with a space in front of each. -/
def spaced (tokens : List Token) : Text :=
  tokens.flatMap fun token => ' ' :: token.text

/-- After a lead, spaced tokens settle to what is printed. The induction is on the tokens: a symbol
or an opening bracket joins the lead, and any other token cuts the text. -/
theorem settleSpaces_spaced {tokens : List Token} (lead : Lead)
    (solid : ∀ token ∈ tokens, IsSolid token) (chain : tokens.IsChain Prefixed.Apart)
    (follows : ∀ token ∈ tokens.head?, lead.mark.isSome → token.isOperator = false) :
    settleSpaces (lead.raw ++ spaced tokens) = lead.printed ++ printFrom lead.begins tokens := by
  obtain ⟨atEnd, atSpace, atClosing⟩ := lead.settled
  induction tokens generalizing lead with
  | nil =>
    have none : spaced [] = [] := rfl
    rw [none, List.append_nil, atEnd]
    exact (List.append_nil _).symm
  | cons token rest ih =>
    have restSolid : ∀ next ∈ rest, IsSolid next := fun next member =>
      solid next (List.mem_cons_of_mem _ member)
    have restChain : rest.IsChain Prefixed.Apart := chain.tail
    -- What follows starts over after a text or a closing bracket.
    have restart : settleSpaces (spaced rest) = printFrom false rest := by
      have fresh := (⟨false, none⟩ : Lead).settled
      exact ih ⟨false, none⟩ restSolid restChain (by simp) fresh.1 fresh.2.1 fresh.2.2
    have cut : lead.raw ++ spaced (token :: rest) =
        (lead.raw ++ [' ']) ++ (token.text ++ spaced rest) := by
      simp [spaced]
    have text (isSolid : Solid token.text) :
        settleSpaces (lead.raw ++ spaced (token :: rest)) =
          lead.printed ++ (gap lead.begins ++ settleSpaces token.text ++ printFrom false rest) := by
      rw [cut, settleSpaces_solid isSolid, atSpace, restart]
      simp
    cases token with
    | operand word | phrase word | keyword operator => exact text (solid _ List.mem_cons_self)
    | closing =>
      have shape : lead.raw ++ spaced (.closing :: rest) =
          (lead.raw ++ [' ']) ++ ')' :: spaced rest := cut
      rw [shape, settleSpaces_closing, atClosing, restart]
      simp [printFrom]
    | opening =>
      have shape : lead.raw ++ spaced (.opening :: rest) =
          (lead.raw ++ [' ']) ++ '(' :: spaced rest := cut
      have fresh := (⟨true, none⟩ : Lead).settled
      have inside : settleSpaces ('(' :: spaced rest) = '(' :: printFrom true rest :=
        ih ⟨true, none⟩ restSolid restChain (by simp) fresh.1 fresh.2.1 fresh.2.2
      rw [shape, settleSpaces_opening, atSpace, inside]
      simp [printFrom]
    | symbol operator =>
      obtain ⟨opened, mark⟩ := lead
      have free : mark = none := by
        cases mark with
        | none => rfl
        | some other => cases follows _ rfl rfl
      subst free
      have joined := (⟨opened, some operator⟩ : Lead).settled
      have after : ∀ next ∈ rest.head?, (some operator).isSome → next.isOperator = false := by
        intro next isNext _
        cases rest with
        | nil => cases isNext
        | cons first more =>
          obtain rfl : first = next := Option.some.inj isNext
          rw [List.isChain_cons_cons] at chain
          exact chain.1 rfl
      have walk :=
        ih ⟨opened, some operator⟩ restSolid restChain after joined.1 joined.2.1 joined.2.2
      have shape : Lead.raw ⟨opened, none⟩ ++ spaced (.symbol operator :: rest) =
          Lead.raw ⟨opened, some operator⟩ ++ spaced rest := by
        simp [Lead.raw, spaced, Token.text]
      rw [shape, walk]
      cases opened <;> simp [Lead.printed, Lead.begins, printFrom]

/-! ## Spaces at the ends -/

/-- Two texts are the same after the blanks that they begin with. -/
def SameStart (left right : Text) : Prop :=
  trimStart left = trimStart right

theorem sameStart_cons {c : Char} (blank : Character.isBlank c) (rest : Text) :
    SameStart (c :: rest) rest := by
  unfold SameStart trimStart
  rw [List.dropWhile_cons, if_pos blank]

/-- A step that may drop or pass over a blank in front keeps texts the same after such blanks. -/
theorem SameStart.step {step : Text → Text}
    (passes : ∀ c rest, Character.isBlank c → SameStart (step (c :: rest)) (step rest))
    {left right : Text} (same : SameStart left right) : SameStart (step left) (step right) := by
  have trimmed (text : Text) : SameStart (step text) (step (trimStart text)) := by
    induction text with
    | nil => rfl
    | cons c rest ih =>
      unfold trimStart
      rw [List.dropWhile_cons]
      split
      case isTrue blank => exact (passes c rest blank).trans ih
      case isFalse => rfl
  have leftTrimmed := trimmed left
  rw [same] at leftTrimmed
  exact leftTrimmed.trans (trimmed right).symm

theorem SameStart.attach {left right : Text} (same : SameStart left right) (operator : Operator) :
    SameStart (attach operator.symbol left) (attach operator.symbol right) := by
  refine same.step fun c rest blank => ?_
  have apart : c ≠ operator.symbol := by
    intro equal
    rw [equal, isBlank_symbol] at blank
    cases blank
  rw [attach_cons fun _ _ found => apart found.1]
  exact sameStart_cons blank _

theorem sameStart_squeezeBlanksFrom (text : Text) :
    SameStart (squeezeBlanksFrom true text) (squeezeBlanksFrom false text) := by
  induction text with
  | nil => rfl
  | cons c rest ih =>
    cases blank : Character.isBlank c with
    | false =>
      unfold squeezeBlanksFrom
      rw [blank]
      rfl
    | true =>
      have within : squeezeBlanksFrom true (c :: rest) = squeezeBlanksFrom true rest := by
        rw [squeezeBlanksFrom, blank]
        rfl
      rw [within, squeezeBlanksFrom, if_pos blank, if_neg (by simp)]
      split
      · exact (sameStart_cons (by decide) _).symm
      · exact ih.trans (sameStart_cons blank _).symm

theorem SameStart.squeezeBlanks {left right : Text} (same : SameStart left right) :
    SameStart (squeezeBlanks left) (squeezeBlanks right) := by
  refine same.step fun c rest blank => ?_
  unfold Text.squeezeBlanks
  rw [squeezeBlanksFrom, if_pos blank, if_neg (by simp)]
  split
  · exact (sameStart_cons (by decide) _).trans (sameStart_squeezeBlanksFrom rest)
  · exact sameStart_cons blank _

theorem SameStart.tightenClosing {left right : Text} (same : SameStart left right) :
    SameStart (tightenClosing left) (tightenClosing right) := by
  refine same.step fun c rest blank => ?_
  rw [FullText.tightenClosing]
  split
  · rfl
  · exact sameStart_cons blank _

theorem SameStart.tightenOpening {left right : Text} (same : SameStart left right) :
    SameStart (tightenOpening left) (tightenOpening right) := by
  refine same.step fun c rest blank => ?_
  have noOpening : c ≠ '(' := by
    intro equal
    subst equal
    cases blank
  rw [tightenOpening_cons fun _ _ found => noOpening found.1]
  exact sameStart_cons blank _

theorem SameStart.filter {left right : Text} (same : SameStart left right) :
    SameStart (left.filter (· != Operator.or.symbol)) (right.filter (· != Operator.or.symbol)) := by
  refine @SameStart.step (List.filter (· != Operator.or.symbol)) (fun c rest blank => ?_) _ _ same
  have other : c ≠ Operator.or.symbol := by
    intro equal
    rw [equal, isBlank_symbol] at blank
    cases blank
  rw [filter_marker_cons other]
  exact sameStart_cons blank _

/-- A space in front of the joined tokens is trimmed. -/
theorem trim_settleSpaces_space (joined : Text) :
    trim (settleSpaces (' ' :: joined)) = trim (settleSpaces joined) := by
  have start : SameStart (' ' :: joined) joined := sameStart_cons (by decide) joined
  have spreads : SameStart (spread (' ' :: joined)) (spread joined) :=
    (((start.attach .not).attach .and).attach .or).squeezeBlanks
  have settled : SameStart (settleSpaces (' ' :: joined)) (settleSpaces joined) :=
    spreads.tightenClosing.tightenOpening.filter
  unfold trim
  rw [settled]

theorem cons_joinTokens {tokens : List Token} (notEmpty : tokens ≠ []) :
    ' ' :: joinTokens tokens = tokens.flatMap fun token => ' ' :: token.text := by
  induction tokens with
  | nil => exact absurd rfl notEmpty
  | cons token tokens ih =>
    cases tokens with
    | nil => simp [joinTokens, join]
    | cons next tokens =>
      rw [List.flatMap_cons, ← ih (by simp)]
      simp [joinTokens, join]

/-- Solid tokens of which no two operators are neighbours are printed and trimmed. -/
theorem ofTokens_eq_trim {tokens : List Token} (solid : ∀ token ∈ tokens, IsSolid token)
    (chain : tokens.IsChain Prefixed.Apart) : ofTokens tokens = trim (printFrom false tokens) := by
  by_cases empty : tokens = []
  · subst empty
    rfl
  · have settled : settleSpaces (spaced tokens) = printFrom false tokens :=
      settleSpaces_spaced ⟨false, none⟩ solid chain (by simp)
    unfold ofTokens
    rw [settle_eq, ← trim_settleSpaces_space, cons_joinTokens empty]
    exact congrArg trim settled

/-- What is printed begins with no blank. -/
theorem head?_printFrom {tokens : List Token} (solid : ∀ token ∈ tokens, IsSolid token) :
    ∀ c ∈ (printFrom true tokens).head?, Character.isBlank c = false := by
  induction tokens with
  | nil => simp [printFrom]
  | cons token rest ih =>
    have text {word : Text} (isSolid : Solid word) :
        ∀ c ∈ (gap true ++ settleSpaces word ++ printFrom false rest).head?,
          Character.isBlank c = false := by
      obtain ⟨first, more, shape, visible⟩ := isSolid.exists_cons
      intro c isFirst
      rw [shape] at isFirst
      obtain rfl : first = c := Option.some.inj isFirst
      exact visible
    have known := solid token List.mem_cons_self
    cases token with
    | operand word | phrase word | keyword operator => exact text known
    | opening | closing =>
      intro c isFirst
      obtain rfl := Option.some.inj isFirst
      decide
    | symbol operator =>
      cases operator with
      | or => exact ih fun next member => solid next (List.mem_cons_of_mem _ member)
      | and | not =>
        intro c isFirst
        obtain rfl := Option.some.inj isFirst
        decide

/-- What is printed ends with no blank, unless the mark of OR comes last. -/
theorem exists_concat_printFrom {tokens : List Token} (solid : ∀ token ∈ tokens, IsSolid token)
    (notEmpty : tokens ≠ []) (ends : tokens.getLast? ≠ some (.symbol .or)) (begins : Bool) :
    ∃ front c, printFrom begins tokens = front ++ [c] ∧ Character.isBlank c = false := by
  induction tokens generalizing begins with
  | nil => exact absurd rfl notEmpty
  | cons token rest ih =>
    obtain ⟨first, begun, shape⟩ : ∃ first begun, printFrom begins (token :: rest) =
        first ++ printFrom begun rest := by
      cases token with
      | closing => exact ⟨[')'], false, rfl⟩
      | opening => exact ⟨gap begins ++ ['('], true, by simp [printFrom]⟩
      | symbol operator => exact ⟨gap begins ++ shownMark operator, true, rfl⟩
      | operand word | phrase word | keyword operator => exact ⟨_, false, rfl⟩
    cases rest with
    | cons next more =>
      rw [List.getLast?_cons_cons] at ends
      obtain ⟨front, c, known, visible⟩ :=
        ih (fun token member => solid token (List.mem_cons_of_mem _ member)) (by simp) ends begun
      exact ⟨first ++ front, c, by rw [shape, known, List.append_assoc], visible⟩
    | nil =>
      have known := solid token List.mem_cons_self
      have text {word : Text} (isSolid : Solid word) :
          ∃ front c, gap begins ++ settleSpaces word ++ [] = front ++ [c] ∧
            Character.isBlank c = false := by
        obtain ⟨front, c, settled, visible⟩ := isSolid.exists_concat
        exact ⟨gap begins ++ front, c, by simp [settled], visible⟩
      cases token with
      | operand word | phrase word | keyword operator => exact text known
      | closing => exact ⟨[], ')', rfl, by decide⟩
      | opening => exact ⟨gap begins, '(', rfl, by decide⟩
      | symbol operator =>
        cases operator with
        | or => exact absurd rfl ends
        | and => exact ⟨gap begins, '+', by simp [printFrom, shownMark, Operator.symbol], by decide⟩
        | not => exact ⟨gap begins, '-', by simp [printFrom, shownMark, Operator.symbol], by decide⟩

theorem trimStart_printFrom {tokens : List Token} (solid : ∀ token ∈ tokens, IsSolid token) :
    trimStart (printFrom false tokens) = printFrom true tokens := by
  have settled := trimStart_eq_self (head?_printFrom solid)
  have spaceFirst (text : Text) : trimStart (' ' :: text) = trimStart text :=
    sameStart_cons (by decide) text
  cases tokens with
  | nil => rfl
  | cons token rest =>
    cases token with
    | closing => exact settled
    | opening | operand word | phrase word | keyword operator | symbol operator =>
      exact (spaceFirst _).trans settled

/-- Joined and settled, solid tokens of which no two operators are neighbours are printed directly,
if the last one is not the mark of OR. -/
theorem ofTokens_eq_printFrom {tokens : List Token} (solid : ∀ token ∈ tokens, IsSolid token)
    (chain : tokens.IsChain Prefixed.Apart) (ends : tokens.getLast? ≠ some (.symbol .or)) :
    ofTokens tokens = printFrom true tokens := by
  rw [ofTokens_eq_trim solid chain, trim, trimStart_printFrom solid]
  by_cases empty : tokens = []
  · subst empty
    rfl
  · obtain ⟨front, c, shape, visible⟩ := exists_concat_printFrom solid empty ends true
    refine trimEnd_eq_self fun last isLast => ?_
    rw [shape, List.getLast?_concat] at isLast
    obtain rfl := Option.some.inj isLast
    exact visible

end FullText

end FullTextQuery
