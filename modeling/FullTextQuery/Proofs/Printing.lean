import FullTextQuery.Proofs.Groups

/-!
# Printing prefixed tokens

What the passes make of solid tokens is printed directly (`ofTokens_passes`): the passes keep words
and phrases and write symbols, of which no two are neighbours and none but NOT comes last. A group
is printed in brackets with the mark of its operator in front (`printFrom_group`). A word or phrase
is printed as it is if it is `Compact`, that is if none of the steps finds something to change
inside it (`printFrom_item`).
-/

namespace FullTextQuery.FullText

open Prefixed Text Token

/-! ## What the passes write -/

/-- The passes write operators and keep the other tokens. -/
theorem isSolid_of_mem_passes {tokens : List Token} (solid : ∀ token ∈ tokens, IsSolid token) :
    ∀ token ∈ Pass.runAll Query.structuralPasses tokens, IsSolid token := by
  intro token member
  rcases isOperator_or_mem_of_mem_passes member with spells | isToken
  · exact isSolid_of_isOperator spells
  · exact solid token isToken

/-- The tokens that the passes make of solid ones are printed directly. -/
theorem ofTokens_passes {tokens : List Token} (solid : ∀ token ∈ tokens, IsSolid token) :
    ofTokens (Pass.runAll Query.structuralPasses tokens) =
      printFrom true (Pass.runAll Query.structuralPasses tokens) := by
  refine ofTokens_eq_printFrom (isSolid_of_mem_passes solid) (isChain_passes tokens) ?_
  intro isLast
  have clear := endsClear_passes tokens (.symbol .or) isLast
  cases clear

/-! ## Groups -/

/-- A text in brackets. -/
def grouped (text : Text) : Text :=
  '(' :: (text ++ [')'])

@[simp]
theorem head?_grouped (text : Text) : (grouped text).head? = some '(' := rfl

@[simp]
theorem getLast?_grouped (text : Text) : (grouped text).getLast? = some ')' :=
  List.getLast?_concat (l := '(' :: text)

@[simp]
theorem grouped_ne_nil (text : Text) : grouped text ≠ [] :=
  List.cons_ne_nil _ _

/-- A group is printed with its mark in front and its tokens in brackets. -/
theorem printFrom_group (begins : Bool) (rule : Operator) (inner rest : List Token) :
    printFrom begins (prefixedGroup rule inner ++ rest) =
      gap begins ++ shownMark rule ++ grouped (printFrom true inner) ++ printFrom false rest := by
  have shape : prefixedGroup rule inner ++ rest =
      .symbol rule :: .opening :: (inner ++ .closing :: rest) := by simp [prefixedGroup]
  have opens : printFrom begins (.symbol rule :: .opening :: (inner ++ .closing :: rest)) =
      gap begins ++ shownMark rule ++ '(' :: printFrom true (inner ++ .closing :: rest) := rfl
  rw [shape, opens, printFrom_append_closing]
  simp [grouped]

/-! ## Compact text -/

/-- Neighbours between which a step may find something to change. -/
def Loose (left right : Char) : Prop :=
  Character.isBlank left ∧ Character.isBlank right ∨
    left ∈ ['+', '-', '§', '('] ∧ right = ' ' ∨ left = ' ' ∧ right = ')'

/-- Text without blanks has no loose neighbours. -/
theorem tight_of_visible {text : Text} (visible : ∀ c ∈ text, Character.isBlank c = false) :
    text.IsChain fun left right => ¬ Loose left right := by
  rw [List.isChain_iff_forall_rel_of_append_cons_cons]
  intro left right before after parts loose
  have leftVisible := visible left (by rw [parts]; simp)
  have rightVisible := visible right (by rw [parts]; simp)
  rcases loose with ⟨blank, -⟩ | ⟨-, rfl⟩ | ⟨rfl, -⟩
  · rw [leftVisible] at blank
    cases blank
  · cases rightVisible
  · cases leftVisible

section Tight

variable {text : Text} (tight : text.IsChain fun left right => ¬ Loose left right)

include tight

/-- A step that changes text only at loose neighbours leaves a text without any. -/
theorem step_eq_of_tight {step : Text → Text} {bad : Char → Char → Prop}
    (loose : ∀ left right, bad left right → Loose left right) (none : step [] = [])
    (keeps : ∀ c rest, (∀ next ∈ rest.head?, ¬ bad c next) → step (c :: rest) = c :: step rest) :
    step text = text :=
  step_eq_self none keeps (tight.imp fun _ _ fine isBad => fine (loose _ _ isBad))

theorem attach_eq_of_tight (operator : Operator) : attach operator.symbol text = text := by
  refine step_eq_of_tight tight (fun left right => ?_) rfl fun c rest => attach_cons
  rintro ⟨rfl, rfl⟩
  exact .inr (.inl ⟨by cases operator <;> decide, rfl⟩)

/-- Settling the spaces changes nothing in tight text without the mark of OR. -/
theorem settleSpaces_eq_of_tight (noMarker : '§' ∉ text) : settleSpaces text = text := by
  have squeezed : squeezeBlanks text = text :=
    step_eq_of_tight tight (fun _ _ blanks => .inl blanks) rfl fun _ _ => squeezeBlanksFrom_cons
  have closed : tightenClosing text = text :=
    step_eq_of_tight tight (fun _ _ closes => .inr (.inr closes)) rfl
      fun _ _ => tightenClosing_cons
  have opened : tightenOpening text = text := by
    refine step_eq_of_tight tight (fun left right opens => ?_) rfl fun _ _ => tightenOpening_cons
    exact .inr (.inl ⟨by simp [opens.1], opens.2⟩)
  have unmarked : text.filter (· != Operator.or.symbol) = text := by
    refine List.filter_eq_self.mpr fun c member => ?_
    rw [bne_iff_ne]
    rintro rfl
    exact noMarker member
  unfold settleSpaces spread
  rw [attach_eq_of_tight tight, attach_eq_of_tight tight, attach_eq_of_tight tight, squeezed,
    closed, opened, unmarked]

end Tight

/-- Text that stays as it is wherever it stands in a query that is printed. -/
structure Compact (text : Text) : Prop extends Solid text where
  /-- No step changes it within. -/
  tight : text.IsChain fun left right => ¬ Loose left right
  /-- It has no mark of OR. -/
  noMarker : '§' ∉ text

/-- Settling the spaces changes nothing in compact text. -/
theorem Compact.settleSpaces_eq {text : Text} (compact : Compact text) :
    settleSpaces text = text :=
  settleSpaces_eq_of_tight compact.tight compact.noMarker

/-- A word or phrase that is compact is printed as it is, with its mark in front. -/
theorem printFrom_item {token : Token} {text : Text}
    (isText : token = .operand text ∨ token = .phrase text) (compact : Compact text)
    (begins : Bool) (rule : Operator) (rest : List Token) :
    printFrom begins (.symbol rule :: token :: rest) =
      gap begins ++ shownMark rule ++ text ++ printFrom false rest := by
  have mark : printFrom begins (.symbol rule :: token :: rest) =
      gap begins ++ shownMark rule ++ printFrom true (token :: rest) := rfl
  have item : printFrom true (token :: rest) = settleSpaces text ++ printFrom false rest := by
    rcases isText with rfl | rfl
    · rfl
    · rfl
  rw [mark, item, compact.settleSpaces_eq, ← List.append_assoc]

end FullTextQuery.FullText
