import FullTextQuery.Proofs.Conservation
import FullTextQuery.Proofs.Dangling
import FullTextQuery.Proofs.PrefixRule

/-!
# Connectives that are left

Dropping operators may leave a NOT at an edge, but no connective: each AND and OR that is left has
an item that ends on its left, and on its right an item that starts or a NOT
(`isChain_dropDangling`). So no level of the tokens begins with a connective, and the last token is
none. That stays so through the other passes (`endsClear_passes`).
-/

namespace FullTextQuery.Prefixed

open Token

/-- Two tokens that may be neighbours where every connective has both its sides. -/
def Connects (left right : Token) : Prop :=
  (right.isConnective → left.endsItem) ∧ (left.isConnective → right.takesOperator)

theorem Connects.of_not_isConnective {left right : Token} (noLeft : left.isConnective = false)
    (noRight : right.isConnective = false) : Connects left right := by
  constructor
  · intro connective
    rw [noRight] at connective
    cases connective
  · intro connective
    rw [noLeft] at connective
    cases connective

/-! ## What is held -/

/-- What is held needs its own sides: an operator has its right one, and a connective also the one
before it. -/
structure Holds (before : Token) (held : Option Token) (tokens : List Token) : Prop where
  /-- What is written already ends with no connective. -/
  noConnective : before.isConnective = false
  /-- An operator is held in front of what it works on. -/
  hasRight : held.any isOperator → lacksRight tokens.head? = false
  /-- A connective is held after what it works on. -/
  hasLeft : held.any isConnective → before.endsItem

theorem Holds.none {before : Token} (noConnective : before.isConnective = false)
    (tokens : List Token) : Holds before none tokens :=
  ⟨noConnective, by simp, by simp⟩

theorem Holds.some_other {before token : Token} (noConnective : before.isConnective = false)
    (other : token.operator? = .none) (tokens : List Token) : Holds before (some token) tokens :=
  ⟨noConnective, by simp [isOperator_eq_false other], by simp [isConnective_eq_false other]⟩

theorem isOperator_of_isConnective {token : Token} (connective : token.isConnective) :
    token.isOperator := by
  rw [isOperator_eq, connective, Bool.true_or]

/-- No connective goes on after a held token: what is left of the rest may stand after it. -/
theorem isChain_held {before : Token} {held : Option Token} {left : List Token}
    (noConnective : before.isConnective = false) (noneHeld : held.any isConnective = false)
    (walk : ∀ token : Token, token.isConnective = false → (token :: left).IsChain Connects) :
    (before :: (held.toList ++ left)).IsChain Connects := by
  cases held with
  | none => exact walk before noConnective
  | some held => exact .cons_cons (.of_not_isConnective noConnective noneHeld) (walk held noneHeld)

/-- A held connective stays in front of a token that takes it. -/
theorem isChain_connective {before held token : Token} {kept : List Token}
    (noConnective : before.isConnective = false) (ends : before.endsItem)
    (takes : token.takesOperator) (noneNext : token.isConnective = false)
    (chain : (before :: token :: kept).IsChain Connects) :
    (before :: held :: token :: kept).IsChain Connects := by
  have after : Connects held token := by
    refine ⟨fun connective => ?_, fun _ => takes⟩
    rw [noneNext] at connective
    cases connective
  have ahead : Connects before held := by
    refine ⟨fun _ => ends, fun connective => ?_⟩
    rw [noConnective] at connective
    cases connective
  exact .cons_cons ahead (.cons_cons after chain.tail)

/-! ## The walk -/

/-- The rest of a list is walked with every connective in its place. -/
def KeepsSides (tokens : List Token) : Prop :=
  ∀ before held, Holds before held tokens →
    (before :: (dropDanglingFrom held tokens ++ [.closing])).IsChain Connects

/-- With nothing held the walk goes on after any token but a connective. -/
theorem KeepsSides.free {tokens : List Token} (known : KeepsSides tokens) (token : Token)
    (noConnective : token.isConnective = false) :
    (token :: (dropDangling tokens ++ [.closing])).IsChain Connects :=
  known token none (.none noConnective tokens)

theorem any_isOperator_of_isConnective {held : Option Token} (connective : held.any isConnective) :
    held.any isOperator := by
  cases held with
  | none => cases connective
  | some held => exact isOperator_of_isConnective connective

theorem KeepsSides.nil : KeepsSides [] := by
  intro before held holds
  have noneHeld : held.any isConnective = false := by
    refine Bool.eq_false_iff.mpr fun connective => ?_
    cases holds.hasRight (any_isOperator_of_isConnective connective)
  rw [dropDanglingFrom]
  refine isChain_held holds.noConnective noneHeld fun token noConnective => ?_
  exact .cons_cons (.of_not_isConnective noConnective rfl) (.singleton _)

/-- A token that stays in front of the walk over the rest, after what is held. -/
theorem KeepsSides.stays {token : Token} {rest : List Token} (known : KeepsSides rest)
    (noConnective : token.isConnective = false) {before : Token} {held : Option Token}
    (holds : Holds before held (token :: rest))
    (takes : held.any isConnective → token.takesOperator)
    (next : ∀ left : Token, left.isConnective = false → Holds left (some token) rest) :
    (before :: (held.toList ++ dropDanglingFrom (some token) rest ++ [.closing])).IsChain
      Connects := by
  rw [List.append_assoc]
  cases connective : held.any isConnective with
  | false =>
    exact isChain_held holds.noConnective connective fun left noLeft =>
      known left (some token) (next left noLeft)
  | true =>
    cases held with
    | none => cases connective
    | some held =>
      obtain ⟨kept, shape⟩ := dropDanglingFrom_some noConnective rest
      have chain := known before (some token) (next before holds.noConnective)
      rw [shape] at chain ⊢
      exact isChain_connective holds.noConnective (holds.hasLeft connective) (takes connective)
        noConnective chain

theorem KeepsSides.other {token : Token} (other : token.operator? = none) {rest : List Token}
    (known : KeepsSides rest) : KeepsSides (token :: rest) := by
  intro before held holds
  rw [dropDanglingFrom_other other]
  refine known.stays (isConnective_eq_false other) holds (fun connective => ?_)
    fun left noLeft => .some_other noLeft other rest
  have hasRight := holds.hasRight (any_isOperator_of_isConnective connective)
  have notClosing : token ≠ .closing := by
    rintro rfl
    cases hasRight
  rw [takesOperator, startsItem_of_operator? other notClosing, Bool.true_or]

theorem endsItem_of_lacksLeft {held : Token} (noOperator : held.isOperator = false)
    (hasLeft : lacksLeft (some held) = false) : held.endsItem := by
  cases held with
  | operand text | phrase text | closing => rfl
  | keyword operator | symbol operator => cases noOperator
  | opening => cases hasLeft

/-- A connective lacks a right side for whatever operator is held, so none is held in front of
it. -/
theorem KeepsSides.connective {token : Token} (connective : token.isConnective)
    {rest : List Token} (known : KeepsSides rest) : KeepsSides (token :: rest) := by
  intro before held holds
  have noOperator : held.any isOperator = false := by
    refine Bool.eq_false_iff.mpr fun operates => ?_
    have hasRight := holds.hasRight operates
    simp [lacksRight, connective] at hasRight
  have noneHeld : held.any isConnective = false := by
    cases held with
    | none => rfl
    | some held =>
      refine Bool.eq_false_iff.mpr fun connects => ?_
      have operates : held.isOperator := isOperator_of_isConnective connects
      rw [Option.any_some, operates] at noOperator
      cases noOperator
  rw [dropDanglingFrom_connective connective, List.append_assoc]
  split
  case isTrue => exact isChain_held holds.noConnective noneHeld known.free
  case isFalse keeps =>
    rw [Bool.or_eq_true, not_or, Bool.not_eq_true, Bool.not_eq_true] at keeps
    cases held with
    | none => cases keeps.1
    | some held =>
      have ends : held.endsItem := endsItem_of_lacksLeft noOperator keeps.1
      have walk := known held (some token)
        ⟨noneHeld, fun _ => keeps.2, fun _ => ends⟩
      exact .cons_cons (.of_not_isConnective holds.noConnective noneHeld) walk

theorem KeepsSides.not {token : Token} (spells : token.operator? = some .not) {rest : List Token}
    (known : KeepsSides rest) : KeepsSides (token :: rest) := by
  intro before held holds
  have noConnective : token.isConnective = false := isConnective_of_operator? spells
  rw [dropDanglingFrom_not spells]
  split
  case isTrue =>
    split
    case isTrue => exact known.free before holds.noConnective
    case isFalse noneHeld =>
      rw [List.append_assoc]
      exact isChain_held holds.noConnective (Bool.eq_false_iff.mpr noneHeld) known.free
  case isFalse hasRight =>
    refine known.stays noConnective holds (fun _ => ?_) fun left noLeft => ⟨noLeft, ?_, ?_⟩
    · rw [takesOperator, isNot_of_operator? spells, Bool.or_true]
    · exact fun _ => Bool.eq_false_iff.mpr hasRight
    · simp [noConnective]

theorem keepsSides (tokens : List Token) : KeepsSides tokens := by
  induction tokens with
  | nil => exact .nil
  | cons token rest ih =>
    cases spells : token.operator? with
    | none => exact .other spells ih
    | some operator =>
      cases operator with
      | not => exact .not spells ih
      | and | or => exact .connective (isConnective_of_operator? spells) ih

/-- Every connective that is left has both its sides, and the edges of the query count as the
brackets of a group. -/
theorem isChain_dropDangling (tokens : List Token) :
    (.opening :: (dropDangling tokens ++ [.closing])).IsChain Connects :=
  (keepsSides tokens).free .opening rfl

/-! ## The last token -/

/-- The last token, if there is one, is no connective. -/
def EndsClear (tokens : List Token) : Prop :=
  ∀ token ∈ tokens.getLast?, token.isConnective = false

theorem endsClear_concat (front : List Token) (last : Token) :
    EndsClear (front ++ [last]) ↔ last.isConnective = false := by
  simp [EndsClear]

/-- The last token that is left is no connective. -/
theorem endsClear_dropDangling (tokens : List Token) : EndsClear (dropDangling tokens) := by
  have chain := isChain_dropDangling tokens
  rcases List.eq_nil_or_concat' (dropDangling tokens) with empty | ⟨front, last, shape⟩
  · rw [empty]
    simp [EndsClear]
  · rw [shape, endsClear_concat]
    rw [shape, List.isChain_iff_forall_rel_of_append_cons_cons] at chain
    have connects : Connects last .closing :=
      @chain last .closing (.opening :: front) [] (by simp)
    refine Bool.eq_false_iff.mpr fun connective => ?_
    cases connects.2 connective

/-- The token that is handed out last stays last, as itself or spelled by its symbol. -/
theorem EndsClear.distribute {tokens : List Token} (clear : EndsClear tokens)
    (operator : Operator) : EndsClear (distribute operator tokens) := by
  rcases List.eq_nil_or_concat' tokens with rfl | ⟨front, last, rfl⟩
  · exact clear
  · rw [endsClear_concat] at clear
    unfold Prefixed.distribute
    rw [List.foldl_append, List.foldl_cons, List.foldl_nil]
    by_cases isKeyword : last = .keyword operator
    · subst isKeyword
      rw [handOut_keyword, List.reverse_cons, endsClear_concat]
      exact clear
    · rw [handOut_other isKeyword, List.reverse_cons, endsClear_concat]
      exact clear

theorem EndsClear.spellNot {tokens : List Token} (clear : EndsClear tokens) :
    EndsClear (spellNot tokens) := by
  rcases List.eq_nil_or_concat' tokens with rfl | ⟨front, last, rfl⟩
  · exact clear
  · unfold Prefixed.spellNot
    rw [endsClear_concat] at clear
    rw [List.map_append, List.map_singleton, endsClear_concat]
    split
    · rfl
    · exact clear

theorem endsClear_cons {token : Token} {rest : List Token} :
    EndsClear (token :: rest) ↔ EndsClear rest ∧ (rest = [] → token.isConnective = false) := by
  unfold EndsClear
  cases rest with
  | nil => simp
  | cons next rest => simp [List.getLast?_cons_cons]

theorem eq_nil_of_reduce {tokens : List Token} (empty : reduce tokens = []) : tokens = [] := by
  cases tokens with
  | nil => rfl
  | cons token rest =>
    cases spells : token.operator? with
    | none =>
      rw [reduce_of_not_isOperator spells] at empty
      cases empty
    | some operator =>
      rcases reduce_operator spells rest with ⟨next, more, -, shape⟩ | ⟨-, shape⟩
      · rw [shape] at empty
        cases empty
      · rw [shape] at empty
        cases empty

/-- A NOT at the end of a run is stronger than the operators before it. -/
theorem EndsClear.reduce {tokens : List Token} (clear : EndsClear tokens) :
    EndsClear (reduce tokens) := by
  induction tokens with
  | nil => exact clear
  | cons token rest ih =>
    obtain ⟨restClear, alone⟩ := endsClear_cons.mp clear
    have known := ih restClear
    cases spells : token.operator? with
    | none =>
      rw [reduce_of_not_isOperator spells, endsClear_cons]
      exact ⟨known, fun _ => isConnective_eq_false spells⟩
    | some operator =>
      rcases reduce_operator spells rest with ⟨next, more, reduced, shape⟩ | ⟨-, shape⟩
      · rw [reduced, endsClear_cons] at known
        rw [shape, endsClear_cons]
        refine ⟨known.1, fun last => ?_⟩
        have isLast := known.2 last
        cases next with
        | and | or => cases isLast
        | not => cases operator <;> rfl
      · rw [shape, endsClear_cons]
        refine ⟨known, fun last => ?_⟩
        have connective := alone (eq_nil_of_reduce last)
        rw [isConnective_of_operator? spells] at connective
        exact connective

theorem eq_nil_of_supplyAndFrom {afterOperator : Bool} {tokens : List Token}
    (empty : supplyAndFrom afterOperator tokens = []) : tokens = [] := by
  cases tokens with
  | nil => rfl
  | cons token rest =>
    unfold supplyAndFrom at empty
    split at empty
    · cases empty
    · cases empty

theorem EndsClear.supplyAndFrom {tokens : List Token} (clear : EndsClear tokens)
    (afterOperator : Bool) : EndsClear (supplyAndFrom afterOperator tokens) := by
  induction tokens generalizing afterOperator with
  | nil => exact clear
  | cons token rest ih =>
    obtain ⟨restClear, alone⟩ := endsClear_cons.mp clear
    have kept (gap : Bool) : EndsClear (token :: Prefixed.supplyAndFrom gap rest) :=
      endsClear_cons.mpr ⟨ih restClear gap, fun last => alone (eq_nil_of_supplyAndFrom last)⟩
    unfold Prefixed.supplyAndFrom
    split
    · exact kept _
    · exact endsClear_cons.mpr ⟨kept _, by simp⟩

/-- The last of the prefixed tokens is no connective. -/
theorem endsClear_passes (tokens : List Token) :
    EndsClear (Pass.runAll Query.structuralPasses tokens) := by
  have dropped := endsClear_dropDangling tokens
  have handed := ((dropped.distribute .or).distribute .and).spellNot
  exact handed.reduce.supplyAndFrom false

end FullTextQuery.Prefixed
