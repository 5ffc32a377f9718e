import FullTextQuery.Proofs.Placement

/-!
# Operators at an edge

The edges are the end of the query and the end of every group. Tokens hang if some operator comes
right before an edge. Dropping operators walks from left to right, and it looks at the token after
an operator before that token is judged. So a NOT stays if a NOT follows it, also when the second
one goes next for want of a right side, and the first one hangs.

`hangs_dropDangling` says that nothing else hangs: an operator is left at an edge exactly if a NOT
comes right after a NOT and only operators stand between the two and an edge.
-/

namespace FullTextQuery.Prefixed

open Token

/-! ## Hanging operators -/

/-- The query or the group ends here. -/
def atEdge (tokens : List Token) : Bool :=
  tokens.head?.all (· = .closing)

/-- Some operator comes right before an edge. -/
def hangs : List Token → Bool
  | [] => false
  | token :: rest => token.isOperator && atEdge rest || hangs rest

/-- A NOT comes right after a NOT, and after them only operators up to an edge. -/
def doublesNot : List Token → Bool
  | [] => false
  | token :: rest =>
    token.isNot && rest.head?.any isNot && atEdge (rest.dropWhile isOperator) || doublesNot rest

theorem atEdge_cons (token : Token) (rest : List Token) :
    atEdge (token :: rest) = decide (token = .closing) := rfl

theorem hangs_of_not_isOperator {token : Token} (other : token.isOperator = false)
    (rest : List Token) : hangs (token :: rest) = hangs rest := by
  simp [hangs, other]

theorem hangs_of_not_atEdge {rest : List Token} (inside : atEdge rest = false) (token : Token) :
    hangs (token :: rest) = hangs rest := by
  simp [hangs, inside]

theorem any_isNot_eq_false {held : Option Token} (noOperator : held.any isOperator = false) :
    held.any isNot = false := by
  cases held with
  | none => rfl
  | some held =>
    have none : held.operator? = none := by simpa [isOperator] using noOperator
    rw [Option.any_some, isNot, none]
    rfl

theorem isNot_eq_false_of_isConnective {token : Token} (connective : token.isConnective) :
    token.isNot = false := by
  refine Bool.eq_false_iff.mpr fun spellsNot => ?_
  have spells : token.operator? = some .not :=
    beq_iff_eq.mp spellsNot
  rw [isConnective, spells] at connective
  cases connective

theorem hangs_append_held {held : Option Token} {rest : List Token}
    (inside : held.any isOperator → atEdge rest = false) :
    hangs (held.toList ++ rest) = hangs rest := by
  cases held with
  | none => rfl
  | some held =>
    cases spells : held.isOperator with
    | false => exact hangs_of_not_isOperator spells rest
    | true => exact hangs_of_not_atEdge (inside spells) held

theorem doublesNot_of_not_isNot {token : Token} (other : token.isNot = false)
    (rest : List Token) : doublesNot (token :: rest) = doublesNot rest := by
  simp [doublesNot, other]

/-- A NOT that lacks its right side is not followed by a NOT. -/
theorem doublesNot_of_lacksRight {rest : List Token} (lacks : lacksRight rest.head?)
    (token : Token) : doublesNot (token :: rest) = doublesNot rest := by
  have noNot : rest.head?.any isNot = false := by
    cases rest with
    | nil => rfl
    | cons next rest =>
      cases next with
      | keyword operator | symbol operator =>
        cases operator with
        | and | or => rfl
        | not => cases lacks
      | operand text | phrase text => rfl
      | opening | closing => rfl
  simp [doublesNot, noNot]

/-- After a NOT that has its right side, operators up to an edge begin with a NOT. -/
theorem doublesNot_of_isNot {token : Token} (spellsNot : token.isNot) {rest : List Token}
    (hasRight : lacksRight rest.head? = false) :
    doublesNot (token :: rest) = (atEdge (rest.dropWhile isOperator) || doublesNot rest) := by
  have starts : (rest.head?.any isNot && atEdge (rest.dropWhile isOperator)) =
      atEdge (rest.dropWhile isOperator) := by
    cases rest with
    | nil => cases hasRight
    | cons next rest =>
      cases next with
      | keyword operator | symbol operator =>
        cases operator with
        | and | or => cases hasRight
        | not => rfl
      | operand text | phrase text => rfl
      | opening => rfl
      | closing => cases hasRight
  rw [doublesNot, spellsNot, Bool.true_and, starts]

/-! ## Dropping operators -/

theorem dropDanglingFrom_other {token : Token} (other : token.operator? = none)
    (held : Option Token) (rest : List Token) :
    dropDanglingFrom held (token :: rest) =
      held.toList ++ dropDanglingFrom (some token) rest := by
  rw [dropDanglingFrom, other]

theorem dropDanglingFrom_connective {token : Token} (connective : token.isConnective)
    (held : Option Token) (rest : List Token) :
    dropDanglingFrom held (token :: rest) =
      held.toList ++
        if lacksLeft held || lacksRight rest.head? then dropDangling rest
        else dropDanglingFrom (some token) rest := by
  cases spells : token.operator? with
  | none =>
    rw [isConnective, spells] at connective
    cases connective
  | some operator =>
    rw [isConnective, spells, Option.any_some] at connective
    have other : operator ≠ .not := by
      intro equal
      subst equal
      cases connective
    rw [dropDanglingFrom, spells]
    simp only [connective, other, Bool.true_and, false_and, if_false, dropDangling]
    split <;> rfl

theorem dropDanglingFrom_not {token : Token} (spells : token.operator? = some .not)
    (held : Option Token) (rest : List Token) :
    dropDanglingFrom held (token :: rest) =
      if lacksRight rest.head? then
        if held.any isConnective then dropDangling rest else held.toList ++ dropDangling rest
      else held.toList ++ dropDanglingFrom (some token) rest := by
  rw [dropDanglingFrom, spells]
  simp [dropDangling, Operator.isConnective]

/-- What is held stays in front, unless it is a connective that a NOT takes along. -/
theorem dropDanglingFrom_some {held : Token} (other : held.isConnective = false)
    (rest : List Token) :
    ∃ kept, dropDanglingFrom (some held) rest = held :: kept := by
  cases rest with
  | nil => exact ⟨[], rfl⟩
  | cons token rest =>
    rw [dropDanglingFrom]
    cases token.operator? with
    | none => exact ⟨_, rfl⟩
    | some operator =>
      simp only [Option.any_some, other, Bool.false_eq_true, and_false, if_false]
      split <;> exact ⟨_, rfl⟩

/-- What one token does to the walk: it is held and what was held is written, or it is an operator
that goes, and it may take a connective along. Of the rest only the first token has a say. -/
theorem dropDanglingFrom_cases (held : Option Token) (token : Token) (next : Option Token) :
    (∀ rest : List Token, rest.head? = next →
      dropDanglingFrom held (token :: rest) =
        held.toList ++ dropDanglingFrom (some token) rest) ∨
    token.isOperator ∧ ∃ left : Option Token,
      (left = held ∨ left = none ∧ held.any isConnective) ∧
      ∀ rest : List Token, rest.head? = next →
        dropDanglingFrom held (token :: rest) = left.toList ++ dropDangling rest := by
  cases spells : token.operator? with
  | none => exact .inl fun rest _ => dropDanglingFrom_other spells held rest
  | some operator =>
    by_cases goes : (operator.isConnective && lacksLeft held) || lacksRight next
    case neg =>
      refine .inl fun rest starts => ?_
      rw [dropDanglingFrom, spells]
      dsimp only
      rw [starts, if_neg goes]
    case pos =>
      refine .inr ⟨isOperator_of_operator? spells, ?_⟩
      by_cases taken : operator = .not ∧ held.any isConnective
      case pos =>
        refine ⟨none, .inr ⟨rfl, taken.2⟩, fun rest starts => ?_⟩
        rw [dropDanglingFrom, spells]
        dsimp only
        rw [starts, if_pos goes, if_pos taken]
        rfl
      case neg =>
        refine ⟨held, .inl rfl, fun rest starts => ?_⟩
        rw [dropDanglingFrom, spells]
        dsimp only
        rw [starts, if_pos goes, if_neg taken]
        rfl

/-- What the walk over the front of a list has kept, and what it holds when it reaches the rest, of
which `next` comes first. -/
structure Walk (held : Option Token) (front : List Token) (next : Option Token)
    (kept : List Token) (reached : Option Token) : Prop where
  /-- What is kept or held is part of the front, in its order. -/
  part : (kept ++ reached.toList).Sublist (held.toList ++ front)
  /-- The last token of the front is held, if it is no operator. -/
  ends : ∀ last ∈ (held.toList ++ front).getLast?, last.operator? = none → reached = some last
  /-- The walk goes on from there. -/
  goesOn : ∀ back : List Token, back.head? = next →
    dropDanglingFrom held (front ++ back) = kept ++ dropDanglingFrom reached back

namespace Walk

variable {held reached next : Option Token} {token : Token} {front kept : List Token}

theorem nil (held next : Option Token) : Walk held [] next [] held where
  part := by simp
  ends last isLast _ := by
    cases held with
    | none => cases isLast
    | some held => simpa using isLast
  goesOn _ _ := rfl

theorem head?_append {back : List Token} (starts : back.head? = next) :
    (front ++ back).head? = front.head?.or next := by
  rw [List.head?_append, starts]

/-- The last token is found behind what is held. -/
theorem getLast?_held (held : Option Token) (token : Token) (front : List Token) :
    (held.toList ++ token :: front).getLast? = (token :: front).getLast? :=
  List.getLast?_append_of_ne_nil _ (by simp)

theorem stays (walk : Walk (some token) front next kept reached)
    (step : ∀ rest : List Token, rest.head? = front.head?.or next →
      dropDanglingFrom held (token :: rest) =
        held.toList ++ dropDanglingFrom (some token) rest) :
    Walk held (token :: front) next (held.toList ++ kept) reached where
  part := by
    rw [List.append_assoc]
    exact walk.part.append_left _
  ends := by
    rw [getLast?_held]
    exact walk.ends
  goesOn back starts := by
    rw [List.cons_append, step _ (head?_append starts), walk.goesOn back starts, List.append_assoc]

theorem goes (operates : token.isOperator) (walk : Walk none front next kept reached)
    {left : Option Token} (part : left.toList.Sublist held.toList)
    (step : ∀ rest : List Token, rest.head? = front.head?.or next →
      dropDanglingFrom held (token :: rest) = left.toList ++ dropDangling rest) :
    Walk held (token :: front) next (left.toList ++ kept) reached where
  part := by
    rw [List.append_assoc]
    exact part.append (walk.part.trans (List.sublist_cons_self token front))
  ends last isLast other := by
    rw [getLast?_held] at isLast
    cases front with
    | nil =>
      obtain rfl : token = last := by simpa using isLast
      rw [isOperator, other] at operates
      cases operates
    | cons first front => exact walk.ends last isLast other
  goesOn back starts := by
    rw [List.cons_append, step _ (head?_append starts), dropDangling, walk.goesOn back starts,
      List.append_assoc]

end Walk

theorem exists_walk (held : Option Token) (front : List Token) (next : Option Token) :
    ∃ kept reached, Walk held front next kept reached := by
  induction front generalizing held with
  | nil => exact ⟨[], held, .nil held next⟩
  | cons token front ih =>
    rcases dropDanglingFrom_cases held token (front.head?.or next) with
      step | ⟨operates, left, part, step⟩
    · obtain ⟨kept, reached, walk⟩ := ih (some token)
      exact ⟨_, reached, walk.stays step⟩
    · obtain ⟨kept, reached, walk⟩ := ih none
      have kept : left.toList.Sublist held.toList := by
        rcases part with rfl | ⟨rfl, -⟩
        · exact .refl _
        · exact List.nil_sublist _
      exact ⟨_, reached, walk.goes operates kept step⟩

/-- Tokens are dropped and none is moved or added. -/
theorem dropDanglingFrom_sublist (held : Option Token) (tokens : List Token) :
    (dropDanglingFrom held tokens).Sublist (held.toList ++ tokens) := by
  obtain ⟨kept, reached, walk⟩ := exists_walk held tokens none
  have whole := walk.goesOn [] rfl
  rw [List.append_nil] at whole
  rw [whole]
  exact walk.part

/-- The first token that is left is the first that is no operator, or it is a NOT. In the second
case operators up to an edge double a NOT: the first one that is left has its right side. -/
theorem head?_dropDangling (tokens : List Token) :
    (dropDangling tokens).head? = (tokens.dropWhile isOperator).head? ∨
      (∃ kept, (dropDangling tokens).head? = some kept ∧ kept.isNot) ∧
        (atEdge (tokens.dropWhile isOperator) → doublesNot tokens) := by
  induction tokens with
  | nil => exact .inl rfl
  | cons token rest ih =>
    cases spells : token.operator? with
    | none =>
      have noOperator : token.isOperator = false := isOperator_eq_false spells
      have noConnective : token.isConnective = false := isConnective_eq_false spells
      obtain ⟨kept, shape⟩ := dropDanglingFrom_some noConnective rest
      left
      rw [dropDangling, dropDanglingFrom_other spells, shape, List.dropWhile_cons, noOperator]
      rfl
    | some operator =>
      have isOperator : token.isOperator := isOperator_of_operator? spells
      have dropped : dropDangling (token :: rest) =
          if operator.isConnective || lacksRight rest.head? then dropDangling rest
          else dropDanglingFrom (some token) rest := by
        simp [dropDangling, dropDanglingFrom, spells, lacksLeft]
      rw [dropped, List.dropWhile_cons, if_pos isOperator]
      split
      case isTrue goes =>
        rcases ih with same | ⟨keptNot, doubles⟩
        · exact .inl same
        · refine .inr ⟨keptNot, fun edge => ?_⟩
          simp [doublesNot, doubles edge]
      case isFalse stays =>
        obtain ⟨noConnective, hasRight⟩ :
            operator.isConnective = false ∧ lacksRight rest.head? = false := by
          simpa using stays
        have spellsNot : token.isNot := by
          cases operator with
          | and | or => cases noConnective
          | not => exact isNot_of_operator? spells
        have keeps : token.isConnective = false := by
          rw [isConnective, spells]
          exact noConnective
        obtain ⟨kept, shape⟩ := dropDanglingFrom_some keeps rest
        refine .inr ⟨⟨token, by rw [shape]; rfl, spellsNot⟩, fun edge => ?_⟩
        rw [doublesNot_of_isNot spellsNot hasRight, edge]
        rfl

theorem atEdge_or_doublesNot (tokens : List Token) :
    (atEdge (dropDangling tokens) || doublesNot tokens) =
      (atEdge (tokens.dropWhile isOperator) || doublesNot tokens) := by
  rcases head?_dropDangling tokens with same | ⟨⟨kept, first, spellsNot⟩, doubles⟩
  · rw [atEdge, same, atEdge]
  · have inside : atEdge (dropDangling tokens) = false := by
      rw [atEdge, first]
      cases kept with
      | closing => cases spellsNot
      | keyword operator | symbol operator | operand text | phrase text | opening => rfl
    rw [inside]
    cases edge : atEdge (tokens.dropWhile isOperator) with
    | false => rfl
    | true => simp [doubles edge]

/-- What is left of tokens hangs exactly if a NOT held in front has operators only up to an edge
after it, or if a NOT is doubled further on. A held operator has its right side. -/
def HangsByDoubling (tokens : List Token) : Prop :=
  ∀ held : Option Token, (held.any isOperator → lacksRight tokens.head? = false) →
    hangs (dropDanglingFrom held tokens) =
      (held.any isNot && atEdge (tokens.dropWhile isOperator) || doublesNot tokens)

theorem HangsByDoubling.whole {tokens : List Token} (known : HangsByDoubling tokens) :
    hangs (dropDangling tokens) = doublesNot tokens :=
  known none (by simp)

theorem HangsByDoubling.nil : HangsByDoubling [] := by
  intro held hasRight
  have noOperator : held.any isOperator = false := by
    refine Bool.eq_false_iff.mpr fun spells => ?_
    cases hasRight spells
  have left := @hangs_append_held held [] (by simp [noOperator])
  rw [List.append_nil] at left
  rw [dropDanglingFrom, left, any_isNot_eq_false noOperator]
  rfl

theorem HangsByDoubling.other {token : Token} (other : token.operator? = none) {rest : List Token}
    (known : HangsByDoubling rest) : HangsByDoubling (token :: rest) := by
  intro held hasRight
  have noOperator : token.isOperator = false := isOperator_eq_false other
  have noConnective : token.isConnective = false := isConnective_eq_false other
  have noNot : token.isNot = false := isNot_eq_false other
  have inside (operates : held.any isOperator) : atEdge (token :: rest) = false := by
    have right := hasRight operates
    cases token with
    | closing => cases right
    | keyword operator | symbol operator | operand text | phrase text | opening => rfl
  have noEdge : (held.any isNot && atEdge (token :: rest)) = false := by
    cases operates : held.any isOperator with
    | false => rw [any_isNot_eq_false operates]; rfl
    | true => rw [inside operates, Bool.and_false]
  obtain ⟨kept, shape⟩ := dropDanglingFrom_some noConnective rest
  rw [dropDanglingFrom_other other, hangs_append_held (by rwa [shape]),
    known (some token) (by simp [noOperator]), List.dropWhile_cons, if_neg (by simp [noOperator]),
    noEdge, doublesNot_of_not_isNot noNot, Option.any_some, noNot]
  rfl

/-- No operator is held in front of a connective, as it would lack its right side. -/
theorem HangsByDoubling.connective {token : Token} (connective : token.isConnective)
    {rest : List Token} (known : HangsByDoubling rest) : HangsByDoubling (token :: rest) := by
  intro held hasRight
  have noOperator : held.any isOperator = false := by
    refine Bool.eq_false_iff.mpr fun operates => ?_
    have right := hasRight operates
    simp [lacksRight, connective] at right
  have noNot : token.isNot = false := isNot_eq_false_of_isConnective connective
  rw [dropDanglingFrom_connective connective, hangs_append_held (by simp [noOperator]),
    any_isNot_eq_false noOperator, doublesNot_of_not_isNot noNot, Bool.false_and, Bool.false_or]
  split
  case isTrue => exact known.whole
  case isFalse stays =>
    rw [Bool.or_eq_true, not_or, Bool.not_eq_true, Bool.not_eq_true] at stays
    rw [known (some token) fun _ => stays.2, Option.any_some, noNot]
    rfl

/-- A NOT that goes takes a connective along, but not a NOT: that one is left with what is left of
the rest after it. -/
theorem HangsByDoubling.not {token : Token} (spells : token.operator? = some .not)
    {rest : List Token} (known : HangsByDoubling rest) : HangsByDoubling (token :: rest) := by
  intro held hasRight
  have isOperator : token.isOperator := isOperator_of_operator? spells
  have isNot : token.isNot := isNot_of_operator? spells
  have noConnective : token.isConnective = false := isConnective_of_operator? spells
  rw [dropDanglingFrom_not spells, List.dropWhile_cons, if_pos isOperator]
  cases right : lacksRight rest.head? with
  | true =>
    rw [if_pos rfl, doublesNot_of_lacksRight right]
    cases held with
    | none => exact known.whole
    | some held =>
      rw [Option.any_some, Option.any_some]
      cases heldConnective : held.isConnective with
      | true =>
        rw [if_pos rfl, known.whole, isNot_eq_false_of_isConnective heldConnective]
        rfl
      | false =>
        rw [if_neg (by simp)]
        cases heldNot : held.isNot with
        | true =>
          have heldOperator : held.isOperator := by
            rw [Token.isOperator_eq, heldNot, Bool.or_true]
          calc hangs (held :: dropDangling rest)
            _ = (atEdge (dropDangling rest) || doublesNot rest) := by
              rw [hangs, heldOperator, known.whole, Bool.true_and]
            _ = (true && atEdge (rest.dropWhile Token.isOperator) || doublesNot rest) := by
              rw [atEdge_or_doublesNot, Bool.true_and]
        | false =>
          have noOperator : held.isOperator = false := by
            rw [Token.isOperator_eq, heldConnective, heldNot]
            rfl
          exact (hangs_of_not_isOperator noOperator _).trans known.whole
  | false =>
    obtain ⟨kept, shape⟩ := dropDanglingFrom_some noConnective rest
    have inside : atEdge (dropDanglingFrom (some token) rest) = false := by
      rw [shape, atEdge_cons, decide_eq_false_iff_not]
      intro equal
      subst equal
      cases spells
    rw [if_neg (by simp), hangs_append_held fun _ => inside, known (some token) fun _ => right,
      doublesNot_of_isNot isNot right, Option.any_some, isNot]
    cases held.any Token.isNot <;> simp

theorem hangsByDoubling (tokens : List Token) : HangsByDoubling tokens := by
  induction tokens with
  | nil => exact .nil
  | cons token rest ih =>
    cases spells : token.operator? with
    | none => exact .other spells ih
    | some operator =>
      cases operator with
      | not => exact .not spells ih
      | and | or => exact .connective (isConnective_of_operator? spells) ih

/-- Dropping operators leaves one at an edge exactly if a NOT is doubled. -/
theorem hangs_dropDangling (tokens : List Token) :
    hangs (dropDangling tokens) = doublesNot tokens :=
  (hangsByDoubling tokens).whole

/-! ## Operators that stay -/

theorem lacksLeft_of_endsItem {token : Token} (ends : token.endsItem) :
    lacksLeft (some token) = false := by
  cases token with
  | operand text | phrase text | closing => rfl
  | keyword operator | symbol operator | opening => cases ends

theorem lacksRight_of_takesOperator {token : Token} (takes : token.takesOperator) :
    lacksRight (some token) = false := by
  cases token with
  | operand text | phrase text | opening => rfl
  | closing => cases takes
  | keyword operator | symbol operator =>
    cases operator with
    | not => rfl
    | and | or => cases takes

theorem dropDanglingFrom_item {last next : Token} (other : next.operator? = none)
    (back : List Token) :
    dropDanglingFrom (some last) (next :: back) = last :: dropDangling (next :: back) := by
  unfold dropDangling
  rw [dropDanglingFrom_other other, dropDanglingFrom_other other]
  rfl

/-- An operator stays in front of an item that starts, if it is a connective also for what is
held. -/
theorem dropDanglingFrom_supported {token next : Token} (operates : token.isOperator)
    {held : Option Token} (hasLeft : token.isConnective → lacksLeft held = false)
    (starts : next.startsItem) (back : List Token) :
    dropDanglingFrom held (token :: next :: back) =
      held.toList ++ token :: dropDangling (next :: back) := by
  have hasRight : lacksRight (some next) = false :=
    lacksRight_of_takesOperator (by rw [takesOperator, starts, Bool.true_or])
  have goesOn := @dropDanglingFrom_item token next (operator?_of_startsItem starts) back
  cases connective : token.isConnective with
  | true =>
    rw [dropDanglingFrom_connective connective, hasLeft connective, List.head?_cons, hasRight,
      if_neg (by simp), goesOn]
  | false =>
    have spells : token.operator? = some .not := by
      rw [isOperator_eq, connective, Bool.false_or] at operates
      exact beq_iff_eq.mp operates
    rw [dropDanglingFrom_not spells, List.head?_cons, hasRight, if_neg (by simp), goesOn]

/-- Well placed operators have their sides. Nothing is held only where the tokens begin, which is
where a bracket would stand. -/
theorem dropDanglingFrom_eq {tokens : List Token} {before : Token} {held : Option Token}
    (holds : held = some before ∨ held = none ∧ before = .opening)
    (chain : (before :: (tokens ++ [.closing])).IsChain Fits) :
    dropDanglingFrom held tokens = held.toList ++ tokens := by
  induction tokens generalizing before held with
  | nil => rw [dropDanglingFrom, List.append_nil]
  | cons token rest ih =>
    rw [List.cons_append, List.isChain_cons_cons] at chain
    obtain ⟨fits, restChain⟩ := chain
    have goesOn : dropDanglingFrom (some token) rest = token :: rest := ih (.inl rfl) restChain
    cases spells : token.operator? with
    | none => rw [dropDanglingFrom_other spells, goesOn]
    | some operator =>
      have isOperator : token.isOperator := isOperator_of_operator? spells
      have hasRight : lacksRight rest.head? = false := by
        cases rest with
        | nil =>
          rw [List.nil_append, List.isChain_cons_cons] at restChain
          cases restChain.1.2 isOperator
        | cons next rest =>
          rw [List.cons_append, List.isChain_cons_cons] at restChain
          exact lacksRight_of_takesOperator (restChain.1.2 isOperator)
      cases operator with
      | not => rw [dropDanglingFrom_not spells, hasRight, if_neg (by simp), goesOn]
      | and | or =>
        have connective : token.isConnective := isConnective_of_operator? spells
        have hasLeft : lacksLeft held = false := by
          rcases holds with rfl | ⟨-, rfl⟩
          · exact lacksLeft_of_endsItem (fits.1 connective)
          · cases fits.1 connective
        rw [dropDanglingFrom_connective connective, hasLeft, hasRight, if_neg (by simp), goesOn]

/-- Among well placed operators none is dropped. -/
theorem dropDangling_eq_self {tokens : List Token} (placed : WellPlaced tokens) :
    dropDangling tokens = tokens :=
  dropDanglingFrom_eq (.inr ⟨rfl, rfl⟩) placed.isChain

end FullTextQuery.Prefixed
