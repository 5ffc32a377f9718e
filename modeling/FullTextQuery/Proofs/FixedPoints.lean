import FullTextQuery.Proofs.Sequences

/-!
# Passes that change nothing

Where every item has its symbol and every operator its item, the passes leave the tokens as they
are, unless one is the mark of OR (`passes_eq_self`). They do change them on the way: an AND that a
query or a group begins with has no left side, so it is dropped (`unled`), and it comes back when
AND is supplied. A NOT needs no left side and stays, and no token is a keyword that could be handed
out.
-/

namespace FullTextQuery.Prefixed

open Token

/-! ## Leading ANDs -/

/-- Drops the symbols of AND that the tokens and their groups begin with. `begins` says that a group
or the query begins here. -/
def unled (begins : Bool) : List Token → List Token
  | [] => []
  | token :: rest =>
    if begins && token = .symbol .and then unled false rest
    else token :: unled (token = .opening) rest

theorem unled_other {token : Token} (other : token ≠ .symbol .and) (begins : Bool)
    (rest : List Token) :
    unled begins (token :: rest) = token :: unled (token = .opening) rest := by
  rw [unled, if_neg (by simp [other])]

/-- In front of an item there is no leading AND. -/
theorem unled_item {item : Token} (starts : item.startsItem) (begins : Bool) (rest : List Token) :
    unled begins (item :: rest) = item :: unled (item = .opening) rest := by
  refine unled_other ?_ begins rest
  rintro rfl
  cases starts

/-- A token list in which all operators are the symbols of AND and NOT. -/
def SymbolsOnly (tokens : List Token) : Prop :=
  ∀ token ∈ tokens, token.isOperator → token = .symbol .and ∨ token = .symbol .not

section Leading

variable {tokens : List Token} {before : Token}
  (chain : (before :: (tokens ++ [.closing])).IsChain Paired) (symbols : SymbolsOnly tokens)

/-- After an operator an item starts. -/
theorem head?_of_isOperator {token : Token} (spells : token.isOperator)
    (chain : (token :: (tokens ++ [.closing])).IsChain Paired) :
    ∃ item rest, tokens = item :: rest ∧ item.startsItem := by
  cases tokens with
  | nil =>
    have paired : Paired token .closing := (List.isChain_cons_cons.mp chain).1
    unfold Paired at paired
    rw [spells] at paired
    cases paired
  | cons item rest =>
    have paired : Paired token item := (List.isChain_cons_cons.mp chain).1
    unfold Paired at paired
    exact ⟨item, rest, rfl, by rw [← paired, spells]⟩

include chain symbols

/-- Dropping operators drops the leading ANDs. What is held in front has been read already. -/
theorem dropDanglingFrom_eq_unled (held : Option Token) :
    dropDanglingFrom held tokens = held.toList ++ unled (lacksLeft held) tokens := by
  induction tokens generalizing held before with
  | nil => rw [dropDanglingFrom, unled, List.append_nil]
  | cons token rest ih =>
    have restChain : (token :: (rest ++ [.closing])).IsChain Paired := chain.tail
    have walk := ih restChain fun next member => symbols next (List.mem_cons_of_mem _ member)
    cases spells : token.operator? with
    | none =>
      have other : token ≠ .symbol .and := by
        rintro rfl
        cases spells
      have lacks : lacksLeft (some token) = decide (token = .opening) := by
        rw [lacksLeft, isConnective_eq_false spells, Bool.false_or]
      rw [dropDanglingFrom_other spells, walk, lacks, unled_other other]
      rfl
    | some operator =>
      have isOperator := isOperator_of_operator? spells
      obtain ⟨item, more, rfl, starts⟩ := head?_of_isOperator isOperator restChain
      have hasRight : lacksRight (item :: more).head? = false :=
        lacksRight_of_takesOperator (by rw [takesOperator, starts, Bool.true_or])
      -- What is held matters to an operator only, and an item comes next.
      have after (next : Option Token) : dropDanglingFrom next (item :: more) =
          next.toList ++ item :: unled (item = .opening) more := by
        rw [walk, unled_item starts]
      rcases symbols token List.mem_cons_self isOperator with rfl | rfl
      · rw [dropDanglingFrom_connective rfl, hasRight, Bool.or_false, dropDangling, after, after,
          unled, unled_item starts, unled_item starts]
        cases lacksLeft held <;> rfl
      · rw [dropDanglingFrom_not rfl, hasRight, if_neg (by simp), after, unled_other (by simp),
          unled_item starts]
        rfl

/-- No two operators meet, so reducing changes nothing. -/
theorem reduce_unled (begins : Bool) : reduce (unled begins tokens) = unled begins tokens := by
  induction tokens generalizing begins before with
  | nil => rfl
  | cons token rest ih =>
    have restChain : (token :: (rest ++ [.closing])).IsChain Paired := chain.tail
    have walk := ih restChain fun next member => symbols next (List.mem_cons_of_mem _ member)
    rw [unled]
    split
    case isTrue => exact walk false
    case isFalse =>
      cases spells : token.operator? with
      | none => rw [reduce_of_not_isOperator spells, walk]
      | some operator =>
        have isOperator := isOperator_of_operator? spells
        obtain ⟨item, more, rfl, starts⟩ := head?_of_isOperator isOperator restChain
        have isSymbol : token = .symbol operator := by
          rcases symbols token List.mem_cons_self isOperator with rfl | rfl
          · rw [← Option.some.inj spells]
          · rw [← Option.some.inj spells]
        have rest := walk (token = .opening)
        rw [unled_item starts] at rest ⊢
        rcases reduce_operator spells (item :: unled (item = .opening) more) with
          ⟨next, tail, first, -⟩ | ⟨-, reduced⟩
        · rw [rest] at first
          obtain ⟨rfl, -⟩ := List.cons.inj first
          cases starts
        · rw [reduced, rest, isSymbol]

/-- Supplying AND puts the leading ANDs back. -/
theorem supplyAndFrom_unled (begins : Bool) (free : begins → before.isOperator = false) :
    supplyAndFrom before.isOperator (unled begins tokens) = tokens := by
  induction tokens generalizing begins before with
  | nil => rfl
  | cons token rest ih =>
    have paired : Paired before token := (List.isChain_cons_cons.mp chain).1
    have restChain : (token :: (rest ++ [.closing])).IsChain Paired := chain.tail
    have walk := ih restChain fun next member => symbols next (List.mem_cons_of_mem _ member)
    rw [unled]
    split
    case isTrue leads =>
      rw [Bool.and_eq_true, decide_eq_true_eq] at leads
      obtain ⟨starting, rfl⟩ := leads
      obtain ⟨item, more, rfl, starts⟩ := head?_of_isOperator rfl restChain
      have supplied := walk false (by simp)
      have spells : (symbol .and).isOperator = true := rfl
      have other := isOperator_of_startsItem starts
      have notClosing : item ≠ .closing := by
        rintro rfl
        cases starts
      rw [unled_item starts, supplyAndFrom, spells, Bool.or_true, if_pos rfl, other] at supplied
      rw [unled_item starts, supplyAndFrom, free starting, other, if_neg (by simp [notClosing]),
        supplied]
    case isFalse =>
      have passes : token.isOperator || token = .closing || before.isOperator := by
        unfold Paired at paired
        rw [paired]
        cases token <;> rfl
      rw [supplyAndFrom, if_pos passes, walk _ fun opens => ?_]
      rw [of_decide_eq_true opens]
      rfl

end Leading

/-! ## No keywords -/

/-- Without its keyword a connective is handed to nothing. -/
theorem distribute_eq_self {operator : Operator} {tokens : List Token}
    (absent : .keyword operator ∉ tokens) : distribute operator tokens = tokens := by
  have walk (tokens written : List Token) (free : .keyword operator ∉ tokens) :
      tokens.foldl (handOut operator) written = tokens.reverse ++ written := by
    induction tokens generalizing written with
    | nil => rfl
    | cons token rest ih =>
      rw [List.mem_cons, not_or] at free
      rw [List.foldl_cons, handOut_other (Ne.symm free.1), ih _ free.2, List.reverse_cons,
        List.append_assoc]
      rfl
  rw [distribute, walk tokens [] absent, List.append_nil, List.reverse_reverse]

theorem spellNot_eq_self {tokens : List Token} (absent : .keyword .not ∉ tokens) :
    spellNot tokens = tokens := by
  have same : ∀ token ∈ tokens, (if token.isNot then .symbol .not else token) = id token := by
    intro token member
    split
    case isTrue spellsNot =>
      have spells : token.operator? = some .not := by simpa [isNot] using spellsNot
      cases token with
      | keyword operator =>
        obtain rfl := Option.some.inj spells
        exact absurd member absent
      | symbol operator => rw [Option.some.inj spells]; rfl
      | operand text | phrase text | opening | closing => cases spells
    case isFalse => rfl
  exact (List.map_congr_left same).trans (List.map_id tokens)

theorem unled_sublist (begins : Bool) (tokens : List Token) :
    (unled begins tokens).Sublist tokens := by
  induction tokens generalizing begins with
  | nil => exact .slnil
  | cons token rest ih =>
    rw [unled]
    split
    · exact (ih false).cons token
    · exact (ih _).cons_cons token

/-! ## All passes -/

/-- The passes leave tokens in which every item has its symbol and every operator its item. -/
theorem passes_eq_self {tokens : List Token} (prefixed : SinglyPrefixed tokens)
    (items : HaveItems tokens) (noOr : .symbol .or ∉ tokens) :
    Pass.runAll Query.structuralPasses tokens = tokens := by
  have chain := isChain_paired prefixed.led items
  have symbols : SymbolsOnly tokens := by
    intro token member spells
    cases token with
    | symbol operator =>
      cases operator with
      | and => exact .inl rfl
      | not => exact .inr rfl
      | or => exact absurd member noOr
    | keyword operator => exact absurd member (prefixed.noKeyword operator)
    | operand text | phrase text | opening | closing => cases spells
  have absent (operator : Operator) : .keyword operator ∉ unled true tokens := fun member =>
    prefixed.noKeyword operator ((unled_sublist true tokens).subset member)
  have dropped : dropDangling tokens = unled true tokens :=
    dropDanglingFrom_eq_unled chain symbols none
  rw [passes_eq, dropped, distribute_eq_self (absent .or), distribute_eq_self (absent .and),
    spellNot_eq_self (absent .not), finish, reduce_unled chain symbols]
  exact supplyAndFrom_unled chain symbols true fun _ => rfl

end FullTextQuery.Prefixed
