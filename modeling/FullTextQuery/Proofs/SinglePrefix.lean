import FullTextQuery.Proofs.OperatorItems

/-!
# One operator for each item

After all passes every word, phrase and group has exactly one operator in front of it. Reducing
leaves operators as symbols of which no two are neighbours, and filling the gaps puts a symbol where
an item has none. Neither asks where the tokens come from, so `singlyPrefixed_passes` holds of any
tokens, also where brackets do not balance.
-/

namespace FullTextQuery

namespace Prefixed

open Token

/-- Every word, phrase and group has exactly one operator, and it is spelled by its symbol. -/
structure SinglyPrefixed (tokens : List Token) : Prop where
  /-- No operator is spelled as a word. -/
  noKeyword : ∀ operator, .keyword operator ∉ tokens
  /-- Of two neighbours at most one is an operator. -/
  apart : ∀ before left right after, tokens = before ++ left :: right :: after →
    left.isOperator → right.isOperator = false
  /-- An item has a symbol right before it, and no operator before that one. -/
  one : ∀ before item after, tokens = before ++ item :: after → item.startsItem →
    ∃ front operator, before = front ++ [.symbol operator] ∧
      ∀ token ∈ front.getLast?, token.isOperator = false

/-- Every item has an operator right before it. -/
theorem SinglyPrefixed.led {tokens : List Token} (prefixed : SinglyPrefixed tokens)
    (before : List Token) (item : Token) (after : List Token)
    (parts : tokens = before ++ item :: after) (starts : item.startsItem) :
    before.getLast?.any isOperator := by
  obtain ⟨front, operator, rfl, -⟩ := prefixed.one before item after parts starts
  rw [List.getLast?_concat]
  rfl

/-! ## Symbols -/

theorem eq_symbol_of_mem_reduce {tokens : List Token} {token : Token}
    (member : token ∈ reduce tokens) (spells : token.isOperator) :
    ∃ operator, token = .symbol operator := by
  induction tokens with
  | nil => cases member
  | cons first rest ih =>
    cases firstSpells : first.operator? with
    | none =>
      rw [reduce, firstSpells] at member
      rcases List.mem_cons.mp member with rfl | later
      · rw [isOperator, firstSpells] at spells
        cases spells
      · exact ih later
    | some operator =>
      rcases reduce_operator firstSpells rest with ⟨next, more, reduced, shape⟩ | ⟨-, shape⟩
      · rw [shape] at member
        rcases List.mem_cons.mp member with rfl | later
        · exact ⟨_, rfl⟩
        · exact ih (by rw [reduced]; exact List.mem_cons_of_mem _ later)
      · rw [shape] at member
        rcases List.mem_cons.mp member with rfl | later
        · exact ⟨_, rfl⟩
        · exact ih later

theorem mem_supplyAndFrom {afterOperator : Bool} {tokens : List Token} {token : Token}
    (member : token ∈ supplyAndFrom afterOperator tokens) :
    token = .symbol .and ∨ token ∈ tokens := by
  induction tokens generalizing afterOperator with
  | nil => cases member
  | cons first rest ih =>
    rw [supplyAndFrom] at member
    split at member
    · rcases List.mem_cons.mp member with rfl | later
      · exact .inr List.mem_cons_self
      · exact (ih later).imp_right (List.mem_cons_of_mem _)
    · rcases List.mem_cons.mp member with rfl | inRest
      · exact .inl rfl
      · rcases List.mem_cons.mp inRest with rfl | later
        · exact .inr List.mem_cons_self
        · exact (ih later).imp_right (List.mem_cons_of_mem _)

/-! ## Items -/

/-- The start of an item has an operator right before it. -/
def Announced (left right : Token) : Prop :=
  right.startsItem → left.isOperator

/-- Filling the gaps leaves no item without an operator. What stands before the tokens decides
whether the first one is a gap. -/
theorem isChain_announced_supplyAndFrom (before : Token) (tokens : List Token) :
    (before :: supplyAndFrom before.isOperator tokens).IsChain Announced := by
  induction tokens generalizing before with
  | nil => exact .singleton before
  | cons token rest ih =>
    rw [supplyAndFrom]
    split
    case isTrue covered =>
      refine .cons_cons (fun starts => ?_) (ih token)
      rw [Bool.or_eq_true, Bool.or_eq_true, decide_eq_true_eq] at covered
      rcases covered with (spells | rfl) | operatorBefore
      · rw [isOperator, operator?_of_startsItem starts] at spells
        cases spells
      · cases starts
      · exact operatorBefore
    case isFalse fills =>
      have noOperator : token.isOperator = false := by
        rw [Bool.or_eq_true, Bool.or_eq_true, not_or, not_or] at fills
        exact Bool.eq_false_iff.mpr fills.1.1
      have walk := ih token
      rw [noOperator] at walk
      exact .cons_cons (fun starts => by cases starts) (.cons_cons (fun _ => rfl) walk)

/-- The prefixed tokens of any tokens have one operator for each item. -/
theorem singlyPrefixed_passes (tokens : List Token) :
    SinglyPrefixed (Pass.runAll Query.structuralPasses tokens) := by
  obtain ⟨spelled, runs⟩ : ∃ spelled : List Token,
      Pass.runAll Query.structuralPasses tokens = supplyAnd (reduce spelled) := ⟨_, rfl⟩
  rw [runs]
  have symbols {token : Token} (member : token ∈ supplyAnd (reduce spelled))
      (spells : token.isOperator) : ∃ operator, token = .symbol operator := by
    rcases mem_supplyAndFrom member with isAnd | reduced
    · exact ⟨.and, isAnd⟩
    · exact eq_symbol_of_mem_reduce reduced spells
  have apart : (supplyAnd (reduce spelled)).IsChain Apart :=
    isChain_supplyAnd (isChain_reduce spelled).1
  have announced : (Token.opening :: supplyAnd (reduce spelled)).IsChain Announced :=
    isChain_announced_supplyAndFrom .opening (reduce spelled)
  rw [List.isChain_iff_forall_rel_of_append_cons_cons] at apart announced
  refine ⟨fun operator member => ?_, fun before left right after parts => ?_,
    fun before item after parts starts => ?_⟩
  · obtain ⟨other, impossible⟩ := symbols member rfl
    cases impossible
  · exact apart parts
  · rcases List.eq_nil_or_concat before with rfl | ⟨front, left, rfl⟩
    · have atStart : Announced .opening item := @announced _ _ [] after (by rw [parts]; rfl)
      cases atStart starts
    · have spells : left.isOperator :=
        @announced left item (.opening :: front) after (by rw [parts]; simp) starts
      obtain ⟨operator, rfl⟩ := symbols (by rw [parts]; simp) spells
      refine ⟨front, operator, List.concat_eq_append, fun token isLast => ?_⟩
      rcases List.eq_nil_or_concat front with rfl | ⟨front, last, rfl⟩
      · cases isLast
      · obtain rfl : last = token := by simpa using isLast
        refine Bool.eq_false_iff.mpr fun doubled => ?_
        have single := @apart last (.symbol operator) front (item :: after)
          (by rw [parts]; simp) doubled
        cases single

end Prefixed

namespace Query

open Prefixed Term

/-- In the prefixed tokens of every accepted query, each word, phrase and group has exactly one
operator: no keyword is left, no two operators are neighbours, and every item has a symbol right
before it. -/
theorem singlyPrefixed_of_convert (query output : Text) (accepted : convert query = .ok output) :
    let prefixed := Pass.runAll structuralPasses (tokensOfClean (CleanText.ofRaw query))
    (trace query).snapshot? .prefixed = some ⟨.prefixed, prefixed.map Token.text⟩ ∧
      SinglyPrefixed prefixed := by
  obtain ⟨even, balance, -⟩ := convert_eq_ok.mp accepted
  exact ⟨snapshot?_prefixed even balance, singlyPrefixed_passes _⟩

/-- A bracket with a wildcard is a word, which leaves the other bracket of its group alone. -/
theorem singlyPrefixed_of_convert_wildcard :
    let query := "not (*a and) or (b)* not not".toList
    let prefixed := Pass.runAll structuralPasses (tokensOfClean (CleanText.ofRaw query))
    convert query = .ok "-(* +a) (+b +)* -".toList ∧
      (trace query).snapshot? .prefixed = some ⟨.prefixed, prefixed.map Token.text⟩ ∧
      SinglyPrefixed prefixed := by
  intro query prefixed
  have accepted : convert query = .ok "-(* +a) (+b +)* -".toList := by decide
  exact ⟨accepted, singlyPrefixed_of_convert query _ accepted⟩

end Query

end FullTextQuery
