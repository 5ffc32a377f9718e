import FullTextQuery.Proofs.Forest
import FullTextQuery.Proofs.Placement

/-!
# One rule for prefixes

Five passes turn well placed operators into prefixes: each connective is handed out, NOT is
spelled by its symbol, operators that meet are reduced, and AND fills the gaps. `prefixItems` is
the same as one rule: what stands in front of an item, and what comes right after it, decide its
only prefix. `passes_eq_prefixItems` says so for nested tokens, by induction on their forest.
-/

namespace FullTextQuery.Prefixed

open Token

/-! ## The rule -/

/-- The token after the bracket that closes the innermost of `depth + 1` open groups. -/
def afterGroup (depth : Nat) : List Token → Option Token
  | [] => none
  | token :: rest =>
    match token, depth with
    | .opening, _ => afterGroup (depth + 1) rest
    | .closing, 0 => rest.head?
    | .closing, outer + 1 => afterGroup outer rest
    | _, _ => afterGroup depth rest

/-- The token right after the item that begins with `token`. -/
def afterItem (token : Token) (rest : List Token) : Option Token :=
  if token = .opening then afterGroup 0 rest else rest.head?

/-- The operator of an item, given the run of operators before it and the token after it. -/
def ruling (run : List Operator) (after : Option Token) : Operator :=
  if .not ∈ run then .not
  else if .or ∈ run ∨ after = some (.keyword .or) then .or
  else .and

/-- Drops the operators and gives every item the one that rules it. `run` is the run of operators
right before the rest. -/
def prefixItemsFrom (run : List Operator) : List Token → List Token
  | [] => []
  | token :: rest =>
    match token.operator? with
    | some operator => prefixItemsFrom (run ++ [operator]) rest
    | none =>
      if token = .closing then .closing :: prefixItemsFrom [] rest
      else .symbol (ruling run (afterItem token rest)) :: token :: prefixItemsFrom [] rest

/-- Drops the operators and puts in front of every word, phrase and group the symbol of the one
that rules it. -/
def prefixItems (tokens : List Token) : List Token :=
  prefixItemsFrom [] tokens

theorem prefixItemsFrom_operator {token : Token} {operator : Operator}
    (spells : token.operator? = some operator) (run : List Operator) (rest : List Token) :
    prefixItemsFrom run (token :: rest) = prefixItemsFrom (run ++ [operator]) rest := by
  rw [prefixItemsFrom, spells]

theorem prefixItemsFrom_closing (run : List Operator) (rest : List Token) :
    prefixItemsFrom run (.closing :: rest) = .closing :: prefixItems rest := rfl

theorem prefixItemsFrom_item {token : Token} (starts : token.startsItem) (run : List Operator)
    (rest : List Token) :
    prefixItemsFrom run (token :: rest) =
      .symbol (ruling run (afterItem token rest)) :: token :: prefixItems rest := by
  cases token with
  | operand text | phrase text | opening => rfl
  | keyword operator | symbol operator | closing => cases starts

/-- The brackets of a whole forest close inside it, so the token after the group does not depend
on them. -/
theorem afterGroup_forest (forest : Forest) (depth : Nat) (tail : List Token) :
    afterGroup depth (forest.flatten ++ tail) = afterGroup depth tail := by
  induction forest generalizing depth tail with
  | nil => rfl
  | leaf token rest ih =>
    obtain ⟨token, notOpening, notClosing⟩ := token
    rw [Forest.flatten_leaf, List.cons_append, ← ih depth tail]
    cases token with
    | opening => exact absurd rfl notOpening
    | closing => exact absurd rfl notClosing
    | operand text | phrase text => rfl
    | keyword operator | symbol operator => rfl
  | group inner rest innerIH restIH =>
    have shape : (Forest.group inner rest).flatten ++ tail =
        .opening :: (inner.flatten ++ .closing :: (rest.flatten ++ tail)) := by simp
    calc afterGroup depth ((Forest.group inner rest).flatten ++ tail)
      _ = afterGroup (depth + 1) (inner.flatten ++ .closing :: (rest.flatten ++ tail)) := by
        rw [shape, afterGroup]
      _ = afterGroup (depth + 1) (.closing :: (rest.flatten ++ tail)) := innerIH _ _
      _ = afterGroup depth (rest.flatten ++ tail) := by rw [afterGroup]
      _ = afterGroup depth tail := restIH _ _

/-! ## Runs of operators -/

/-- The strongest of the operators in a run; AND if there are none. -/
def strongest (run : List Operator) : Operator :=
  run.foldr Operator.stronger .and

theorem strongest_eq (run : List Operator) :
    strongest run = if .not ∈ run then .not else if .or ∈ run then .or else .and := by
  induction run with
  | nil => rfl
  | cons operator run ih =>
    have step : strongest (operator :: run) = operator.stronger (strongest run) := rfl
    rw [step, ih]
    cases operator <;> by_cases hasNot : Operator.not ∈ run <;>
      by_cases hasOr : Operator.or ∈ run <;> simp [hasNot, hasOr, Operator.stronger]

/-- The operators that tokens spell. -/
def operators (tokens : List Token) : List Operator :=
  tokens.filterMap Token.operator?

theorem operators_append (left right : List Token) :
    operators (left ++ right) = operators left ++ operators right :=
  List.filterMap_append

theorem reduce_of_not_isOperator {token : Token} (other : token.operator? = none)
    (rest : List Token) : reduce (token :: rest) = token :: reduce rest := by
  rw [reduce, other]

/-- A run of operators before an item becomes one symbol. -/
theorem reduce_run {run : List Token} (nonempty : run ≠ [])
    (allOperators : ∀ token ∈ run, token.isOperator) {item : Token} (other : item.operator? = none)
    (rest : List Token) :
    reduce (run ++ item :: rest) =
      .symbol (strongest (operators run)) :: item :: reduce rest := by
  induction run with
  | nil => exact absurd rfl nonempty
  | cons token run ih =>
    obtain ⟨operator, spells⟩ :=
      Option.isSome_iff_exists.mp (allOperators token List.mem_cons_self)
    have value : operators (token :: run) = operator :: operators run := by
      simp [operators, spells]
    rw [List.cons_append, reduce, spells, value]
    cases run with
    | nil =>
      rw [List.nil_append, reduce_of_not_isOperator other]
      cases item with
      | symbol _ => cases other
      | operand _ | phrase _ | keyword _ => cases operator <;> rfl
      | opening | closing => cases operator <;> rfl
    | cons next run =>
      rw [ih (by simp) fun token member => allOperators token (List.mem_cons_of_mem _ member)]
      rfl

/-- What reducing runs and filling the gaps with AND makes of tokens. -/
def finish (tokens : List Token) : List Token :=
  supplyAnd (reduce tokens)

theorem finish_item {run : List Token} (allOperators : ∀ token ∈ run, token.isOperator)
    {item : Token} (starts : item.startsItem) (rest : List Token) :
    finish (run ++ item :: rest) =
      .symbol (strongest (operators run)) :: item :: finish rest := by
  have other := operator?_of_startsItem starts
  have after (gap : Bool) : supplyAndFrom gap (item :: reduce rest) =
      if gap then item :: finish rest else .symbol .and :: item :: finish rest := by
    cases item with
    | operand _ | phrase _ | opening => cases gap <;> rfl
    | keyword _ | symbol _ | closing => cases starts
  by_cases empty : run = []
  · subst empty
    rw [List.nil_append, finish, reduce_of_not_isOperator other, supplyAnd, after]
    rfl
  · rw [finish, reduce_run empty allOperators other, supplyAnd, supplyAndFrom]
    simp only [isOperator, operator?, Option.isSome_some, Bool.true_or, if_true]
    rw [after]
    rfl

theorem finish_closing (rest : List Token) :
    finish (.closing :: rest) = .closing :: finish rest := rfl

/-! ## Handing out both connectives -/

/-- The brackets of a group part its neighbours into those inside and those after it. -/
theorem isChain_group {related : Token → Token → Prop} {before : Token} {inner rest : Forest}
    (chain : (before :: ((Forest.group inner rest).flatten ++ [.closing])).IsChain related) :
    (.opening :: (inner.flatten ++ [.closing])).IsChain related ∧
      (.closing :: (rest.flatten ++ [.closing])).IsChain related := by
  have parts : before :: ((Forest.group inner rest).flatten ++ [.closing]) =
      [before] ++ .opening :: (inner.flatten ++ .closing :: (rest.flatten ++ [.closing])) := by
    simp
  rw [parts, List.isChain_split, List.isChain_cons_split] at chain
  exact chain.2

/-- A forest with both connectives handed out and NOT spelled by its symbol. -/
def handed (forest : Forest) : List Token :=
  spellNot ((forest.distribute .or).distribute .and).flatten

/-- The symbol that an item gets from the connective right after it. -/
def handedFrom (after : Forest) : List Token :=
  if after.startsWith .or then [.symbol .or]
  else if after.startsWith .and then [.symbol .and]
  else []

/-- Where a connective comes after the end of an item only, no level begins with one that does not
come after an item. -/
theorem not_startsWith_of_isChain {related : Token → Token → Prop}
    (ends : ∀ left right, related left right → right.isConnective → left.endsItem)
    {token : Token} {after : Forest} {operator : Operator}
    (connective : operator.isConnective) (noEnd : token.endsItem = false)
    (chain : (token :: (after.flatten ++ [.closing])).IsChain related) :
    after.startsWith operator = false := by
  cases after with
  | nil | group inner rest => rfl
  | leaf next rest =>
    have neighbours : related token next.1 := by
      rw [Forest.flatten_leaf, List.cons_append, List.isChain_cons_cons] at chain
      exact chain.1
    by_contra starts
    have isKeyword : next.1 = .keyword operator := by
      simpa using starts
    have ended : token.endsItem :=
      ends token next.1 neighbours (by rwa [isKeyword, isConnective_keyword])
    rw [noEnd] at ended
    cases ended

theorem Fits.not_startsWith {token : Token} {after : Forest} {operator : Operator}
    (connective : operator.isConnective) (noEnd : token.endsItem = false)
    (chain : (token :: (after.flatten ++ [.closing])).IsChain Fits) :
    after.startsWith operator = false :=
  not_startsWith_of_isChain (fun _ _ fits => fits.1) connective noEnd chain

/-- Handing OR out does not hide an AND at the start of well placed tokens: an OR symbol goes in
front of items only. -/
theorem startsWith_and_distribute_or {before : Token} {forest : Forest}
    (chain : (before :: (forest.flatten ++ [.closing])).IsChain Fits) :
    (forest.distribute .or).startsWith .and = forest.startsWith .and := by
  cases forest with
  | nil => rfl
  | group inner rest =>
    rw [Forest.distribute, Forest.handTo]
    cases rest.startsWith .or <;> rfl
  | leaf token rest =>
    rw [Forest.flatten_leaf, List.cons_append] at chain
    rw [Forest.distribute, Forest.handTo]
    by_cases isAnd : token.1 = .keyword .and
    · have noOr : rest.startsWith .or = false :=
        Fits.not_startsWith rfl (by rw [isAnd]; rfl) chain.tail
      simp [noOr, Forest.spellLeaf, isAnd]
    · cases rest.startsWith .or <;> by_cases isOr : token.1 = .keyword .or <;>
        simp [Forest.spellLeaf, Forest.symbolLeaf, isAnd, isOr]

/-- The symbols that go in front of one node do not depend on which connective is handed out
first. -/
theorem distribute_handTo_or {node : Forest} (noAnd : node.startsWith .and = false)
    (after : Forest) :
    (Forest.handTo .or after node).distribute .and =
      Forest.handTo .or after (node.distribute .and) := by
  rw [Forest.handTo, Forest.handTo]
  split
  · simp [Forest.distribute, Forest.handTo, noAnd]
  · rfl

theorem startsWith_and_of_or {forest : Forest} (orStarts : forest.startsWith .or) :
    forest.startsWith .and = false := by
  cases forest with
  | nil | group inner rest => rfl
  | leaf token rest =>
    have isOr : token.1 = .keyword .or := by simpa using orStarts
    simp [isOr]

/-- A node gets at most one symbol, as only one keyword can come right after it. -/
theorem flatten_handTo_handTo {after next : Forest}
    (keepsAnd : next.startsWith .and = after.startsWith .and) (node : Forest) :
    (Forest.handTo .or after (Forest.handTo .and next node)).flatten =
      handedFrom after ++ node.flatten := by
  rw [Forest.handTo, Forest.handTo, keepsAnd, handedFrom]
  cases orNext : after.startsWith .or with
  | false => cases after.startsWith .and <;> rfl
  | true => rw [startsWith_and_of_or orNext]; rfl

theorem spellNot_handedFrom (after : Forest) (tokens : List Token) :
    spellNot (handedFrom after ++ tokens) = handedFrom after ++ spellNot tokens := by
  rw [handedFrom]
  cases after.startsWith .or <;> cases after.startsWith .and <;> rfl

theorem isOperator_of_mem_handedFrom {run : List Token}
    (allOperators : ∀ token ∈ run, token.isOperator) {after : Forest} :
    ∀ token ∈ run ++ handedFrom after, token.isOperator := by
  intro token member
  rcases List.mem_append.mp member with inRun | isHanded
  · exact allOperators token inRun
  · rw [handedFrom] at isHanded
    split at isHanded
    · rw [List.mem_singleton.mp isHanded]
      rfl
    · split at isHanded
      · rw [List.mem_singleton.mp isHanded]
        rfl
      · cases isHanded

/-- Where neither connective begins a level, handing them out over the flat list is handing them
out on the forest. -/
theorem flatten_handed {forest : Forest} (orOpens : forest.GroupsOpen .or)
    (orStarts : forest.startsWith .or = false) (andOpens : forest.GroupsOpen .and)
    (andStarts : (forest.distribute .or).startsWith .and = false) :
    spellNot (distribute .and (distribute .or forest.flatten)) = handed forest := by
  rw [distribute_flatten orOpens orStarts, distribute_flatten andOpens.distribute andStarts]
  rfl

/-- An item that is one token gets the symbol of the connective right after it. -/
theorem handed_item {token : Leaf} (starts : token.1.startsItem) {rest : Forest}
    (chain : (token.1 :: (rest.flatten ++ [.closing])).IsChain Fits) :
    handed (.leaf token rest) = handedFrom rest ++ token.1 :: handed rest := by
  have other := operator?_of_startsItem starts
  have notKeyword (operator : Operator) : token.1 ≠ .keyword operator := by
    intro isKeyword
    rw [isKeyword] at other
    cases other
  have spelled (operator : Operator) : Forest.spellLeaf operator token = token :=
    if_neg (notKeyword operator)
  have notNot : token.1.isNot = false := isNot_eq_false other
  rw [handed, Forest.distribute, spelled, distribute_handTo_or (by simp [notKeyword]),
    Forest.distribute, spelled, flatten_handTo_handTo (startsWith_and_distribute_or chain),
    spellNot_handedFrom, Forest.flatten_leaf, spellNot, List.map_cons, notNot]
  rfl

/-- A group gets the symbol of the connective right after it, and inside it the connectives are
handed out by themselves. -/
theorem handed_group {inner rest : Forest}
    (chain : (.closing :: (rest.flatten ++ [.closing])).IsChain Fits) :
    handed (.group inner rest) =
      handedFrom rest ++ .opening :: (handed inner ++ .closing :: handed rest) := by
  rw [handed, Forest.distribute, distribute_handTo_or (by simp), Forest.distribute,
    flatten_handTo_handTo (startsWith_and_distribute_or chain), spellNot_handedFrom,
    Forest.flatten_group]
  simp [handed, spellNot, isNot, operator?]

/-- An operator keeps its place and what it spells. -/
theorem handed_operator {token : Leaf} (spells : token.1.isOperator) {rest : Forest}
    (chain : (token.1 :: (rest.flatten ++ [.closing])).IsChain Fits) :
    ∃ spelled : Token, spelled.operator? = token.1.operator? ∧
      handed (.leaf token rest) = spelled :: handed rest := by
  have noEnd := endsItem_of_isOperator spells
  have noOr : rest.startsWith .or = false := Fits.not_startsWith rfl noEnd chain
  have noAnd : (rest.distribute .or).startsWith .and = false := by
    rw [startsWith_and_distribute_or chain]
    exact Fits.not_startsWith rfl noEnd chain
  have symbols : ((Forest.leaf token rest).distribute .or).distribute .and =
      .leaf (Forest.spellLeaf .and (Forest.spellLeaf .or token))
        ((rest.distribute .or).distribute .and) := by
    simp [Forest.distribute, Forest.handTo, noOr, noAnd]
  rw [handed, symbols, Forest.flatten_leaf, spellNot, List.map_cons]
  refine ⟨_, ?_, rfl⟩
  rw [← Forest.operator?_spellLeaf .or token, ← Forest.operator?_spellLeaf .and]
  split
  · rename_i notSpelled
    exact (beq_iff_eq.mp notSpelled).symm
  · rfl

/-! ## All passes -/

theorem ruling_of_handedFrom {run : List Operator} {after : Forest} {tail : List Token}
    (noOr : tail.head? ≠ some (.keyword .or)) :
    strongest (run ++ operators (handedFrom after)) =
      ruling run (after.flatten ++ tail).head? := by
  have orNext : (after.flatten ++ tail).head? = some (.keyword .or) ↔ after.startsWith .or := by
    cases after with
    | nil => simpa using noOr
    | leaf token rest => simp
    | group inner rest => simp
  rw [strongest_eq, ruling, handedFrom]
  simp only [orNext, List.mem_append]
  cases orStarts : after.startsWith .or <;> cases andStarts : after.startsWith .and <;>
    simp [operators, operator?]

/-- An item that is one token gets the operator of its run, once what comes after it is treated. -/
theorem finish_handed_item {token : Leaf} (starts : token.1.startsItem) {rest : Forest}
    (chain : (token.1 :: (rest.flatten ++ [.closing])).IsChain Fits) {run tail done : List Token}
    (allOperators : ∀ token ∈ run, token.isOperator) (noOr : tail.head? ≠ some (.keyword .or))
    (treated : finish (handed rest ++ done) = prefixItems (rest.flatten ++ tail)) :
    finish (run ++ (handed (.leaf token rest) ++ done)) =
      prefixItemsFrom (operators run) (token.1 :: (rest.flatten ++ tail)) := by
  have next : afterItem token.1 (rest.flatten ++ tail) = (rest.flatten ++ tail).head? :=
    if_neg token.2.1
  have shape : run ++ (handed (.leaf token rest) ++ done) =
      (run ++ handedFrom rest) ++ token.1 :: (handed rest ++ done) := by
    rw [handed_item starts chain]
    simp
  rw [shape, finish_item (isOperator_of_mem_handedFrom allOperators) starts, operators_append,
    ruling_of_handedFrom noOr, treated, prefixItemsFrom_item starts, next]

/-- A group gets the operator of its run, once what is inside it and what comes after it are
treated. -/
theorem finish_handed_group {inner rest : Forest}
    (chain : (.closing :: (rest.flatten ++ [.closing])).IsChain Fits) {run tail done : List Token}
    (allOperators : ∀ token ∈ run, token.isOperator) (noOr : tail.head? ≠ some (.keyword .or))
    (treated : finish (handed inner ++ .closing :: (handed rest ++ done)) =
      prefixItems (inner.flatten ++ .closing :: (rest.flatten ++ tail))) :
    finish (run ++ (handed (.group inner rest) ++ done)) =
      prefixItemsFrom (operators run) ((Forest.group inner rest).flatten ++ tail) := by
  have shape : run ++ (handed (.group inner rest) ++ done) =
      (run ++ handedFrom rest) ++
        .opening :: (handed inner ++ .closing :: (handed rest ++ done)) := by
    rw [handed_group chain]
    simp
  have next : afterItem .opening (inner.flatten ++ .closing :: (rest.flatten ++ tail)) =
      (rest.flatten ++ tail).head? := by
    rw [afterItem, if_pos rfl, afterGroup_forest]
    rfl
  rw [shape, finish_item (isOperator_of_mem_handedFrom allOperators) rfl, operators_append,
    ruling_of_handedFrom noOr, treated, Forest.flatten_group, List.cons_append,
    List.append_assoc, List.cons_append, prefixItemsFrom_item rfl, next]

/-- Handing out, reducing and filling is the rule. The induction is on the forest and carries
what surrounds it: `run` are the operators that stand right before it, still to be reduced with
the symbols of its first item, and `tail` is what comes after it, already treated in `done`. -/
theorem finish_handed (forest : Forest) {before : Token} {run tail done : List Token}
    (chain : (before :: (forest.flatten ++ [.closing])).IsChain Fits)
    (allOperators : ∀ token ∈ run, token.isOperator) (runBefore : run ≠ [] → before.isOperator)
    (noOr : tail.head? ≠ some (.keyword .or)) (treated : finish done = prefixItems tail) :
    finish (run ++ (handed forest ++ done)) =
      prefixItemsFrom (operators run) (forest.flatten ++ tail) := by
  induction forest generalizing before run tail done with
  | nil =>
    have empty : run = [] := by
      by_contra nonempty
      have fits : Fits before .closing := by
        rw [Forest.flatten_nil, List.nil_append, List.isChain_cons_cons] at chain
        exact chain.1
      cases fits.2 (runBefore nonempty)
    subst empty
    exact treated
  | leaf token rest ih =>
    rw [Forest.flatten_leaf, List.cons_append] at chain
    rw [Forest.flatten_leaf, List.cons_append]
    cases spells : token.1.operator? with
    | some operator =>
      have isOperator : token.1.isOperator := isOperator_of_operator? spells
      obtain ⟨spelled, same, shape⟩ := handed_operator isOperator chain.tail
      have grown : operators (run ++ [spelled]) = operators run ++ [operator] := by
        simp [operators, same, spells]
      have runSpelled : ∀ member ∈ run ++ [spelled], member.isOperator := by
        intro member found
        rcases List.mem_append.mp found with inRun | isSpelled
        · exact allOperators member inRun
        · rw [List.mem_singleton.mp isSpelled, Token.isOperator, same, spells]
          rfl
      rw [shape, prefixItemsFrom_operator spells, ← grown,
        ← ih chain.tail runSpelled (fun _ => isOperator) noOr treated]
      simp
    | none =>
      have starts := startsItem_of_operator? spells token.2.2
      have restTreated : finish (handed rest ++ done) = prefixItems (rest.flatten ++ tail) :=
        @ih token.1 [] tail done chain.tail (by simp) (by simp) noOr treated
      exact finish_handed_item starts chain.tail allOperators noOr restTreated
  | group inner rest innerIH restIH =>
    obtain ⟨innerChain, restChain⟩ := isChain_group chain
    have restTreated : finish (handed rest ++ done) = prefixItems (rest.flatten ++ tail) :=
      @restIH .closing [] tail done restChain (by simp) (by simp) noOr treated
    have innerTreated :
        finish (handed inner ++ .closing :: (handed rest ++ done)) =
          prefixItems (inner.flatten ++ .closing :: (rest.flatten ++ tail)) :=
      @innerIH .opening [] _ _ innerChain (by simp) (by simp) (by simp)
        (by rw [finish_closing, restTreated]; rfl)
    exact finish_handed_group restChain allOperators noOr innerTreated

/-- Where a connective comes after the end of an item only, no group begins with one. -/
theorem groupsOpen_of_isChain {related : Token → Token → Prop}
    (ends : ∀ left right, related left right → right.isConnective → left.endsItem)
    {operator : Operator} (connective : operator.isConnective)
    (forest : Forest) {before : Token}
    (chain : (before :: (forest.flatten ++ [.closing])).IsChain related) :
    forest.GroupsOpen operator := by
  induction forest generalizing before with
  | nil => trivial
  | leaf token rest ih =>
    rw [Forest.flatten_leaf, List.cons_append] at chain
    exact ih chain.tail
  | group inner rest innerIH restIH =>
    obtain ⟨innerChain, restChain⟩ := isChain_group chain
    exact ⟨not_startsWith_of_isChain ends connective rfl innerChain, innerIH innerChain,
      restIH restChain⟩

/-- On the flat form of a forest with well placed operators, the five passes are the rule. -/
theorem passes_forest {forest : Forest}
    (chain : (.opening :: (forest.flatten ++ [.closing])).IsChain Fits) :
    supplyAnd (reduce (spellNot (distribute .and (distribute .or forest.flatten)))) =
      prefixItems forest.flatten := by
  have orStarts : forest.startsWith .or = false := Fits.not_startsWith rfl rfl chain
  have andStarts : (forest.distribute .or).startsWith .and = false := by
    rw [startsWith_and_distribute_or chain]
    exact Fits.not_startsWith rfl rfl chain
  have opens {operator : Operator} (connective : operator.isConnective) :
      forest.GroupsOpen operator :=
    groupsOpen_of_isChain (fun _ _ fits => fits.1) connective forest chain
  have both := flatten_handed (opens rfl) orStarts (opens rfl) andStarts
  have walk := @finish_handed forest .opening [] [] [] chain (by simp) (by simp) (by simp) rfl
  rw [both]
  simpa [finish, prefixItems, operators] using walk

/-- The passes that hand out OR and AND, spell NOT, reduce runs and fill the gaps are together one
rule, on all tokens with balanced brackets and well placed operators: the operators go, and each
word, phrase and group gets one symbol. It is that of NOT if the run of operators before the item
has a NOT, or else that of OR if the run has an OR or the keyword of OR comes right after the
item, or else that of AND. -/
theorem passes_eq_prefixItems (tokens : List Token)
    (balanced : Brackets.Balanced Token.opening Token.closing tokens)
    (placed : WellPlaced tokens) :
    supplyAnd (reduce (spellNot (distribute .and (distribute .or tokens)))) =
      prefixItems tokens := by
  obtain ⟨forest, rfl⟩ := Forest.exists_flatten (balanced.nested (by simp))
  exact passes_forest placed.isChain

/-- A nested group in front of OR, and a run of AND and NOT. -/
theorem passes_eq_prefixItems_groups :
    let group : List Token :=
      [.opening, .operand ['a'], .keyword .and, .opening, .phrase ['"', 'b', '"'], .closing,
        .closing]
    let tokens := group ++ [.keyword .or, .operand ['c'], .keyword .and, .keyword .not] ++ group
    Brackets.Balanced Token.opening Token.closing tokens ∧ WellPlaced tokens ∧
      supplyAnd (reduce (spellNot (distribute .and (distribute .or tokens)))) =
        [.symbol .or, .opening, .symbol .and, .operand ['a'], .symbol .and, .opening,
          .symbol .and, .phrase ['"', 'b', '"'], .closing, .closing, .symbol .or, .operand ['c'],
          .symbol .not, .opening, .symbol .and, .operand ['a'], .symbol .and, .opening,
          .symbol .and, .phrase ['"', 'b', '"'], .closing, .closing] := by
  refine ⟨by decide, by decide, ?_⟩
  rw [passes_eq_prefixItems _ (by decide) (by decide)]
  rfl

end FullTextQuery.Prefixed
