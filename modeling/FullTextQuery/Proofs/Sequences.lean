import FullTextQuery.Proofs.Grouping
import FullTextQuery.Proofs.SinglePrefix

/-!
# Queries one after the other

The passes treat tokens that end with an item and tokens that begin with one by themselves, also
where they stand side by side (`passes_append`), and an AND between them changes nothing
(`passes_append_and`). Written out, that AND is handed to both its sides: the last item of the left
side gets its symbol, a group in front of its bracket, and so does the first item of the right side.
Both are next to an operator that is as strong, or stand where AND would be supplied, and so they
vanish when operators are reduced and supplied (`finish_and`). Printing puts one space between the
two sides (`printFrom_append`).
-/

namespace FullTextQuery

open Token

namespace Forest

/-- The last item of a forest is where a connective after the forest puts its symbol. -/
theorem exists_markLast {forest : Forest} (ends : forest.flatten.getLast?.any endsItem)
    (operator : Operator) :
    ∃ front item more, item.startsItem ∧ forest.flatten = front ++ item :: more ∧
      ∀ written, Prefixed.markLast operator (forest.flatten.reverse ++ written) =
        (front ++ .symbol operator :: item :: more).reverse ++ written := by
  -- Only the last node of the outer level matters; the nodes before it are written already.
  have behind {nodes : List Token} {rest : Forest}
      (known : ∃ front item more, item.startsItem ∧ rest.flatten = front ++ item :: more ∧
        ∀ written, Prefixed.markLast operator (rest.flatten.reverse ++ written) =
          (front ++ .symbol operator :: item :: more).reverse ++ written) :
      ∃ front item more, item.startsItem ∧ nodes ++ rest.flatten = front ++ item :: more ∧
        ∀ written, Prefixed.markLast operator ((nodes ++ rest.flatten).reverse ++ written) =
          (front ++ .symbol operator :: item :: more).reverse ++ written := by
    obtain ⟨front, item, more, starts, flat, marked⟩ := known
    refine ⟨nodes ++ front, item, more, starts, by rw [flat, List.append_assoc], fun written => ?_⟩
    rw [List.reverse_append, List.append_assoc, marked]
    simp
  induction forest with
  | nil => cases ends
  | leaf token rest ih =>
    by_cases last : rest.flatten = []
    · have whole : (leaf token rest).flatten = [token.1] := by rw [flatten_leaf, last]
      rw [whole] at ends ⊢
      refine ⟨[], token.1, [], ?_, rfl, fun written => ?_⟩
      · exact startsItem_of_operator? (operator?_of_endsItem ends) token.2.2
      · exact Prefixed.markLast_token token.2.2 written
    · have restEnds : rest.flatten.getLast?.any endsItem := by
        rwa [flatten_leaf, ← List.singleton_append, List.getLast?_append_of_ne_nil _ last] at ends
      exact @behind [token.1] rest (ih restEnds)
  | group inner rest _ ih =>
    have whole : (group inner rest).flatten =
        (.opening :: (inner.flatten ++ [.closing])) ++ rest.flatten := by simp
    rw [whole] at ends ⊢
    by_cases last : rest.flatten = []
    · rw [last, List.append_nil]
      refine ⟨[], .opening, inner.flatten ++ [.closing], rfl, rfl, fun written => ?_⟩
      have marked := @Prefixed.markLast_group operator inner written
      simpa using marked
    · have restEnds : rest.flatten.getLast?.any endsItem := by
        rwa [List.getLast?_append_of_ne_nil _ last] at ends
      exact behind (ih restEnds)

end Forest

namespace Prefixed

/-! ## Dropping and handing out -/

/-- The end of an item stays the last token. -/
theorem exists_dropDangling_concat {last : Token} (other : last.operator? = none)
    (front : List Token) :
    ∃ kept, dropDangling (front ++ [last]) = kept ++ [last] ∧
      ∀ back, dropDangling (front ++ last :: back) =
        kept ++ dropDanglingFrom (some last) back := by
  obtain ⟨kept, reached, walk⟩ := exists_walk none front (some last)
  have known (back : List Token) : dropDangling (front ++ last :: back) =
      (kept ++ reached.toList) ++ dropDanglingFrom (some last) back := by
    rw [dropDangling, walk.goesOn (last :: back) rfl, dropDanglingFrom_other other,
      List.append_assoc]
  exact ⟨kept ++ reached.toList, known [], known⟩

theorem dropDanglingFrom_and {last next : Token} (ends : last.endsItem) (starts : next.startsItem)
    (back : List Token) :
    dropDanglingFrom (some last) (.keyword .and :: next :: back) =
      last :: .keyword .and :: dropDangling (next :: back) :=
  dropDanglingFrom_supported rfl (fun _ => lacksLeft_of_endsItem ends) starts back

/-- Reading on behind an item that ends hands nothing to it, unless the keyword comes first. -/
theorem distribute_append_flatten {operator : Operator} {forest : Forest}
    (opens : forest.GroupsOpen operator) (front : List Token) :
    distribute operator (front ++ forest.flatten) =
      (if forest.startsWith operator then
        (markLast operator (distribute operator front).reverse).reverse
      else distribute operator front) ++ (forest.distribute operator).flatten := by
  unfold distribute
  rw [List.foldl_append, foldl_handOut_forest forest opens, List.reverse_append,
    List.reverse_reverse, List.reverse_reverse]
  split
  · rfl
  · rfl

section Handing

variable {forest : Forest} (levels : forest.LevelsOpen)

include levels

/-- Both connectives are handed out in front of a forest as if it was not there. -/
theorem distribute_append_levels (tokens : List Token) :
    distribute .and (distribute .or (tokens ++ forest.flatten)) =
      distribute .and (distribute .or tokens) ++
        ((forest.distribute .or).distribute .and).flatten := by
  rw [distribute_append_flatten (levels.opens .or rfl), levels.starts .or rfl, if_neg (by simp),
    distribute_append_flatten (levels.opens .and rfl).distribute,
    levels.startsWith_distribute rfl .or, if_neg (by simp)]

/-- An AND in front of the forest is handed to the item that it follows, and to nothing else. -/
theorem distribute_append_and (tokens : List Token) :
    distribute .and (distribute .or (tokens ++ .keyword .and :: forest.flatten)) =
      (markLast .and (distribute .and (distribute .or tokens)).reverse).reverse ++
        .symbol .and :: ((forest.distribute .or).distribute .and).flatten := by
  have noOr : forest.startsWith .or = false := levels.starts .or rfl
  have noAnd : (forest.distribute .or).startsWith .and = false :=
    levels.startsWith_distribute rfl .or
  have orPast : (Forest.leaf (Forest.keywordLeaf .and) forest).distribute .or =
      .leaf (Forest.keywordLeaf .and) (forest.distribute .or) := by
    rw [Forest.distribute, Forest.handTo, noOr]
    rfl
  have andHere : ((Forest.leaf (Forest.keywordLeaf .and) (forest.distribute .or)).distribute
      .and).flatten = .symbol .and :: ((forest.distribute .or).distribute .and).flatten := by
    rw [Forest.distribute, Forest.handTo, noAnd]
    rfl
  have orWritten := @distribute_append_flatten .or
    (.leaf (Forest.keywordLeaf .and) forest) (levels.opens .or rfl) tokens
  have andWritten := @distribute_append_flatten .and
    (.leaf (Forest.keywordLeaf .and) (forest.distribute .or)) (levels.opens .and rfl).distribute
    (distribute .or tokens)
  rw [orPast] at orWritten
  rw [andHere] at andWritten
  have shape (rest : Forest) :
      .keyword .and :: rest.flatten = (Forest.leaf (Forest.keywordLeaf .and) rest).flatten := rfl
  rw [shape, orWritten]
  exact andWritten

end Handing

theorem distribute_concat {last : Token} (other : last.operator? = none) (operator : Operator)
    (front : List Token) :
    distribute operator (front ++ [last]) = distribute operator front ++ [last] := by
  have noKeyword : last ≠ .keyword operator := by
    rintro rfl
    cases other
  unfold distribute
  rw [List.foldl_append, List.foldl_cons, List.foldl_nil, handOut_other noKeyword,
    List.reverse_cons]

theorem spellNot_append (front back : List Token) :
    spellNot (front ++ back) = spellNot front ++ spellNot back :=
  List.map_append

theorem spellNot_cons {token : Token} (other : token.isNot = false) (rest : List Token) :
    spellNot (token :: rest) = token :: spellNot rest := by
  unfold spellNot
  rw [List.map_cons, other]
  rfl

/-! ## Reducing and supplying -/

theorem supplyAndFrom_append {last : Token} (other : last.operator? = none) (afterOperator : Bool)
    (front back : List Token) :
    supplyAndFrom afterOperator (front ++ last :: back) =
      supplyAndFrom afterOperator (front ++ [last]) ++ supplyAnd back := by
  induction front generalizing afterOperator with
  | nil =>
    unfold supplyAnd
    rw [List.nil_append, List.nil_append, supplyAndFrom, supplyAndFrom, isOperator_eq_false other]
    split
    · rfl
    · rfl
  | cons token front ih =>
    rw [List.cons_append, List.cons_append, supplyAndFrom, supplyAndFrom, ih, ih]
    split
    · rfl
    · rfl

/-- Where no operator comes right before it, the rest is finished by itself. -/
theorem finish_append {last : Token} (other : last.operator? = none) (front back : List Token) :
    finish (front ++ last :: back) = finish (front ++ [last]) ++ finish back := by
  have reduced (rest : List Token) :
      reduce (front ++ last :: rest) = reduce front ++ last :: reduce rest := by
    rw [reduce_append_other other, reduce_of_not_isOperator other]
  unfold finish supplyAnd
  rw [reduced, reduced, supplyAndFrom_append other]
  rfl

/-- The operators that a list ends with, and what stands before them. -/
theorem exists_trailing_run (tokens : List Token) :
    ∃ front run, tokens = front ++ run ∧ (∀ token ∈ run, token.isOperator) ∧
      ∀ token ∈ front.getLast?, token.operator? = none := by
  induction tokens using List.reverseRecOn with
  | nil => exact ⟨[], [], rfl, by simp, by simp⟩
  | append_singleton front last ih =>
    cases spells : last.operator? with
    | none => exact ⟨front ++ [last], [], by simp, by simp, by simpa using spells⟩
    | some operator =>
      obtain ⟨before, run, rfl, allOperators, ends⟩ := ih
      refine ⟨before, run ++ [last], by simp, fun token member => ?_, ends⟩
      rcases List.mem_append.mp member with inRun | isLast
      · exact allOperators token inRun
      · rw [List.mem_singleton.mp isLast]
        exact isOperator_of_operator? spells

/-- AND in front of an item vanishes, also behind and before other operators of the item. -/
theorem finish_and {run : List Token} (allOperators : ∀ token ∈ run, token.isOperator)
    {item : Token} (starts : item.startsItem) (front more : List Token) :
    finish (front ++ .symbol .and :: (run ++ item :: more)) =
      finish (front ++ (run ++ item :: more)) := by
  obtain ⟨before, leading, rfl, leadingOperators, ends⟩ := exists_trailing_run front
  have strong (left right : List Token) :
      strongest (operators (left ++ .symbol .and :: right)) =
        strongest (operators (left ++ right)) := by
    have parts : operators (left ++ .symbol .and :: right) =
        operators left ++ .and :: operators right := operators_append ..
    rw [parts, operators_append, strongest_eq, strongest_eq]
    simp
  have behind : finish (leading ++ .symbol .and :: (run ++ item :: more)) =
      finish (leading ++ (run ++ item :: more)) := by
    have known : ∀ token ∈ leading ++ run, token.isOperator := fun token member =>
      (List.mem_append.mp member).elim (leadingOperators token) (allOperators token)
    have knownAnd : ∀ token ∈ leading ++ .symbol .and :: run, token.isOperator := by
      intro token member
      rcases List.mem_append.mp member with inLeading | inRun
      · exact leadingOperators token inLeading
      · rcases List.mem_cons.mp inRun with rfl | inRun
        · rfl
        · exact allOperators token inRun
    have withAnd := finish_item knownAnd starts more
    have without := finish_item known starts more
    rw [strong] at withAnd
    simpa using withAnd.trans without.symm
  rcases List.eq_nil_or_concat' before with rfl | ⟨init, last, rfl⟩
  · exact behind
  · have other : last.operator? = none := ends last (by simp)
    have split (rest : List Token) : finish (init ++ [last] ++ leading ++ rest) =
        finish (init ++ [last]) ++ finish (leading ++ rest) := by
      rw [← finish_append other]
      simp
    rw [split, split, behind]

/-! ## All passes -/

theorem passes_eq (tokens : List Token) :
    Pass.runAll Query.structuralPasses tokens =
      finish (spellNot (distribute .and (distribute .or (dropDangling tokens)))) := rfl

/-- The end of an item stays the last token. -/
theorem exists_passes_concat {last : Token} (ends : last.endsItem) (front : List Token) :
    ∃ kept, Pass.runAll Query.structuralPasses (front ++ [last]) = kept ++ [last] := by
  have other := operator?_of_endsItem ends
  obtain ⟨kept, dropped, -⟩ := exists_dropDangling_concat other front
  have supplied (afterOperator : Bool) (tokens : List Token) :
      ∃ before, supplyAndFrom afterOperator (tokens ++ [last]) = before ++ [last] := by
    induction tokens generalizing afterOperator with
    | nil =>
      rw [List.nil_append, supplyAndFrom]
      split
      · exact ⟨[], rfl⟩
      · exact ⟨[.symbol .and], rfl⟩
    | cons token tokens ih =>
      rw [List.cons_append, supplyAndFrom]
      split
      · obtain ⟨before, known⟩ := ih token.isOperator
        exact ⟨token :: before, by rw [known]; rfl⟩
      · obtain ⟨before, known⟩ := ih false
        exact ⟨.symbol .and :: token :: before, by rw [known]; rfl⟩
  rw [passes_eq, dropped, distribute_concat other, distribute_concat other, spellNot_append,
    spellNot_cons (isNot_eq_false other), finish, reduce_append_other other,
    reduce_of_not_isOperator other]
  exact supplied false _

/-- Tokens are the run of operators before their first other token, and what follows. -/
theorem exists_leading_run {tokens rest : List Token} {item : Token}
    (first : terms tokens = item :: rest) :
    ∃ run more, (∀ token ∈ run, token.isOperator) ∧ tokens = run ++ item :: more := by
  obtain ⟨run, more, parts, allOperators, -, -⟩ := List.filter_eq_cons_iff.mp first
  exact ⟨run, more, fun token member => by simpa using allOperators token member, parts⟩

section Sequences

variable {front back : List Token} {last next : Token} (ends : last.endsItem)
  (starts : next.startsItem)
  (backBalanced : Brackets.Balanced Token.opening Token.closing (next :: back))

include ends starts backBalanced

/-- Tokens that end with an item and tokens that begin with one are prefixed by themselves. -/
theorem passes_append :
    Pass.runAll Query.structuralPasses (front ++ last :: next :: back) =
      Pass.runAll Query.structuralPasses (front ++ [last]) ++
        Pass.runAll Query.structuralPasses (next :: back) := by
  have other := operator?_of_endsItem ends
  obtain ⟨kept, dropped, droppedWith⟩ := exists_dropDangling_concat other front
  obtain ⟨forest, flat, levels⟩ := exists_forest_dropDangling backBalanced
  have whole : dropDangling (front ++ last :: next :: back) =
      (kept ++ [last]) ++ forest.flatten := by
    rw [droppedWith, dropDanglingFrom_item (operator?_of_startsItem starts), flat,
      List.append_assoc]
    rfl
  rw [passes_eq_finish flat levels, passes_eq, passes_eq, whole, dropped,
    distribute_append_levels levels, distribute_concat other, distribute_concat other,
    spellNot_append, spellNot_append, spellNot_cons (isNot_eq_false other), List.append_assoc]
  exact finish_append other _ _

/-- An AND between them changes nothing. -/
theorem passes_append_and
    (frontBalanced : Brackets.Balanced Token.opening Token.closing (front ++ [last])) :
    Pass.runAll Query.structuralPasses (front ++ last :: .keyword .and :: next :: back) =
      Pass.runAll Query.structuralPasses (front ++ last :: next :: back) := by
  have startsOther := operator?_of_startsItem starts
  obtain ⟨kept, dropped, droppedWith⟩ :=
    exists_dropDangling_concat (operator?_of_endsItem ends) front
  obtain ⟨forest, flat, levels⟩ := exists_forest_dropDangling backBalanced
  have whole : dropDangling (front ++ last :: next :: back) =
      (kept ++ [last]) ++ forest.flatten := by
    rw [droppedWith, dropDanglingFrom_item startsOther, flat, List.append_assoc]
    rfl
  have wholeAnd : dropDangling (front ++ last :: .keyword .and :: next :: back) =
      (kept ++ [last]) ++ .keyword .and :: forest.flatten := by
    rw [droppedWith, dropDanglingFrom_and ends starts, flat, List.append_assoc]
    rfl
  -- The left side is a forest that ends with an item, and the right side begins with one behind
  -- its operators.
  obtain ⟨leftForest, leftFlat⟩ : ∃ leftForest : Forest,
      leftForest.flatten = distribute .and (distribute .or (kept ++ [last])) := by
    have balanced : Brackets.Balanced Token.opening Token.closing
        (distribute .and (distribute .or (kept ++ [last]))) := by
      rw [← balanced_terms, terms_distribute, terms_distribute, ← dropped, terms_dropDangling,
        balanced_terms]
      exact frontBalanced
    exact Forest.exists_flatten (balanced.nested (by simp))
  have leftEnds : leftForest.flatten.getLast?.any endsItem := by
    rw [leftFlat, distribute_concat (operator?_of_endsItem ends),
      distribute_concat (operator?_of_endsItem ends), List.getLast?_concat]
    exact ends
  obtain ⟨init, item, more, itemStarts, parts, marked⟩ := Forest.exists_markLast leftEnds .and
  have handedAnd : (markLast .and leftForest.flatten.reverse).reverse =
      init ++ .symbol .and :: item :: more := by
    have known := marked []
    rw [List.append_nil, List.append_nil] at known
    rw [known, List.reverse_reverse]
  have rightTerms : terms (handed forest) = next :: terms back := by
    rw [← flatten_handed (levels.opens .or rfl) (levels.starts .or rfl) (levels.opens .and rfl)
      (levels.startsWith_distribute rfl .or), terms_spellNot, terms_distribute, terms_distribute,
      flat, terms_dropDangling, terms_cons_other (isOperator_eq_false startsOther)]
  obtain ⟨run, rest, allOperators, rightParts⟩ := exists_leading_run rightTerms
  have noRun : ∀ token ∈ ([] : List Token), token.isOperator := by simp
  have itemOther : item.isNot = false := isNot_eq_false (operator?_of_startsItem itemStarts)
  calc Pass.runAll Query.structuralPasses (front ++ last :: .keyword .and :: next :: back)
    _ = finish (spellNot ((init ++ .symbol .and :: item :: more) ++
          .symbol .and :: ((forest.distribute .or).distribute .and).flatten)) := by
      rw [passes_eq, wholeAnd, distribute_append_and levels, ← leftFlat, handedAnd]
    _ = finish (spellNot init ++ .symbol .and :: item ::
          (spellNot more ++ .symbol .and :: handed forest)) := by
      rw [spellNot_append, spellNot_append, spellNot_cons rfl, spellNot_cons itemOther,
        spellNot_cons rfl, List.append_assoc]
      rfl
    _ = finish (spellNot init ++ item :: (spellNot more ++ .symbol .and :: handed forest)) :=
      finish_and noRun itemStarts _ _
    _ = finish ((spellNot init ++ item :: spellNot more) ++
          .symbol .and :: (run ++ next :: rest)) := by rw [rightParts, List.append_assoc]; rfl
    _ = finish ((spellNot init ++ item :: spellNot more) ++ (run ++ next :: rest)) :=
      finish_and allOperators starts _ _
    _ = Pass.runAll Query.structuralPasses (front ++ last :: next :: back) := by
      rw [passes_eq, whole, distribute_append_levels levels, ← leftFlat, parts, ← rightParts,
        spellNot_append, spellNot_append, spellNot_cons itemOther]
      rfl

end Sequences

theorem exists_passes_cons {next : Token} (starts : next.startsItem) (back : List Token) :
    ∃ rule rest,
      Pass.runAll Query.structuralPasses (next :: back) = .symbol rule :: next :: rest := by
  have first : terms (Pass.runAll Query.structuralPasses (next :: back)) = next :: terms back := by
    rw [terms_passes, terms_cons_other (isOperator_of_startsItem starts)]
  obtain ⟨run, more, allOperators, parts⟩ := exists_leading_run first
  obtain ⟨front, rule, rfl, noOperator⟩ := (singlyPrefixed_passes _).one run next more parts starts
  rcases List.eq_nil_or_concat' front with rfl | ⟨init, token, rfl⟩
  · exact ⟨rule, more, parts⟩
  · have spells := allOperators token (by simp)
    rw [noOperator token (by simp)] at spells
    cases spells

end Prefixed

/-! ## Printing -/

namespace FullText

/-- What stands after the end of an item is printed as if nothing stood before it. -/
theorem printFrom_append {last : Token} (ends : last.endsItem) (begins : Bool)
    (front back : List Token) :
    printFrom begins (front ++ last :: back) =
      printFrom begins (front ++ [last]) ++ printFrom false back := by
  induction front generalizing begins with
  | nil =>
    cases last with
    | operand text | phrase text | closing => simp [printFrom]
    | keyword operator | symbol operator | opening => cases ends
  | cons token front ih =>
    cases token <;> simp [printFrom, ih]

end FullText

end FullTextQuery
