import FullTextQuery.Proofs.Sequences

/-!
# Juxtaposition

A space between two queries is an AND, and an AND is nothing but a space: the output is that of the
one and that of the other with a space between them (`convert_juxtaposed`). This holds of queries
without wildcards that cleaning leaves as they are, if at the seam neither has an operator that
could work on the other. The operators at the seam are also what cleaning could find there: a hyphen
that would be stray before or after the space is a NOT, the last or the first token
(`hasStrayHyphen_space`, `hasStrayHyphen_after_space`).
-/

namespace FullTextQuery.Query

open CleanText Brackets FullText Prefixed Term Token

/-! ## Hyphens at the ends -/

variable {clean : Text}

/-- A hyphen alone is a NOT. -/
theorem visible_hyphen (front back : List Text) :
    (visible (front ++ ['-'] :: back)).map ofTerm =
      (visible front).map ofTerm ++ .symbol .not :: (visible back).map ofTerm := by
  have hyphen : visible (['-'] :: back) = ['-'] :: visible back := rfl
  have parts : visible (front ++ ['-'] :: back) = visible front ++ visible (['-'] :: back) :=
    List.filter_append ..
  rw [parts, hyphen, List.map_append]
  rfl

/-- A hyphen that ends a text, after another character, is its last token. -/
theorem tokensOfClean_concat_hyphen {before : Text} {a : Char} (other : a ≠ '-')
    (even : (before ++ [a, '-']).count '\"' % 2 = 0) (noWildcard : '*' ∉ before ++ [a, '-']) :
    (tokensOfClean (before ++ [a, '-'])).getLast? = some (.symbol .not) := by
  have shape : before ++ [a, '-'] = (before ++ [a]) ++ '-' :: [] := by simp
  have frontEven : (before ++ [a]).count '\"' % 2 = 0 := by
    rw [shape, List.count_append, List.count_cons_of_ne (by decide)] at even
    exact even
  have terms : ofClean ((before ++ [a]) ++ '-' :: []) = ofClean (before ++ [a]) ++ [['-']] :=
    ofClean_append_solo (by decide) (by decide) frontEven []
  have apart : ((ofClean (before ++ [a])).map keepAllowed).getLast? ≠ some ['-'] :=
    getLast?_keepAllowed (by decide) (by decide) (by simpa using other)
  have kept : keepAllowed ['-'] = ['-'] := by decide
  rw [tokensOfClean_eq_visible even noWildcard, compoundsOf, shape, terms, List.map_append,
    List.map_singleton, kept, mergeCompounds_concat apart, visible_hyphen]
  exact List.getLast?_concat

/-- A hyphen that begins a text, before a character that is none, is its first token. -/
theorem tokensOfClean_hyphen_cons {b : Char} (other : b ≠ '-') {rest : Text}
    (even : ('-' :: b :: rest).count '\"' % 2 = 0) (noWildcard : '*' ∉ '-' :: b :: rest) :
    (tokensOfClean ('-' :: b :: rest)).head? = some (.symbol .not) := by
  have terms : ofClean ('-' :: b :: rest) = ['-'] :: ofClean (b :: rest) :=
    ofClean_cons_solo (by decide) (by decide) (b :: rest)
  have apart : ((ofClean (b :: rest)).map keepAllowed).head? ≠ some ['-'] :=
    head?_keepAllowed (by decide) (by decide) (by simpa using other)
  have kept : keepAllowed ['-'] = ['-'] := by decide
  obtain ⟨more, merged⟩ := List.head?_eq_some_iff.mp (head?_mergeCompounds_cons apart ['-'])
  rw [tokensOfClean_eq_visible even noWildcard, compoundsOf, terms, List.map_cons, kept, merged,
    ← List.nil_append (['-'] :: more), visible_hyphen]
  rfl

namespace Plain

variable {query output : Text} (plain : Plain query output) {token : Token}

include plain

theorem even : query.count '\"' % 2 = 0 :=
  plain.part.even

/-- Before a space no hyphen becomes stray unless the last token is a NOT. -/
theorem hasStrayHyphen_space (isLast : (tokensOfClean query).getLast? = some token)
    (other : token.isOperator = false) : hasStrayHyphen false (query ++ [' ']) = false := by
  refine Bool.eq_false_iff.mpr fun stray => ?_
  rcases exists_of_hasStrayHyphen_concat plain.clean.noStray stray with
    ⟨loose, -⟩ | ⟨before, a, rfl, loose⟩
  · cases loose
  · have noHyphen : a ≠ '-' := by
      rintro rfl
      exact absurd loose (by decide)
    rw [tokensOfClean_concat_hyphen noHyphen plain.even plain.noWildcard] at isLast
    obtain rfl := Option.some.inj isLast
    cases other

/-- After a space none does unless the first token is one. -/
theorem hasStrayHyphen_after_space (isFirst : (tokensOfClean query).head? = some token)
    (other : token.isOperator = false) : hasStrayHyphen true query = false := by
  refine Bool.eq_false_iff.mpr fun stray => ?_
  have none := plain.clean.noStray
  rcases query with _ | ⟨a, _ | ⟨b, rest⟩⟩
  · cases stray
  · cases stray
  · unfold hasStrayHyphen at stray none
    rw [Bool.or_eq_false_iff] at none
    rw [none.2, Bool.or_false, Bool.true_and, Bool.and_eq_true, beq_iff_eq] at stray
    obtain ⟨rfl, blank⟩ := stray
    have noHyphen : b ≠ '-' := by
      rintro rfl
      exact absurd blank (by decide)
    rw [tokensOfClean_hyphen_cons noHyphen plain.even plain.noWildcard] at isFirst
    obtain rfl := Option.some.inj isFirst
    cases other

theorem ne_nil (member : token ∈ tokensOfClean query) : query ≠ [] := by
  rintro rfl
  have none : tokensOfClean [] = [] := by decide
  rw [none] at member
  cases member

/-- The last token is the end of an item if it is no operator. -/
theorem endsItem_of_getLast? (isLast : (tokensOfClean query).getLast? = some token)
    (other : token.isOperator = false) : token.endsItem := by
  have notOpening : token ≠ .opening := by
    rintro rfl
    exact plain.balanced.getLast?_ne (by simp) isLast
  cases token with
  | operand text | phrase text | closing => rfl
  | keyword operator | symbol operator => cases other
  | opening => exact absurd rfl notOpening

/-- The first token is the start of an item if it is no operator. -/
theorem startsItem_of_head? (isFirst : (tokensOfClean query).head? = some token)
    (other : token.isOperator = false) : token.startsItem := by
  have notClosing : token ≠ .closing := by
    rintro rfl
    exact plain.balanced.head?_ne (by simp) isFirst
  have noOperator : token.operator? = none := by simpa [Token.isOperator] using other
  exact startsItem_of_operator? noOperator notClosing

/-- What the trace shows of the visible terms are the texts of the tokens. -/
theorem tokensOfClean_eq_map {terms : List Text}
    (shown : (trace query).snapshot? .visible = some ⟨.visible, terms⟩) :
    tokensOfClean query = terms.map ofTerm := by
  obtain ⟨even, balance, -⟩ := convert_eq_ok.mp plain.accepted
  have known := snapshot?_visible even balance
  rw [shown, plain.fixed] at known
  obtain ⟨-, rfl⟩ := Snapshot.mk.inj (Option.some.inj known)
  rfl

end Plain

/-! ## Two queries -/

section Seam

variable {first second firstOutput secondOutput : Text} (left : Plain first firstOutput)
  (right : Plain second secondOutput) {last next : Token}
  (isLast : (tokensOfClean first).getLast? = some last) (lastOther : last.isOperator = false)
  (isFirst : (tokensOfClean second).head? = some next) (nextOther : next.isOperator = false)

include left right isLast lastOther isFirst nextOther

/-- The tokens of both, and what the passes make of them with a space or an AND between them. -/
theorem passes_seam :
    Pass.runAll structuralPasses (tokensOfClean first ++ tokensOfClean second) =
        Pass.runAll structuralPasses (tokensOfClean first) ++
          Pass.runAll structuralPasses (tokensOfClean second) ∧
      Pass.runAll structuralPasses (tokensOfClean first ++ .keyword .and :: tokensOfClean second) =
        Pass.runAll structuralPasses (tokensOfClean first ++ tokensOfClean second) := by
  have ends := left.endsItem_of_getLast? isLast lastOther
  have starts := right.startsItem_of_head? isFirst nextOther
  obtain ⟨front, frontParts⟩ := List.getLast?_eq_some_iff.mp isLast
  obtain ⟨back, backParts⟩ := List.head?_eq_some_iff.mp isFirst
  have frontBalanced := left.balanced
  have backBalanced := right.balanced
  rw [frontParts] at frontBalanced
  rw [backParts] at backBalanced
  rw [frontParts, backParts, List.append_assoc, List.append_assoc]
  exact ⟨passes_append ends starts backBalanced,
    passes_append_and ends starts backBalanced frontBalanced⟩

/-- Both outputs are printed with a space between them. -/
theorem print_seam :
    printFrom true (Pass.runAll structuralPasses (tokensOfClean first ++ tokensOfClean second)) =
      firstOutput ++ ' ' :: secondOutput := by
  have ends := left.endsItem_of_getLast? isLast lastOther
  have starts := right.startsItem_of_head? isFirst nextOther
  obtain ⟨front, frontParts⟩ := List.getLast?_eq_some_iff.mp isLast
  obtain ⟨back, backParts⟩ := List.head?_eq_some_iff.mp isFirst
  obtain ⟨kept, keptParts⟩ := exists_passes_concat ends front
  obtain ⟨rule, rest, restParts⟩ := exists_passes_cons starts back
  rw [← frontParts] at keptParts
  rw [← backParts] at restParts
  have spaced : printFrom false (.symbol rule :: next :: rest) =
      ' ' :: printFrom true (.symbol rule :: next :: rest) := rfl
  rw [(passes_seam left right isLast lastOther isFirst nextOther).1, keptParts, List.append_assoc,
    List.singleton_append, printFrom_append ends, ← keptParts, restParts, spaced, ← restParts,
    left.print_eq, right.print_eq]

theorem convert_space :
    convert (first ++ ' ' :: second) = .ok (firstOutput ++ ' ' :: secondOutput) := by
  have clean : Clean (first ++ ' ' :: second) :=
    left.clean.spaced right.clean
      ⟨left.ne_nil (List.mem_of_getLast? isLast), left.hasStrayHyphen_space isLast lastOther⟩
      ⟨right.ne_nil (List.mem_of_head? isFirst),
        right.hasStrayHyphen_after_space isFirst nextOther⟩
  have noWildcards : '*' ∉ first ++ ' ' :: second := by
    simp [left.noWildcard, right.noWildcard]
  rw [(left.part.space right.part).convert_eq_print clean noWildcards,
    print_seam left right isLast lastOther isFirst nextOther]

theorem convert_and :
    convert (first ++ ' ' :: (Operator.and.keyword ++ ' ' :: second)) =
      .ok (firstOutput ++ ' ' :: secondOutput) := by
  have clean : Clean (first ++ ' ' :: (Operator.and.keyword ++ ' ' :: second)) := by
    have keyword : Clean (Operator.and.keyword ++ ' ' :: second) :=
      (clean_keyword .and).spaced right.clean ⟨by decide, by decide⟩
        ⟨right.ne_nil (List.mem_of_head? isFirst),
          right.hasStrayHyphen_after_space isFirst nextOther⟩
    exact left.clean.spaced keyword
      ⟨left.ne_nil (List.mem_of_getLast? isLast), left.hasStrayHyphen_space isLast lastOther⟩
      ⟨by simp [Operator.keyword],
        hasStrayHyphen_of_head? keyword.noStray (by simp [Operator.keyword]) true⟩
  have noWildcards : '*' ∉ first ++ ' ' :: (Operator.and.keyword ++ ' ' :: second) := by
    simp [left.noWildcard, right.noWildcard, Operator.keyword]
  have part := left.part.space ((Reads.keyword .and).part.space right.part)
  rw [part.convert_eq_print clean noWildcards, List.singleton_append,
    (passes_seam left right isLast lastOther isFirst nextOther).2,
    print_seam left right isLast lastOther isFirst nextOther]

end Seam

/-- Two queries side by side are both required, and their outputs stand side by side: with a space
or an AND between them, if neither has an operator at the seam. -/
theorem convert_juxtaposed {first second firstOutput secondOutput : Text}
    (left : Plain first firstOutput) (right : Plain second secondOutput)
    {firstTerms secondTerms : List Text}
    (firstShown : (trace first).snapshot? .visible = some ⟨.visible, firstTerms⟩)
    (secondShown : (trace second).snapshot? .visible = some ⟨.visible, secondTerms⟩)
    {last next : Text} (isLast : firstTerms.getLast? = some last)
    (isFirst : secondTerms.head? = some next) (lastOther : (ofTerm last).isOperator = false)
    (nextOther : (ofTerm next).isOperator = false) :
    convert (first ++ ' ' :: second) = .ok (firstOutput ++ ' ' :: secondOutput) ∧
      convert (first ++ ' ' :: (Operator.and.keyword ++ ' ' :: second)) =
        .ok (firstOutput ++ ' ' :: secondOutput) := by
  have lastToken : (tokensOfClean first).getLast? = some (ofTerm last) := by
    rw [left.tokensOfClean_eq_map firstShown, List.getLast?_map, isLast]
    rfl
  have firstToken : (tokensOfClean second).head? = some (ofTerm next) := by
    rw [right.tokensOfClean_eq_map secondShown, List.head?_map, isFirst]
    rfl
  exact ⟨convert_space left right lastToken lastOther firstToken nextOther,
    convert_and left right lastToken lastOther firstToken nextOther⟩

/-- A group with an OR and a dangling NOT on the left, a compound that ends with hyphens on the
right, and a NOT inside it. -/
theorem convert_juxtaposed_groups :
    convert "not x or (a or b not) (--c or not d) e--".toList =
        .ok "-x (a b) +(\"--c\" -d) +\"e--\"".toList ∧
      convert "not x or (a or b not) and (--c or not d) e--".toList =
        .ok "-x (a b) +(\"--c\" -d) +\"e--\"".toList := by
  have left : Plain "not x or (a or b not)".toList "-x (a b)".toList :=
    ⟨by decide +kernel, by decide, by decide +kernel⟩
  have right : Plain "(--c or not d) e--".toList "+(\"--c\" -d) +\"e--\"".toList :=
    ⟨by decide +kernel, by decide, by decide +kernel⟩
  have firstShown : (trace "not x or (a or b not)".toList).snapshot? .visible =
      some ⟨.visible, [['n', 'o', 't'], ['x'], ['o', 'r'], ['('], ['a'], ['o', 'r'], ['b'],
        ['n', 'o', 't'], [')']]⟩ := by decide +kernel
  have secondShown : (trace "(--c or not d) e--".toList).snapshot? .visible =
      some ⟨.visible, [['('], "\"--c\"".toList, ['o', 'r'], ['n', 'o', 't'], ['d'], [')'],
        "\"e--\"".toList]⟩ := by decide +kernel
  simpa [Operator.keyword] using
    convert_juxtaposed left right firstShown secondShown rfl rfl rfl rfl

end FullTextQuery.Query
