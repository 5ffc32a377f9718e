import FullTextQuery.Proofs.Printing
import FullTextQuery.Proofs.Reading
import FullTextQuery.Proofs.Seams
import FullTextQuery.Proofs.TermShape

/-!
# Grouping

What the conversion makes of queries in brackets: their outputs in brackets, with the operator of
the group in front. A bracket separates in every step as the end of the query does: cleaning finds
nothing at it (`Clean.group`), the tokens inside are those of the query alone (`Part.group`), the
passes give them the same prefixes (`passes_group` and its companions), and they are printed in the
same way (`printFrom_group`). This holds of queries without wildcards that cleaning leaves as they
are; `Plain` names them with their outputs.
-/

namespace FullTextQuery

namespace Query

open CleanText FullText Prefixed

/-! ## Parts without wildcards -/

namespace Part

variable {text : Text} {tokens : List Token}

theorem isSolid (part : Part text tokens) (noWildcards : '*' ∉ text) :
    ∀ token ∈ tokens, IsSolid token := by
  have solid := isSolid_of_mem_tokensOfClean part.even noWildcards
  rwa [part.tokens_eq] at solid

theorem balanced (part : Part text tokens) (noWildcards : '*' ∉ text) :
    Brackets.Balanced Token.opening Token.closing tokens := by
  have balanced := balanced_tokensOfClean part.even noWildcards part.bracketsBalance
  rwa [part.tokens_eq] at balanced

/-- A clean part is converted by printing what the passes make of its tokens. -/
theorem convert_eq_print (part : Part text tokens) (clean : Clean text)
    (noWildcards : '*' ∉ text) :
    convert text = .ok (printFrom true (Pass.runAll structuralPasses tokens)) := by
  rw [part.convert_eq (ofRaw_eq_self_iff.mpr clean), ofTokens_passes (part.isSolid noWildcards)]

end Part

theorem clean_keyword (operator : Operator) : Clean operator.keyword :=
  ofRaw_eq_self_iff.mp (by cases operator <;> decide)

/-! ## Groups of queries -/

/-- A query without wildcards that cleaning leaves as it is, and its output. -/
structure Plain (query output : Text) : Prop where
  /-- Cleaning leaves it as it is. -/
  fixed : ofRaw query = query
  /-- It has no wildcard. -/
  noWildcard : '*' ∉ query
  /-- It is accepted, with this output. -/
  accepted : convert query = .ok output

namespace Plain

variable {query first second output firstOutput secondOutput : Text}

theorem clean (plain : Plain query output) : Clean query :=
  ofRaw_eq_self_iff.mp plain.fixed

theorem part (plain : Plain query output) : Part query (tokensOfClean query) :=
  part_of_convert plain.fixed (fun isFirst => plain.noWildcard (List.mem_of_mem_head? isFirst))
    plain.accepted

theorem balanced (plain : Plain query output) :
    Brackets.Balanced Token.opening Token.closing (tokensOfClean query) :=
  plain.part.balanced plain.noWildcard

theorem print_eq (plain : Plain query output) :
    printFrom true (Pass.runAll structuralPasses (tokensOfClean query)) = output := by
  have converted := plain.part.convert_eq_print plain.clean plain.noWildcard
  rw [plain.accepted] at converted
  exact (Except.ok.inj converted).symm

theorem clean_grouped (plain : Plain query output) : Clean (grouped query) :=
  plain.clean.group

theorem part_grouped (plain : Plain query output) :
    Part (grouped query) (.opening :: (tokensOfClean query ++ [.closing])) :=
  plain.part.group

theorem noWildcard_grouped (plain : Plain query output) : '*' ∉ grouped query := by
  simp [grouped, plain.noWildcard]

/-- The group of a query is printed as its output in brackets. -/
theorem printFrom_prefixedGroup (plain : Plain query output) (begins : Bool) (rule : Operator) :
    printFrom begins
        (prefixedGroup rule (Pass.runAll structuralPasses (tokensOfClean query))) =
      gap begins ++ shownMark rule ++ grouped output := by
  have printed := printFrom_group begins rule
    (Pass.runAll structuralPasses (tokensOfClean query)) []
  have nothing : printFrom false [] = [] := rfl
  rwa [List.append_nil, plain.print_eq, nothing, List.append_nil] at printed

/-- A query in brackets. -/
theorem convert_grouped (plain : Plain query output) :
    convert (grouped query) = .ok ('+' :: grouped output) := by
  have converted :=
    plain.part_grouped.convert_eq_print plain.clean_grouped plain.noWildcard_grouped
  rw [passes_group plain.balanced, plain.printFrom_prefixedGroup] at converted
  exact converted

/-- A query in brackets after NOT. -/
theorem convert_negated (plain : Plain query output) :
    convert (Operator.not.keyword ++ ' ' :: grouped query) = .ok ('-' :: grouped output) := by
  have part : Part (Operator.not.keyword ++ ' ' :: grouped query)
      (.keyword .not :: .opening :: (tokensOfClean query ++ [.closing])) :=
    (Reads.keyword .not).part.space plain.part_grouped
  have clean : Clean (Operator.not.keyword ++ ' ' :: grouped query) :=
    (clean_keyword .not).space plain.clean_grouped (by decide) (by simp)
  have noWildcards : '*' ∉ Operator.not.keyword ++ ' ' :: grouped query := by
    simp [plain.noWildcard_grouped, Operator.keyword]
  have converted := part.convert_eq_print clean noWildcards
  rw [passes_negation plain.balanced, plain.printFrom_prefixedGroup] at converted
  exact converted

/-- Two queries in brackets with a connective between them. -/
theorem convert_connected {operator : Operator} (connective : operator.isConnective)
    (left : Plain first firstOutput) (right : Plain second secondOutput) :
    convert (grouped first ++ ' ' :: (operator.keyword ++ ' ' :: grouped second)) =
      .ok (shownMark operator ++ grouped firstOutput ++
        ' ' :: (shownMark operator ++ grouped secondOutput)) := by
  have part : Part (grouped first ++ ' ' :: (operator.keyword ++ ' ' :: grouped second))
      (.opening :: (tokensOfClean first ++ .closing ::
        .keyword operator :: .opening :: (tokensOfClean second ++ [.closing]))) := by
    have joined := left.part_grouped.space ((Reads.keyword operator).part.space right.part_grouped)
    simpa using joined
  have clean : Clean (grouped first ++ ' ' :: (operator.keyword ++ ' ' :: grouped second)) := by
    refine left.clean_grouped.space
      ((clean_keyword operator).space right.clean_grouped ?_ (by simp)) (by simp) ?_
    · cases operator <;> decide
    · cases operator <;> simp [Operator.keyword]
  have noWildcards :
      '*' ∉ grouped first ++ ' ' :: (operator.keyword ++ ' ' :: grouped second) := by
    have inKeyword : '*' ∉ operator.keyword := by cases operator <;> decide
    simp [left.noWildcard_grouped, right.noWildcard_grouped, inKeyword]
  have converted := part.convert_eq_print clean noWildcards
  rw [passes_connected left.balanced right.balanced connective, printFrom_group, left.print_eq,
    right.printFrom_prefixedGroup] at converted
  simpa [gap, printFrom] using converted

end Plain

/-- Grouping is compositional: the output of a query in brackets is its output in brackets, with the
operator of the group in front. -/
theorem convert_groups {query first second output firstOutput secondOutput : Text}
    (plain : Plain query output) (left : Plain first firstOutput)
    (right : Plain second secondOutput) :
    convert (grouped query) = .ok ('+' :: grouped output) ∧
      convert (Operator.not.keyword ++ ' ' :: grouped query) = .ok ('-' :: grouped output) ∧
      convert (grouped first ++ ' ' :: (Operator.and.keyword ++ ' ' :: grouped second)) =
        .ok ('+' :: grouped firstOutput ++ ' ' :: '+' :: grouped secondOutput) ∧
      convert (grouped first ++ ' ' :: (Operator.or.keyword ++ ' ' :: grouped second)) =
        .ok (grouped firstOutput ++ ' ' :: grouped secondOutput) :=
  ⟨plain.convert_grouped, plain.convert_negated, Plain.convert_connected rfl left right,
    Plain.convert_connected rfl left right⟩

/-- Operators that are left without an item in a query are left so in its group, and hyphens at its
ends are not stray there. -/
theorem convert_groups_dangling :
    convert "(a not not)".toList = .ok "+(+a -)".toList ∧
      convert "not (a not not)".toList = .ok "-(+a -)".toList ∧
      convert "(- \"b c\" (x or) ()) and (-e or d-)".toList =
        .ok "+(-\"b c\" +(+x) +()) +(-e d)".toList ∧
      convert "(- \"b c\" (x or) ()) or (-e or d-)".toList =
        .ok "(-\"b c\" +(+x) +()) (-e d)".toList := by
  have doubled : Plain "a not not".toList "+a -".toList :=
    ⟨by decide, by decide, by decide⟩
  have mixed : Plain "- \"b c\" (x or) ()".toList "-\"b c\" +(+x) +()".toList :=
    ⟨by decide, by decide, by decide⟩
  have hyphens : Plain "-e or d-".toList "-e d".toList :=
    ⟨by decide, by decide, by decide⟩
  simpa [grouped, Operator.keyword] using convert_groups doubled mixed hyphens

end Query

end FullTextQuery
