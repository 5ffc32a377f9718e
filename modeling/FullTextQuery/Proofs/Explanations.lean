import FullTextQuery.Proofs.Batches
import FullTextQuery.Proofs.QuotedText

/-!
# The lines of an explanation

An explanation has one line for the query, one for each stage and one for the outcome, and a query
cannot add to them: the query and what the stages left are quoted, and neither a full-text query nor
the reason of a rejection has a line feed (`toText_ofTrace`). Since different texts are quoted
differently, different queries have different explanations.
-/

namespace FullTextQuery

theorem Rejection.lineFeed_not_mem_message (rejection : Rejection) : '\n' ∉ rejection.message := by
  cases rejection with
  | unbalancedBrackets => decide +kernel
  | oddQuotes count =>
    have digits : '\n' ∉ (toString count).toList := by
      intro member
      rw [Nat.toString_eq_ofList_toDigits, String.toList_ofList] at member
      exact absurd (Nat.isDigit_of_mem_toDigits (by decide) (by decide) member) (by decide)
    exact List.not_mem_append (List.not_mem_append (by decide +kernel) digits) (by decide +kernel)

namespace Explanation

open Text Query

theorem lineFeed_not_mem_stageLine (width : Nat) (snapshot : Snapshot) :
    '\n' ∉ stageLine width snapshot := by
  have name : '\n' ∉ snapshot.stage.name := by
    cases snapshot.stage <;> decide +kernel
  have padding (n : Nat) : '\n' ∉ List.replicate n ' ' := fun member =>
    absurd (List.eq_of_mem_replicate member) (by decide)
  simp [stageLine, padEnd, name, padding, lineFeed_not_mem_quotedList]

/-- The line of a stage begins with its name, after two spaces. -/
theorem name_prefix_stageLine (width : Nat) (snapshot : Snapshot) :
    [' ', ' '] ++ snapshot.stage.name <+: stageLine width snapshot := by
  rw [stageLine, padEnd, ← List.append_assoc, List.append_assoc, List.append_assoc]
  exact List.prefix_append _ _

/-- The line of the outcome of a query. -/
def outcomeLine (query : Text) : Text :=
  match convert query with
  | .ok output => "result: ".toList ++ output
  | .error rejection => "unparsable: ".toList ++ rejection.message

theorem outcomeLines_ofTrace (query : Text) :
    (ofTrace (trace query)).outcomeLines = [outcomeLine query] := by
  rw [outcomeLine, ofTrace, result_trace]
  cases convert query with
  | ok output => rfl
  | error rejection => rfl

theorem lineFeed_not_mem_outcomeLine (query : Text) : '\n' ∉ outcomeLine query := by
  unfold outcomeLine
  cases accepted : convert query with
  | ok output =>
    exact List.not_mem_append (by decide +kernel) (lineFeed_not_mem_of_convert accepted)
  | error rejection =>
    exact List.not_mem_append (by decide +kernel) rejection.lineFeed_not_mem_message

theorem lines_ofTrace (query : Text) :
    (ofTrace (trace query)).lines =
      ("input: ".toList ++ quoted query) ::
        ((trace query).stages.map (stageLine (nameWidth (trace query).stages)) ++
          [outcomeLine query]) := by
  rw [lines, outcomeLines_ofTrace]
  rfl

theorem lineFeed_not_mem_lines {query line : Text}
    (member : line ∈ (ofTrace (trace query)).lines) : '\n' ∉ line := by
  rw [lines_ofTrace, List.mem_cons, List.mem_append, List.mem_singleton] at member
  rcases member with rfl | inStages | rfl
  · exact List.not_mem_append (by decide +kernel) (lineFeed_not_mem_quoted query)
  · obtain ⟨snapshot, -, rfl⟩ := List.mem_map.mp inStages
    exact lineFeed_not_mem_stageLine _ snapshot
  · exact lineFeed_not_mem_outcomeLine query

/-- The explanation of a query is cut at its line feeds into the lines that it was written as. -/
theorem split_toText (query : Text) :
    split '\n' (ofTrace (trace query)).toText = (ofTrace (trace query)).lines ++ [[]] :=
  split_flatMap_line fun _ => lineFeed_not_mem_lines

theorem toText_ofTrace_injective :
    Function.Injective fun query => (ofTrace (trace query)).toText := by
  intro query other same
  have pieces := congrArg (split '\n') same
  rw [split_toText, split_toText, lines_ofTrace, lines_ofTrace] at pieces
  have inputs := (List.cons.inj pieces).1
  exact quoted_injective (List.append_cancel_left inputs)

/-- Every explanation is a line for the query, a line for each recorded stage that begins with its
name and a line for the outcome, and no line feed stands within them. Only equal queries have equal
explanations. -/
theorem toText_ofTrace (query : Text) :
    let stages := (trace query).stages
    (∃ (input : Text) (middle : List Text) (outcome : Text),
      let lines := input :: (middle ++ [outcome])
      (ofTrace (trace query)).toText = lines.flatMap (· ++ ['\n']) ∧
        (∀ line ∈ lines, '\n' ∉ line) ∧ lines.length = 2 + stages.length ∧
        "input: ".toList <+: input ∧
        List.Forall₂ (fun line snapshot => [' ', ' '] ++ snapshot.stage.name <+: line)
          middle stages ∧
        (if (convert query).isOk then "result: ".toList else "unparsable: ".toList) <+: outcome) ∧
      ∀ other, (ofTrace (trace other)).toText = (ofTrace (trace query)).toText ↔ other = query := by
  intro stages
  have shape := lines_ofTrace query
  refine ⟨⟨_, _, _, congrArg (List.flatMap (· ++ ['\n'])) shape, ?_, ?_, List.prefix_append _ _,
    ?_, ?_⟩, fun _ => toText_ofTrace_injective.eq_iff⟩
  · rw [← shape]
    exact fun _ => lineFeed_not_mem_lines
  · simp only [List.length_cons, List.length_append, List.length_map, List.length_nil]
    exact Nat.add_comm _ 2
  · rw [List.forall₂_map_left_iff]
    exact List.forall₂_same.mpr fun snapshot _ => name_prefix_stageLine _ snapshot
  · unfold outcomeLine
    cases convert query with
    | ok output => exact List.prefix_append _ _
    | error rejection => exact List.prefix_append _ _

end Explanation

end FullTextQuery
