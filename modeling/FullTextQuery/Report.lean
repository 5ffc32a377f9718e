import FullTextQuery.Json
import FullTextQuery.Query.Trace
import FullTextQuery.Text.Quoted

/-!
Reports on conversions, for people and for programs. A batch report holds one entry per query and
counts the rejected ones; a trace report shows what every stage left.
-/

namespace FullTextQuery

/-- A rejection as it is reported. -/
structure ErrorReport where
  /-- The name of the cause. -/
  code : Text
  /-- Its description. -/
  message : Text
deriving DecidableEq, Repr

namespace ErrorReport

/-- The report of a rejection. -/
def ofRejection (rejection : Rejection) : ErrorReport :=
  ⟨rejection.code, rejection.message⟩

/-- The report as JSON. -/
def toJson (error : ErrorReport) : Json :=
  .object [("code".toList, .string error.code), ("message".toList, .string error.message)]

/-- The report as JSON, or null if nothing went wrong. -/
def optionToJson : Option ErrorReport → Json
  | none => .null
  | some error => error.toJson

end ErrorReport

/-! ## Batches -/

/-- The outcome of converting one query. -/
structure QueryReport where
  /-- The query as it was given. -/
  input : Text
  /-- The full-text query, if there is one. -/
  output : Option Text
  /-- Why the query was rejected, if it was. -/
  error : Option ErrorReport
deriving DecidableEq, Repr

namespace QueryReport

/-- The report of a conversion. -/
def ofResult (input : Text) : Except Rejection Text → QueryReport
  | .ok output => ⟨input, some output, none⟩
  | .error rejection => ⟨input, none, some (.ofRejection rejection)⟩

/-- Whether the query was converted. -/
def isParsable (report : QueryReport) : Bool :=
  report.error.isNone

/-- The report as JSON. -/
def toJson (report : QueryReport) : Json :=
  .object
    [("input".toList, .string report.input), ("output".toList, .ofOption report.output),
      ("error".toList, ErrorReport.optionToJson report.error)]

end QueryReport

/-- The outcome of converting several queries. -/
structure BatchReport where
  /-- One report per query, in the order of the queries. -/
  results : List QueryReport
  /-- How many of them were rejected. -/
  unparsable : Nat
deriving DecidableEq, Repr

namespace BatchReport

/-- The report on no query. -/
def empty : BatchReport := ⟨[], 0⟩

/-- Adds the report on one more query. -/
def push (batch : BatchReport) (report : QueryReport) : BatchReport :=
  ⟨batch.results ++ [report],
    if report.isParsable then batch.unparsable else batch.unparsable + 1⟩

/-- The report as JSON. -/
def toJson (batch : BatchReport) : Json :=
  .object
    [("results".toList, .array (batch.results.map QueryReport.toJson)),
      ("unparsable".toList, .number batch.unparsable)]

/-- One line per converted query: the full-text query. -/
def outputLines (batch : BatchReport) : List Text :=
  batch.results.filterMap QueryReport.output

/-- One line per rejected query, with the cause and the query, after a label. -/
def errorLines (label : Text) (batch : BatchReport) : List Text :=
  batch.results.filterMap fun report =>
    match report.output, report.error with
    | none, some error =>
      some (label ++ [' '] ++ error.message ++ [' ', '('] ++ report.input ++ [')'])
    | _, _ => none

end BatchReport

/-! ## Traces -/

/-- A conversion stage by stage. -/
structure Explanation where
  /-- The query as it was given. -/
  input : Text
  /-- What each stage left, in order. -/
  stages : List Snapshot
  /-- The full-text query, if there is one. -/
  output : Option Text
  /-- Why the query was rejected, if it was. -/
  error : Option ErrorReport
deriving DecidableEq, Repr

namespace Explanation

/-- The report of a trace. -/
def ofTrace (trace : Trace) : Explanation :=
  let report := QueryReport.ofResult trace.input trace.result
  ⟨trace.input, trace.stages, report.output, report.error⟩

/-- A snapshot as JSON. -/
def snapshotToJson (snapshot : Snapshot) : Json :=
  .object
    [("stage".toList, .string snapshot.stage.name),
      ("tokens".toList, .array (snapshot.tokens.map Json.string))]

/-- The report as JSON. -/
def toJson (report : Explanation) : Json :=
  .object
    [("input".toList, .string report.input),
      ("stages".toList, .array (report.stages.map snapshotToJson)),
      ("output".toList, .ofOption report.output),
      ("error".toList, ErrorReport.optionToJson report.error)]

/-- The width of the longest stage name. -/
def nameWidth (stages : List Snapshot) : Nat :=
  (stages.map (fun snapshot => snapshot.stage.name.length)).foldl max 0

/-- The line of one stage: its name in a column, then the quoted texts it left. -/
def stageLine (width : Nat) (snapshot : Snapshot) : Text :=
  [' ', ' '] ++ Text.padEnd width snapshot.stage.name ++ [' ', ' '] ++
    Text.quotedList snapshot.tokens

/-- The line of the outcome, if there is one. -/
def outcomeLines (report : Explanation) : List Text :=
  match report.output, report.error with
  | some output, _ => ["result: ".toList ++ output]
  | none, some error => ["unparsable: ".toList ++ error.message]
  | none, none => []

/-- The lines for people: the query, the stages, the outcome. -/
def lines (report : Explanation) : List Text :=
  ("input: ".toList ++ Text.quoted report.input) ::
    (report.stages.map (stageLine (nameWidth report.stages)) ++ report.outcomeLines)

/-- The report for people, every line ended. -/
def toText (report : Explanation) : Text :=
  report.lines.flatMap (· ++ ['\n'])

end Explanation

end FullTextQuery
