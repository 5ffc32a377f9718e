import FullTextQuery.Log
import FullTextQuery.Query.Trace
import FullTextQuery.Text.Quoted

/-!
What a conversion logs: a trace record for every stage that it came through, and then one debug
record with its outcome. Texts are quoted, so each record is one line.
-/

namespace FullTextQuery.Trace

open Text

/-- The target of the records of stages. -/
def stageTarget : Text := "boolquery::query::trace".toList

/-- The target of the record of the outcome. -/
def outcomeTarget : Text := "boolquery::query".toList

/-- The record of what a stage left. -/
def stageRecord (snapshot : Snapshot) : Log.Record :=
  ⟨.trace, stageTarget, snapshot.stage.name ++ [':', ' '] ++ quotedList snapshot.tokens⟩

/-- The message on the outcome of a conversion. -/
def outcomeMessage (input : Text) : Except Rejection Text → Text
  | .ok output => "converted ".toList ++ quoted input ++ " -> ".toList ++ quoted output
  | .error (.oddQuotes count) =>
    "rejecting query with ".toList ++ (toString count).toList ++ " quote(s): ".toList ++
      quoted input
  | .error .unbalancedBrackets =>
    "rejecting query with unbalanced brackets: ".toList ++ quoted input

/-- The records of a conversion, in order. -/
def records (trace : Trace) : List Log.Record :=
  trace.stages.map stageRecord ++
    [⟨.debug, outcomeTarget, outcomeMessage trace.input trace.result⟩]

end FullTextQuery.Trace
