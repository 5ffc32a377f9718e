import FullTextQuery.Query.Logged
import FullTextQuery.Report

/-!
Batches of queries. Queries are converted in order; the first that is rejected ends the batch,
unless the batch is to go on after it.
-/

namespace FullTextQuery.Query

/-- The target of the records of rejected queries. -/
def rejectionTarget : Text := "boolquery::commands::parse".toList

/-- The record of a rejected query. -/
def rejectionRecords (query : Text) : Except Rejection Text → List Log.Record
  | .ok _ => []
  | .error rejection =>
    [⟨.info, rejectionTarget,
      "unparsable query ".toList ++ Text.quoted query ++ [':', ' '] ++ rejection.message⟩]

/-- Adds queries to a batch, with what is logged on the way. -/
def convertFrom (keepGoing : Bool) (batch : BatchReport) :
    List Text → BatchReport × List Log.Record
  | [] => (batch, [])
  | query :: queries =>
    let trace := trace query
    let batch := batch.push (.ofResult query trace.result)
    let records := trace.records ++ rejectionRecords query trace.result
    if 0 < batch.unparsable ∧ !keepGoing then (batch, records)
    else
      let (final, more) := convertFrom keepGoing batch queries
      (final, records ++ more)

/-- Converts a batch of queries. -/
def convertBatch (keepGoing : Bool) (queries : List Text) : BatchReport × List Log.Record :=
  convertFrom keepGoing .empty queries

/-- The lines of a text. A carriage return before a line feed belongs to the line break, and the
last line needs no line feed. -/
def lines (text : Text) : List Text :=
  ofPieces (Text.split '\n' text)
where
  /-- The lines of the pieces between line feeds, the last of which no line feed ends. -/
  ofPieces : List Text → List Text
    | [] => []
    | [last] => if last.isEmpty then [] else [last]
    | piece :: pieces => withoutReturn piece :: ofPieces pieces
  /-- A line without the carriage return before its line feed. -/
  withoutReturn (line : Text) : Text :=
    if line.getLast? = some '\r' then line.dropLast else line

/-- The queries of a text: its lines, save the blank ones. -/
def ofLines (text : Text) : List Text :=
  (lines text).filter fun line => !Text.isBlank line

end FullTextQuery.Query
