import FullTextQuery.CommandLine.Run
import FullTextQuery.Host.FileTree
import FullTextQuery.Proofs.Alphabet
import FullTextQuery.Proofs.LineFeeds

/-!
# Batches of queries

A batch comes to its queries one after the other, up to the first that is rejected or, if it goes
on, to the last (`attempted`). Its report has one entry for each of these, in order, and counts the
rejected ones (`convertFrom_eq`). What people are shown are the full-text queries, one on a line:
none of them has a line break, so the lines are read back as they were written
(`runCommand_parse`).
-/

namespace FullTextQuery

namespace Query

/-! ## The queries that a batch comes to -/

/-- Whether a query is rejected. -/
def isRejected (query : Text) : Bool :=
  !(convert query).isOk

/-- The queries that a batch comes to: all of them if it goes on, and otherwise those up to the
first rejected one, or again all if there is none. -/
def attempted (keepGoing : Bool) (queries : List Text) : List Text :=
  if keepGoing then queries else queries.take (queries.findIdx isRejected + 1)

theorem attempted_cons (keepGoing : Bool) (query : Text) (queries : List Text) :
    attempted keepGoing (query :: queries) =
      query :: if isRejected query ∧ !keepGoing then [] else attempted keepGoing queries := by
  unfold attempted
  cases keepGoing with
  | true => simp
  | false =>
    rw [List.findIdx_cons]
    cases isRejected query with
    | true => simp
    | false => simp

/-- A batch that stops does so at a query that is rejected. -/
theorem exists_attempted {keepGoing : Bool} {queries : List Text} :
    (∃ query ∈ attempted keepGoing queries, isRejected query) ↔
      ∃ query ∈ queries, isRejected query := by
  induction queries with
  | nil => simp [attempted]
  | cons query queries ih =>
    rw [attempted_cons]
    simp only [List.mem_cons, exists_eq_or_imp]
    split
    case isTrue stops => simp only [stops.1, true_or]
    case isFalse => rw [ih]

/-! ## Reports -/

/-- The entry of a query. -/
def report (query : Text) : QueryReport :=
  .ofResult query (convert query)

/-- What is logged while a query is converted. -/
def records (query : Text) : List Log.Record :=
  (trace query).records ++ rejectionRecords query (convert query)

theorem push_report (batch : BatchReport) (query : Text) :
    batch.push (report query) =
      ⟨batch.results ++ [report query],
        batch.unparsable + if isRejected query then 1 else 0⟩ := by
  unfold report isRejected
  cases convert query with
  | ok output => rfl
  | error rejection => rfl

/-- One query of a batch is reported and logged, and ends the batch if a query has been rejected
that the batch is not to go on after. -/
theorem convertFrom_cons (keepGoing : Bool) (batch : BatchReport) (query : Text)
    (queries : List Text) :
    convertFrom keepGoing batch (query :: queries) =
      if 0 < (batch.push (report query)).unparsable ∧ !keepGoing then
        (batch.push (report query), records query)
      else
        ((convertFrom keepGoing (batch.push (report query)) queries).1,
          records query ++ (convertFrom keepGoing (batch.push (report query)) queries).2) := by
  rw [convertFrom, result_trace]
  rfl

/-- What a batch leaves. The induction is on the queries that are still to come, and a batch that
does not go on has met no rejected one before them. -/
theorem convertFrom_eq {keepGoing : Bool} {batch : BatchReport}
    (fresh : keepGoing = false → batch.unparsable = 0) (queries : List Text) :
    let reached := attempted keepGoing queries
    convertFrom keepGoing batch queries =
      (⟨batch.results ++ reached.map report, batch.unparsable + reached.countP isRejected⟩,
        reached.flatMap records) := by
  induction queries generalizing batch with
  | nil => simp [convertFrom, attempted]
  | cons query queries ih =>
    -- Of the queries so far only this one can be a rejected one that ends the batch.
    have stops : 0 < (batch.push (report query)).unparsable ∧ !keepGoing ↔
        isRejected query ∧ !keepGoing := by
      rw [push_report, Bool.not_eq_true']
      refine and_congr_left fun ends => ?_
      cases isRejected query with
      | false => simp [fresh ends]
      | true => simp
    intro reached
    have first : reached = query :: if isRejected query ∧ !keepGoing then []
        else attempted keepGoing queries := attempted_cons keepGoing query queries
    rw [convertFrom_cons, if_congr stops rfl rfl, first]
    split
    case isTrue ended =>
      rw [push_report, ended.1]
      simp [ended.1]
    case isFalse continues =>
      have stillFresh : keepGoing = false → (batch.push (report query)).unparsable = 0 := by
        intro ends
        have none := mt stops.mp continues
        simpa [ends] using none
      rw [ih stillFresh, push_report]
      simp only [List.map_cons, List.flatMap_cons, List.countP_cons, List.append_assoc,
        List.singleton_append]
      rw [Nat.add_assoc, Nat.add_comm (if isRejected query then 1 else 0)]

/-- What a whole batch leaves: an entry for every query that it comes to, in their order, and the
number of the rejected ones. -/
theorem convertBatch_eq (keepGoing : Bool) (queries : List Text) :
    let reached := attempted keepGoing queries
    convertBatch keepGoing queries =
      (⟨reached.map report, reached.countP isRejected⟩, reached.flatMap records) := by
  intro reached
  have batch := @convertFrom_eq keepGoing .empty (fun _ => rfl) queries
  simp only [BatchReport.empty, List.nil_append, Nat.zero_add] at batch
  exact batch

/-- A full-text query has no line break. -/
theorem lineFeed_not_mem_of_convert {query output : Text} (accepted : convert query = .ok output) :
    '\n' ∉ output := fun member =>
  absurd (allowed_of_convert accepted '\n' member).1 (by decide +kernel)

theorem output_report (query : Text) : (report query).output = (convert query).toOption := by
  unfold report
  cases convert query with
  | ok output => rfl
  | error rejection => rfl

end Query

namespace CommandLine

open Query

/-! ## Runs on queries -/

theorem status_runBatch (settings : Settings) (keepGoing : Bool) (queries : List Text) :
    (runBatch settings keepGoing queries).status =
      if keepGoing = false ∧ ∃ query ∈ queries, isRejected query then 1 else 0 := by
  have some : 0 < (attempted keepGoing queries).countP isRejected ∧ !keepGoing ↔
      keepGoing = false ∧ ∃ query ∈ queries, isRejected query := by
    rw [List.countP_pos_iff, exists_attempted, Bool.not_eq_true', and_comm]
  unfold runBatch
  rw [convertBatch_eq]
  cases settings.mode with
  | human | json => exact if_congr some rfl rfl

theorem outputLines_report (queries : List Text) (unparsable : Nat) :
    (BatchReport.mk (queries.map report) unparsable).outputLines =
      queries.filterMap fun query => (convert query).toOption := by
  rw [BatchReport.outputLines, List.filterMap_map]
  exact List.filterMap_congr fun query _ => output_report query

/-- What people are shown is read back line by line. -/
theorem split_output_runBatch {settings : Settings} (human : settings.mode = .human)
    (keepGoing : Bool) (queries : List Text) :
    Text.split '\n' (runBatch settings keepGoing queries).output =
      ((attempted keepGoing queries).filterMap fun query => (convert query).toOption) ++ [[]] := by
  have output : (runBatch settings keepGoing queries).output =
      ((attempted keepGoing queries).filterMap
        fun query => (convert query).toOption).flatMap Outcome.line := by
    unfold runBatch
    rw [convertBatch_eq, human]
    exact congrArg (List.flatMap Outcome.line) (outputLines_report _ _)
  rw [output]
  apply Text.split_flatMap_line
  intro line member
  obtain ⟨query, -, converted⟩ := List.mem_filterMap.mp member
  cases accepted : convert query with
  | ok output =>
    rw [accepted] at converted
    obtain rfl := Option.some.inj converted
    exact lineFeed_not_mem_of_convert accepted
  | error rejection =>
    rw [accepted] at converted
    cases converted

/-- A run on queries. It converts those up to the first that is rejected, or all of them if it is to
go on or none is rejected, and reports on each of these in order. It fails exactly if it is not to
go on and some query is rejected, and people are shown the full-text queries, one on a line. -/
theorem runCommand_parse {m : Type → Type} [Monad m] (host : Host m) (settings : Settings)
    (goOn : Bool) {queries : List Text} (given : queries ≠ []) :
    let keepGoing := goOn || settings.preferences.keepGoing
    let reached :=
      if keepGoing then queries else queries.take (queries.findIdx isRejected + 1)
    let report : BatchReport :=
      { results := reached.map fun query =>
          match convert query with
          | .ok output => ⟨query, some output, none⟩
          | .error rejection => ⟨query, none, some ⟨rejection.code, rejection.message⟩⟩
        unparsable := reached.countP isRejected }
    ∃ outcome, runCommand host settings (some (.parse queries goOn)) = pure outcome ∧
      (convertBatch keepGoing queries).1 = report ∧
      outcome.status = (if keepGoing = false ∧ ∃ query ∈ queries, isRejected query then 1 else 0) ∧
      (settings.mode = .json → outcome.output = report.toJson.pretty ++ ['\n']) ∧
      (settings.mode = .human → Text.split '\n' outcome.output =
        (reached.filterMap fun query => (convert query).toOption) ++ [[]]) := by
  intro keepGoing reached report
  have converted : convertBatch keepGoing queries = (report, reached.flatMap records) := by
    rw [convertBatch_eq]
    refine Prod.ext (BatchReport.mk.injEq .. ▸ ⟨?_, rfl⟩) rfl
    apply List.map_congr_left
    intro query _
    unfold Query.report
    cases convert query with
    | ok output => rfl
    | error rejection => rfl
  refine ⟨runBatch settings keepGoing queries, ?_, congrArg Prod.fst converted,
    status_runBatch settings keepGoing queries, fun json => ?_, fun human =>
      split_output_runBatch human keepGoing queries⟩
  · have notEmpty : queries.isEmpty = false := List.isEmpty_eq_false_iff.mpr given
    rw [runCommand]
    simp only [notEmpty]
    rfl
  · unfold runBatch
    rw [converted, json]
    rfl

/-- The second of three queries is rejected, and the third is not come to. -/
theorem runCommand_parse_stopping :
    let queries := ["ICT OR it".toList, "(sales".toList, "manager".toList]
    let settings : Settings := ⟨⟨{}, false⟩, .human, Preferences.fileName, {}, false⟩
    ∃ outcome : Outcome,
      runCommand (FileTree.host .empty) settings (some (.parse queries false)) = pure outcome ∧
        outcome.status = 1 ∧ Text.split '\n' outcome.output = ["ict it".toList, []] := by
  intro queries settings
  have given : queries ≠ [] := List.cons_ne_nil _ _
  obtain ⟨outcome, run, -, status, -, output⟩ :=
    runCommand_parse (FileTree.host .empty) settings false given
  refine ⟨outcome, run, status.trans (by decide +kernel), (output rfl).trans ?_⟩
  decide +kernel

end CommandLine

end FullTextQuery
