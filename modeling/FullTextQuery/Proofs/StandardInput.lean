import FullTextQuery.Proofs.Invocations
import FullTextQuery.Proofs.LineFeeds

/-!
# Queries from the standard input

Queries that are read from the standard input are converted as if they were given as arguments: a
query is what stands between line feeds, less a carriage return at its end, unless it is blank
(`ofLines_eq`). It is all or nothing, though. If what stands between two line feeds is not text, no
query is converted, wherever it stands (`run_standardInput`).
-/

namespace FullTextQuery

open FileTree

namespace Query

/-- The lines of pieces are all but the last less a carriage return at the end, and the last. -/
theorem ofPieces_append (front : List Text) (last : Text) :
    lines.ofPieces (front ++ [last]) =
      (front.map fun line => if line.getLast? = some '\r' then line.dropLast else line) ++
        if last.isEmpty then [] else [last] := by
  induction front with
  | nil => rfl
  | cons piece front ih =>
    have more : front ++ [last] ≠ [] := by simp
    rw [List.cons_append, lines.ofPieces, ih, List.map_cons, List.cons_append]
    · rfl
    · exact more

/-- The queries of a text: what stands between its line feeds, less the carriage returns before
them, unless it is blank. -/
theorem ofLines_eq {text : Text} {front : List Text} {last : Text}
    (pieces : text.split '\n' = front ++ [last]) :
    ofLines text =
      ((front.map fun line => if line.getLast? = some '\r' then line.dropLast else line) ++
        [last]).filter fun line => !line.isBlank := by
  rw [ofLines, lines, pieces, ofPieces_append, List.filter_append, List.filter_append]
  cases last with
  | nil => rfl
  | cons c last => rfl

end Query

namespace CommandLine

variable {environment : Environment} {invocation : Invocation} {bytes : ByteArray}
  {tree : FileTree}

/-- A run that is given queries as arguments is a batch of them. -/
theorem run_queries {arguments : List Text} (read : readArguments arguments = .ok invocation)
    {queries : List Text} {goOn : Bool} (asked : invocation.command = some (.parse queries goOn))
    (given : queries ≠ []) {loaded : Option Preferences}
    (valid : (Preferences.load (host bytes) (invocation.path environment) tree).1 = .ok loaded) :
    run (host bytes) environment arguments tree =
      ((runBatch (invocation.settings environment loaded)
        (goOn || (loaded.getD {}).keepGoing) queries).afterErrors
          (invocation.opening environment loaded), tree) := by
  apply run_of_pure read valid
  rw [asked, runCommand_queries _ goOn given]
  rfl

/-- A run of `parse` that is given no queries. With text on the standard input it is the run on the
queries of its lines, and so every run that is given these as arguments. With bytes that are no text
between some line feeds, which is to say no text as a whole, it only says so and fails. -/
theorem run_standardInput {arguments : List Text} {loaded : Option Preferences} {goOn : Bool}
    (read : readArguments arguments = .ok invocation)
    (asked : invocation.command = some (.parse [] goOn))
    (valid : (Preferences.load (host bytes) (invocation.path environment) tree).1 = .ok loaded) :
    let settings := invocation.settings environment loaded
    let keepGoing := goOn || settings.preferences.keepGoing
    let opening := invocation.opening environment loaded
    let ran : Outcome × FileTree := run (host bytes) environment arguments tree
    (∀ text front last, Text.ofBytes? bytes = some text → text.split '\n' = front ++ [last] →
      let queries :=
        ((front.map fun line => if line.getLast? = some '\r' then line.dropLast else line) ++
          [last]).filter fun line => !line.isBlank
      ran = ((runBatch settings keepGoing queries).afterErrors opening, tree) ∧
        ∀ given other, queries ≠ [] →
          readArguments given = .ok { invocation with command := some (.parse queries goOn) } →
          run (host other) environment given tree = ran) ∧
      (Text.ofBytes? bytes = none ↔ ∃ line ∈ Text.byteLines bytes, Text.ofBytes? line = none) ∧
      ((∃ line ∈ Text.byteLines bytes, Text.ofBytes? line = none) →
        ran =
          (⟨1, [], opening ++ "error: stream did not contain valid UTF-8\n".toList⟩, tree)) := by
  intro settings keepGoing opening ran
  refine ⟨fun text front last isText pieces => ?_, Text.ofBytes?_eq_none_iff, fun someLine => ?_⟩
  · intro queries
    have batch : ran = ((runBatch settings keepGoing queries).afterErrors opening, tree) := by
      apply run_of_pure read valid
      rw [asked, runCommand_lines, isText]
      simp only
      rw [Query.ofLines_eq pieces]
    refine ⟨batch, fun given other notEmpty readGiven => ?_⟩
    rw [batch]
    exact run_queries readGiven rfl notEmpty valid
  · have refused : runCommand (host bytes) settings invocation.command =
        pure ⟨1, [], "error: stream did not contain valid UTF-8\n".toList⟩ := by
      rw [asked, runCommand_lines, Text.ofBytes?_eq_none_iff.mpr someLine]
    exact run_of_pure read valid refused

/-- A carriage return, a blank line and a last line without a line feed, with the arguments that
are the same batch: the message about the first of them has no carriage return. And a byte that is
not text after a line that is. -/
theorem run_standardInput_lines :
    let environment : Environment := ⟨none, none, none, none⟩
    let tree := FileTree.empty ["home".toList]
    let outcome : Outcome := ⟨0, "sales it\n".toList,
      "unparsable: unbalanced quotes: found 1 '\"' character(s) (a\")\n".toList⟩
    run (host (Text.toBytes "a\"\r\n \t\nsales OR it".toList)) environment
        ["parse".toList, "--keep-going".toList] tree = (outcome, tree) ∧
      run (host ⟨#[255]⟩) environment
        ["parse".toList, "--keep-going".toList, "a\"".toList, "sales OR it".toList] tree =
        (outcome, tree) ∧
      run (host ⟨#[97, 10, 255]⟩) environment ["parse".toList, "--keep-going".toList] tree =
        (⟨1, [], "error: stream did not contain valid UTF-8\n".toList⟩, tree) := by
  intro environment tree outcome
  have read : readArguments ["parse".toList, "--keep-going".toList] =
      .ok ⟨false, false, none, some (.parse [] true)⟩ := by decide +kernel
  have valid (bytes : ByteArray) : (Preferences.load (host bytes)
      (Invocation.path environment ⟨false, false, none, some (.parse [] true)⟩) tree).1 =
      .ok none := by
    rw [Preferences.load_standardInput bytes _ .empty]
    decide +kernel
  obtain ⟨onText, -, -⟩ := run_standardInput read rfl (valid _)
  obtain ⟨batch, same⟩ := onText "a\"\r\n \t\nsales OR it".toList
    ["a\"\r".toList, " \t".toList] "sales OR it".toList (Text.ofBytes?_toBytes _)
    (by decide +kernel)
  have whole : run (host (Text.toBytes "a\"\r\n \t\nsales OR it".toList)) environment
      ["parse".toList, "--keep-going".toList] tree = (outcome, tree) := by
    refine batch.trans (Prod.ext ?_ rfl)
    decide +kernel
  refine ⟨whole, ?_, ?_⟩
  · refine (same _ ⟨#[255]⟩ (by decide +kernel) ?_).trans whole
    decide +kernel
  · have someLine : ∃ line ∈ Text.byteLines ⟨#[97, 10, 255]⟩, Text.ofBytes? line = none :=
      ⟨⟨#[255]⟩, List.mem_cons_of_mem _ List.mem_cons_self, by decide +kernel⟩
    obtain ⟨-, -, onNoText⟩ := run_standardInput read rfl (valid ⟨#[97, 10, 255]⟩)
    exact onNoText someLine

end CommandLine

end FullTextQuery
