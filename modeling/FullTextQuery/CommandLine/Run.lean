import FullTextQuery.CommandLine.Arguments
import FullTextQuery.Preferences
import FullTextQuery.Query.Batch

/-!
Runs of the program. A run reads its arguments, sets up the log, loads the preferences and carries
out one command; what it prints and its exit status are the outcome. Only the command that makes a
file of defaults changes anything on the system, and only where its path leads to nothing yet.
-/

namespace FullTextQuery.CommandLine

/-- The version of the program. -/
def versionText : Text := "0.1.0".toList

/-- The name of the program. -/
def programName : Text := "boolquery".toList

/-- The variables that a run takes from its environment, where they are set. -/
structure Environment where
  /-- The home directory. -/
  home : Option Text
  /-- What the log is to show. -/
  logSpec : Option Text
  /-- Whether colour is asked for even without a terminal. -/
  forceColour : Option Text
  /-- Whether colour is refused. -/
  noColour : Option Text
deriving DecidableEq, Repr

namespace Environment

/-- The home directory; a tilde stands for one that is not known. -/
def homePath (environment : Environment) : Path :=
  match environment.home with
  | none | some [] => ['~']
  | some home => home

/-- Whether labels are coloured: if colour is forced, whatever else is said. -/
def coloursLabels (environment : Environment) : Bool :=
  environment.forceColour.any (· != ['0'])

/-- Whether the log is coloured: if colour is forced and not refused. -/
def coloursLog (environment : Environment) : Bool :=
  environment.coloursLabels && environment.noColour.all List.isEmpty

end Environment

/-- What a run prints, and its exit status. -/
structure Outcome where
  status : Nat
  output : Text
  errors : Text
deriving DecidableEq, Repr

namespace Outcome

/-- A line with its end. -/
def line (text : Text) : Text :=
  text ++ ['\n']

/-- A successful run that prints a text. -/
def print (output : Text) : Outcome :=
  ⟨0, output, []⟩

/-- Puts a text before what a run prints on its error channel. -/
def afterErrors (errors : Text) (outcome : Outcome) : Outcome :=
  { outcome with errors := errors ++ outcome.errors }

/-- A run that ends with an error and its cause. -/
def failure (error : PreferencesError) : Outcome :=
  ⟨1, [], line ("error: ".toList ++ error.message ++ [':', ' '] ++ error.cause)⟩

end Outcome

/-! ## Settings -/

/-- What a log shows, and how. -/
structure LogSettings where
  /-- What is shown. -/
  filter : Log.Filter
  /-- Whether it is coloured. -/
  coloured : Bool
deriving DecidableEq, Repr

/-- The lines that a log shows of records. -/
def LogSettings.lines (log : LogSettings) (records : List Log.Record) : Text :=
  (records.filter log.filter.shows).flatMap fun record => Outcome.line (record.line log.coloured)

/-- The log of a run, and the warnings on what its specification gets wrong. Without a
specification debug messages are shown if the run is verbose, and warnings if not. -/
def LogSettings.ofEnvironment (environment : Environment) (verbose : Bool) :
    LogSettings × Text :=
  let spec := environment.logSpec.getD (if verbose then "debug".toList else "warn".toList)
  let (filter, errors) := Log.Filter.ofSpec spec
  (⟨filter, environment.coloursLog⟩, errors.flatMap fun error =>
    Outcome.line ("warning: ".toList ++ error.message ++ ", ignoring it".toList))

/-- What a run settles before its command. -/
structure Settings where
  /-- The log. -/
  log : LogSettings
  /-- How results are written. -/
  mode : OutputFormat
  /-- Where the preferences are kept. -/
  configPath : Path
  /-- The preferences. -/
  preferences : Preferences
  /-- Whether labels are coloured. -/
  coloured : Bool
deriving DecidableEq, Repr

/-- The record that no preferences were found. -/
def missingRecord (path : Path) : Log.Record :=
  ⟨.debug, "boolquery::config".toList,
    "no config at ".toList ++ path ++ ", using defaults".toList⟩

/-- The record that a file of defaults was made. -/
def createdRecord (path : Path) : Log.Record :=
  ⟨.debug, "boolquery::commands::config".toList,
    "wrote default config to ".toList ++ path⟩

/-! ## Queries -/

/-- The label of a rejected query. -/
def rejectionLabel (coloured : Bool) : Text :=
  if coloured then "\x1b[1;31munparsable:\x1b[0m".toList else "unparsable:".toList

/-- Converts queries and reports on them. -/
def runBatch (settings : Settings) (keepGoing : Bool) (queries : List Text) : Outcome :=
  let (batch, records) := Query.convertBatch keepGoing queries
  let log := settings.log.lines records
  let status := if 0 < batch.unparsable ∧ !keepGoing then 1 else 0
  match settings.mode with
  | .json => ⟨status, Outcome.line batch.toJson.pretty, log⟩
  | .human =>
    ⟨status, batch.outputLines.flatMap Outcome.line,
      log ++ (batch.errorLines (rejectionLabel settings.coloured)).flatMap Outcome.line⟩

/-- Explains how a query is converted. -/
def runExplain (settings : Settings) (query : Text) : Outcome :=
  let trace := Query.trace query
  let report := Explanation.ofTrace trace
  let output :=
    match settings.mode with
    | .json => Outcome.line report.toJson.pretty
    | .human => report.toText
  ⟨if report.error.isSome then 1 else 0, output, settings.log.lines trace.records⟩

/-! ## Version -/

/-- The version in a line. -/
def runVersion (mode : OutputFormat) : Outcome :=
  match mode with
  | .json =>
    .print (Outcome.line (Json.object [("version".toList, .string versionText)]).compact)
  | .human => .print (Outcome.line (programName ++ " v".toList ++ versionText))

/-- The version, and where to find help. -/
def runWithoutCommand (mode : OutputFormat) : Outcome :=
  match mode with
  | .json =>
    .print (Outcome.line (Json.object
      [("hint".toList, .string "Use --help for usage".toList),
        ("version".toList, .string versionText)]).compact)
  | .human =>
    .print (Outcome.line (programName ++ " v".toList ++ versionText) ++
      "\nRun 'boolquery --help' for usage\n".toList ++
      "Run 'boolquery parse \"sales AND NOT manager\"' to convert a query\n".toList)

/-! ## Preferences -/

variable {m : Type → Type} [Monad m]

/-- Shows the preferences and where they come from. -/
def runShowPreferences (host : Host m) (settings : Settings) : m Outcome := do
  let isPresent ← host.isPresent settings.configPath
  match settings.mode with
  | .json =>
    pure (.print (Outcome.line (Json.object
      [("config".toList, settings.preferences.toJson), ("exists".toList, .boolean isPresent),
        ("path".toList, .string settings.configPath)]).pretty))
  | .human =>
    let origin := if isPresent then [] else " (not found, using defaults)".toList
    pure (.print (Outcome.line ("# ".toList ++ settings.configPath ++ origin) ++
      settings.preferences.toText))

/-- Reports whether a file of defaults was made. -/
def reportCreation (settings : Settings) (created : Bool) : Text :=
  match settings.mode with
  | .json =>
    Outcome.line (Json.object
      [("created".toList, .boolean created), ("path".toList, .string settings.configPath)]).pretty
  | .human =>
    Outcome.line ((if created then "Created ".toList else "Already exists: ".toList) ++
      settings.configPath)

/-- Makes a file of defaults where the path leads to nothing yet. -/
def runCreatePreferences (host : Host m) (settings : Settings) : m Outcome := do
  if ← host.isPresent settings.configPath then
    pure (.print (reportCreation settings false))
  else
    match ← Preferences.save host {} settings.configPath with
    | .error error => pure (.failure error)
    | .ok () =>
      pure ⟨0, reportCreation settings true,
        settings.log.lines [createdRecord settings.configPath]⟩

/-! ## Runs -/

/-- Carries out the command of a run. Queries that are not given as arguments are the lines of the
standard input, all of which must be text. -/
def runCommand (host : Host m) (settings : Settings) : Option Command → m Outcome
  | none => pure (runWithoutCommand settings.mode)
  | some .version => pure (runVersion settings.mode)
  | some (.explain query) => pure (runExplain settings query)
  | some (.config false) => runShowPreferences host settings
  | some (.config true) => runCreatePreferences host settings
  | some (.parse queries keepGoing) => do
    let keepGoing := keepGoing || settings.preferences.keepGoing
    if queries.isEmpty then
      match Text.ofBytes? (← host.standardInput) with
      | none => pure ⟨1, [], Outcome.line ("error: ".toList ++ ReadError.notText.message)⟩
      | some text => pure (runBatch settings keepGoing (Query.ofLines text))
    else pure (runBatch settings keepGoing queries)

/-- Runs what a command line asks for. -/
def runInvocation (host : Host m) (environment : Environment) (invocation : Invocation) :
    m Outcome := do
  let (log, warnings) := LogSettings.ofEnvironment environment invocation.verbose
  let path := invocation.configPath.getD (Preferences.defaultPath environment.homePath)
  match ← Preferences.load host path with
  | .error error => pure ((Outcome.failure error).afterErrors warnings)
  | .ok loaded =>
    let preferences := loaded.getD {}
    let records := if loaded.isNone then [missingRecord path] else []
    let mode := if invocation.json then .json else preferences.format
    let outcome ←
      runCommand host ⟨log, mode, path, preferences, environment.coloursLabels⟩ invocation.command
    pure (outcome.afterErrors (warnings ++ log.lines records))

/-- The text that help shows. -/
def helpText : Text :=
  ("Convert boolean search expressions into MySQL boolean full-text queries\n\n" ++
    "Usage: boolquery [OPTIONS] [COMMAND]\n\n" ++
    "Commands:\n" ++
    "  parse [--keep-going] [QUERIES]...  Convert queries, or the lines of standard input\n" ++
    "  explain <QUERY>                    Show every stage of a conversion\n" ++
    "  config [--init]                    Show the configuration, or write a default one\n" ++
    "  version                            Show the version\n" ++
    "  help                               Show this text\n\n" ++
    "Options:\n" ++
    "  -v, --verbose        Show debug messages\n" ++
    "      --json           Write results as JSON\n" ++
    "      --config <PATH>  Use this configuration file\n" ++
    "  -h, --help           Show this text\n" ++
    "  -V, --version        Show the version\n").toList

/-- Runs the program. A command line that is wrong has the exit status 2. -/
def run (host : Host m) (environment : Environment) (arguments : List Text) : m Outcome :=
  match readArguments arguments with
  | .error .help => pure (.print helpText)
  | .error .version => pure (.print (Outcome.line (programName ++ [' '] ++ versionText)))
  | .error (.refused error) =>
    pure ⟨2, [], Outcome.line ("error: ".toList ++ error.message) ++
      "\nFor more information, try '--help'.\n".toList⟩
  | .ok invocation => runInvocation host environment invocation

end FullTextQuery.CommandLine
