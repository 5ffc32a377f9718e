import FullTextQuery.CommandLine.Run
import FullTextQuery.Proofs.FileTrees

/-!
# Invocations on a tree of files

What an invocation settles before its command (`Invocation.settings`), and what stands on its error
channel by then (`Invocation.opening`). Loading preferences leaves the files as they are and the
standard input unread, so an invocation is its command, or the failure to load.
-/

namespace FullTextQuery

open FileTree

namespace Preferences

variable (bytes : ByteArray) (path : Path)

theorem moves_load : Moves Eq (load (host bytes) path) := by
  apply (moves_isPresent bytes path).bind
  intro present
  cases present with
  | false => exact .pure _
  | true =>
    apply (moves_read bytes path).bind
    intro content
    cases content with
    | error error => exact .pure _
    | ok content =>
      simp only
      split
      · exact .pure _
      split
      · exact .pure _
      · exact .pure _

/-- Loading does not read the standard input. -/
theorem load_standardInput (other : ByteArray) (tree : FileTree) :
    load (host bytes) path tree = load (host other) path tree :=
  rfl

end Preferences

namespace CommandLine

namespace Invocation

variable (environment : Environment) (invocation : Invocation)

/-- Where the preferences are looked for. -/
def path : Path :=
  invocation.configPath.getD (Preferences.defaultPath environment.homePath)

/-- The log, and the warnings on what its specification gets wrong. -/
def log : LogSettings × Text :=
  LogSettings.ofEnvironment environment invocation.verbose

/-- What is settled once the preferences are loaded. -/
def settings (loaded : Option Preferences) : Settings where
  log := (log environment invocation).1
  mode := if invocation.json then .json else (loaded.getD {}).format
  configPath := path environment invocation
  preferences := loaded.getD {}
  coloured := environment.coloursLabels

/-- What stands on the error channel before the command is carried out. -/
def opening (loaded : Option Preferences) : Text :=
  (log environment invocation).2 ++ (log environment invocation).1.lines
    (if loaded.isNone then [missingRecord (path environment invocation)] else [])

end Invocation

/-- What an invocation does once its preferences are loaded or not. -/
def afterLoading (bytes : ByteArray) (environment : Environment) (invocation : Invocation) :
    Except PreferencesError (Option Preferences) → StateM FileTree Outcome
  | .error error => pure ((Outcome.failure error).afterErrors (invocation.log environment).2)
  | .ok loaded => do
    let outcome ←
      runCommand (host bytes) (invocation.settings environment loaded) invocation.command
    pure (outcome.afterErrors (invocation.opening environment loaded))

variable {environment : Environment} {invocation : Invocation} {bytes : ByteArray}
  {tree : FileTree}

/-- The tree that an invocation finds after loading is the one that it started from. -/
theorem runInvocation_eq :
    runInvocation (host bytes) environment invocation tree =
      afterLoading bytes environment invocation
        (Preferences.load (host bytes) (invocation.path environment) tree).1 tree := by
  have loading : runInvocation (host bytes) environment invocation =
      Preferences.load (host bytes) (invocation.path environment) >>=
        afterLoading bytes environment invocation := by
    unfold runInvocation
    congr 1
  have same := Preferences.moves_load bytes (invocation.path environment) tree
  rw [loading]
  exact congrArg (afterLoading bytes environment invocation _) same.symm

/-- With preferences that are loaded an invocation is its command. -/
theorem runInvocation_of_ok {loaded : Option Preferences}
    (valid : (Preferences.load (host bytes) (invocation.path environment) tree).1 = .ok loaded) :
    runInvocation (host bytes) environment invocation tree =
      ((runCommand (host bytes) (invocation.settings environment loaded)
          invocation.command tree).1.afterErrors (invocation.opening environment loaded),
        (runCommand (host bytes) (invocation.settings environment loaded)
          invocation.command tree).2) := by
  rw [runInvocation_eq, valid]
  rfl

theorem runCommand_lines (settings : Settings) (goOn : Bool) :
    runCommand (host bytes) settings (some (.parse [] goOn)) =
      match Text.ofBytes? bytes with
      | none => pure ⟨1, [], "error: stream did not contain valid UTF-8\n".toList⟩
      | some text =>
        pure (runBatch settings (goOn || settings.preferences.keepGoing) (Query.ofLines text)) :=
  rfl

theorem runCommand_queries (settings : Settings) (goOn : Bool) {queries : List Text}
    (given : queries ≠ []) :
    runCommand (host bytes) settings (some (.parse queries goOn)) =
      pure (runBatch settings (goOn || settings.preferences.keepGoing) queries) := by
  rw [runCommand]
  exact if_neg fun empty => given (List.isEmpty_iff.mp empty)

theorem run_of_read {arguments : List Text} (read : readArguments arguments = .ok invocation) :
    run (host bytes) environment arguments = runInvocation (host bytes) environment invocation := by
  rw [run, read]

/-- A run whose command only has an outcome leaves the files as they are. -/
theorem run_of_pure {arguments : List Text} (read : readArguments arguments = .ok invocation)
    {loaded : Option Preferences}
    (valid : (Preferences.load (host bytes) (invocation.path environment) tree).1 = .ok loaded)
    {outcome : Outcome}
    (quiet : runCommand (host bytes) (invocation.settings environment loaded) invocation.command =
      pure outcome) :
    run (host bytes) environment arguments tree =
      (outcome.afterErrors (invocation.opening environment loaded), tree) := by
  rw [run_of_read read, runInvocation_of_ok valid, quiet]
  rfl

end CommandLine

end FullTextQuery
