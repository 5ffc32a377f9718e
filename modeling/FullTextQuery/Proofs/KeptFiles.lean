import FullTextQuery.Proofs.Invocations

/-!
# Files that runs keep

Runs of the program one after the other, and what they do to the files they find. Only the command
that makes a file of defaults changes anything, and only where its path leads to nothing
(`Run.on_cases`). It makes the directories that are missing on the way, though, and a path that
steps up from one of them may lead to a file then. No other file is ever changed, and none is new
but the one that was asked for (`Run.files_of_runs`).
-/

namespace FullTextQuery

open FileTree

namespace Preferences

variable (bytes : ByteArray) (preferences : Preferences) (path : Path)

/-- How saving ends once the file is written or not. -/
def afterWriting : Except OsError Unit → StateM FileTree (Except PreferencesError Unit)
  | .error error => pure (.error (.write path error))
  | .ok () => pure (.ok ())

/-- What saving does once it has made directories or not. -/
def afterDirectories : Except OsError Unit → StateM FileTree (Except PreferencesError Unit)
  | .error error => pure (.error (.write path error))
  | .ok () =>
    (host bytes).write path (Text.toBytes preferences.toText) >>= afterWriting path

theorem afterDirectories_cases (result : Except OsError Unit) (made : FileTree) :
    (∃ error, afterDirectories bytes preferences path result made = (.error error, made)) ∨
      ∃ later, made.write path (Text.toBytes preferences.toText) = .ok later ∧
        afterDirectories bytes preferences path result made = (.ok (), later) := by
  cases result with
  | error error => exact .inl ⟨_, rfl⟩
  | ok =>
    let written := (host bytes).write path (Text.toBytes preferences.toText) made
    have isWritten : written = _ := attempt_eq _
    have steps : afterDirectories bytes preferences path (.ok ()) made =
        afterWriting path written.1 written.2 := rfl
    rw [steps, isWritten]
    cases outcome : made.write path (Text.toBytes preferences.toText) with
    | error error => exact .inl ⟨_, rfl⟩
    | ok later => exact .inr ⟨later, rfl, rfl⟩

/-- Saving adds directories, and then it fails or writes the file. -/
theorem save_cases (tree : FileTree) :
    ∃ made, tree.AddsDirectories made ∧
      ((∃ error, save (host bytes) preferences path tree = (.error error, made)) ∨
        ∃ later, made.write path (Text.toBytes preferences.toText) = .ok later ∧
          save (host bytes) preferences path tree = (.ok (), later)) := by
  cases outer : path.parent? with
  | none =>
    have steps : save (host bytes) preferences path =
        afterDirectories bytes preferences path (.ok ()) := by
      unfold save
      rw [outer]
      rfl
    rw [steps]
    exact ⟨tree, Std.Refl.refl tree, afterDirectories_cases bytes preferences path _ tree⟩
  | some dir =>
    have steps : save (host bytes) preferences path =
        (host bytes).makeDirectories dir >>= afterDirectories bytes preferences path := by
      unfold save
      rw [outer]
      rfl
    rw [steps]
    exact ⟨_, moves_makeChain bytes _ tree, afterDirectories_cases bytes preferences path _ _⟩

end Preferences

namespace CommandLine

/-! ## Commands -/

/-- Every command but the one that makes a file of defaults leaves the files as they are. -/
theorem moves_runCommand (bytes : ByteArray) (settings : Settings) {command : Option Command}
    (keeps : command ≠ some (.config true)) :
    Moves Eq (runCommand (host bytes) settings command) := by
  cases command with
  | none => exact .pure _
  | some command =>
    cases command with
    | version | explain => exact .pure _
    | config create =>
      cases create with
      | true => exact absurd rfl keeps
      | false =>
        apply (moves_isPresent bytes settings.configPath).bind
        intro present
        split
        · exact .pure _
        · exact .pure _
    | parse queries goOn =>
      cases queries with
      | nil =>
        rw [runCommand_lines]
        split
        · exact .pure _
        · exact .pure _
      | cons query queries => exact .pure _

/-- How the command that makes a file of defaults ends once the file is saved or not. -/
def afterSaving (settings : Settings) : Except PreferencesError Unit → StateM FileTree Outcome
  | .error error => pure (.failure error)
  | .ok () =>
    pure ⟨0, reportCreation settings true,
      settings.log.lines [createdRecord settings.configPath]⟩

/-- The command that makes a file of defaults only adds directories where its path leads to
something or it fails. Otherwise it adds directories and writes the file. -/
theorem runCreatePreferences_cases (bytes : ByteArray) (settings : Settings) (tree : FileTree) :
    let ran : Outcome × FileTree := runCreatePreferences (host bytes) settings tree
    tree.AddsDirectories ran.2 ∧ (tree.isPresent settings.configPath ∨ ran.1.status = 1) ∨
      tree.isPresent settings.configPath = false ∧ ran.1.status = 0 ∧
        ∃ made, tree.AddsDirectories made ∧
          made.write settings.configPath (Text.toBytes ({} : Preferences).toText) = .ok ran.2 := by
  intro ran
  have steps : ran = (if tree.isPresent settings.configPath then
      pure (.print (reportCreation settings false))
    else Preferences.save (host bytes) {} settings.configPath >>= afterSaving settings :
      StateM FileTree Outcome) tree := rfl
  cases present : tree.isPresent settings.configPath with
  | true =>
    rw [steps, present]
    exact .inl ⟨Std.Refl.refl tree, .inl rfl⟩
  | false =>
    rw [present] at steps
    have saved : ran = afterSaving settings
        (Preferences.save (host bytes) {} settings.configPath tree).1
        (Preferences.save (host bytes) {} settings.configPath tree).2 := steps
    obtain ⟨made, adds, ⟨error, failed⟩ | ⟨later, written, done⟩⟩ :=
      Preferences.save_cases bytes {} settings.configPath tree
    · rw [saved, failed]
      exact .inl ⟨adds, .inr rfl⟩
    · rw [saved, done]
      exact .inr ⟨rfl, rfl, made, adds, written⟩

/-! ## Runs -/

/-- A run of the program. -/
structure Run where
  /-- What it takes from its environment. -/
  environment : Environment
  /-- The directory that it is started in. -/
  directory : Location
  /-- Its arguments. -/
  arguments : List Text
  /-- The bytes of its standard input. -/
  standardInput : ByteArray

namespace Run

/-- The tree that a run finds. -/
def found (run : Run) (tree : FileTree) : FileTree :=
  { tree with current := run.directory }

/-- The outcome of a run, and the tree that it leaves. -/
def on (run : Run) (tree : FileTree) : Outcome × FileTree :=
  CommandLine.run (host run.standardInput) run.environment run.arguments (run.found tree)

/-- The tree that runs leave one after the other. -/
def leave (runs : List Run) (tree : FileTree) : FileTree :=
  runs.foldl (fun tree run => (run.on tree).2) tree

/-- The path of the file of defaults that a run is to make. -/
def createPath? (run : Run) : Option Path :=
  match readArguments run.arguments with
  | .error _ => none
  | .ok invocation =>
    if invocation.command = some (.config true) then some (invocation.path run.environment)
    else none

theorem createPath?_eq_some {run : Run} {path : Path} :
    run.createPath? = some path ↔ ∃ invocation, readArguments run.arguments = .ok invocation ∧
      invocation.command = some (.config true) ∧ invocation.path run.environment = path := by
  unfold createPath?
  cases readArguments run.arguments with
  | error stop => simp
  | ok invocation => simp

/-- A run makes the file of defaults that it is to make: its path leads to nothing before it, and it
succeeds. -/
structure Creates (run : Run) (tree : FileTree) (path : Path) : Prop where
  asked : run.createPath? = some path
  absent : (run.found tree).isPresent path = false
  succeeds : (run.on tree).1.status = 0

/-- The bytes of a file of defaults. -/
def defaults : ByteArray :=
  Text.toBytes ({} : Preferences).toText

variable {run : Run} {tree : FileTree} {invocation : Invocation}

/-- What an invocation with loaded preferences can do to the files. -/
theorem on_cases_of_loaded (read : readArguments run.arguments = .ok invocation)
    {loaded : Option Preferences}
    (loading : (Preferences.load (host run.standardInput) (invocation.path run.environment)
      (run.found tree)).1 = .ok loaded) :
    (∀ path, ¬run.Creates tree path) ∧ (run.found tree).AddsDirectories (run.on tree).2 ∨
      ∃ path made, run.Creates tree path ∧ (run.found tree).AddsDirectories made ∧
        made.write path defaults = .ok (run.on tree).2 := by
  let settings := invocation.settings run.environment loaded
  have ran : run.on tree = _ :=
    (congrFun (run_of_read read) (run.found tree)).trans (runInvocation_of_ok loading)
  have isAsked {path : Path} (creates : run.Creates tree path) :
      invocation.command = some (.config true) ∧ invocation.path run.environment = path := by
    obtain ⟨_, isRead, asked⟩ := createPath?_eq_some.mp creates.asked
    rwa [← Except.ok.inj (read.symm.trans isRead)] at asked
  by_cases commanded : invocation.command = some (.config true)
  case neg =>
    have same := moves_runCommand run.standardInput settings commanded (run.found tree)
    refine .inl ⟨fun path creates => commanded (isAsked creates).1, ?_⟩
    rw [ran, ← same]
    exact Std.Refl.refl _
  rw [commanded] at ran
  rcases runCreatePreferences_cases run.standardInput settings (run.found tree) with
    ⟨adds, fails⟩ | ⟨absent, succeeds, made, adds, written⟩
  · refine .inl ⟨fun path creates => ?_, ran ▸ adds⟩
    obtain rfl := (isAsked creates).2
    rcases fails with present | failed
    · exact absurd (creates.absent.symm.trans present) Bool.false_ne_true
    · have succeeds := creates.succeeds
      rw [ran] at succeeds
      exact absurd (succeeds.symm.trans failed) (by decide)
  · have asked := createPath?_eq_some.mpr ⟨invocation, read, commanded, rfl⟩
    exact .inr ⟨_, made, ⟨asked, absent, ran ▸ succeeds⟩, adds, ran ▸ written⟩

/-- What a run can do to the files: it adds directories, and if it makes a file of defaults it then
writes that. -/
theorem on_cases (run : Run) (tree : FileTree) :
    (∀ path, ¬run.Creates tree path) ∧ (run.found tree).AddsDirectories (run.on tree).2 ∨
      ∃ path made, run.Creates tree path ∧ (run.found tree).AddsDirectories made ∧
        made.write path defaults = .ok (run.on tree).2 := by
  cases read : readArguments run.arguments with
  | error stop =>
    have same : (run.on tree).2 = run.found tree := by
      rw [on, CommandLine.run, read]
      cases stop with
      | help | version | refused => rfl
    refine .inl ⟨fun path creates => ?_, same ▸ Std.Refl.refl _⟩
    obtain ⟨invocation, isRead, -⟩ := createPath?_eq_some.mp creates.asked
    rw [read] at isRead
    cases isRead
  | ok invocation =>
    cases loading : (Preferences.load (host run.standardInput) (invocation.path run.environment)
        (run.found tree)).1 with
    | ok loaded => exact on_cases_of_loaded read loading
    | error error =>
      have ran : run.on tree = _ :=
        (congrFun (run_of_read read) (run.found tree)).trans runInvocation_eq
      rw [loading] at ran
      -- Nothing is made after preferences that cannot be loaded, whatever the command is.
      refine .inl ⟨fun path creates => ?_, ran ▸ Std.Refl.refl (run.found tree)⟩
      have succeeds := creates.succeeds
      rw [ran] at succeeds
      cases succeeds

/-! ## What runs leave -/

/-- A run that makes no file of defaults leaves the same files. -/
theorem node?_of_not_creates (none : ∀ path, ¬run.Creates tree path)
    {location : Location} {bytes : ByteArray} :
    (run.on tree).2.node? location = some (.file bytes) ↔
      tree.node? location = some (.file bytes) := by
  rcases run.on_cases tree with ⟨-, adds⟩ | ⟨path, made, creates, -⟩
  · exact adds.node?_eq_file
  · exact absurd creates (none path)

/-- A run that makes a file of defaults leaves it at the end of its path, and every other file as it
was. If the path never steps up, nothing was there before. -/
theorem Creates.leaves {path : Path} (creates : run.Creates tree path) (closed : tree.Closed) :
    ∃ location, (run.on tree).2.resolve path = .ok location ∧
      (run.on tree).2.node? location = some (.file defaults) ∧
      (∀ other bytes, other ≠ location →
        ((run.on tree).2.node? other = some (.file bytes) ↔
          tree.node? other = some (.file bytes))) ∧
      (Path.up ∉ path.steps → tree.node? location = none) := by
  rcases run.on_cases tree with ⟨none, -⟩ | ⟨asked, made, again, adds, written⟩
  · exact absurd creates (none path)
  obtain rfl := Option.some.inj (again.asked.symm.trans creates.asked)
  obtain ⟨outer, directory, last, names, replaced, left⟩ := write_eq_ok written
  rw [left]
  refine ⟨directory ++ [last], (names.put replaced).resolve_eq_ok ?_, ?_, ?_, ?_⟩
  · rw [node?_put_self (by simp)]
    rfl
  · exact node?_put_self (by simp)
  · intro other bytes apart
    rw [node?_put_of_ne apart]
    exact adds.node?_eq_file
  · -- Had something been there, the path would have led to it before the run.
    intro level
    by_contra present
    have here : ((run.found tree).node? (directory ++ [last])).isSome :=
      Option.isSome_iff_ne_none.mpr present
    have foundClosed : (run.found tree).Closed := closed
    have resolved := (foundClosed.names adds.current.symm names level here).resolve_eq_ok here
    have absent := creates.absent
    rw [isPresent, resolved] at absent
    cases absent

theorem closed_on (run : Run) (closed : tree.Closed) : (run.on tree).2.Closed := by
  have foundClosed : (run.found tree).Closed := closed
  rcases run.on_cases tree with ⟨-, adds⟩ | ⟨path, made, -, adds, written⟩
  · exact adds.closed foundClosed
  · obtain ⟨outer, directory, last, names, replaced, left⟩ := write_eq_ok written
    rw [left]
    exact closed_put (adds.closed foundClosed) names.holds replaced

theorem closed_leave (runs : List Run) (closed : tree.Closed) : (leave runs tree).Closed := by
  induction runs generalizing tree with
  | nil => exact closed
  | cons run runs ih => exact ih (run.closed_on closed)

/-- A file stays as it is unless a run makes the file of defaults in its place, by a path that steps
up. -/
theorem node?_on (closed : tree.Closed) {location : Location} {bytes : ByteArray}
    (present : tree.node? location = some (.file bytes)) :
    (run.on tree).2.node? location = some (.file bytes) ∨
      ∃ path, run.Creates tree path ∧ Path.up ∈ path.steps ∧
        (run.on tree).2.resolve path = .ok location := by
  by_cases making : ∃ path, run.Creates tree path
  case neg => exact .inl ((node?_of_not_creates (not_exists.mp making)).mpr present)
  obtain ⟨path, creates⟩ := making
  obtain ⟨place, resolved, -, others, level⟩ := creates.leaves closed
  by_cases same : location = place
  · refine .inr ⟨path, creates, ?_, same ▸ resolved⟩
    by_contra noUp
    rw [same, level noUp] at present
    cases present
  · exact .inl ((others location bytes same).mpr present)

/-- Whatever file is new or changed is a file of defaults that the run made at its path. -/
theorem node?_of_on (closed : tree.Closed) {location : Location} {bytes : ByteArray}
    (present : (run.on tree).2.node? location = some (.file bytes)) :
    tree.node? location = some (.file bytes) ∨
      ∃ path, run.Creates tree path ∧ (run.on tree).2.resolve path = .ok location ∧
        bytes = defaults := by
  by_cases making : ∃ path, run.Creates tree path
  case neg => exact .inl ((node?_of_not_creates (not_exists.mp making)).mp present)
  obtain ⟨path, creates⟩ := making
  obtain ⟨place, resolved, node, others, -⟩ := creates.leaves closed
  by_cases same : location = place
  · rw [same, node] at present
    exact .inr ⟨path, creates, same ▸ resolved, (Node.file.inj (Option.some.inj present)).symm⟩
  · exact .inl ((others location bytes same).mp present)

/-- Runs whose paths never step up leave every file as it is. The induction is on the runs, and each
leaves a closed tree to the next. -/
theorem node?_leave {runs : List Run}
    (level : ∀ run ∈ runs, ∀ path ∈ run.createPath?, Path.up ∉ path.steps)
    (closed : tree.Closed) {location : Location} {bytes : ByteArray}
    (present : tree.node? location = some (.file bytes)) :
    (leave runs tree).node? location = some (.file bytes) := by
  induction runs generalizing tree with
  | nil => exact present
  | cons run runs ih =>
    apply ih (fun next member => level next (List.mem_cons_of_mem _ member)) (run.closed_on closed)
    rcases node?_on closed present with kept | ⟨path, creates, stepsUp, -⟩
    · exact kept
    · exact absurd stepsUp (level run List.mem_cons_self path creates.asked)

/-- What runs do to the files of a closed tree, one after the other, whatever they are asked. A file
that is there before a run is there after it with the same bytes, unless the run makes a file of
defaults in its place: that takes a path that steps up and leads to nothing before the run, and to
the file after it, when directories have been made on the way. A file that is new or changed is the
file of defaults that the run was asked for, at its path. So no file is lost in runs whose paths
never step up. -/
theorem files_of_runs (closed : tree.Closed) (runs : List Run) :
    (∀ front run back, runs = front ++ run :: back →
      let before := leave front tree
      let after := (run.on before).2
      (∀ location bytes, before.node? location = some (.file bytes) →
        after.node? location = some (.file bytes) ∨
          ∃ path, run.Creates before path ∧ Path.up ∈ path.steps ∧
            after.resolve path = .ok location) ∧
      (∀ location bytes, after.node? location = some (.file bytes) →
        before.node? location = some (.file bytes) ∨
          ∃ path, run.Creates before path ∧ after.resolve path = .ok location ∧
            bytes = Text.toBytes ({} : Preferences).toText) ∧
      ∀ path, run.Creates before path → ∃ location, after.resolve path = .ok location ∧
        after.node? location = some (.file (Text.toBytes ({} : Preferences).toText))) ∧
    ((∀ run ∈ runs, ∀ path ∈ run.createPath?, Path.up ∉ path.steps) →
      ∀ location bytes, tree.node? location = some (.file bytes) →
        (leave runs tree).node? location = some (.file bytes)) := by
  refine ⟨?_, fun level location bytes present => node?_leave level closed present⟩
  intro front run back _ before after
  have closedBefore : before.Closed := closed_leave front closed
  refine ⟨fun location bytes present => node?_on closedBefore present,
    fun location bytes present => node?_of_on closedBefore present, ?_⟩
  intro path creates
  obtain ⟨location, resolved, node, -⟩ := creates.leaves closedBefore
  exact ⟨location, resolved, node⟩

/-- The way to the file that is asked for goes up from a directory that is missing, so nothing seems
to be there. Once the directory is made the way leads to a file that is there already. -/
theorem files_of_runs_overwriting :
    let location : Location := ["work".toList, "existing.toml".toList]
    let content := Text.toBytes "[batch]\nkeep_going = true\n".toList
    let tree := (FileTree.empty ["work".toList]).put location (.file content)
    let run : Run := ⟨⟨none, none, none, none⟩, ["work".toList],
      ["--config".toList, "missing/../existing.toml".toList, "config".toList, "--init".toList],
      .empty⟩
    tree.node? location = some (.file content) ∧
      (run.on tree).2.node? location =
        some (.file (Text.toBytes ({} : Preferences).toText)) := by
  intro location content tree run
  have inWork : (FileTree.empty ["work".toList]).holdsDirectory ["work".toList] := rfl
  have closed : tree.Closed := closed_put (closed_empty ["work".toList]) inWork rfl
  have creates : run.Creates tree "missing/../existing.toml".toList :=
    ⟨by decide +kernel, by decide +kernel, by decide +kernel⟩
  obtain ⟨step, -⟩ := files_of_runs closed [run]
  obtain ⟨-, -, made⟩ := step [] run [] rfl
  obtain ⟨place, resolved, node⟩ := made _ creates
  have same : (run.on tree).2.resolve "missing/../existing.toml".toList = .ok location := by
    decide +kernel
  obtain rfl := Except.ok.inj (resolved.symm.trans same)
  exact ⟨node?_put_self (List.cons_ne_nil _ _), node⟩

end Run

end CommandLine

end FullTextQuery
