import FullTextQuery.Host
import FullTextQuery.Json
import FullTextQuery.Text.Utf8
import FullTextQuery.Toml.Document

/-!
Preferences of the command-line tool, kept as TOML in a file. What the file does not say is taken
from the defaults, and keys that are not known are passed over; a value of the wrong kind makes
the whole file invalid.
-/

namespace FullTextQuery

/-- How results are written. -/
inductive OutputFormat where
  /-- For people. -/
  | human
  /-- For programs. -/
  | json
deriving DecidableEq, Repr

namespace OutputFormat

/-- The name of a mode. -/
def name : OutputFormat → Text
  | .human => "human".toList
  | .json => "json".toList

/-- The mode of a name. -/
def ofName? (text : Text) : Option OutputFormat :=
  if text = name .human then some .human
  else if text = name .json then some .json
  else none

end OutputFormat

/-- The preferences. -/
structure Preferences where
  /-- How results are written unless the command line says it. -/
  format : OutputFormat := .human
  /-- Whether a batch goes on after a rejected query. -/
  keepGoing : Bool := false
deriving DecidableEq, Repr

namespace Preferences

/-! ## Reading -/

/-- The fields of a section. Its values may also be listed without names, in the order of the
fields; a time is read as a section without known fields. -/
def fields? (names : List Text) : Toml.Value → Option Toml.Entries
  | .table _ entries => some entries
  | .array _ items => some (names.zip items)
  | .time => some []
  | _ => none

/-- The value of a field, or its default if there is none. -/
def field? {α : Type} (fallback : α) (read : Toml.Value → Option α) (name : Text)
    (entries : Toml.Entries) : Option α :=
  match entries.find? name with
  | none => some fallback
  | some value => read value

/-- The truth value that a value is. -/
def boolean? : Toml.Value → Option Bool
  | .boolean value => some value
  | _ => none

/-- The mode that a value names: by a string, or by the one key of a table under which nothing
more is said. -/
def mode? : Toml.Value → Option OutputFormat
  | .string text => OutputFormat.ofName? text
  | .table _ [(name, .table _ [])] => OutputFormat.ofName? name
  | .table _ [(name, .array _ [])] => OutputFormat.ofName? name
  | _ => none

/-- The field of a section, or its default if the section or the field is missing. -/
def sectionField? {α : Type} (fallback : α) (read : Toml.Value → Option α) (heading name : Text)
    (entries : Toml.Entries) : Option α :=
  field? fallback (fun value => do field? fallback read name (← fields? [name] value)) heading
    entries

/-- The preferences of a TOML document. -/
def ofEntries? (entries : Toml.Entries) : Option Preferences := do
  let format ← sectionField? .human mode? "output".toList "format".toList entries
  let keepGoing ← sectionField? false boolean? "batch".toList "keep_going".toList entries
  some ⟨format, keepGoing⟩

/-- The preferences of the text of a file. -/
def ofText? (text : Text) : Option Preferences := do
  ofEntries? (← Toml.parse? text)

/-! ## Writing -/

/-- The preferences as the text of a file. -/
def toText (preferences : Preferences) : Text :=
  "[output]\nformat = \"".toList ++ preferences.format.name ++
    "\"\n\n[batch]\nkeep_going = ".toList ++ Text.ofBool preferences.keepGoing ++ ['\n']

/-- The preferences as JSON. -/
def toJson (preferences : Preferences) : Json :=
  .object
    [("batch".toList, .object [("keep_going".toList, .boolean preferences.keepGoing)]),
      ("output".toList, .object [("format".toList, .string preferences.format.name)])]

end Preferences

/-! ## Files -/

/-- Why text cannot be read from bytes. -/
inductive ReadError where
  /-- The system does not give the bytes. -/
  | os (error : OsError)
  /-- The bytes are not text. -/
  | notText
deriving DecidableEq, Repr

/-- The text of an error in reading. -/
def ReadError.message : ReadError → Text
  | .os error => error.message
  | .notText => "stream did not contain valid UTF-8".toList

/-- Why preferences cannot be loaded or saved. -/
inductive PreferencesError where
  | read (path : Path) (cause : ReadError)
  | invalid (path : Path)
  | write (path : Path) (cause : OsError)
deriving DecidableEq, Repr

namespace PreferencesError

/-- The text of the cause. -/
def cause : PreferencesError → Text
  | .read _ cause => cause.message
  | .invalid _ => "TOML parse error".toList
  | .write _ cause => cause.message

/-- The text of an error: what could not be done, with which file, and the cause. -/
def message (error : PreferencesError) : Text :=
  (match error with
    | .read path _ => "failed to read config ".toList ++ path
    | .invalid path => "invalid config ".toList ++ path
    | .write path _ => "failed to write config ".toList ++ path) ++
    [':', ' '] ++ error.cause

end PreferencesError

namespace Preferences

variable {m : Type → Type} [Monad m]

/-- The directory of the preferences below the home directory. -/
def directory : Path := ".config/boolquery".toList

/-- The name of the file of preferences. -/
def fileName : Path := "config.toml".toList

/-- Where the preferences are kept by default. -/
def defaultPath (home : Path) : Path :=
  Path.below (Path.below home directory) fileName

/-- Loads the preferences that a path leads to; `none` if it leads nowhere. -/
def load (host : Host m) (path : Path) : m (Except PreferencesError (Option Preferences)) := do
  if !(← host.isPresent path) then pure (.ok none)
  else
    match ← host.read path with
    | .error error => pure (.error (.read path (.os error)))
    | .ok bytes =>
      match Text.ofBytes? bytes with
      | none => pure (.error (.read path .notText))
      | some text =>
        match ofText? text with
        | none => pure (.error (.invalid path))
        | some preferences => pure (.ok (some preferences))

/-- Saves preferences, and makes the directories that are missing on the way. -/
def save (host : Host m) (preferences : Preferences) (path : Path) :
    m (Except PreferencesError Unit) := do
  let made ←
    match path.parent? with
    | none => pure (.ok ())
    | some dir => host.makeDirectories dir
  match made with
  | .error error => pure (.error (.write path error))
  | .ok () =>
    match ← host.write path (Text.toBytes preferences.toText) with
    | .error error => pure (.error (.write path error))
    | .ok () => pure (.ok ())

end Preferences

end FullTextQuery
