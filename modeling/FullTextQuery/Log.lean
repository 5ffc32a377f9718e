import FullTextQuery.Log.Pattern
import FullTextQuery.Text.Utf8

/-!
Log records and the filter that decides which of them are shown. A record has a level and a target
that names the part of the program it comes from; a filter gives a level to the targets that begin
with a name, and of several names the longest counts. A filter may also have a pattern, which
messages must match.
-/

namespace FullTextQuery.Log

/-- The level of a record, from the gravest to the most detailed. -/
inductive Level where
  | error
  | warn
  | info
  | debug
  | trace
deriving DecidableEq, Repr

namespace Level

/-- The name of a level. -/
def name : Level → Text
  | .error => "ERROR".toList
  | .warn => "WARN".toList
  | .info => "INFO".toList
  | .debug => "DEBUG".toList
  | .trace => "TRACE".toList

/-- How detailed a level is. -/
def detail : Level → Nat
  | .error => 1
  | .warn => 2
  | .info => 3
  | .debug => 4
  | .trace => 5

end Level

/-- A record. -/
structure Record where
  /-- How detailed the record is. -/
  level : Level
  /-- The part of the program that it comes from. -/
  target : Text
  /-- What it says. -/
  message : Text
deriving DecidableEq, Repr

/-- A text between a switch to a style and the switch back. -/
def styled (style text : Text) : Text :=
  "\x1b[".toList ++ style ++ ['m'] ++ text ++ "\x1b[0m".toList

/-- The style of a level: the number of its colour, the gravest in bold. -/
def Level.style : Level → Text
  | .error => "1m\x1b[31".toList
  | .warn => "33".toList
  | .info => "32".toList
  | .debug => "34".toList
  | .trace => "36".toList

/-- The line of a record. The level fills five columns, and the lines after a break in the message
are indented. In colour the level has its style and the brackets are dim. -/
def Record.line (coloured : Bool) (record : Record) : Text :=
  let dim (text : Text) : Text := if coloured then styled "90".toList text else text
  let level := Text.padEnd 5 record.level.name
  dim ['['] ++ (if coloured then styled record.level.style level else level) ++ [' '] ++
    record.target ++ dim [']'] ++ [' '] ++
    record.message.flatMap fun c => if c = '\n' then ['\n', ' ', ' ', ' ', ' '] else [c]

/-! ## Thresholds -/

/-- The most detailed level that is shown; `none` shows nothing. -/
abbrev Threshold := Option Level

namespace Threshold

/-- The name of a threshold. -/
def name : Threshold → Text
  | none => "OFF".toList
  | some level => level.name

/-- The threshold of a name, in any letter case. -/
def ofName? (text : Text) : Option Threshold :=
  [none, some .error, some .warn, some .info, some .debug, some .trace].find?
    fun threshold => text.map Char.toUpper = name threshold

/-- Whether a level is shown. -/
def shows (threshold : Threshold) (level : Level) : Bool :=
  threshold.any fun most => level.detail ≤ most.detail

end Threshold

/-! ## Filters -/

/-- The threshold of the targets that begin with a name, or of all targets. -/
structure Directive where
  /-- What the target begins with; `none` is every target. -/
  name : Option Text
  /-- The threshold. -/
  threshold : Threshold
deriving DecidableEq, Repr

/-- What is shown of the records. -/
structure Filter where
  /-- The directives, in the order that they were given. -/
  directives : List Directive := []
  /-- What messages must match. -/
  pattern : Option Pattern := none
deriving DecidableEq, Repr

namespace Filter

/-- Adds a directive; an earlier one for the same name is replaced where it stands. -/
def insert (filter : Filter) (directive : Directive) : Filter :=
  if filter.directives.any (fun other => other.name = directive.name) then
    { filter with directives := filter.directives.map fun other =>
        if other.name = directive.name then directive else other }
  else { filter with directives := filter.directives ++ [directive] }

/-- The number of bytes of a name, by which directives are ranked; no name ranks lowest. -/
def rank (directive : Directive) : Nat :=
  (directive.name.map Text.byteLength).getD 0

/-- The directive that decides on a target: of those that apply, the last one of the highest
rank. -/
def deciding? (filter : Filter) (target : Text) : Option Directive :=
  (filter.directives.filter applies).foldl
    (fun best directive =>
      match best with
      | none => some directive
      | some other => if rank other ≤ rank directive then some directive else some other)
    none
where
  /-- Whether a directive applies to the target. -/
  applies (directive : Directive) : Bool :=
    directive.name.all fun name => name.isPrefixOf target

/-- Whether a filter shows a level of a target. Without directives only errors are shown. -/
def admits (filter : Filter) (level : Level) (target : Text) : Bool :=
  if filter.directives.isEmpty then Threshold.shows (some .error) level
  else (filter.deciding? target).any fun directive => Threshold.shows directive.threshold level

/-- Whether a record is shown. -/
def shows (filter : Filter) (record : Record) : Bool :=
  filter.admits record.level record.target &&
    filter.pattern.all fun pattern => pattern.selects record.message

end Filter

/-! ## Specifications -/

/-- What is wrong with a specification, quoting the part that is. -/
inductive SpecError where
  /-- More than one slash. -/
  | slashes (spec : Text)
  /-- A part that is neither a level nor a name with a level. -/
  | part (text : Text)
  /-- A pattern that cannot be read. -/
  | pattern (text : Text)
deriving DecidableEq, Repr

/-- The description of an error in a specification. -/
def SpecError.message : SpecError → Text
  | .slashes spec =>
    "invalid logging spec '".toList ++ spec ++ "' (too many '/'s)".toList
  | .part text => "invalid logging spec '".toList ++ text ++ "'".toList
  | .pattern text => "invalid regex filter - ".toList ++ text

/-- Reads one part of a specification: a level for all targets, a name that shows everything, or a
name and its level. -/
def Directive.ofPart (part : Text) : Except SpecError Directive :=
  match Text.split '=' part with
  | [single] =>
    match Threshold.ofName? single with
    | some threshold => .ok ⟨none, threshold⟩
    | none => .ok ⟨some single, some .trace⟩
  | [name, level] =>
    let level := Text.trim level
    if level.isEmpty then .ok ⟨some name, some .trace⟩
    else
      match Threshold.ofName? level with
      | some threshold => .ok ⟨some name, threshold⟩
      | none => .error (.part level)
  | _ => .error (.part part)

/-- Adds the parts of a specification to a filter, and collects the errors of the others. -/
def Filter.addParts (filter : Filter) : List Text → Filter × List SpecError
  | [] => (filter, [])
  | part :: parts =>
    let part := Text.trim part
    if part.isEmpty then addParts filter parts
    else
      match Directive.ofPart part with
      | .ok directive => addParts (filter.insert directive) parts
      | .error error =>
        let (filter, errors) := addParts filter parts
        (filter, error :: errors)

/-- Reads a specification: parts between commas, and after a slash a pattern. The errors name what
is ignored. -/
def Filter.ofSpec (spec : Text) : Filter × List SpecError :=
  match Text.split '/' spec with
  | [parts] => Filter.addParts {} (Text.split ',' parts)
  | [parts, pattern] =>
    let (filter, errors) := Filter.addParts {} (Text.split ',' parts)
    match Pattern.ofText? pattern with
    | none => (filter, errors ++ [.pattern pattern])
    | some pattern => ({ filter with pattern := some pattern }, errors)
  | _ => ({}, [.slashes spec])

end FullTextQuery.Log
