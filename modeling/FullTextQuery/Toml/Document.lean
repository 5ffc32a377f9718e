import FullTextQuery.Toml.Scalar

/-!
TOML documents. A document is read in two steps: its text gives statements (headers and
definitions), and the statements in order build the top table. Readers of nested parts go on only
where text has been used up, which bounds them by the text that is left.
-/

namespace FullTextQuery.Toml

open Scalar (Reader)

/-! ## Space between parts -/

/-- Drops tabs and spaces. -/
def skipSpace (text : Text) : Text :=
  text.dropWhile fun c => c = ' ' || c = '\t'

/-- Drops a comment, if one begins here; none may hold a control. -/
def skipComment? (text : Text) : Option Text :=
  match text with
  | '#' :: rest =>
    let afterPlain := rest.dropWhile Scalar.isPlain
    match afterPlain with
    | [] | '\n' :: _ | '\r' :: '\n' :: _ => some afterPlain
    | _ => none
  | text => some text

/-- What follows a line break. -/
def afterBreak? : Text → Option Text
  | '\n' :: rest => some rest
  | '\r' :: '\n' :: rest => some rest
  | _ => none

/-- Drops spaces, comments and line breaks. -/
def skipLines? (text : Text) : Option Text := do
  let rest ← skipComment? (skipSpace text)
  match afterBreak? rest with
  | none => some rest
  | some next => if next.length < text.length then skipLines? next else none
termination_by text.length

/-- Drops what may stand after a statement on its line, and the line break. -/
def endLine? (text : Text) : Option Text := do
  let rest ← skipComment? (skipSpace text)
  if rest.isEmpty then some [] else afterBreak? rest

/-! ## Keys -/

/-- Whether a character may stand in a key without quotes. -/
def isKeyChar (c : Char) : Bool :=
  c.isAlphanum || c = '_' || c = '-'

/-- A single key, in quotes or without. -/
def key? : Reader Text := fun text =>
  match text.head? with
  | some '\"' | some '\x27' => Scalar.lineString? text
  | _ =>
    let bare := text.takeWhile isKeyChar
    if bare.isEmpty then none else some (bare, text.drop bare.length)

/-- Keys with dots between them, and the spaces after them. -/
def path? : Reader (List Text) := fun text => do
  let (key, rest) ← key? text
  match skipSpace rest with
  | '.' :: rest =>
    let rest := skipSpace rest
    if rest.length < text.length then do
      let (keys, rest) ← path? rest
      some (key :: keys, rest)
    else none
  | rest => some ([key], rest)
termination_by text => text.length

/-! ## Values -/

/-- The most arrays and inline tables that may be open at once. -/
def nestingLimit : Nat := 80

mutual

/-- A value of any kind, when `depth` more brackets may open. -/
def value? (depth : Nat) (text : Text) : Option (Value × Text) :=
  match text, depth with
  | '[' :: rest, depth + 1 => do
    let (items, rest) ← items? depth rest
    some (.array false items, rest)
  | '\x7b' :: rest, depth + 1 => do
    let (entries, rest) ← entries? depth [] rest
    some (.table .braces entries, rest)
  | '[' :: _, 0 | '\x7b' :: _, 0 => none
  | text, _ => Scalar.value? text
termination_by 2 * text.length

/-- The rest of an array: its items up to the closing bracket. A comma may follow the last. -/
def items? (depth : Nat) (text : Text) : Option (List Value × Text) :=
  match skipLines? text with
  | some (']' :: rest) => some ([], rest)
  | some start =>
    if start.length ≤ text.length then
      match value? depth start with
      | none => none
      | some (value, rest) =>
        match skipLines? rest with
        | some (']' :: rest) => some ([value], rest)
        | some (',' :: rest) =>
          if rest.length < text.length then
            match items? depth rest with
            | some (values, rest) => some (value :: values, rest)
            | none => none
          else none
        | _ => none
    else none
  | none => none
termination_by 2 * text.length + 1

/-- The rest of an inline table: its definitions up to the closing brace. -/
def entries? (depth : Nat) (entries : Entries) (text : Text) : Option (Entries × Text) :=
  match skipLines? text with
  | some ('\x7d' :: rest) => some (entries, rest)
  | some start =>
    match path? start with
    | some (path, '=' :: rest) =>
      if (skipSpace rest).length < text.length then
        match value? depth (skipSpace rest) with
        | none => none
        | some (value, rest) =>
          match entries.define? path value, skipLines? rest with
          | some entries, some ('\x7d' :: rest) => some (entries, rest)
          | some entries, some (',' :: rest) =>
            if rest.length < text.length then entries? depth entries rest else none
          | _, _ => none
      else none
    | _ => none
  | none => none
termination_by 2 * text.length + 1

end

/-! ## Statements -/

/-- A statement of a document. -/
inductive Statement where
  /-- What follows belongs to the table at a path. -/
  | table (path : List Text)
  /-- What follows belongs to a new table of the array at a path. -/
  | item (path : List Text)
  /-- A path has a value. -/
  | definition (path : List Text) (value : Value)

/-- A statement. -/
def statement? : Reader Statement := fun text =>
  match text with
  | '[' :: '[' :: rest => do
    let (path, rest) ← path? (skipSpace rest)
    match rest with
    | ']' :: ']' :: rest => some (.item path, rest)
    | _ => none
  | '[' :: rest => do
    let (path, rest) ← path? (skipSpace rest)
    match rest with
    | ']' :: rest => some (.table path, rest)
    | _ => none
  | text => do
    let (path, rest) ← path? text
    match rest with
    | '=' :: rest => do
      let (value, rest) ← value? nestingLimit (skipSpace rest)
      some (.definition path value, rest)
    | _ => none

/-- The statements of a text, each on a line of its own. -/
def statements? (text : Text) : Option (List Statement) :=
  match skipLines? text with
  | none => none
  | some [] => some []
  | some start =>
    match statement? start with
    | none => none
    | some (statement, rest) =>
      match endLine? rest with
      | none => none
      | some rest =>
        if rest.length < text.length then (statements? rest).map (statement :: ·) else none
termination_by text.length

/-! ## Tables -/

/-- Carries out statements in order. `header` is the path that definitions start from. -/
def build? (header : List Text) (entries : Entries) : List Statement → Option Entries
  | [] => some entries
  | .table path :: rest => do build? path (← entries.openTable? path) rest
  | .item path :: rest => do build? path (← entries.openItem? path) rest
  | .definition path value :: rest => do
    build? header (← entries.within? false (Entries.define? path value) header) rest

/-- The top table of a document, or nothing if the text is not TOML. A byte order mark at its
start is skipped. -/
def parse? (text : Text) : Option Entries := do
  let text := if text.head? = some '\ufeff' then text.drop 1 else text
  build? [] [] (← statements? text)

end FullTextQuery.Toml
