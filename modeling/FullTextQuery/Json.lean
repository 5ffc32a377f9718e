import FullTextQuery.Text

/-!
JSON values and their two written forms: on one line without spaces, and laid out with two spaces
per level. Fields are written in the order they are given.
-/

namespace FullTextQuery

/-- A JSON value; the numbers of reports are counts. -/
inductive Json where
  | null
  | boolean (value : Bool)
  | number (value : Nat)
  | string (text : Text)
  | array (items : List Json)
  | object (fields : List (Text × Json))

namespace Json

/-- A text, or null in its absence. -/
def ofOption (text : Option Text) : Json :=
  match text with
  | none => .null
  | some text => .string text

/-! ## Scalars -/

/-- One character inside a JSON string: only quotes, backslashes and the controls below the space
are escaped. -/
def escapedChar (c : Char) : Text :=
  if c = '\"' then ['\\', '\"']
  else if c = '\\' then ['\\', '\\']
  else if c = '\x08' then ['\\', 'b']
  else if c = '\t' then ['\\', 't']
  else if c = '\n' then ['\\', 'n']
  else if c = '\x0c' then ['\\', 'f']
  else if c = '\r' then ['\\', 'r']
  else if c < ' ' then
    ['\\', 'u', '0', '0', Nat.digitChar (c.toNat / 16), Nat.digitChar (c.toNat % 16)]
  else [c]

/-- A JSON string. -/
def stringText (text : Text) : Text :=
  ['\"'] ++ text.flatMap escapedChar ++ ['\"']

/-! ## One line -/

mutual

/-- A value on one line. -/
def compact : Json → Text
  | .null => "null".toList
  | .boolean value => Text.ofBool value
  | .number value => (toString value).toList
  | .string text => stringText text
  | .array items => ['['] ++ Text.join [','] (compactItems items) ++ [']']
  | .object fields => ['\x7b'] ++ Text.join [','] (compactFields fields) ++ ['\x7d']

/-- The items of an array, each on one line. -/
def compactItems : List Json → List Text
  | [] => []
  | item :: items => compact item :: compactItems items

/-- The fields of an object, each on one line. -/
def compactFields : List (Text × Json) → List Text
  | [] => []
  | (name, value) :: fields =>
    (stringText name ++ [':'] ++ compact value) :: compactFields fields

end

/-! ## Laid out -/

/-- A new line at a level of indentation. -/
def lineBreak (level : Nat) : Text :=
  '\n' :: List.replicate (2 * level) ' '

/-- Brackets around parts, each part on a line of its own; without parts nothing stands between
the brackets. -/
def block (level : Nat) (opening closing : Char) (parts : List Text) : Text :=
  if parts.isEmpty then [opening, closing]
  else
    [opening] ++ lineBreak (level + 1) ++ Text.join ([','] ++ lineBreak (level + 1)) parts ++
      lineBreak level ++ [closing]

mutual

/-- A value laid out, its first line being at a level of indentation. -/
def prettyAt (level : Nat) : Json → Text
  | .null => "null".toList
  | .boolean value => Text.ofBool value
  | .number value => (toString value).toList
  | .string text => stringText text
  | .array items => block level '[' ']' (prettyItems (level + 1) items)
  | .object fields => block level '\x7b' '\x7d' (prettyFields (level + 1) fields)

/-- The items of an array, each laid out. -/
def prettyItems (level : Nat) : List Json → List Text
  | [] => []
  | item :: items => prettyAt level item :: prettyItems level items

/-- The fields of an object, each laid out. -/
def prettyFields (level : Nat) : List (Text × Json) → List Text
  | [] => []
  | (name, value) :: fields =>
    (stringText name ++ [':', ' '] ++ prettyAt level value) :: prettyFields level fields

end

/-- A value laid out over lines. -/
def pretty (value : Json) : Text :=
  prettyAt 0 value

end Json

end FullTextQuery
