import FullTextQuery.Character.WordPart
import FullTextQuery.Text.Lowercase

/-!
Clean text: a query as typed, brought to the form that the lexemes are read from. It is lower
case, has round brackets and straight quotes only, no blanks at its ends and no two in a row. The
steps run in a fixed order, each on the whole text.
-/

namespace FullTextQuery.CleanText

open Text

/-! ## Marks -/

/-- Replaces every field marker `title:`, in any letter case, by a space. `pending` counts the
characters of a marker that are still to be skipped. -/
def dropTitleMarkersFrom (pending : Nat) : Text → Text
  | [] => []
  | c :: rest =>
    match pending with
    | n + 1 => dropTitleMarkersFrom n rest
    | 0 =>
      if (afterFolded? ['t', 'i', 't', 'l', 'e', ':'] (c :: rest)).isSome then
        ' ' :: dropTitleMarkersFrom 5 rest
      else c :: dropTitleMarkersFrom 0 rest

/-- Replaces every field marker `title:`, in any letter case, by a space. -/
def dropTitleMarkers (text : Text) : Text :=
  dropTitleMarkersFrom 0 text

/-- Brackets of every shape are round ones, and curly quotes are straight ones. -/
def plainMark (c : Char) : Char :=
  if c = '\x7b' ∨ c = '[' then '('
  else if c = '\x7d' ∨ c = ']' then ')'
  else if c = '\u201c' ∨ c = '\u201d' then '\"'
  else c

/-! ## Lines -/

/-- Drops the blanks at the start of every line, with the empty lines among them. `lineStart`
says that nothing of the line has been kept yet. -/
def dropIndentsFrom (lineStart : Bool) : Text → Text
  | [] => []
  | c :: rest =>
    if lineStart && Character.isBlank c then dropIndentsFrom true rest
    else c :: dropIndentsFrom (c == '\n') rest

/-- Drops the blanks at the start of every line. -/
def dropIndents (text : Text) : Text :=
  dropIndentsFrom true text

/-- Whether only blanks come before the next line feed or the end of the text. -/
def endsLine (text : Text) : Bool :=
  match text.dropWhile (fun c => Character.isBlank c && c != '\n') with
  | [] => true
  | c :: _ => c == '\n'

/-- Drops the blanks at the end of every line: a blank goes if its line ends after it. -/
def dropLineTails : Text → Text
  | [] => []
  | c :: rest =>
    if Character.isBlank c && endsLine rest then dropLineTails rest
    else c :: dropLineTails rest

/-- Empties every line that is nothing but the entity `&nbsp;`, in any letter case. `lineStart`
says that a line begins here, and `pending` counts the characters still to be skipped. -/
def emptyEntityLinesFrom (lineStart : Bool) (pending : Nat) : Text → Text
  | [] => []
  | c :: rest =>
    match pending with
    | n + 1 => emptyEntityLinesFrom false n rest
    | 0 =>
      if lineStart && isEntityLine (c :: rest) then emptyEntityLinesFrom false 5 rest
      else c :: emptyEntityLinesFrom (c == '\n') 0 rest
where
  /-- Whether the line that begins here is the entity alone. -/
  isEntityLine (line : Text) : Bool :=
    match afterFolded? ['&', 'n', 'b', 's', 'p', ';'] line with
    | none => false
    | some [] => true
    | some (next :: _) => next == '\n'

/-- Empties every line that is nothing but the entity `&nbsp;`. -/
def emptyEntityLines (text : Text) : Text :=
  emptyEntityLinesFrom true 0 text

/-! ## Hyphens -/

/-- Replaces a stray hyphen by a space, with the blanks it touches. A hyphen is stray before a
blank if a word ends before it, or if a blank stands before it; a blank that one stray hyphen has
used up does not make the next one stray. `afterWord` says that the character before this text
belongs to a word. -/
def dropStrayHyphensFrom (afterWord : Bool) : Text → Text
  | a :: b :: c :: rest =>
    if Character.isBlank a ∧ b = '-' ∧ Character.isBlank c then
      ' ' :: dropStrayHyphensFrom false rest
    else if afterWord ∧ a = '-' ∧ Character.isBlank b then
      ' ' :: dropStrayHyphensFrom false (c :: rest)
    else a :: dropStrayHyphensFrom (Character.isWordPart a) (b :: c :: rest)
  | [a, b] =>
    if afterWord ∧ a = '-' ∧ Character.isBlank b then [' '] else [a, b]
  | text => text

/-- Replaces every stray hyphen by a space. -/
def dropStrayHyphens (text : Text) : Text :=
  dropStrayHyphensFrom false text

/-! ## All steps -/

/-- The clean text of a query. -/
def ofRaw (query : Text) : Text :=
  let marked := (dropTitleMarkers query).map plainMark
  let lined := dropLineTails (dropIndents (squeeze ' ' marked))
  let dense := (squeeze '\n' lined).dropWhile (· == ' ')
  lowercase (trim (squeezeBlanks (dropStrayHyphens (emptyEntityLines dense))))

end FullTextQuery.CleanText
