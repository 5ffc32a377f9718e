import FullTextQuery.Character.Blank

/-!
Text, and the operations on it that several parts of the library share: trimming, squeezing runs,
splitting and joining. Each is a recursion on the characters, so that a rule about it follows the
same recursion.
-/

namespace FullTextQuery

/-- Text is the list of its characters. -/
abbrev Text := List Char

namespace Text

open Character

/-! ## Blanks at the ends -/

/-- Text without a visible mark: empty, or blanks only. -/
def isBlank (text : Text) : Bool :=
  text.all Character.isBlank

/-- Drops the blanks that the text starts with. -/
def trimStart (text : Text) : Text :=
  text.dropWhile Character.isBlank

/-- Drops the blanks that the text ends with: a blank goes if nothing is left after it. -/
def trimEnd : Text → Text
  | [] => []
  | c :: rest =>
    match trimEnd rest with
    | [] => if Character.isBlank c then [] else [c]
    | kept => c :: kept

/-- Drops the blanks at both ends. -/
def trim (text : Text) : Text :=
  trimEnd (trimStart text)

/-! ## Runs -/

/-- Keeps one character of every run of `mark`. -/
def squeeze (mark : Char) : Text → Text
  | [] => []
  | c :: rest =>
    if c = mark ∧ rest.head? = some mark then squeeze mark rest
    else c :: squeeze mark rest

/-- Replaces every run of two or more blanks by one space, and leaves a blank that stands alone.
`within` says that a run has begun and its space is written. -/
def squeezeBlanksFrom (within : Bool) : Text → Text
  | [] => []
  | c :: rest =>
    if Character.isBlank c then
      if within then squeezeBlanksFrom true rest
      else if rest.head?.any Character.isBlank then ' ' :: squeezeBlanksFrom true rest
      else c :: squeezeBlanksFrom false rest
    else c :: squeezeBlanksFrom false rest

/-- Replaces every run of two or more blanks by one space. -/
def squeezeBlanks (text : Text) : Text :=
  squeezeBlanksFrom false text

/-! ## Pieces -/

/-- The pieces between the separators: one more than there are separators. -/
def split (separator : Char) : Text → List Text
  | [] => [[]]
  | c :: rest =>
    if c = separator then [] :: split separator rest
    else
      match split separator rest with
      | [] => [[c]]
      | piece :: pieces => (c :: piece) :: pieces

/-- Puts a separator between neighbours. -/
def join (separator : Text) : List Text → Text
  | [] => []
  | [text] => text
  | text :: texts => text ++ separator ++ join separator texts

/-- What follows `lead` at the start of a text, up to letter case. The fold is the simple one, by
which the long s equals s and the Kelvin sign equals k. -/
def afterFolded? (lead : Text) (text : Text) : Option Text :=
  match lead, text with
  | [], rest => some rest
  | _ :: _, [] => none
  | l :: ls, c :: cs => if foldCase c = l then afterFolded? ls cs else none
where
  /-- The small letter that stands for a character in comparisons without case. -/
  foldCase (c : Char) : Char :=
    if c = '\u017f' then 's' else if c = '\u212a' then 'k' else c.toLower

/-- A truth value in words. -/
def ofBool (value : Bool) : Text :=
  if value then ['t', 'r', 'u', 'e'] else ['f', 'a', 'l', 's', 'e']

/-- Pads with spaces on the right up to a width. -/
def padEnd (width : Nat) (text : Text) : Text :=
  text ++ List.replicate (width - text.length) ' '

end Text

end FullTextQuery
