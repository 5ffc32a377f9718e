import FullTextQuery.Text

/-!
Text as bytes in UTF-8. Files and the standard input hold bytes; names are limited by theirs.
-/

namespace FullTextQuery.Text

/-- The bytes of a text. -/
def toBytes (text : Text) : ByteArray :=
  (String.ofList text).toUTF8

/-- The text of bytes, if they are valid. -/
def ofBytes? (bytes : ByteArray) : Option Text :=
  (String.fromUTF8? bytes).map String.toList

/-- The number of bytes of a text. -/
def byteLength (text : Text) : Nat :=
  (String.ofList text).utf8ByteSize

/-- The piece of so many bytes that a text begins with. There is none if the text has fewer, or if a
character reaches over the end of the piece. -/
def firstBytes? : Text → Nat → Option Text
  | _, 0 => some []
  | [], _ + 1 => none
  | c :: rest, count + 1 =>
    if c.utf8Size ≤ count + 1 then (firstBytes? rest (count + 1 - c.utf8Size)).map (c :: ·)
    else none

end FullTextQuery.Text
