import FullTextQuery.Character.Visible
import FullTextQuery.Text

/-!
Quoted text: any text written between double quotes on one line, so that different texts have
different quoted forms. Reports and log messages show queries and tokens this way.
-/

namespace FullTextQuery.Text

/-- The digits of a number in base sixteen, small letters, no leading zero. -/
def hexadecimal (n : Nat) : Text :=
  Nat.toDigits 16 n

/-- One character between quotes: a short escape, the character itself if it is visible, or else
its number in braces. -/
def quotedChar (c : Char) : Text :=
  if c = '\x00' then ['\\', '0']
  else if c = '\t' then ['\\', 't']
  else if c = '\r' then ['\\', 'r']
  else if c = '\n' then ['\\', 'n']
  else if c = '\\' then ['\\', '\\']
  else if c = '\"' then ['\\', '\"']
  else if Character.isVisible c then [c]
  else ['\\', 'u', '\x7b'] ++ hexadecimal c.toNat ++ ['\x7d']

/-- A text between double quotes. -/
def quoted (text : Text) : Text :=
  ['\"'] ++ text.flatMap quotedChar ++ ['\"']

/-- A list of quoted texts between square brackets. -/
def quotedList (texts : List Text) : Text :=
  ['['] ++ join [',', ' '] (texts.map quoted) ++ [']']

end FullTextQuery.Text
