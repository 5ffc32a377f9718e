import FullTextQuery.Character.Ranges

/-!
Blank characters: the property White_Space. Line feeds, tabs and the no-break space are blank;
the zero-width space is not.
-/

namespace FullTextQuery.Character

/-- The blank characters, by ranges of code points. -/
def blanks : CodeRanges :=
  [(0x0009, 0x000D), (0x0020, 0x0020), (0x0085, 0x0085), (0x00A0, 0x00A0), (0x1680, 0x1680),
   (0x2000, 0x200A), (0x2028, 0x2029), (0x202F, 0x202F), (0x205F, 0x205F), (0x3000, 0x3000)]

/-- A blank separates words and carries no meaning of its own. -/
def isBlank (c : Char) : Bool :=
  blanks.contains c.toNat

end FullTextQuery.Character
