import FullTextQuery.Character.Case
import FullTextQuery.Text

/-!
Lower case of a whole text. Characters are lowered one by one, except the capital sigma, whose
small form at the end of a word differs from the one inside it.
-/

namespace FullTextQuery.Text

open Character

/-- Whether the first character that is not skipped has case. -/
def leadsToCased (text : Text) : Bool :=
  match text.dropWhile isCaseIgnorable with
  | [] => false
  | c :: _ => isCased c

/-- Lowers the rest of a text. `afterCased` says whether the nearest character before it that is
not skipped has case: a sigma after such a character, and before none, ends its word. -/
def lowercaseFrom (afterCased : Bool) : Text → Text
  | [] => []
  | c :: rest =>
    let lowered :=
      if c = 'Σ' then [if afterCased && !leadsToCased rest then 'ς' else 'σ'] else lower c
    lowered ++ lowercaseFrom (if isCaseIgnorable c then afterCased else isCased c) rest

/-- The text in lower case. -/
def lowercase (text : Text) : Text :=
  lowercaseFrom false text

end FullTextQuery.Text
