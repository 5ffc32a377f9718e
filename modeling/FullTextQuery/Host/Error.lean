import FullTextQuery.Text

/-!
Errors of the operating system, by cause. The text of an error names its number.
-/

namespace FullTextQuery

/-- Why the operating system refuses an operation on files. -/
inductive OsError where
  | notFound
  | notADirectory
  | isADirectory
  | fileExists
  | nameTooLong
  /-- A path holds the character that ends names. -/
  | nulInPath
  /-- Any other cause, by number. -/
  | other (number : Nat) (description : Text)
deriving DecidableEq, Repr

namespace OsError

/-- The text of an error with its number. -/
def numbered (description : Text) (number : Nat) : Text :=
  description ++ " (os error ".toList ++ (toString number).toList ++ [')']

/-- The text of an error. -/
def message : OsError → Text
  | .notFound => numbered "No such file or directory".toList 2
  | .notADirectory => numbered "Not a directory".toList 20
  | .isADirectory => numbered "Is a directory".toList 21
  | .fileExists => numbered "File exists".toList 17
  | .nameTooLong => numbered "File name too long".toList 36
  | .nulInPath => "file name contained an unexpected NUL byte".toList
  | .other number description => numbered description number

end OsError

end FullTextQuery
