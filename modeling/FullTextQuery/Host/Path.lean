import FullTextQuery.Text

/-!
Paths. A path is its text, and slashes separate its steps. Empty steps and steps that stay where
they are do not count as components, except that a relative path may begin with one.
-/

namespace FullTextQuery

/-- A path is its text. -/
abbrev Path := Text

namespace Path

/-- The step that stays where it is. -/
def here : Text := ['.']

/-- The step to the directory that holds this one. -/
def up : Text := ['.', '.']

/-- Whether a path starts from the root. -/
def isAbsolute (path : Path) : Bool :=
  path.head? == some '/'

/-- The texts between slashes. -/
def steps (path : Path) : List Text :=
  Text.split '/' path

/-- The components of a path, from outside in. -/
def components (path : Path) : List Text :=
  (if (steps path).head? = some here then [here] else []) ++
    (steps path).filter fun step => !step.isEmpty && step != here

/-- The path of components, from where another path starts. -/
def ofComponents (start : Path) (components : List Text) : Path :=
  (if isAbsolute start then ['/'] else []) ++ Text.join ['/'] components

/-- The path without its last component; none is left of a path without components. -/
def parent? (path : Path) : Option Path :=
  if (components path).isEmpty then none
  else some (ofComponents path (components path).dropLast)

/-- A path and the directories that hold it, from inside out. Neither the root nor the directory
that relative paths start from is among them. -/
def chain (path : Path) : List Path :=
  (List.range (components path).length).reverse.map fun n =>
    ofComponents path ((components path).take (n + 1))

/-- A path below another: a slash goes between them unless the other ends with one. -/
def below (base path : Path) : Path :=
  if base.isEmpty || base.getLast? == some '/' then base ++ path else base ++ ['/'] ++ path

end Path

end FullTextQuery
