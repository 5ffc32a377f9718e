import FullTextQuery.Host
import FullTextQuery.Text.Utf8

/-!
A tree of files as a value. Every directory and file has a location, the names that lead to it
from the root, and the tree is the list of what lies at which location. Paths are followed step by
step from the root or from the working directory: each step but the last must lead into a
directory, and a step up leaves the directory that was reached.
-/

namespace FullTextQuery

/-- What lies at a location. -/
inductive Node where
  | file (bytes : ByteArray)
  | directory

/-- The names that lead to a file or directory from the root. -/
abbrev Location := List Text

/-- Files and directories by location, and the directory that relative paths start from. -/
structure FileTree where
  /-- What lies at each location but the root. -/
  nodes : List (Location × Node)
  /-- The working directory. -/
  current : Location

namespace FileTree

/-- A tree in which only the working directory, and what holds it, is there. -/
def empty (current : Location) : FileTree :=
  ⟨(List.range current.length).map fun n => (current.take (n + 1), .directory), current⟩

/-- What lies at a location; the root is a directory. -/
def node? (tree : FileTree) (location : Location) : Option Node :=
  if location.isEmpty then some .directory else tree.nodes.lookup location

/-- Puts a node at a location, in the place of what was there. -/
def put (tree : FileTree) (location : Location) (node : Node) : FileTree :=
  { tree with nodes := (location, node) :: tree.nodes.filter fun entry => entry.1 != location }

/-- Whether a directory lies at a location. -/
def holdsDirectory (tree : FileTree) (location : Location) : Bool :=
  match tree.node? location with
  | some .directory => true
  | some (.file _) | none => false

/-! ## Following paths -/

/-- The most bytes of one name. -/
def nameLimit : Nat := 255

/-- The most bytes of a path. -/
def pathLimit : Nat := 4095

/-- Follows steps from a location. -/
def walk (tree : FileTree) (location : Location) : List Text → Except OsError Location
  | [] => .ok location
  | step :: steps =>
    if !tree.holdsDirectory location then .error .notADirectory
    else if step.isEmpty ∨ step = Path.here then walk tree location steps
    else if step = Path.up then walk tree location.dropLast steps
    else if nameLimit < step.byteLength then .error .nameTooLong
    else if (tree.node? (location ++ [step])).isNone then .error .notFound
    else walk tree (location ++ [step]) steps

/-- The location that a path starts from. -/
def start (tree : FileTree) (path : Path) : Location :=
  if path.isAbsolute then [] else tree.current

/-- What is wrong with a path whatever the files are. -/
def pathError? (path : Path) : Option OsError :=
  if path.isEmpty then some .notFound
  else if path.contains '\x00' then some .nulInPath
  else if pathLimit < path.byteLength then some .nameTooLong
  else none

/-- The location of what a path leads to. -/
def resolve (tree : FileTree) (path : Path) : Except OsError Location :=
  match pathError? path with
  | some error => .error error
  | none => tree.walk (tree.start path) path.steps

/-- Where a path would make something new. -/
inductive Place where
  /-- The path ends with the root, or with a step that makes no name. -/
  | directory
  /-- The path ends with a name in a directory; slashes may follow the name. -/
  | name (location : Location) (slashes : Bool)

/-- The place that a path leads to, whether something lies there or not. -/
def place (tree : FileTree) (path : Path) : Except OsError Place :=
  match pathError? path with
  | some error => .error error
  | none =>
    let ending := path.steps.reverse.takeWhile List.isEmpty
    match path.steps.reverse.drop ending.length with
    | [] => .ok .directory
    | last :: outer =>
      match tree.walk (tree.start path) outer.reverse with
      | .error error => .error error
      | .ok directory =>
        if !tree.holdsDirectory directory then .error .notADirectory
        else if last = Path.here ∨ last = Path.up then .ok .directory
        else if nameLimit < last.byteLength then .error .nameTooLong
        else .ok (.name (directory ++ [last]) (!ending.isEmpty))

/-! ## Operations -/

/-- Whether a path leads to anything. -/
def isPresent (tree : FileTree) (path : Path) : Bool :=
  match tree.resolve path with
  | .ok _ => true
  | .error _ => false

/-- Whether a path leads to a directory. -/
def isDirectory (tree : FileTree) (path : Path) : Bool :=
  match tree.resolve path with
  | .ok location => tree.holdsDirectory location
  | .error _ => false

/-- The bytes of a file. -/
def read (tree : FileTree) (path : Path) : Except OsError ByteArray :=
  match tree.resolve path with
  | .error error => .error error
  | .ok location =>
    match tree.node? location with
    | some (.file bytes) => .ok bytes
    | some .directory => .error .isADirectory
    | none => .error .notFound

/-- The tree after a file is written. -/
def write (tree : FileTree) (path : Path) (bytes : ByteArray) : Except OsError FileTree :=
  match tree.place path with
  | .error error => .error error
  | .ok .directory | .ok (.name _ true) => .error .isADirectory
  | .ok (.name location false) =>
    if tree.holdsDirectory location then .error .isADirectory
    else .ok (tree.put location (.file bytes))

/-- The tree after a directory is made. -/
def makeDirectory (tree : FileTree) (path : Path) : Except OsError FileTree :=
  match tree.place path with
  | .error error => .error error
  | .ok .directory => .error .fileExists
  | .ok (.name location _) =>
    if (tree.node? location).isSome then .error .fileExists
    else .ok (tree.put location .directory)

/-- Carries out an operation that changes the tree if it succeeds. -/
def attempt (operation : FileTree → Except OsError FileTree) :
    StateM FileTree (Except OsError Unit) := do
  match operation (← get) with
  | .error error => pure (.error error)
  | .ok tree => do
    set tree
    pure (.ok ())

/-- The system whose files are a tree, with the bytes of its standard input. -/
def host (standardInput : ByteArray) : Host (StateM FileTree) where
  isPresent path := do pure ((← get).isPresent path)
  isDirectory path := do pure ((← get).isDirectory path)
  read path := do pure ((← get).read path)
  write path bytes := attempt fun tree => tree.write path bytes
  makeDirectory path := attempt fun tree => tree.makeDirectory path
  standardInput := pure standardInput

end FileTree

end FullTextQuery
