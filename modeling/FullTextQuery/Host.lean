import FullTextQuery.Host.Error
import FullTextQuery.Host.Path

/-!
What the program asks of the system it runs on, for any kind of effects: the real system is one
instance, and a tree of files kept as a value is another. Making a directory with the missing
ones around it is built from the single operations.
-/

namespace FullTextQuery

/-- The operations of a system. -/
structure Host (m : Type → Type) where
  /-- Whether a path leads to anything. -/
  isPresent : Path → m Bool
  /-- Whether a path leads to a directory. -/
  isDirectory : Path → m Bool
  /-- The bytes of a file. -/
  read : Path → m (Except OsError ByteArray)
  /-- Gives a file its bytes, and makes the file if there is none. -/
  write : Path → ByteArray → m (Except OsError Unit)
  /-- Makes a directory in one that is there. -/
  makeDirectory : Path → m (Except OsError Unit)
  /-- All bytes of the standard input. -/
  standardInput : m ByteArray

namespace Host

variable {m : Type → Type} [Monad m]

/-- Whether it is no harm that a directory could not be made: it is there already. -/
def isSettled (host : Host m) (dir : Path) (error : OsError) : m Bool :=
  if error = .fileExists then host.isDirectory dir else pure false

/-- Makes the first of directories that each lie in the next, and those around it that are
missing. -/
def makeChain (host : Host m) : List Path → m (Except OsError Unit)
  | [] => pure (.ok ())
  | dir :: outer => do
    match ← host.makeDirectory dir with
    | .ok () => pure (.ok ())
    | .error .notFound =>
      match ← host.makeChain outer with
      | .error error => pure (.error error)
      | .ok () =>
        match ← host.makeDirectory dir with
        | .ok () => pure (.ok ())
        | .error error => if ← host.isSettled dir error then pure (.ok ()) else pure (.error error)
    | .error error => if ← host.isSettled dir error then pure (.ok ()) else pure (.error error)

/-- Makes a directory and the missing ones that hold it. -/
def makeDirectories (host : Host m) (dir : Path) : m (Except OsError Unit) :=
  host.makeChain (Path.chain dir)

end Host

end FullTextQuery
