import FullTextQuery.CommandLine.Run

/-!
The program on a real system: it hands its arguments and environment to the library and prints
the outcome.
-/

namespace FullTextQuery.Main

/-- The cause of a system error. -/
def osError (error : IO.Error) : OsError :=
  match number error with
  | 2 => .notFound
  | 17 => .fileExists
  | 20 => .notADirectory
  | 21 => .isADirectory
  | 36 => .nameTooLong
  | number => .other number (toString error).toList
where
  /-- The number of a system error. -/
  number : IO.Error → Nat
    | .noFileOrDirectory _ code _ | .inappropriateType _ code _ | .alreadyExists _ code _
    | .invalidArgument _ code _ | .permissionDenied _ code _ | .resourceExhausted _ code _ =>
      code.toNat
    | .otherError code _ | .resourceBusy code _ | .hardwareFault code _ => code.toNat
    | _ => 0

/-- An action whose failure is a value. -/
def attempt {α : Type} (action : IO α) : IO (Except OsError α) := do
  try return .ok (← action) catch error => return .error (osError error)

/-- The path as the system takes it. -/
def native (path : Path) : String :=
  String.ofList path

/-- Reads a stream to its end. -/
partial def readAll (stream : IO.FS.Stream) (bytes : ByteArray) : IO ByteArray := do
  let chunk ← stream.read 65536
  if chunk.isEmpty then return bytes else readAll stream (bytes ++ chunk)

/-- The system that the program runs on. -/
def host : Host IO where
  isPresent path := do
    match ← attempt (IO.FS.Handle.mk (native path) .read) with
    | .ok _ => return true
    | .error error => return error ≠ .notFound ∧ error ≠ .notADirectory ∧ error ≠ .nameTooLong
  isDirectory path := do
    match ← attempt (IO.FS.readBinFile (native path)) with
    | .ok _ => return false
    | .error error => return error = .isADirectory
  read path := attempt (IO.FS.readBinFile (native path))
  write path bytes := attempt (IO.FS.writeBinFile (native path) bytes)
  makeDirectory path := attempt (IO.FS.createDir (native path))
  standardInput := do readAll (← IO.getStdin) .empty

/-- A variable of the environment, if it is set. -/
def setting? (name : String) : IO (Option Text) := do
  return (← IO.getEnv name).map String.toList

/-- The variables that a run takes from the environment. -/
def environment : IO CommandLine.Environment := do
  return ⟨← setting? "HOME", ← setting? "RUST_LOG", ← setting? "CLICOLOR_FORCE",
    ← setting? "NO_COLOR"⟩

end FullTextQuery.Main

open FullTextQuery in
/-- Runs the program. -/
def main (arguments : List String) : IO UInt32 := do
  let outcome ←
    CommandLine.run Main.host (← Main.environment) (arguments.map String.toList)
  (← IO.getStdout).putStr (String.ofList outcome.output)
  (← IO.getStderr).putStr (String.ofList outcome.errors)
  return outcome.status.toUInt32
