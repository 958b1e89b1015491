import IndexedMesh.Command.Program

/-!
# The program as an executable

The surroundings of the program are here the file system, the standard output for what it prints,
and the standard error for its log.
-/

namespace IndexedMesh.Command

/-- What a failure of the file system means for the program. -/
def FileError.ofSystem : IO.Error → FileError
  | .noFileOrDirectory .. => .notFound
  | .inappropriateType _ 21 _ => .isDirectory
  | .inappropriateType .. => .notDirectory
  | .permissionDenied _ number reason
  | .resourceExhausted _ number reason
  | .invalidArgument _ number reason
  | .resourceBusy number reason
  | .hardwareFault number reason
  | .otherError number reason => .other s!"{reason} (os error {number})"
  | .userError _ => .other "stream did not contain valid UTF-8"
  | e => .other (toString e)

/-- Opens a file to read or write it. -/
def attemptFile {α : Type} (path : String) (mode : IO.FS.Mode) (action : IO.FS.Handle → IO α) :
    IO (Except FileError α) := do
  try return .ok (← IO.FS.withFile path mode action)
  catch e => return .error (.ofSystem e)

/-- An event as a line of the log. -/
def Event.line (format : LogFormat) (event : Event) : String :=
  match format with
  | .json =>
    let quoted (s : String) := String.ofList (Json.writeText s.toList)
    "\x7b" ++ s!"\"level\":{quoted event.level.name},\"target\":{quoted event.origin}," ++
      s!"\"message\":{quoted event.message}" ++ "\x7d"
  | _ => s!"{event.level.name} {event.origin}: {event.message}"

instance : Surroundings IO where
  readFile path := attemptFile path .read fun file => file.readToEnd
  writeFile path text := attemptFile path .write fun file => do
    file.putStr text
    file.flush
  printLine := IO.println
  showEvent format event := IO.eprintln (event.line format)

end IndexedMesh.Command

/-- Runs the program with the arguments of the process. -/
def main (arguments : List String) : IO UInt32 := do
  return UInt32.ofNat (← IndexedMesh.Command.run arguments)
