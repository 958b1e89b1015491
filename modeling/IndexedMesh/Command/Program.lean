import IndexedMesh.Command.Arguments
import IndexedMesh.Command.Files
import IndexedMesh.Command.Log.Filter
import IndexedMesh.Document.Format
import IndexedMesh.Edit.Operation
import IndexedMesh.Text.Characters

/-!
# The program

The program reads a document from a file, lists what is in it or what can be done with it, or
carries out an operation and saves the document. The clipboard is a file of its own, so that data
can go from one document to another.

What the program asks of its surroundings are four steps: reading and writing a file, printing a
line and showing an event of its log. The program itself is the same in any surroundings that
offer them.

## Main definitions

* `Surroundings` — the four steps.
* `run` — the program.
* `Desk` — surroundings that are a value, and `runOn`, the program in them.
-/

namespace IndexedMesh.Command

/-- What the program asks of its surroundings. -/
class Surroundings (m : Type → Type) where
  readFile : (path : String) → m (Except FileError String)
  writeFile : (path text : String) → m (Except FileError Unit)
  printLine : String → m Unit
  showEvent : LogFormat → Event → m Unit

/-- Why the program does not do what it is asked. -/
inductive Failure
  /-- a file cannot be read or written -/
  | inaccessible (path : String) (error : FileError)
  /-- a file does not hold a document -/
  | notDocument (path : String) (fault : Json.Fault)
  /-- the operation is not carried out -/
  | refused (error : Error)
deriving DecidableEq

/-- The failure in words. -/
def Failure.message : Failure → String
  | inaccessible path error => s!"could not access {path}: {error.message}"
  | notDocument path _ => s!"{path} is not a valid mesh document"
  | refused (.clipboard reason) => s!"{(Error.clipboard reason).message}: {reason}"
  | refused error => error.message

variable {m : Type → Type} [Monad m] [Surroundings m]

/-! ## The log of the program -/

/-- The part of the program that reads and writes files. -/
def programOrigin : String := "meshmend"

/-- The part of the program that carries out operations. -/
def operationOrigin : String := "meshmend::ops"

/-- The part of it that tells what an operation did. -/
def noticeOrigin : String := "meshmend::ops::notice"

/-- Which events are shown, and how. -/
structure Logging where
  filter : LogFilter
  format : LogFormat

/-- Logs an event, which is shown if the filter shows it. -/
def Logging.log (logging : Logging) (event : Event) : m Unit := do
  if logging.filter.shows event then Surroundings.showEvent logging.format event

/-- The event of a document that was saved. -/
def savedEvent : Event where
  level := .info
  origin := programOrigin
  message := "saved document"
  fields := ["message", "path"]

/-- The event of a failure. -/
def failureEvent (failure : Failure) : Event where
  level := .error
  origin := programOrigin
  message := failure.message

/-- The work on an operation. -/
def operationSpan (op : Operation) (mode : Nat) : Span where
  level := .info
  origin := operationOrigin
  name := "cast"
  fields := [("op", .text op.name), ("mode", .number mode)]

/-- The event of a notice. -/
def noticeEvent (span : Option Span) (notice : Notice) : Event where
  level := if notice.isWarning then .warn else .info
  origin := noticeOrigin
  message := notice.text
  span := span

/-! ## Doing what is asked -/

/-- Reads a document. -/
def load (path : String) : ExceptT Failure m Document := do
  match ← Surroundings.readFile (m := m) path with
  | .error e => throw (.inaccessible path e)
  | .ok text =>
    match Document.format.parse text with
    | .ok document => return document
    | .error fault => throw (.notDocument path fault)

/-- Writes a document. -/
def save (logging : Logging) (document : Document) (path : String) : ExceptT Failure m Unit := do
  match ← Surroundings.writeFile (m := m) path (Document.format.pretty document) with
  | .error e => throw (.inaccessible path e)
  | .ok () => logging.log (m := m) savedEvent

/-- The clipboard in a file. A file that is not there or says nothing is an empty clipboard. -/
def Clipboard.ofFile : Except FileError String → Clipboard
  | .ok text => if Text.isAllBlank text then {} else { text := some text }
  | .error .notFound => {}
  | .error e => { unreadable := some e.message }

/-- Lists the blocks of a document. -/
def blockLines (document : Document) : List String :=
  document.ids.filterMap fun id => (document.kind? id).map fun kind => s!"{id.name}\t{kind.name}"

/-- Lists an operation and its modes. -/
def operationLines (op : Operation) : List String :=
  op.path :: op.modes.zipIdx.map fun (mode, number) => s!"\t{number}: {mode}"

/-- The clipboard that an operation finds. Its file is only read for an operation that needs it. -/
def clipboardFor (operation : String) (path : String) : m Clipboard := do
  if (Operation.find? operation).any (·.readsClipboard) then
    return Clipboard.ofFile (← Surroundings.readFile path)
  else return {}

/-- Carries out an operation. If it changes the clipboard, the file of the clipboard is written
before anything is told about the operation. -/
def performOn (document : Document) (operation : String) (block : Option BlockId) (mode : Nat)
    (clipboardPath : String) : ExceptT Failure m (Outcome × Document) := do
  let clipboard ← clipboardFor (m := m) operation clipboardPath
  let (result, workspace) := (performNamed operation block mode).run { document, clipboard }
  match result with
  | .error e => throw (.refused e)
  | .ok outcome =>
    if workspace.clipboard ≠ clipboard then
      match ← Surroundings.writeFile (m := m) clipboardPath (workspace.clipboard.text.getD "") with
      | .error e => throw (.refused (.clipboard e.message))
      | .ok () => pure ()
    return (outcome, workspace.document)

/-- Does what the arguments ask for. -/
def carryOut (logging : Logging) (arguments : Arguments) : ExceptT Failure m Unit := do
  let document ← load arguments.document
  match arguments.action with
  | .blocks => (blockLines document).forM fun line => Surroundings.printLine (m := m) line
  | .list block all =>
    let operations := Operation.all.filter fun op => all || op.applies document block
    (operations.flatMap operationLines).forM fun line => Surroundings.printLine (m := m) line
  | .perform operation block mode clipboard output =>
    let (outcome, document) ← performOn document operation block mode clipboard
    let span := (Operation.find? operation).map (operationSpan · mode)
    outcome.notices.forM fun notice => logging.log (m := m) (noticeEvent span notice)
    outcome.notices.forM fun notice => Surroundings.printLine (m := m) notice.text
    if !outcome.isNoop then save logging document (output.getD arguments.document)

/-- What is printed when help is asked for. -/
def helpLines : List String := [
  "Index-consistent vertex editing for indexed triangle meshes",
  "",
  "Options: [-l FILTER] [--log-format compact|full|pretty|json] -d DOCUMENT",
  "Commands:",
  "  blocks                 list the blocks of the document",
  "  list [-b BLOCK] [-a]   list the operations for a block or for the document",
  "  cast OPERATION [-b BLOCK] [-m MODE] [-c CLIPBOARD] [-o OUTPUT]",
  "                         carry out an operation and save the result"]

/-- What is printed when the version is asked for. -/
def versionLine : String := "meshmend-cli 0.1.0"

/-- The program: takes its arguments and returns its exit code. It breaks off before it does
anything if there is no filter for its log. -/
def run (arguments : List String) : m Nat := do
  match Arguments.parse arguments with
  | .error .help =>
    helpLines.forM Surroundings.printLine
    return 0
  | .error .version =>
    Surroundings.printLine versionLine
    return 0
  | .error .invalid => return 2
  | .ok arguments =>
    match LogFilter.parse? arguments.logFilter with
    | none => return 101
    | some filter =>
      let logging := { filter, format := arguments.logFormat }
      match ← (carryOut logging arguments).run with
      | .ok () => return 0
      | .error failure =>
        logging.log (failureEvent failure)
        return 1

/-! ## The program on a desk -/

/-- Surroundings that are a value: files, what was printed and the events shown so far. -/
structure Desk where
  files : FileTree
  output : String := ""
  events : List (LogFormat × Event) := []

instance : Surroundings (StateM Desk) where
  readFile path := return (← get).files.read path
  writeFile path text := do
    match (← get).files.write path text with
    | .error e => return .error e
    | .ok files =>
      modify fun desk => { desk with files, output := desk.output ++ desk.files.printed path text }
      return .ok ()
  printLine line := modify fun desk => { desk with output := desk.output ++ line ++ "\n" }
  showEvent format event :=
    modify fun desk => { desk with events := desk.events ++ [(format, event)] }

/-- Runs the program in a directory. Returns the exit code and what the desk is like afterwards. -/
def runOn (files : FileTree) (arguments : List String) : Nat × Desk :=
  (run arguments : StateM Desk Nat).run { files }

end IndexedMesh.Command
