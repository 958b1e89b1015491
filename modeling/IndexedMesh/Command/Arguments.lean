import IndexedMesh.Command.Log.Event
import IndexedMesh.Document.Block
import IndexedMesh.Text.Numerals

/-!
# Arguments of the program

The program takes options, then the name of a command, then the options and words of the command.
An option has a long name and mostly a letter; it is a flag, or takes a value, which is attached
to it or is the next argument. Letters of flags can be put together. After two dashes every
argument is a word.

No option may be given twice. A value that is not attached may not look like an option. It is held
back: what it says is looked at when the next option or word of the same command comes, or else
when everything after it has been taken. So a request for help among the arguments of a command
comes before a complaint about the value in front of the command.

## Main definitions

* `OptionSpec`, `scan` — options and words of an argument list.
* `Arguments`, `Action` — what the program is asked to do.
* `Arguments.parse` — reads the arguments.
-/

namespace IndexedMesh.Command

/-! ## Options and words -/

/-- Why the arguments ask for no action. -/
inductive Refusal
  /-- they ask for help -/
  | help
  /-- they ask for the version -/
  | version
  /-- they make no sense -/
  | invalid
deriving DecidableEq

/-- What may follow the name of an option. -/
inductive Operand
  /-- nothing: the option is a flag -/
  | nothing
  /-- a value that passes a test -/
  | value (test : String → Bool)
  /-- nothing: the option asks for something else than an action -/
  | instead (refusal : Refusal)

/-- An option that is understood. -/
structure OptionSpec where
  name : String
  letter : Option Char
  operand : Operand

/-- The value of an option, not yet tested. -/
structure HeldValue where
  name : String
  value : String
  test : String → Bool

/-- The options and words of an argument list. A flag counts as an option with an empty value. -/
structure Scanned where
  options : List (String × String) := []
  words : List String := []
  held : Option HeldValue := none

namespace Scanned

/-- The value of an option, if it is given. -/
def value? (s : Scanned) (name : String) : Option String :=
  (s.options.find? (·.1 = name)).map (·.2)

/-- Adds an option that is not there yet and whose value passes the test. -/
def addOption (s : Scanned) (name value : String) (test : String → Bool) :
    Except Refusal Scanned :=
  if (s.value? name).isSome || !test value then .error .invalid
  else .ok { s with options := s.options ++ [(name, value)] }

/-- Adds the option whose value is held back. -/
def settle (s : Scanned) : Except Refusal Scanned :=
  match s.held with
  | none => .ok s
  | some h => { s with held := none }.addOption h.name h.value h.test

/-- Adds words. -/
def addWords (s : Scanned) (words : List String) : Scanned := { s with words := s.words ++ words }

end Scanned

/-- Whether an argument is taken for an option and not for a value. -/
def looksLikeOption (argument : String) : Bool :=
  match argument.toList with
  | '-' :: _ :: _ => true
  | _ => false

/-- What is left to do after an argument: nothing, or to find the value of its option. -/
inductive Pending
  | nothing
  | value (name : String) (test : String → Bool)

/-- Takes an option by its long name, with the value attached to it. -/
def scanLong (specs : List OptionSpec) (found : Scanned) (body : List Char) :
    Except Refusal (Scanned × Pending) :=
  let name := String.ofList (body.takeWhile (· ≠ '='))
  let attached := match body.dropWhile (· ≠ '=') with
    | [] => none
    | _ :: value => some (String.ofList value)
  match specs.find? (·.name = name), attached with
  | none, _ => .error .invalid
  | some spec, attached =>
    match spec.operand, attached with
    | .instead refusal, none => .error refusal
    | .nothing, none => return (← found.addOption name "" fun _ => true, .nothing)
    | .value test, none => return (found, .value name test)
    | .value test, some value => return (← found.addOption name value test, .nothing)
    | _, some _ => .error .invalid

/-- Takes options by their letters. The letters after one that takes a value are the value; they
may be set off by an equals sign. -/
def scanLetters (specs : List OptionSpec) (found : Scanned) :
    List Char → Except Refusal (Scanned × Pending)
  | [] => .ok (found, .nothing)
  | letter :: more =>
    match specs.find? (·.letter = some letter) with
    | none => .error .invalid
    | some spec =>
      match spec.operand, more with
      | .instead refusal, _ => .error refusal
      | .nothing, more => do
        scanLetters specs (← found.addOption spec.name "" fun _ => true) more
      | .value test, [] => .ok (found, .value spec.name test)
      | .value test, '=' :: value => do
        return (← found.addOption spec.name (String.ofList value) test, .nothing)
      | .value test, value => do
        return (← found.addOption spec.name (String.ofList value) test, .nothing)

/-- Takes an argument that starts with a dash and `second`. -/
def scanOption (specs : List OptionSpec) (found : Scanned) (second : Char) (more : List Char) :
    Except Refusal (Scanned × Pending) :=
  if second = '-' then scanLong specs found more else scanLetters specs found (second :: more)

/-- Goes through an argument list. With `room` given it takes so many words at most, and one word
more fails at once, whatever comes after it; otherwise it stops before the first word and returns
what is left. The last value may still be held back. -/
def scan (specs : List OptionSpec) (room : Option Nat) (found : Scanned) :
    List String → Except Refusal (Scanned × List String)
  | [] => .ok (found, [])
  | argument :: rest =>
    match argument.toList with
    | ['-', '-'] =>
      match room with
      | none => .error .invalid
      | some room => do
        if room < rest.length then throw .invalid
        return ((← found.settle).addWords rest, [])
    | '-' :: second :: more => do
      match ← scanOption specs (← found.settle) second more, rest with
      | (found, .nothing), rest => scan specs room found rest
      | (_, .value ..), [] => throw .invalid
      | (found, .value name test), value :: rest =>
        if looksLikeOption value then throw .invalid
        else scan specs room { found with held := some { name, value, test } } rest
    | _ =>
      match room with
      | none => .ok (found, argument :: rest)
      | some 0 => .error .invalid
      | some (room + 1) => do
        scan specs (some room) ((← found.settle).addWords [argument]) rest

/-- Takes the arguments of a command with at most `room` words. -/
def scanCommand (specs : List OptionSpec) (room : Nat) (arguments : List String) :
    Except Refusal Scanned := do
  let (found, _) ← scan specs (some room) {} arguments
  found.settle

/-! ## What the program is asked to do -/

/-- A command with its own arguments. -/
inductive Action
  /-- lists the blocks of the document -/
  | blocks
  /-- lists operations: those for a selection, or all -/
  | list (block : Option BlockId) (all : Bool)
  /-- carries out an operation and saves the document -/
  | perform (operation : String) (block : Option BlockId) (mode : Nat) (clipboard : String)
      (output : Option String)
deriving DecidableEq

/-- What the program is asked to do. -/
structure Arguments where
  logFilter : String
  logFormat : LogFormat
  document : String
  action : Action
deriving DecidableEq

/-- The filter that is used if none is given. -/
def defaultLogFilter : String := "warn,meshmend=info,hedron=info,meshmend_cli=info"

/-- The file that is used for the clipboard if none is given. -/
def defaultClipboard : String := "meshmend-clipboard.json"

/-- A handle in an argument: an integer of 64 bits that is in the range of handles. -/
def parseBlockId? (text : String) : Option BlockId :=
  match Text.parseInteger? text with
  | some (.ofNat n) => if n < UInt32.size then some ⟨UInt32.ofNat n⟩ else none
  | _ => none

/-- A mode in an argument: a natural number of 64 bits. -/
def parseMode? (text : String) : Option Nat :=
  (Text.parseNatural? text).filter (· < UInt64.size)

/-- A path may be any text but the empty one. -/
def isPath (text : String) : Bool := text ≠ ""

/-- The option that asks for help. -/
def helpOption : OptionSpec := ⟨"help", some 'h', .instead .help⟩

/-- The option that selects a block. -/
def blockOption : OptionSpec := ⟨"block", some 'b', .value fun s => (parseBlockId? s).isSome⟩

/-- The options before the command. -/
def programOptions : List OptionSpec := [
  ⟨"log-filter", some 'l', .value fun _ => true⟩,
  ⟨"log-format", none, .value fun s => (LogFormat.parse? s).isSome⟩,
  ⟨"document", some 'd', .value isPath⟩,
  ⟨"version", some 'V', .instead .version⟩,
  helpOption]

/-- The options of the command that lists operations. -/
def listOptions : List OptionSpec := [
  blockOption,
  ⟨"all", some 'a', .nothing⟩,
  helpOption]

/-- The options of the command that carries out an operation. -/
def castOptions : List OptionSpec := [
  blockOption,
  ⟨"mode", some 'm', .value fun s => (parseMode? s).isSome⟩,
  ⟨"clipboard", some 'c', .value isPath⟩,
  ⟨"output", some 'o', .value isPath⟩,
  helpOption]

/-- The block that is selected. -/
def Scanned.block? (s : Scanned) : Option BlockId := (s.value? "block").bind parseBlockId?

/-- The names of the commands. Help can be asked for on each, and on asking for help. -/
def commandNames : List String := ["blocks", "list", "cast", "help"]

/-- Reads the name of a command and what follows it. -/
def Action.parse : List String → Except Refusal Action
  | [] => .error .invalid
  | "blocks" :: rest => do
    let _ ← scanCommand [helpOption] 0 rest
    return .blocks
  | "list" :: rest => do
    let found ← scanCommand listOptions 0 rest
    return .list found.block? (found.value? "all").isSome
  | "cast" :: rest => do
    let found ← scanCommand castOptions 1 rest
    match found.words with
    | [operation] =>
      return .perform operation found.block?
        (((found.value? "mode").bind parseMode?).getD 0)
        ((found.value? "clipboard").getD defaultClipboard)
        (found.value? "output")
    | _ => throw .invalid
  | ["help"] => .error .help
  | ["help", name] => .error (if commandNames.contains name then .help else .invalid)
  | _ :: _ => .error .invalid

/-- Reads the arguments of the program. -/
def Arguments.parse (arguments : List String) : Except Refusal Arguments := do
  let (front, rest) ← scan programOptions none {} arguments
  let action ← Action.parse rest
  let found ← front.settle
  match found.value? "document" with
  | none => throw .invalid
  | some document =>
    return {
      logFilter := (found.value? "log-filter").getD defaultLogFilter
      logFormat := ((found.value? "log-format").bind LogFormat.parse?).getD .pretty
      document
      action }

end IndexedMesh.Command
