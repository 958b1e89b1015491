import IndexedMesh.Pattern.Reader
import IndexedMesh.Text.Characters
import IndexedMesh.Text.Numerals

/-!
# Directives

A directive sets the most detailed level that is shown of some events: of all, of those whose
origin starts with a target, or of those that are logged in a span of some name, with some field.
As a text it is a level, a target, or both with an equals sign between them, and in front of the
equals sign there may be a span in square brackets, with a field in curly ones:
`target[span{field=value}]=level`. The value is a number or else a pattern that the end of what the
field says has to match; if it is neither, the directive is malformed.

Blanks around a directive do not count where its marks are looked for, but its parts are counted
off, in bytes, from its very start. So blanks in front of it shift all of its parts, and a part may
then begin or end in the middle of a character. Such a directive cannot be cut into its parts.

## Main definitions

* `Directive` — a directive, and `Directive.parse` reads one.
* `DirectiveFault` — why a text is not a directive.
-/

namespace IndexedMesh.Command

/-- What a field has to say. -/
inductive ValueTest
  | number (n : Nat)
  /-- a text at whose end a pattern is found, with the pattern as it was written -/
  | pattern (source : String) (pattern : Pattern)
  /-- a value of a kind that no field has -/
  | never
deriving DecidableEq

/-- The least number that no field can have. -/
def numberLimit : Nat := UInt64.size

/-- Reads what a field has to say. What is no number and no truth value is a pattern. -/
def ValueTest.parse? (text : String) : Option ValueTest :=
  match Text.parseNatural? text with
  | some n => some (if n < numberLimit then .number n else .never)
  | none =>
    if text = "true" || text = "false" || Text.isNumeral text then some .never
    else (Pattern.parse? text).map (.pattern text)

/-- A field that a span or an event has to have. -/
structure FieldTest where
  name : String
  /-- what the field has to say, if that matters -/
  value : Option ValueTest
deriving DecidableEq

/-- How much detail is shown of some events. -/
structure Directive where
  /-- what the origin starts with -/
  target : String := ""
  /-- the name of the span -/
  span : Option String := none
  field : Option FieldTest := none
  detail : Nat
deriving DecidableEq

/-- The most detail there is. -/
def fullDetail : Nat := 5

/-- The detail that a level stands for, by name or by number. -/
def parseDetail? (text : String) : Option Nat :=
  match Text.parseNatural? text with
  | some n => if n ≤ fullDetail then some n else none
  | none =>
    match text.toLower with
    | "off" => some 0
    | "error" => some 1
    | "warn" => some 2
    | "info" => some 3
    | "debug" => some 4
    | "trace" => some fullDetail
    | _ => none

/-- Why a text is not a directive. -/
inductive DirectiveFault
  /-- it is not of the form of one -/
  | malformed
  /-- it cannot be cut into its parts -/
  | uncut
deriving DecidableEq

/-! ## The parts of a directive -/

/-- A place in a directive. -/
structure DirectiveCursor where
  /-- the whole text, with the blanks around it -/
  text : List Char
  /-- the number of bytes before the place -/
  position : Nat
  /-- what follows, without the blanks around the directive -/
  rest : List Char

/-- Goes through a directive. -/
abbrev DirectiveReader := StateT DirectiveCursor (Except DirectiveFault)

namespace DirectiveReader

/-- The part of the whole text from the present place on. -/
def partFromHere : DirectiveReader (List Char) := do
  match Text.splitBytes? (← get).position (← get).text with
  | some (_, part) => return part
  | none => throw .uncut

/-- Goes past the next of some marks. Returns the mark and the part before it. -/
def upTo (isMark : Char → Bool) : DirectiveReader (String × Char) := do
  let { text, position, rest } ← get
  let size := Text.byteLength (rest.takeWhile fun c => !isMark c)
  match rest.dropWhile fun c => !isMark c with
  | [] => throw .malformed
  | mark :: rest =>
    let some (part, _) := Text.splitBytes? size (← partFromHere) | throw .uncut
    set ({ text, position := position + size + 1, rest } : DirectiveCursor)
    return (String.ofList part, mark)

/-- Goes past a mark that has to come next. -/
def expect (mark : Char) : DirectiveReader Unit := do
  let { text, position, rest } ← get
  match rest with
  | c :: rest =>
    if c = mark then set ({ text, position := position + 1, rest } : DirectiveCursor)
    else throw .malformed
  | [] => throw .malformed

/-- The level, which is all that is left. Without one all detail is shown. -/
def detail : DirectiveReader Nat := do
  match ← partFromHere with
  | [] => return fullDetail
  | level =>
    match parseDetail? (String.ofList level) with
    | some detail => return detail
    | none => throw .malformed

/-- A field, and a value if one is given. What follows a second equals sign does not count. -/
def field (text : String) : DirectiveReader FieldTest := do
  match text.splitOn "=" with
  | name :: value :: _ =>
    match ValueTest.parse? value with
    | some value => return { name, value := some value }
    | none => throw .malformed
  | _ => if text = "" then throw .malformed else return { name := text, value := none }

/-- What comes after the opening bracket of a span. -/
def inSpan (target : String) : DirectiveReader Directive := do
  let (name, mark) ← upTo fun c => c = ']' || c = '\x7b'
  let field ← if mark = ']' then pure none else do
    let (text, _) ← upTo fun c => c = '\x7d'
    let field ← field text
    expect ']'
    pure (some field)
  let span := if field.isSome && name = "" then none else some name
  if (← get).rest = [] then return { target, span, field, detail := fullDetail }
  else
    expect '='
    return { target, span, field, detail := ← detail }

end DirectiveReader

/-- Whether a directive can start with a character: a letter, a digit or one of three marks. -/
def startsDirective (c : Char) : Bool :=
  Text.isAlphanumeric c || c = '-' || c = ':' || c = '_'

/-- Reads a directive. A word that is no level is a target, which is shown in full detail. -/
def Directive.parse (text : String) : Except DirectiveFault Directive :=
  let rest := Text.trim text.toList
  let cursor : DirectiveCursor := { text := text.toList, position := 0, rest }
  match rest with
  | [] => .error .malformed
  | '[' :: rest => (DirectiveReader.inSpan "").run' { cursor with position := 1, rest }
  | first :: _ =>
    if !startsDirective first then .error .malformed
    else if rest.any fun c => c = '=' || c = '[' then
      (do
        let (target, mark) ← DirectiveReader.upTo fun c => c = '=' || c = '['
        if mark = '[' then DirectiveReader.inSpan target
        else return { target, detail := ← DirectiveReader.detail } :
        DirectiveReader Directive).run' cursor
    else
      match parseDetail? text with
      | some detail => .ok { detail }
      | none => .ok { target := text, detail := fullDetail }

end IndexedMesh.Command
