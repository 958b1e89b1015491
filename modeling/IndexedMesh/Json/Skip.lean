import IndexedMesh.Json.Number
import IndexedMesh.Json.Text

/-!
# Values that are not wanted

A record may hold members that nobody asked for; their values are gone past without being built.
They have to be well formed, to any depth, but nothing in them has to have a value: a number may
be out of every range.

A value of the wrong kind is different. It fails as a mismatch, but only after its first token
has been found well formed.

## Main definitions

* `skipValue` — goes past one value of any kind.
* `mismatched` — fails at a value of the wrong kind.
-/

namespace IndexedMesh.Json

/-! ## Skipping

The places where a text can stand inside a nested value are the states of a small machine. What
encloses the place is kept on a stack, so depth costs no recursion. -/

/-- What encloses a place in a text. -/
inductive Bracket
  | square
  | brace

/-- The bracket that ends it. -/
def Bracket.closing : Bracket → Char
  | .square => ']'
  | .brace => '}'

/-- What has to come next. -/
inductive Place
  /-- a value -/
  | value
  /-- the name of a member, and its value -/
  | name
  /-- a comma, or the end of what encloses this place -/
  | after

/-- Goes past a value that has no parts, or past the bracket that opens one that has. Returns the
bracket. -/
def skipHead : Reader (Option Bracket) := do
  match ← peek with
  | '[' => advance; return some .square
  | '{' => advance; return some .brace
  | '"' => advance; fun text => do return (none, ← skipText text)
  | 'n' => advance; word ['u', 'l', 'l']; return none
  | 't' => advance; word ['r', 'u', 'e']; return none
  | 'f' => advance; word ['a', 'l', 's', 'e']; return none
  | c =>
    if startsNumber c then
      let _ ← scanNumeral .malformed
      return none
    else throw .malformed

/-- Goes past the name of a member and the colon after it. -/
def skipName : Reader Unit := do
  expect '"'
  fun text => do return ((), ← skipText text)
  expect ':'

/-- What a part of an array or object starts with. -/
def Bracket.part : Bracket → Place
  | .square => .value
  | .brace => .name

/-- Runs the machine until nothing encloses the place. The text itself bounds the number of steps:
each goes past at least one character, so where the bound is used up the text is too. -/
def skipFrom : (bound : List Char) → List Bracket → Place → Reader Unit
  | _, [], .after => return ()
  | [], _, _ => throw .truncated
  | _ :: bound, enclosing, .value => do
    match ← skipHead with
    | none => skipFrom bound enclosing .after
    | some bracket =>
      if (← peek) = bracket.closing then
        advance
        skipFrom bound enclosing .after
      else skipFrom bound (bracket :: enclosing) bracket.part
  | _ :: bound, enclosing, .name => do
    skipName
    skipFrom bound enclosing .value
  | _ :: bound, bracket :: enclosing, .after => do
    let c ← peek
    if c = bracket.closing then
      advance
      skipFrom bound enclosing .after
    else if c = ',' then
      advance
      skipFrom bound (bracket :: enclosing) bracket.part
    else throw .malformed

/-- Goes past one value. -/
def skipValue : Reader Unit := do
  skipFrom (← get) [] .value

/-! ## Values of the wrong kind -/

/-- A string, starting at its opening quote. -/
def readQuoted : Reader (List Char) := do
  advance
  readText []

/-- Fails at the value that comes next, because it is of the wrong kind. If it does not even start
like a value, that is what fails. -/
def mismatched {α : Type} : Reader α := do
  match ← peek with
  | '[' | '{' => throw .mismatch
  | '"' => let _ ← readQuoted; throw .mismatch
  | 'n' => advance; word ['u', 'l', 'l']; throw .mismatch
  | 't' => advance; word ['r', 'u', 'e']; throw .mismatch
  | 'f' => advance; word ['a', 'l', 's', 'e']; throw .mismatch
  | c =>
    if startsNumber c then
      let _ ← readNumeral
      throw .mismatch
    else throw .malformed

end IndexedMesh.Json
