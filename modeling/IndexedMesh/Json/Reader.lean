/-!
# Reading a text from left to right

A reader takes a value off the front of a text and hands on what remains. The first problem from
the left decides how reading ends, and there are three ways: the text stops too early, it is not
JSON at this place, or it is JSON that does not fit the value wanted.

## Main definitions

* `Fault` — the three ways to fail.
* `Reader` — a state machine over the remaining characters.
* `peek`, `advance`, `word` — the steps that all other readers are made of.
-/

namespace IndexedMesh.Json

/-- Why a text cannot be read as the value wanted. -/
inductive Fault
  /-- the text ends before the value does -/
  | truncated
  /-- the text is not JSON -/
  | malformed
  /-- the text is JSON, but not of the wanted form -/
  | mismatch
deriving DecidableEq

/-- Takes a value off the front of a text. -/
abbrev Reader := StateT (List Char) (Except Fault)

/-- The four blank characters that may stand between two tokens. -/
def isBlank (c : Char) : Bool := c = ' ' || c = '\n' || c = '\t' || c = '\r'

/-- The next character that is not blank. It is left in place, the blanks before it are not. -/
def peek : Reader Char := fun text =>
  match text.dropWhile isBlank with
  | [] => .error .truncated
  | c :: rest => .ok (c, c :: rest)

/-- Drops one character. -/
def advance : Reader Unit := fun text => .ok ((), text.drop 1)

/-- Goes past the next character that is not blank, which has to be `c`. -/
def expect (c : Char) : Reader Unit := do
  if (← peek) = c then advance else throw .malformed

/-- Goes past the letters of a word, which have to follow at once. -/
def word : List Char → Reader Unit
  | [], text => .ok ((), text)
  | _ :: _, [] => .error .truncated
  | c :: more, d :: text => if c = d then word more text else .error .malformed

/-- The end of the text: only blanks may be left. -/
def finish : Reader Unit := fun text =>
  match text.dropWhile isBlank with
  | [] => .ok ((), [])
  | _ :: _ => .error .malformed

/-- Reads a whole text as one value. -/
def Reader.run {α : Type} (reader : Reader α) (text : List Char) : Except Fault α :=
  (do let a ← reader; finish; return a : Reader α).run' text

end IndexedMesh.Json
