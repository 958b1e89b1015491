import IndexedMesh.Json.Reader
import IndexedMesh.Text.Characters

/-!
# Strings between quotes

A string is written with its quotes and backslashes escaped, the control characters below the
blank too, and every other character as it is. Reading accepts every escape of the format. A
character beyond the basic plane may be escaped as a pair of surrogate codes, and then both halves
have to be there; only in a string that is skipped does a half go unnoticed.

## Main definitions

* `readText`, `skipText` — from after the opening quote to past the closing one.
* `writeText` — the quoted form of a string.
-/

namespace IndexedMesh.Json

open Text (hexDigit?)

/-! ## Escapes -/

/-- The character that a one-letter escape stands for. -/
def letterEscape? : Char → Option Char
  | '"' => some '"'
  | '\\' => some '\\'
  | '/' => some '/'
  | 'b' => some '\x08'
  | 'f' => some '\x0c'
  | 'n' => some '\n'
  | 'r' => some '\r'
  | 't' => some '\t'
  | _ => none

/-- The code that four hexadecimal digits stand for. -/
def hexCode? (a b c d : Char) : Option Nat := do
  return (((← hexDigit? a) * 16 + (← hexDigit? b)) * 16 + (← hexDigit? c)) * 16 + (← hexDigit? d)

/-- What fails when fewer than four characters are left for a code. Four bytes are looked at, so
a longer character among them shows that they are no digits. -/
def shortCode (left : List Char) : Fault :=
  if Text.byteLength left < 4 then .truncated else .malformed

/-- The first half of a surrogate pair. -/
def isHighSurrogate (code : Nat) : Bool := 0xd800 ≤ code && code ≤ 0xdbff

/-- The second half of a surrogate pair. -/
def isLowSurrogate (code : Nat) : Bool := 0xdc00 ≤ code && code ≤ 0xdfff

/-- The character that a surrogate pair stands for. -/
def joinSurrogates (high low : Nat) : Char :=
  Char.ofNat (0x10000 + (high - 0xd800) * 0x400 + (low - 0xdc00))

/-! ## Reading -/

/-- Reads up to the closing quote and goes past it. The characters read so far are in `before`,
the last one first. -/
def readText (before : List Char) : List Char → Except Fault (List Char × List Char)
  | [] => .error .truncated
  | '"' :: rest => .ok (before.reverse, rest)
  | '\\' :: 'u' :: a :: b :: c :: d :: rest =>
    match hexCode? a b c d with
    | none => .error .malformed
    | some code =>
      if isLowSurrogate code then .error .malformed
      else if isHighSurrogate code then
        match rest with
        | '\\' :: 'u' :: e :: f :: g :: h :: rest =>
          match hexCode? e f g h with
          | none => .error .malformed
          | some low =>
            if isLowSurrogate low then readText (joinSurrogates code low :: before) rest
            else .error .malformed
        | '\\' :: 'u' :: left => .error (shortCode left)
        | [] | ['\\'] => .error .truncated
        | _ => .error .malformed
      else readText (Char.ofNat code :: before) rest
  | '\\' :: 'u' :: left => .error (shortCode left)
  | ['\\'] => .error .truncated
  | '\\' :: letter :: rest =>
    match letterEscape? letter with
    | none => .error .malformed
    | some c => readText (c :: before) rest
  | c :: rest => if c < ' ' then .error .malformed else readText (c :: before) rest

/-- Goes past the closing quote. Escapes have to be well formed, but a half of a surrogate pair
may stand alone. -/
def skipText : List Char → Except Fault (List Char)
  | [] => .error .truncated
  | '"' :: rest => .ok rest
  | '\\' :: 'u' :: a :: b :: c :: d :: rest =>
    match hexCode? a b c d with
    | none => .error .malformed
    | some _ => skipText rest
  | '\\' :: 'u' :: left => .error (shortCode left)
  | ['\\'] => .error .truncated
  | '\\' :: letter :: rest =>
    match letterEscape? letter with
    | none => .error .malformed
    | some _ => skipText rest
  | c :: rest => if c < ' ' then .error .malformed else skipText rest

/-! ## Writing -/

/-- A lower-case hexadecimal digit. -/
def hexDigit (n : Nat) : Char := Nat.digitChar n

/-- A character inside a quoted string. -/
def escaped (c : Char) : List Char :=
  match c with
  | '"' => ['\\', '"']
  | '\\' => ['\\', '\\']
  | '\x08' => ['\\', 'b']
  | '\x0c' => ['\\', 'f']
  | '\n' => ['\\', 'n']
  | '\r' => ['\\', 'r']
  | '\t' => ['\\', 't']
  | c =>
    if c < ' ' then ['\\', 'u', '0', '0', hexDigit (c.toNat / 16), hexDigit (c.toNat % 16)]
    else [c]

/-- The quoted form of a string. -/
def writeText (text : List Char) : List Char :=
  '"' :: (text.flatMap escaped ++ ['"'])

end IndexedMesh.Json
