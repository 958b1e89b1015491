import IndexedMesh.Pattern.Options
import IndexedMesh.Text.Characters

/-!
# Signs

A sign is the smallest part of a pattern: a character that stands for itself, a class of
characters or a boundary. Characters with a meaning of their own are signs with a backslash before
them, and behind a backslash some letters stand for something else.

The classes and boundaries that depend on what a digit, a space or a word is are only known for
ASCII, so they are signs only where classes are sets of bytes. Likewise only ASCII letters are
known in either case.

## Main definitions

* `Sign` — what a sign stands for.
* `readEscape` — reads a sign that starts with a backslash.
* `charPattern?` — the pattern of a character.
-/

namespace IndexedMesh.Pattern

open Text (CharClass)

/-- The smallest part of a pattern. -/
inductive Sign
  | char (c : Char)
  | chars (s : CharClass)
  | boundary (b : Boundary)

/-- A sign that needs to know what words and classes are in all of ASCII alone. -/
def asciiSign (o : Options) (sign : Sign) : PatternReader Sign := do
  if o.characters then failure else return sign

/-! ## Escapes -/

/-- Reads a number of hexadecimal digits. -/
def readDigits (o : Options) (value : Nat) : (count : Nat) → PatternReader Nat
  | 0 => do
    skipSpace o
    return value
  | count + 1 => do
    skipSpace o
    match Text.hexDigit? (← PatternReader.next) with
    | some digit => readDigits o (value * 16 + digit) count
    | none => failure

/-- Reads the code of a character, as a number of hexadecimal digits. -/
def readCode (o : Options) (count : Nat) : PatternReader Char := do
  let code ← readDigits o 0 count
  if code.isValidChar then return Char.ofNat code else failure

/-- Reads a byte, as two hexadecimal digits. Where it does not stand for a character, it has to be
that of an ASCII character. -/
def readByte (o : Options) : PatternReader Char := do
  let c ← readCode o 2
  if !o.characters && 0x80 ≤ c.toNat then failure else return c

/-- Reads what is behind a backslash. -/
def readEscape (o : Options) : PatternReader Sign := do
  match ← PatternReader.next with
  | 'x' => return .char (← readByte o)
  | 'u' => return .char (← readCode o 4)
  | 'U' => return .char (← readCode o 8)
  | 'a' => return .char '\x07'
  | 'f' => return .char '\x0c'
  | 't' => return .char '\t'
  | 'n' => return .char '\n'
  | 'r' => return .char '\r'
  | 'v' => return .char '\x0b'
  | 'A' => return .boundary .textStart
  | 'z' => return .boundary .textEnd
  | 'd' => asciiSign o (.chars .digits)
  | 's' => asciiSign o (.chars .spaces)
  | 'w' => asciiSign o (.chars .wordChars)
  | 'b' => asciiSign o (.boundary .wordEdge)
  | 'B' => asciiSign o (.boundary .noWordEdge)
  | '<' => asciiSign o (.boundary .wordStart)
  | '>' => asciiSign o (.boundary .wordEnd)
  | c => if c.toNat < 0x80 && !c.isAlphanum then return .char c else failure

/-! ## Patterns of signs -/

/-- The pattern of a character. -/
def charPattern? (o : Options) (c : Char) : Option Pattern :=
  if !o.anyCase then some (one (.single c))
  else if o.characters then none
  else some (one (CharClass.single c).anyCase)

/-- The pattern of a dot: any character of a line. -/
def dotPattern? (o : Options) : Option Pattern :=
  if !o.characters then none
  else if o.dotAll then some anyChar
  else
    let ends := if o.returns then (CharClass.single '\r').union (.single '\n') else .single '\n'
    some (one (ends.outside o.greatestCode))

/-- The pattern of the start of a line or of the text. -/
def startPattern (o : Options) : Pattern :=
  only (if o.lines then .lineStart o.returns else .textStart)

/-- The pattern of the end of a line or of the text. -/
def endPattern (o : Options) : Pattern :=
  only (if o.lines then .lineEnd o.returns else .textEnd)

/-- The pattern of a sign. -/
def signPattern? (o : Options) : Sign → Option Pattern
  | .char c => charPattern? o c
  | .chars s => some (one s)
  | .boundary b => some (only b)

end IndexedMesh.Pattern
