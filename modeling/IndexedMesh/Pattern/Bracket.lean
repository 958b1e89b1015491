import IndexedMesh.Pattern.Nested
import IndexedMesh.Pattern.Sign

/-!
# Classes in brackets

A class is written in square brackets as a row of characters, of ranges of them and of other
classes, which may have names. It may be the opposite of what is in the brackets, and classes may
be combined by operators, which bind less than the row does and are applied from the left.

A hyphen stands for itself at the front of a row and in front of the closing bracket, and so does
a closing bracket that is the first sign of a row.

## Main definitions

* `ClassOperator` — the operators.
* `Bracket` — a class that is being read.
* `readBracket` — reads a class.
-/

namespace IndexedMesh.Pattern

open Text (CharClass)

/-! ## Operators -/

/-- How two classes are combined. -/
inductive ClassOperator
  | both
  | onlyLeft
  | onlyOne

/-- The operator that a mark stands for when it is doubled. -/
def ClassOperator.ofMark? : Char → Option ClassOperator
  | '&' => some both
  | '-' => some onlyLeft
  | '~' => some onlyOne
  | _ => none

/-- The operator at the front of a text. -/
def ClassOperator.atFront? : List Char → Option ClassOperator
  | mark :: second :: _ => if mark = second then ofMark? mark else none
  | _ => none

/-- Two classes combined. -/
def ClassOperator.apply (o : Options) : ClassOperator → CharClass → CharClass → CharClass
  | both => CharClass.common
  | onlyLeft => CharClass.without o.greatestCode
  | onlyOne => CharClass.either o.greatestCode

/-- A class with its letters in either case, if that is an option. -/
def withCase (o : Options) (s : CharClass) : CharClass := if o.anyCase then s.anyCase else s

/-! ## Classes that are being read -/

/-- A class whose closing bracket has not come yet. -/
structure Bracket where
  /-- it is the opposite of what is in it -/
  opposite : Bool
  /-- what is to be combined with the row, and how -/
  left : Option (ClassOperator × Nested CharClass) := none
  /-- the row up to here, with its last part first -/
  row : List (Nested CharClass) := []
  /-- the row has no parts yet but hyphens at its front -/
  atFront : Bool := true

namespace Bracket

/-- A class with another part in its row. -/
def add (b : Bracket) (part : Nested CharClass) : Bracket :=
  { b with row := part :: b.row, atFront := false }

/-- What is in a class up to here, without regard to whether it is the opposite. -/
def content (o : Options) (b : Bracket) : Nested CharClass :=
  let row := Nested.ofRow (fun parts => parts.foldl CharClass.union .empty) b.row
  match b.left with
  | none => row
  | some (operator, left) =>
    let value := operator.apply o (withCase o left.value) (withCase o row.value)
    ⟨value, rowDepth [left.depth, row.depth]⟩

/-- A class with an operator behind what is in it up to here. -/
def combine (o : Options) (b : Bracket) (operator : ClassOperator) : Bracket :=
  { b with left := some (operator, b.content o), row := [], atFront := false }

/-- A class whose closing bracket has come. A class of bytes may only hold ASCII ones. -/
def close? (o : Options) (b : Bracket) : Option (Nested CharClass) :=
  let { value, depth } := b.content o
  let value := withCase o value
  let value := if b.opposite then value.outside o.greatestCode else value
  if o.characters || value.isAscii then some ⟨value, depth + 1⟩ else none

end Bracket

/-! ## Parts of a row -/

/-- A part that holds some characters. Letters in either case are only known of bytes. -/
def plainPart? (o : Options) (s : CharClass) : Option (Nested CharClass) :=
  if o.characters && o.anyCase then none else some ⟨s, 0⟩

/-- The part of a row that is a range. The characters have to be in order. -/
def rangePart? (o : Options) (first last : Char) : Option (Nested CharClass) :=
  if first ≤ last && (o.characters || last.toNat < 0x80) then plainPart? o (.range first last)
  else none

/-- A class by its name, between colons and brackets, and what follows it. -/
def namedClass? (o : Options) (text : List Char) : Option (CharClass × List Char) :=
  match text with
  | '[' :: ':' :: text =>
    let opposite := text.head? = some '^'
    let text := if opposite then text.drop 1 else text
    match text.dropWhile (· ≠ ':') with
    | ':' :: ']' :: rest =>
      (CharClass.named? (String.ofList (text.takeWhile (· ≠ ':')))).map fun s =>
        (if opposite then s.outside o.greatestCode else s, rest)
    | _ => none
  | _ => none

/-- The next character behind white space and hash marks, if these do not count. -/
def peekBehindSpace (o : Options) (text : List Char) : Option Char :=
  if !o.spaced then text.head?
  else
    match text.dropWhile Text.isBlank with
    | '#' :: text => (text.dropWhile Text.isBlank).head?
    | text => text.head?

/-- Whether a range goes on here: with a hyphen that neither ends the row nor is doubled. -/
def continuesRange (o : Options) : List Char → Bool
  | '-' :: text => peekBehindSpace o text ≠ some ']' && peekBehindSpace o text ≠ some '-'
  | _ => false

/-- Reads a sign in a row. -/
def readClassSign (o : Options) : PatternReader Sign := do
  match ← PatternReader.next with
  | '\\' => readEscape o
  | c => return .char c

/-- Reads a range or a single sign of a row. -/
def readClassPart (o : Options) : PatternReader (Nested CharClass) := do
  let first ← readClassSign o
  skipSpace o
  if continuesRange o (← PatternReader.rest) then
    let _ ← PatternReader.next
    skipSpace o
    match first, ← readClassSign o with
    | .char first, .char last => rangePart? o first last
    | _, _ => failure
  else
    match first with
    | .char c => rangePart? o c c
    | .chars s => plainPart? o s
    | .boundary _ => failure

/-! ## Whole classes -/

/-- Reads what is behind an opening bracket and decides what the class is of. -/
def openBracket (o : Options) : PatternReader Bracket := do
  skipSpace o
  return { opposite := ← PatternReader.skipIf '^' }

/-- Reads a class up to its closing bracket. The brackets around it are on a stack, and the text
itself bounds the number of steps. -/
def readRow (o : Options) : (bound : List Char) → Bracket → List Bracket →
    PatternReader (Nested CharClass)
  | [], _, _ => failure
  | _ :: bound, b, outer => do
    skipSpace o
    let text ← PatternReader.rest
    if b.atFront && text.head? = some '-' then
      PatternReader.goTo (text.drop 1)
      readRow o bound { b.add (← rangePart? o '-' '-') with atFront := true } outer
    else if b.atFront && b.row.isEmpty && text.head? = some ']' then
      PatternReader.goTo (text.drop 1)
      readRow o bound (b.add (← rangePart? o ']' ']')) outer
    else if text.head? = some ']' then
      PatternReader.goTo (text.drop 1)
      let part ← b.close? o
      match outer with
      | [] => return part
      | around :: outer => readRow o bound (around.add part) outer
    else if text.head? = some '[' then
      match namedClass? o text with
      | some (s, rest) =>
        PatternReader.goTo rest
        readRow o bound (b.add (← plainPart? o s)) outer
      | none =>
        PatternReader.goTo (text.drop 1)
        readRow o bound (← openBracket o) (b :: outer)
    else
      match ClassOperator.atFront? text with
      | some operator =>
        PatternReader.goTo (text.drop 2)
        readRow o bound (b.combine o operator) outer
      | none => readRow o bound (b.add (← readClassPart o)) outer

/-- Reads a class behind its opening bracket. -/
def readBracket (o : Options) : PatternReader (Nested CharClass) := do
  let b ← openBracket o
  readRow o (← PatternReader.rest) b []

end IndexedMesh.Pattern
