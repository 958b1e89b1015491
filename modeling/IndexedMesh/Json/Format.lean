import IndexedMesh.Json.Layout
import IndexedMesh.Json.Skip

/-!
# Formats

The written form of a type is a `Format`: how a value is read and how it is written, side by side.
Formats of larger types are put together from those of their parts, so reading and writing agree
on the shape of a type by construction.

## Main definitions

* `Format` — a reader and a writer.
* `Format.natural`, `Format.float32`, `Format.bool`, `Format.text` — values without parts.
* `Format.optional`, `Format.list` — a value or null, and any number of values.
* `item`, `lastItem` — arrays whose items are fixed in number.
-/

namespace IndexedMesh.Json

/-- How the values of a type are read and written. -/
structure Format (α : Type) where
  read : Reader α
  write : α → Written

namespace Format

/-- Reads a whole text. -/
def parse {α : Type} (format : Format α) (text : String) : Except Fault α :=
  format.read.run text.toList

/-- Writes a value without blanks. -/
def compact {α : Type} (format : Format α) (value : α) : String :=
  String.ofList (format.write value .compact)

/-- Writes a value with every part on its own line. -/
def pretty {α : Type} (format : Format α) (value : α) : String :=
  String.ofList (format.write value (.indented 0))

/-- The format of a type that corresponds to another one. -/
def map {α β : Type} (format : Format α) (build : α → β) (split : β → α) : Format β where
  read := build <$> format.read
  write value := format.write (split value)

/-! ## Values without parts -/

/-- A natural number below a bound. -/
def natural (bound : Nat) : Format Nat where
  read := do
    if startsNumber (← peek) then readNatural bound else mismatched
  write n := .plain (digitsText n)

/-- A 16-bit number. -/
def uint16 : Format UInt16 := (natural UInt16.size).map UInt16.ofNat UInt16.toNat

/-- A 32-bit number. -/
def uint32 : Format UInt32 := (natural UInt32.size).map UInt32.ofNat UInt32.toNat

/-- A floating-point number. -/
def float32 : Format Float32 where
  read := do
    if startsNumber (← peek) then readFloat32 else mismatched
  write x := .plain (writeFloat32 x)

/-- A truth value. -/
def bool : Format Bool where
  read := do
    match ← peek with
    | 't' => advance; word ['r', 'u', 'e']; return true
    | 'f' => advance; word ['a', 'l', 's', 'e']; return false
    | _ => mismatched
  write b := .plain (if b then ['t', 'r', 'u', 'e'] else ['f', 'a', 'l', 's', 'e'])

/-- A string. -/
def text : Format String where
  read := do
    if (← peek) = '"' then return String.ofList (← readQuoted) else mismatched
  write s := .plain (writeText s.toList)

/-- A value or null. -/
def optional {α : Type} (format : Format α) : Format (Option α) where
  read := do
    if (← peek) = 'n' then
      advance
      word ['u', 'l', 'l']
      return none
    else some <$> format.read
  write
    | none => .plain ['n', 'u', 'l', 'l']
    | some value => format.write value

end Format

/-! ## Arrays -/

/-- Whether another item follows in an array, and if so goes past the comma before it. The
closing bracket is left in place. -/
def anotherItem (isFirst : Bool) : Reader Bool := do
  let c ← peek
  if c = ']' then return false
  else if isFirst then return true
  else if c ≠ ',' then throw .malformed
  else
    advance
    if (← peek) = ']' then throw .malformed else return true

/-- The next item of an array that has to have one. -/
def item {α : Type} (isFirst : Bool) (read : Reader α) : Reader α := do
  if ← anotherItem isFirst then read else throw .mismatch

/-- The end of an array that may not have another item. One that is well formed itself is a
mismatch. -/
def lastItem {α : Type} (read : Reader α) : Reader Unit := do
  if ← anotherItem false then
    let _ ← read
    throw .mismatch
  else advance

/-- Goes past the bracket that opens an array. -/
def openArray : Reader Unit := do
  if (← peek) = '[' then advance else mismatched

/-- The remaining items of an array, with those read so far in `before`, the last one first. The
text itself bounds their number: each item takes at least one character, so where the bound is
used up the text is too. -/
def readItems {α : Type} (read : Reader α) :
    (bound : List Char) → Bool → List α → Reader (List α)
  | [], _, _ => throw .truncated
  | _ :: bound, isFirst, before => do
    if ← anotherItem isFirst then
      let a ← read
      readItems read bound false (a :: before)
    else
      advance
      return before.reverse

namespace Format

/-- Any number of values. -/
def list {α : Type} (format : Format α) : Format (List α) where
  read := do
    openArray
    readItems format.read (← get) true []
  write values := .array (values.map format.write)

/-- Any number of values, kept for access by position. -/
def array {α : Type} (format : Format α) : Format (Array α) :=
  format.list.map List.toArray Array.toList

end Format

end IndexedMesh.Json
