import IndexedMesh.Document.Basic
import IndexedMesh.Text.Characters

/-!
# Errors

All that can keep an operation from being carried out, by cause. The wording is in one place,
`Error.message`.

One cause stands apart: `outOfBounds` is an access past the end of an array. Operations check what
they access first, so it is a cause that no document brings about.

## Main definitions

* `Extent` — what has the wrong number of entries.
* `Error` — the causes.
-/

namespace IndexedMesh

/-- What does not agree in size with a vertex set. -/
inductive Extent
  /-- the array of a channel -/
  | channel (channel : Channel)
  /-- the number of vertices that is declared apart from the arrays -/
  | declaredCount
  /-- vertex records from outside -/
  | records
  /-- a choice of vertices -/
  | selection
deriving DecidableEq

/-- The extent in messages. -/
def Extent.name : Extent → String
  | .channel c => c.name
  | .declaredCount => "declared vertex count"
  | .records => "imported vertex records"
  | .selection => "vertex selection"

/-- Why an operation is not carried out. -/
inductive Error
  /-- there are no vertices to work on -/
  | emptyInput
  /-- something has not one entry for each vertex -/
  | sizeMismatch (extent : Extent) (expected found : Nat)
  /-- a face refers to a vertex that is not there -/
  | indexOutOfRange (index size : Nat)
  /-- the operation is not for what is selected -/
  | notApplicable (operation : String)
  /-- no operation has this name -/
  | unknownOperation (name : String)
  /-- the operation has no such mode -/
  | unknownMode (operation : String) (mode : Nat)
  /-- the clipboard holds no text -/
  | emptyClipboard
  /-- the clipboard cannot be used, for a reason of its own -/
  | clipboard (reason : String)
  /-- the text on the clipboard does not hold vertex records -/
  | records (fault : Json.Fault)
  /-- the document refuses a read or a write -/
  | document (error : DocumentError)
  /-- an access past the end of an array -/
  | outOfBounds
deriving DecidableEq

namespace Error

/-- The error in words. -/
def message : Error → String
  | emptyInput => "no vertices"
  | sizeMismatch extent expected found =>
    s!"size mismatch: {extent.name} has {found} entries, expected {expected}"
  | indexOutOfRange index size => s!"vertex index {index} out of range: (0..{size}) ∌ {index}"
  | notApplicable operation =>
    s!"operation {Text.quoted operation} is not applicable to the selection"
  | unknownOperation name => s!"no operation named {Text.quoted name}"
  | unknownMode operation mode => s!"operation {Text.quoted operation} has no mode {mode}"
  | emptyClipboard => "clipboard is empty"
  | clipboard _ => "clipboard unavailable"
  | records _ => "could not read vertex records"
  | document error => error.message
  | outOfBounds => "access past the end of an array"

/-- The error of a channel that has a wrong length. -/
def ofMismatch (e : LengthMismatch) : Error := .sizeMismatch (.channel e.channel) e.expected e.found

end Error

/-- The arrays, if each channel that is present has one entry for each vertex. -/
def VertexArrays.check (arrays : VertexArrays) : Except Error Unit :=
  match arrays.mismatch? with
  | some e => .error (.ofMismatch e)
  | none => .ok ()

/-- An entry of an array. -/
def entry {α : Type} (items : Array α) (position : Nat) : Except Error α :=
  match items[position]? with
  | some a => .ok a
  | none => .error .outOfBounds

end IndexedMesh
