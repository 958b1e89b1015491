import IndexedMesh.Document.Links
import IndexedMesh.Document.Fields
import IndexedMesh.Error

/-!
# The workspace of an edit

An edit works on a document and on a clipboard. It can fail at any step, and what it has written
up to there stays written: that a failed edit leaves no trace is a fact about each operation and
not a property of edits as such.

## Main definitions

* `Clipboard` — a text that is shared between documents.
* `Workspace`, `Edit` — the state of an edit, and a computation that works on it.
* `Edit.read`, `Edit.write`, `Edit.attempt` — the steps of an edit.
-/

namespace IndexedMesh

/-! ## The clipboard -/

/-- A text that is shared between documents. It may be out of order, for reading or for writing,
and then there is a reason. -/
structure Clipboard where
  text : Option String := none
  unreadable : Option String := none
  unwritable : Option String := none
deriving DecidableEq

namespace Clipboard

/-- The text, if there is one. -/
def read (c : Clipboard) : Except Error (Option String) :=
  match c.unreadable with
  | some reason => .error (.clipboard reason)
  | none => .ok c.text

/-- The clipboard with another text. -/
def publish (c : Clipboard) (text : String) : Except Error Clipboard :=
  match c.unwritable with
  | some reason => .error (.clipboard reason)
  | none => .ok { text := some text }

end Clipboard

/-! ## Edits -/

/-- What an edit works on. -/
structure Workspace where
  document : Document
  clipboard : Clipboard := {}
deriving DecidableEq

/-- A computation on a workspace that may fail. -/
abbrev Edit := ExceptT Error (StateM Workspace)

namespace Edit

variable {α : Type}

/-- Fails if the computation does. -/
def attempt (result : Except Error α) : Edit α :=
  match result with
  | .ok a => return a
  | .error e => throw e

/-- Fails if the document refuses. -/
def permit (result : Except DocumentError α) : Edit α :=
  match result with
  | .ok a => return a
  | .error e => throw (.document e)

/-- Looks something up in the document. -/
def view (look : Document → α) : Edit α := do
  return look (← get).document

/-- Reads from the document. -/
def read (look : Document → Except DocumentError α) : Edit α := do
  permit (look (← get).document)

/-- Writes to the document. -/
def write (change : Document → Except DocumentError Document) : Edit Unit := do
  let document ← read change
  modify fun w => { w with document }

/-- Something that is there, or else there is nothing to work on. -/
def orEmpty (found : Option α) : Edit α :=
  match found with
  | some a => return a
  | none => throw .emptyInput

/-- An edit that may find nothing to work on. -/
def unlessEmpty (edit : Edit α) : Edit (Option α) :=
  tryCatch (some <$> edit) fun
    | .emptyInput => return none
    | e => throw e

end Edit

/-! ## Selections -/

/-- The block that is selected, or nothing for the document as a whole. -/
abbrev Selection := Option BlockId

/-- The selected block, if it is of one of some kinds. -/
def Document.selected? (d : Document) (selection : Selection) (kinds : List BlockKind) :
    Option BlockId :=
  selection.filter fun id => (d.kind? id).any (· ∈ kinds)

/-- The geometry that is selected, by itself or through its shape, together with its shape. -/
def Document.selectedData? (d : Document) (selection : Selection) :
    Option (Option BlockId × BlockId) :=
  selection.bind fun id =>
    match d.kind? id with
    | some .geometry => some (d.ownerOf? id, id)
    | some .shape => (d.shapeData? id).map fun data => (some id, data)
    | _ => none

/-- The geometry that is selected. -/
def Edit.selectedGeometry (selection : Selection) : Edit (Option BlockId × BlockId) := do
  orEmpty (← view (·.selectedData? selection))

/-- The selected block of one of some kinds. -/
def Edit.selected (selection : Selection) (kinds : List BlockKind) : Edit BlockId := do
  orEmpty (← view (·.selected? selection kinds))

/-- The vertex arrays of a geometry. They have to agree with each other and with the declared
number of vertices, and there has to be a vertex. -/
def Edit.checkedArrays (data : BlockId) : Edit VertexArrays := do
  let arrays ← read (·.vertexArrays data)
  if arrays.size = 0 then throw .emptyInput
  let declared ← read (·.declaredCount data)
  if declared ≠ arrays.size then throw (.sizeMismatch .declaredCount arrays.size declared)
  attempt arrays.check
  return arrays

end IndexedMesh
