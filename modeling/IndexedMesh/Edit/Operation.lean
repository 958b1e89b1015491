import IndexedMesh.Edit.Bounds
import IndexedMesh.Edit.Faces
import IndexedMesh.Edit.Transfer
import IndexedMesh.Edit.Uv
import IndexedMesh.Edit.Vertices

/-!
# Operations

An operation is an edit with a name, under a page of a menu. It is for certain selections only,
and some operations have modes to choose from. An operation that finds no vertices to work on is
carried out all the same, with nothing to do.

## Main definitions

* `Operation` — the operations, and `Operation.all` their list in order.
* `Operation.applies` — whether an operation is for a selection.
* `Operation.perform` — carries an operation out.
* `Operation.find?`, `performNamed` — by name.
-/

namespace IndexedMesh

/-- An edit that can be asked for by name. -/
inductive Operation
  | removeUnused
  | removeDuplicates
  | updateCenter
  | updateBounds
  | updateAllBounds
  | flipUv
  | flipFaces
  | pruneTriangles
  | copyVertexData
  | pasteVertexData
deriving DecidableEq

namespace Operation

/-- All operations, in the order of the menu. -/
def all : List Operation :=
  [removeUnused, removeDuplicates, updateCenter, updateBounds, updateAllBounds, flipUv, flipFaces,
    pruneTriangles, copyVertexData, pasteVertexData]

/-- The page of the menu that lists the operation. -/
def page : Operation → String
  | updateAllBounds => "Batch"
  | _ => "Mesh"

/-- The name of the operation. -/
def name : Operation → String
  | removeUnused => "Remove Unused Vertices"
  | removeDuplicates => "Remove Duplicate Vertices"
  | updateCenter => "Update Center/Radius"
  | updateBounds => "Update Bounds"
  | updateAllBounds => "Update All Bounds"
  | flipUv => "Flip UV"
  | flipFaces => "Flip Faces"
  | pruneTriangles => "Prune Triangles"
  | copyVertexData => "Copy Vertex Data"
  | pasteVertexData => "Paste Vertex Data"

/-- The names of the modes. An operation without modes has only one way to be carried out. -/
def modes : Operation → List String
  | updateCenter => ["Auto", "Centroid", "Bounding Box Center"]
  | flipUv => ["S = 1.0 - S", "T = 1.0 - T", "S <=> T"]
  | _ => []

/-- The number of ways to carry the operation out. -/
def modeCount (op : Operation) : Nat := max op.modes.length 1

/-- The page and the name. -/
def path (op : Operation) : String := s!"{op.page}/{op.name}"

/-- All that the menu knows about the operation, on one line. -/
def description (op : Operation) : String :=
  let modes := ", ".intercalate (op.modes.map Text.quoted)
  s!"Operation \x7b page: {Text.quoted op.page}, name: {Text.quoted op.name}, " ++
    s!"modes: [{modes}], .. \x7d"

/-- Whether the operation is for a selection. -/
def applies (op : Operation) (d : Document) (selection : Selection) : Bool :=
  match op with
  | removeUnused | removeDuplicates | updateCenter => (d.selectedData? selection).isSome
  | updateBounds => (d.selected? selection [.packedShape]).isSome
  | updateAllBounds => selection.isNone && d.isBatchTarget
  | flipUv =>
    (d.selectedData? selection).isSome || (d.selected? selection [.packedShape]).isSome
  | flipFaces | pruneTriangles => d.hasSelectedTriangles selection
  | copyVertexData | pasteVertexData => (d.selected? selection packedKinds).isSome

/-- Whether the operation looks at what is on the clipboard. -/
def readsClipboard (op : Operation) : Bool := op = pasteVertexData

/-- The edit itself. -/
def edit (op : Operation) (selection : Selection) (mode : Nat) : Edit (List Notice) :=
  match op with
  | removeUnused => Edit.removeUnused selection
  | removeDuplicates => Edit.removeDuplicates selection
  | updateCenter => Edit.updateCenter selection mode
  | updateBounds => Edit.updateBounds selection
  | updateAllBounds => Edit.updateAllBounds
  | flipUv => Edit.flipUv selection mode
  | flipFaces => Edit.flipFaces selection
  | pruneTriangles => Edit.pruneTriangles selection
  | copyVertexData => Edit.copyVertexData selection
  | pasteVertexData => Edit.pasteVertexData selection

/-- Carries an operation out. -/
def perform (op : Operation) (selection : Selection) (mode : Nat) : Edit Outcome := do
  if !(← Edit.view (op.applies · selection)) then throw (.notApplicable op.name)
  if op.modeCount ≤ mode then throw (.unknownMode op.name mode)
  let notices ← Edit.unlessEmpty (op.edit selection mode)
  return { notices := notices.getD [.nothingToDo] }

/-- The operation of a name, which may be given with its page. -/
def find? (name : String) : Option Operation :=
  all.find? fun op => name = op.name || name = op.path

end Operation

/-- Carries out the operation of a name. -/
def performNamed (name : String) (selection : Selection) (mode : Nat) : Edit Outcome :=
  match Operation.find? name with
  | some op => op.perform selection mode
  | none => throw (.unknownOperation name)

end IndexedMesh
