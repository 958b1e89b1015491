import IndexedMesh.Edit.Notice
import IndexedMesh.Edit.Workspace

/-!
# Editing faces

The triangles of a geometry are turned over, or those without area and those that repeat an
earlier one are dropped. Strips are left alone.

## Main definitions

* `Edit.flipFaces`, `Edit.pruneTriangles` — the edits.
* `Document.hasSelectedTriangles` — whether there are triangles to edit.
-/

namespace IndexedMesh

/-- Whether the selected geometry has triangles. -/
def Document.hasSelectedTriangles (d : Document) (selection : Selection) : Bool :=
  match d.selectedData? selection with
  | none => false
  | some (_, data) =>
    match d.triangles data with
    | .ok triangles => !triangles.isEmpty
    | .error _ => false

namespace Edit

/-- The triangles of a geometry, of which there has to be one. -/
def someTriangles (data : BlockId) : Edit (List (Triangle .stored)) := do
  let triangles ← read (·.triangles data)
  if triangles.isEmpty then throw .emptyInput
  return triangles

/-- Turns all triangles of the selected geometry over. -/
def flipFaces (selection : Selection) : Edit (List Notice) := do
  let (_, data) ← selectedGeometry selection
  let triangles ← someTriangles data
  write (·.setTriangles data (triangles.map Triangle.flip))
  return [.flippedFaces triangles.length]

/-- Drops triangles without area and repeated triangles of the selected geometry. -/
def pruneTriangles (selection : Selection) : Edit (List Notice) := do
  let (_, data) ← selectedGeometry selection
  let pruned := prune (← someTriangles data)
  if pruned.degenerate + pruned.duplicate = 0 then return [.nothingToDo]
  write (·.setTriangles data pruned.kept)
  return [.removedTriangles pruned.degenerate pruned.duplicate]

end Edit

end IndexedMesh
