import IndexedMesh.Edit.Notice
import IndexedMesh.Edit.Workspace
import IndexedMesh.Vertex.Compaction
import IndexedMesh.Vertex.Duplicates
import IndexedMesh.Vertex.Usage

/-!
# Removing vertices

The vertices of a geometry that no face refers to are removed, after duplicates have been merged
if that is asked for. All that refers to vertices by number follows: triangles, strips, and the
weights of the bones that move the shape. A skin partition cannot follow and is deleted.

What the mesh becomes is computed first, from a copy of all its parts (`Mesh.strip`), and written
afterwards.

## Main definitions

* `Mesh` — the parts of a mesh that have to agree on the numbers of its vertices.
* `Mesh.merge`, `Mesh.strip` — merging duplicates and removing unused vertices.
* `Edit.stripVertices` — the edit.
-/

namespace IndexedMesh

/-- The parts of a mesh that have to agree on the numbers of its vertices. -/
structure Mesh (t : IndexType) where
  arrays : VertexArrays
  triangles : List (Triangle t)
  strips : List (Strip t)
  bones : List (BoneWeights t)
deriving DecidableEq

/-- A mesh from which vertices were removed. -/
structure Stripped (t : IndexType) where
  mesh : Mesh t
  merged : Nat
  removed : Nat
  dropped : Nat

namespace Mesh

variable {t : IndexType}

/-- The vertices that a face refers to. -/
def used (m : Mesh t) : Except Error VertexSet :=
  usedVertices m.triangles m.strips m.arrays.size

/-- Lets all faces refer to the first of equal vertices. Tells how many vertices had an equal
before them. A reference that is out of range is found before it can be replaced. -/
def merge (m : Mesh t) : Except Error (Mesh t × Nat) := do
  let _ ← m.used
  let duplicates : Renumbering t ← findDuplicates m.arrays
  return ({ m with
    triangles := duplicates.triangles m.triangles
    strips := duplicates.strips m.strips }, duplicates.size)

/-- Removes the vertices that no face refers to, after merging duplicates if that is asked for.
Nothing if all vertices are used. -/
def strip (m : Mesh t) (mergeDuplicates : Bool) : Except Error (Option (Stripped t)) := do
  let (m, merged) ← if mergeDuplicates then m.merge else pure (m, 0)
  let used ← m.used
  if used.isFull then return none
  let compaction : Compaction t ← compact m.arrays used
  let renumbering := compaction.renumbering
  return some {
    mesh := {
      arrays := compaction.arrays
      triangles := renumbering.triangles m.triangles
      strips := renumbering.strips m.strips
      bones := renumbering.bones m.bones }
    merged
    removed := compaction.removed
    dropped := renumbering.dropped m.bones }

end Mesh

namespace Edit

/-- Deletes the skin partition of a shape. -/
def removePartition (shape : BlockId) : Edit (Option BlockId) := do
  match ← view (·.findPartition? shape) with
  | none => return none
  | some partition =>
    write (·.removeBlock partition)
    return some partition

/-- Removes the vertices of a geometry that no face refers to. All is read and checked before the
first write. -/
def stripVertices (shape : Option BlockId) (data : BlockId) (mergeDuplicates : Bool) :
    Edit (List Notice) := do
  let arrays ← checkedArrays data
  let triangles ← read (·.triangles data)
  let strips ← read (·.strips data)
  let skinData ← view fun d => shape.bind d.skinDataOf?
  let bones ← match skinData with
    | some skin => read (·.bones skin)
    | none => pure []
  match ← attempt (({ arrays, triangles, strips, bones } : Mesh .stored).strip mergeDuplicates) with
  | none => return [.nothingToDo]
  | some stripped =>
    if skinData.isSome then permit (Document.checkBones stripped.mesh.bones)
    write (·.setVertexArrays data stripped.mesh.arrays)
    write (·.setTriangles data stripped.mesh.triangles)
    write (·.setStrips data stripped.mesh.strips)
    match skinData with
    | some skin => write (·.setBones skin stripped.mesh.bones)
    | none => pure ()
    let partition ← match shape with
      | some shape => removePartition shape
      | none => pure none
    return (if 0 < stripped.merged then [.mergedVertices stripped.merged] else [])
      ++ [.removedVertices stripped.removed stripped.mesh.arrays.size]
      ++ (if skinData.isSome && 0 < stripped.dropped then [.prunedWeights stripped.dropped] else [])
      ++ (partition.map Notice.partitionRemoved).toList

/-- Removes the unused vertices of the selected geometry. -/
def removeUnused (selection : Selection) : Edit (List Notice) := do
  let (shape, data) ← selectedGeometry selection
  stripVertices shape data false

/-- Merges the duplicate vertices of the selected geometry, and removes the unused ones. -/
def removeDuplicates (selection : Selection) : Edit (List Notice) := do
  let (shape, data) ← selectedGeometry selection
  stripVertices shape data true

end Edit

end IndexedMesh
