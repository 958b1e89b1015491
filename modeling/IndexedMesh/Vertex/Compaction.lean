import IndexedMesh.Error
import IndexedMesh.Vertex.Renumbering

/-!
# Compaction

Vertices are removed by keeping the others: every channel that is present is cut down to the kept
entries, in their order, and the kept vertices are renumbered from zero.

## Main definitions

* `Compaction` — the kept vertices and where they went.
* `compact` — the compaction to a set of vertices.
-/

namespace IndexedMesh

variable {t : IndexType}

/-- The vertices that were kept, and their new indices. -/
structure Compaction (t : IndexType) where
  arrays : VertexArrays
  renumbering : Renumbering t
deriving DecidableEq

/-- The number of vertices that were removed. -/
def Compaction.removed (c : Compaction t) : Nat := c.renumbering.domainSize - c.arrays.size

/-- The entries of an array at the kept positions. An absent channel stays absent. -/
def retain {α : Type} (items : Array α) (keep : VertexSet) : Except Error (Array α) := do
  if items.isEmpty then return #[]
  return (← keep.positions.mapM (entry items)).toArray

/-- Keeps the vertices of a set. -/
def compact (arrays : VertexArrays) (keep : VertexSet) : Except Error (Compaction t) := do
  arrays.check
  if keep.size ≠ arrays.size then
    throw (.sizeMismatch .selection arrays.size keep.size)
  return {
    arrays := {
      positions := ← retain arrays.positions keep
      normals := ← retain arrays.normals keep
      colors := ← retain arrays.colors keep
      texcoords := ← arrays.texcoords.mapM (retain · keep) }
    renumbering := .ofKept keep }

end IndexedMesh
