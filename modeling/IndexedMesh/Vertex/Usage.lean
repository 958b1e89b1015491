import IndexedMesh.Error
import IndexedMesh.Face
import IndexedMesh.Vertex.Set

/-!
# Which vertices are used

A vertex is used if a corner of a triangle or an element of a strip refers to it. References are
looked at triangle by triangle and then strip by strip, and the first one that is out of range is
the one reported.

## Main definitions

* `references` — all references of a mesh in order.
* `usedVertices` — the vertices that are referred to.
-/

namespace IndexedMesh

variable {t : IndexType}

/-- Every reference to a vertex, in order. -/
def references (triangles : List (Triangle t)) (strips : List (Strip t)) : List (Index t) :=
  triangles.flatMap Triangle.corners ++ strips.flatten

/-- Adds the vertices that are referred to. -/
def VertexSet.insertAll (used : VertexSet) : List (Index t) → Except Error VertexSet
  | [] => .ok used
  | i :: more =>
    if used.size ≤ i.position then .error (.indexOutOfRange i.position used.size)
    else
      match used.insert? i.position with
      | some used => used.insertAll more
      | none => .error .outOfBounds

/-- The vertices of a mesh that are referred to. -/
def usedVertices (triangles : List (Triangle t)) (strips : List (Strip t)) (count : Nat) :
    Except Error VertexSet :=
  (VertexSet.empty count).insertAll (references triangles strips)

end IndexedMesh
