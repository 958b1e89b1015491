import IndexedMesh.Error
import IndexedMesh.Vertex.Matching
import IndexedMesh.Vertex.Packed

/-!
# Transplanting vertex data

Positions, and normals if they are wanted, are copied from vertex records to the vertices that
match them by texture coordinates. A vertex without a match stays as it is and is reported, so
that it can be mended by hand.

## Main definitions

* `MatchReport` — how many vertices were matched, and which were not.
* `transplant` — the copying.
-/

namespace IndexedMesh

/-- A vertex that was left as it is. -/
structure Unmatched where
  index : Nat
  position : Position
deriving DecidableEq

/-- The outcome of a transplant. -/
structure MatchReport where
  total : Nat
  matched : Nat
  unmatched : List Unmatched
deriving DecidableEq

namespace MatchReport

/-- Whether every vertex was matched. -/
def isComplete (r : MatchReport) : Bool := r.unmatched.isEmpty

/-- A position in a message. -/
def positionText (p : Position) : String :=
  s!"({reportText p.x}, {reportText p.y}, {reportText p.z})"

/-- The report in words. -/
def text (r : MatchReport) : String :=
  let summary := s!"modified {r.matched} out of {r.total} vertices"
  if r.isComplete then summary
  else
    let lines := r.unmatched.map fun u => s!"\n  {u.index} {positionText u.position}"
    s!"{summary}; couldn't match {r.unmatched.length}, needs manual fixing:" ++ String.join lines

end MatchReport

/-- A vertex with the position of a record, and with its normal if both sides want it. -/
def PackedVertex.take (v : PackedVertex) (record : VertexRecord) (copyNormals : Bool) :
    PackedVertex where
  vertex := record.vertex
  uv := v.uv
  normal := if copyNormals then record.normal.getD v.normal else v.normal

/-- What becomes of one vertex: the vertex, and whether it has to be reported. -/
def transplantOne (records : Array VertexRecord) (copyNormals : Bool) (matching : Matching)
    (numbered : PackedVertex × Nat) : Except Error (PackedVertex × Option Unmatched) := do
  let (v, index) := numbered
  match matching.get? index with
  | some candidate => return (v.take (← entry records candidate) copyNormals, none)
  | none => return (v, some { index, position := v.vertex })

/-- Copies positions, and normals if wanted, from the records to the vertices that match them.
There have to be as many records as vertices. -/
def transplant (target : Array PackedVertex) (records : Array VertexRecord) (copyNormals : Bool) :
    Except Error (Array PackedVertex × MatchReport) := do
  if records.size ≠ target.size then
    throw (.sizeMismatch .records target.size records.size)
  let matching ← Matching.scan (target.toList.map (·.uv)) (records.toList.map (·.uv)) uvTolerance
  let outcomes ← target.toList.zipIdx.mapM (transplantOne records copyNormals matching)
  let unmatched := outcomes.filterMap (·.2)
  return ((outcomes.map (·.1)).toArray, {
    total := target.size
    matched := matching.matched
    unmatched })

end IndexedMesh
