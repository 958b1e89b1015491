import IndexedMesh.Vertex.Transplant
import IndexedMesh.Bounds.Sphere
import IndexedMesh.Document.Block

/-!
# Notices

What an operation did is told as a list of notices. Some of them ask for work by hand and are
warnings.

## Main definitions

* `Notice`, with `Notice.text` and `Notice.isWarning`.
* `Outcome` — the notices of an operation.
* `Outcome.isNoop` — whether there was nothing to do.
-/

namespace IndexedMesh

/-- Something that an operation did. -/
inductive Notice
  /-- the selection was already as asked for -/
  | nothingToDo
  | mergedVertices (merged : Nat)
  | removedVertices (removed remaining : Nat)
  /-- weights were dropped along with their vertices -/
  | prunedWeights (dropped : Nat)
  /-- a partition that did not fit any more was removed, and has to be built anew by hand -/
  | partitionRemoved (partition : BlockId)
  | boundsUpdated (block : BlockId) (bounds : Sphere Float32)
  | flippedUvs (vertices : Nat)
  | flippedFaces (triangles : Nat)
  | removedTriangles (degenerate duplicate : Nat)
  | copiedVertices (vertices : Nat)
  | transplanted (report : MatchReport)
deriving DecidableEq

namespace Notice

/-- Whether something is left to do by hand. -/
def isWarning : Notice → Bool
  | partitionRemoved _ => true
  | transplanted report => !report.isComplete
  | _ => false

/-- The notice in words. -/
def text : Notice → String
  | nothingToDo => "nothing to do"
  | mergedVertices merged => s!"merged {merged} duplicate vertices"
  | removedVertices removed remaining => s!"removed {removed} vertices, {remaining} remain"
  | prunedWeights dropped => s!"dropped {dropped} skin weights of removed vertices"
  | partitionRemoved partition =>
    s!"skin partition {partition.name} was removed; it needs to be regenerated"
  | boundsUpdated block bounds =>
    let center := MatchReport.positionText bounds.center
    s!"bounds of {block.name} set to center {center}, radius {reportText bounds.radius}"
  | flippedUvs vertices => s!"flipped UVs of {vertices} vertices"
  | flippedFaces triangles => s!"flipped {triangles} triangles"
  | removedTriangles degenerate duplicate =>
    let removed := degenerate + duplicate
    s!"removed {removed} triangles ({degenerate} degenerate, {duplicate} duplicate)"
  | copiedVertices vertices => s!"copied {vertices} vertices to the clipboard"
  | transplanted report => report.text

end Notice

/-- What came of an operation that was carried out. -/
structure Outcome where
  notices : List Notice
deriving DecidableEq

namespace Outcome

/-- Whether there was nothing to do. -/
def isNoop (o : Outcome) : Bool := o.notices.all (· = .nothingToDo)

/-- The notices that ask for work by hand. -/
def warnings (o : Outcome) : List Notice := o.notices.filter Notice.isWarning

end Outcome

end IndexedMesh
