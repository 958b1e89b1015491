import IndexedMesh.Index
import IndexedMesh.Face
import IndexedMesh.Json.Record

/-!
# Skin weights

A bone moves some vertices of a mesh, each with a weight.

## Main definitions

* `VertexWeight` — the influence of a bone on one vertex.
* `BoneWeights` — the vertices that a bone moves.
-/

namespace IndexedMesh

/-- The influence of a bone on one vertex. -/
structure VertexWeight (t : IndexType) where
  index : Index t
  weight : Float32
deriving DecidableEq

/-- The vertices that one bone moves. -/
structure BoneWeights (t : IndexType) where
  weights : List (VertexWeight t)
deriving DecidableEq

/-! ## Written forms -/

open Json

/-- A record of the vertex and the weight. -/
def VertexWeight.format : Format (VertexWeight .stored) :=
  (Format.record
    (.cons (.required "index" Index.format)
    (.cons (.required "weight" .float32) .nil))).map
    (fun (index, weight, ()) => { index, weight })
    (fun w => (w.index, w.weight, ()))

/-- A record of the weights alone. -/
def BoneWeights.format : Format (BoneWeights .stored) :=
  (Format.record
    (.cons (.required "weights" VertexWeight.format.list) .nil)).map
    (fun (weights, ()) => { weights })
    (fun b => (b.weights, ()))

end IndexedMesh
