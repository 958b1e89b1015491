import IndexedMesh.Json.Record
import IndexedMesh.Vertex.Point

/-!
# Interleaved vertices and vertex records

Some blocks store their vertices one by one, each with all of its channels. Such vertices travel
between documents as vertex records: a text that lists for each vertex its position, its texture
coordinates, and its normal if it has one.

## Main definitions

* `PackedVertex` — a vertex with all of its channels.
* `VertexRecord` — a vertex in the interchange text.
* `VertexRecord.readAll`, `VertexRecord.writeAll` — the interchange text.
-/

namespace IndexedMesh

/-- A vertex with all of its channels. -/
structure PackedVertex where
  vertex : Position
  uv : Texcoord
  normal : Normal := .zero
deriving DecidableEq

/-- A vertex in the interchange text. -/
structure VertexRecord where
  vertex : Position
  normal : Option Normal
  uv : Texcoord
deriving DecidableEq

/-- The record of a vertex, with its normal only if asked for. -/
def VertexRecord.ofPacked (v : PackedVertex) (withNormal : Bool) : VertexRecord where
  vertex := v.vertex
  normal := if withNormal then some v.normal else none
  uv := v.uv

/-! ## Written forms -/

open Json

/-- A record of all three channels. -/
def PackedVertex.format : Format PackedVertex :=
  (Format.record
    (.cons (.required "vertex" Position.format)
    (.cons (.required "uv" Texcoord.format)
    (.cons (.required "normal" Position.format) .nil)))).map
    (fun (vertex, uv, normal, ()) => { vertex, uv, normal })
    (fun v => (v.vertex, v.uv, v.normal, ()))

/-- A record in which a normal that is not there is not written either. -/
def VertexRecord.format : Format VertexRecord :=
  (Format.record
    (.cons (.required "vertex" Position.format)
    (.cons { Member.optional "normal" Position.format with omits := Option.isNone }
    (.cons (.required "uv" Texcoord.format) .nil)))).map
    (fun (vertex, normal, uv, ()) => { vertex, normal, uv })
    (fun r => (r.vertex, r.normal, r.uv, ()))

/-- The records in an interchange text. -/
def VertexRecord.readAll (text : String) : Except Fault (List VertexRecord) :=
  VertexRecord.format.list.parse text

/-- The interchange text of some records. -/
def VertexRecord.writeAll (records : List VertexRecord) : String :=
  VertexRecord.format.list.pretty records

end IndexedMesh
