import IndexedMesh.Document.Basic
import IndexedMesh.Json.Variant

/-!
# The written form of a document

A document is written as a record of its header and its slots. A slot is a block or null, and a
block is written under the name of its kind. Handles and links are integers.

## Main definitions

* `Document.format` — the written form of a document.
* one format for each type that a document is made of.
-/

namespace IndexedMesh

open Json

/-- A handle is written as its number. -/
def BlockId.format : Format BlockId := Format.uint32.map BlockId.mk BlockId.number

/-- A record of three version numbers. -/
def Header.format : Format Header :=
  (Format.record
    (.cons (.required "version" .uint32)
    (.cons (.required "user_version" .uint32)
    (.cons (.required "user_version_2" .uint32) .nil)))).map
    (fun (version, userVersion, userVersion2, ()) => { version, userVersion, userVersion2 })
    (fun h => (h.version, h.userVersion, h.userVersion2, ()))

/-- A record of the name and the links. -/
def Shape.format : Format Shape :=
  (Format.record
    (.cons (.required "name" .text)
    (.cons (.optional "data" BlockId.format)
    (.cons (.optional "skin_instance" BlockId.format) .nil)))).map
    (fun (name, data, skinInstance, ()) => { name, data, skinInstance })
    (fun s => (s.name, s.data, s.skinInstance, ()))

/-- A record of all arrays and numbers. -/
def GeometryData.format : Format GeometryData :=
  (Format.record
    (.cons (.required "num_vertices" .uint16)
    (.cons (.required "vertices" Position.format.array)
    (.cons (.required "normals" Position.format.array)
    (.cons (.required "vertex_colors" Rgba.format.array)
    (.cons (.required "uv_sets" Texcoord.format.array.list)
    (.cons (.required "consistency_flags" .uint16)
    (.cons (.required "center" Position.format)
    (.cons (.required "radius" .float32)
    (.cons (.required "triangles" Triangle.format.list)
    (.cons (.required "strips" Strip.format.list) .nil))))))))))).map
    (fun (numVertices, vertices, normals, vertexColors, uvSets, consistencyFlags, center, radius,
        triangles, strips, ()) =>
      { numVertices, vertices, normals, vertexColors, uvSets, consistencyFlags, center, radius,
        triangles, strips })
    (fun g => (g.numVertices, g.vertices, g.normals, g.vertexColors, g.uvSets, g.consistencyFlags,
      g.center, g.radius, g.triangles, g.strips, ()))

/-- A record of two links. -/
def SkinInstance.format : Format SkinInstance :=
  (Format.record
    (.cons (.optional "data" BlockId.format)
    (.cons (.optional "partition" BlockId.format) .nil))).map
    (fun (data, partition, ()) => { data, partition })
    (fun i => (i.data, i.partition, ()))

/-- A record of the declared number and the weights. -/
def BoneData.format : Format BoneData :=
  (Format.record
    (.cons (.required "num_vertices" .uint16)
    (.cons (.required "vertex_weights" VertexWeight.format.list) .nil))).map
    (fun (numVertices, vertexWeights, ()) => { numVertices, vertexWeights })
    (fun b => (b.numVertices, b.vertexWeights, ()))

/-- A record of the bones and a link. -/
def SkinData.format : Format SkinData :=
  (Format.record
    (.cons (.required "bones" BoneData.format.list)
    (.cons (.optional "partition" BlockId.format) .nil))).map
    (fun (bones, partition, ()) => { bones, partition })
    (fun s => (s.bones, s.partition, ()))

/-- A record of the vertices, and whether they have normals. -/
def SkinPartition.format : Format SkinPartition :=
  (Format.record
    (.cons (.required "has_normals" .bool)
    (.cons (.required "vertex_data" PackedVertex.format.array) .nil))).map
    (fun (hasNormals, vertexData, ()) => { hasNormals, vertexData })
    (fun p => (p.hasNormals, p.vertexData, ()))

/-- A record of everything that a packed shape holds. -/
def PackedShape.format : Format PackedShape :=
  (Format.record
    (.cons (.required "name" .text)
    (.cons (.required "has_normals" .bool)
    (.cons (.required "vertex_data" PackedVertex.format.array)
    (.cons (.required "triangles" Triangle.format.list)
    (.cons (.required "center" Position.format)
    (.cons (.required "radius" .float32)
    (.cons (.optional "skin_instance" BlockId.format) .nil)))))))).map
    (fun (name, hasNormals, vertexData, triangles, center, radius, skinInstance, ()) =>
      { name, hasNormals, vertexData, triangles, center, radius, skinInstance })
    (fun s => (s.name, s.hasNormals, s.vertexData, s.triangles, s.center, s.radius,
      s.skinInstance, ()))

/-! ## Kinds of blocks and channels -/

/-- The name of a kind where a document is written. -/
def BlockKind.written : BlockKind → String
  | .shape => "Shape"
  | .geometry => "Geometry"
  | .skinInstance => "SkinInstance"
  | .skinData => "SkinData"
  | .skinPartition => "SkinPartition"
  | .packedShape => "PackedShape"

/-- All kinds of blocks. -/
def BlockKind.all : List BlockKind :=
  [.shape, .geometry, .skinInstance, .skinData, .skinPartition, .packedShape]

/-- The name of a kind alone. -/
def BlockKind.format : Format BlockKind :=
  .oneOf (BlockKind.all.map fun kind => (kind.written, .bare kind)) fun kind => (kind.written, none)

/-- How the blocks of each kind are read. -/
def Block.alternative : BlockKind → Alternative Block
  | .shape => .carrying (Block.shape <$> Shape.format.read)
  | .geometry => .carrying (Block.geometry <$> GeometryData.format.read)
  | .skinInstance => .carrying (Block.skinInstance <$> SkinInstance.format.read)
  | .skinData => .carrying (Block.skinData <$> SkinData.format.read)
  | .skinPartition => .carrying (Block.skinPartition <$> SkinPartition.format.read)
  | .packedShape => .carrying (Block.packedShape <$> PackedShape.format.read)

/-- What a block carries beside its kind. -/
def Block.written : Block → Written
  | .shape s => Shape.format.write s
  | .geometry g => GeometryData.format.write g
  | .skinInstance i => SkinInstance.format.write i
  | .skinData s => SkinData.format.write s
  | .skinPartition p => SkinPartition.format.write p
  | .packedShape s => PackedShape.format.write s

/-- The name of the kind with the record of the block. -/
def Block.format : Format Block :=
  .oneOf (BlockKind.all.map fun kind => (kind.written, Block.alternative kind)) fun block =>
    (block.kind.written, some block.written)

/-- A channel, with the number of the set for texture coordinates. -/
def Channel.format : Format Channel :=
  .oneOf
    [("Position", .bare .position), ("Normal", .bare .normal), ("Color", .bare .color),
      ("Texcoord", .carrying (Channel.texcoord <$> Format.uint32.read))]
    fun
      | .position => ("Position", none)
      | .normal => ("Normal", none)
      | .color => ("Color", none)
      | .texcoord set => ("Texcoord", some (Format.uint32.write set))

/-! ## Documents -/

/-- A record of the header and the slots; an empty slot is null. -/
def Document.format : Format Document :=
  (Format.record
    (.cons (.required "header" Header.format)
    (.cons (.required "blocks" Block.format.optional.array) .nil))).map
    (fun (header, slots, ()) => { header, slots })
    (fun d => (d.header, d.slots, ()))

end IndexedMesh
