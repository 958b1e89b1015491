import IndexedMesh.Face
import IndexedMesh.Skin
import IndexedMesh.Vertex.Arrays
import IndexedMesh.Vertex.Packed

/-!
# Blocks

A document is made of blocks that refer to each other by handle. A shape links to the geometry it
shows and to a skin instance, a skin instance to its skin data, and either of the two to a skin
partition, which is derived from the layout of vertices and bones and cannot follow a change of
it. A packed shape holds its geometry itself.

A link is only a handle: the block may be gone, or be of another kind than the link suggests.

## Main definitions

* `BlockId` — a handle.
* `Shape`, `GeometryData`, `SkinInstance`, `SkinData`, `SkinPartition`, `PackedShape` — the kinds
  of blocks.
* `Block`, `BlockKind` — a block of any kind.
-/

namespace IndexedMesh

/-- A handle to a block: the number of its slot. -/
structure BlockId where
  number : UInt32
deriving DecidableEq

/-- The handle in messages. -/
def BlockId.name (id : BlockId) : String := s!"#{id.number.toNat}"

/-! ## The kinds of blocks -/

/-- A visible object that refers to geometry stored elsewhere. -/
structure Shape where
  name : String := ""
  data : Option BlockId := none
  skinInstance : Option BlockId := none
deriving DecidableEq

/-- Geometry stored channel by channel. The declared number of vertices is stored apart from the
arrays and may disagree with them. -/
structure GeometryData where
  numVertices : UInt16 := 0
  vertices : Array Position := #[]
  normals : Array Normal := #[]
  vertexColors : Array Rgba := #[]
  uvSets : List (Array Texcoord) := []
  consistencyFlags : UInt16 := 0
  center : Position := .zero
  radius : Float32 := 0
  triangles : List (Triangle .stored) := []
  strips : List (Strip .stored) := []
deriving DecidableEq

/-- What binds a shape to a skeleton. -/
structure SkinInstance where
  data : Option BlockId := none
  partition : Option BlockId := none
deriving DecidableEq

/-- A bone with the vertices that it moves. The declared number of vertices is stored apart from
the weights. -/
structure BoneData where
  numVertices : UInt16
  vertexWeights : List (VertexWeight .stored)
deriving DecidableEq

/-- The bones of a skin. Older layouts link the partition from here. -/
structure SkinData where
  bones : List BoneData := []
  partition : Option BlockId := none
deriving DecidableEq

/-- A regrouping of the weights of a skin, derived from the layout of its vertices and bones. -/
structure SkinPartition where
  hasNormals : Bool := false
  vertexData : Array PackedVertex := #[]
deriving DecidableEq

/-- A visible object with its geometry stored inside, vertex by vertex. -/
structure PackedShape where
  name : String := ""
  hasNormals : Bool := false
  vertexData : Array PackedVertex := #[]
  triangles : List (Triangle .stored) := []
  center : Position := .zero
  radius : Float32 := 0
  skinInstance : Option BlockId := none
deriving DecidableEq

/-- The kind of a block. -/
inductive BlockKind
  | shape
  | geometry
  | skinInstance
  | skinData
  | skinPartition
  | packedShape
deriving DecidableEq

/-- The kind in messages. -/
def BlockKind.name : BlockKind → String
  | .shape => "shape"
  | .geometry => "geometry data"
  | .skinInstance => "skin instance"
  | .skinData => "skin data"
  | .skinPartition => "skin partition"
  | .packedShape => "packed shape"

/-- A block of any kind. -/
inductive Block
  | shape (shape : Shape)
  | geometry (geometry : GeometryData)
  | skinInstance (skinInstance : SkinInstance)
  | skinData (skinData : SkinData)
  | skinPartition (skinPartition : SkinPartition)
  | packedShape (packedShape : PackedShape)
deriving DecidableEq

namespace Block

/-- The kind of a block. -/
def kind : Block → BlockKind
  | .shape _ => .shape
  | .geometry _ => .geometry
  | .skinInstance _ => .skinInstance
  | .skinData _ => .skinData
  | .skinPartition _ => .skinPartition
  | .packedShape _ => .packedShape

/-- The block as a shape. -/
def asShape? : Block → Option Shape
  | .shape s => some s
  | _ => none

/-- The block as geometry. -/
def asGeometryData? : Block → Option GeometryData
  | .geometry g => some g
  | _ => none

/-- The block as a skin instance. -/
def asSkinInstance? : Block → Option SkinInstance
  | .skinInstance i => some i
  | _ => none

/-- The block as skin data. -/
def asSkinData? : Block → Option SkinData
  | .skinData d => some d
  | _ => none

/-- The block as a skin partition. -/
def asSkinPartition? : Block → Option SkinPartition
  | .skinPartition p => some p
  | _ => none

/-- The block as a packed shape. -/
def asPackedShape? : Block → Option PackedShape
  | .packedShape s => some s
  | _ => none

end Block

end IndexedMesh
