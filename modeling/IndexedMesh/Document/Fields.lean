import IndexedMesh.Bounds.Sphere
import IndexedMesh.Document.Basic

/-!
# Reading and writing fields of blocks

Operations read whole fields of blocks and write whole fields back. A field that two kinds of
blocks have is read and written for both. A write that fails changes nothing, and one that
succeeds changes no other field.

A write of vertices keeps the declared number of vertices in step with the arrays, and a write of
weights those of the bones. These numbers have 16 bits, so a write with more entries is refused.

## Main definitions

* `Document.vertexArrays`, `Document.triangles`, `Document.strips`, `Document.bones`,
  `Document.packedVertices` — reading.
* `Document.setVertexArrays` and so on — writing.
* `Document.usesBoxCenter`, `Document.isBatchTarget` — what the layout of a document asks for.
-/

namespace IndexedMesh.Document

/-! ## Layouts -/

/-- Whether all packed shapes of the document can have their bounds updated at once. -/
def isBatchTarget (d : Document) : Bool := d.header.userVersion2 = 130

/-- Whether the bounds of a geometry are centered on its box: in the layouts of some older
versions, and where the geometry carries the flag for it. -/
def usesBoxCenter (d : Document) (data : BlockId) : Except DocumentError Bool := do
  let g ← d.geometry data
  let olderLayout := d.header.version &&& 0x14000000 ≠ 0 && d.header.userVersion = 11
  return olderLayout || g.consistencyFlags &&& 0x8000 ≠ 0

/-! ## Vertices stored channel by channel -/

/-- The declared number of vertices of a geometry. -/
def declaredCount (d : Document) (data : BlockId) : Except DocumentError Nat := do
  return (← d.geometry data).numVertices.toNat

/-- The vertex arrays of a geometry. -/
def vertexArrays (d : Document) (data : BlockId) : Except DocumentError VertexArrays := do
  let g ← d.geometry data
  return {
    positions := g.vertices
    normals := g.normals
    colors := g.vertexColors
    texcoords := g.uvSets }

/-- Changes a geometry. -/
def updateGeometry (d : Document) (data : BlockId) (change : GeometryData → GeometryData) :
    Except DocumentError Document :=
  d.update data .geometry fun block => block.asGeometryData?.map fun g => .geometry (change g)

/-- Writes the vertex arrays of a geometry and its declared number of vertices. -/
def setVertexArrays (d : Document) (data : BlockId) (arrays : VertexArrays) :
    Except DocumentError Document := do
  let numVertices ← narrowCount vertexCountField arrays.size
  d.updateGeometry data fun g => { g with
    numVertices
    vertices := arrays.positions
    normals := arrays.normals
    vertexColors := arrays.colors
    uvSets := arrays.texcoords }

/-- Writes the texture coordinates of a geometry alone. -/
def setTexcoords (d : Document) (data : BlockId) (texcoords : List (Array Texcoord)) :
    Except DocumentError Document :=
  d.updateGeometry data fun g => { g with uvSets := texcoords }

/-! ## Faces -/

/-- The triangles of a geometry or a packed shape. -/
def triangles (d : Document) (id : BlockId) : Except DocumentError (List (Triangle .stored)) :=
  d.typed id .geometry fun
    | .geometry g => some g.triangles
    | .packedShape s => some s.triangles
    | _ => none

/-- Writes the triangles of a geometry or a packed shape. -/
def setTriangles (d : Document) (id : BlockId) (triangles : List (Triangle .stored)) :
    Except DocumentError Document :=
  d.update id .geometry fun
    | .geometry g => some (.geometry { g with triangles })
    | .packedShape s => some (.packedShape { s with triangles })
    | _ => none

/-- The strips of a geometry. -/
def strips (d : Document) (data : BlockId) : Except DocumentError (List (Strip .stored)) := do
  return (← d.geometry data).strips

/-- Writes the strips of a geometry. -/
def setStrips (d : Document) (data : BlockId) (strips : List (Strip .stored)) :
    Except DocumentError Document :=
  d.updateGeometry data fun g => { g with strips }

/-! ## Bounds -/

/-- Writes the bounds of a geometry or a packed shape. -/
def setBounds (d : Document) (id : BlockId) (bounds : Sphere Float32) :
    Except DocumentError Document :=
  d.update id .geometry fun
    | .geometry g => some (.geometry { g with center := bounds.center, radius := bounds.radius })
    | .packedShape s =>
      some (.packedShape { s with center := bounds.center, radius := bounds.radius })
    | _ => none

/-! ## Weights -/

/-- The weights of each bone of some skin data. -/
def bones (d : Document) (skinData : BlockId) :
    Except DocumentError (List (BoneWeights .stored)) := do
  return (← d.skinData skinData).bones.map fun bone => { weights := bone.vertexWeights }

/-- The bones as they are stored, each with its declared number of vertices. -/
def storedBones (bones : List (BoneWeights .stored)) : Except DocumentError (List BoneData) :=
  bones.mapM fun bone => do
    let numVertices ← narrowCount boneCountField bone.weights.length
    return { numVertices, vertexWeights := bone.weights }

/-- Fails if the weights could not be written. -/
def checkBones (bones : List (BoneWeights .stored)) : Except DocumentError Unit := do
  let _ ← storedBones bones

/-- Writes the weights of each bone of some skin data. -/
def setBones (d : Document) (skinData : BlockId) (bones : List (BoneWeights .stored)) :
    Except DocumentError Document := do
  let bones ← storedBones bones
  d.update skinData .skinData fun block =>
    block.asSkinData?.map fun s => .skinData { s with bones }

/-! ## Vertices stored one by one -/

/-- The vertices of a skin partition or a packed shape. -/
def packedVertices (d : Document) (id : BlockId) : Except DocumentError (Array PackedVertex) :=
  d.typed id .packedShape fun
    | .skinPartition p => some p.vertexData
    | .packedShape s => some s.vertexData
    | _ => none

/-- Whether the vertices of a skin partition or a packed shape have normals that mean anything. -/
def packedNormals (d : Document) (id : BlockId) : Except DocumentError Bool :=
  d.typed id .packedShape fun
    | .skinPartition p => some p.hasNormals
    | .packedShape s => some s.hasNormals
    | _ => none

/-- Writes the vertices of a skin partition or a packed shape. -/
def setPackedVertices (d : Document) (id : BlockId) (vertices : Array PackedVertex) :
    Except DocumentError Document :=
  d.update id .packedShape fun
    | .skinPartition p => some (.skinPartition { p with vertexData := vertices })
    | .packedShape s => some (.packedShape { s with vertexData := vertices })
    | _ => none

/-! ## Removing a block -/

/-- Removes a block that has to be there. -/
def removeBlock (d : Document) (id : BlockId) : Except DocumentError Document :=
  if d.contains id then .ok (d.remove id) else .error (.missingBlock id)

end IndexedMesh.Document
