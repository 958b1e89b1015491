import IndexedMesh.Edit.Notice
import IndexedMesh.Edit.Workspace

/-!
# Updating bounds

The bounds of a geometry or of a packed shape are computed anew from its vertices. For a geometry
the rule for the center can be chosen, or left to the layout of the document; a packed shape is
always centered on the mean of its vertices. In some documents all packed shapes can be updated
at once, and then the ones without vertices are left out.

## Main definitions

* `Edit.updateCenter`, `Edit.updateBounds`, `Edit.updateAllBounds` — the edits.
-/

namespace IndexedMesh.Edit

/-- Writes the bounds of some points to a block. -/
def writeBounds (id : BlockId) (rule : CenterRule) (points : List Position) : Edit Notice := do
  let bounds ← orEmpty (Sphere.ofPoints? rule points)
  write (·.setBounds id bounds)
  return .boundsUpdated id bounds

/-- The rule for the center that a mode stands for. The first mode leaves it to the layout. -/
def centerRule (data : BlockId) (mode : Nat) : Edit CenterRule := do
  match mode with
  | 0 => return if ← read (·.usesBoxCenter data) then .boxCenter else .centroid
  | 1 => return .centroid
  | _ => return .boxCenter

/-- Updates the bounds of the selected geometry. -/
def updateCenter (selection : Selection) (mode : Nat) : Edit (List Notice) := do
  let (_, data) ← selectedGeometry selection
  let rule ← centerRule data mode
  let arrays ← read (·.vertexArrays data)
  return [← writeBounds data rule arrays.positions.toList]

/-- Updates the bounds of a packed shape. -/
def updatePacked (id : BlockId) : Edit Notice := do
  let vertices ← read (·.packedVertices id)
  writeBounds id .centroid (vertices.toList.map (·.vertex))

/-- Updates the bounds of the selected packed shape. -/
def updateBounds (selection : Selection) : Edit (List Notice) := do
  let id ← selected selection [.packedShape]
  return [← updatePacked id]

/-- Updates the bounds of some packed shapes in turn, without those that have no vertices. -/
def updateEach : List BlockId → Edit (List Notice)
  | [] => return []
  | id :: others => do
    let notice ← unlessEmpty (updatePacked id)
    return notice.toList ++ (← updateEach others)

/-- Updates the bounds of all packed shapes that have vertices. -/
def updateAllBounds : Edit (List Notice) := do
  let shapes ← view fun d => d.ids.filter fun id => d.kind? id = some .packedShape
  match ← updateEach shapes with
  | [] => throw .emptyInput
  | notices => return notices

end IndexedMesh.Edit
