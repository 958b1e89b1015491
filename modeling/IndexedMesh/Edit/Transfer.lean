import IndexedMesh.Edit.Notice
import IndexedMesh.Edit.Workspace

/-!
# Moving vertex data between documents

The vertices of a block that stores them one by one are copied to the clipboard as vertex records,
and records on the clipboard are pasted into such a block, whose vertices take their positions
from the records that match them by texture coordinates. Normals are pasted only if the block and
all of the records have them.

## Main definitions

* `Edit.copyVertexData`, `Edit.pasteVertexData` — the edits.
-/

namespace IndexedMesh

/-- The kinds of blocks that store their vertices one by one. -/
def packedKinds : List BlockKind := [.skinPartition, .packedShape]

namespace Edit

/-- Copies the vertices of the selected block to the clipboard. -/
def copyVertexData (selection : Selection) : Edit (List Notice) := do
  let id ← selected selection packedKinds
  let vertices ← read (·.packedVertices id)
  if vertices.isEmpty then throw .emptyInput
  let withNormals ← read (·.packedNormals id)
  let records := vertices.toList.map (VertexRecord.ofPacked · withNormals)
  let clipboard ← attempt ((← get).clipboard.publish (VertexRecord.writeAll records))
  modify fun w => { w with clipboard }
  return [.copiedVertices records.length]

/-- The records on the clipboard. -/
def clipboardRecords : Edit (List VertexRecord) := do
  match ← attempt (← get).clipboard.read with
  | none => throw .emptyClipboard
  | some text =>
    match VertexRecord.readAll text with
    | .ok records => return records
    | .error fault => throw (.records fault)

/-- Pastes the records on the clipboard into the selected block. -/
def pasteVertexData (selection : Selection) : Edit (List Notice) := do
  let id ← selected selection packedKinds
  let records ← clipboardRecords
  let vertices ← read (·.packedVertices id)
  if vertices.isEmpty then throw .emptyInput
  let copyNormals := (← read (·.packedNormals id)) && records.all (·.normal.isSome)
  let (vertices, report) ← attempt (transplant vertices records.toArray copyNormals)
  write (·.setPackedVertices id vertices)
  return [.transplanted report]

end Edit

end IndexedMesh
