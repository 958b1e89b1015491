import IndexedMesh.Proofs.EditRuns
import IndexedMesh.Proofs.FiniteNumbers

/-!
# Copied vertices can be pasted back

The vertices of a block are copied to the clipboard as a text, and the text is read when it is
pasted into the same block. The records that are read are the ones that were written. Each of them
has a normal exactly if the block has normals, so both sides agree on them. The vertices are then
matched with themselves and take what they already have.

Texture coordinates may be shared by vertices, or be so close that a vertex would match several
others: the first free candidate of a vertex is the vertex itself all the same.

## Main results

* `Clipboard.records_published` — the records of finite vertices come back.
* `paste_copied` — **a block into which its own copy is pasted stays as it is**, and all of its
  vertices are matched.
-/

namespace IndexedMesh

open Json

/-! ## Records of vertices -/

/-- The record of a finite vertex is finite. -/
theorem VertexRecord.finite_ofPacked {v : PackedVertex} (h : AllFinite v.numbers)
    (withNormal : Bool) : AllFinite (VertexRecord.ofPacked v withNormal).numbers := by
  obtain ⟨hVertex, hUv, hNormal⟩ := PackedVertex.finite_iff.1 h
  rw [VertexRecord.numbers, allFinite_append, allFinite_append]
  refine ⟨⟨hVertex, ?_⟩, hUv⟩
  cases withNormal with
  | false => exact allFinite_nil
  | true => simpa [VertexRecord.ofPacked] using hNormal

/-- The records of finite vertices come back from a clipboard that holds their text. -/
theorem Clipboard.records_published {vertices : List PackedVertex}
    (hFinite : ∀ v ∈ vertices, AllFinite v.numbers) (withNormals : Bool) :
    Clipboard.records { text := some (VertexRecord.writeAll
        (vertices.map (VertexRecord.ofPacked · withNormals))) } =
      .ok (vertices.map (VertexRecord.ofPacked · withNormals)) := by
  have hNumbers : AllFinite
      ((vertices.map (VertexRecord.ofPacked · withNormals)).flatMap VertexRecord.numbers) := by
    rw [allFinite_flatMap]
    intro r hr
    obtain ⟨v, hv, rfl⟩ := List.mem_map.1 hr
    exact VertexRecord.finite_ofPacked (hFinite v hv) withNormals
  have hRead := (VertexRecord.faithful_format.list.parse_pretty
    (vertices.map (VertexRecord.ofPacked · withNormals))).1 hNumbers
  change (VertexRecord.readAll _).mapError Error.records = _
  rw [VertexRecord.readAll, VertexRecord.writeAll, hRead]
  rfl

/-- The block and the records of its vertices agree on whether there are normals. -/
theorem all_normals_ofPacked (vertices : List PackedVertex) (hasNormals : Bool) :
    (hasNormals && (vertices.map (VertexRecord.ofPacked · hasNormals)).all (·.normal.isSome)) =
      hasNormals := by
  cases hasNormals <;> simp [VertexRecord.ofPacked]

/-! ## Copying and pasting -/

section

variable {w : Workspace} {id : BlockId} {b : Block} {hasNormals : Bool}
  {vertices : Array PackedVertex}

/-- The workspace after the vertices of a block have been copied. -/
def Workspace.copied (w : Workspace) (hasNormals : Bool) (vertices : Array PackedVertex) :
    Workspace :=
  { w with clipboard := { text := some (VertexRecord.writeAll
      (vertices.toList.map (VertexRecord.ofPacked · hasNormals))) } }

/-- Vertices are copied to the clipboard, if that can be written. -/
theorem run_perform_copyVertexData (hGet : w.document.get? id = some b)
    (hPacked : b.packed? = some (hasNormals, vertices)) (hSome : vertices ≠ #[])
    (hWritable : w.clipboard.unwritable = none) :
    (Operation.copyVertexData.perform (some id) 0).run w =
      (.ok { notices := [.copiedVertices vertices.size] }, w.copied hasNormals vertices) := by
  have hSelected := Document.selected?_of_get? hGet (Block.kind_of_packed hPacked)
  have hApplies : Operation.copyVertexData.applies w.document (some id) = true := by
    simp [Operation.applies, hSelected]
  refine Operation.run_perform_of_ok hApplies (by decide) ?_
  rw [Operation.edit, Edit.run_copyVertexData hSelected hGet hPacked, if_neg (by simpa using hSome),
    Clipboard.publish, hWritable]
  rfl

/-- What was copied is pasted back. -/
theorem run_perform_pasteVertexData (hGet : w.document.get? id = some b)
    (hPacked : b.packed? = some (hasNormals, vertices)) (hSome : vertices ≠ #[])
    (hFinite : ∀ v ∈ vertices, AllFinite v.numbers) :
    (Operation.pasteVertexData.perform (some id) 0).run (w.copied hasNormals vertices) =
      (.ok { notices := [.transplanted
        { total := vertices.size, matched := vertices.size, unmatched := [] }] },
        w.copied hasNormals vertices) := by
  have hSelected := Document.selected?_of_get? hGet (Block.kind_of_packed hPacked)
  have hApplies : Operation.pasteVertexData.applies w.document (some id) = true := by
    simp [Operation.applies, hSelected]
  have hAll : ∀ v ∈ vertices.toList, AllFinite v.numbers := fun v hv =>
    hFinite v (Array.mem_toList_iff.1 hv)
  have hRecords := Clipboard.records_published hAll hasNormals
  have hClose : ∀ v ∈ vertices, v.uv.isClose uvTolerance v.uv = true := by
    intro v hv
    obtain ⟨hU, hV⟩ := Texcoord.finite_iff.1 (PackedVertex.finite_iff.1 (hFinite v hv)).2.1
    exact Texcoord.isClose_self hU hV
  have hArray : (vertices.toList.map (VertexRecord.ofPacked · hasNormals)).toArray =
      vertices.map (VertexRecord.ofPacked · hasNormals) := Array.toList_inj.1 (by simp)
  refine Operation.run_perform_of_ok hApplies (by decide) ?_
  rw [Operation.edit, Edit.run_pasteVertexData (w := w.copied hasNormals vertices) hSelected hGet
    hPacked]
  dsimp only [Workspace.copied]
  rw [hRecords]
  dsimp only
  rw [if_neg (by simpa using hSome), all_normals_ofPacked, hArray,
    transplant_self hasNormals hClose]
  dsimp only
  rw [Block.withPacked_self hPacked, Workspace.put, Document.replace_self hGet]

/-- **A block into which its own copy is pasted stays as it is.** Of a skin partition or a packed
shape with at least one vertex and finite numbers, with normals or without, the vertices are copied
and then pasted into the same block. Both operations succeed, all vertices are matched, and the
document is what it was before. Texture coordinates may coincide or be as close as they like. What
is assumed of the clipboard is only that it can be written.

Numbers of which the text is read back as another number would be lost on the way, but there are
none among the finite ones. -/
theorem paste_copied (hGet : w.document.get? id = some b)
    (hPacked : b.packed? = some (hasNormals, vertices)) (hSome : vertices ≠ #[])
    (hFinite : ∀ v ∈ vertices, AllFinite v.numbers) (hWritable : w.clipboard.unwritable = none) :
    let copied := w.copied hasNormals vertices
    (performNamed "Copy Vertex Data" (some id) 0).run w =
      (.ok { notices := [.copiedVertices vertices.size] }, copied) ∧
    (performNamed "Paste Vertex Data" (some id) 0).run copied =
      (.ok { notices := [.transplanted
        { total := vertices.size, matched := vertices.size, unmatched := [] }] }, copied) ∧
    copied.document = w.document := by
  have hCopy : Operation.find? "Copy Vertex Data" = some .copyVertexData := by decide
  have hPaste : Operation.find? "Paste Vertex Data" = some .pasteVertexData := by decide
  refine ⟨?_, ?_, rfl⟩
  · rw [performNamed, hCopy]
    exact run_perform_copyVertexData hGet hPacked hSome hWritable
  · rw [performNamed, hPaste]
    exact run_perform_pasteVertexData hGet hPacked hSome hFinite

end

/-- Vertices that share their texture coordinates, or nearly so: the second and the third are within
the tolerance of the first, and of each other. -/
def crowdedVertices : Array PackedVertex :=
  #[⟨⟨0, 0, 0⟩, ⟨0.5, 0.5⟩, ⟨0, 0, 1⟩⟩, ⟨⟨1, 0, 0⟩, ⟨0.5, 0.5⟩, ⟨0, 1, 0⟩⟩,
    ⟨⟨0, 1, 0⟩, ⟨0.500001, 0.5⟩, ⟨1, 0, 0⟩⟩]

/-- A partition with such vertices. -/
def crowdedDocument : Document where
  slots := #[some (.skinPartition { hasNormals := true, vertexData := crowdedVertices })]

theorem paste_copied_crowdedVertices :
    let w : Workspace := { document := crowdedDocument }
    (∀ u ∈ crowdedVertices, ∀ v ∈ crowdedVertices, u.uv.isClose uvTolerance v.uv = true) ∧
      (∀ v ∈ crowdedVertices, AllFinite v.numbers) ∧
      ((performNamed "Paste Vertex Data" (some ⟨0⟩) 0).run (w.copied true crowdedVertices)).2 =
        w.copied true crowdedVertices := by
  intro w
  have hGet : w.document.get? ⟨0⟩ =
      some (.skinPartition { hasNormals := true, vertexData := crowdedVertices }) := rfl
  have hFinite : ∀ v ∈ crowdedVertices, ∀ x ∈ v.numbers, x.isFinite = true := by decide
  have hPasted := paste_copied (w := w) hGet rfl (by decide) hFinite rfl
  exact ⟨by decide, hFinite, by rw [hPasted.2.1]⟩

end IndexedMesh
