import IndexedMesh.Proofs.Complement
import IndexedMesh.Proofs.DocumentText
import IndexedMesh.Proofs.Effects

/-!
# Finite numbers stay finite

The numbers of a document are those of its blocks, and a write puts the numbers of one block in the
place of another one's. So an operation keeps a document finite if each of its writes does.

A removal of vertices keeps some rows of the arrays and some weights, and faces have no numbers.
Texture coordinates are exchanged or taken from one, which does not leave the range of numbers.
Pasting takes numbers from the clipboard, and these are finite if what is read from its text is.
Only bounds are computed by arithmetic that can leave the range.

## Main results

* `Document.finite_replace`, `Document.finite_remove` — single writes.
* `RemovalSite.finite_apply`, `Operation.Rewrites.finite`, `Edit.finite_of_paste` — what is written.
* `Operation.finite_of_perform` — **operations that compute no bounds keep a document finite.**
-/

namespace IndexedMesh

open Json

theorem allFinite_flatMap {α : Type} {items : List α} {numbers : α → List Float32} :
    AllFinite (items.flatMap numbers) ↔ ∀ a ∈ items, AllFinite (numbers a) := by
  constructor
  · exact fun h a ha x hx => h x (List.mem_flatMap.2 ⟨a, ha, hx⟩)
  · intro h x hx
    obtain ⟨a, ha, hx⟩ := List.mem_flatMap.1 hx
    exact h a ha x hx

/-! ## Single writes -/

namespace Document

variable {d : Document} {id : BlockId} {block : Block}

/-- A document is finite if all of its blocks are. -/
theorem finite_iff :
    AllFinite d.numbers ↔ ∀ block, some block ∈ d.slots → AllFinite block.numbers := by
  rw [numbers, allFinite_flatMap]
  constructor
  · intro h block hSlot
    simpa using h (some block) (Array.mem_toList_iff.2 hSlot)
  · intro h slot hSlot
    cases slot with
    | none => exact allFinite_nil
    | some block => simpa using h block (Array.mem_toList_iff.1 hSlot)

theorem finite_of_get? (hFinite : AllFinite d.numbers) (hGet : d.get? id = some block) :
    AllFinite block.numbers := by
  rw [get?, Option.join_eq_some_iff] at hGet
  exact finite_iff.1 hFinite block (Array.mem_of_getElem? hGet)

/-- **Writing a finite block keeps a document finite.** -/
theorem finite_replace (hFinite : AllFinite d.numbers) (hBlock : AllFinite block.numbers) :
    AllFinite (d.replace id block).numbers := by
  refine finite_iff.2 fun found hSlot => ?_
  rcases Array.mem_or_eq_of_mem_setIfInBounds hSlot with hOld | hNew
  · exact finite_iff.1 hFinite found hOld
  · cases hNew
    exact hBlock

theorem finite_remove (hFinite : AllFinite d.numbers) : AllFinite (d.remove id).numbers := by
  refine finite_iff.2 fun found hSlot => ?_
  rcases Array.mem_or_eq_of_mem_setIfInBounds hSlot with hOld | hNew
  · exact finite_iff.1 hFinite found hOld
  · cases hNew

end Document

/-! ## Removals of vertices -/

private theorem finite_retained {α : Type} {items : Array α} {numbers : α → List Float32}
    (hFinite : AllFinite (items.toList.flatMap numbers)) (keep : VertexSet) :
    AllFinite ((retained items keep).toList.flatMap numbers) := by
  refine allFinite_flatMap.2 fun a ha => allFinite_flatMap.1 hFinite a ?_
  obtain ⟨position, _, hPosition⟩ := List.mem_filterMap.1 ha
  exact Array.mem_toList_iff.2 (Array.mem_of_getElem? hPosition)

/-- A geometry that keeps some of its rows stays finite. -/
theorem GeometryData.finite_withMesh {g : GeometryData} {m : Mesh .stored} {keep : VertexSet}
    (hArrays : m.arrays = g.arrays.restrict keep) (hFinite : AllFinite g.numbers) :
    AllFinite (g.withMesh m).numbers := by
  simp only [numbers, allFinite_append, withMesh, withArrays, hArrays, VertexArrays.restrict,
    arrays] at hFinite ⊢
  obtain ⟨⟨⟨⟨⟨hVertices, hNormals⟩, hColors⟩, hSets⟩, hCenter⟩, hRadius⟩ := hFinite
  refine ⟨⟨⟨⟨⟨finite_retained hVertices keep, finite_retained hNormals keep⟩,
    finite_retained hColors keep⟩, allFinite_flatMap.2 fun kept hKept => ?_⟩, hCenter⟩, hRadius⟩
  obtain ⟨set, hSet, rfl⟩ := List.mem_map.1 hKept
  exact finite_retained (allFinite_flatMap.1 hSets set hSet) keep

/-- Bones that keep some of their weights stay finite. -/
theorem finite_bones (r : Renumbering .stored) {bones : List BoneData}
    (hFinite : AllFinite (bones.flatMap BoneData.numbers)) :
    AllFinite (((r.bones (bones.map BoneData.weights)).map BoneWeights.stored).flatMap
      BoneData.numbers) := by
  refine allFinite_flatMap.2 fun stored hStored x hx => ?_
  obtain ⟨_, hNew, rfl⟩ := List.mem_map.1 hStored
  obtain ⟨_, hOld, rfl⟩ := List.mem_map.1 hNew
  obtain ⟨bone, hBone, rfl⟩ := List.mem_map.1 hOld
  obtain ⟨weight, hWeight, rfl⟩ := List.mem_map.1 hx
  obtain ⟨old, hMem, hKept⟩ := List.mem_filterMap.1 hWeight
  obtain ⟨_, _, rfl⟩ := Option.map_eq_some_iff.1 hKept
  exact allFinite_flatMap.1 hFinite bone hBone old.weight (List.mem_map.2 ⟨old, hMem, rfl⟩)

namespace RemovalSite

variable {d : Document} {site : RemovalSite} {mergeDuplicates : Bool} {out : Stripped .stored}

/-- The mesh that a plan leaves has rows of the geometry, and weights of the skin data. -/
private theorem exists_parts_of_plan (hPlan : site.plan mergeDuplicates = .ok (some out)) :
    ∃ (keep : VertexSet) (r : Renumbering .stored),
      out.mesh.arrays = site.geometry.arrays.restrict keep ∧
        out.mesh.bones = r.bones site.mesh.bones := by
  obtain ⟨_, _, hOut, _⟩ := (plan_eq_ok_some_iff site mergeDuplicates out).1 hPlan
  have hMesh := congrArg Stripped.mesh ((Mesh.stripped_eq_some_iff _ _ _).1 hOut).2
  refine ⟨(site.mesh.prepared mergeDuplicates).keep,
    .ofKept (site.mesh.prepared mergeDuplicates).keep, ?_, ?_⟩
  · rw [hMesh, Mesh.condensed, Mesh.arrays_prepared]
    rfl
  · rw [hMesh, Mesh.condensed, Mesh.bones_prepared]

/-- **A removal of vertices keeps a document finite.** -/
theorem finite_apply (hSite : site.In d) (hPlan : site.plan mergeDuplicates = .ok (some out))
    (hFinite : AllFinite d.numbers) : AllFinite (site.apply out d).numbers := by
  obtain ⟨keep, r, hArrays, hBones⟩ := exists_parts_of_plan hPlan
  have hWithMesh : AllFinite
      (d.replace site.data (.geometry (site.geometry.withMesh out.mesh))).numbers :=
    Document.finite_replace hFinite
      (GeometryData.finite_withMesh hArrays (Document.finite_of_get? hFinite hSite.geometry))
  have hRewritten : AllFinite (site.rewritten out d).numbers := by
    unfold rewritten
    cases hSkin : site.skin with
    | none => exact hWithMesh
    | some p =>
        obtain ⟨id, s⟩ := p
        refine Document.finite_replace hWithMesh ?_
        show AllFinite ((out.mesh.bones.map BoneWeights.stored).flatMap BoneData.numbers)
        rw [hBones, bones_mesh hSkin]
        exact finite_bones r (Document.finite_of_get? hFinite (hSite.skinData id s hSkin))
  unfold apply
  cases site.partition with
  | none => exact hRewritten
  | some id => exact Document.finite_remove hRewritten

end RemovalSite

/-! ## Texture coordinates -/

theorem Texcoord.finite_iff {uv : Texcoord} :
    AllFinite uv.components ↔ uv.u.isFinite = true ∧ uv.v.isFinite = true := by
  simp [AllFinite, components]

theorem UvFlip.finite_apply (flip : UvFlip) {uv : Texcoord} (hFinite : AllFinite uv.components) :
    AllFinite (flip.apply uv).components := by
  obtain ⟨hU, hV⟩ := Texcoord.finite_iff.1 hFinite
  refine Texcoord.finite_iff.2 ?_
  cases flip with
  | reverseU => exact ⟨isFinite_one_sub hU, hV⟩
  | reverseV => exact ⟨hU, isFinite_one_sub hV⟩
  | exchange => exact ⟨hV, hU⟩

theorem GeometryData.finite_flip {g : GeometryData} (flip : UvFlip)
    (hFinite : AllFinite g.numbers) :
    AllFinite { g with uvSets := g.uvSets.map (·.map flip.apply) : GeometryData }.numbers := by
  simp only [numbers, allFinite_append, allFinite_flatMap] at hFinite ⊢
  obtain ⟨⟨⟨hRows, hSets⟩, hCenter⟩, hRadius⟩ := hFinite
  refine ⟨⟨⟨hRows, fun flipped hFlipped uv hUv => ?_⟩, hCenter⟩, hRadius⟩
  obtain ⟨set, hSet, rfl⟩ := List.mem_map.1 hFlipped
  obtain ⟨old, hOld, rfl⟩ := Array.mem_map.1 (Array.mem_toList_iff.1 hUv)
  exact flip.finite_apply (hSets set hSet old (Array.mem_toList_iff.2 hOld))

theorem PackedVertex.finite_iff {v : PackedVertex} :
    AllFinite v.numbers ↔ AllFinite v.vertex.components ∧ AllFinite v.uv.components ∧
      AllFinite v.normal.components := by
  rw [numbers, allFinite_append, allFinite_append, and_assoc]

theorem SkinPartition.finite_iff {p : SkinPartition} :
    AllFinite (Block.skinPartition p).numbers ↔ ∀ v ∈ p.vertexData, AllFinite v.numbers := by
  rw [Block.numbers, allFinite_flatMap]
  simp only [Array.mem_toList_iff]

/-- A packed shape is finite if its vertices and its bounds are. -/
theorem PackedShape.finite_iff {s : PackedShape} :
    AllFinite s.numbers ↔ (∀ v ∈ s.vertexData, AllFinite v.numbers) ∧
      AllFinite s.center.components ∧ AllFinite [s.radius] := by
  rw [numbers, allFinite_append, allFinite_append, allFinite_flatMap, and_assoc]
  simp only [Array.mem_toList_iff]

namespace Operation

variable {op : Operation} {old new : Block}

/-- Whether an operation computes bounds. -/
def computesBounds : Operation → Bool
  | updateCenter | updateBounds | updateAllBounds => true
  | _ => false

/-- What is rewritten without computing bounds and without pasting stays finite. -/
theorem Rewrites.finite (h : op.Rewrites old new) (hBounds : op.computesBounds = false)
    (hPaste : op ≠ pasteVertexData) (hFinite : AllFinite old.numbers) : AllFinite new.numbers := by
  cases h with
  | center => cases hBounds
  | bounds op hOp => rcases hOp with rfl | rfl <;> cases hBounds
  | flipUv g flip => exact GeometryData.finite_flip flip hFinite
  | flipPackedUv s flip =>
      obtain ⟨hVertices, hSphere⟩ := PackedShape.finite_iff.1 hFinite
      refine PackedShape.finite_iff.2 ⟨fun v hv => ?_, hSphere⟩
      obtain ⟨old, hOld, rfl⟩ := Array.mem_map.1 hv
      obtain ⟨hVertex, hUv, hNormal⟩ := PackedVertex.finite_iff.1 (hVertices old hOld)
      exact PackedVertex.finite_iff.2 ⟨hVertex, flip.finite_apply hUv, hNormal⟩
  | flipFaces g => exact hFinite
  | prune g => exact hFinite
  | pastePartition => exact absurd rfl hPaste
  | pastePacked => exact absurd rfl hPaste

theorem Reaches.finite {w w' : Workspace} (h : op.Reaches w w')
    (hBounds : op.computesBounds = false) (hPaste : op ≠ pasteVertexData)
    (hFinite : AllFinite w.document.numbers) : AllFinite w'.document.numbers := by
  have hChain : ∀ {d d' : Document}, Relation.ReflTransGen op.Step d d' →
      AllFinite d.numbers → AllFinite d'.numbers := by
    intro d d' hSteps hd
    induction hSteps with
    | refl => exact hd
    | tail _ hStep ih =>
        obtain ⟨id, old, new, hGet, hRewrites, rfl⟩ := hStep
        exact Document.finite_replace ih
          (hRewrites.finite hBounds hPaste (Document.finite_of_get? ih hGet))
  exact hChain h.document hFinite

end Operation

/-! ## Pasting -/

private theorem mem_of_entry_eq_ok {α : Type} {items : Array α} {position : Nat} {a : α}
    (h : entry items position = .ok a) : a ∈ items := by
  unfold entry at h
  split at h
  · cases h
    exact Array.mem_of_getElem? ‹_›
  · cases h

/-- A vertex that takes a finite record stays finite. -/
theorem PackedVertex.finite_take {v : PackedVertex} {r : VertexRecord} {copyNormals : Bool}
    (hVertex : AllFinite v.numbers) (hRecord : AllFinite r.numbers) :
    AllFinite (v.take r copyNormals).numbers := by
  rw [VertexRecord.numbers, allFinite_append, allFinite_append, allFinite_flatMap] at hRecord
  obtain ⟨_, hUv, hNormal⟩ := PackedVertex.finite_iff.1 hVertex
  refine PackedVertex.finite_iff.2 ⟨hRecord.1.1, hUv, ?_⟩
  rw [take]
  cases copyNormals with
  | false => exact hNormal
  | true =>
      cases hTaken : r.normal with
      | none => exact hNormal
      | some normal => exact hRecord.1.2 normal (by simp [hTaken])

/-- **Finite vertices that take finite records stay finite.** -/
theorem finite_transplant {target vertices : Array PackedVertex} {records : Array VertexRecord}
    {copyNormals : Bool} {report : MatchReport}
    (h : transplant target records copyNormals = .ok (vertices, report))
    (hTarget : ∀ v ∈ target, AllFinite v.numbers) (hRecords : ∀ r ∈ records, AllFinite r.numbers) :
    ∀ v ∈ vertices, AllFinite v.numbers := by
  unfold transplant at h
  split at h
  · cases h
  · obtain ⟨matching, -, h⟩ := except_bind_eq_ok_iff.1 h
    obtain ⟨outcomes, hOutcomes, h⟩ := except_bind_eq_ok_iff.1 h
    cases h
    intro v hv
    obtain ⟨outcome, hMem, rfl⟩ := List.mem_map.1 (List.mem_toArray.1 hv)
    obtain ⟨⟨old, index⟩, hOld, hOne⟩ := exists_of_mem_mapM hOutcomes hMem
    have hOldFinite := hTarget old (Array.mem_toList_iff.1 (List.fst_mem_of_mem_zipIdx hOld))
    simp only [transplantOne] at hOne
    split at hOne
    · obtain ⟨record, hRecord, hTaken⟩ := except_bind_eq_ok_iff.1 hOne
      cases hTaken
      exact PackedVertex.finite_take hOldFinite (hRecords record (mem_of_entry_eq_ok hRecord))
    · cases hOne
      exact hOldFinite

/-- The records that a clipboard holds, if it holds any, are finite. -/
def Clipboard.Finite (c : Clipboard) : Prop :=
  ∀ text records, c.text = some text → VertexRecord.readAll text = .ok records →
    ∀ r ∈ records, AllFinite r.numbers

theorem Clipboard.finite_empty : Clipboard.Finite {} := fun _ _ h => by cases h

namespace Edit

variable {α : Type} {w w' : Workspace} {selection : Selection}

/-- Records that are taken from a clipboard of finite records are finite. -/
theorem finite_of_records {c : Clipboard} {records : List VertexRecord} (hClipboard : c.Finite)
    (h : c.records = .ok records) : ∀ r ∈ records, AllFinite r.numbers := by
  obtain ⟨found, hFound, h⟩ := except_bind_eq_ok_iff.1 h
  have hText : c.text = found := by
    unfold Clipboard.read at hFound
    split at hFound <;> cases hFound
    rfl
  cases found with
  | none => cases h
  | some text =>
      dsimp only at h
      cases hRead : VertexRecord.readAll text with
      | error fault =>
          rw [hRead] at h
          cases h
      | ok read =>
          rw [hRead] at h
          cases h
          exact hClipboard text records hText hRead

/-- Vertices that are finite are finite in another block. -/
theorem finite_withPacked {b : Block} {hasNormals : Bool} {vertices others : Array PackedVertex}
    (hPacked : b.packed? = some (hasNormals, vertices)) (hFinite : AllFinite b.numbers)
    (hOthers : (∀ v ∈ vertices, AllFinite v.numbers) → ∀ v ∈ others, AllFinite v.numbers) :
    AllFinite (b.withPacked others).numbers := by
  cases b <;> cases hPacked
  · exact SkinPartition.finite_iff.2 (hOthers (SkinPartition.finite_iff.1 hFinite))
  · obtain ⟨hOld, hSphere⟩ := PackedShape.finite_iff.1 hFinite
    exact PackedShape.finite_iff.2 ⟨hOthers hOld, hSphere⟩

/-- **Pasting finite records keeps a document finite.** -/
theorem finite_of_paste {notices : List Notice} (hClipboard : w.clipboard.Finite)
    (hFinite : AllFinite w.document.numbers)
    (hRun : (pasteVertexData selection).run w = (.ok notices, w')) :
    AllFinite w'.document.numbers := by
  have hSettles : Settles w (fun _ old new => AllFinite old.numbers → AllFinite new.numbers)
      ((pasteVertexData selection).run w) := by
    refine settles_pasteVertexData fun _ hPacked hRecords hTransplant hOld => ?_
    refine finite_withPacked hPacked hOld fun hVertices => ?_
    exact finite_transplant hTransplant hVertices
      (by simpa using finite_of_records hClipboard hRecords)
  rw [hRun] at hSettles
  cases hSettles with
  | unchanged => exact hFinite
  | put hGet hWrites =>
      exact Document.finite_replace hFinite (hWrites (Document.finite_of_get? hFinite hGet))

end Edit

/-! ## All operations -/

namespace Operation

variable {op : Operation} {w w' : Workspace} {selection : Selection} {mode : Nat}
  {outcome : Outcome}

/-- An operation that succeeds and does not remove vertices leaves what its edit leaves, or has
found nothing to work on. -/
private theorem edit_of_perform_ok (hOp : ∀ mergeDuplicates, op ≠ removal mergeDuplicates)
    (hRun : (op.perform selection mode).run w = (.ok outcome, w')) :
    w' = w ∨ ∃ notices, (op.edit selection mode).run w = (.ok notices, w') := by
  rw [run_perform] at hRun
  split at hRun
  · cases hRun
  · split at hRun
    · cases hRun
    · rcases hEdit : (op.edit selection mode).run w with ⟨answer, w₁⟩
      rw [hEdit] at hRun
      cases answer with
      | ok notices =>
          cases hRun
          exact .inr ⟨notices, rfl⟩
      | error e =>
          rcases edit_cases hOp hEdit with ⟨_, _, rfl⟩ | ⟨_, hOk, _⟩
          · cases e <;> cases hRun
            exact .inl rfl
          · cases hOk

/-- **Operations that compute no bounds keep a document finite**, if what they paste is. -/
theorem finite_of_perform (hBounds : op.computesBounds = false)
    (hClipboard : op = pasteVertexData → w.clipboard.Finite)
    (hFinite : AllFinite w.document.numbers)
    (hRun : (op.perform selection mode).run w = (.ok outcome, w')) :
    AllFinite w'.document.numbers := by
  by_cases hRemoval : ∃ mergeDuplicates, op = removal mergeDuplicates
  · obtain ⟨mergeDuplicates, rfl⟩ := hRemoval
    rcases removal_ok_cases hRun with ⟨_, rfl⟩ | ⟨site, out, hSite, _, hPlan, _, rfl⟩
    · exact hFinite
    · exact RemovalSite.finite_apply hSite hPlan hFinite
  · by_cases hPaste : op = pasteVertexData
    · subst hPaste
      rcases edit_of_perform_ok (not_exists.1 hRemoval) hRun with rfl | ⟨notices, hEdit⟩
      · exact hFinite
      · exact Edit.finite_of_paste (hClipboard rfl) hFinite hEdit
    · exact (perform_reaches (not_exists.1 hRemoval) hRun).finite hBounds hPaste hFinite

end Operation

end IndexedMesh
