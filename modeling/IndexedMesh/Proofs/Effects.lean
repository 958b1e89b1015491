import Mathlib.Logic.Relation
import IndexedMesh.Proofs.EditRuns
import IndexedMesh.Proofs.Perform

/-!
# What the other operations do to a document

The operations that do not remove vertices rewrite blocks in place, one or several, each in a way
that can be said of the block alone. An edit that fails has not written anything. All of this is
read off the edits once, here; what such an operation keeps is then a matter of what one rewriting
keeps.

## Main results

* `Operation.Rewrites` — what an operation may turn a block into.
* `Operation.Reaches` — a document is reached by rewriting blocks.
* `Operation.edit_cases` — an edit fails and leaves everything as it was, or rewrites blocks.
* `Operation.perform_reaches` — so does the operation.
-/

namespace IndexedMesh

namespace Operation

/-- What an operation that does not remove vertices may turn a block into. -/
inductive Rewrites : Operation → Block → Block → Prop
  | center (g : GeometryData) (rule : CenterRule) (bounds : Sphere Float32)
      (hBounds : Sphere.ofPoints? rule g.vertices.toList = some bounds) :
      Rewrites updateCenter (.geometry g)
        (.geometry { g with center := bounds.center, radius := bounds.radius })
  | bounds (op : Operation) (hOp : op = updateBounds ∨ op = updateAllBounds) (s : PackedShape)
      (bounds : Sphere Float32)
      (hBounds : Sphere.ofPoints? .centroid (s.vertexData.toList.map (·.vertex)) = some bounds) :
      Rewrites op (.packedShape s)
        (.packedShape { s with center := bounds.center, radius := bounds.radius })
  | flipUv (g : GeometryData) (flip : UvFlip) :
      Rewrites flipUv (.geometry g)
        (.geometry { g with uvSets := g.uvSets.map (·.map flip.apply) })
  | flipPackedUv (s : PackedShape) (flip : UvFlip) :
      Rewrites flipUv (.packedShape s)
        (.packedShape { s with
          vertexData := s.vertexData.map fun v => { v with uv := flip.apply v.uv } })
  | flipFaces (g : GeometryData) :
      Rewrites flipFaces (.geometry g)
        (.geometry { g with triangles := g.triangles.map Triangle.flip })
  | prune (g : GeometryData) :
      Rewrites pruneTriangles (.geometry g)
        (.geometry { g with triangles := (IndexedMesh.prune g.triangles).kept })
  | pastePartition (p : SkinPartition) (records : Array VertexRecord) (copyNormals : Bool)
      (vertices : Array PackedVertex) (report : MatchReport)
      (hNormals : copyNormals = true → p.hasNormals = true)
      (hTransplant : transplant p.vertexData records copyNormals = .ok (vertices, report)) :
      Rewrites pasteVertexData (.skinPartition p)
        (.skinPartition { p with vertexData := vertices })
  | pastePacked (s : PackedShape) (records : Array VertexRecord) (copyNormals : Bool)
      (vertices : Array PackedVertex) (report : MatchReport)
      (hNormals : copyNormals = true → s.hasNormals = true)
      (hTransplant : transplant s.vertexData records copyNormals = .ok (vertices, report)) :
      Rewrites pasteVertexData (.packedShape s)
        (.packedShape { s with vertexData := vertices })

/-- Rewriting one block. -/
def Step (op : Operation) (d d' : Document) : Prop :=
  ∃ id old new, d.get? id = some old ∧ op.Rewrites old new ∧ d' = d.replace id new

/-- What is reached by rewriting blocks. Only copying changes the clipboard. -/
structure Reaches (op : Operation) (w w' : Workspace) : Prop where
  document : Relation.ReflTransGen op.Step w.document w'.document
  clipboard : op ≠ copyVertexData → w'.clipboard = w.clipboard

/-- A run has failed and left everything as it was, or has rewritten blocks. -/
def Answers {α : Type} (op : Operation) (w : Workspace) (r : Except Error α) (w' : Workspace) :
    Prop :=
  (∃ e, r = .error e ∧ w' = w) ∨ ∃ a, r = .ok a ∧ op.Reaches w w'

/-- A rewriting keeps the kind of a block and its links. -/
theorem Rewrites.wiring_eq {op : Operation} {old new : Block} (h : op.Rewrites old new) :
    new.wiring = old.wiring := by
  cases h <;> rfl

theorem Step.wiring_eq {op : Operation} {d d' : Document} (h : op.Step d d') :
    d'.wiring = d.wiring := by
  obtain ⟨id, old, new, hGet, hRewrites, rfl⟩ := h
  exact Document.wiring_replace hGet hRewrites.wiring_eq

variable {op : Operation} {w w' : Workspace} {selection : Selection} {mode : Nat}

theorem Reaches.refl (op : Operation) (w : Workspace) : op.Reaches w w :=
  { document := .refl, clipboard := fun _ => rfl }

/-- Rewriting one block of a workspace. -/
theorem Reaches.of_step {id : BlockId} {old new : Block}
    (hGet : w.document.get? id = some old) (hRewrites : op.Rewrites old new) :
    op.Reaches w { w with document := w.document.replace id new } :=
  { document := .single ⟨id, old, new, hGet, hRewrites, rfl⟩
    clipboard := fun _ => rfl }

theorem Reaches.trans {w₁ : Workspace} (h : op.Reaches w w₁) (h' : op.Reaches w₁ w') :
    op.Reaches w w' :=
  { document := h.document.trans h'.document
    clipboard := fun hOp => (h'.clipboard hOp).trans (h.clipboard hOp) }

end Operation

/-! ## Edits of one block -/

/-- An edit that settles by rewriting a block answers. -/
theorem Edit.Settles.answers {op : Operation} {w w' : Workspace}
    {run : Except Error (List Notice) × Workspace} {r : Except Error (List Notice)}
    (h : Edit.Settles w (fun _ => op.Rewrites) run) (hRun : run = (r, w')) :
    op.Answers w r w' := by
  cases h with
  | failed =>
      cases hRun
      exact .inl ⟨_, rfl, rfl⟩
  | unchanged notices =>
      cases hRun
      exact .inr ⟨notices, rfl, .refl op w⟩
  | put hGet hNew notices =>
      cases hRun
      exact .inr ⟨notices, rfl, .of_step hGet hNew⟩

namespace Edit

open Operation

variable {w w' : Workspace} {selection : Selection} {mode : Nat}

/-- What pasting makes of a block is a rewriting of it. -/
theorem rewrites_paste {b : Block} {hasNormals : Bool} {vertices others : Array PackedVertex}
    {records : List VertexRecord} {report : MatchReport}
    (hPacked : b.packed? = some (hasNormals, vertices))
    (hTransplant : transplant vertices records.toArray
      (hasNormals && records.all (·.normal.isSome)) = .ok (others, report)) :
    Operation.pasteVertexData.Rewrites b (b.withPacked others) := by
  cases b <;> cases hPacked
  · exact .pastePartition _ _ _ _ report (by simp +contextual) hTransplant
  · exact .pastePacked _ _ _ _ report (by simp +contextual) hTransplant

/-! ## All packed shapes -/

/-- All of some packed shapes in turn: none of them makes the edit fail, and if nothing is told,
nothing was done. -/
private theorem updateEach_answers :
    ∀ (ids : List BlockId) {w w' : Workspace} {r : Except Error (List Notice)},
      (∀ id ∈ ids, ∃ s, w.document.get? id = some (.packedShape s)) →
      (updateEach ids).run w = (r, w') →
        ∃ notices, r = .ok notices ∧ Operation.updateAllBounds.Reaches w w' ∧
          (notices = [] → w' = w) := by
  intro ids
  induction ids with
  | nil =>
      intro w w' r _ hRun
      cases hRun
      exact ⟨[], rfl, .refl _ _, fun _ => rfl⟩
  | cons id others ih =>
      intro w w' r hPacked hRun
      obtain ⟨s, hGet⟩ := hPacked id (by simp)
      rw [updateEach, run_bind, run_unlessEmpty, run_updatePacked hGet] at hRun
      cases hPoints : Sphere.ofPoints? .centroid (s.vertexData.toList.map (·.vertex)) with
      | none =>
          rw [hPoints] at hRun
          rcases hRest : (updateEach others).run w with ⟨rest, w₂⟩
          obtain ⟨notices, rfl, hReaches, hNothing⟩ :=
            ih (fun other hOther => hPacked other (by simp [hOther])) hRest
          have hAll := (run_bind_of_ok hRest _).symm.trans hRun
          cases hAll
          exact ⟨notices, rfl, hReaches, hNothing⟩
      | some bounds =>
          rw [hPoints] at hRun
          let s' : PackedShape := { s with center := bounds.center, radius := bounds.radius }
          let w₁ : Workspace := w.put id (.packedShape s')
          have hStep : Operation.updateAllBounds.Reaches w w₁ :=
            .of_step hGet (.bounds _ (.inr rfl) s bounds hPoints)
          have hStill : ∀ other ∈ others, ∃ s, w₁.document.get? other = some (.packedShape s) := by
            intro other hOther
            show ∃ s, (w.document.replace id (.packedShape s')).get? other = _
            rw [Document.get?_replace (Document.contains_of_get? hGet)]
            by_cases hEq : other = id
            · exact ⟨s', if_pos hEq⟩
            · rw [if_neg hEq]
              exact hPacked other (by simp [hOther])
          rcases hRest : (updateEach others).run w₁ with ⟨rest, w₂⟩
          obtain ⟨notices, rfl, hReaches, _⟩ := ih hStill hRest
          have hAll := (run_bind_of_ok hRest _).symm.trans hRun
          cases hAll
          exact ⟨_, rfl, hStep.trans hReaches, fun h => by cases h⟩

/-- The update of all bounds fails if there are no vertices to work on, and otherwise updates
bounds. -/
theorem updateAllBounds_cases (w : Workspace) :
    Edit.updateAllBounds.run w = (.error .emptyInput, w) ∨
      ∃ notices w', Edit.updateAllBounds.run w = (.ok notices, w') ∧
        Operation.updateAllBounds.Reaches w w' := by
  rw [Edit.updateAllBounds, run_bind_of_ok (run_view _ _)]
  rcases hEach : (updateEach _).run w with ⟨rest, w₁⟩
  have hPacked : ∀ id ∈ w.document.ids.filter fun id => w.document.kind? id = some .packedShape,
      ∃ s, w.document.get? id = some (.packedShape s) := by
    intro id hId
    have hKind := (List.mem_filter.1 hId).2
    obtain ⟨b, hGet, hb⟩ := Document.kind?_eq_some_iff.1 (by simpa using hKind)
    cases b <;> cases hb
    exact ⟨_, hGet⟩
  obtain ⟨notices, rfl, hReaches, hNothing⟩ := updateEach_answers _ hPacked hEach
  rw [run_bind_of_ok hEach]
  cases notices with
  | nil =>
      obtain rfl := hNothing rfl
      exact .inl rfl
  | cons notice more => exact .inr ⟨_, w₁, rfl, hReaches⟩

end Edit

namespace Operation

variable {op : Operation} {w w' : Workspace} {selection : Selection} {mode : Nat}

/-- **An edit that fails leaves everything as it was, and one that does not remove vertices only
rewrites blocks.** -/
theorem edit_cases {r : Except Error (List Notice)}
    (hOp : ∀ mergeDuplicates, op ≠ removal mergeDuplicates)
    (hRun : (op.edit selection mode).run w = (r, w')) : op.Answers w r w' := by
  cases op with
  | removeUnused => exact absurd rfl (hOp false)
  | removeDuplicates => exact absurd rfl (hOp true)
  | updateCenter =>
      exact (Edit.settles_updateCenter fun _ hBounds => .center _ _ _ hBounds).answers hRun
  | updateBounds =>
      exact (Edit.settles_updateBounds fun _ hBounds =>
        .bounds _ (.inl rfl) _ _ hBounds).answers hRun
  | updateAllBounds =>
      rcases Edit.updateAllBounds_cases w with hAll | ⟨notices, w₁, hAll, hReaches⟩
      · cases hAll.symm.trans hRun
        exact .inl ⟨_, rfl, rfl⟩
      · cases hAll.symm.trans hRun
        exact .inr ⟨notices, rfl, hReaches⟩
  | flipUv =>
      exact (Edit.settles_flipUv (fun _ => .flipUv _ _) fun _ => .flipPackedUv _ _).answers hRun
  | flipFaces => exact (Edit.settles_flipFaces fun _ => .flipFaces _).answers hRun
  | pruneTriangles => exact (Edit.settles_pruneTriangles fun _ => .prune _).answers hRun
  | copyVertexData =>
      rcases Edit.copyVertexData_cases selection w with ⟨e, hCopy, -⟩ | ⟨notices, clipboard, hCopy⟩
      · cases hCopy.symm.trans hRun
        exact .inl ⟨e, rfl, rfl⟩
      · cases hCopy.symm.trans hRun
        exact .inr ⟨notices, rfl, { document := .refl, clipboard := fun h => absurd rfl h }⟩
  | pasteVertexData =>
      exact (Edit.settles_pasteVertexData fun _ hPacked _ =>
        Edit.rewrites_paste hPacked).answers hRun

/-- **Whether it fails or not, an operation that does not remove vertices only rewrites blocks.** -/
theorem perform_reaches {r : Except Error Outcome}
    (hOp : ∀ mergeDuplicates, op ≠ removal mergeDuplicates)
    (hRun : (op.perform selection mode).run w = (r, w')) : op.Reaches w w' := by
  rw [run_perform] at hRun
  split at hRun
  · cases hRun
    exact .refl op w
  · split at hRun
    · cases hRun
      exact .refl op w
    · rcases hEdit : (op.edit selection mode).run w with ⟨answer, w₁⟩
      rw [hEdit] at hRun
      rcases edit_cases hOp hEdit with ⟨e, rfl, rfl⟩ | ⟨notices, rfl, hReaches⟩
      · cases e <;> cases hRun <;> exact .refl op _
      · cases hRun
        exact hReaches

end Operation

end IndexedMesh
