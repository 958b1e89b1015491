import IndexedMesh.Proofs.Perform

/-!
# What a selection stands for

No operation looks at a selection itself. It asks what geometry the selection stands for, what block
with its own vertices, or whether all of the document is meant, and goes on with the answer. Two
selections with the same answers are the same to all of them.

A shape and its geometry have the same answers if no other shape links to that geometry. From the
shape the geometry is found over its link, and from the geometry the shape by a search among all
blocks. The two ways do not meet in general: the search takes the first shape with the link, and
does not ask for the kind of what the link leads to, since it starts there.

## Main results

* `Document.Alike` — selections that no operation tells apart.
* `Document.Alike.applies_eq`, `Document.Alike.run_edit_eq`, `Document.Alike.run_perform_eq` — none
  does.
* `Document.LinkedOnlyBy` — a shape is the only one that links to a geometry.
* `selecting_geometry_as_shape` — **then it does not matter which of the two is selected.**
-/

namespace IndexedMesh

variable {a b : Selection} {w : Workspace}

/-! ## Selections that are alike -/

/-- Two selections stand for the same geometry of the same shape and for the same block with its own
vertices, or both for the document as a whole. -/
structure Document.Alike (d : Document) (a b : Selection) : Prop where
  whole : a.isNone = b.isNone
  data : d.selectedData? a = d.selectedData? b
  packed : ∀ kinds : List BlockKind, kinds ⊆ packedKinds →
    d.selected? a kinds = d.selected? b kinds

namespace Document.Alike

/-- The packed shapes among the blocks with their own vertices. -/
theorem packedShape {d : Document} (h : d.Alike a b) :
    d.selected? a [.packedShape] = d.selected? b [.packedShape] :=
  h.packed _ (by decide)

/-- **An operation is for both selections or for none of them.** -/
theorem applies_eq {d : Document} (h : d.Alike a b) (op : Operation) :
    op.applies d a = op.applies d b := by
  have hTriangles : d.hasSelectedTriangles a = d.hasSelectedTriangles b := by
    rw [hasSelectedTriangles, hasSelectedTriangles, h.data]
  have hStoring : d.selected? a packedKinds = d.selected? b packedKinds :=
    h.packed _ (List.Subset.refl _)
  cases op <;>
    simp only [Operation.applies, h.data, h.whole, h.packedShape, hTriangles, hStoring]

/-! ## Edits -/

private theorem run_bind_congr {α β : Type} {x y : Edit α} (h : x.run w = y.run w)
    (f : α → Edit β) : (x >>= f).run w = (y >>= f).run w := by
  rw [Edit.run_bind, Edit.run_bind, h]

private theorem run_selectedGeometry_eq (h : w.document.Alike a b) :
    (Edit.selectedGeometry a).run w = (Edit.selectedGeometry b).run w := by
  show (Edit.orEmpty (w.document.selectedData? a)).run w = _
  rw [h.data]
  rfl

private theorem run_selected_eq {kinds : List BlockKind} (hKinds : kinds ⊆ packedKinds)
    (h : w.document.Alike a b) :
    (Edit.selected a kinds).run w = (Edit.selected b kinds).run w := by
  show (Edit.orEmpty (w.document.selected? a kinds)).run w = _
  rw [h.packed kinds hKinds]
  rfl

private theorem run_flipUv_eq (h : w.document.Alike a b) (mode : Nat) :
    (Edit.flipUv a mode).run w = (Edit.flipUv b mode).run w := by
  rw [Edit.flipUv, Edit.flipUv, Edit.run_bind_of_ok (Edit.run_view _ _),
    Edit.run_bind_of_ok (Edit.run_view _ _), h.data]
  cases w.document.selectedData? b with
  | some answer => rfl
  | none => exact run_bind_congr (run_selected_eq (by decide) h) _

/-- **An edit does the same for both selections.** The edit of all packed shapes does not look at
the selection, and every other one begins by asking what it stands for. -/
theorem run_edit_eq (h : w.document.Alike a b) (op : Operation) (mode : Nat) :
    (op.edit a mode).run w = (op.edit b mode).run w := by
  cases op with
  | removeUnused => exact run_bind_congr (run_selectedGeometry_eq h) _
  | removeDuplicates => exact run_bind_congr (run_selectedGeometry_eq h) _
  | updateCenter => exact run_bind_congr (run_selectedGeometry_eq h) _
  | updateBounds => exact run_bind_congr (run_selected_eq (by decide) h) _
  | updateAllBounds => rfl
  | flipUv => exact run_flipUv_eq h mode
  | flipFaces => exact run_bind_congr (run_selectedGeometry_eq h) _
  | pruneTriangles => exact run_bind_congr (run_selectedGeometry_eq h) _
  | copyVertexData => exact run_bind_congr (run_selected_eq (List.Subset.refl _) h) _
  | pasteVertexData => exact run_bind_congr (run_selected_eq (List.Subset.refl _) h) _

/-- **So does the operation**, with the same answer or the same error. -/
theorem run_perform_eq (h : w.document.Alike a b) (op : Operation) (mode : Nat) :
    (op.perform a mode).run w = (op.perform b mode).run w := by
  rw [Operation.run_perform, Operation.run_perform, h.applies_eq op, h.run_edit_eq op mode]

end Document.Alike

/-! ## A shape and its geometry -/

/-- A shape links to a geometry, and no other shape does. -/
structure Document.LinkedOnlyBy (d : Document) (data shape : BlockId) : Prop where
  geometry : ∃ g, d.geometry data = .ok g
  linked : ∃ s, d.shape shape = .ok s ∧ s.data = some data
  only : ∀ other s, d.shape other = .ok s → s.data = some data → other = shape

namespace Document.LinkedOnlyBy

variable {d : Document} {data shape : BlockId}

/-- From the geometry the search finds the shape. What it comes to before has no such link. -/
theorem ownerOf?_eq (h : d.LinkedOnlyBy data shape) : d.ownerOf? data = some shape := by
  obtain ⟨s, hShape, hLink⟩ := h.linked
  have hGet := (shape_eq_ok_iff s).1 hShape
  have hFound : shape ∈ d.ids := mem_ids_of_contains (contains_of_get? hGet)
  cases hOwner : d.ownerOf? data with
  | none =>
      have hMissed := List.find?_eq_none.1 hOwner shape hFound
      simp [hGet, Block.asShape?, hLink] at hMissed
  | some other =>
      have hLinks := List.find?_some hOwner
      obtain ⟨s', hOther, hData⟩ := (Option.any_eq_true _ _).1 hLinks
      have hOtherShape : d.shape other = .ok s' := (typed_eq_ok_iff _ _ _).2 hOther
      rw [h.only other s' hOtherShape (of_decide_eq_true hData)]

/-- From the shape the link leads to the geometry. -/
theorem shapeData?_eq_some (h : d.LinkedOnlyBy data shape) : d.shapeData? shape = some data := by
  obtain ⟨s, hShape, hLink⟩ := h.linked
  obtain ⟨g, hGeometry⟩ := h.geometry
  rw [shapeData?, hShape]
  exact follow?_eq_some_iff.2
    ⟨hLink, kind?_eq_some_iff.2 ⟨_, (geometry_eq_ok_iff g).1 hGeometry, rfl⟩⟩

private theorem selected?_eq_none {kind : BlockKind} {kinds : List BlockKind} {id : BlockId}
    (hKind : d.kind? id = some kind) (hOther : kind ∉ kinds) :
    d.selected? (some id) kinds = none := by
  simp [selected?, Option.filter_some, hKind, hOther]

/-- The shape and its geometry are alike. -/
theorem alike (h : d.LinkedOnlyBy data shape) : d.Alike (some shape) (some data) := by
  obtain ⟨s, hShape, -⟩ := h.linked
  obtain ⟨g, hGeometry⟩ := h.geometry
  have hShapeKind : d.kind? shape = some .shape :=
    kind?_eq_some_iff.2 ⟨_, (shape_eq_ok_iff s).1 hShape, rfl⟩
  have hDataKind : d.kind? data = some .geometry :=
    kind?_eq_some_iff.2 ⟨_, (geometry_eq_ok_iff g).1 hGeometry, rfl⟩
  refine { whole := rfl, data := ?_, packed := fun kinds hKinds => ?_ }
  · simp only [selectedData?, Option.bind_some, hShapeKind, hDataKind, h.ownerOf?_eq,
      h.shapeData?_eq_some, Option.map_some]
  · rw [selected?_eq_none hShapeKind fun hMem => absurd (hKinds hMem) (by decide),
      selected?_eq_none hDataKind fun hMem => absurd (hKinds hMem) (by decide)]

end Document.LinkedOnlyBy

/-- **It does not matter whether a shape or its geometry is selected**, if no other shape links to
that geometry: every operation is for both or for none, and is carried out for both alike, with the
same answer or error, and leaves the same document and the same clipboard. -/
theorem selecting_geometry_as_shape {data shape : BlockId}
    (h : w.document.LinkedOnlyBy data shape) (op : Operation) :
    op.applies w.document (some shape) = op.applies w.document (some data) ∧
      ∀ mode, (op.perform (some shape) mode).run w = (op.perform (some data) mode).run w :=
  ⟨h.alike.applies_eq op, h.alike.run_perform_eq op⟩

/-- A skinned triangle with a vertex too many. Before its shape come an empty slot, a shape whose
link leads nowhere, and one that links to the skin instance as if it were a geometry. -/
def threeShapes : Workspace where
  document := { slots := #[
    none,
    some (.shape { data := some ⟨9⟩ }),
    some (.shape { data := some ⟨5⟩ }),
    some (.shape { data := some ⟨4⟩, skinInstance := some ⟨5⟩ }),
    some (.geometry {
      numVertices := 4
      vertices := #[⟨0, 0, 0⟩, ⟨1, 0, 0⟩, ⟨0, 1, 0⟩, ⟨9, 9, 9⟩]
      triangles := [⟨.ofPosition 0, .ofPosition 1, .ofPosition 2⟩] }),
    some (.skinInstance { data := some ⟨6⟩ }),
    some (.skinData { bones := [⟨1, [⟨.ofPosition 3, 1⟩]⟩], partition := some ⟨7⟩ }),
    some (.skinPartition {})] }

private theorem linkedOnlyBy_threeShapes : threeShapes.document.LinkedOnlyBy ⟨4⟩ ⟨3⟩ where
  geometry := ⟨_, rfl⟩
  linked := ⟨_, rfl, rfl⟩
  only other s hShape hLink := by
    have hGet := (Document.shape_eq_ok_iff s).1 hShape
    have hListed := Document.mem_ids_of_contains (Document.contains_of_get? hGet)
    have hIds : threeShapes.document.ids = [⟨1⟩, ⟨2⟩, ⟨3⟩, ⟨4⟩, ⟨5⟩, ⟨6⟩, ⟨7⟩] := by decide
    simp only [hIds, List.mem_cons, List.not_mem_nil, or_false] at hListed
    rcases hListed with rfl | rfl | rfl | rfl | rfl | rfl | rfl <;> cases hGet
    · exact absurd hLink (by decide)
    · exact absurd hLink (by decide)
    · rfl

/-- The weights and the partition of the shape are found from the geometry as well. -/
theorem selecting_geometry_as_shape_threeShapes :
    threeShapes.document.LinkedOnlyBy ⟨4⟩ ⟨3⟩ ∧ ∃ w',
      (Operation.removeUnused.perform (some ⟨3⟩) 0).run threeShapes =
        (.ok ⟨[.removedVertices 1 3, .prunedWeights 1, .partitionRemoved ⟨7⟩]⟩, w') ∧
      (Operation.removeUnused.perform (some ⟨4⟩) 0).run threeShapes =
        (.ok ⟨[.removedVertices 1 3, .prunedWeights 1, .partitionRemoved ⟨7⟩]⟩, w') := by
  have hRun : (Operation.removeUnused.perform (some ⟨3⟩) 0).run threeShapes =
      (.ok ⟨[.removedVertices 1 3, .prunedWeights 1, .partitionRemoved ⟨7⟩]⟩,
        ((Operation.removeUnused.perform (some ⟨3⟩) 0).run threeShapes).2) :=
    Prod.ext (by decide +kernel) rfl
  have hSame := (selecting_geometry_as_shape linkedOnlyBy_threeShapes .removeUnused).2 0
  exact ⟨linkedOnlyBy_threeShapes, _, hRun, hSame ▸ hRun⟩

end IndexedMesh
