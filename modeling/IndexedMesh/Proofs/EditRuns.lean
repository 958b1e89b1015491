import IndexedMesh.Edit.Operation
import IndexedMesh.Proofs.Removal
import IndexedMesh.Proofs.Transplant

/-!
# What each edit does

An edit that does not remove vertices looks at one block, decides, and writes that block back. What
it decides depends on the block and the clipboard alone, so its run comes down to one case
distinction: it fails and leaves the workspace as it was, or it puts a new block in the place of the
old one and tells of it. Here is this distinction for each edit, once its target is known.

Blocks that store their vertices one by one are treated alike, whatever else they hold.

## Main results

* `Block.packed?`, `Block.withPacked` — the vertices of a block that stores them one by one.
* `Error.IsPlain` — the reasons that lie in what an edit is given to work on.
* `Edit.run_flipFaces`, `Edit.run_updateCenter`, `Edit.run_pasteVertexData` and so on — what each
  edit does.
* `Edit.Settles` — how an edit of one block ends, and `Edit.settles_flipFaces`,
  `Edit.settles_updateCenter`, `Edit.settles_pasteVertexData` and so on: that each of them does.
-/

namespace IndexedMesh

/-- The workspace with another block in the place of one that is there. -/
def Workspace.put (w : Workspace) (id : BlockId) (block : Block) : Workspace :=
  { w with document := w.document.replace id block }

/-! ## Blocks that store their vertices one by one -/

/-- Whether the vertices of such a block have normals that mean anything, and the vertices. -/
def Block.packed? : Block → Option (Bool × Array PackedVertex)
  | .skinPartition p => some (p.hasNormals, p.vertexData)
  | .packedShape s => some (s.hasNormals, s.vertexData)
  | _ => none

/-- Such a block with other vertices. -/
def Block.withPacked (b : Block) (vertices : Array PackedVertex) : Block :=
  match b with
  | .skinPartition p => .skinPartition { p with vertexData := vertices }
  | .packedShape s => .packedShape { s with vertexData := vertices }
  | other => other

theorem Block.exists_packed {b : Block} (h : b.kind ∈ packedKinds) :
    ∃ hasNormals vertices, b.packed? = some (hasNormals, vertices) := by
  cases b <;> simp [Block.kind, packedKinds] at h
  all_goals exact ⟨_, _, rfl⟩

theorem Block.kind_of_packed {b : Block} {hasNormals : Bool} {vertices : Array PackedVertex}
    (h : b.packed? = some (hasNormals, vertices)) : b.kind ∈ packedKinds := by
  cases b <;> cases h <;> simp [Block.kind, packedKinds]

@[simp] theorem Block.withPacked_self {b : Block} {hasNormals : Bool}
    {vertices : Array PackedVertex} (h : b.packed? = some (hasNormals, vertices)) :
    b.withPacked vertices = b := by
  cases b <;> cases h <;> rfl

namespace Document

variable {d : Document} {id : BlockId} {b : Block} {hasNormals : Bool}
  {vertices : Array PackedVertex}

theorem packedVertices_eq (hGet : d.get? id = some b)
    (hPacked : b.packed? = some (hasNormals, vertices)) : d.packedVertices id = .ok vertices := by
  cases b <;> cases hPacked
  · exact packedVertices_partition_eq_ok hGet
  · exact packedVertices_eq_ok hGet

theorem packedNormals_eq (hGet : d.get? id = some b)
    (hPacked : b.packed? = some (hasNormals, vertices)) : d.packedNormals id = .ok hasNormals := by
  cases b <;> cases hPacked
  · exact packedNormals_partition_eq_ok hGet
  · exact packedNormals_eq_ok hGet

theorem setPackedVertices_eq (hGet : d.get? id = some b)
    (hPacked : b.packed? = some (hasNormals, vertices)) (others : Array PackedVertex) :
    d.setPackedVertices id others = .ok (d.replace id (b.withPacked others)) := by
  cases b <;> cases hPacked
  · exact setPackedVertices_partition_eq_ok hGet others
  · exact setPackedVertices_eq_ok hGet others

/-- A selected block is of one of the kinds. -/
theorem get?_of_selected? {selection : Selection} {kinds : List BlockKind}
    (h : d.selected? selection kinds = some id) :
    selection = some id ∧ ∃ b, d.get? id = some b ∧ b.kind ∈ kinds := by
  rw [selected?, Option.filter_eq_some_iff, Option.any_eq_true] at h
  obtain ⟨hSelection, kind, hKind, hMem⟩ := h
  obtain ⟨b, hGet, rfl⟩ := kind?_eq_some_iff.1 hKind
  exact ⟨hSelection, b, hGet, by simpa using hMem⟩

/-- A block of one of the kinds can be selected. -/
theorem selected?_of_get? {kinds : List BlockKind} (hGet : d.get? id = some b)
    (hKind : b.kind ∈ kinds) : d.selected? (some id) kinds = some id := by
  have hHas : d.kind? id = some b.kind := kind?_eq_some_iff.2 ⟨b, hGet, rfl⟩
  simp [selected?, hHas, hKind]

/-- A selected packed shape is one. -/
theorem get?_of_selected?_packedShape {selection : Selection}
    (h : d.selected? selection [.packedShape] = some id) :
    selection = some id ∧ ∃ s, d.get? id = some (.packedShape s) := by
  obtain ⟨hSelection, b, hGet, hKind⟩ := get?_of_selected? h
  cases b <;> simp only [Block.kind, List.mem_singleton, reduceCtorEq] at hKind
  exact ⟨hSelection, _, hGet⟩

end Document

/-- The records that are on a clipboard. -/
def Clipboard.records (c : Clipboard) : Except Error (List VertexRecord) := do
  match ← c.read with
  | none => throw .emptyClipboard
  | some text => (VertexRecord.readAll text).mapError .records

/-! ## How an edit ends -/

/-- A reason to fail that lies in what an edit is given to work on. An access past the end of an
array is none, and neither is a read or a write that the document refuses. -/
def Error.IsPlain : Error → Bool
  | .outOfBounds | .document _ => false
  | _ => true

theorem VertexArrays.isPlain_of_check {arrays : VertexArrays} {e : Error}
    (h : arrays.check = .error e) : e.IsPlain = true := by
  unfold check at h
  split at h <;> cases h
  rfl

theorem GeometryData.isPlain_of_check {g : GeometryData} {e : Error} (h : g.check = .error e) :
    e.IsPlain = true := by
  unfold check at h
  split at h
  · cases h
    rfl
  · split at h
    · cases h
      rfl
    · exact VertexArrays.isPlain_of_check h

theorem Clipboard.isPlain_of_publish {c : Clipboard} {text : String} {e : Error}
    (h : c.publish text = .error e) : e.IsPlain = true := by
  unfold publish at h
  split at h <;> cases h
  rfl

theorem Clipboard.isPlain_of_records {c : Clipboard} {e : Error} (h : c.records = .error e) :
    e.IsPlain = true := by
  unfold records at h
  cases hRead : c.read with
  | error e' =>
      rw [hRead] at h
      cases h
      unfold read at hRead
      split at hRead <;> cases hRead
      rfl
  | ok found =>
      rw [hRead] at h
      cases found with
      | none =>
          cases h
          rfl
      | some text =>
          dsimp only [bind, Except.bind] at h
          cases hText : VertexRecord.readAll text with
          | error fault =>
              rw [hText] at h
              cases h
              rfl
          | ok records =>
              rw [hText] at h
              cases h

theorem isPlain_of_transplant {target : Array PackedVertex} {records : Array VertexRecord}
    {copyNormals : Bool} {e : Error} (h : transplant target records copyNormals = .error e) :
    e.IsPlain = true := by
  rw [transplant_eq] at h
  split at h <;> cases h
  rfl

namespace Edit

/-- **How an edit of one block ends**: it fails for a plain reason and leaves everything as it was,
it succeeds and leaves everything as it was, or it writes one block. `Writes` says which block that
may be, and what may become of it. -/
inductive Settles (w : Workspace) (Writes : BlockId → Block → Block → Prop) :
    Except Error (List Notice) × Workspace → Prop
  | failed {e : Error} (h : e.IsPlain = true) : Settles w Writes (.error e, w)
  | unchanged (notices : List Notice) : Settles w Writes (.ok notices, w)
  | put {id : BlockId} {old new : Block} (hGet : w.document.get? id = some old)
      (hWrites : Writes id old new) (notices : List Notice) :
      Settles w Writes (.ok notices, w.put id new)

variable {w : Workspace} {selection : Selection} {shape : Option BlockId} {data id : BlockId}
  {g : GeometryData} {s : PackedShape} {b : Block} {hasNormals : Bool}
  {vertices : Array PackedVertex} {mode : Nat} {Writes : BlockId → Block → Block → Prop}

/-! ## Steps of several edits -/

theorem run_selectedGeometry {answer : Option BlockId × BlockId}
    (h : w.document.selectedData? selection = some answer) :
    (selectedGeometry selection).run w = (.ok answer, w) :=
  run_orEmpty_view_eq_ok_iff.2 ⟨h, rfl⟩

theorem run_selected {kinds : List BlockKind} (h : w.document.selected? selection kinds = some id) :
    (selected selection kinds).run w = (.ok id, w) :=
  run_orEmpty_view_eq_ok_iff.2 ⟨h, rfl⟩

/-- Without a selected geometry nothing follows. -/
theorem run_selectedGeometry_bind_of_none {α : Type} (h : w.document.selectedData? selection = none)
    (next : Option BlockId × BlockId → Edit α) :
    (selectedGeometry selection >>= next).run w = (.error .emptyInput, w) := by
  refine run_bind_of_error ?_ next
  rw [selectedGeometry, run_bind_of_ok (run_view _ _), h]
  rfl

/-- Without a selected block nothing follows. -/
theorem run_selected_bind_of_none {α : Type} {kinds : List BlockKind}
    (h : w.document.selected? selection kinds = none) (next : BlockId → Edit α) :
    (selected selection kinds >>= next).run w = (.error .emptyInput, w) := by
  refine run_bind_of_error ?_ next
  rw [selected, run_bind_of_ok (run_view _ _), h]
  rfl

private theorem run_write_pure {α : Type} {change : Document → Except DocumentError Document}
    {block : Block} (h : change w.document = .ok (w.document.replace id block)) (a : α) :
    (Edit.write change >>= fun _ => pure a).run w = (.ok a, w.put id block) := by
  rw [run_bind_of_ok (run_write_of_ok h)]
  rfl

private theorem run_unless {α : Type} {c : Prop} [Decidable c] {e : Error} {f : Unit → Edit α} :
    (if c then throw e >>= f else f ()).run w = if c then (.error e, w) else (f ()).run w := by
  by_cases hc : c
  · rw [if_pos hc, if_pos hc, run_bind_of_error (run_throw e w)]
  · rw [if_neg hc, if_neg hc]

/-! ## Faces -/

private theorem run_someTriangles (hGet : w.document.get? data = some (.geometry g)) :
    (someTriangles data).run w =
      if g.triangles.isEmpty = true then (.error .emptyInput, w) else (.ok g.triangles, w) := by
  rw [someTriangles, run_bind_of_ok (run_read_of_ok (Document.triangles_eq_ok hGet))]
  exact run_unless

theorem run_flipFaces (hSelected : w.document.selectedData? selection = some (shape, data))
    (hGet : w.document.get? data = some (.geometry g)) :
    (Edit.flipFaces selection).run w =
      if g.triangles.isEmpty = true then (.error .emptyInput, w)
      else (.ok [.flippedFaces g.triangles.length],
        w.put data (.geometry { g with triangles := g.triangles.map Triangle.flip })) := by
  have hTriangles := run_someTriangles hGet
  rw [Edit.flipFaces, run_bind_of_ok (run_selectedGeometry hSelected)]
  by_cases hEmpty : g.triangles.isEmpty = true
  · rw [if_pos hEmpty] at hTriangles ⊢
    exact run_bind_of_error hTriangles _
  · rw [if_neg hEmpty] at hTriangles ⊢
    rw [run_bind_of_ok hTriangles]
    exact run_write_pure (Document.setTriangles_eq_ok hGet _) _

theorem settles_flipFaces (hWrites : ∀ {shape data g},
      w.document.selectedData? selection = some (shape, data) →
        Writes data (.geometry g)
          (.geometry { g with triangles := g.triangles.map Triangle.flip })) :
    Settles w Writes ((Edit.flipFaces selection).run w) := by
  cases hSelected : w.document.selectedData? selection with
  | none =>
      rw [Edit.flipFaces, run_selectedGeometry_bind_of_none hSelected]
      exact .failed rfl
  | some answer =>
      obtain ⟨g, hGet⟩ := Document.get?_of_selectedData? hSelected
      rw [run_flipFaces hSelected hGet]
      split
      · exact .failed rfl
      · exact .put hGet (hWrites hSelected) _

theorem run_pruneTriangles (hSelected : w.document.selectedData? selection = some (shape, data))
    (hGet : w.document.get? data = some (.geometry g)) :
    (Edit.pruneTriangles selection).run w =
      if g.triangles.isEmpty = true then (.error .emptyInput, w)
      else if (prune g.triangles).degenerate + (prune g.triangles).duplicate = 0 then
        (.ok [.nothingToDo], w)
      else
        (.ok [.removedTriangles (prune g.triangles).degenerate (prune g.triangles).duplicate],
          w.put data (.geometry { g with triangles := (prune g.triangles).kept })) := by
  have hTriangles := run_someTriangles hGet
  rw [Edit.pruneTriangles, run_bind_of_ok (run_selectedGeometry hSelected)]
  by_cases hEmpty : g.triangles.isEmpty = true
  · rw [if_pos hEmpty] at hTriangles ⊢
    exact run_bind_of_error hTriangles _
  · rw [if_neg hEmpty] at hTriangles ⊢
    rw [run_bind_of_ok hTriangles]
    dsimp only
    by_cases hNone : (prune g.triangles).degenerate + (prune g.triangles).duplicate = 0
    · rw [if_pos hNone, if_pos hNone]
      rfl
    · rw [if_neg hNone, if_neg hNone]
      exact run_write_pure (Document.setTriangles_eq_ok hGet _) _

theorem settles_pruneTriangles (hWrites : ∀ {shape data g},
      w.document.selectedData? selection = some (shape, data) →
        Writes data (.geometry g) (.geometry { g with triangles := (prune g.triangles).kept })) :
    Settles w Writes ((Edit.pruneTriangles selection).run w) := by
  cases hSelected : w.document.selectedData? selection with
  | none =>
      rw [Edit.pruneTriangles, run_selectedGeometry_bind_of_none hSelected]
      exact .failed rfl
  | some answer =>
      obtain ⟨g, hGet⟩ := Document.get?_of_selectedData? hSelected
      rw [run_pruneTriangles hSelected hGet]
      split
      · exact .failed rfl
      · split
        · exact .unchanged _
        · exact .put hGet (hWrites hSelected) _

/-! ## Bounds -/

private theorem run_putBounds {new : Sphere Float32 → Block}
    (hWrite : ∀ bounds, w.document.setBounds id bounds = .ok (w.document.replace id (new bounds)))
    (rule : CenterRule) (points : List Position) :
    (writeBounds id rule points).run w =
      match Sphere.ofPoints? rule points with
      | none => (.error .emptyInput, w)
      | some bounds => (.ok (.boundsUpdated id bounds), w.put id (new bounds)) := by
  unfold writeBounds
  cases Sphere.ofPoints? rule points with
  | none => rw [run_bind_of_error (run_orEmpty_none w)]
  | some bounds =>
      rw [run_bind_of_ok (run_orEmpty_some bounds w)]
      exact run_write_pure (hWrite bounds) _

/-- The rule for the center is found, whatever the mode. -/
theorem exists_run_centerRule (hGet : w.document.get? data = some (.geometry g)) (mode : Nat) :
    ∃ rule, (centerRule data mode).run w = (.ok rule, w) := by
  have hUses : ∃ box, w.document.usesBoxCenter data = .ok box := by
    rw [Document.usesBoxCenter, (Document.geometry_eq_ok_iff g).2 hGet]
    exact ⟨_, rfl⟩
  obtain ⟨box, hBox⟩ := hUses
  unfold centerRule
  split
  · exact ⟨_, run_bind_of_ok (run_read_of_ok hBox) _⟩
  · exact ⟨_, rfl⟩
  · exact ⟨_, rfl⟩

theorem run_updateCenter (hSelected : w.document.selectedData? selection = some (shape, data))
    (hGet : w.document.get? data = some (.geometry g)) {rule : CenterRule}
    (hRule : (centerRule data mode).run w = (.ok rule, w)) :
    (Edit.updateCenter selection mode).run w =
      match Sphere.ofPoints? rule g.vertices.toList with
      | none => (.error .emptyInput, w)
      | some bounds => (.ok [.boundsUpdated data bounds],
          w.put data (.geometry { g with center := bounds.center, radius := bounds.radius })) := by
  have hWrite : ∀ bounds, w.document.setBounds data bounds = .ok (w.document.replace data
      (.geometry { g with center := bounds.center, radius := bounds.radius })) :=
    fun bounds => Document.update_eq_ok hGet rfl
  have hBounds := run_putBounds hWrite rule g.vertices.toList
  have hPoints : g.arrays.positions = g.vertices := rfl
  rw [Edit.updateCenter, run_bind_of_ok (run_selectedGeometry hSelected), run_bind_of_ok hRule,
    run_bind_of_ok (run_read_of_ok (Document.vertexArrays_eq_ok hGet)), run_bind, hPoints, hBounds]
  cases Sphere.ofPoints? rule g.vertices.toList <;> rfl

theorem settles_updateCenter (hWrites : ∀ {shape data g rule bounds},
      w.document.selectedData? selection = some (shape, data) →
        Sphere.ofPoints? rule g.vertices.toList = some bounds →
          Writes data (.geometry g)
            (.geometry { g with center := bounds.center, radius := bounds.radius })) :
    Settles w Writes ((Edit.updateCenter selection mode).run w) := by
  cases hSelected : w.document.selectedData? selection with
  | none =>
      rw [Edit.updateCenter, run_selectedGeometry_bind_of_none hSelected]
      exact .failed rfl
  | some answer =>
      obtain ⟨g, hGet⟩ := Document.get?_of_selectedData? hSelected
      obtain ⟨rule, hRule⟩ := exists_run_centerRule hGet mode
      rw [run_updateCenter hSelected hGet hRule]
      split
      · exact .failed rfl
      · next hBounds => exact .put hGet (hWrites hSelected hBounds) _

theorem run_updatePacked (hGet : w.document.get? id = some (.packedShape s)) :
    (updatePacked id).run w =
      match Sphere.ofPoints? .centroid (s.vertexData.toList.map (·.vertex)) with
      | none => (.error .emptyInput, w)
      | some bounds => (.ok (.boundsUpdated id bounds),
          w.put id (.packedShape { s with center := bounds.center, radius := bounds.radius })) := by
  rw [updatePacked, run_bind_of_ok (run_read_of_ok (Document.packedVertices_eq_ok hGet))]
  exact run_putBounds (fun bounds => Document.update_eq_ok hGet rfl) _ _

theorem run_updateBounds (hSelected : w.document.selected? selection [.packedShape] = some id)
    (hGet : w.document.get? id = some (.packedShape s)) :
    (Edit.updateBounds selection).run w =
      match Sphere.ofPoints? .centroid (s.vertexData.toList.map (·.vertex)) with
      | none => (.error .emptyInput, w)
      | some bounds => (.ok [.boundsUpdated id bounds],
          w.put id (.packedShape { s with center := bounds.center, radius := bounds.radius })) := by
  rw [Edit.updateBounds, run_bind_of_ok (run_selected hSelected), run_bind, run_updatePacked hGet]
  cases Sphere.ofPoints? .centroid (s.vertexData.toList.map (·.vertex)) <;> rfl

theorem settles_updateBounds (hWrites : ∀ {id s bounds},
      w.document.selected? selection [.packedShape] = some id →
        Sphere.ofPoints? .centroid (s.vertexData.toList.map (·.vertex)) = some bounds →
          Writes id (.packedShape s)
            (.packedShape { s with center := bounds.center, radius := bounds.radius })) :
    Settles w Writes ((Edit.updateBounds selection).run w) := by
  cases hSelected : w.document.selected? selection [.packedShape] with
  | none =>
      rw [Edit.updateBounds, run_selected_bind_of_none hSelected]
      exact .failed rfl
  | some id =>
      obtain ⟨-, s, hGet⟩ := Document.get?_of_selected?_packedShape hSelected
      rw [run_updateBounds hSelected hGet]
      split
      · exact .failed rfl
      · next hBounds => exact .put hGet (hWrites hSelected hBounds) _

/-! ## Texture coordinates -/

theorem run_flipUv_geometry (hSelected : w.document.selectedData? selection = some (shape, data))
    (hGet : w.document.get? data = some (.geometry g)) :
    (Edit.flipUv selection mode).run w =
      match g.check with
      | .error e => (.error e, w)
      | .ok _ =>
        if g.uvSets.all (·.isEmpty) = true then (.error .emptyInput, w)
        else (.ok [.flippedUvs g.vertices.size], w.put data (.geometry
          { g with uvSets := g.uvSets.map (·.map (UvFlip.ofMode mode).apply) })) := by
  have hFlip : (flipGeometryUv data (UvFlip.ofMode mode)).run w =
      match g.check with
      | .error e => (.error e, w)
      | .ok _ =>
        if g.uvSets.all (·.isEmpty) = true then (.error .emptyInput, w)
        else (.ok g.vertices.size, w.put data (.geometry
          { g with uvSets := g.uvSets.map (·.map (UvFlip.ofMode mode).apply) })) := by
    have hChecked := run_checkedArrays hGet
    cases hCheck : g.check with
    | error e =>
        rw [hCheck] at hChecked
        exact run_bind_of_error hChecked _
    | ok u =>
        rw [hCheck] at hChecked
        rw [flipGeometryUv, run_bind_of_ok hChecked]
        refine run_unless.trans ?_
        exact congrArg _ (run_write_pure (Document.setTexcoords_eq_ok hGet _) _)
  rw [Edit.flipUv, run_bind_of_ok (run_view _ _), hSelected, run_bind, hFlip]
  cases g.check with
  | error e => rfl
  | ok u => by_cases hEmpty : g.uvSets.all (·.isEmpty) = true <;> simp only [hEmpty] <;> rfl

theorem run_flipUv_none (hNone : w.document.selectedData? selection = none)
    (hSelected : w.document.selected? selection [.packedShape] = none) :
    (Edit.flipUv selection mode).run w = (.error .emptyInput, w) := by
  rw [Edit.flipUv, run_bind_of_ok (run_view _ _), hNone]
  dsimp only
  rw [run_selected_bind_of_none hSelected]

theorem run_flipUv_packed (hNone : w.document.selectedData? selection = none)
    (hSelected : w.document.selected? selection [.packedShape] = some id)
    (hGet : w.document.get? id = some (.packedShape s)) :
    (Edit.flipUv selection mode).run w =
      if s.vertexData.isEmpty = true then (.error .emptyInput, w)
      else (.ok [.flippedUvs s.vertexData.size], w.put id (.packedShape { s with
        vertexData := s.vertexData.map fun v =>
          { v with uv := (UvFlip.ofMode mode).apply v.uv } })) := by
  have hFlip : (flipPackedUv id (UvFlip.ofMode mode)).run w =
      if s.vertexData.isEmpty = true then (.error .emptyInput, w)
      else (.ok s.vertexData.size, w.put id (.packedShape { s with
        vertexData := s.vertexData.map fun v =>
          { v with uv := (UvFlip.ofMode mode).apply v.uv } })) := by
    rw [flipPackedUv, run_bind_of_ok (run_read_of_ok (Document.packedVertices_eq_ok hGet))]
    refine run_unless.trans ?_
    exact congrArg _ (run_write_pure (Document.setPackedVertices_eq_ok hGet _) _)
  rw [Edit.flipUv, run_bind_of_ok (run_view _ _), hNone]
  dsimp only
  rw [run_bind_of_ok (run_selected hSelected), run_bind, hFlip]
  by_cases hEmpty : s.vertexData.isEmpty = true <;> simp only [hEmpty] <;> rfl

theorem settles_flipUv
    (hGeometry : ∀ {shape data g}, w.document.selectedData? selection = some (shape, data) →
      Writes data (.geometry g) (.geometry
        { g with uvSets := g.uvSets.map (·.map (UvFlip.ofMode mode).apply) }))
    (hPacked : ∀ {id s}, w.document.selected? selection [.packedShape] = some id →
      Writes id (.packedShape s) (.packedShape { s with
        vertexData := s.vertexData.map fun v =>
          { v with uv := (UvFlip.ofMode mode).apply v.uv } })) :
    Settles w Writes ((Edit.flipUv selection mode).run w) := by
  cases hData : w.document.selectedData? selection with
  | some answer =>
      obtain ⟨g, hGet⟩ := Document.get?_of_selectedData? hData
      rw [run_flipUv_geometry hData hGet]
      split
      · next hCheck => exact .failed (GeometryData.isPlain_of_check hCheck)
      · split
        · exact .failed rfl
        · exact .put hGet (hGeometry hData) _
  | none =>
      cases hSelected : w.document.selected? selection [.packedShape] with
      | none =>
          rw [run_flipUv_none hData hSelected]
          exact .failed rfl
      | some id =>
          obtain ⟨-, s, hGet⟩ := Document.get?_of_selected?_packedShape hSelected
          rw [run_flipUv_packed hData hSelected hGet]
          split
          · exact .failed rfl
          · exact .put hGet (hPacked hSelected) _

/-! ## Moving vertex data -/

theorem run_copyVertexData (hSelected : w.document.selected? selection packedKinds = some id)
    (hGet : w.document.get? id = some b) (hPacked : b.packed? = some (hasNormals, vertices)) :
    (Edit.copyVertexData selection).run w =
      if vertices.isEmpty = true then (.error .emptyInput, w)
      else match w.clipboard.publish
          (VertexRecord.writeAll (vertices.toList.map (VertexRecord.ofPacked · hasNormals))) with
        | .error e => (.error e, w)
        | .ok clipboard => (.ok [.copiedVertices vertices.size], { w with clipboard }) := by
  rw [Edit.copyVertexData, run_bind_of_ok (run_selected hSelected),
    run_bind_of_ok (run_read_of_ok (Document.packedVertices_eq hGet hPacked))]
  refine run_unless.trans (congrArg _ ?_)
  have hState : (get : Edit Workspace).run w = (.ok w, w) := rfl
  rw [run_bind_of_ok (run_read_of_ok (Document.packedNormals_eq hGet hPacked)),
    run_bind_of_ok hState]
  cases w.clipboard.publish
      (VertexRecord.writeAll (vertices.toList.map (VertexRecord.ofPacked · hasNormals))) with
  | error e => rw [run_bind_of_error (run_attempt_error e w)]
  | ok clipboard =>
      rw [run_bind_of_ok (run_attempt_ok clipboard w), List.length_map, Array.length_toList]
      rfl

/-- Copying fails for a plain reason, or changes the clipboard alone. -/
theorem copyVertexData_cases (selection : Selection) (w : Workspace) :
    (∃ e, (Edit.copyVertexData selection).run w = (.error e, w) ∧ e.IsPlain = true) ∨
      ∃ notices clipboard,
        (Edit.copyVertexData selection).run w = (.ok notices, { w with clipboard }) := by
  cases hSelected : w.document.selected? selection packedKinds with
  | none =>
      rw [Edit.copyVertexData, run_selected_bind_of_none hSelected]
      exact .inl ⟨_, rfl, rfl⟩
  | some id =>
      obtain ⟨-, b, hGet, hKind⟩ := Document.get?_of_selected? hSelected
      obtain ⟨hasNormals, vertices, hPacked⟩ := Block.exists_packed hKind
      rw [run_copyVertexData hSelected hGet hPacked]
      split
      · exact .inl ⟨_, rfl, rfl⟩
      · split
        · next hPublish => exact .inl ⟨_, rfl, Clipboard.isPlain_of_publish hPublish⟩
        · exact .inr ⟨_, _, rfl⟩

theorem run_clipboardRecords_eq (w : Workspace) :
    clipboardRecords.run w = (w.clipboard.records, w) := by
  have hState : (get : Edit Workspace).run w = (.ok w, w) := rfl
  rw [clipboardRecords, run_bind_of_ok hState, Clipboard.records]
  cases w.clipboard.read with
  | error e => rw [run_bind_of_error (run_attempt_error e w)]; rfl
  | ok found =>
      rw [run_bind_of_ok (run_attempt_ok found w)]
      cases found with
      | none => rfl
      | some text =>
          dsimp only [bind, Except.bind]
          cases VertexRecord.readAll text <;> rfl

theorem run_pasteVertexData (hSelected : w.document.selected? selection packedKinds = some id)
    (hGet : w.document.get? id = some b) (hPacked : b.packed? = some (hasNormals, vertices)) :
    (Edit.pasteVertexData selection).run w =
      match w.clipboard.records with
      | .error e => (.error e, w)
      | .ok records =>
        if vertices.isEmpty = true then (.error .emptyInput, w)
        else match transplant vertices records.toArray
            (hasNormals && records.all (·.normal.isSome)) with
          | .error e => (.error e, w)
          | .ok (others, report) =>
            (.ok [.transplanted report], w.put id (b.withPacked others)) := by
  have hRecords := run_clipboardRecords_eq w
  rw [Edit.pasteVertexData, run_bind_of_ok (run_selected hSelected)]
  cases hClipboard : w.clipboard.records with
  | error e =>
      rw [hClipboard] at hRecords
      rw [run_bind_of_error hRecords]
  | ok records =>
      rw [hClipboard] at hRecords
      rw [run_bind_of_ok hRecords,
        run_bind_of_ok (run_read_of_ok (Document.packedVertices_eq hGet hPacked))]
      refine run_unless.trans (congrArg _ ?_)
      rw [run_bind_of_ok (run_read_of_ok (Document.packedNormals_eq hGet hPacked))]
      dsimp only
      cases transplant vertices records.toArray
          (hasNormals && records.all (·.normal.isSome)) with
      | error e => rw [run_bind_of_error (run_attempt_error e w)]
      | ok pasted =>
          rw [run_bind_of_ok (run_attempt_ok pasted w)]
          exact run_write_pure (Document.setPackedVertices_eq hGet hPacked _) _

theorem settles_pasteVertexData (hWrites : ∀ {id b hasNormals vertices records others report},
      w.document.selected? selection packedKinds = some id →
        b.packed? = some (hasNormals, vertices) → w.clipboard.records = .ok records →
          transplant vertices records.toArray (hasNormals && records.all (·.normal.isSome)) =
            .ok (others, report) →
              Writes id b (b.withPacked others)) :
    Settles w Writes ((Edit.pasteVertexData selection).run w) := by
  cases hSelected : w.document.selected? selection packedKinds with
  | none =>
      rw [Edit.pasteVertexData, run_selected_bind_of_none hSelected]
      exact .failed rfl
  | some id =>
      obtain ⟨-, b, hGet, hKind⟩ := Document.get?_of_selected? hSelected
      obtain ⟨hasNormals, vertices, hPacked⟩ := Block.exists_packed hKind
      rw [run_pasteVertexData hSelected hGet hPacked]
      split
      · next hRecords => exact .failed (Clipboard.isPlain_of_records hRecords)
      · next records hRecords =>
        split
        · exact .failed rfl
        · split
          · next hTransplant => exact .failed (isPlain_of_transplant hTransplant)
          · next hTransplant => exact .put hGet (hWrites hSelected hPacked hRecords hTransplant) _

end Edit

end IndexedMesh
