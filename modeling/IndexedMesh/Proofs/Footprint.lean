import IndexedMesh.Proofs.Effects

/-!
# What an operation may touch

Blocks are written as a whole, so a write of one field could lose the fields beside it. Here is, for
each operation, the block that it may write and the fields of that block that may come out
different. Everything else of the document is as it was: the other fields, the other blocks, the
header, and the number of slots. The clipboard is changed by copying alone, and copying does not
change the document.

All of this is said of the slots and not of the handles, so that it includes slots that are empty or
that no handle leads to.

## Main results

* `Operation.Touches` — what may become of which block.
* `Operation.Footprint` — that nothing else has happened.
* `Operation.footprint_perform` — **every operation stays within its footprint**, on every document,
  and whether it succeeds or not.
-/

namespace IndexedMesh

/-! ## Slots that are not written -/

namespace Document

variable {d : Document} {id : BlockId} {n : Nat}

theorem getElem?_replace_of_ne (h : n ≠ slot id) (b : Block) :
    (d.replace id b).slots[n]? = d.slots[n]? :=
  Array.getElem?_setIfInBounds_ne (Ne.symm h)

theorem getElem?_remove_of_ne (h : n ≠ slot id) : (d.remove id).slots[n]? = d.slots[n]? :=
  Array.getElem?_setIfInBounds_ne (Ne.symm h)

end Document

namespace Operation

/-! ## Footprints -/

/-- **What may become of a block of a document**, where nothing stands for a block that is deleted.
A block that is written has the fields that it had, but for those that are given new values here. -/
inductive Touches (d : Document) (selection : Selection) :
    Operation → BlockId → Block → Option Block → Prop
  /-- the selected geometry loses vertices -/
  | mesh (mergeDuplicates : Bool) {shape : Option BlockId} {data : BlockId}
      (hSelected : d.selectedData? selection = some (shape, data)) (g : GeometryData)
      (numVertices : UInt16) (vertices : Array Position) (normals : Array Normal)
      (vertexColors : Array Rgba) (uvSets : List (Array Texcoord))
      (triangles : List (Triangle .stored)) (strips : List (Strip .stored)) :
      Touches d selection (removal mergeDuplicates) data (.geometry g)
        (some (.geometry { g with
          numVertices, vertices, normals, vertexColors, uvSets, triangles, strips }))
  /-- the bones of the skin data that its shape reaches lose weights -/
  | bones (mergeDuplicates : Bool) {shape skin data : BlockId}
      (hSelected : d.selectedData? selection = some (some shape, data))
      (hSkin : d.skinDataOf? shape = some skin) (s : SkinData) (bones : List BoneData) :
      Touches d selection (removal mergeDuplicates) skin (.skinData s)
        (some (.skinData { s with bones }))
  /-- the partition of its shape is deleted -/
  | partition (mergeDuplicates : Bool) {shape partition data : BlockId}
      (hSelected : d.selectedData? selection = some (some shape, data))
      (hPartition : d.findPartition? shape = some partition) (p : SkinPartition) :
      Touches d selection (removal mergeDuplicates) partition (.skinPartition p) none
  /-- the selected geometry gets new bounds -/
  | center {shape : Option BlockId} {data : BlockId}
      (hSelected : d.selectedData? selection = some (shape, data)) (g : GeometryData)
      (center : Position) (radius : Float32) :
      Touches d selection updateCenter data (.geometry g)
        (some (.geometry { g with center, radius }))
  /-- the selected packed shape gets new bounds -/
  | bounds {id : BlockId} (hSelected : d.selected? selection [.packedShape] = some id)
      (s : PackedShape) (center : Position) (radius : Float32) :
      Touches d selection updateBounds id (.packedShape s)
        (some (.packedShape { s with center, radius }))
  /-- a packed shape that has vertices gets new bounds -/
  | allBounds (id : BlockId) (s : PackedShape) (hSome : s.vertexData ≠ #[]) (center : Position)
      (radius : Float32) :
      Touches d selection updateAllBounds id (.packedShape s)
        (some (.packedShape { s with center, radius }))
  /-- the selected geometry gets other texture coordinates, set by set as many as before -/
  | flipUv {shape : Option BlockId} {data : BlockId}
      (hSelected : d.selectedData? selection = some (shape, data)) (g : GeometryData)
      (uvSets : List (Array Texcoord)) (hSizes : uvSets.map Array.size = g.uvSets.map Array.size) :
      Touches d selection flipUv data (.geometry g) (some (.geometry { g with uvSets }))
  /-- the vertices of the selected packed shape get other texture coordinates -/
  | flipPackedUv {id : BlockId} (hSelected : d.selected? selection [.packedShape] = some id)
      (s : PackedShape) (vertexData : Array PackedVertex)
      (hVertices : vertexData.map (·.vertex) = s.vertexData.map (·.vertex))
      (hNormals : vertexData.map (·.normal) = s.vertexData.map (·.normal)) :
      Touches d selection flipUv id (.packedShape s) (some (.packedShape { s with vertexData }))
  /-- the selected geometry gets other triangles -/
  | triangles (op : Operation) (hOp : op = flipFaces ∨ op = pruneTriangles)
      {shape : Option BlockId} {data : BlockId}
      (hSelected : d.selectedData? selection = some (shape, data)) (g : GeometryData)
      (triangles : List (Triangle .stored)) :
      Touches d selection op data (.geometry g) (some (.geometry { g with triangles }))
  /-- the vertices of the selected block move, and turn if they have normals -/
  | paste {id : BlockId} (hSelected : d.selected? selection packedKinds = some id) (b : Block)
      {hasNormals : Bool} {old : Array PackedVertex}
      (hPacked : b.packed? = some (hasNormals, old)) (new : Array PackedVertex)
      (hUvs : new.map (·.uv) = old.map (·.uv))
      (hNormals : hasNormals = false → new.map (·.normal) = old.map (·.normal)) :
      Touches d selection pasteVertexData id b (some (b.withPacked new))

/-- **Nothing has happened but what the operation may do**: every slot holds what it did, or it held
a block that the operation may touch and holds what may become of it. -/
structure Footprint (op : Operation) (selection : Selection) (w w' : Workspace) : Prop where
  header : w'.document.header = w.document.header
  slotCount : w'.document.slots.size = w.document.slots.size
  slots : ∀ n, w'.document.slots[n]? = w.document.slots[n]? ∨
    ∃ id old new, n = Document.slot id ∧ w.document.get? id = some old ∧
      Touches w.document selection op id old new ∧ w'.document.get? id = new
  copies : op = copyVertexData → w'.document = w.document
  clipboard : op ≠ copyVertexData → w'.clipboard = w.clipboard

namespace Footprint

variable {op : Operation} {selection : Selection} {w w' : Workspace} {id : BlockId}
  {old new : Block}

theorem refl (op : Operation) (selection : Selection) (w : Workspace) :
    Footprint op selection w w :=
  { header := rfl
    slotCount := rfl
    slots := fun _ => .inl rfl
    copies := fun _ => rfl
    clipboard := fun _ => rfl }

/-- One block is written, by another operation than copying. -/
theorem of_put (hGet : w.document.get? id = some old)
    (hTouches : Touches w.document selection op id old (some new)) (hOp : op ≠ copyVertexData) :
    Footprint op selection w (w.put id new) :=
  { header := rfl
    slotCount := Document.size_slots_replace _ _ _
    slots := fun n => by
      by_cases hSlot : n = Document.slot id
      · refine .inr ⟨id, old, some new, hSlot, hGet, hTouches, ?_⟩
        rw [Workspace.put, Document.get?_replace (Document.contains_of_get? hGet), if_pos rfl]
      · exact .inl (Document.getElem?_replace_of_ne hSlot new)
    copies := fun h => absurd h hOp
    clipboard := fun _ => rfl }

end Footprint

end Operation

/-! ## Removing vertices -/

namespace RemovalSite

variable {site : RemovalSite} {d : Document} {out : Stripped .stored}

theorem header_apply (site : RemovalSite) (out : Stripped .stored) (d : Document) :
    (site.apply out d).header = d.header := by
  unfold apply rewritten
  cases site.partition <;> cases site.skin <;> rfl

theorem size_slots_apply (site : RemovalSite) (out : Stripped .stored) (d : Document) :
    (site.apply out d).slots.size = d.slots.size := by
  unfold apply rewritten
  cases site.partition <;> cases site.skin <;> simp [Document.without]

/-- Slots of other blocks are not written. -/
theorem getElem?_slots_apply {n : Nat} (hData : n ≠ Document.slot site.data)
    (hSkin : ∀ id s, site.skin = some (id, s) → n ≠ Document.slot id)
    (hPartition : ∀ id, site.partition = some id → n ≠ Document.slot id) :
    (site.apply out d).slots[n]? = d.slots[n]? := by
  have hRewritten : (site.rewritten out d).slots[n]? = d.slots[n]? := by
    unfold rewritten
    cases hSome : site.skin with
    | none => exact Document.getElem?_replace_of_ne hData _
    | some p =>
        obtain ⟨skin, s⟩ := p
        exact (Document.getElem?_replace_of_ne (hSkin skin s hSome) _).trans
          (Document.getElem?_replace_of_ne hData _)
  unfold apply
  cases hSome : site.partition with
  | none => exact hRewritten
  | some partition =>
      exact (Document.getElem?_remove_of_ne (hPartition partition hSome)).trans hRewritten

end RemovalSite

namespace Operation

variable {op : Operation} {selection : Selection} {w w' : Workspace} {mode : Nat}

/-- A removal that is carried out writes the geometry and the skin data, and deletes the
partition. -/
theorem Footprint.of_apply {site : RemovalSite} {mergeDuplicates : Bool} {out : Stripped .stored}
    (hSite : site.In w.document)
    (hSelected : w.document.selectedData? selection = some (site.shape, site.data)) :
    Footprint (removal mergeDuplicates) selection w
      { w with document := site.apply out w.document } := by
  refine
    { header := RemovalSite.header_apply site out _
      slotCount := RemovalSite.size_slots_apply site out _
      slots := fun n => ?_
      copies := fun h => ?_
      clipboard := fun _ => rfl }
  · by_cases hData : n = Document.slot site.data
    · let g := site.geometry.withMesh out.mesh
      refine .inr ⟨site.data, _, _, hData, hSite.geometry, ?_, RemovalSite.get?_apply_data hSite⟩
      exact .mesh mergeDuplicates hSelected site.geometry g.numVertices g.vertices g.normals
        g.vertexColors g.uvSets g.triangles g.strips
    by_cases hSkin : ∃ id s, site.skin = some (id, s) ∧ n = Document.slot id
    · obtain ⟨id, s, hSome, hSlot⟩ := hSkin
      obtain ⟨shape, hShape, hReach⟩ := Option.bind_eq_some_iff.1 (by
        rw [hSite.skin, hSome]
        rfl : site.shape.bind w.document.skinDataOf? = some id)
      refine .inr ⟨id, _, _, hSlot, hSite.skinData id s hSome, ?_,
        RemovalSite.get?_apply_skin hSite hSome⟩
      exact .bones mergeDuplicates (hShape ▸ hSelected) hReach s _
    by_cases hPartition : ∃ id, site.partition = some id ∧ n = Document.slot id
    · obtain ⟨id, hSome, hSlot⟩ := hPartition
      obtain ⟨shape, hShape, hFind⟩ := Option.bind_eq_some_iff.1 (hSite.partition.trans hSome)
      obtain ⟨p, hGet⟩ := hSite.get?_partition hSome
      refine .inr ⟨id, _, none, hSlot, hGet,
        .partition mergeDuplicates (hShape ▸ hSelected) hFind p, ?_⟩
      show (site.apply out w.document).get? id = none
      rw [RemovalSite.get?_apply, if_pos hSome]
    · exact .inl (RemovalSite.getElem?_slots_apply hData
        (fun id s hSome hSlot => hSkin ⟨id, s, hSome, hSlot⟩)
        (fun id hSome hSlot => hPartition ⟨id, hSome, hSlot⟩))
  · cases mergeDuplicates <;> cases h

theorem footprint_removal (mergeDuplicates : Bool) :
    Footprint (removal mergeDuplicates) selection w
      (((removal mergeDuplicates).edit selection mode).run w).2 := by
  cases hSelected : w.document.selectedData? selection with
  | none =>
      have hRun : ((removal mergeDuplicates).edit selection mode).run w =
          (.error .emptyInput, w) := by
        cases mergeDuplicates <;> exact Edit.run_selectedGeometry_bind_of_none hSelected _
      rw [hRun]
      exact .refl _ _ _
  | some answer =>
      obtain ⟨shape, data⟩ := answer
      obtain ⟨g, hGet⟩ := Document.get?_of_selectedData? hSelected
      obtain ⟨site, rfl, rfl, rfl, hSite⟩ := RemovalSite.exists_in shape hGet
      rw [run_edit_removal hSite hSelected]
      cases site.plan mergeDuplicates with
      | error e => exact .refl _ _ _
      | ok planned =>
          cases planned with
          | none => exact .refl _ _ _
          | some out => exact .of_apply hSite hSelected

/-! ## The other edits -/

/-- An edit that settles stays within the footprint, if what it writes may be touched. -/
theorem Footprint.of_settles {Writes : BlockId → Block → Block → Prop}
    {run : Except Error (List Notice) × Workspace} (hOp : op ≠ copyVertexData)
    (h : Edit.Settles w Writes run)
    (hWrites : ∀ {id old new}, Writes id old new →
      Touches w.document selection op id old (some new)) : Footprint op selection w run.2 := by
  cases h with
  | failed => exact .refl op selection w
  | unchanged => exact .refl op selection w
  | put hGet hNew => exact .of_put hGet (hWrites hNew) hOp

/-! ### Updating all bounds -/

/-- What the update of all bounds leaves of a slot: what it held, or a packed shape with vertices
and other bounds. An update of an updated shape is one of the shape that was there first. -/
private theorem slots_of_reaches {d d' : Document}
    (h : Relation.ReflTransGen updateAllBounds.Step d d') :
    d'.header = d.header ∧ d'.slots.size = d.slots.size ∧
      ∀ n, d'.slots[n]? = d.slots[n]? ∨
        ∃ id s center radius, n = Document.slot id ∧ d.get? id = some (.packedShape s) ∧
          s.vertexData ≠ #[] ∧ d'.get? id = some (.packedShape { s with center, radius }) := by
  induction h with
  | refl => exact ⟨rfl, rfl, fun _ => .inl rfl⟩
  | @tail d₁ d₂ _ hStep ih =>
      obtain ⟨hHeader, hCount, hSlots⟩ := ih
      obtain ⟨id, old, new, hGet, hRewrites, rfl⟩ := hStep
      refine ⟨hHeader, by rw [Document.size_slots_replace, hCount], fun n => ?_⟩
      cases hRewrites with
      | bounds _ _ s bounds hBounds =>
          have hSome : s.vertexData ≠ #[] := by
            intro hNone
            rw [hNone] at hBounds
            cases hBounds
          have hContains := Document.contains_of_get? hGet
          by_cases hSlot : n = Document.slot id
          · refine .inr ?_
            let new : Block :=
              .packedShape { s with center := bounds.center, radius := bounds.radius }
            have hNew : (d₁.replace id new).get? id = some new :=
              (Document.get?_replace hContains id).trans (if_pos rfl)
            rcases hSlots n with hSame | ⟨id', s', center, radius, hSlot', hFirst, hSome', hNow⟩
            · refine ⟨id, s, bounds.center, bounds.radius, hSlot, ?_, hSome, hNew⟩
              rw [← hGet, Document.get?, Document.get?, ← hSlot, hSame]
            · obtain rfl := Document.slot_injective (hSlot.symm.trans hSlot')
              cases hNow.symm.trans hGet
              exact ⟨id, s', bounds.center, bounds.radius, hSlot, hFirst, hSome', hNew⟩
          · rw [Document.getElem?_replace_of_ne hSlot]
            rcases hSlots n with hSame | ⟨id', s', center, radius, hSlot', hFirst, hSome', hNow⟩
            · exact .inl hSame
            · refine .inr ⟨id', s', center, radius, hSlot', hFirst, hSome', ?_⟩
              rw [Document.get?_replace hContains, if_neg, hNow]
              rintro rfl
              exact hSlot hSlot'

theorem footprint_updateAllBounds :
    Footprint updateAllBounds selection w (Edit.updateAllBounds.run w).2 := by
  rcases Edit.updateAllBounds_cases w with hRun | ⟨notices, w', hRun, hReaches⟩
  · rw [hRun]
    exact .refl _ _ _
  · rw [hRun]
    obtain ⟨hHeader, hCount, hSlots⟩ := slots_of_reaches hReaches.document
    refine
      { header := hHeader
        slotCount := hCount
        slots := fun n => ?_
        copies := nofun
        clipboard := hReaches.clipboard }
    rcases hSlots n with hSame | ⟨id, s, center, radius, hSlot, hFirst, hSome, hNow⟩
    · exact .inl hSame
    · exact .inr ⟨id, _, _, hSlot, hFirst, .allBounds id s hSome center radius, hNow⟩

/-! ## Every operation -/

theorem footprint_edit (op : Operation) (selection : Selection) (mode : Nat) (w : Workspace) :
    Footprint op selection w ((op.edit selection mode).run w).2 := by
  cases op with
  | removeUnused => exact footprint_removal false
  | removeDuplicates => exact footprint_removal true
  | updateCenter =>
      exact .of_settles nofun (Edit.settles_updateCenter fun hSelected _ =>
        .center hSelected _ _ _) id
  | updateBounds =>
      exact .of_settles nofun (Edit.settles_updateBounds fun hSelected _ =>
        .bounds hSelected _ _ _) id
  | updateAllBounds => exact footprint_updateAllBounds
  | flipUv =>
      exact .of_settles nofun (Edit.settles_flipUv
        (fun hSelected => .flipUv hSelected _ _ (by simp))
        fun hSelected => .flipPackedUv hSelected _ _ (by simp) (by simp)) id
  | flipFaces =>
      exact .of_settles nofun (Edit.settles_flipFaces fun hSelected =>
        .triangles _ (.inl rfl) hSelected _ _) id
  | pruneTriangles =>
      exact .of_settles nofun (Edit.settles_pruneTriangles fun hSelected =>
        .triangles _ (.inr rfl) hSelected _ _) id
  | copyVertexData =>
      rcases Edit.copyVertexData_cases selection w with ⟨e, hRun, -⟩ | ⟨notices, clipboard, hRun⟩
      · rw [edit, hRun]
        exact .refl _ _ _
      · rw [edit, hRun]
        exact
          { header := rfl
            slotCount := rfl
            slots := fun _ => .inl rfl
            copies := fun _ => rfl
            clipboard := fun h => absurd rfl h }
  | pasteVertexData =>
      refine .of_settles nofun (Edit.settles_pasteVertexData
        fun hSelected hPacked _ hTransplant => ?_) id
      obtain ⟨hUvs, hNormals⟩ := transplant_keeps hTransplant
      exact .paste hSelected _ hPacked _ hUvs fun hNone => hNormals (by rw [hNone]; rfl)

/-- **Every operation stays within its footprint.** On every document and clipboard, with every
selection and mode, and whether it succeeds or not, an operation leaves the header and the number of
slots as they are, and each slot but for what it may touch: of the selected geometry what it is for,
of the skin data of its shape the bones, of a packed shape its bounds, its texture coordinates or
what is pasted, and nothing of any other block. It deletes nothing but a skin partition. Only
copying changes the clipboard, and it changes nothing else. -/
theorem footprint_perform (op : Operation) (selection : Selection) (mode : Nat) (w : Workspace) :
    Footprint op selection w ((op.perform selection mode).run w).2 := by
  rcases run_perform_snd op selection mode w with hSame | hSame
  · rw [hSame]
    exact .refl op selection w
  · rw [hSame]
    exact footprint_edit op selection mode w

end Operation

end IndexedMesh
