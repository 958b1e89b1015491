import IndexedMesh.Proofs.Effects
import IndexedMesh.Proofs.Pruning

/-!
# Consistent documents

A document is consistent if everything that declares a number of vertices declares the right one,
and everything that refers to a vertex refers to one that is there: the faces of a geometry, and the
weights of skin data for the geometry of each shape that reaches them.

Rewriting blocks keeps documents consistent. A removal of vertices renumbers the weights of one
skin, the one that the shape of the selection reaches. If other shapes show the same geometry with
skins of their own, those keep their indices, and a document stays consistent exactly if these
happen to be small enough.

## Main results

* `Document.Consistent` — consistent documents.
* `Cast.Spares` — no other skin of the selected geometry refers past the vertices that remain.
* `Cast.consistent_after_iff` — a cast on a consistent document leaves one exactly if it spares the
  other skins.
* `consistent_run_iff` — a run keeps a document consistent exactly if each of its casts does.
-/

namespace IndexedMesh

/-- The channels and faces of a geometry agree with its number of vertices. -/
structure GeometryData.Sound (g : GeometryData) : Prop where
  declared : g.numVertices.toNat = g.vertices.size
  aligned : g.arrays.Aligned
  inRange : ∀ i ∈ references g.triangles g.strips, i.position < g.vertices.size

/-- A bone declares the number of its weights. -/
def BoneData.Sound (bone : BoneData) : Prop := bone.numVertices.toNat = bone.vertexWeights.length

/-- Every weight of some skin data is on one of `size` vertices. -/
def SkinData.Within (s : SkinData) (size : Nat) : Prop :=
  ∀ bone ∈ s.bones, ∀ w ∈ bone.vertexWeights, w.index.position < size

/-- All counts are right, and all references are to vertices that are there, whatever shapes share
geometry or skin data. -/
structure Document.Consistent (d : Document) : Prop where
  geometry : ∀ id g, d.geometry id = .ok g → g.Sound
  bones : ∀ id s, d.skinData id = .ok s → ∀ bone ∈ s.bones, bone.Sound
  weights : ∀ shape data skin g s, d.shapeData? shape = some data →
    d.skinDataOf? shape = some skin → d.geometry data = .ok g → d.skinData skin = .ok s →
      s.Within g.vertices.size

/-! ## Rewriting blocks -/

private theorem references_subset {t : IndexType} {old new : List (Triangle t)}
    {strips : List (Strip t)} (hCorners : ∀ f ∈ new, ∃ g ∈ old, ∀ i ∈ f.corners, i ∈ g.corners)
    {i : Index t} (hi : i ∈ references new strips) : i ∈ references old strips := by
  rcases List.mem_append.1 hi with hTriangle | hStrip
  · obtain ⟨f, hf, hCorner⟩ := List.mem_flatMap.1 hTriangle
    obtain ⟨g, hg, hSub⟩ := hCorners f hf
    exact List.mem_append_left _ (List.mem_flatMap.2 ⟨g, hg, hSub i hCorner⟩)
  · exact List.mem_append_right _ hStrip

/-- A rewriting of a geometry keeps it sound and keeps the number of its vertices. -/
theorem Operation.Rewrites.sound {op : Operation} {old : Block} {g' : GeometryData}
    (h : op.Rewrites old (.geometry g')) :
    ∃ g, old = .geometry g ∧ g'.vertices.size = g.vertices.size ∧ (g.Sound → g'.Sound) := by
  cases h with
  | center g rule bounds _ =>
      refine ⟨g, rfl, rfl, fun hSound => ?_⟩
      exact { declared := hSound.declared, aligned := hSound.aligned, inRange := hSound.inRange }
  | flipUv g flip =>
      refine ⟨g, rfl, rfl, fun hSound => ?_⟩
      refine
        { declared := hSound.declared
          aligned :=
            { normals := hSound.aligned.normals
              colors := hSound.aligned.colors
              texcoords := ?_ }
          inRange := hSound.inRange }
      intro set hSet
      obtain ⟨before, hBefore, rfl⟩ := List.mem_map.1 hSet
      have hSpans := hSound.aligned.texcoords before hBefore
      unfold VertexArrays.Spans at hSpans ⊢
      rw [Array.size_map]
      exact hSpans
  | flipFaces g =>
      refine ⟨g, rfl, rfl, fun hSound => ?_⟩
      refine
        { declared := hSound.declared
          aligned := hSound.aligned
          inRange := fun i hi => hSound.inRange i (references_subset (fun f hf => ?_) hi) }
      obtain ⟨before, hBefore, rfl⟩ := List.mem_map.1 hf
      refine ⟨before, hBefore, fun i hi => ?_⟩
      simp only [Triangle.flip, Triangle.corners, List.mem_cons] at hi ⊢
      tauto
  | prune g =>
      refine ⟨g, rfl, rfl, fun hSound => ?_⟩
      refine
        { declared := hSound.declared
          aligned := hSound.aligned
          inRange := fun i hi => hSound.inRange i (references_subset (fun f hf => ?_) hi) }
      exact ⟨f, (kept_sublist g.triangles).subset hf, fun i hi => hi⟩

/-- **Rewriting a block keeps a document consistent.** -/
theorem Document.Consistent.of_step {op : Operation} {d d' : Document} (h : d.Consistent)
    (hStep : op.Step d d') : d'.Consistent := by
  have hWiring := hStep.wiring_eq
  obtain ⟨id, old, new, hGet, hRewrites, rfl⟩ := hStep
  have hGeometry : ∀ data g', (d.replace id new).geometry data = .ok g' →
      ∃ g, d.geometry data = .ok g ∧ g'.vertices.size = g.vertices.size ∧
        (g.Sound → g'.Sound) := by
    intro data g' hg'
    rw [Document.geometry_eq_ok_iff, Document.get?_replace (Document.contains_of_get? hGet)] at hg'
    by_cases hId : data = id
    · rw [if_pos hId] at hg'
      cases hg'
      obtain ⟨g, rfl, hSize, hSound⟩ := hRewrites.sound
      exact ⟨g, (Document.geometry_eq_ok_iff g).2 (hId ▸ hGet), hSize, hSound⟩
    · rw [if_neg hId] at hg'
      exact ⟨g', (Document.geometry_eq_ok_iff g').2 hg', rfl, fun hSound => hSound⟩
  have hSkinData : ∀ skin s, (d.replace id new).skinData skin = .ok s →
      d.skinData skin = .ok s := by
    intro skin s hs
    rw [Document.skinData_eq_ok_iff, Document.get?_replace (Document.contains_of_get? hGet)] at hs
    by_cases hId : skin = id
    · rw [if_pos hId] at hs
      cases hs
      cases hRewrites
    · rw [if_neg hId] at hs
      exact (Document.skinData_eq_ok_iff s).2 hs
  refine { geometry := ?_, bones := ?_, weights := ?_ }
  · intro data g' hg'
    obtain ⟨g, hg, _, hSound⟩ := hGeometry data g' hg'
    exact hSound (h.geometry data g hg)
  · exact fun skin s hs => h.bones skin s (hSkinData skin s hs)
  · intro shape data skin g' s hData hSkin hg' hs
    obtain ⟨g, hg, hSize, _⟩ := hGeometry data g' hg'
    rw [← Document.shapeData?_wiring, hWiring, Document.shapeData?_wiring] at hData
    rw [← Document.skinDataOf?_wiring, hWiring, Document.skinDataOf?_wiring] at hSkin
    rw [hSize]
    exact h.weights shape data skin g s hData hSkin hg (hSkinData skin s hs)

/-- Rewriting any number of blocks keeps a document consistent. -/
theorem Document.Consistent.of_reaches {op : Operation} {w w' : Workspace}
    (h : w.document.Consistent) (hReaches : op.Reaches w w') : w'.document.Consistent := by
  have hChain : ∀ {d d' : Document}, Relation.ReflTransGen op.Step d d' →
      d.Consistent → d'.Consistent := by
    intro d d' hSteps hd
    induction hSteps with
    | refl => exact hd
    | tail _ hStep ih => exact ih.of_step hStep
  exact hChain hReaches.document h

/-! ## Removing vertices -/

/-- How many vertices a removal leaves: those that references are sent to. -/
def GeometryData.remaining (g : GeometryData) (mergeDuplicates : Bool) : Nat :=
  ((references g.triangles g.strips).map fun i =>
    if mergeDuplicates then g.arrays.representative i.position else i.position).toFinset.card

/-- The skins that shapes other than `shape` have for a geometry only refer to its first `size`
vertices. -/
def Document.OthersWithin (d : Document) (shape : Option BlockId) (data : BlockId) (size : Nat) :
    Prop :=
  ∀ other skin s, d.shapeData? other = some data → d.skinDataOf? other = some skin →
    shape.bind d.skinDataOf? ≠ some skin → d.skinData skin = .ok s → s.Within size

namespace RemovalSite

variable {site : RemovalSite} {d : Document} {out : Stripped .stored} {mergeDuplicates : Bool}

private theorem counted_of_sound (hSound : site.geometry.Sound)
    (hNonempty : site.geometry.vertices.size ≠ 0) : site.geometry.Counted :=
  { nonempty := hNonempty, declared := hSound.declared, aligned := hSound.aligned }

private theorem inRange_of_sound (hSound : site.geometry.Sound) : site.mesh.InRange :=
  hSound.inRange

private theorem length_kept_of_sound (hSound : site.geometry.Sound) (mergeDuplicates : Bool) :
    (site.mesh.kept mergeDuplicates).length = site.geometry.remaining mergeDuplicates :=
  Mesh.length_kept (IndexType.stored_addresses _) (inRange_of_sound hSound) mergeDuplicates

/-- Fewer weights than were declared can be declared again. -/
private theorem bonesFit_of_sound (hSite : site.In d) (hd : d.Consistent)
    (hSound : site.geometry.Sound) (hOut : site.mesh.stripped mergeDuplicates = some out)
    (hSome : site.skin.isSome) : Document.BonesFit out.mesh.bones := by
  obtain ⟨_, rfl⟩ := (Mesh.stripped_eq_some_iff _ _ _).1 hOut
  obtain ⟨⟨skin, s⟩, hSkin⟩ := Option.isSome_iff_exists.1 hSome
  have hMesh := Mesh.renumbered_condensed (m := site.mesh) hSound.aligned
    (IndexType.stored_addresses _) (inRange_of_sound hSound) mergeDuplicates
  intro new hNew
  obtain ⟨stored, hStored, hWeights⟩ := exists_mem_of_forall₂ hMesh.bones hNew
  rw [bones_mesh hSkin] at hStored
  obtain ⟨old, hOld, rfl⟩ := List.mem_map.1 hStored
  have hGet := (Document.skinData_eq_ok_iff s).2 (hSite.skinData skin s hSkin)
  have hDeclared : old.numVertices.toNat = old.weights.weights.length :=
    hd.bones skin s hGet old hOld
  have hNarrow := old.numVertices.toNat_lt_size
  have hLength := hWeights.length_eq
  have hLe := List.length_filter_le
    (fun w : VertexWeight .stored => decide (w.index.position ∈ site.mesh.kept mergeDuplicates))
    old.weights.weights
  omega

/-- **On a consistent document a removal does not fail**, except that an empty geometry has nothing
to remove. -/
theorem plan_cases_of_consistent (hSite : site.In d) (hd : d.Consistent)
    (mergeDuplicates : Bool) :
    (site.geometry.remaining mergeDuplicates = site.geometry.vertices.size ∧
        (site.plan mergeDuplicates = .error .emptyInput ∨ site.plan mergeDuplicates = .ok none)) ∨
      ∃ out, site.plan mergeDuplicates = .ok (some out) := by
  have hSound := hd.geometry site.data site.geometry
    ((Document.geometry_eq_ok_iff _).2 hSite.geometry)
  have hRemaining := length_kept_of_sound hSound mergeDuplicates
  by_cases hEmpty : site.geometry.vertices.size = 0
  · have hLe : (site.mesh.kept mergeDuplicates).length ≤ site.geometry.vertices.size :=
      Mesh.length_kept_le site.mesh mergeDuplicates
    have hCheck : site.geometry.check = .error .emptyInput := if_pos hEmpty
    refine .inl ⟨by omega, .inl ?_⟩
    rw [plan, hCheck]
  · have hCounted := counted_of_sound hSound hEmpty
    cases hOut : site.mesh.stripped mergeDuplicates with
    | none =>
        have hNone := (plan_eq_ok_none_iff _ _).2 ⟨hCounted, inRange_of_sound hSound, hOut⟩
        refine .inl ⟨?_, .inr hNone⟩
        rw [← hRemaining]
        exact (Mesh.stripped_eq_none_iff _ _).1 hOut
    | some out =>
        exact .inr ⟨out, (plan_eq_ok_some_iff _ _ _).2
          ⟨hCounted, inRange_of_sound hSound, hOut, bonesFit_of_sound hSite hd hSound hOut⟩⟩

private theorem geometry_of_apply (hSite : site.In d) {id : BlockId} {g : GeometryData}
    (h : (site.apply out d).geometry id = .ok g) :
    (id = site.data ∧ g = site.geometry.withMesh out.mesh) ∨
      (id ≠ site.data ∧ d.geometry id = .ok g) := by
  rw [Document.geometry_eq_ok_iff] at h
  rcases get?_apply_cases hSite h with ⟨hData, hNew⟩ | ⟨s, _, hNew⟩ | ⟨hData, _, hOld⟩
  · cases hNew
    exact .inl ⟨hData, rfl⟩
  · cases hNew
  · exact .inr ⟨hData, (Document.geometry_eq_ok_iff g).2 hOld⟩

private theorem skinData_of_apply (hSite : site.In d) {id : BlockId} {s : SkinData}
    (h : (site.apply out d).skinData id = .ok s) :
    (∃ old, site.skin = some (id, old) ∧
        s = { old with bones := out.mesh.bones.map BoneWeights.stored }) ∨
      ((∀ old, site.skin ≠ some (id, old)) ∧ d.skinData id = .ok s) := by
  rw [Document.skinData_eq_ok_iff] at h
  rcases get?_apply_cases hSite h with ⟨_, hNew⟩ | ⟨old, hSkin, hNew⟩ | ⟨_, hOther, hOld⟩
  · cases hNew
  · cases hNew
    exact .inl ⟨old, hSkin, rfl⟩
  · exact .inr ⟨hOther, (Document.skinData_eq_ok_iff s).2 hOld⟩

private theorem skinData_apply_other (hSite : site.In d) {id : BlockId} {s : SkinData}
    (hOther : site.shape.bind d.skinDataOf? ≠ some id) (hs : d.skinData id = .ok s) :
    (site.apply out d).skinData id = .ok s := by
  rw [Document.skinData_eq_ok_iff] at hs ⊢
  rw [get?_apply_other hSite ?_ ?_ ?_, hs]
  · rintro rfl
    rw [hSite.geometry] at hs
    cases hs
  · intro old hOld
    rw [hSite.skin, hOld] at hOther
    exact hOther rfl
  · intro hPartition
    obtain ⟨p, hGet⟩ := hSite.get?_partition hPartition
    rw [hs] at hGet
    cases hGet

end RemovalSite

namespace Document.Consistent

variable {site : RemovalSite} {d : Document} {out : Stripped .stored} {mergeDuplicates : Bool}

/-- The new mesh agrees with the number of vertices that it declares. -/
theorem sound_withMesh (hPlan : site.plan mergeDuplicates = .ok (some out)) :
    (site.geometry.withMesh out.mesh).Sound := by
  have hMesh := RemovalSite.renumbered_of_plan hPlan
  obtain ⟨hCounted, _, hOut, _⟩ := (RemovalSite.plan_eq_ok_some_iff _ _ _).1 hPlan
  exact
    { declared := UInt16.toNat_ofNat_of_lt' (RemovalSite.size_lt_of_stripped hCounted hOut)
      aligned := hMesh.arrays.aligned
      inRange := hMesh.inRange }

/-- The new weights are on vertices that remain, and a vertex does not move back. -/
private theorem weight_of_plan (hPlan : site.plan mergeDuplicates = .ok (some out))
    {skin : BlockId} {s : SkinData} (hSkin : site.skin = some (skin, s)) {bone : BoneData}
    (hBone : bone ∈ out.mesh.bones.map BoneWeights.stored) {v : VertexWeight .stored}
    (hv : v ∈ bone.vertexWeights) :
    v.index.position < (site.mesh.kept mergeDuplicates).length ∧
      ∃ old ∈ s.bones, ∃ w ∈ old.vertexWeights, v.index.position ≤ w.index.position := by
  have hMesh := RemovalSite.renumbered_of_plan hPlan
  have hBones := RemovalSite.keepsWeights_of_plan hPlan hSkin
  obtain ⟨old, hOld, hKeeps⟩ := exists_mem_of_forall₂ hBones hBone
  obtain ⟨w, hw, hSame⟩ := exists_mem_of_forall₂ hKeeps.weights hv
  exact ⟨hKeeps.lt_length hv, old, hOld, w, List.mem_of_mem_filter hw,
    hMesh.le_of_getElem? hSame.index⟩

private theorem size_withMesh (hd : d.Consistent) (hSite : site.In d)
    (hPlan : site.plan mergeDuplicates = .ok (some out)) :
    (site.geometry.withMesh out.mesh).vertices.size = (site.mesh.kept mergeDuplicates).length ∧
      (site.mesh.kept mergeDuplicates).length = site.geometry.remaining mergeDuplicates := by
  have hSound := hd.geometry site.data site.geometry
    ((Document.geometry_eq_ok_iff _).2 hSite.geometry)
  exact ⟨(RemovalSite.renumbered_of_plan hPlan).arrays.size,
    RemovalSite.length_kept_of_sound hSound mergeDuplicates⟩

/-- Weights stay in range for every shape, if they do for the other shapes of the geometry. -/
private theorem weights_of_apply (hd : d.Consistent) (hSite : site.In d)
    (hPlan : site.plan mergeDuplicates = .ok (some out))
    (hOthers : d.OthersWithin site.shape site.data (site.geometry.remaining mergeDuplicates))
    {shape data skin : BlockId} {g : GeometryData} {s : SkinData}
    (hData : d.shapeData? shape = some data) (hSkin : d.skinDataOf? shape = some skin)
    (hg : (site.apply out d).geometry data = .ok g)
    (hs : (site.apply out d).skinData skin = .ok s) : s.Within g.vertices.size := by
  obtain ⟨hSize, hRemaining⟩ := size_withMesh hd hSite hPlan
  intro bone hBone v hv
  rcases RemovalSite.skinData_of_apply hSite hs with ⟨before, hSelf, rfl⟩ | ⟨hOther, hs⟩
  · obtain ⟨hLess, old, hOld, w, hw, hLe⟩ := weight_of_plan hPlan hSelf hBone hv
    rcases RemovalSite.geometry_of_apply hSite hg with ⟨_, rfl⟩ | ⟨_, hg⟩
    · rw [hSize]
      exact hLess
    · -- The shape shares the skin but not the geometry, so the old indices were small enough.
      have hBefore := (Document.skinData_eq_ok_iff _).2 (hSite.skinData skin before hSelf)
      have hOldLess := hd.weights shape data skin g before hData hSkin hg hBefore old hOld w hw
      omega
  · rcases RemovalSite.geometry_of_apply hSite hg with ⟨rfl, rfl⟩ | ⟨_, hg⟩
    · rw [hSize, hRemaining]
      refine hOthers shape skin s hData hSkin ?_ hs bone hBone v hv
      intro hReached
      rw [hSite.skin, Option.map_eq_some_iff] at hReached
      obtain ⟨⟨_, old⟩, hSelf, rfl⟩ := hReached
      exact hOther old hSelf
    · exact hd.weights shape data skin g s hData hSkin hg hs bone hBone v hv

/-- **Carrying a plan out keeps a document consistent exactly if the skins of other shapes only
refer to vertices that remain.** -/
theorem apply_iff (hd : d.Consistent) (hSite : site.In d)
    (hPlan : site.plan mergeDuplicates = .ok (some out)) :
    (site.apply out d).Consistent ↔
      d.OthersWithin site.shape site.data (site.geometry.remaining mergeDuplicates) := by
  constructor
  · intro hAfter other skin s hData hSkin hOther hs
    obtain ⟨hSize, hRemaining⟩ := size_withMesh hd hSite hPlan
    rw [← hRemaining, ← hSize]
    refine hAfter.weights other site.data skin _ s ?_ ?_ ?_ ?_
    · rw [RemovalSite.shapeData?_apply hSite, hData]
    · rw [RemovalSite.skinDataOf?_apply hSite, hSkin]
    · exact (Document.geometry_eq_ok_iff _).2 (RemovalSite.get?_apply_data hSite)
    · exact RemovalSite.skinData_apply_other hSite hOther hs
  · intro hOthers
    refine { geometry := ?_, bones := ?_, weights := ?_ }
    · intro id g hg
      rcases RemovalSite.geometry_of_apply hSite hg with ⟨_, rfl⟩ | ⟨_, hg⟩
      · exact sound_withMesh hPlan
      · exact hd.geometry id g hg
    · intro id s hs bone hBone
      rcases RemovalSite.skinData_of_apply hSite hs with ⟨old, hSkin, rfl⟩ | ⟨_, hs⟩
      · have hBones := RemovalSite.keepsWeights_of_plan hPlan hSkin
        obtain ⟨_, _, hKeeps⟩ := exists_mem_of_forall₂ hBones hBone
        exact hKeeps.declared
      · exact hd.bones id s hs bone hBone
    · intro shape data skin g s hData hSkin hg hs
      rw [RemovalSite.shapeData?_apply hSite] at hData
      rw [RemovalSite.skinDataOf?_apply hSite] at hSkin
      exact weights_of_apply hd hSite hPlan hOthers hData hSkin hg hs

end Document.Consistent

/-! ## Casts -/

/-- An operation that is asked for, and what it is asked for with. -/
structure Cast where
  op : Operation
  selection : Selection
  mode : Nat := 0
  clipboard : Clipboard := {}

/-- The document after a cast, whether it succeeds or not. -/
def Cast.after (c : Cast) (d : Document) : Document :=
  ((c.op.perform c.selection c.mode).run { document := d, clipboard := c.clipboard }).2.document

/-- The document after some casts in a row. -/
def runCasts (d : Document) (casts : List Cast) : Document := casts.foldl (fun d c => c.after d) d

/-- If the cast removes vertices from a geometry, the skins that other shapes have for it only refer
to as many vertices as remain. -/
def Cast.Spares (c : Cast) (d : Document) : Prop :=
  ∀ mergeDuplicates shape data g, c.op = .removal mergeDuplicates → c.mode = 0 →
    d.selectedData? c.selection = some (shape, data) → d.geometry data = .ok g →
      d.OthersWithin shape data (g.remaining mergeDuplicates)

namespace Cast

variable {c : Cast} {d : Document} {mergeDuplicates : Bool}

private theorem after_eq_of_refused (hOp : c.op = .removal mergeDuplicates)
    (hRefused : d.selectedData? c.selection = none ∨ c.mode ≠ 0) : c.after d = d := by
  have hRun := Operation.run_perform (.removal mergeDuplicates) c.selection c.mode
    { document := d, clipboard := c.clipboard }
  rw [after, hOp, hRun]
  by_cases hApplies : (Operation.removal mergeDuplicates).applies d c.selection = false
  · rw [if_pos hApplies]
  · rw [if_neg hApplies]
    obtain ⟨site, _, hSelected⟩ := (Operation.applies_removal_iff d mergeDuplicates).1
      (by simpa using hApplies)
    rcases hRefused with hNone | hMode
    · rw [hSelected] at hNone
      cases hNone
    · rw [if_pos]
      rw [Operation.modeCount_removal]
      omega

private theorem after_eq_of_selected (hOp : c.op = .removal mergeDuplicates) (hMode : c.mode = 0)
    {site : RemovalSite} (hSite : site.In d)
    (hSelected : d.selectedData? c.selection = some (site.shape, site.data)) :
    c.after d = match site.plan mergeDuplicates with
      | .ok (some out) => site.apply out d
      | _ => d := by
  let w : Workspace := { document := d, clipboard := c.clipboard }
  have hApplies : ¬ (Operation.removal mergeDuplicates).applies d c.selection = false := by
    rw [(Operation.applies_removal_iff d mergeDuplicates).2 ⟨site, hSite, hSelected⟩]
    exact Bool.true_eq_false_eq_False
  have hEdit := Operation.run_edit_removal (w := w) hSite hSelected mergeDuplicates c.mode
  rw [after, hOp, Operation.run_perform, if_neg hApplies, if_neg, hEdit]
  · cases site.plan mergeDuplicates with
    | error e => cases e <;> rfl
    | ok answer => cases answer <;> rfl
  · rw [Operation.modeCount_removal]
    omega

/-- Which skins are to be spared, once the selection stands for the geometry of a site. -/
private theorem spares_iff_of_selected (hOp : c.op = .removal mergeDuplicates) (hMode : c.mode = 0)
    {site : RemovalSite} (hSite : site.In d)
    (hSelected : d.selectedData? c.selection = some (site.shape, site.data)) :
    c.Spares d ↔ d.OthersWithin site.shape site.data (site.geometry.remaining mergeDuplicates) := by
  constructor
  · intro hSpares
    exact hSpares mergeDuplicates site.shape site.data site.geometry hOp hMode hSelected
      ((Document.geometry_eq_ok_iff _).2 hSite.geometry)
  · intro hOthers merges shape data g hOp' _ hSelected' hg
    obtain rfl := Operation.removal_injective (hOp.symm.trans hOp')
    rw [hSelected] at hSelected'
    cases hSelected'
    rw [Document.geometry_eq_ok_iff, hSite.geometry] at hg
    cases hg
    exact hOthers

/-- A removal that is for the selection keeps a document consistent exactly if it spares the skins
of the other shapes. -/
private theorem consistent_after_iff_of_selected (hd : d.Consistent)
    (hOp : c.op = .removal mergeDuplicates) (hMode : c.mode = 0) {site : RemovalSite}
    (hSite : site.In d)
    (hSelected : d.selectedData? c.selection = some (site.shape, site.data)) :
    (c.after d).Consistent ↔ c.Spares d := by
  rw [spares_iff_of_selected hOp hMode hSite hSelected,
    after_eq_of_selected hOp hMode hSite hSelected]
  rcases RemovalSite.plan_cases_of_consistent hSite hd mergeDuplicates with
    ⟨hRemaining, hNothing⟩ | ⟨out, hPlan⟩
  · have hOthers : d.OthersWithin site.shape site.data
        (site.geometry.remaining mergeDuplicates) := by
      intro other skin s hData hSkin _ hs
      rw [hRemaining]
      exact hd.weights other site.data skin site.geometry s hData hSkin
        ((Document.geometry_eq_ok_iff _).2 hSite.geometry) hs
    rcases hNothing with hPlan | hPlan <;> rw [hPlan] <;> exact ⟨fun _ => hOthers, fun _ => hd⟩
  · rw [hPlan]
    exact hd.apply_iff hSite hPlan

/-- **A cast on a consistent document leaves a consistent one exactly if it spares the skins of the
other shapes.** -/
theorem consistent_after_iff (hd : d.Consistent) : (c.after d).Consistent ↔ c.Spares d := by
  by_cases hOp : ∃ mergeDuplicates, c.op = .removal mergeDuplicates
  · obtain ⟨mergeDuplicates, hOp⟩ := hOp
    by_cases hRefused : d.selectedData? c.selection = none ∨ c.mode ≠ 0
    · rw [after_eq_of_refused hOp hRefused]
      refine ⟨fun _ merges shape data g _ hMode hSelected _ => ?_, fun _ => hd⟩
      rcases hRefused with hNone | hMode'
      · rw [hNone] at hSelected
        cases hSelected
      · exact absurd hMode hMode'
    · obtain ⟨hSome, hMode⟩ := not_or.1 hRefused
      obtain ⟨⟨shape, data⟩, hSelected⟩ := Option.ne_none_iff_exists'.1 hSome
      obtain ⟨g, hGet⟩ := Document.get?_of_selectedData? hSelected
      obtain ⟨site, rfl, rfl, rfl, hSite⟩ := RemovalSite.exists_in shape hGet
      exact consistent_after_iff_of_selected hd hOp (Decidable.not_not.1 hMode) hSite hSelected
  · have hOp : ∀ mergeDuplicates, c.op ≠ .removal mergeDuplicates :=
      fun mergeDuplicates h => hOp ⟨mergeDuplicates, h⟩
    constructor
    · exact fun _ mergeDuplicates _ _ _ h => absurd h (hOp mergeDuplicates)
    · let w : Workspace := { document := d, clipboard := c.clipboard }
      have hReaches := Operation.perform_reaches hOp
        (Prod.eta ((c.op.perform c.selection c.mode).run w)).symm
      exact fun _ => hd.of_reaches hReaches

end Cast

/-- **A run keeps a consistent document consistent at every step exactly if each of its casts spares
the skins of the other shapes.** -/
theorem consistent_run_iff {d : Document} (hd : d.Consistent) (casts : List Cast) :
    (∀ n, (runCasts d (casts.take n)).Consistent) ↔
      ∀ (n : Nat) (c : Cast), casts[n]? = some c → c.Spares (runCasts d (casts.take n)) := by
  induction casts generalizing d with
  | nil =>
      constructor
      · intro _ n c hc
        cases hc
      · intro _ n
        rw [List.take_nil]
        exact hd
  | cons c more ih =>
      -- The first cast decides whether the rest of the run starts from a consistent document.
      constructor
      · intro h n
        have hFirst : (c.after d).Consistent := h 1
        cases n with
        | zero =>
            intro c' hc
            cases hc
            exact (Cast.consistent_after_iff hd).1 hFirst
        | succ n => exact (ih hFirst).1 (fun k => h (k + 1)) n
      · intro h n
        cases n with
        | zero => exact hd
        | succ n =>
            have hFirst := (Cast.consistent_after_iff hd).2 (h 0 c rfl)
            exact (ih hFirst).2 (fun k => h (k + 1)) n

private theorem mem_slots_of_get? {d : Document} {id : BlockId} {b : Block}
    (h : d.get? id = some b) : some b ∈ d.slots := by
  rw [Document.get?, Option.join_eq_some_iff] at h
  exact Array.mem_of_getElem? h

/-- Four vertices, of which a triangle uses three. -/
def looseTriangle : GeometryData where
  numVertices := 4
  vertices := #[⟨0, 0, 0⟩, ⟨1, 0, 0⟩, ⟨0, 1, 0⟩, ⟨9, 9, 9⟩]
  triangles := [⟨.ofPosition 0, .ofPosition 1, .ofPosition 2⟩]

/-- A skin with one weight, on a vertex of choice. -/
def oneWeight (vertex : Fin 4) : SkinData where
  bones := [⟨1, [⟨.ofPosition vertex, 1⟩]⟩]

/-- Two shapes that show one geometry, with a skin each. -/
def sharedTriangle (vertex : Fin 4) : Document where
  slots := #[
    some (.shape { data := some ⟨2⟩, skinInstance := some ⟨3⟩ }),
    some (.shape { data := some ⟨2⟩, skinInstance := some ⟨4⟩ }),
    some (.geometry looseTriangle),
    some (.skinInstance { data := some ⟨5⟩ }),
    some (.skinInstance { data := some ⟨6⟩ }),
    some (.skinData (oneWeight 0)),
    some (.skinData (oneWeight vertex))]

private theorem geometry_sharedTriangle {vertex : Fin 4} {id : BlockId} {g : GeometryData}
    (h : (sharedTriangle vertex).geometry id = .ok g) : g = looseTriangle := by
  have hSlot := mem_slots_of_get? ((Document.geometry_eq_ok_iff g).1 h)
  simpa [sharedTriangle] using hSlot

private theorem skinData_sharedTriangle {vertex : Fin 4} {id : BlockId} {s : SkinData}
    (h : (sharedTriangle vertex).skinData id = .ok s) : s = oneWeight 0 ∨ s = oneWeight vertex := by
  have hSlot := mem_slots_of_get? ((Document.skinData_eq_ok_iff s).1 h)
  simpa [sharedTriangle] using hSlot

private theorem within_oneWeight {vertex : Fin 4} {n : Nat} (h : vertex < n) :
    (oneWeight vertex).Within n := by
  have hPosition : ∀ v : Fin 4, (.ofPosition v : Index .stored).position = v := by decide
  intro bone hBone w hw
  obtain rfl := List.mem_singleton.1 hBone
  obtain rfl := List.mem_singleton.1 hw
  rw [hPosition]
  exact h

private theorem consistent_sharedTriangle (vertex : Fin 4) :
    (sharedTriangle vertex).Consistent := by
  refine { geometry := ?_, bones := ?_, weights := ?_ }
  · intro id g hg
    obtain rfl := geometry_sharedTriangle hg
    refine { declared := by decide, aligned := ?_, inRange := by decide }
    exact { normals := .inl rfl, colors := .inl rfl, texcoords := fun _ h => nomatch h }
  · intro id s hs bone hBone
    rcases skinData_sharedTriangle hs with rfl | rfl <;>
      rw [List.mem_singleton.1 hBone] <;> rfl
  · intro shape data skin g s _ _ hg hs
    obtain rfl := geometry_sharedTriangle hg
    rcases skinData_sharedTriangle hs with rfl | rfl
    · exact within_oneWeight (by decide)
    · exact within_oneWeight vertex.isLt

/-- If the second skin is on a vertex that remains, the document stays consistent. -/
theorem consistent_run_sharedTriangle :
    (sharedTriangle 2).Consistent ∧ ∀ n, (runCasts (sharedTriangle 2)
      ([⟨.removeUnused, some ⟨0⟩, 0, {}⟩, ⟨.flipFaces, some ⟨1⟩, 0, {}⟩].take n)).Consistent := by
  have hBefore := consistent_sharedTriangle 2
  refine ⟨hBefore, (consistent_run_iff hBefore _).2 ?_⟩
  intro n c hc mergeDuplicates shape data g hOp _ _ hg
  match n with
  | 0 =>
      cases hc
      cases mergeDuplicates with
      | true => cases hOp
      | false =>
          obtain rfl := geometry_sharedTriangle hg
          have hRemaining : looseTriangle.remaining false = 3 := by decide
          intro other skin s _ _ _ hs
          rw [hRemaining]
          rcases skinData_sharedTriangle hs with rfl | rfl <;> exact within_oneWeight (by decide)
  | 1 =>
      cases hc
      cases mergeDuplicates <;> cases hOp
  | n + 2 => cases hc

/-- If it is on the vertex that is removed, the weight stays and refers past the end. -/
theorem not_consistent_after_sharedTriangle :
    (sharedTriangle 3).Consistent ∧
      ¬ (runCasts (sharedTriangle 3) [⟨.removeUnused, some ⟨0⟩, 0, {}⟩]).Consistent := by
  let after := runCasts (sharedTriangle 3) [⟨.removeUnused, some ⟨0⟩, 0, {}⟩]
  refine ⟨consistent_sharedTriangle 3, fun h => ?_⟩
  have hGeometry : after.get? ⟨2⟩ = some (.geometry
      { looseTriangle with numVertices := 3, vertices := #[⟨0, 0, 0⟩, ⟨1, 0, 0⟩, ⟨0, 1, 0⟩] }) := by
    decide +kernel
  have hSkin : after.get? ⟨6⟩ = some (.skinData (oneWeight 3)) := by decide +kernel
  have hWithin := h.weights ⟨1⟩ ⟨2⟩ ⟨6⟩ _ _ (by decide +kernel) (by decide +kernel)
    ((Document.geometry_eq_ok_iff _).2 hGeometry) ((Document.skinData_eq_ok_iff _).2 hSkin)
  have hLess := hWithin _ List.mem_cons_self _ List.mem_cons_self
  revert hLess
  decide

end IndexedMesh
