import Mathlib.Data.List.Find
import IndexedMesh.Proofs.DuplicateVertices

/-!
# What merging duplicates does to a skin

Vertices are equal or not by what they hold in their channels. The weights of a skin are kept
elsewhere and are not compared, so vertices that are merged may have had different ones. Merging
does not touch the weights. The removal that follows keeps those of the vertices that remain and
drops the others, as it does without merging.

What remains of a group of equal vertices is its first one, so whatever referred to a vertex of the
group is under the influences of the first one afterwards. This may be a vertex that nothing
referred to before. The skin is as it was exactly if each vertex that is referred to had the
influences of the first one of its group.

## Main results

* `Document.influences` — what the bones of a shape do to a vertex.
* `GeometryData.firstOfGroup` — the first one of the vertices that equal a vertex.
* `Inherits` — the corners of one geometry have the influences of other vertices of another.
* `LeavesFirsts`, `WeightsFollow` — what is left of the groups, and of the weights on them.
* `removeDuplicates_influences` — **after merging, all corners have the influences of the first
  vertex of their group**, and when these are the ones they had; the weights of merged vertices go.
-/

namespace IndexedMesh

/-! ## Influences -/

/-- The weights that a bone gives to a vertex, in order. -/
def BoneData.influences (bone : BoneData) (p : Nat) : List Float32 :=
  (bone.vertexWeights.filter (·.index.position = p)).map (·.weight)

/-- What each bone of a skin does to a vertex. -/
def SkinData.influences (s : SkinData) (p : Nat) : List (List Float32) :=
  s.bones.map (·.influences p)

/-- What each bone of a shape does to a vertex. A shape without skin data has no bones. -/
def Document.influences (d : Document) (shape : BlockId) (p : Nat) : List (List Float32) :=
  match (d.skinDataOf? shape).map d.skinData with
  | some (.ok s) => s.influences p
  | _ => []

theorem Document.influences_of_none {d : Document} {shape : BlockId} (p : Nat)
    (h : d.skinDataOf? shape = none) : d.influences shape p = [] := by
  rw [influences, h]
  rfl

theorem Document.influences_of_some {d : Document} {shape skin : BlockId} {s : SkinData} (p : Nat)
    (h : d.skinDataOf? shape = some skin) (hSkin : d.skinData skin = .ok s) :
    d.influences shape p = s.influences p := by
  rw [influences, h, Option.map_some, hSkin]

/-! ## Corners of two geometries -/

/-- A relation between the corners of the triangles of two geometries, and between the elements of
their strips. -/
structure FacesRelate (R : Index .stored → Index .stored → Prop) (before after : GeometryData) :
    Prop where
  triangles : List.Forall₂ (Triangle.Relates R) before.triangles after.triangles
  strips : List.Forall₂ (List.Forall₂ R) before.strips after.strips

section

variable {R S : Index .stored → Index .stored → Prop} {before after : GeometryData}

theorem FacesRelate.imp_of_mem (h : FacesRelate R before after)
    (hImp : ∀ i ∈ references before.triangles before.strips, ∀ j, R i j → S i j) :
    FacesRelate S before after where
  triangles := by
    refine forall₂_imp_of_mem h.triangles fun f hf g hCorners => ?_
    have hMem : ∀ i ∈ f.corners, i ∈ references before.triangles before.strips := fun i hi =>
      List.mem_append_left _ (List.mem_flatMap.2 ⟨f, hf, hi⟩)
    exact
      { a := hImp f.a (hMem _ (by simp [Triangle.corners])) g.a hCorners.a
        b := hImp f.b (hMem _ (by simp [Triangle.corners])) g.b hCorners.b
        c := hImp f.c (hMem _ (by simp [Triangle.corners])) g.c hCorners.c }
  strips := by
    refine forall₂_imp_of_mem h.strips fun strip hStrip new hElements => ?_
    refine forall₂_imp_of_mem hElements fun i hi j => hImp i ?_ j
    exact List.mem_append_right _ (List.mem_flatten_of_mem hStrip hi)

/-- Corners that are related over those of a third geometry. -/
theorem FacesRelate.trans {last : GeometryData} (h : FacesRelate R before after)
    (h' : FacesRelate S after last) :
    FacesRelate (fun i k => ∃ j, R i j ∧ S j k) before last where
  triangles := by
    refine (forall₂_trans h.triangles h'.triangles).imp ?_
    rintro f k ⟨g, hfg, hgk⟩
    exact { a := ⟨g.a, hfg.a, hgk.a⟩, b := ⟨g.b, hfg.b, hgk.b⟩, c := ⟨g.c, hfg.c, hgk.c⟩ }
  strips := by
    refine (forall₂_trans h.strips h'.strips).imp ?_
    rintro old last ⟨new, hNew, hLast⟩
    exact forall₂_trans hNew hLast

/-- The relation the other way round. -/
theorem FacesRelate.symm (h : FacesRelate R before after) :
    FacesRelate (fun j i => R i j) after before where
  triangles := by
    refine h.triangles.flip.imp fun g f hCorners => ?_
    exact { a := hCorners.a, b := hCorners.b, c := hCorners.c }
  strips := h.strips.flip.imp fun _ _ hElements => hElements.flip

theorem FacesRelate.references (h : FacesRelate R before after) :
    List.Forall₂ R (references before.triangles before.strips)
      (references after.triangles after.strips) :=
  forall₂_references h.triangles h.strips

/-- Each corner and each element of a strip is equal to itself. -/
theorem FacesRelate.refl (g : GeometryData) : FacesRelate Eq g g where
  triangles := List.forall₂_same.2 fun _ _ => ⟨rfl, rfl, rfl⟩
  strips := List.forall₂_same.2 fun _ _ => List.forall₂_same.2 fun _ _ => rfl

end

/-- Each corner and each element of a strip of `after`, in `d'`, has the influences that the vertex
`stand p` had in `d` if it referred to `p` in `before`. -/
def Inherits (d d' : Document) (shape : BlockId) (before after : GeometryData)
    (stand : Nat → Nat) : Prop :=
  FacesRelate (fun i j => d'.influences shape j.position = d.influences shape (stand i.position))
    before after

private theorem Inherits.map_eq {d d' : Document} {shape : BlockId} {before after : GeometryData}
    {stand : Nat → Nat} (h : Inherits d d' shape before after stand) :
    (references after.triangles after.strips).map (fun j => d'.influences shape j.position) =
      (references before.triangles before.strips).map
        fun i => d.influences shape (stand i.position) :=
  map_eq_map_of_forall₂ h.references fun _ _ hInherits => hInherits

/-- Where all corners have the influences of some vertices, they have those of others exactly if
these are the same. -/
theorem Inherits.iff_of_inherits {d d' : Document} {shape : BlockId} {before after : GeometryData}
    {stand other : Nat → Nat} (h : Inherits d d' shape before after stand) :
    Inherits d d' shape before after other ↔
      ∀ i ∈ references before.triangles before.strips,
        d.influences shape (stand i.position) = d.influences shape (other i.position) := by
  constructor
  · intro hOther
    exact List.map_inj_left.1 (h.map_eq.symm.trans hOther.map_eq)
  · intro hSame
    exact h.imp_of_mem fun i hi j hInherits => hInherits.trans (hSame i hi)

/-! ## What becomes of the weights -/

/-- The weights of a kept vertex are all kept. -/
private theorem influences_of_sameWeight {kept : List Nat} (hNodup : kept.Nodup) {k p : Nat}
    (hPlace : kept[k]? = some p) {old new : List (VertexWeight .stored)}
    (h : List.Forall₂ (Mesh.SameWeight kept) (old.filter (·.index.position ∈ kept)) new) :
    (new.filter (·.index.position = k)).map (·.weight) =
      (old.filter (·.index.position = p)).map (·.weight) := by
  have hSamePlace : ∀ ⦃w v : VertexWeight .stored⦄, Mesh.SameWeight kept w v →
      (decide (w.index.position = p) = true ↔ decide (v.index.position = k) = true) := by
    intro w v hSame
    rw [decide_eq_true_iff, decide_eq_true_iff]
    have hIndex := hSame.index
    constructor
    · rintro rfl
      exact (List.getElem?_inj (List.getElem?_eq_some_iff.1 hIndex).1 hNodup).1
        (hIndex.trans hPlace.symm)
    · rintro rfl
      exact Option.some.inj (hIndex.symm.trans hPlace)
  have hFiltered := List.rel_filter hSamePlace h
  have hOld : (old.filter (·.index.position ∈ kept)).filter (·.index.position = p) =
      old.filter (·.index.position = p) := by
    rw [List.filter_filter]
    refine List.filter_congr fun w _ => ?_
    have hMem : p ∈ kept := List.mem_of_getElem? hPlace
    by_cases hw : w.index.position = p <;> simp [hw, hMem]
  rw [hOld] at hFiltered
  exact map_eq_map_of_forall₂ hFiltered fun w v hSame => hSame.weight

section

variable {site : RemovalSite} {out : Stripped .stored} {mergeDuplicates : Bool} {d : Document}
  {shape : BlockId}

/-- **A vertex that remains keeps its influences.** -/
theorem influences_apply (hSite : site.In d) (hShape : site.shape = some shape)
    (hPlan : site.plan mergeDuplicates = .ok (some out)) {k p : Nat}
    (hPlace : (site.mesh.kept mergeDuplicates)[k]? = some p) :
    (site.apply out d).influences shape k = d.influences shape p := by
  have hAfter : (site.apply out d).skinDataOf? shape = d.skinDataOf? shape :=
    RemovalSite.skinDataOf?_apply hSite shape
  cases hReach : d.skinDataOf? shape with
  | none =>
      rw [Document.influences_of_none p hReach,
        Document.influences_of_none k (hAfter.trans hReach)]
  | some skin =>
      have hReached : site.shape.bind d.skinDataOf? = some skin := by rw [hShape]; exact hReach
      obtain ⟨old, new, hOld, hNew, hKeeps⟩ :=
        RemovalSite.exists_skinData_of_plan hSite hPlan hReached
      rw [Document.influences_of_some p hReach hOld,
        Document.influences_of_some k (hAfter.trans hReach) hNew]
      refine map_eq_map_of_forall₂ hKeeps fun old new hBone => ?_
      exact influences_of_sameWeight (Mesh.kept_nodup _ _) hPlace hBone.weights

end

/-! ## The first vertex of a group -/

/-- The first vertex before `p` that equals it, or `p` itself if there is none. -/
def GeometryData.firstOfGroup (g : GeometryData) (p : Nat) : Nat :=
  ((List.range p).find? fun q => g.arrays.same? q p = some true).getD p

theorem GeometryData.firstOfGroup_eq {g : GeometryData} (hCounted : g.Counted) {p : Nat}
    (hp : p < g.vertices.size) : g.firstOfGroup p = g.arrays.representative p := by
  rw [firstOfGroup, VertexArrays.representative, VertexArrays.earlier?]
  congr 1
  refine List.find?_congr fun q hq => ?_
  rw [Bool.eq_iff_iff, decide_eq_true_iff]
  have hLess : q < p := List.mem_range.1 hq
  exact same?_eq_some_true_iff hCounted (by omega) hp

/-- Past the last vertex nothing is equal. -/
theorem GeometryData.firstOfGroup_of_le {g : GeometryData} {p : Nat} (hp : g.arrays.size ≤ p) :
    g.firstOfGroup p = p := by
  have hNone : ∀ q, g.arrays.same? q p ≠ some true := by
    intro q
    have hPast : g.arrays.positions[p]? = none := Array.getElem?_eq_none hp
    cases hFirst : g.arrays.positions[q]? <;>
      simp [VertexArrays.same?, VertexArrays.equalAt?, hPast, hFirst]
  rw [firstOfGroup, List.find?_eq_none.2 (by simp [hNone]), Option.getD_none]

/-- The first vertex of a group is the first one of its own group. -/
theorem GeometryData.firstOfGroup_firstOfGroup {g : GeometryData} (hCounted : g.Counted) {p : Nat}
    (hp : p < g.vertices.size) : g.firstOfGroup (g.firstOfGroup p) = g.firstOfGroup p := by
  have hLess : g.arrays.representative p < g.vertices.size :=
    Nat.lt_of_le_of_lt (VertexArrays.representative_le _ _) hp
  rw [firstOfGroup_eq hCounted hp, firstOfGroup_eq hCounted hLess]
  exact VertexArrays.representative_representative _ _

/-- If no vertex is removed, each is the first one of its group. -/
theorem firstOfGroup_of_plan_none {site : RemovalSite} (hPlan : site.plan true = .ok none)
    (p : Nat) : site.geometry.firstOfGroup p = p := by
  obtain ⟨hCounted, hRange, hNone⟩ := (RemovalSite.plan_eq_ok_none_iff _ _).1 hPlan
  by_cases hLess : p < site.geometry.vertices.size
  · rw [GeometryData.firstOfGroup_eq hCounted hLess]
    exact Mesh.target_eq_self (IndexType.stored_addresses _) hRange hNone hLess
  · exact GeometryData.firstOfGroup_of_le (Nat.le_of_not_lt hLess)

/-! ## What is left of the groups and of the weights -/

/-- Of the vertices of `before` a list is left in `after`: the first ones of the groups that are
referred to. All others are gone, above all those that are not the first ones of their groups. -/
structure LeavesFirsts (before after : GeometryData) (kept : List Nat) : Prop where
  ascending : kept.Pairwise (· < ·)
  mem_kept : ∀ p, p ∈ kept ↔
    ∃ i ∈ references before.triangles before.strips, before.firstOfGroup i.position = p
  first : ∀ p ∈ kept, before.firstOfGroup p = p
  vertices : after.vertices.size = kept.length

/-- From `d` to `d'` the bones of a shape keep their weights on the vertices of a list, which are
those of the geometry `after`, and lose all others. -/
def WeightsFollow (d d' : Document) (shape : BlockId) (after : GeometryData) (kept : List Nat) :
    Prop :=
  ∀ skin, d.skinDataOf? shape = some skin →
    ∃ old new, d.skinData skin = .ok old ∧ d'.skinData skin = .ok new ∧
      List.Forall₂ (BoneData.KeepsWeights kept) old.bones new.bones ∧
      ∀ bone ∈ new.bones, ∀ v ∈ bone.vertexWeights, v.index.position < after.vertices.size

section

variable {site : RemovalSite} {out : Stripped .stored} {d : Document} {shape : BlockId}

theorem leavesFirsts_of_plan (hPlan : site.plan true = .ok (some out)) :
    LeavesFirsts site.geometry (site.geometry.withMesh out.mesh) (site.mesh.kept true) := by
  have hMesh := RemovalSite.renumbered_of_plan hPlan
  obtain ⟨hCounted, hRange, -, -⟩ := (RemovalSite.plan_eq_ok_some_iff _ _ _).1 hPlan
  have hTarget : ∀ i ∈ references site.geometry.triangles site.geometry.strips,
      site.geometry.firstOfGroup i.position = site.mesh.target true i.position :=
    fun i hi => GeometryData.firstOfGroup_eq hCounted (hRange i hi)
  have hMem : ∀ p, p ∈ site.mesh.kept true ↔
      ∃ i ∈ references site.geometry.triangles site.geometry.strips,
        site.geometry.firstOfGroup i.position = p := by
    intro p
    rw [hMesh.mem_kept]
    exact exists_congr fun i => and_congr_right fun hi => by rw [hTarget i hi]
  refine
    { ascending := hMesh.ascending
      mem_kept := hMem
      first := fun p hp => ?_
      vertices := hMesh.arrays.size }
  obtain ⟨i, hi, rfl⟩ := (hMem p).1 hp
  exact GeometryData.firstOfGroup_firstOfGroup hCounted (hRange i hi)

/-- **The weights of vertices that are merged away go with them**, and so do those of vertices that
nothing refers to. -/
theorem weightsFollow_apply (hSite : site.In d) (hShape : site.shape = some shape)
    (hPlan : site.plan true = .ok (some out)) :
    WeightsFollow d (site.apply out d) shape (site.geometry.withMesh out.mesh)
      (site.mesh.kept true) := by
  intro skin hReach
  have hReached : site.shape.bind d.skinDataOf? = some skin := by rw [hShape]; exact hReach
  obtain ⟨old, new, hOld, hNew, hKeeps⟩ := RemovalSite.exists_skinData_of_plan hSite hPlan hReached
  refine ⟨old, new, hOld, hNew, hKeeps, fun bone hBone v hv => ?_⟩
  obtain ⟨_, -, hBoneKeeps⟩ := exists_mem_of_forall₂ hKeeps hBone
  exact (hBoneKeeps.lt_length hv).trans_eq (leavesFirsts_of_plan hPlan).vertices.symm

end

/-! ## Merging -/

section

variable {w w' : Workspace} {selection : Selection} {mode : Nat} {outcome : Outcome}
  {shape data : BlockId}

/-- **After merging, all corners have the influences of the first vertex of their group.** Whenever
the removal of duplicates succeeds, each corner of a triangle and each element of a strip has the
influences that the first one of the vertices equal to its old one had, whether anything referred to
that one or not. It has the influences of its old vertex exactly if both had the same. The weights
of a vertex that is merged away are dropped with it: unless nothing was to do and no vertex equals
one before it, each bone keeps its weights on the first vertices of the groups that are referred to,
and no others. -/
theorem removeDuplicates_influences
    (hRun : (Operation.removeDuplicates.perform selection mode).run w = (.ok outcome, w'))
    (hSelected : w.document.selectedData? selection = some (some shape, data)) :
    ∃ before after, w.document.geometry data = .ok before ∧ w'.document.geometry data = .ok after ∧
      Inherits w.document w'.document shape before after before.firstOfGroup ∧
      (Inherits w.document w'.document shape before after id ↔
        ∀ i ∈ references before.triangles before.strips,
          w.document.influences shape (before.firstOfGroup i.position) =
            w.document.influences shape i.position) ∧
      ((w' = w ∧ ∀ p, before.firstOfGroup p = p) ∨
        ∃ kept, LeavesFirsts before after kept ∧
          WeightsFollow w.document w'.document shape after kept) := by
  have hRemoval : ((Operation.removal true).perform selection mode).run w = _ := hRun
  obtain ⟨site, hSite, hSiteSelected, hEnds⟩ := Operation.removal_ok_plan hRemoval
  rw [hSelected] at hSiteSelected
  obtain ⟨hShape, rfl⟩ := Prod.mk.inj (Option.some.inj hSiteSelected)
  have hBefore := (Document.geometry_eq_ok_iff _).2 hSite.geometry
  rcases hEnds with ⟨hNothing, -, rfl⟩ | ⟨out, hPlan, -, rfl⟩
  · have hFirst : ∀ p, site.geometry.firstOfGroup p = p := by
      intro p
      rcases hNothing with hEmpty | hPlan
      · exact GeometryData.firstOfGroup_of_le (hEmpty.trans_le p.zero_le)
      · exact firstOfGroup_of_plan_none hPlan p
    have hInherits : Inherits w'.document w'.document shape site.geometry site.geometry
        site.geometry.firstOfGroup := by
      refine (FacesRelate.refl _).imp_of_mem fun i _ j hSame => ?_
      rw [← hSame, hFirst]
    exact ⟨_, _, hBefore, hBefore, hInherits, hInherits.iff_of_inherits, .inl ⟨rfl, hFirst⟩⟩
  · have hMesh := RemovalSite.renumbered_of_plan hPlan
    obtain ⟨hCounted, hRange, -, -⟩ := (RemovalSite.plan_eq_ok_some_iff _ _ _).1 hPlan
    have hFaces : FacesRelate (Mesh.Leads (site.mesh.kept true) (site.mesh.target true))
        site.geometry (site.geometry.withMesh out.mesh) :=
      { triangles := hMesh.triangles, strips := hMesh.strips }
    have hInherits : Inherits w.document (site.apply out w.document) shape site.geometry
        (site.geometry.withMesh out.mesh) site.geometry.firstOfGroup := by
      refine hFaces.imp_of_mem fun i hi j hLeads => ?_
      rw [GeometryData.firstOfGroup_eq hCounted (hRange i hi)]
      exact influences_apply hSite hShape.symm hPlan hLeads
    exact ⟨_, _, hBefore, (Document.geometry_eq_ok_iff _).2 (RemovalSite.get?_apply_data hSite),
      hInherits, hInherits.iff_of_inherits,
      .inr ⟨_, leavesFirsts_of_plan hPlan, weightsFollow_apply hSite hShape.symm hPlan⟩⟩

end

/-- No other shape shows the geometry of a shape or is moved by its skin data. -/
structure Document.SoleShape (d : Document) (shape data : BlockId) : Prop where
  geometry : ∀ other, d.shapeData? other = some data → other = shape
  skin : ∀ skin, d.skinDataOf? shape = some skin →
    ∀ other, d.skinDataOf? other = some skin → other = shape

/-- A skinned triangle with a corner at vertex 3, which equals vertex 1. The weights of its one bone
are of choice. -/
def mergedCorner (weights : List (VertexWeight .stored)) : Workspace where
  document := { slots := #[
    some (.shape { data := some ⟨1⟩, skinInstance := some ⟨2⟩ }),
    some (.geometry {
      numVertices := 4
      vertices := #[⟨0, 0, 0⟩, ⟨1, 0, 0⟩, ⟨0, 1, 0⟩, ⟨1, 0, 0⟩]
      triangles := [⟨.ofPosition 0, .ofPosition 3, .ofPosition 2⟩] }),
    some (.skinInstance { data := some ⟨3⟩ }),
    some (.skinData { bones := [⟨UInt16.ofNat weights.length, weights⟩] })] }

/-- Where the equal vertices have the same weight, the corner keeps it, and the weight of the second
one goes. -/
theorem removeDuplicates_influences_mergedCorner :
    let w := mergedCorner [⟨.ofPosition 1, 0.5⟩, ⟨.ofPosition 3, 0.5⟩]
    ∃ w' before after, (Operation.removeDuplicates.perform (some ⟨0⟩) 0).run w =
        (.ok ⟨[.mergedVertices 1, .removedVertices 1 3, .prunedWeights 1]⟩, w') ∧
      w.document.geometry ⟨1⟩ = .ok before ∧ w'.document.geometry ⟨1⟩ = .ok after ∧
      Inherits w.document w'.document ⟨0⟩ before after id ∧
      ∃ kept, 3 ∉ kept ∧ LeavesFirsts before after kept ∧
        WeightsFollow w.document w'.document ⟨0⟩ after kept := by
  intro w
  have hRun : (Operation.removeDuplicates.perform (some ⟨0⟩) 0).run w =
      (.ok ⟨[.mergedVertices 1, .removedVertices 1 3, .prunedWeights 1]⟩,
        ((Operation.removeDuplicates.perform (some ⟨0⟩) 0).run w).2) :=
    Prod.ext (by decide +kernel) rfl
  have hSelected : w.document.selectedData? (some ⟨0⟩) = some (some ⟨0⟩, ⟨1⟩) := rfl
  obtain ⟨before, after, hBefore, hAfter, -, hIff, hWeights⟩ :=
    removeDuplicates_influences hRun hSelected
  have hMerged : before.firstOfGroup 3 ≠ 3 := by
    cases hBefore
    decide +kernel
  have hSame : ∀ i ∈ references before.triangles before.strips,
      w.document.influences ⟨0⟩ (before.firstOfGroup i.position) =
        w.document.influences ⟨0⟩ i.position := by
    cases hBefore
    decide +kernel
  refine ⟨_, before, after, hRun, hBefore, hAfter, hIff.2 hSame, ?_⟩
  rcases hWeights with ⟨-, hFirst⟩ | ⟨kept, hLeaves, hFollow⟩
  · exact absurd (hFirst 3) hMerged
  · exact ⟨kept, fun h => hMerged (hLeaves.first 3 h), hLeaves, hFollow⟩

private theorem eq_of_linked?_mergedCorner {weights : List (VertexWeight .stored)} {l : Link}
    (hLink : l = .geometry ∨ l = .skinInstance) {other target : BlockId}
    (h : (mergedCorner weights).document.linked? l other = some target) : other = ⟨0⟩ := by
  obtain ⟨hField, -⟩ := Document.follow?_eq_some_iff.1 h
  obtain ⟨b, hGet, hField⟩ := Option.bind_eq_some_iff.1 hField
  obtain ⟨number⟩ := other
  rw [Document.get?, Document.slot, Option.join_eq_some_iff] at hGet
  have hLess : number.toNat < 4 := (Array.getElem?_eq_some_iff.1 hGet).1
  obtain hSlot | hSlot | hSlot | hSlot :
      number.toNat = 0 ∨ number.toNat = 1 ∨ number.toNat = 2 ∨ number.toNat = 3 := by omega
  · rw [UInt32.toNat_inj.1 (hSlot.trans UInt32.toNat_zero.symm)]
  all_goals
    rw [hSlot] at hGet
    cases hGet
    rcases hLink with rfl | rfl <;> cases hField

private theorem soleShape_mergedCorner (weights : List (VertexWeight .stored)) :
    (mergedCorner weights).document.SoleShape ⟨0⟩ ⟨1⟩ where
  geometry other h := by
    rw [Document.shapeData?_eq] at h
    exact eq_of_linked?_mergedCorner (.inl rfl) h
  skin skin _ other h := by
    obtain ⟨inst, hInstance, -⟩ := Option.bind_eq_some_iff.1 h
    rw [Document.skinInstance?_eq] at hInstance
    exact eq_of_linked?_mergedCorner (.inr rfl) hInstance

/-- Where only the second one has a weight, the corner loses it, although no other shape is
involved. -/
theorem influences_lost_mergedCorner :
    let w := mergedCorner [⟨.ofPosition 3, 0.5⟩]
    w.document.SoleShape ⟨0⟩ ⟨1⟩ ∧
      ∃ w' before after, (Operation.removeDuplicates.perform (some ⟨0⟩) 0).run w =
          (.ok ⟨[.mergedVertices 1, .removedVertices 1 3, .prunedWeights 1]⟩, w') ∧
        w.document.geometry ⟨1⟩ = .ok before ∧ w'.document.geometry ⟨1⟩ = .ok after ∧
        ¬ Inherits w.document w'.document ⟨0⟩ before after id := by
  intro w
  let w' := ((Operation.removeDuplicates.perform (some ⟨0⟩) 0).run w).2
  have hAfter : w'.document.get? ⟨1⟩ = some (.geometry {
      numVertices := 3
      vertices := #[⟨0, 0, 0⟩, ⟨1, 0, 0⟩, ⟨0, 1, 0⟩]
      triangles := [⟨.ofPosition 0, .ofPosition 1, .ofPosition 2⟩] }) := by decide +kernel
  refine ⟨soleShape_mergedCorner _, w', _, _, Prod.ext (by decide +kernel) rfl, rfl,
    (Document.geometry_eq_ok_iff _).2 hAfter, fun hInherits => ?_⟩
  have hLost : w'.document.influences ⟨0⟩ 1 ≠ w.document.influences ⟨0⟩ 3 := by decide +kernel
  cases hInherits.triangles with
  | cons hCorners _ => exact hLost hCorners.b

end IndexedMesh
