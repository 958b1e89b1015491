import IndexedMesh.Proofs.Perform

/-!
# Removing unused vertices keeps the meaning of a mesh

Only vertices that no face refers to go, so the surface has to look as it did: each corner and each
element of a strip refers to a vertex with the same entries in all channels, bit for bit. What is
left of the weights has to mean the same as well, and all that declares a number of vertices has to
declare the new one.

## Main results

* `SameSurface` — two geometries show the same surface, over a list of kept vertices.
* `SameWeights` — two bones move the same vertices, as far as they were kept.
* `removeUnused_same_meaning` — after the removal of unused vertices both is the case.
-/

namespace IndexedMesh

/-- The index `j` into one geometry is for the vertex that `i` is for in the other. -/
structure SameVertex (before after : GeometryData) (kept : List Nat) (i j : Index .stored) :
    Prop where
  place : kept[j.position]? = some i.position
  inRange : j.position < after.vertices.size
  entries : after.arrays.entries j.position = before.arrays.entries i.position

/-- The geometry `after` shows what `before` shows, with the vertices of a list and no others. -/
structure SameSurface (before after : GeometryData) (kept : List Nat) : Prop where
  ascending : kept.Pairwise (· < ·)
  referenced : ∀ p, p ∈ kept ↔
    ∃ i ∈ references before.triangles before.strips, i.position = p
  distinct : kept.length =
    ((references before.triangles before.strips).map Index.position).toFinset.card
  triangles : List.Forall₂ (Triangle.Relates (SameVertex before after kept))
    before.triangles after.triangles
  strips : List.Forall₂ (List.Forall₂ (SameVertex before after kept)) before.strips after.strips
  entries : ∀ k p, kept[k]? = some p → after.arrays.entries k = before.arrays.entries p
  declared : after.numVertices.toNat = kept.length
  vertices : after.vertices.size = kept.length
  normals : after.normals.size = if before.normals.size = 0 then 0 else kept.length
  colors : after.vertexColors.size = if before.vertexColors.size = 0 then 0 else kept.length
  uvSets : after.uvSets.map Array.size =
    before.uvSets.map fun set => if set.size = 0 then 0 else kept.length

/-- A weight with the same value on the same vertex. -/
structure SameWeight (before after : GeometryData) (kept : List Nat)
    (w v : VertexWeight .stored) : Prop where
  vertex : SameVertex before after kept w.index v.index
  weight : v.weight = w.weight

/-- The weights of a bone on the vertices that were kept, in order, with their number declared. -/
structure SameWeights (before after : GeometryData) (kept : List Nat) (old new : BoneData) :
    Prop where
  weights : List.Forall₂ (SameWeight before after kept)
    (old.vertexWeights.filter (·.index.position ∈ kept)) new.vertexWeights
  declared : new.numVertices.toNat = new.vertexWeights.length

section

variable {site : RemovalSite} {out : Stripped .stored}

private theorem sameVertex_of_leads {kept : List Nat}
    (hArrays : VertexArrays.Selects site.mesh.arrays out.mesh.arrays kept)
    {i j : Index .stored} (h : kept[j.position]? = some i.position) :
    SameVertex site.geometry (site.geometry.withMesh out.mesh) kept i j where
  place := h
  inRange := by
    have hSize : (site.geometry.withMesh out.mesh).vertices.size = kept.length := hArrays.size
    rw [hSize]
    exact (List.getElem?_eq_some_iff.1 h).1
  entries := hArrays.entries _ _ h

/-- **The surface after the plan is carried out.** -/
theorem sameSurface_of_plan (hPlan : site.plan false = .ok (some out)) :
    SameSurface site.geometry (site.geometry.withMesh out.mesh) (site.mesh.kept false) := by
  have hMesh := RemovalSite.renumbered_of_plan hPlan
  have hCounts := RemovalSite.counts_of_plan hPlan
  obtain ⟨hCounted, hRange, hOut, _⟩ := (RemovalSite.plan_eq_ok_some_iff _ _ _).1 hPlan
  have hDeclared := RemovalSite.size_lt_of_stripped hCounted hOut
  refine
    { ascending := hMesh.ascending
      referenced := hMesh.mem_kept
      distinct := Mesh.length_kept (IndexType.stored_addresses _) hRange false
      triangles := ?_
      strips := ?_
      entries := hMesh.arrays.entries
      declared := ?_
      vertices := hMesh.arrays.size
      normals := hMesh.arrays.normals
      colors := hMesh.arrays.colors
      uvSets := hMesh.arrays.texcoords }
  · refine hMesh.triangles.imp fun f g h => ?_
    exact
      { a := sameVertex_of_leads hMesh.arrays h.a
        b := sameVertex_of_leads hMesh.arrays h.b
        c := sameVertex_of_leads hMesh.arrays h.c }
  · refine hMesh.strips.imp fun old new h => h.imp fun i j hLeads => ?_
    exact sameVertex_of_leads hMesh.arrays hLeads
  · show (UInt16.ofNat out.mesh.arrays.size).toNat = _
    rw [UInt16.toNat_ofNat_of_lt' hDeclared, hCounts.remaining]

/-- The weights that a bone keeps are on the vertices that they were on. -/
theorem sameWeights_of_keeps
    (hArrays : VertexArrays.Selects site.mesh.arrays out.mesh.arrays (site.mesh.kept false))
    {old new : BoneData} (hKeeps : BoneData.KeepsWeights (site.mesh.kept false) old new) :
    SameWeights site.geometry (site.geometry.withMesh out.mesh) (site.mesh.kept false) old new where
  weights := by
    refine hKeeps.weights.imp fun w v h => ?_
    exact { vertex := sameVertex_of_leads hArrays h.index, weight := h.weight }
  declared := hKeeps.declared

end

variable {w w' : Workspace} {selection : Selection} {mode : Nat} {outcome : Outcome}

/-- From `d` to `d'` the selected geometry lost some vertices and no meaning, and neither did the
skin data that its shape reaches. -/
def SameMeaning (d d' : Document) (selection : Selection) (removed remaining : Nat) : Prop :=
  ∃ shape data before after kept,
    d.selectedData? selection = some (shape, data) ∧
    d.geometry data = .ok before ∧ d'.geometry data = .ok after ∧
    SameSurface before after kept ∧
    remaining = kept.length ∧ removed + remaining = before.vertices.size ∧
    ∀ skin, shape.bind d.skinDataOf? = some skin →
      ∃ old new, d.skinData skin = .ok old ∧ d'.skinData skin = .ok new ∧
        List.Forall₂ (SameWeights before after kept) old.bones new.bones

/-- **Removing unused vertices keeps the meaning of a mesh.** -/
theorem removeUnused_same_meaning {removed remaining : Nat}
    (hRun : (Operation.removeUnused.perform selection mode).run w = (.ok outcome, w'))
    (hRemoved : .removedVertices removed remaining ∈ outcome.notices) :
    SameMeaning w.document w'.document selection removed remaining := by
  have hRemoval : ((Operation.removal false).perform selection mode).run w = _ := hRun
  rcases Operation.removal_ok_cases hRemoval with
    ⟨hOutcome, _⟩ | ⟨site, out, hSite, hSelected, hPlan, hOutcome, hAfter⟩
  · rw [hOutcome] at hRemoved
    cases hRemoved with
    | tail _ h => cases h
  · subst hOutcome hAfter
    obtain ⟨rfl, rfl⟩ := (site.removedVertices_mem_notices out _ _).1 hRemoved
    have hCounts := RemovalSite.counts_of_plan hPlan
    refine ⟨site.shape, site.data, site.geometry, site.geometry.withMesh out.mesh,
      site.mesh.kept false, hSelected, ?_, ?_, sameSurface_of_plan hPlan, hCounts.remaining, ?_, ?_⟩
    · exact (Document.geometry_eq_ok_iff _).2 hSite.geometry
    · exact (Document.geometry_eq_ok_iff _).2 (RemovalSite.get?_apply_data hSite)
    · rw [hCounts.remaining]
      exact hCounts.removed
    · intro skin hReached
      obtain ⟨old, new, hOld, hNew, hKeeps⟩ :=
        RemovalSite.exists_skinData_of_plan hSite hPlan hReached
      have hArrays := (RemovalSite.renumbered_of_plan hPlan).arrays
      exact ⟨old, new, hOld, hNew, hKeeps.imp fun _ _ => sameWeights_of_keeps hArrays⟩

/-- A skinned triangle with a vertex that no face refers to, but a bone does. -/
def looseVertex : Workspace where
  document := { slots := #[
    some (.shape { data := some ⟨1⟩, skinInstance := some ⟨2⟩ }),
    some (.geometry {
      numVertices := 4
      vertices := #[⟨0, 0, 0⟩, ⟨9, 9, 9⟩, ⟨1, 0, 0⟩, ⟨0, 1, 0⟩]
      uvSets := [#[], #[⟨0, 0⟩, ⟨9, 9⟩, ⟨1, 0⟩, ⟨0, 1⟩]]
      triangles := [⟨.ofPosition 0, .ofPosition 2, .ofPosition 3⟩] }),
    some (.skinInstance { data := some ⟨3⟩ }),
    some (.skinData { bones := [⟨2, [⟨.ofPosition 1, 1⟩, ⟨.ofPosition 3, 1⟩]⟩] })] }

theorem removeUnused_same_meaning_looseVertex :
    SameMeaning looseVertex.document
      ((Operation.removeUnused.perform (some ⟨0⟩) 0).run looseVertex).2.document
      (some ⟨0⟩) 1 3 := by
  have hRun : (Operation.removeUnused.perform (some ⟨0⟩) 0).run looseVertex =
      (.ok ⟨[.removedVertices 1 3, .prunedWeights 1]⟩,
        ((Operation.removeUnused.perform (some ⟨0⟩) 0).run looseVertex).2) :=
    Prod.ext (by decide +kernel) rfl
  exact removeUnused_same_meaning hRun (by decide)

end IndexedMesh
