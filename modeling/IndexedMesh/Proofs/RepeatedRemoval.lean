import IndexedMesh.Proofs.Consistency
import IndexedMesh.Proofs.Influences

/-!
# Removing vertices again

A removal of vertices leaves nothing to do for itself, and one that merges duplicates leaves nothing
to do for one that does not. Nothing is left to do at a geometry if it has no vertex at all, which
is how a removal leaves one without faces, or if some reference is sent to each of its vertices.

Unused vertices can be removed before duplicates are merged or together with them. The numbers are
not the same on both ways, and neither need the vertices be: the first one of a group may be unused,
and then it remains only if it was still there to merge the others into. What the two ways agree on
is how many groups there are, and the group of each corner.

## Main results

* `RemovalSite.Idle` — a removal has nothing to do.
* `Operation.run_again` — what a removal has left, it and every lesser one leave as it is.
* `Condenses` — what a removal makes of the faces, whether it had anything to do or not.
* `SameSurfaceUpToEquals` — two geometries have as many vertices, and equal ones at their corners.
* `removals_settle` — **removals are idempotent, and their order does not matter.**
-/

namespace IndexedMesh

/-! ## Nothing to do -/

namespace RemovalSite

variable {site again : RemovalSite} {out : Stripped .stored} {mergeDuplicates : Bool}

/-- A removal has nothing to do at a site: there is no vertex, or the plan is to remove none. -/
def Idle (site : RemovalSite) (mergeDuplicates : Bool) : Prop :=
  site.geometry.arrays.size = 0 ∨ site.plan mergeDuplicates = .ok none

/-- A removal that has nothing to do would not remove anything from the mesh. -/
theorem Idle.stripped_eq_none (h : site.Idle mergeDuplicates) (hRange : site.mesh.InRange) :
    site.mesh.stripped mergeDuplicates = none := by
  rcases h with hEmpty | hPlan
  · refine (Mesh.stripped_eq_none_iff_target (IndexType.stored_addresses _) hRange _).2 ?_
    intro p hp
    have hNone : p < 0 := hEmpty ▸ hp
    exact absurd hNone (Nat.not_lt_zero p)
  · exact ((plan_eq_ok_none_iff _ _).1 hPlan).2.2

/-- A removal has nothing to do if some reference is sent to each vertex. -/
theorem idle_of_target (hSound : site.geometry.Sound)
    (h : ∀ p < site.geometry.vertices.size,
      ∃ i ∈ references site.geometry.triangles site.geometry.strips,
        site.mesh.target mergeDuplicates i.position = p) : site.Idle mergeDuplicates := by
  by_cases hEmpty : site.geometry.arrays.size = 0
  · exact .inl hEmpty
  · refine .inr ((plan_eq_ok_none_iff _ _).2 ⟨?_, hSound.inRange, ?_⟩)
    · exact { nonempty := hEmpty, declared := hSound.declared, aligned := hSound.aligned }
    · exact (Mesh.stripped_eq_none_iff_target (m := site.mesh) (IndexType.stored_addresses _)
        hSound.inRange _).2 h

/-- If there is nothing to do with merging, there is nothing to do without. -/
theorem Idle.of_true (h : site.Idle true) : site.Idle false := by
  rcases h with hEmpty | hPlan
  · exact .inl hEmpty
  · obtain ⟨hCounted, hRange, hNone⟩ := (plan_eq_ok_none_iff _ _).1 hPlan
    refine .inr ((plan_eq_ok_none_iff _ _).2 ⟨hCounted, hRange, ?_⟩)
    have hType := IndexType.stored_addresses site.mesh.arrays.size
    refine (Mesh.stripped_eq_none_iff_target hType hRange false).2 fun p hp => ?_
    obtain ⟨i, hi, hTarget⟩ := (Mesh.stripped_eq_none_iff_target hType hRange true).1 hNone p hp
    rw [Mesh.target_eq_self hType hRange hNone (hRange i hi)] at hTarget
    exact ⟨i, hi, hTarget⟩

private theorem representative_of_plan (hPlan : site.plan true = .ok (some out)) {p : Nat}
    (hp : p < out.mesh.arrays.size) : out.mesh.arrays.representative p = p := by
  have hSurface := mergedSurface_of_plan hPlan
  have hAligned := (renumbered_of_plan hPlan).arrays.aligned
  have hNone : out.mesh.arrays.earlier? p = none := by
    rw [VertexArrays.earlier?_eq_none_iff]
    intro q hq hEqual
    have hDiffers : out.mesh.arrays.same? q p = some false :=
      hSurface.distinct q p (Nat.lt_trans hq hp) hp (Nat.ne_of_lt hq)
    rw [VertexArrays.same?_eq hAligned (Nat.lt_trans hq hp) hp] at hDiffers
    exact Bool.false_ne_true ((Option.some.inj hDiffers).symm.trans hEqual)
  rw [VertexArrays.representative, hNone]
  rfl

/-- **Where a plan has been carried out, there is nothing left to do**, nor for a removal that
merges only if that one did. -/
theorem idle_of_plan (hPlan : site.plan mergeDuplicates = .ok (some out))
    (hGeometry : again.geometry = site.geometry.withMesh out.mesh) {mergeAgain : Bool}
    (hAgain : mergeAgain = true → mergeDuplicates = true) : again.Idle mergeAgain := by
  refine idle_of_target (hGeometry ▸ Document.Consistent.sound_withMesh hPlan) ?_
  intro p hp
  have hArrays : again.geometry.arrays = out.mesh.arrays := by
    rw [hGeometry]
    rfl
  have hLess : p < out.mesh.arrays.size := hArrays ▸ hp
  obtain ⟨j, hj, rfl⟩ := (renumbered_of_plan hPlan).used hLess
  rw [hGeometry]
  refine ⟨j, hj, ?_⟩
  cases mergeAgain with
  | false => rfl
  | true =>
      obtain rfl := hAgain rfl
      show again.geometry.arrays.representative _ = _
      rw [hArrays]
      exact representative_of_plan hPlan hLess

end RemovalSite

/-! ## Removing again -/

namespace Operation

variable {w w' : Workspace} {selection : Selection} {mode : Nat} {mergeDuplicates : Bool}
  {outcome : Outcome} {site : RemovalSite}

/-- A removal that has nothing to do says so, and changes nothing. -/
theorem run_perform_of_idle (hSite : site.In w.document)
    (hSelected : w.document.selectedData? selection = some (site.shape, site.data))
    (hMode : mode = 0) (hIdle : site.Idle mergeDuplicates) :
    ((removal mergeDuplicates).perform selection mode).run w =
      (.ok { notices := [.nothingToDo] }, w) := by
  have hApplies := (applies_removal_iff w.document mergeDuplicates).2 ⟨site, hSite, hSelected⟩
  rw [run_perform, if_neg (by simp [hApplies]), if_neg (by rw [modeCount_removal]; omega),
    run_edit_removal hSite hSelected]
  rcases hIdle with hEmpty | hPlan
  · have hCheck : site.geometry.check = .error .emptyInput := if_pos hEmpty
    rw [RemovalSite.plan, hCheck]
  · rw [hPlan]

/-- A removal that succeeds has been asked for in its only mode. -/
theorem mode_of_removal_ok
    (hRun : ((removal mergeDuplicates).perform selection mode).run w = (.ok outcome, w')) :
    mode = 0 := by
  rw [run_perform] at hRun
  split at hRun
  · cases hRun
  · split at hRun
    · cases hRun
    · next hMode =>
      rw [modeCount_removal] at hMode
      omega

/-- A removal that succeeds leaves the selection as it is. -/
theorem selectedData?_of_removal_ok
    (hRun : ((removal mergeDuplicates).perform selection mode).run w = (.ok outcome, w')) :
    w'.document.selectedData? selection = w.document.selectedData? selection := by
  obtain ⟨site, hSite, -, ⟨-, -, rfl⟩ | ⟨out, -, -, rfl⟩⟩ := removal_ok_plan hRun
  · rfl
  · exact RemovalSite.selectedData?_apply hSite selection

/-- **What a removal has left, it leaves as it is**, and so does one that merges only if it did. -/
theorem run_again
    (hRun : ((removal mergeDuplicates).perform selection mode).run w = (.ok outcome, w'))
    {mergeAgain : Bool} (hAgain : mergeAgain = true → mergeDuplicates = true) :
    ((removal mergeAgain).perform selection mode).run w' =
      (.ok { notices := [.nothingToDo] }, w') := by
  have hMode := mode_of_removal_ok hRun
  have hSelection := selectedData?_of_removal_ok hRun
  obtain ⟨site, hSite, hSelected, ⟨hIdle, -, rfl⟩ | ⟨out, hPlan, -, rfl⟩⟩ := removal_ok_plan hRun
  · refine run_perform_of_idle hSite hSelected hMode ?_
    cases mergeAgain with
    | true => exact hAgain rfl ▸ hIdle
    | false =>
        cases mergeDuplicates with
        | true => exact RemovalSite.Idle.of_true hIdle
        | false => exact hIdle
  · have hGet : (site.apply out w.document).get? site.data =
        some (.geometry (site.geometry.withMesh out.mesh)) := RemovalSite.get?_apply_data hSite
    obtain ⟨again, hShape, hData, hGeometry, hAfter⟩ := RemovalSite.exists_in site.shape hGet
    refine run_perform_of_idle hAfter ?_ hMode (RemovalSite.idle_of_plan hPlan hGeometry hAgain)
    rw [hSelection, hSelected, hShape, hData]

end Operation

/-! ## What a removal makes of the faces -/

/-- The faces of `after` are those of `before` after each reference to `p` has become one to
`target p`, and its vertices are those that are referred to then, as a list says. -/
structure Condenses (before after : GeometryData) (target : Nat → Nat) (kept : List Nat) :
    Prop where
  ascending : kept.Pairwise (· < ·)
  mem_kept : ∀ p, p ∈ kept ↔
    ∃ i ∈ references before.triangles before.strips, target i.position = p
  faces : FacesRelate (Mesh.Leads kept target) before after
  arrays : VertexArrays.Selects before.arrays after.arrays kept

/-- As many vertices remain as references are sent to. -/
theorem Condenses.size_eq {before after : GeometryData} {target : Nat → Nat} {kept : List Nat}
    (h : Condenses before after target kept) :
    after.vertices.size = ((references before.triangles before.strips).map fun i =>
      target i.position).toFinset.card := by
  have hSize : after.vertices.size = kept.length := h.arrays.size
  rw [hSize, Mesh.length_eq_card_target (h.ascending.imp Nat.ne_of_lt) h.mem_kept]

/-- All references are to vertices that remain. -/
theorem Condenses.inRange {before after : GeometryData} {target : Nat → Nat} {kept : List Nat}
    (h : Condenses before after target kept) :
    ∀ j ∈ references after.triangles after.strips, j.position < after.vertices.size := by
  have hSize : after.vertices.size = kept.length := h.arrays.size
  rw [hSize]
  exact Mesh.lt_length_of_leads h.faces.references

namespace RemovalSite

variable {site : RemovalSite} {out : Stripped .stored} {mergeDuplicates : Bool}

/-- A removal that has nothing to do keeps all vertices in their places. -/
theorem condenses_of_idle (hAligned : site.geometry.arrays.Aligned)
    (hRange : site.mesh.InRange) (hIdle : site.Idle mergeDuplicates) :
    Condenses site.geometry site.geometry (site.mesh.target mergeDuplicates)
      (site.mesh.kept mergeDuplicates) := by
  have hType := IndexType.stored_addresses site.mesh.arrays.size
  have hNone := hIdle.stripped_eq_none hRange
  have hFull := (Mesh.isFull_keep_iff _ _).2 ((Mesh.stripped_eq_none_iff _ _).1 hNone)
  have hKept : site.mesh.kept mergeDuplicates = List.range site.geometry.arrays.size := by
    rw [Mesh.kept, VertexSet.positions_of_isFull hFull, Mesh.size_keep, Mesh.arrays_prepared]
    rfl
  refine
    { ascending := VertexSet.positions_pairwise _
      mem_kept := Mesh.mem_kept_iff hType hRange mergeDuplicates
      faces := (FacesRelate.refl _).imp_of_mem fun i hi j hSame => ?_
      arrays := hKept ▸ VertexArrays.selects_range hAligned }
  have hLess : i.position < site.geometry.arrays.size := hRange i hi
  rw [Mesh.Leads, Mesh.target_eq_self hType hRange hNone hLess, hKept, ← hSame,
    List.getElem?_range hLess]

/-- A plan condenses the faces. -/
theorem condenses_of_plan (hPlan : site.plan mergeDuplicates = .ok (some out)) :
    Condenses site.geometry (site.geometry.withMesh out.mesh)
      (site.mesh.target mergeDuplicates) (site.mesh.kept mergeDuplicates) := by
  have hMesh := renumbered_of_plan hPlan
  exact
    { ascending := hMesh.ascending
      mem_kept := hMesh.mem_kept
      faces := { triangles := hMesh.triangles, strips := hMesh.strips }
      arrays := hMesh.arrays }

end RemovalSite

/-- What a removal that succeeds makes of the selected geometry. If there is a vertex, the arrays
and the faces have passed their checks, and otherwise nothing has been changed. -/
private theorem Operation.exists_condensed {w w' : Workspace} {selection : Selection} {mode : Nat}
    {mergeDuplicates : Bool} {outcome : Outcome}
    (hRun : ((removal mergeDuplicates).perform selection mode).run w = (.ok outcome, w')) :
    ∃ shape data before after, w.document.selectedData? selection = some (shape, data) ∧
      w.document.geometry data = .ok before ∧ w'.document.geometry data = .ok after ∧
      (before.vertices.size = 0 → w' = w) ∧
      (before.vertices.size ≠ 0 → before.arrays.Aligned ∧ (before.mesh []).InRange) ∧
      (before.arrays.Aligned → (before.mesh []).InRange →
        ∃ kept, Condenses before after ((before.mesh []).target mergeDuplicates) kept) := by
  obtain ⟨site, hSite, hSelected, ⟨hIdle, -, rfl⟩ | ⟨out, hPlan, -, rfl⟩⟩ := removal_ok_plan hRun
  · have hGeometry := (Document.geometry_eq_ok_iff _).2 hSite.geometry
    refine ⟨_, _, _, _, hSelected, hGeometry, hGeometry, fun _ => rfl, fun hNonempty => ?_,
      fun hAligned hRange => ⟨_, RemovalSite.condenses_of_idle hAligned hRange hIdle⟩⟩
    obtain ⟨hCounted, hRange, -⟩ :=
      (RemovalSite.plan_eq_ok_none_iff _ _).1 (hIdle.resolve_left hNonempty)
    exact ⟨hCounted.aligned, hRange⟩
  · obtain ⟨hCounted, hRange, -, -⟩ := (RemovalSite.plan_eq_ok_some_iff _ _ _).1 hPlan
    refine ⟨_, _, _, _, hSelected, (Document.geometry_eq_ok_iff _).2 hSite.geometry,
      (Document.geometry_eq_ok_iff _).2 (RemovalSite.get?_apply_data hSite),
      fun hEmpty => absurd hEmpty hCounted.nonempty, fun _ => ⟨hCounted.aligned, hRange⟩,
      fun _ _ => ⟨_, RemovalSite.condenses_of_plan hPlan⟩⟩

/-! ## Vertices that are as good as the same -/

/-- Two rows are equal, or something in them is not a number and they are the same bit for bit. -/
def VertexEntries.Matches (u v : VertexEntries) : Prop :=
  u.equals v = true ∨ u.hasNaN = true ∧ u = v

namespace VertexEntries.Matches

variable {u v w : VertexEntries}

theorem refl (u : VertexEntries) : u.Matches u := by
  by_cases hNaN : u.hasNaN = true
  · exact .inr ⟨hNaN, rfl⟩
  · exact .inl ((equals_self_iff u).2 (by simpa using hNaN))

theorem symm (h : u.Matches v) : v.Matches u := by
  rcases h with hEqual | ⟨hNaN, rfl⟩
  · exact .inl (equals_symm hEqual)
  · exact .inr ⟨hNaN, rfl⟩

theorem trans (huv : u.Matches v) (hvw : v.Matches w) : u.Matches w := by
  rcases huv with hEqual | ⟨-, rfl⟩
  · rcases hvw with hEqual' | ⟨-, rfl⟩
    · exact .inl (equals_trans hEqual hEqual')
    · exact .inl hEqual
  · exact hvw

end VertexEntries.Matches

/-- A vertex is as good as the one that stands for it. -/
theorem VertexArrays.matches_representative (arrays : VertexArrays) (p : Nat) :
    (arrays.entries (arrays.representative p)).Matches (arrays.entries p) := by
  by_cases hNaN : (arrays.entries p).hasNaN = true
  · rw [representative_eq_self hNaN]
    exact .refl _
  · exact .inl (equal_representative (by simpa using hNaN))

/-! ## The two ways -/

/-- Two geometries that come from one show the same surface, as far as equal vertices can be told
apart: they have as many vertices, corner by corner these are equal, and they are there if there
have been vertices at all. -/
structure SameSurfaceUpToEquals (before one other : GeometryData) : Prop where
  vertices : one.vertices.size = other.vertices.size
  faces : FacesRelate (fun j k =>
    (one.arrays.entries j.position).Matches (other.arrays.entries k.position)) one other
  inRange : before.vertices.size ≠ 0 →
    (∀ j ∈ references one.triangles one.strips, j.position < one.vertices.size) ∧
      ∀ k ∈ references other.triangles other.strips, k.position < other.vertices.size

section

variable {g g₁ g₂ g₃ : GeometryData} {kept₁ kept₂ kept₃ : List Nat}

/-- Vertices that remain have a common representative exactly if they had one before. -/
private theorem representative_eq_iff_of_leads {target : Nat → Nat}
    (h : Condenses g g₁ target kept₁) (hTarget : ∀ p, target p = p) {i j i' j' : Index .stored}
    (hLeads : Mesh.Leads kept₁ target i j) (hLeads' : Mesh.Leads kept₁ target i' j') :
    g.arrays.representative i.position = g.arrays.representative i'.position ↔
      g₁.arrays.representative j.position = g₁.arrays.representative j'.position := by
  rw [Mesh.Leads, hTarget] at hLeads hLeads'
  have hLess := (List.getElem?_eq_some_iff.1 hLeads).1
  have hPlaces : i.position = i'.position ↔ j.position = j'.position := by
    rw [← List.getElem?_inj hLess (h.ascending.imp Nat.ne_of_lt), hLeads, hLeads',
      Option.some.injEq]
  rw [VertexArrays.representative_eq_iff, VertexArrays.representative_eq_iff, hPlaces,
    VertexArrays.equal, VertexArrays.equal, h.arrays.entries _ _ hLeads,
    h.arrays.entries _ _ hLeads']

/-- **Removing unused vertices before merging leads to the same surface as merging at once.** -/
theorem sameSurface_of_condenses (hUnused : Condenses g g₁ ((g.mesh []).target false) kept₁)
    (hThen : Condenses g₁ g₂ ((g₁.mesh []).target true) kept₂)
    (hAtOnce : Condenses g g₃ ((g.mesh []).target true) kept₃) :
    SameSurfaceUpToEquals g g₂ g₃ := by
  refine
    { vertices := ?_
      faces := ?_
      inRange := fun _ => ⟨hThen.inRange, hAtOnce.inRange⟩ }
  · rw [hThen.size_eq, hAtOnce.size_eq]
    refine (card_toFinset_map_eq (fun i j i' j' hLeads hLeads' => ?_)
      hUnused.faces.references).symm
    exact representative_eq_iff_of_leads hUnused (fun _ => rfl) hLeads hLeads'
  · -- From a corner of `g₂` back to the one of `g`, and from there to the one of `g₃`.
    refine ((hUnused.faces.trans hThen.faces).symm.trans hAtOnce.faces).imp_of_mem ?_
    rintro k - l ⟨i, ⟨j, hij, hjk⟩, hil⟩
    rw [hThen.arrays.entries _ _ hjk, hAtOnce.arrays.entries _ _ hil]
    have hSame : g₁.arrays.entries j.position = g.arrays.entries i.position :=
      hUnused.arrays.entries _ _ hij
    have hFirst := g₁.arrays.matches_representative j.position
    rw [hSame] at hFirst
    exact hFirst.trans (g.arrays.matches_representative i.position).symm

end

/-- **Removals are idempotent, and their order does not matter.** After a removal of unused vertices
there are none to remove. After a removal of duplicates there is nothing to do for either removal.
If unused vertices are removed first and duplicates after them, as many vertices remain as if
duplicates are removed at once, and each corner of a triangle and each element of a strip refers to
an equal vertex, or to the same one if it holds something that is not a number. -/
theorem removals_settle (w : Workspace) (selection : Selection) (mode : Nat) :
    (∀ outcome w', (Operation.removeUnused.perform selection mode).run w = (.ok outcome, w') →
      (Operation.removeUnused.perform selection mode).run w' =
        (.ok { notices := [.nothingToDo] }, w')) ∧
    (∀ outcome w', (Operation.removeDuplicates.perform selection mode).run w = (.ok outcome, w') →
      (Operation.removeDuplicates.perform selection mode).run w' =
        (.ok { notices := [.nothingToDo] }, w') ∧
      (Operation.removeUnused.perform selection mode).run w' =
        (.ok { notices := [.nothingToDo] }, w')) ∧
    ∀ unused w₁ thenMerged w₂ merged w₃,
      (Operation.removeUnused.perform selection mode).run w = (.ok unused, w₁) →
      (Operation.removeDuplicates.perform selection mode).run w₁ = (.ok thenMerged, w₂) →
      (Operation.removeDuplicates.perform selection mode).run w = (.ok merged, w₃) →
        ∃ shape data before one other,
          w.document.selectedData? selection = some (shape, data) ∧
          w.document.geometry data = .ok before ∧ w₂.document.geometry data = .ok one ∧
          w₃.document.geometry data = .ok other ∧ SameSurfaceUpToEquals before one other := by
  refine ⟨fun outcome w' hRun => ?_, fun outcome w' hRun => ⟨?_, ?_⟩, ?_⟩
  · have hRemoval : ((Operation.removal false).perform selection mode).run w = _ := hRun
    show ((Operation.removal false).perform selection mode).run w' = _
    exact Operation.run_again hRemoval id
  · have hRemoval : ((Operation.removal true).perform selection mode).run w = _ := hRun
    show ((Operation.removal true).perform selection mode).run w' = _
    exact Operation.run_again hRemoval id
  · have hRemoval : ((Operation.removal true).perform selection mode).run w = _ := hRun
    show ((Operation.removal false).perform selection mode).run w' = _
    exact Operation.run_again hRemoval nofun
  · intro unused w₁ thenMerged w₂ merged w₃ hUnused hThen hAtOnce
    have hUnused : ((Operation.removal false).perform selection mode).run w = _ := hUnused
    have hThen : ((Operation.removal true).perform selection mode).run w₁ = _ := hThen
    have hAtOnce : ((Operation.removal true).perform selection mode).run w = _ := hAtOnce
    obtain ⟨shape, data, g, g₁, hSelected, hg, hg₁, hEmpty, hFits, hCondenses⟩ :=
      Operation.exists_condensed hUnused
    obtain ⟨_, _, _, g₂, hSelected₁, hGeometry₁, hg₂, hEmpty₁, -, hCondenses₁⟩ :=
      Operation.exists_condensed hThen
    obtain ⟨_, _, _, g₃, hSelected₃, hGeometry₃, hg₃, hEmpty₃, -, hCondenses₃⟩ :=
      Operation.exists_condensed hAtOnce
    -- All three work on one geometry.
    rw [Operation.selectedData?_of_removal_ok hUnused, hSelected] at hSelected₁
    cases hSelected₁
    cases hSelected.symm.trans hSelected₃
    cases hg₁.symm.trans hGeometry₁
    cases hg.symm.trans hGeometry₃
    refine ⟨shape, data, g, g₂, g₃, hSelected, hg, hg₂, hg₃, ?_⟩
    by_cases hVertices : g.vertices.size = 0
    · obtain rfl := hEmpty hVertices
      cases hg.symm.trans hg₁
      obtain rfl := hEmpty₁ hVertices
      obtain rfl := hEmpty₃ hVertices
      cases hg.symm.trans hg₂
      cases hg.symm.trans hg₃
      exact
        { vertices := rfl
          faces := (FacesRelate.refl g).imp_of_mem fun _ _ _ hSame => hSame ▸ .refl _
          inRange := fun hSome => absurd hVertices hSome }
    · obtain ⟨hAligned, hRange⟩ := hFits hVertices
      obtain ⟨kept₁, hCondensed⟩ := hCondenses hAligned hRange
      obtain ⟨kept₂, hCondensed₁⟩ := hCondenses₁ hCondensed.arrays.aligned hCondensed.inRange
      obtain ⟨kept₃, hCondensed₃⟩ := hCondenses₃ hAligned hRange
      exact sameSurface_of_condenses hCondensed hCondensed₁ hCondensed₃

/-- Two triangles with a common corner that is stored three times. The first of the three is unused,
and it has zeros of the other sign. One vertex is not a number. -/
def reusedCorner : Workspace where
  document := { slots := #[
    some (.geometry {
      numVertices := 6
      vertices := #[⟨-0.0, 0, 0⟩, ⟨1, 0, 0⟩, ⟨0, 0, 0⟩, ⟨0, 1, 0⟩, ⟨0, 0, 0⟩, ⟨0, 0 / 0, 0⟩]
      triangles := [⟨.ofPosition 2, .ofPosition 1, .ofPosition 3⟩,
        ⟨.ofPosition 4, .ofPosition 3, .ofPosition 5⟩] })] }

/-- The corner remains with zeros of one sign or of the other. -/
theorem removals_settle_reusedCorner :
    let remove (op : Operation) (w : Workspace) := (op.perform (some ⟨0⟩) 0).run w
    ∃ w₁ w₂ w₃, remove .removeUnused reusedCorner = (.ok ⟨[.removedVertices 1 5]⟩, w₁) ∧
      remove .removeUnused w₁ = (.ok ⟨[.nothingToDo]⟩, w₁) ∧
      remove .removeDuplicates w₁ = (.ok ⟨[.mergedVertices 1, .removedVertices 1 4]⟩, w₂) ∧
      remove .removeUnused w₂ = (.ok ⟨[.nothingToDo]⟩, w₂) ∧
      remove .removeDuplicates reusedCorner =
        (.ok ⟨[.mergedVertices 2, .removedVertices 2 4]⟩, w₃) ∧
      ∃ before one other, reusedCorner.document.geometry ⟨0⟩ = .ok before ∧
        w₂.document.geometry ⟨0⟩ = .ok one ∧ w₃.document.geometry ⟨0⟩ = .ok other ∧
        SameSurfaceUpToEquals before one other := by
  intro remove
  have hUnused : remove .removeUnused reusedCorner =
      (.ok ⟨[.removedVertices 1 5]⟩, (remove .removeUnused reusedCorner).2) :=
    Prod.ext (by decide +kernel) rfl
  have hThen : remove .removeDuplicates (remove .removeUnused reusedCorner).2 =
      (.ok ⟨[.mergedVertices 1, .removedVertices 1 4]⟩,
        (remove .removeDuplicates (remove .removeUnused reusedCorner).2).2) :=
    Prod.ext (by decide +kernel) rfl
  have hAtOnce : remove .removeDuplicates reusedCorner =
      (.ok ⟨[.mergedVertices 2, .removedVertices 2 4]⟩,
        (remove .removeDuplicates reusedCorner).2) :=
    Prod.ext (by decide +kernel) rfl
  obtain ⟨hAgain, -, hTwoWays⟩ := removals_settle reusedCorner (some ⟨0⟩) 0
  obtain ⟨-, hNothing, -⟩ := removals_settle (remove .removeUnused reusedCorner).2 (some ⟨0⟩) 0
  obtain ⟨shape, data, before, one, other, hSelected, hBefore, hOne, hOther, hSame⟩ :=
    hTwoWays _ _ _ _ _ _ hUnused hThen hAtOnce
  cases hSelected
  exact ⟨_, _, _, hUnused, hAgain _ _ hUnused, hThen, (hNothing _ _ hThen).2, hAtOnce,
    before, one, other, hBefore, hOne, hOther, hSame⟩

end IndexedMesh
