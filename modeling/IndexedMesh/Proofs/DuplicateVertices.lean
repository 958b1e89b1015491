import IndexedMesh.Proofs.Perform

/-!
# Removing duplicate vertices merges exactly the duplicates

The vertices of a mesh fall into groups of equal ones. Of each group that some face refers to, one
vertex remains, and it is the first of the group whether a face referred to that very one or not.
A vertex with a component that is not a number is a group by itself.

Equality is that of the comparison of vertices, `VertexArrays.same?`, which looks at every channel
that is present.

## Main results

* `GeometryData.group` — the group of a vertex.
* `MergedSurface` — one geometry is the other after merging, over a list of kept vertices.
* `removeDuplicates_merges_exactly` — so it is after the removal of duplicates, and what is told
  counts the merged vertices.
-/

namespace IndexedMesh

/-- Whether some vertex before `p` equals it. -/
def GeometryData.HasEarlierEqual (g : GeometryData) (p : Nat) : Prop :=
  ∃ q < p, g.arrays.same? q p = some true

instance (g : GeometryData) (p : Nat) : Decidable (g.HasEarlierEqual p) :=
  inferInstanceAs (Decidable (∃ q < p, g.arrays.same? q p = some true))

/-- The number of vertices that some vertex before them equals. -/
def GeometryData.earlierEquals (g : GeometryData) : Nat :=
  (List.range g.vertices.size).countP fun p => g.HasEarlierEqual p

/-- The vertices that equal a vertex, and the vertex itself. -/
def GeometryData.group (g : GeometryData) (p : Nat) : Finset Nat :=
  (Finset.range g.vertices.size).filter fun q => q = p ∨ g.arrays.same? q p = some true

/-- The index `j` into one geometry is for a vertex that equals the one that `i` is for in the
other, or, where that one equals nothing, for that very vertex. -/
structure EqualVertex (before after : GeometryData) (kept : List Nat) (i j : Index .stored) :
    Prop where
  inRange : j.position < after.vertices.size
  equal : (before.arrays.entries i.position).hasNaN = false →
    (after.arrays.entries j.position).equals (before.arrays.entries i.position) = true
  same : (before.arrays.entries i.position).hasNaN = true →
    kept[j.position]? = some i.position ∧
      after.arrays.entries j.position = before.arrays.entries i.position

/-- The geometry `after` is `before` with its duplicates merged, with the vertices of a list and no
others. -/
structure MergedSurface (before after : GeometryData) (kept : List Nat) : Prop where
  ascending : kept.Pairwise (· < ·)
  mem_kept : ∀ p, p ∈ kept ↔ p < before.vertices.size ∧ ¬ before.HasEarlierEqual p ∧
    ∃ i ∈ references before.triangles before.strips, i.position ∈ before.group p
  triangles : List.Forall₂ (Triangle.Relates (EqualVertex before after kept))
    before.triangles after.triangles
  strips : List.Forall₂ (List.Forall₂ (EqualVertex before after kept)) before.strips after.strips
  vertices : after.vertices.size = kept.length
  entries : ∀ k p, kept[k]? = some p → after.arrays.entries k = before.arrays.entries p
  distinct : ∀ a b, a < after.vertices.size → b < after.vertices.size → a ≠ b →
    after.arrays.same? a b = some false
  used : ∀ k < after.vertices.size,
    ∃ j ∈ references after.triangles after.strips, j.position = k
  groups : after.vertices.size = (((references before.triangles before.strips).map
    Index.position).toFinset.image before.group).card

section

variable {site : RemovalSite} {out : Stripped .stored}

/-- Among the vertices of a geometry the comparison decides equality. -/
theorem GeometryData.same?_eq_some_true_iff {g : GeometryData} (hCounted : g.Counted) {p q : Nat}
    (hp : p < g.vertices.size) (hq : q < g.vertices.size) :
    g.arrays.same? p q = some true ↔ g.arrays.equal p q = true :=
  VertexArrays.same?_eq_some_true_iff hCounted.aligned hp hq

private theorem hasEarlierEqual_iff {g : GeometryData} (hCounted : g.Counted) {p : Nat}
    (hp : p < g.vertices.size) :
    g.HasEarlierEqual p ↔ (g.arrays.earlier? p).isSome = true := by
  rw [VertexArrays.isSome_earlier?_iff]
  constructor
  · rintro ⟨q, hLess, hSame⟩
    exact ⟨q, hLess, (GeometryData.same?_eq_some_true_iff hCounted (by omega) hp).1 hSame⟩
  · rintro ⟨q, hLess, hEqual⟩
    exact ⟨q, hLess, (GeometryData.same?_eq_some_true_iff hCounted (by omega) hp).2 hEqual⟩

/-- A group is what has one representative. -/
private theorem mem_group_iff {g : GeometryData} (hCounted : g.Counted) {p q : Nat}
    (hp : p < g.vertices.size) (hq : q < g.vertices.size) :
    q ∈ g.group p ↔ g.arrays.representative q = g.arrays.representative p := by
  rw [VertexArrays.representative_eq_iff, GeometryData.group, Finset.mem_filter, Finset.mem_range,
    GeometryData.same?_eq_some_true_iff hCounted hq hp]
  simp only [hq, true_and]

private theorem group_eq_iff {g : GeometryData} (hCounted : g.Counted) {p q : Nat}
    (hp : p < g.vertices.size) (hq : q < g.vertices.size) :
    g.group p = g.group q ↔ g.arrays.representative p = g.arrays.representative q := by
  constructor
  · intro h
    have hMem : p ∈ g.group p := (mem_group_iff hCounted hp hp).2 rfl
    rw [h] at hMem
    exact (mem_group_iff hCounted hq hp).1 hMem
  · intro h
    ext r
    by_cases hr : r < g.vertices.size
    · rw [mem_group_iff hCounted hp hr, mem_group_iff hCounted hq hr, h]
    · simp only [GeometryData.group, Finset.mem_filter, Finset.mem_range, hr, false_and]

private theorem equalVertex_of_leads {kept : List Nat}
    (hArrays : VertexArrays.Selects site.mesh.arrays out.mesh.arrays kept)
    {i j : Index .stored} (h : Mesh.Leads kept site.mesh.arrays.representative i j) :
    EqualVertex site.geometry (site.geometry.withMesh out.mesh) kept i j where
  inRange := by
    have hSize : (site.geometry.withMesh out.mesh).vertices.size = kept.length := hArrays.size
    rw [hSize]
    exact (List.getElem?_eq_some_iff.1 h).1
  equal hNumber := by
    have hEntries : out.mesh.arrays.entries j.position =
        site.mesh.arrays.entries (site.mesh.arrays.representative i.position) :=
      hArrays.entries _ _ h
    show (out.mesh.arrays.entries j.position).equals _ = true
    rw [hEntries]
    exact VertexArrays.equal_representative hNumber
  same hNaN := by
    have hPlace : kept[j.position]? = some i.position := by
      rw [h]
      exact congrArg some (VertexArrays.representative_eq_self hNaN)
    exact ⟨hPlace, hArrays.entries _ _ hPlace⟩

/-- The first vertex of a group has no equal before it, and only the first has none. -/
private theorem not_hasEarlierEqual_iff {g : GeometryData} (hCounted : g.Counted) {p : Nat}
    (hp : p < g.vertices.size) :
    ¬ g.HasEarlierEqual p ↔ g.arrays.representative p = p := by
  rw [hasEarlierEqual_iff hCounted hp]
  constructor
  · intro hNone
    rw [VertexArrays.representative, Option.not_isSome_iff_eq_none.1 hNone]
    rfl
  · intro hSelf
    rw [← hSelf, VertexArrays.earlier?_representative]
    simp

private theorem representative_of_mem_kept (hPlan : site.plan true = .ok (some out)) {p : Nat}
    (hp : p ∈ site.mesh.kept true) :
    p < site.geometry.vertices.size ∧ site.geometry.arrays.representative p = p := by
  have hMesh := RemovalSite.renumbered_of_plan hPlan
  obtain ⟨_, hRange, _, _⟩ := (RemovalSite.plan_eq_ok_some_iff _ _ _).1 hPlan
  obtain ⟨i, hi, rfl⟩ := (hMesh.mem_kept p).1 hp
  exact ⟨Nat.lt_of_le_of_lt (VertexArrays.representative_le _ _) (hRange i hi),
    VertexArrays.representative_representative _ _⟩

/-- The first vertices of the groups that are referred to are kept. -/
private theorem mem_kept_iff_of_plan (hPlan : site.plan true = .ok (some out)) (p : Nat) :
    p ∈ site.mesh.kept true ↔
      p < site.geometry.vertices.size ∧ ¬ site.geometry.HasEarlierEqual p ∧
        ∃ i ∈ references site.geometry.triangles site.geometry.strips,
          i.position ∈ site.geometry.group p := by
  have hMesh := RemovalSite.renumbered_of_plan hPlan
  obtain ⟨hCounted, hRange, _, _⟩ := (RemovalSite.plan_eq_ok_some_iff _ _ _).1 hPlan
  constructor
  · intro hp
    obtain ⟨hLess, hSelf⟩ := representative_of_mem_kept hPlan hp
    obtain ⟨i, hi, hTarget⟩ := (hMesh.mem_kept p).1 hp
    refine ⟨hLess, (not_hasEarlierEqual_iff hCounted hLess).2 hSelf, i, hi, ?_⟩
    exact (mem_group_iff hCounted hLess (hRange i hi)).2 (hTarget.trans hSelf.symm)
  · rintro ⟨hLess, hNone, i, hi, hMem⟩
    have hSelf := (not_hasEarlierEqual_iff hCounted hLess).1 hNone
    have hTarget := (mem_group_iff hCounted hLess (hRange i hi)).1 hMem
    exact (hMesh.mem_kept p).2 ⟨i, hi, hTarget.trans hSelf⟩

private theorem distinct_of_plan (hPlan : site.plan true = .ok (some out)) {a b : Nat}
    (ha : a < out.mesh.arrays.size) (hb : b < out.mesh.arrays.size) (hNe : a ≠ b) :
    out.mesh.arrays.same? a b = some false := by
  have hArrays := (RemovalSite.renumbered_of_plan hPlan).arrays
  have hA : a < (site.mesh.kept true).length := hArrays.size ▸ ha
  have hB : b < (site.mesh.kept true).length := hArrays.size ▸ hb
  obtain ⟨_, hSelfA⟩ := representative_of_mem_kept hPlan (List.getElem_mem hA)
  obtain ⟨_, hSelfB⟩ := representative_of_mem_kept hPlan (List.getElem_mem hB)
  rw [VertexArrays.same?_eq hArrays.aligned ha hb,
    hArrays.entries _ _ (List.getElem?_eq_getElem hA),
    hArrays.entries _ _ (List.getElem?_eq_getElem hB), Option.some.injEq, ← Bool.not_eq_true]
  -- Equal vertices have one representative, and these are their own.
  intro hEqual
  have hCommon : site.mesh.arrays.representative _ = site.mesh.arrays.representative _ :=
    VertexArrays.representative_eq_of_equal hEqual
  have hPlaces : (site.mesh.kept true)[a] = (site.mesh.kept true)[b] :=
    hSelfA.symm.trans (hCommon.trans hSelfB)
  exact hNe ((List.Nodup.getElem_inj_iff (Mesh.kept_nodup _ _)).1 hPlaces)

/-- As many vertices remain as groups are referred to. -/
private theorem length_kept_eq_card_groups (hCounted : site.geometry.Counted)
    (hRange : site.mesh.InRange) :
    (site.mesh.kept true).length = (((references site.geometry.triangles
      site.geometry.strips).map Index.position).toFinset.image site.geometry.group).card := by
  have hImage : ((references site.geometry.triangles site.geometry.strips).map
      Index.position).toFinset.image site.geometry.group =
        ((references site.geometry.triangles site.geometry.strips).map fun i =>
          site.geometry.group i.position).toFinset := by
    ext group
    simp only [Finset.mem_image, List.mem_toFinset, List.mem_map, exists_exists_and_eq_and]
  rw [hImage, Mesh.length_kept (IndexType.stored_addresses _) hRange]
  -- References are told apart by their groups as by their representatives.
  have hSelf : List.Forall₂ (fun i j => i = j ∧ i.position < site.geometry.vertices.size)
      (references site.geometry.triangles site.geometry.strips) _ :=
    List.forall₂_same.2 fun i hi => ⟨rfl, hRange i hi⟩
  refine card_toFinset_map_eq ?_ hSelf
  rintro i _ j _ ⟨rfl, hi⟩ ⟨rfl, hj⟩
  exact (group_eq_iff hCounted hi hj).symm

/-- **The surface after the plan is carried out.** -/
theorem mergedSurface_of_plan (hPlan : site.plan true = .ok (some out)) :
    MergedSurface site.geometry (site.geometry.withMesh out.mesh) (site.mesh.kept true) := by
  have hMesh := RemovalSite.renumbered_of_plan hPlan
  obtain ⟨hCounted, hRange, _, _⟩ := (RemovalSite.plan_eq_ok_some_iff _ _ _).1 hPlan
  refine
    { ascending := hMesh.ascending
      mem_kept := mem_kept_iff_of_plan hPlan
      triangles := ?_
      strips := ?_
      vertices := hMesh.arrays.size
      entries := hMesh.arrays.entries
      distinct := fun a b ha hb => distinct_of_plan hPlan ha hb
      used := fun k hk => hMesh.used hk
      groups := hMesh.arrays.size.trans (length_kept_eq_card_groups hCounted hRange) }
  · refine hMesh.triangles.imp fun f g h => ?_
    exact
      { a := equalVertex_of_leads hMesh.arrays h.a
        b := equalVertex_of_leads hMesh.arrays h.b
        c := equalVertex_of_leads hMesh.arrays h.c }
  · refine hMesh.strips.imp fun old new h => h.imp fun i j hLeads => ?_
    exact equalVertex_of_leads hMesh.arrays hLeads

private theorem mergedCount_eq (hCounted : site.geometry.Counted) :
    site.mesh.mergedCount true = site.geometry.earlierEquals := by
  refine (Renumbering.size_duplicates _).trans (List.countP_congr fun p hp => ?_)
  rw [decide_eq_true_iff]
  exact (hasEarlierEqual_iff hCounted (List.mem_range.1 hp)).symm

end

/-- From `d` to `d'` the duplicates of the selected geometry were merged, and the notices tell how
many there were. -/
def MergedExactly (d d' : Document) (selection : Selection) (notices : List Notice) : Prop :=
  ∃ shape data before after kept,
    d.selectedData? selection = some (shape, data) ∧
    d.geometry data = .ok before ∧ d'.geometry data = .ok after ∧
    MergedSurface before after kept ∧
    ((∃ merged, .mergedVertices merged ∈ notices) ↔
      ∃ p < before.vertices.size, before.HasEarlierEqual p) ∧
    (∀ merged, .mergedVertices merged ∈ notices → merged = before.earlierEquals) ∧
    ∃ removed remaining, .removedVertices removed remaining ∈ notices ∧
      remaining = kept.length ∧ removed + remaining = before.vertices.size ∧
      before.earlierEquals ≤ removed

variable {w w' : Workspace} {selection : Selection} {mode : Nat} {outcome : Outcome}

/-- **Removing duplicate vertices merges exactly the duplicates.** -/
theorem removeDuplicates_merges_exactly
    (hRun : (Operation.removeDuplicates.perform selection mode).run w = (.ok outcome, w'))
    (hNoop : outcome.isNoop = false) :
    MergedExactly w.document w'.document selection outcome.notices := by
  have hRemoval : ((Operation.removal true).perform selection mode).run w = _ := hRun
  rcases Operation.removal_ok_cases hRemoval with
    ⟨hOutcome, _⟩ | ⟨site, out, hSite, hSelected, hPlan, hOutcome, hAfter⟩
  · rw [hOutcome] at hNoop
    cases hNoop
  · subst hOutcome hAfter
    obtain ⟨hCounted, hRange, _, _⟩ := (RemovalSite.plan_eq_ok_some_iff _ _ _).1 hPlan
    have hCounts := RemovalSite.counts_of_plan hPlan
    have hMerged : out.merged = site.geometry.earlierEquals :=
      hCounts.merged.trans (mergedCount_eq hCounted)
    refine ⟨site.shape, site.data, site.geometry, site.geometry.withMesh out.mesh,
      site.mesh.kept true, hSelected, ?_, ?_, mergedSurface_of_plan hPlan, ?_, ?_, ?_⟩
    · exact (Document.geometry_eq_ok_iff _).2 hSite.geometry
    · exact (Document.geometry_eq_ok_iff _).2 (RemovalSite.get?_apply_data hSite)
    · have hSome : 0 < site.geometry.earlierEquals ↔
          ∃ p < site.geometry.vertices.size, site.geometry.HasEarlierEqual p := by
        simp [GeometryData.earlierEquals, List.countP_pos_iff]
      rw [← hSome, ← hMerged]
      constructor
      · rintro ⟨merged, hMem⟩
        exact ((site.mergedVertices_mem_notices out merged).1 hMem).1
      · intro hPositive
        exact ⟨out.merged, (site.mergedVertices_mem_notices out _).2 ⟨hPositive, rfl⟩⟩
    · intro merged hMem
      rw [← hMerged]
      exact ((site.mergedVertices_mem_notices out merged).1 hMem).2
    · refine ⟨out.removed, out.mesh.arrays.size,
        (site.removedVertices_mem_notices out _ _).2 ⟨rfl, rfl⟩, hCounts.remaining, ?_, ?_⟩
      · rw [hCounts.remaining]
        exact hCounts.removed
      · have hBound := Mesh.mergedCount_add_length_kept_le (m := site.mesh)
          (IndexType.stored_addresses _) hRange true
        have hRemoved := hCounts.removed
        have hSize : site.mesh.arrays.size = site.geometry.arrays.size := rfl
        rw [mergedCount_eq hCounted] at hBound
        omega

/-- Two triangles that meet in vertices stored twice, one of each pair with zeros of the other sign,
and in a vertex that is not a number, stored twice as well. -/
def doubledEdge : Workspace where
  document := { slots := #[
    some (.geometry {
      numVertices := 6
      vertices := #[⟨0, 0, 0⟩, ⟨1, 0, 0⟩, ⟨-0.0, 0, 0⟩, ⟨1, -0.0, 0⟩, ⟨0, 0 / 0, 0⟩, ⟨0, 0 / 0, 0⟩]
      triangles := [⟨.ofPosition 2, .ofPosition 1, .ofPosition 4⟩,
        ⟨.ofPosition 2, .ofPosition 3, .ofPosition 5⟩] })] }

theorem removeDuplicates_merges_exactly_doubledEdge :
    MergedExactly doubledEdge.document
      ((Operation.removeDuplicates.perform (some ⟨0⟩) 0).run doubledEdge).2.document (some ⟨0⟩)
      [.mergedVertices 2, .removedVertices 2 4] := by
  have hRun : (Operation.removeDuplicates.perform (some ⟨0⟩) 0).run doubledEdge =
      (.ok ⟨[.mergedVertices 2, .removedVertices 2 4]⟩,
        ((Operation.removeDuplicates.perform (some ⟨0⟩) 0).run doubledEdge).2) :=
    Prod.ext (by decide +kernel) rfl
  exact removeDuplicates_merges_exactly hRun (by decide)

end IndexedMesh
