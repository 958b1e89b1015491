import IndexedMesh.Edit.Vertices
import IndexedMesh.Proofs.Compaction
import IndexedMesh.Proofs.Duplicates
import IndexedMesh.Proofs.Lists
import IndexedMesh.Proofs.Usage

/-!
# What a mesh becomes when vertices are removed

The removal of vertices composes two renumberings. If duplicates are to be merged, a first one
sends each reference to the vertex that stands for it; what is referred to then is kept, and a
second one closes the gaps. Both steps are described together here: a reference to `p` becomes one
to the vertex that was at `target p`, and where that vertex is now is its place in the list of
those that were kept.

Everything that a mesh holds follows that one list, and `Mesh.Renumbered` says how.

## Main results

* `Mesh.strip_eq_ok_iff` — when the removal succeeds, and what it answers.
* `Mesh.Renumbered` — what each part of a mesh becomes.
* `Mesh.renumbered_condensed` — what the removal answers is renumbered in this sense.
* `Mesh.Renumbered.inRange`, `Mesh.Renumbered.used` — afterwards all references are in range, and
  all vertices are referred to.
* `Mesh.length_kept` — as many vertices remain as references are sent to.
-/

namespace IndexedMesh

variable {t : IndexType}

/-- A relation between the corners of two triangles, in order. -/
structure Triangle.Relates (R : Index t → Index t → Prop) (f g : Triangle t) : Prop where
  a : R f.a g.a
  b : R f.b g.b
  c : R f.c g.c

/-- What relates the corners of triangles and the elements of strips relates all references. -/
theorem forall₂_references {R : Index t → Index t → Prop}
    {triangles newTriangles : List (Triangle t)} {strips newStrips : List (Strip t)}
    (hTriangles : List.Forall₂ (Triangle.Relates R) triangles newTriangles)
    (hStrips : List.Forall₂ (List.Forall₂ R) strips newStrips) :
    List.Forall₂ R (references triangles strips) (references newTriangles newStrips) := by
  have hCorners : List.Forall₂ R (triangles.flatMap Triangle.corners)
      (newTriangles.flatMap Triangle.corners) := by
    refine List.rel_flatMap hTriangles fun f g hCorner => ?_
    exact .cons hCorner.a (.cons hCorner.b (.cons hCorner.c .nil))
  exact List.rel_append hCorners (List.rel_flatten hStrips)

namespace Mesh

/-! ## The steps of a removal -/

/-- Every reference of a face is to a vertex of the mesh. -/
def InRange (m : Mesh t) : Prop :=
  ∀ i ∈ references m.triangles m.strips, i.position < m.arrays.size

/-- The vertices that faces refer to. -/
def keep (m : Mesh t) : VertexSet :=
  .ofReferences m.arrays.size (references m.triangles m.strips)

/-- The mesh with all faces on the first of equal vertices. -/
def merged (m : Mesh t) : Mesh t where
  arrays := m.arrays
  triangles := (m.arrays.duplicates : Renumbering t).triangles m.triangles
  strips := (m.arrays.duplicates : Renumbering t).strips m.strips
  bones := m.bones

/-- The mesh without the vertices that no face refers to. -/
def condensed (m : Mesh t) : Mesh t where
  arrays := m.arrays.restrict m.keep
  triangles := (Renumbering.ofKept m.keep : Renumbering t).triangles m.triangles
  strips := (Renumbering.ofKept m.keep : Renumbering t).strips m.strips
  bones := (Renumbering.ofKept m.keep : Renumbering t).bones m.bones

/-- The mesh from which unused vertices are removed. -/
def prepared (m : Mesh t) (mergeDuplicates : Bool) : Mesh t :=
  if mergeDuplicates then m.merged else m

/-- The vertex that a reference to `p` is sent to before unused vertices are removed. -/
def target (m : Mesh t) (mergeDuplicates : Bool) (p : Nat) : Nat :=
  if mergeDuplicates then m.arrays.representative p else p

/-- How many vertices are merged into others. -/
def mergedCount (m : Mesh t) (mergeDuplicates : Bool) : Nat :=
  if mergeDuplicates then (m.arrays.duplicates : Renumbering t).size else 0

/-- What the removal answers, if it answers. -/
def stripped (m : Mesh t) (mergeDuplicates : Bool) : Option (Stripped t) :=
  let ready := m.prepared mergeDuplicates
  if ready.keep.isFull then none
  else some {
    mesh := ready.condensed
    merged := m.mergedCount mergeDuplicates
    removed := ready.arrays.size - ready.condensed.arrays.size
    dropped := (Renumbering.ofKept ready.keep : Renumbering t).dropped m.bones }

@[simp] theorem size_keep (m : Mesh t) : m.keep.size = m.arrays.size :=
  VertexSet.size_ofReferences _ _

@[simp] theorem arrays_prepared (m : Mesh t) (mergeDuplicates : Bool) :
    (m.prepared mergeDuplicates).arrays = m.arrays := by
  cases mergeDuplicates <;> rfl

@[simp] theorem bones_prepared (m : Mesh t) (mergeDuplicates : Bool) :
    (m.prepared mergeDuplicates).bones = m.bones := by
  cases mergeDuplicates <;> rfl

theorem used_eq_ok_iff (m : Mesh t) (used : VertexSet) :
    m.used = .ok used ↔ m.InRange ∧ used = m.keep :=
  usedVertices_eq_ok_iff _ _ _ _

theorem used_eq_ok {m : Mesh t} (hRange : m.InRange) : m.used = .ok m.keep :=
  (used_eq_ok_iff m _).2 ⟨hRange, rfl⟩

theorem used_eq_error {m : Mesh t} (hRange : ¬ m.InRange) : ∃ e, m.used = .error e := by
  cases hUsed : m.used with
  | error e => exact ⟨e, rfl⟩
  | ok used => exact absurd ((used_eq_ok_iff m used).1 hUsed).1 hRange

/-- The index that a reference is sent to before unused vertices are removed. -/
def sent (m : Mesh t) (mergeDuplicates : Bool) (i : Index t) : Index t :=
  if mergeDuplicates then (m.arrays.duplicates : Renumbering t).follow i else i

/-- The references after merging are those before, each followed. -/
theorem references_merged (m : Mesh t) :
    references m.merged.triangles m.merged.strips =
      (references m.triangles m.strips).map (m.arrays.duplicates : Renumbering t).follow :=
  references_map _ _ _

theorem inRange_merged {m : Mesh t} (hType : t.Addresses m.arrays.size) (hRange : m.InRange) :
    m.merged.InRange := by
  intro i hi
  rw [references_merged] at hi
  obtain ⟨old, hOld, rfl⟩ := List.mem_map.1 hi
  rw [Renumbering.position_follow_duplicates hType (hRange old hOld)]
  exact Nat.lt_of_le_of_lt (VertexArrays.representative_le _ _) (hRange old hOld)

theorem inRange_prepared {m : Mesh t} (hType : t.Addresses m.arrays.size) (hRange : m.InRange)
    (mergeDuplicates : Bool) : (m.prepared mergeDuplicates).InRange := by
  cases mergeDuplicates with
  | false => exact hRange
  | true => exact inRange_merged hType hRange

/-- Merging succeeds on aligned arrays exactly if every reference is in range. -/
theorem merge_eq_ok_iff {m : Mesh t} (hAligned : m.arrays.Aligned) (r : Mesh t × Nat) :
    m.merge = .ok r ↔
      m.InRange ∧ r = (m.merged, (m.arrays.duplicates : Renumbering t).size) := by
  unfold merge
  by_cases hRange : m.InRange
  · rw [used_eq_ok hRange, findDuplicates_eq_ok hAligned]
    show Except.ok _ = Except.ok r ↔ _
    rw [Except.ok.injEq]
    constructor
    · exact fun h => ⟨hRange, h.symm⟩
    · exact fun h => h.2.symm
  · obtain ⟨e, he⟩ := used_eq_error hRange
    rw [he]
    constructor
    · intro h; cases h
    · exact fun h => absurd h.1 hRange

/-- Removing the unused vertices of a mesh that is ready for it. -/
private def finish (m : Mesh t) (merged : Nat) : Except Error (Option (Stripped t)) := do
  let used ← m.used
  if used.isFull then return none
  let compaction : Compaction t ← compact m.arrays used
  return some {
    mesh := {
      arrays := compaction.arrays
      triangles := compaction.renumbering.triangles m.triangles
      strips := compaction.renumbering.strips m.strips
      bones := compaction.renumbering.bones m.bones }
    merged
    removed := compaction.removed
    dropped := compaction.renumbering.dropped m.bones }

private theorem strip_false (m : Mesh t) : m.strip false = m.finish 0 := rfl

private theorem strip_true (m : Mesh t) : m.strip true = m.merge >>= fun r => r.1.finish r.2 := rfl

private theorem finish_eq_ok {m : Mesh t} (hAligned : m.arrays.Aligned) (hRange : m.InRange)
    (merged : Nat) :
    m.finish merged = .ok (if m.keep.isFull then none else some {
      mesh := m.condensed
      merged
      removed := m.arrays.size - m.condensed.arrays.size
      dropped := (Renumbering.ofKept m.keep : Renumbering t).dropped m.bones }) := by
  have hCompact := (compact_eq_ok_iff (t := t) m.arrays m.keep _).2 ⟨hAligned, size_keep m, rfl⟩
  rw [finish, used_eq_ok hRange]
  by_cases hFull : m.keep.isFull = true
  · rw [if_pos hFull]
    show (if m.keep.isFull = true then pure none else _) = _
    rw [if_pos hFull]
    rfl
  · rw [if_neg hFull]
    show (if m.keep.isFull = true then pure none else _) = _
    rw [if_neg hFull, hCompact]
    show Except.ok (some _) = _
    simp only [Compaction.removed, Renumbering.domainSize_ofKept, size_keep]
    rfl

private theorem strip_eq_error {m : Mesh t} {e : Error} (h : m.used = .error e)
    (mergeDuplicates : Bool) : m.strip mergeDuplicates = .error e := by
  cases mergeDuplicates with
  | false =>
      rw [strip_false, finish, h]
      rfl
  | true =>
      rw [strip_true, merge, h]
      rfl

/-- **The removal succeeds on aligned arrays exactly if every reference is in range.** -/
theorem strip_eq_ok_iff {m : Mesh t} (hAligned : m.arrays.Aligned)
    (hType : t.Addresses m.arrays.size) (mergeDuplicates : Bool) (out : Option (Stripped t)) :
    m.strip mergeDuplicates = .ok out ↔ m.InRange ∧ out = m.stripped mergeDuplicates := by
  by_cases hRange : m.InRange
  · have hStrip : m.strip mergeDuplicates = .ok (m.stripped mergeDuplicates) := by
      cases mergeDuplicates with
      | false =>
          rw [strip_false]
          exact finish_eq_ok hAligned hRange 0
      | true =>
          rw [strip_true, (merge_eq_ok_iff hAligned _).2 ⟨hRange, rfl⟩]
          exact finish_eq_ok (m := m.merged) hAligned (inRange_merged hType hRange) _
    rw [hStrip, Except.ok.injEq]
    constructor
    · exact fun h => ⟨hRange, h.symm⟩
    · exact fun h => h.2.symm
  · obtain ⟨e, he⟩ := used_eq_error hRange
    rw [strip_eq_error he]
    constructor
    · intro h; cases h
    · exact fun h => absurd h.1 hRange

/-- The removal fails only as the look at the references of the faces does. -/
theorem used_eq_error_of_strip {m : Mesh t} (hAligned : m.arrays.Aligned)
    (hType : t.Addresses m.arrays.size) {mergeDuplicates : Bool} {e : Error}
    (h : m.strip mergeDuplicates = .error e) : m.used = .error e := by
  cases hUsed : m.used with
  | error e' =>
      rw [strip_eq_error hUsed] at h
      cases h
      rfl
  | ok used =>
      have hRange := ((used_eq_ok_iff m used).1 hUsed).1
      rw [(strip_eq_ok_iff hAligned hType mergeDuplicates _).2 ⟨hRange, rfl⟩] at h
      cases h

/-! ## Where everything went -/

/-- The new index `j` is for the vertex that a reference `i` was sent to. -/
def Leads (kept : List Nat) (target : Nat → Nat) (i j : Index t) : Prop :=
  kept[j.position]? = some (target i.position)

/-- What leads to a kept vertex is in range. -/
theorem lt_length_of_leads {kept : List Nat} {target : Nat → Nat} {old new : List (Index t)}
    (h : List.Forall₂ (Leads kept target) old new) : ∀ j ∈ new, j.position < kept.length := by
  intro j hj
  obtain ⟨i, -, hLeads⟩ := exists_mem_of_forall₂ h hj
  exact (List.getElem?_eq_some_iff.1 hLeads).1

/-- A list without repetition of what references are sent to is as long as there are such vertices.
-/
theorem length_eq_card_target {kept : List Nat} (hNodup : kept.Nodup) {target : Nat → Nat}
    {refs : List (Index t)} (hMem : ∀ p, p ∈ kept ↔ ∃ i ∈ refs, target i.position = p) :
    kept.length = (refs.map fun i => target i.position).toFinset.card := by
  rw [← List.toFinset_card_of_nodup hNodup]
  congr 1
  ext p
  rw [List.mem_toFinset, List.mem_toFinset, hMem, List.mem_map]

/-- The weight `v` is what became of `w`: as heavy, and on the same vertex. -/
structure SameWeight (kept : List Nat) (w v : VertexWeight t) : Prop where
  index : kept[v.index.position]? = some w.index.position
  weight : v.weight = w.weight

/-- What the parts of a mesh become if the vertices of a list are kept, in its order, after each
reference to `p` has become one to `target p`. -/
structure Renumbered (before after : Mesh t) (target : Nat → Nat) (kept : List Nat) : Prop where
  ascending : kept.Pairwise (· < ·)
  mem_kept : ∀ p, p ∈ kept ↔
    ∃ i ∈ references before.triangles before.strips, target i.position = p
  triangles : List.Forall₂ (Triangle.Relates (Leads kept target)) before.triangles after.triangles
  strips : List.Forall₂ (List.Forall₂ (Leads kept target)) before.strips after.strips
  arrays : VertexArrays.Selects before.arrays after.arrays kept
  bones : List.Forall₂ (fun old new => List.Forall₂ (SameWeight kept)
    (old.weights.filter (·.index.position ∈ kept)) new.weights) before.bones after.bones

/-- What a kept vertex is renumbered to leads to it. -/
theorem leads_ofKept {keep : VertexSet} (hType : t.Addresses keep.size) {i : Index t}
    (h : keep.contains i.position = true) :
    keep.positions[((Renumbering.ofKept keep).follow i).position]? = some i.position := by
  rw [Renumbering.position_follow_ofKept hType h]
  exact VertexSet.positions_rank h

/-- Weights of kept vertices follow them, and the others are dropped. -/
theorem weights_ofKept {keep : VertexSet} (hType : t.Addresses keep.size)
    (weights : List (VertexWeight t)) :
    List.Forall₂ (SameWeight keep.positions)
      (weights.filter (·.index.position ∈ keep.positions))
      (weights.filterMap (Renumbering.ofKept keep).weight?) := by
  have hKept : ∀ w : VertexWeight t,
      ((Renumbering.ofKept keep).weight? w).isSome =
        decide (w.index.position ∈ keep.positions) := by
    intro w
    simp only [VertexSet.mem_positions]
    rw [Renumbering.weight?, Renumbering.get?_ofKept]
    cases keep.contains w.index.position <;> rfl
  have hFollow := forall₂_filterMap (Renumbering.ofKept keep).weight? weights
  simp only [hKept] at hFollow
  refine hFollow.imp fun w v hWeight => ?_
  obtain ⟨new, hGet, rfl⟩ := Option.map_eq_some_iff.1 hWeight
  have hMem := (hKept w).symm
  rw [hWeight] at hMem
  have hSome := (VertexSet.mem_positions keep _).1 (of_decide_eq_true hMem)
  have hNew : (Renumbering.ofKept keep).follow w.index = new := by
    rw [Renumbering.follow, hGet]
    rfl
  exact { index := hNew ▸ leads_ofKept hType hSome, weight := rfl }

/-- A relation that holds between every corner and what it becomes. -/
theorem relates_triangles {R : Index t → Index t → Prop} {f : Index t → Index t}
    (triangles : List (Triangle t)) (h : ∀ i ∈ triangles.flatMap Triangle.corners, R i (f i)) :
    List.Forall₂ (Triangle.Relates R) triangles (triangles.map (·.map f)) := by
  rw [List.forall₂_map_right_iff, List.forall₂_same]
  intro g hg
  have hCorner : ∀ i ∈ g.corners, R i (f i) := by
    intro i hi
    exact h i (List.mem_flatMap.2 ⟨g, hg, hi⟩)
  exact
    { a := hCorner g.a (by simp [Triangle.corners])
      b := hCorner g.b (by simp [Triangle.corners])
      c := hCorner g.c (by simp [Triangle.corners]) }

/-- A relation that holds between every element and what it becomes. -/
theorem relates_strips {R : Index t → Index t → Prop} {f : Index t → Index t}
    (strips : List (Strip t)) (h : ∀ i ∈ strips.flatten, R i (f i)) :
    List.Forall₂ (List.Forall₂ R) strips (strips.map (·.map f)) := by
  rw [List.forall₂_map_right_iff, List.forall₂_same]
  intro strip hStrip
  rw [List.forall₂_map_right_iff, List.forall₂_same]
  exact fun i hi => h i (List.mem_flatten_of_mem hStrip hi)

theorem triangles_prepared (m : Mesh t) (mergeDuplicates : Bool) :
    (m.prepared mergeDuplicates).triangles =
      m.triangles.map (·.map (m.sent mergeDuplicates)) := by
  cases mergeDuplicates with
  | false => exact (List.map_id' m.triangles).symm
  | true => rfl

theorem strips_prepared (m : Mesh t) (mergeDuplicates : Bool) :
    (m.prepared mergeDuplicates).strips = m.strips.map (·.map (m.sent mergeDuplicates)) := by
  cases mergeDuplicates with
  | false =>
      have hSent : m.sent false = id := rfl
      simp only [hSent, List.map_id]
      exact (List.map_id' m.strips).symm
  | true => rfl

theorem references_prepared (m : Mesh t) (mergeDuplicates : Bool) :
    references (m.prepared mergeDuplicates).triangles (m.prepared mergeDuplicates).strips =
      (references m.triangles m.strips).map (m.sent mergeDuplicates) := by
  rw [triangles_prepared, strips_prepared, references_map]

theorem position_sent {m : Mesh t} (hType : t.Addresses m.arrays.size) (mergeDuplicates : Bool)
    {i : Index t} (hi : i.position < m.arrays.size) :
    (m.sent mergeDuplicates i).position = m.target mergeDuplicates i.position := by
  cases mergeDuplicates with
  | false => rfl
  | true => exact Renumbering.position_follow_duplicates hType hi

/-- The vertices that are kept: those that some reference is sent to. -/
def kept (m : Mesh t) (mergeDuplicates : Bool) : List Nat :=
  (m.prepared mergeDuplicates).keep.positions

theorem mem_kept_iff {m : Mesh t} (hType : t.Addresses m.arrays.size) (hRange : m.InRange)
    (mergeDuplicates : Bool) (p : Nat) :
    p ∈ m.kept mergeDuplicates ↔
      ∃ i ∈ references m.triangles m.strips, m.target mergeDuplicates i.position = p := by
  have hReady := inRange_prepared hType hRange mergeDuplicates
  rw [kept, VertexSet.mem_positions, keep, VertexSet.contains_ofReferences hReady,
    references_prepared]
  constructor
  · rintro ⟨j, hj, hp⟩
    obtain ⟨i, hi, rfl⟩ := List.mem_map.1 hj
    exact ⟨i, hi, by rw [← hp, position_sent hType mergeDuplicates (hRange i hi)]⟩
  · rintro ⟨i, hi, hp⟩
    refine ⟨m.sent mergeDuplicates i, List.mem_map_of_mem hi, ?_⟩
    rw [← hp, position_sent hType mergeDuplicates (hRange i hi)]

/-- **What the removal makes of a mesh.** -/
theorem renumbered_condensed {m : Mesh t} (hAligned : m.arrays.Aligned)
    (hType : t.Addresses m.arrays.size) (hRange : m.InRange) (mergeDuplicates : Bool) :
    Renumbered m (m.prepared mergeDuplicates).condensed (m.target mergeDuplicates)
      (m.kept mergeDuplicates) := by
  have hTypeKeep : t.Addresses (m.prepared mergeDuplicates).keep.size := by
    rw [size_keep, arrays_prepared]
    exact hType
  have hLeads : ∀ i ∈ references m.triangles m.strips,
      Leads (m.kept mergeDuplicates) (m.target mergeDuplicates) i
        ((Renumbering.ofKept (m.prepared mergeDuplicates).keep).follow
          (m.sent mergeDuplicates i)) := by
    intro i hi
    have hPosition := position_sent hType mergeDuplicates (hRange i hi)
    have hMem := (mem_kept_iff hType hRange mergeDuplicates _).2 ⟨i, hi, hPosition.symm⟩
    have hContains := (VertexSet.mem_positions _ _).1 hMem
    rw [Leads, ← hPosition]
    exact leads_ofKept hTypeKeep hContains
  have hArrays : (m.prepared mergeDuplicates).arrays.Aligned := by
    rw [arrays_prepared]
    exact hAligned
  refine
    { ascending := VertexSet.positions_pairwise _
      mem_kept := mem_kept_iff hType hRange mergeDuplicates
      triangles := ?_
      strips := ?_
      arrays := ?_
      bones := ?_ }
  · have hBoth := relates_triangles m.triangles fun i hi => hLeads i (List.mem_append_left _ hi)
    rw [condensed, Renumbering.triangles, triangles_prepared, List.map_map]
    exact hBoth
  · have hBoth := relates_strips m.strips fun i hi => hLeads i (List.mem_append_right _ hi)
    rw [condensed, Renumbering.strips, strips_prepared, List.map_map]
    simpa only [Function.comp_def, List.map_map] using hBoth
  · have hSelects := VertexArrays.selects_restrict hArrays (size_keep _)
    rw [arrays_prepared] at hSelects
    simpa only [condensed, kept, arrays_prepared] using hSelects
  · rw [condensed, Renumbering.bones, bones_prepared, List.forall₂_map_right_iff, List.forall₂_same]
    exact fun bone _ => weights_ofKept hTypeKeep bone.weights

/-- All references lead where their corners and elements do. -/
theorem Renumbered.references {before after : Mesh t} {target : Nat → Nat} {kept : List Nat}
    (h : Renumbered before after target kept) :
    List.Forall₂ (Leads kept target) (references before.triangles before.strips)
      (references after.triangles after.strips) :=
  forall₂_references h.triangles h.strips

/-- Kept vertices move to the front. -/
theorem Renumbered.le_of_getElem? {before after : Mesh t} {target : Nat → Nat} {kept : List Nat}
    (h : Renumbered before after target kept) {k p : Nat} (hk : kept[k]? = some p) : k ≤ p := by
  induction k generalizing p with
  | zero => exact Nat.zero_le p
  | succ k ih =>
      obtain ⟨hLess, rfl⟩ := List.getElem?_eq_some_iff.1 hk
      have hBefore := ih (List.getElem?_eq_getElem (by omega))
      have hStep := List.pairwise_iff_getElem.1 h.ascending k (k + 1) (by omega) hLess (by omega)
      omega

/-- **Every reference to a kept vertex is in range.** -/
theorem Renumbered.inRange {before after : Mesh t} {target : Nat → Nat} {kept : List Nat}
    (h : Renumbered before after target kept) : after.InRange := by
  intro j hj
  rw [h.arrays.size]
  exact lt_length_of_leads h.references j hj

/-- **Every vertex that remains is referred to.** -/
theorem Renumbered.used {before after : Mesh t} {target : Nat → Nat} {kept : List Nat}
    (h : Renumbered before after target kept) {k : Nat} (hk : k < after.arrays.size) :
    ∃ j ∈ IndexedMesh.references after.triangles after.strips, j.position = k := by
  have hKept : k < kept.length := h.arrays.size ▸ hk
  obtain ⟨i, hi, hTarget⟩ := (h.mem_kept _).1 (List.getElem_mem hKept)
  obtain ⟨j, hj, hLeads⟩ := exists_mem_of_forall₂ h.references.flip hi
  refine ⟨j, hj, ?_⟩
  -- Both places hold the vertex that the old reference was sent to, and each vertex is kept once.
  obtain ⟨hLess, hGet⟩ := List.getElem?_eq_some_iff.1 hLeads
  exact (List.Nodup.getElem_inj_iff (h.ascending.imp Nat.ne_of_lt)).1 (hGet.trans hTarget)

/-! ## How many vertices remain -/

theorem kept_nodup (m : Mesh t) (mergeDuplicates : Bool) : (m.kept mergeDuplicates).Nodup :=
  VertexSet.positions_nodup _

/-- **As many vertices remain as references are sent to.** -/
theorem length_kept {m : Mesh t} (hType : t.Addresses m.arrays.size) (hRange : m.InRange)
    (mergeDuplicates : Bool) :
    (m.kept mergeDuplicates).length =
      ((references m.triangles m.strips).map fun i =>
        m.target mergeDuplicates i.position).toFinset.card :=
  length_eq_card_target (kept_nodup m mergeDuplicates) (mem_kept_iff hType hRange mergeDuplicates)

theorem isFull_keep_iff (m : Mesh t) (mergeDuplicates : Bool) :
    (m.prepared mergeDuplicates).keep.isFull = true ↔
      (m.kept mergeDuplicates).length = m.arrays.size := by
  have hSize : m.arrays.size = (List.range (m.prepared mergeDuplicates).keep.size).length := by
    rw [List.length_range, size_keep, arrays_prepared]
  rw [VertexSet.isFull_iff, hSize, kept, VertexSet.positions_eq_filter,
    List.length_filter_eq_length_iff]
  simp only [List.mem_range]

theorem length_kept_le (m : Mesh t) (mergeDuplicates : Bool) :
    (m.kept mergeDuplicates).length ≤ m.arrays.size := by
  have hLength := List.length_filter_le (m.prepared mergeDuplicates).keep.contains
    (List.range (m.prepared mergeDuplicates).keep.size)
  rw [List.length_range] at hLength
  simpa only [kept, VertexSet.positions_eq_filter, size_keep, arrays_prepared] using hLength

@[simp] theorem size_condensed (m : Mesh t) (mergeDuplicates : Bool) :
    (m.prepared mergeDuplicates).condensed.arrays.size = (m.kept mergeDuplicates).length :=
  VertexArrays.size_restrict (size_keep _)

/-- The removal answers with a mesh exactly if some vertex is not kept. -/
theorem stripped_eq_some_iff (m : Mesh t) (mergeDuplicates : Bool) (out : Stripped t) :
    m.stripped mergeDuplicates = some out ↔
      (m.kept mergeDuplicates).length < m.arrays.size ∧ out = {
        mesh := (m.prepared mergeDuplicates).condensed
        merged := m.mergedCount mergeDuplicates
        removed := m.arrays.size - (m.kept mergeDuplicates).length
        dropped := (Renumbering.ofKept (m.prepared mergeDuplicates).keep : Renumbering t).dropped
          m.bones } := by
  have hLe := length_kept_le m mergeDuplicates
  by_cases hFull : (m.prepared mergeDuplicates).keep.isFull = true
  · have hLength := (isFull_keep_iff m mergeDuplicates).1 hFull
    simp only [stripped, hFull, if_true]
    constructor
    · intro h; cases h
    · exact fun h => absurd h.1 (by omega)
  · have hLength := mt (isFull_keep_iff m mergeDuplicates).2 hFull
    have hLess : (m.kept mergeDuplicates).length < m.arrays.size := by omega
    simp only [stripped, if_neg hFull, size_condensed, arrays_prepared, Option.some.injEq]
    constructor
    · exact fun h => ⟨hLess, h.symm⟩
    · exact fun h => h.2.symm

theorem stripped_eq_none_iff (m : Mesh t) (mergeDuplicates : Bool) :
    m.stripped mergeDuplicates = none ↔
      (m.kept mergeDuplicates).length = m.arrays.size := by
  rw [← isFull_keep_iff]
  simp [stripped]

/-- Nothing is removed exactly if some reference is sent to each vertex. -/
theorem stripped_eq_none_iff_target {m : Mesh t} (hType : t.Addresses m.arrays.size)
    (hRange : m.InRange) (mergeDuplicates : Bool) :
    m.stripped mergeDuplicates = none ↔ ∀ p, p < m.arrays.size →
      ∃ i ∈ references m.triangles m.strips, m.target mergeDuplicates i.position = p := by
  rw [stripped_eq_none_iff, ← isFull_keep_iff, VertexSet.isFull_iff, size_keep, arrays_prepared]
  refine forall_congr' fun p => imp_congr_right fun _ => ?_
  rw [← mem_kept_iff hType hRange, kept, VertexSet.mem_positions]

/-- If nothing is removed, no reference is sent elsewhere. -/
theorem target_eq_self {m : Mesh t} (hType : t.Addresses m.arrays.size) (hRange : m.InRange)
    {mergeDuplicates : Bool} (h : m.stripped mergeDuplicates = none) {p : Nat}
    (hp : p < m.arrays.size) : m.target mergeDuplicates p = p := by
  obtain ⟨i, -, rfl⟩ := (stripped_eq_none_iff_target hType hRange _).1 h p hp
  cases mergeDuplicates with
  | false => rfl
  | true => exact VertexArrays.representative_representative _ _

/-- **A vertex that is merged into another is removed**: what is kept has no equal before it. -/
theorem mergedCount_add_length_kept_le {m : Mesh t} (hType : t.Addresses m.arrays.size)
    (hRange : m.InRange) (mergeDuplicates : Bool) :
    m.mergedCount mergeDuplicates + (m.kept mergeDuplicates).length ≤ m.arrays.size := by
  cases mergeDuplicates with
  | false =>
      have hLe := length_kept_le m false
      have hZero : m.mergedCount false = 0 := rfl
      omega
  | true =>
      have hFirst : ∀ p ∈ m.kept true, ¬ (m.arrays.earlier? p).isSome = true := by
        intro p hp
        obtain ⟨i, _, hi⟩ := (mem_kept_iff hType hRange true p).1 hp
        rw [← hi]
        simp [target, VertexArrays.earlier?_representative]
      have hKept : (m.kept true).length =
          (List.range m.arrays.size).countP (m.prepared true).keep.contains := by
        rw [List.countP_eq_length_filter, kept, VertexSet.positions_eq_filter, size_keep,
          arrays_prepared]
      have hMono : (List.range m.arrays.size).countP (m.prepared true).keep.contains ≤
          (List.range m.arrays.size).countP fun p => ! (m.arrays.earlier? p).isSome := by
        refine List.countP_mono_left fun p _ hp => ?_
        simpa using hFirst p ((VertexSet.mem_positions _ p).2 hp)
      have hMerged : m.mergedCount true =
          (List.range m.arrays.size).countP fun p => (m.arrays.earlier? p).isSome :=
        Renumbering.size_duplicates m.arrays
      have hSplit := List.length_eq_countP_add_countP (fun p => (m.arrays.earlier? p).isSome)
        (l := List.range m.arrays.size)
      rw [List.length_range] at hSplit
      simp only [Bool.not_eq_true] at hSplit
      have hNot : (List.range m.arrays.size).countP (fun p => ! (m.arrays.earlier? p).isSome) =
          (List.range m.arrays.size).countP fun p =>
            decide ((m.arrays.earlier? p).isSome = false) := by
        refine List.countP_congr fun p _ => ?_
        simp
      omega

end Mesh

end IndexedMesh
