import IndexedMesh.Proofs.Strip

/-!
# Narrowing is not observable

New numbers are computed as natural numbers and stored as indices, and an index drops the bits that
do not fit. In a mesh with more vertices than the index type can count, entries of both renumberings
do lose bits: that of a vertex far up is the number of another vertex, or negative. Yet no reference
ever meets such an entry. An index leads only to positions that it can spell, and there a vertex
gets the number of one that is at its own place or before it. Negative indices lead to the upper
half of the address space, where no array reaches, so nothing is ever looked up under them.

## Main results

* `VertexArrays.StandsFor` — the exact result of the first renumbering.
* `Compaction.Numbers` — the exact result of the second.
* `narrowing_exact` — **every index that is looked up becomes the exact number**, for all index
  types and vertex sets of all sizes.
-/

namespace IndexedMesh

variable {t : IndexType}

/-! ## The first renumbering -/

/-- The vertex `a` stands for `b`: no vertex before it equals `b`, and it equals `b` unless it is
`b` itself. -/
structure VertexArrays.StandsFor (arrays : VertexArrays) (a b : Nat) : Prop where
  le : a ≤ b
  lowest : ∀ c < a, arrays.same? c b = some false
  same : a = b ∨ arrays.same? a b = some true

/-- The representative stands for a vertex. -/
theorem VertexArrays.standsFor_representative {arrays : VertexArrays} (hAligned : arrays.Aligned)
    {b : Nat} (hb : b < arrays.size) : arrays.StandsFor (arrays.representative b) b := by
  have hLe := representative_le arrays b
  refine { le := hLe, lowest := fun c hc => ?_, same := ?_ }
  · rw [same?_eq hAligned (by omega) hb, Option.some.injEq, Bool.eq_false_iff]
    intro hEqual
    have hFirst : arrays.representative b ≤ c := representative_le_of_equal hEqual
    omega
  · by_cases hNaN : (arrays.entries b).hasNaN = true
    · exact .inl (representative_eq_self hNaN)
    · rw [same?_eq hAligned (by omega) hb]
      exact .inr (congrArg some (equal_representative (by simpa using hNaN)))

/-! ## The second renumbering -/

/-- The index `j` is the exact new number of the vertex that `i` refers to: the number of kept
vertices before it. It is the number of one of the remaining vertices. -/
structure Compaction.Numbers (c : Compaction t) (keep : VertexSet) (i j : Index t) : Prop where
  kept : keep.contains i.position = true
  position : j.position = keep.rank i.position
  inRange : j.position < c.arrays.size

namespace Compaction

variable {c : Compaction t} {keep : VertexSet} {i j i' j' : Index t}

/-- What stands at the place of an index in the list of kept vertices has that number. -/
theorem numbers_of_getElem? (hSize : c.arrays.size = keep.positions.length)
    (h : keep.positions[j.position]? = some i.position) : c.Numbers keep i j := by
  obtain ⟨hKept, hRank⟩ := VertexSet.rank_of_getElem?_positions h
  obtain ⟨hLess, -⟩ := List.getElem?_eq_some_iff.1 h
  exact { kept := hKept, position := hRank.symm, inRange := hSize ▸ hLess }

/-- Different vertices have different numbers. -/
theorem Numbers.ne_of_position_ne (h : c.Numbers keep i j) (h' : c.Numbers keep i' j')
    (hNe : i.position ≠ i'.position) : j ≠ j' := by
  rintro rfl
  have hRank := h.position.symm.trans h'.position
  rcases Nat.lt_or_gt_of_ne hNe with hLess | hGreater
  · have hLt := VertexSet.rank_lt h.kept hLess
    omega
  · have hLt := VertexSet.rank_lt h'.kept hGreater
    omega

end Compaction

/-! ## Both in a row -/

/-- A negative index refers to no vertex. -/
theorem VertexSet.contains_of_neg {keep : VertexSet}
    (hSize : t.signed = true → keep.size ≤ UInt64.size / 2) {i : Index t} (h : i.value < 0) :
    keep.contains i.position = false := by
  refine contains_eq_false_of_size_le ?_
  have hUpper := Index.le_position_of_neg h
  have hLower := hSize (Index.signed_of_neg h)
  omega

/-- **Every index that is looked up becomes the exact number.** Let all references be in range. Then
the merging of duplicates, a second look at the references, and the compaction to what they name
succeed one after the other. The first sends each reference to the vertex that stands for it. The
compaction sends each of these to the number of kept vertices before it, which is below the new
number of vertices and of no other vertex. The weights of kept vertices follow in the same way and
stay as heavy, and all others are dropped, negative ones among them. -/
theorem narrowing_exact (arrays : VertexArrays)
    (hSize : t.signed = true → arrays.size ≤ UInt64.size / 2) (hCheck : arrays.check = .ok ())
    (triangles : List (Triangle t)) (strips : List (Strip t)) (used : VertexSet)
    (hUsed : usedVertices triangles strips arrays.size = .ok used) :
    ∃ duplicates : Renumbering t, findDuplicates arrays = .ok duplicates ∧
      List.Forall₂ (Triangle.Relates fun i j => arrays.StandsFor j.position i.position)
        triangles (duplicates.triangles triangles) ∧
      List.Forall₂ (List.Forall₂ fun i j => arrays.StandsFor j.position i.position)
        strips (duplicates.strips strips) ∧
    ∃ keep, usedVertices (duplicates.triangles triangles) (duplicates.strips strips) arrays.size =
        .ok keep ∧
    ∃ c : Compaction t, compact arrays keep = .ok c ∧
      List.Forall₂ (Triangle.Relates (c.Numbers keep)) (duplicates.triangles triangles)
        (c.renumbering.triangles (duplicates.triangles triangles)) ∧
      List.Forall₂ (List.Forall₂ (c.Numbers keep)) (duplicates.strips strips)
        (c.renumbering.strips (duplicates.strips strips)) ∧
      (∀ i j i' j', c.Numbers keep i j → c.Numbers keep i' j' → i.position ≠ i'.position →
        j ≠ j') ∧
      (∀ bones : List (BoneWeights t),
        List.Forall₂ (fun old new => List.Forall₂
            (fun w v => c.Numbers keep w.index v.index ∧ v.weight = w.weight)
            (old.weights.filter fun w => keep.contains w.index.position) new.weights)
          bones (c.renumbering.bones bones)) ∧
      ∀ w : VertexWeight t, w.index.value < 0 → c.renumbering.weight? w = none := by
  have hAligned := (VertexArrays.check_eq_ok_iff arrays).1 hCheck
  have hType := IndexType.addresses_of_bounded hSize
  -- The mesh of these arrays and faces; its bones play no part before the compaction.
  let m : Mesh t := ⟨arrays, triangles, strips, []⟩
  have hRange : m.InRange := ((usedVertices_eq_ok_iff _ _ _ _).1 hUsed).1
  have hMerged : m.merged.InRange := Mesh.inRange_merged hType hRange
  have hFirst : ∀ i ∈ references triangles strips,
      arrays.StandsFor ((arrays.duplicates : Renumbering t).follow i).position i.position := by
    intro i hi
    rw [Renumbering.position_follow_duplicates hType (hRange i hi)]
    exact VertexArrays.standsFor_representative hAligned (hRange i hi)
  have hKeepSize : m.merged.keep.size = arrays.size := Mesh.size_keep m.merged
  have hKeepType : t.Addresses m.merged.keep.size := hKeepSize ▸ hType
  have hKept : (arrays.restrict m.merged.keep).size = m.merged.keep.positions.length :=
    VertexArrays.size_restrict hKeepSize
  let c : Compaction t := ⟨arrays.restrict m.merged.keep, .ofKept m.merged.keep⟩
  have hSecond : ∀ i ∈ references m.merged.triangles m.merged.strips,
      c.Numbers m.merged.keep i (c.renumbering.follow i) := by
    intro i hi
    have hContains := (VertexSet.contains_ofReferences hMerged i.position).2 ⟨i, hi, rfl⟩
    exact Compaction.numbers_of_getElem? hKept (Mesh.leads_ofKept hKeepType hContains)
  refine ⟨arrays.duplicates, findDuplicates_eq_ok hAligned,
    Mesh.relates_triangles triangles fun i hi => hFirst i (List.mem_append_left _ hi),
    Mesh.relates_strips strips fun i hi => hFirst i (List.mem_append_right _ hi),
    m.merged.keep, Mesh.used_eq_ok hMerged, c,
    (compact_eq_ok_iff _ _ _).2 ⟨hAligned, hKeepSize, rfl⟩,
    Mesh.relates_triangles _ fun i hi => hSecond i (List.mem_append_left _ hi),
    Mesh.relates_strips _ fun i hi => hSecond i (List.mem_append_right _ hi),
    fun _ _ _ _ h h' => h.ne_of_position_ne h', fun bones => ?_, fun w hNegative => ?_⟩
  · rw [Renumbering.bones, List.forall₂_map_right_iff, List.forall₂_same]
    intro bone _
    have hWeights := Mesh.weights_ofKept hKeepType bone.weights
    simp only [VertexSet.mem_positions, Bool.decide_eq_true] at hWeights
    exact hWeights.imp fun w v h =>
      ⟨Compaction.numbers_of_getElem? hKept h.index, h.weight⟩
  · have hNone : m.merged.keep.contains w.index.position = false :=
      VertexSet.contains_of_neg (fun hSigned => hKeepSize ▸ hSize hSigned) hNegative
    simp only [c, Renumbering.weight?, Renumbering.get?_ofKept, hNone]
    rfl

/-- Three hundred vertices, more than 8 bits can count. -/
def crowd : VertexArrays where
  positions := Array.replicate 300 ⟨0, 0, 0⟩

/-- A triangle with signed indices. -/
def signedTriangle : Triangle .signedByte := ⟨.ofPosition 0, .ofPosition 100, .ofPosition 127⟩

/-- With signed indices of 8 bits a crowd is renumbered exactly, and a weight on the vertex before
the first is dropped. -/
theorem narrowing_exact_crowd :
    ∃ (duplicates : Renumbering .signedByte) (keep : VertexSet) (c : Compaction .signedByte),
      findDuplicates crowd = .ok duplicates ∧ compact crowd keep = .ok c ∧
        List.Forall₂ (Triangle.Relates (c.Numbers keep)) (duplicates.triangles [signedTriangle])
          (c.renumbering.triangles (duplicates.triangles [signedTriangle])) ∧
        c.renumbering.weight? ⟨.ofInt (-1), 1⟩ = none := by
  have hSize : crowd.size = 300 := Array.size_replicate
  have hUsed := (usedVertices_eq_ok_iff [signedTriangle] [] crowd.size _).2
    ⟨by rw [hSize]; decide, rfl⟩
  obtain ⟨duplicates, hDuplicates, -, -, keep, -, c, hCompact, hTriangles, -, -, -, hNegative⟩ :=
    narrowing_exact (t := .signedByte) crowd (fun _ => by rw [hSize]; decide) rfl
      [signedTriangle] [] _ hUsed
  exact ⟨duplicates, keep, c, hDuplicates, hCompact, hTriangles, hNegative _ (by decide)⟩

end IndexedMesh
