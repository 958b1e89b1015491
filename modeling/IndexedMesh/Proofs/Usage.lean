import IndexedMesh.Vertex.Usage
import IndexedMesh.Proofs.Rank

/-!
# The vertices that faces refer to

The scan for used vertices goes through all references in order and stops at the first one that is
out of range. If it comes to the end, what it has collected does not depend on the order any more:
a vertex belongs to the set exactly if some reference names it.

## Main results

* `VertexSet.ofReferences` — the set of all positions that are referred to.
* `usedVertices_eq_ok_iff` — the scan succeeds exactly if every reference is in range, and then
  its result is that set.
* `VertexSet.contains_ofReferences` — what belongs to the set.
-/

namespace IndexedMesh

variable {t : IndexType}

namespace VertexSet

/-- The set with all vertices that some references name. -/
def withReferences (used : VertexSet) (refs : List (Index t)) : VertexSet :=
  ⟨used.flags.mapIdx fun position flag => flag || refs.any (·.position = position)⟩

@[simp] theorem size_withReferences (used : VertexSet) (refs : List (Index t)) :
    (used.withReferences refs).size = used.size :=
  Array.size_mapIdx

theorem contains_withReferences (used : VertexSet) (refs : List (Index t)) (j : Nat) :
    (used.withReferences refs).contains j = true ↔
      used.contains j = true ∨ j < used.size ∧ ∃ i ∈ refs, i.position = j := by
  by_cases hj : j < used.flags.size
  · simp [contains, withReferences, size, hj]
  · simp [contains, withReferences, size, hj]

private theorem withReferences_cons {used next : VertexSet} {i : Index t} (more : List (Index t))
    (hi : i.position < used.size) (hNext : used.insert? i.position = some next) :
    next.withReferences more = used.withReferences (i :: more) := by
  obtain ⟨u, hInsert, hSize, hFlags⟩ := exists_insert?_eq_some hi
  obtain rfl : next = u := Option.some.inj (hNext.symm.trans hInsert)
  refine eq_of_contains_iff (by simp [hSize]) fun j => ?_
  rw [contains_withReferences, contains_withReferences, contains_iff_flag, contains_iff_flag,
    hFlags, hSize]
  by_cases hj : j = i.position
  · simp [hj, hi]
  · simp [hj, Ne.symm hj]

/-- The positions of some references, among `size` vertices. -/
def ofReferences (size : Nat) (refs : List (Index t)) : VertexSet :=
  (empty size).withReferences refs

@[simp] theorem size_ofReferences (size : Nat) (refs : List (Index t)) :
    (ofReferences size refs).size = size := by
  rw [ofReferences, size_withReferences, size_empty]

/-- **A vertex belongs to the set exactly if a reference names it.** -/
theorem contains_ofReferences {size : Nat} {refs : List (Index t)}
    (hRange : ∀ i ∈ refs, i.position < size) (j : Nat) :
    (ofReferences size refs).contains j = true ↔ ∃ i ∈ refs, i.position = j := by
  rw [ofReferences, contains_withReferences, contains_empty, size_empty]
  constructor
  · rintro (h | ⟨-, h⟩)
    · cases h
    · exact h
  · rintro ⟨i, hi, rfl⟩
    exact .inr ⟨hRange i hi, i, hi, rfl⟩

/-- **Adding references one by one** succeeds exactly if all of them are in range. -/
theorem insertAll_eq_ok_iff (refs : List (Index t)) :
    ∀ used result : VertexSet,
      used.insertAll refs = .ok result ↔
        (∀ i ∈ refs, i.position < used.size) ∧ result = used.withReferences refs := by
  induction refs with
  | nil =>
      intro used result
      have hSelf : used.withReferences ([] : List (Index t)) = used :=
        eq_of_contains_iff (size_withReferences _ _) fun j => by simp [contains_withReferences]
      simp [insertAll, hSelf, eq_comm]
  | cons i more ih =>
      intro used result
      by_cases hi : used.size ≤ i.position
      · simp only [insertAll, if_pos hi]
        constructor
        · intro h; cases h
        · exact fun h => absurd (h.1 i (by simp)) (Nat.not_lt.2 hi)
      · have hLess : i.position < used.size := Nat.lt_of_not_le hi
        obtain ⟨next, hNext, hSize, -⟩ := exists_insert?_eq_some hLess
        simp only [insertAll, if_neg hi, hNext, ih, hSize, withReferences_cons more hLess hNext,
          List.forall_mem_cons, hLess, true_and]

/-- Otherwise the first reference that is out of range is reported. -/
theorem insertAll_eq_error_iff (refs : List (Index t)) (e : Error) :
    ∀ used : VertexSet,
      used.insertAll refs = .error e ↔
        ∃ i, refs.find? (used.size ≤ ·.position) = some i ∧
          e = .indexOutOfRange i.position used.size := by
  induction refs with
  | nil => simp [insertAll]
  | cons i more ih =>
      intro used
      by_cases hi : used.size ≤ i.position
      · rw [insertAll, if_pos hi, List.find?_cons_of_pos (by simpa using hi)]
        simp [eq_comm]
      · obtain ⟨next, hNext, hSize, -⟩ := exists_insert?_eq_some (Nat.lt_of_not_le hi)
        rw [List.find?_cons_of_neg (by simpa using hi)]
        simp only [insertAll, if_neg hi, hNext, ih, hSize]

end VertexSet

/-- **The scan succeeds exactly if every reference is in range.** -/
theorem usedVertices_eq_ok_iff (triangles : List (Triangle t)) (strips : List (Strip t))
    (count : Nat) (used : VertexSet) :
    usedVertices triangles strips count = .ok used ↔
      (∀ i ∈ references triangles strips, i.position < count) ∧
        used = VertexSet.ofReferences count (references triangles strips) := by
  rw [usedVertices, VertexSet.insertAll_eq_ok_iff, VertexSet.size_empty, VertexSet.ofReferences]

/-- **The scan fails with the first reference that is out of range.** -/
theorem usedVertices_eq_error_iff (triangles : List (Triangle t)) (strips : List (Strip t))
    (count : Nat) (e : Error) :
    usedVertices triangles strips count = .error e ↔
      ∃ i, (references triangles strips).find? (count ≤ ·.position) = some i ∧
        e = .indexOutOfRange i.position count := by
  rw [usedVertices, VertexSet.insertAll_eq_error_iff, VertexSet.size_empty]

/-! ## References of renumbered faces -/

/-- Faces whose indices were all replaced refer to what replaced them. -/
theorem references_map (f : Index t → Index t) (triangles : List (Triangle t))
    (strips : List (Strip t)) :
    references (triangles.map (·.map f)) (strips.map (·.map f)) =
      (references triangles strips).map f := by
  simp [references, List.flatMap_map, List.map_flatMap, Triangle.corners, Triangle.map,
    List.map_flatten]

end IndexedMesh
