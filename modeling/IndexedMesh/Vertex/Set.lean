/-!
# Sets of vertices

A set of vertices of a mesh is a row of flags, one for each position.

## Main definitions

* `VertexSet` — a set of vertices.
* `VertexSet.insert?` — the set with one more vertex, which has to be one of the mesh.
* `VertexSet.positions`, `VertexSet.gaps` — its members, and the other vertices, in ascending order.
* `VertexSet.isFull` — whether it holds every vertex.
-/

namespace IndexedMesh

/-- A set of the vertices of a mesh. -/
structure VertexSet where
  flags : Array Bool
deriving DecidableEq

namespace VertexSet

/-- No vertices of a mesh with `size` vertices. -/
def empty (size : Nat) : VertexSet := ⟨Array.replicate size false⟩

/-- The number of vertices of the mesh. -/
def size (s : VertexSet) : Nat := s.flags.size

/-- The set with one more vertex. Nothing if the mesh has no vertex at this position. -/
def insert? (s : VertexSet) (position : Nat) : Option VertexSet :=
  if h : position < s.flags.size then some ⟨s.flags.set position true⟩ else none

/-- The positions whose flag is set, or those whose flag is not, in ascending order. -/
def flagged (s : VertexSet) (flag : Bool) : List Nat :=
  (List.range s.size).filter fun position => s.flags[position]? = some flag

/-- The members of the set, in ascending order. -/
def positions (s : VertexSet) : List Nat := s.flagged true

/-- The vertices that do not belong to the set, in ascending order. -/
def gaps (s : VertexSet) : List Nat := s.flagged false

/-- Whether every vertex belongs to the set. -/
def isFull (s : VertexSet) : Bool := s.flags.all id

@[simp] theorem size_empty (n : Nat) : (empty n).size = n := by
  simp [empty, size]

/-- **A vertex of the mesh can be inserted.** Its flag is set then, and no other flag changes. -/
theorem exists_insert?_eq_some {s : VertexSet} {position : Nat} (h : position < s.size) :
    ∃ u, s.insert? position = some u ∧ u.size = s.size ∧
      ∀ q, u.flags[q]? = if q = position then some true else s.flags[q]? := by
  refine ⟨_, dif_pos h, Array.size_set h, fun q => ?_⟩
  rw [Array.getElem?_set h]
  by_cases hq : q = position
  · rw [if_pos hq, if_pos hq.symm]
  · rw [if_neg hq, if_neg (Ne.symm hq)]

theorem lt_size_of_mem_flagged {s : VertexSet} {flag : Bool} {position : Nat}
    (h : position ∈ s.flagged flag) : position < s.size :=
  List.mem_range.1 (List.mem_filter.1 h).1

end VertexSet

end IndexedMesh
