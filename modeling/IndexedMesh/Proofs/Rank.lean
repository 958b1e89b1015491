import IndexedMesh.Vertex.Set

/-!
# The rank of a vertex in a set

When only the vertices of a set are kept, a vertex that is kept moves down to the number of kept
vertices before it. That number is its rank. A compaction meets the rank twice: the arrays are cut
down by listing the members of the set, and the new indices are handed out by a running counter.
Both say the same because a member stands at its rank in the list of members.

## Main results

* `VertexSet.rank` — how many members stand before a position.
* `VertexSet.positions_rank` — a member stands at its rank in the list of members.
* `VertexSet.rank_le`, `VertexSet.rank_lt` — a rank is no greater than its position, and the ranks
  of members ascend.
* `VertexSet.mem_positions`, `VertexSet.positions_pairwise` — the list holds the members and no
  other positions, in ascending order.
* `VertexSet.length_positions_eq_count` — there are as many members as flags that are set.
-/

namespace IndexedMesh.VertexSet

/-! ## Membership -/

/-- Whether a vertex belongs to the set. A number that is not one of a vertex does not. -/
def contains (s : VertexSet) (position : Nat) : Bool := s.flags[position]? = some true

/-- The members of a set are the flags that are set. -/
theorem contains_iff_flag (s : VertexSet) (i : Nat) :
    s.contains i = true ↔ s.flags[i]? = some true :=
  decide_eq_true_iff

@[simp] theorem contains_empty (n i : Nat) : (empty n).contains i = false := by
  by_cases h : i < n <;> simp [empty, contains, h]

theorem contains_eq_getElem (s : VertexSet) {i : Nat} (h : i < s.flags.size) :
    s.contains i = s.flags[i] := by
  simp [contains, h]

theorem contains_eq_false_of_size_le {s : VertexSet} {i : Nat} (h : s.size ≤ i) :
    s.contains i = false := by
  have hNone : s.flags[i]? = none := Array.getElem?_eq_none h
  simp [contains, hNone]

theorem lt_size_of_contains {s : VertexSet} {i : Nat} (h : s.contains i = true) :
    i < s.size := by
  by_cases hLess : i < s.size
  · exact hLess
  · rw [contains_eq_false_of_size_le (by omega)] at h
    cases h

/-- A set is known by its size and its members. -/
theorem eq_of_contains_iff {s u : VertexSet} (hSize : s.size = u.size)
    (h : ∀ i, s.contains i = true ↔ u.contains i = true) : s = u := by
  obtain ⟨flags⟩ := s
  obtain ⟨flags'⟩ := u
  refine congrArg VertexSet.mk (Array.ext hSize fun i hi hi' => ?_)
  have hFlag := Bool.eq_iff_iff.2 (h i)
  rwa [contains_eq_getElem ⟨flags⟩ hi, contains_eq_getElem ⟨flags'⟩ hi'] at hFlag

theorem isFull_iff (s : VertexSet) :
    s.isFull = true ↔ ∀ i, i < s.size → s.contains i = true := by
  unfold isFull
  rw [Array.all_eq_true]
  constructor
  · intro h i hi
    rw [contains_eq_getElem s hi]
    exact h i hi
  · intro h i hi
    rw [id, ← contains_eq_getElem s hi]
    exact h i hi

/-! ## The list of members -/

theorem positions_eq_filter (s : VertexSet) :
    s.positions = (List.range s.size).filter s.contains := rfl

theorem mem_positions (s : VertexSet) (i : Nat) : i ∈ s.positions ↔ s.contains i = true := by
  simp only [positions_eq_filter, List.mem_filter, List.mem_range]
  constructor
  · exact fun h => h.2
  · exact fun h => ⟨lt_size_of_contains h, h⟩

theorem positions_pairwise (s : VertexSet) : s.positions.Pairwise (· < ·) :=
  List.Pairwise.filter _ List.pairwise_lt_range

theorem positions_nodup (s : VertexSet) : s.positions.Nodup :=
  (positions_pairwise s).imp Nat.ne_of_lt

/-- The members of a full set are all positions. -/
theorem positions_of_isFull {s : VertexSet} (h : s.isFull = true) :
    s.positions = List.range s.size :=
  List.filter_eq_self.2 fun i hi => (isFull_iff s).1 h i (List.mem_range.1 hi)

theorem lt_size_of_mem_positions {s : VertexSet} {i : Nat} (h : i ∈ s.positions) : i < s.size :=
  lt_size_of_mem_flagged h

/-! ## Ranks -/

/-- How many members stand before a position. -/
def rank (s : VertexSet) (i : Nat) : Nat := (List.range i).countP s.contains

@[simp] theorem rank_zero (s : VertexSet) : s.rank 0 = 0 := rfl

theorem rank_succ (s : VertexSet) (i : Nat) :
    s.rank (i + 1) = s.rank i + if s.contains i then 1 else 0 := by
  unfold rank
  rw [List.range_succ, List.countP_append, List.countP_singleton]

theorem rank_le (s : VertexSet) (i : Nat) : s.rank i ≤ i := by
  have h := List.countP_le_length (p := s.contains) (l := List.range i)
  simpa [rank] using h

theorem rank_mono (s : VertexSet) {i j : Nat} (h : i ≤ j) : s.rank i ≤ s.rank j := by
  induction j with
  | zero =>
      have hi : i = 0 := by omega
      subst hi
      exact Nat.le_refl _
  | succ j ih =>
      by_cases hij : i = j + 1
      · subst hij
        exact Nat.le_refl _
      · have hStep := rank_succ s j
        have hPrev := ih (by omega)
        omega

/-- A member raises the rank of all that stand after it. -/
theorem rank_lt {s : VertexSet} {i j : Nat} (h : s.contains i = true) (hij : i < j) :
    s.rank i < s.rank j := by
  have hStep := rank_succ s i
  have hMono := rank_mono s (show i + 1 ≤ j by omega)
  rw [h] at hStep
  simp only [if_true] at hStep
  omega

/-- All members stand before the end. -/
theorem length_positions (s : VertexSet) : s.positions.length = s.rank s.size := by
  rw [positions_eq_filter, rank, List.countP_eq_length_filter]

/-- The members before a position are the first ones of the list. -/
private theorem filter_range_getElem? (s : VertexSet) {i : Nat} (h : s.contains i = true) :
    ∀ n, i < n → ((List.range n).filter s.contains)[s.rank i]? = some i := by
  intro n
  induction n with
  | zero => intro hi; omega
  | succ n ih =>
      intro hi
      have hLength : ((List.range n).filter s.contains).length = s.rank n := by
        rw [rank, List.countP_eq_length_filter]
      rw [List.range_succ, List.filter_append]
      by_cases hin : i = n
      · subst hin
        rw [List.getElem?_append_right (by omega), hLength]
        simp [h]
      · have hLess : s.rank i < s.rank n := rank_lt h (by omega)
        rw [List.getElem?_append_left (by omega)]
        exact ih (by omega)

/-- **A member stands at its rank in the list of members.** -/
theorem positions_rank {s : VertexSet} {i : Nat} (h : s.contains i = true) :
    s.positions[s.rank i]? = some i :=
  filter_range_getElem? s h s.size (lt_size_of_contains h)

/-- What stands at some place of the list of members has the rank of that place. -/
theorem rank_of_getElem?_positions {s : VertexSet} {k i : Nat} (h : s.positions[k]? = some i) :
    s.contains i = true ∧ s.rank i = k := by
  have hContains := (mem_positions s i).1 (List.mem_of_getElem? h)
  obtain ⟨hk, -⟩ := List.getElem?_eq_some_iff.1 h
  have hSame := (positions_rank hContains).trans h.symm
  exact ⟨hContains, ((List.getElem?_inj hk (positions_nodup s)).1 hSame.symm).symm⟩

/-! ## How many members there are -/

private theorem map_contains_range (s : VertexSet) :
    (List.range s.size).map s.contains = s.flags.toList := by
  refine List.ext_getElem (by simp [size]) fun i hi _ => ?_
  rw [List.length_map, List.length_range] at hi
  rw [List.getElem_map, List.getElem_range, contains_eq_getElem s hi]
  rfl

/-- There are as many members as flags that are set. -/
theorem length_positions_eq_count (s : VertexSet) : s.positions.length = s.flags.count true := by
  rw [← Array.count_toList, ← map_contains_range, List.count_eq_countP, List.countP_map,
    positions_eq_filter, ← List.countP_eq_length_filter]
  exact List.countP_congr fun i _ => by simp

/-- A flag is set or it is not. -/
theorem count_true_add_count_false (s : VertexSet) :
    s.flags.count true + s.flags.count false = s.size := by
  have hSplit := List.length_eq_countP_add_countP (fun flag => flag == true) (l := s.flags.toList)
  rw [Array.length_toList] at hSplit
  rw [← Array.count_toList, ← Array.count_toList, List.count_eq_countP, List.count_eq_countP, size,
    hSplit]
  congr 1
  exact List.countP_congr fun flag _ => by cases flag <;> simp

end IndexedMesh.VertexSet
