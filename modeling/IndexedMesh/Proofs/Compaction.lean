import IndexedMesh.Vertex.Compaction
import IndexedMesh.Proofs.Index
import IndexedMesh.Proofs.Lists
import IndexedMesh.Proofs.Rank
import IndexedMesh.Proofs.VertexEntries

/-!
# Compaction follows the rank

The arrays of a compaction and its renumbering are computed apart from each other: the arrays from
the list of kept positions, the renumbering by a counter that runs over the flags. Here both are
described by the rank of a vertex among the kept ones, so that what a renumbered reference leads to
is what the reference led to before.

## Main results

* `VertexArrays.restrict` — the arrays cut down to a set, without the ways to fail.
* `compact_eq_ok_iff` — compaction succeeds exactly on aligned arrays and a set of their size, and
  then cuts the arrays down and numbers the members by rank.
* `VertexArrays.selects_restrict` — the arrays that are cut down hold the rows of the members.
* `Renumbering.indexAt?_ofKept`, `Renumbering.get?_ofKept` — the entry of a vertex is its rank if it
  is kept.
-/

namespace IndexedMesh

variable {t : IndexType}

/-! ## Cutting an array down -/

/-- The entries of an array at the members of a set. -/
def retained {α : Type} (items : Array α) (keep : VertexSet) : Array α :=
  (keep.positions.filterMap (items[·]?)).toArray

@[simp] theorem retained_empty {α : Type} (keep : VertexSet) :
    retained (#[] : Array α) keep = #[] := by
  simp [retained]

private theorem mapM_entry_eq_ok {α : Type} (items : Array α) :
    ∀ positions : List Nat, (∀ i ∈ positions, i < items.size) →
      positions.mapM (entry items) = .ok (positions.filterMap (items[·]?)) := by
  intro positions
  induction positions with
  | nil => intro _; rfl
  | cons i more ih =>
      intro h
      have hi : i < items.size := h i (by simp)
      have hSome : items[i]? = some items[i] := Array.getElem?_eq_getElem hi
      have hEntry : entry items i = .ok items[i] := by
        unfold entry
        rw [hSome]
      rw [List.mapM_cons, hEntry, ih (fun j hj => h j (by simp [hj])),
        List.filterMap_cons_some hSome]
      rfl

/-- Cutting down does not fail on an array that is absent or as long as the set. -/
theorem retain_eq_ok {α : Type} {items : Array α} {keep : VertexSet}
    (h : VertexArrays.Spans items keep.size) :
    retain items keep = .ok (retained items keep) := by
  unfold retain
  by_cases hEmpty : items.isEmpty = true
  · have hItems : items = #[] := Array.isEmpty_iff.1 hEmpty
    subst hItems
    rw [retained_empty]
    rfl
  · have hSize : items.size = keep.size := by
      rcases h with h0 | h
      · exact absurd (by simpa using h0) hEmpty
      · exact h
    rw [if_neg hEmpty, mapM_entry_eq_ok items keep.positions]
    · rfl
    · intro i hi
      rw [hSize]
      exact VertexSet.lt_size_of_mem_positions hi

/-- **What is kept keeps its entry**: it moves to its rank. -/
theorem getElem?_retained {α : Type} {items : Array α} {keep : VertexSet}
    (h : VertexArrays.Spans items keep.size) {k old : Nat}
    (hk : keep.positions[k]? = some old) : (retained items keep)[k]? = items[old]? := by
  rcases h with h0 | hSize
  · have hItems : items = #[] := Array.size_eq_zero_iff.1 h0
    subst hItems
    rw [retained_empty]
    rfl
  · rw [retained, List.getElem?_toArray, getElem?_filterMap_of_isSome, hk]
    · rfl
    · intro i hi
      have hLess : i < items.size := by
        rw [hSize]
        exact VertexSet.lt_size_of_mem_positions hi
      simp [hLess]

/-- An array that was present has one entry for each member, and an absent one stays absent. -/
theorem size_retained {α : Type} {items : Array α} {keep : VertexSet}
    (h : VertexArrays.Spans items keep.size) :
    (retained items keep).size = if items.size = 0 then 0 else keep.positions.length := by
  by_cases h0 : items.size = 0
  · have hItems : items = #[] := Array.size_eq_zero_iff.1 h0
    subst hItems
    rw [retained_empty]
    rfl
  · have hSize : items.size = keep.size := h.resolve_left h0
    rw [if_neg h0, retained, List.size_toArray, List.length_filterMap_eq_countP,
      List.countP_eq_length]
    intro i hi
    have hLess : i < items.size := by
      rw [hSize]
      exact VertexSet.lt_size_of_mem_positions hi
    simp [hLess]

namespace VertexArrays

/-- The arrays cut down to a set. -/
def restrict (arrays : VertexArrays) (keep : VertexSet) : VertexArrays where
  positions := retained arrays.positions keep
  normals := retained arrays.normals keep
  colors := retained arrays.colors keep
  texcoords := arrays.texcoords.map (retained · keep)

/-- **The row at the rank of a kept vertex is the row of the vertex.** -/
theorem entries_restrict {arrays : VertexArrays} {keep : VertexSet} (hAligned : arrays.Aligned)
    (hSize : keep.size = arrays.size) {k old : Nat} (hk : keep.positions[k]? = some old) :
    (arrays.restrict keep).entries k = arrays.entries old := by
  have hNormals : Spans arrays.normals keep.size := hSize ▸ hAligned.normals
  have hColors : Spans arrays.colors keep.size := hSize ▸ hAligned.colors
  have hSets : ∀ set ∈ arrays.texcoords, (retained set keep)[k]? = set[old]? := by
    intro set hSet
    exact getElem?_retained (hSize ▸ hAligned.texcoords set hSet) hk
  simp only [entries, restrict, List.map_map, VertexEntries.mk.injEq]
  refine ⟨?_, ?_, ?_, ?_⟩
  · exact getElem?_retained (.inr hSize.symm) hk
  · exact getElem?_retained hNormals hk
  · exact getElem?_retained hColors hk
  · exact List.map_congr_left hSets

theorem size_restrict {arrays : VertexArrays} {keep : VertexSet} (hSize : keep.size = arrays.size) :
    (arrays.restrict keep).size = keep.positions.length := by
  have h : (retained arrays.positions keep).size = _ := size_retained (.inr hSize.symm)
  rw [size, restrict, h]
  by_cases h0 : arrays.positions.size = 0
  · have hKeep : keep.size = 0 := by rw [hSize]; exact h0
    rw [if_pos h0, VertexSet.length_positions, hKeep, VertexSet.rank_zero]
  · rw [if_neg h0]

/-- The arrays `after` hold the rows of the vertices of a list, in its order, and have the channels
that `before` has. -/
structure Selects (before after : VertexArrays) (kept : List Nat) : Prop where
  size : after.size = kept.length
  normals : after.normals.size = if before.normals.size = 0 then 0 else kept.length
  colors : after.colors.size = if before.colors.size = 0 then 0 else kept.length
  texcoords : after.texcoords.map Array.size =
    before.texcoords.map fun set => if set.size = 0 then 0 else kept.length
  entries : ∀ k p, kept[k]? = some p → after.entries k = before.entries p

/-- **Cutting down to a set selects the members of the set.** -/
theorem selects_restrict {arrays : VertexArrays} {keep : VertexSet} (hAligned : arrays.Aligned)
    (hSize : keep.size = arrays.size) :
    Selects arrays (arrays.restrict keep) keep.positions := by
  have hSet : ∀ set ∈ arrays.texcoords, (retained set keep).size =
      if set.size = 0 then 0 else keep.positions.length := by
    intro set hMem
    exact size_retained (hSize ▸ hAligned.texcoords set hMem)
  refine
    { size := size_restrict hSize
      normals := size_retained (hSize ▸ hAligned.normals)
      colors := size_retained (hSize ▸ hAligned.colors)
      texcoords := ?_
      entries := fun k p hk => entries_restrict hAligned hSize hk }
  rw [restrict, List.map_map]
  exact List.map_congr_left hSet

/-- All vertices are a selection. -/
theorem selects_range {arrays : VertexArrays} (hAligned : arrays.Aligned) :
    Selects arrays arrays (List.range arrays.size) := by
  have hSpans : ∀ {α : Type} {items : Array α}, Spans items arrays.size →
      items.size = if items.size = 0 then 0 else arrays.size := by
    intro α items h
    unfold Spans at h
    split <;> omega
  refine
    { size := by rw [List.length_range]
      normals := by rw [List.length_range]; exact hSpans hAligned.normals
      colors := by rw [List.length_range]; exact hSpans hAligned.colors
      texcoords := ?_
      entries := fun k p hk => ?_ }
  · rw [List.length_range]
    exact List.map_congr_left fun set hSet => hSpans (hAligned.texcoords set hSet)
  · obtain ⟨hLess, rfl⟩ := List.getElem?_eq_some_iff.1 hk
    rw [List.getElem_range]

/-- Selected rows fill aligned arrays. -/
theorem Selects.aligned {before after : VertexArrays} {kept : List Nat}
    (h : Selects before after kept) : after.Aligned := by
  have hSize := h.size
  refine { normals := ?_, colors := ?_, texcoords := ?_ }
  · have hNormals := h.normals
    unfold Spans
    split at hNormals <;> omega
  · have hColors := h.colors
    unfold Spans
    split at hColors <;> omega
  · intro set hSet
    have hMem : set.size ∈ after.texcoords.map Array.size := List.mem_map_of_mem hSet
    rw [h.texcoords] at hMem
    obtain ⟨old, _, hOld⟩ := List.mem_map.1 hMem
    unfold Spans
    split at hOld <;> omega

end VertexArrays

/-! ## Handing out the new numbers -/

namespace Renumbering

/-- The entry of a position: its rank, if it is kept. -/
private def rankEntry (keep : VertexSet) (i : Nat) : Option (Index t) :=
  if keep.contains i then some (.ofPosition (keep.rank i)) else none

/-- The running counter is the rank of the position that it has come to. -/
private theorem number_counts (keep : VertexSet) :
    let run := keep.flags.foldl (number (t := t)) (0, #[])
    run.1 = keep.rank keep.size ∧ run.2.size = keep.size ∧
      ∀ i, i < keep.size → run.2[i]? = some (rankEntry keep i) := by
  refine Array.foldl_induction (fun n (run : Nat × Array (Option (Index t))) =>
    run.1 = keep.rank n ∧ run.2.size = n ∧
      ∀ i, i < n → run.2[i]? = some (rankEntry keep i)) ?_ ?_
  · exact ⟨rfl, rfl, fun i hi => absurd hi (by omega)⟩
  · rintro ⟨n, hn⟩ ⟨next, targets⟩ ⟨hNext, hTargets, hEntries⟩
    simp only at hNext hTargets hEntries
    have hFlag := VertexSet.contains_eq_getElem keep hn
    have hRank := VertexSet.rank_succ keep n
    have hPush : number (next, targets) keep.flags[n] =
        (keep.rank (n + 1), targets.push (rankEntry keep n)) := by
      unfold number rankEntry
      rw [hRank, hFlag, hNext]
      by_cases h : keep.flags[n] = true <;> simp [h]
    rw [Fin.getElem_fin, hPush]
    refine ⟨rfl, by rw [Array.size_push, hTargets], ?_⟩
    intro i hi
    by_cases hin : i = n
    · subst hin
      rw [Array.getElem?_push, if_pos hTargets.symm]
    · have hLess : i < n + 1 := hi
      rw [Array.getElem?_push, if_neg (by omega)]
      exact hEntries i (by omega)

@[simp] theorem domainSize_ofKept (keep : VertexSet) :
    (ofKept keep : Renumbering t).domainSize = keep.size :=
  (number_counts keep).2.1

/-- The entry at a position, whether or not an index refers to it. -/
def indexAt? (m : Renumbering t) (position : Nat) : Option (Index t) := (m.targets[position]?).join

/-- **The entry at a position is its rank, and only kept positions have one.** -/
theorem indexAt?_ofKept (keep : VertexSet) (position : Nat) :
    (ofKept keep : Renumbering t).indexAt? position =
      if keep.contains position then some (.ofPosition (keep.rank position)) else none := by
  obtain ⟨_, hSize, hEntries⟩ := number_counts (t := t) keep
  have hTargets : (ofKept keep : Renumbering t).targets =
      (keep.flags.foldl number (0, #[])).2 := rfl
  rw [indexAt?, hTargets]
  by_cases hLess : position < keep.size
  · rw [hEntries _ hLess]
    rfl
  · have hNone := VertexSet.contains_eq_false_of_size_le (s := keep) (i := position) (by omega)
    rw [Array.getElem?_eq_none (by omega), hNone]
    rfl

/-- **The new index of a vertex is its rank, and only kept vertices have one.** -/
theorem get?_ofKept (keep : VertexSet) (i : Index t) :
    (ofKept keep).get? i =
      if keep.contains i.position then some (.ofPosition (keep.rank i.position)) else none :=
  indexAt?_ofKept keep i.position

/-- A reference to a kept vertex becomes a reference to its rank. -/
theorem position_follow_ofKept {keep : VertexSet} (hType : t.Addresses keep.size) {i : Index t}
    (h : keep.contains i.position = true) :
    ((ofKept keep).follow i).position = keep.rank i.position := by
  rw [follow, get?_ofKept, if_pos h]
  exact hType i _ (VertexSet.lt_size_of_contains h) (VertexSet.rank_le keep i.position)

end Renumbering

/-! ## Compaction -/

/-- **Compaction succeeds exactly on aligned arrays and a set of their size.** -/
theorem compact_eq_ok_iff (arrays : VertexArrays) (keep : VertexSet) (c : Compaction t) :
    compact arrays keep = .ok c ↔
      arrays.Aligned ∧ keep.size = arrays.size ∧ c = ⟨arrays.restrict keep, .ofKept keep⟩ := by
  unfold compact
  by_cases hAligned : arrays.Aligned
  · rw [(VertexArrays.check_eq_ok_iff arrays).2 hAligned]
    by_cases hSize : keep.size = arrays.size
    · have hSets : arrays.texcoords.mapM (retain · keep) =
          .ok (arrays.texcoords.map (retained · keep)) :=
        mapM_eq_ok_map _ _ _ fun set hSet =>
          retain_eq_ok (hSize ▸ hAligned.texcoords set hSet)
      rw [retain_eq_ok (.inr hSize.symm : VertexArrays.Spans arrays.positions keep.size),
        retain_eq_ok (hSize ▸ hAligned.normals), retain_eq_ok (hSize ▸ hAligned.colors), hSets,
        if_neg (not_not_intro hSize)]
      show Except.ok _ = Except.ok c ↔ _
      rw [Except.ok.injEq]
      constructor
      · exact fun h => ⟨hAligned, hSize, h.symm⟩
      · exact fun h => h.2.2.symm
    · rw [if_pos hSize]
      constructor
      · intro h; cases h
      · exact fun h => absurd h.2.1 hSize
  · have hError : ∃ e, arrays.check = .error e := by
      cases hCheck : arrays.check with
      | ok u => exact absurd ((VertexArrays.check_eq_ok_iff arrays).1 hCheck) hAligned
      | error e => exact ⟨e, rfl⟩
    obtain ⟨e, hError⟩ := hError
    rw [hError]
    constructor
    · intro h; cases h
    · exact fun h => absurd h.1 hAligned

end IndexedMesh
