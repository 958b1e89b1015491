import IndexedMesh.Proofs.Compaction

/-!
# Compaction selects in order

A compaction is described twice by the set of vertices that it keeps: what stands in its arrays, and
which number each kept vertex has got. The arrays are a selection whatever the index type is. The
numbers are stored as indices, so they can be told from each other only if the type can hold as many
positions as are kept; it need not be able to hold the positions that they replace.

The set may keep nothing. Then a channel that was present has no entries left, which is how an
absent channel looks, and the arrays pass their check as before.

## Main results

* `VertexArrays.Refuses` — why arrays are not cut down to a set.
* `Compaction.Selects` — the arrays hold what is kept, and what is missing is what is not.
* `Compaction.NumbersInOrder` — the kept vertices are numbered from zero in their order.
* `compact_selects_in_order` — **compaction is refused for the reasons above and for no other, and
  is a selection in order otherwise.**
-/

namespace IndexedMesh

variable {t : IndexType}

/-! ## Why compaction is refused -/

namespace VertexArrays

/-- **Why arrays are not cut down to a set.** The channels are looked at in order: the normals, the
colors, and the sets of texture coordinates by number. The first that is present and has not one
entry for each vertex is told. The size of the set is told only if there is no such channel. The
number of a set of texture coordinates is told in 32 bits. -/
inductive Refuses (arrays : VertexArrays) (keep : VertexSet) : Error → Prop
  | normals (hSize : ¬ Spans arrays.normals arrays.size) :
      Refuses arrays keep (.sizeMismatch (.channel .normal) arrays.size arrays.normals.size)
  | colors (hNormals : Spans arrays.normals arrays.size)
      (hSize : ¬ Spans arrays.colors arrays.size) :
      Refuses arrays keep (.sizeMismatch (.channel .color) arrays.size arrays.colors.size)
  | texcoords (number : Nat) (set : Array Texcoord)
      (hNormals : Spans arrays.normals arrays.size) (hColors : Spans arrays.colors arrays.size)
      (hSet : arrays.texcoords[number]? = some set)
      (hBefore : ∀ earlier < number, ∀ other, arrays.texcoords[earlier]? = some other →
        Spans other arrays.size)
      (hSize : ¬ Spans set arrays.size) :
      Refuses arrays keep
        (.sizeMismatch (.channel (.texcoord (UInt32.ofNat number))) arrays.size set.size)
  | selection (hAligned : arrays.Aligned) (hSize : keep.size ≠ arrays.size) :
      Refuses arrays keep (.sizeMismatch .selection arrays.size keep.size)

variable {arrays : VertexArrays} {keep : VertexSet}

/-- Whether a channel of some length is to be told. -/
private def isOff (arrays : VertexArrays) (channel : Channel × Nat) : Bool :=
  0 < channel.2 && channel.2 ≠ arrays.size

private theorem isOff_iff {α : Type} (items : Array α) (channel : Channel) :
    arrays.isOff (channel, items.size) = true ↔ ¬ Spans items arrays.size := by
  simp only [isOff, Bool.and_eq_true, decide_eq_true_eq, Spans]
  omega

private theorem isOff_eq_false {α : Type} {items : Array α} (channel : Channel)
    (h : Spans items arrays.size) : arrays.isOff (channel, items.size) = false := by
  rw [Bool.eq_false_iff]
  exact fun hOff => (isOff_iff items channel).1 hOff h

/-- The first mismatch, searched among all channels instead of those that are present. -/
private theorem mismatch?_eq (arrays : VertexArrays) :
    arrays.mismatch? =
      (((.normal, arrays.normals.size) :: (.color, arrays.colors.size) ::
        arrays.texcoords.zipIdx.map fun (set, number) =>
          (Channel.texcoord (UInt32.ofNat number), set.size)).find? arrays.isOff).map
        fun (channel, found) => { channel, expected := arrays.size, found } := by
  have hOff : (fun channel : Channel × Nat =>
      decide (decide (0 < channel.2) = true ∧ decide (channel.2 ≠ arrays.size) = true)) =
        arrays.isOff := by
    funext channel
    simp [isOff]
  rw [mismatch?, lengths, List.find?_filter, hOff]

/-- A refused compaction fails with the error that is told. -/
private theorem compact_of_refuses {e : Error} (h : arrays.Refuses keep e) :
    compact (t := t) arrays keep = .error e := by
  have hChannel : ∀ m, arrays.mismatch? = some m →
      compact (t := t) arrays keep = .error (.ofMismatch m) := by
    intro m hm
    unfold compact check
    rw [hm]
    rfl
  cases h with
  | normals hSize =>
      refine hChannel ⟨.normal, _, _⟩ ?_
      rw [mismatch?_eq, List.find?_cons_of_pos ((isOff_iff _ _).2 hSize)]
      rfl
  | colors hNormals hSize =>
      refine hChannel ⟨.color, _, _⟩ ?_
      rw [mismatch?_eq, List.find?_cons_of_neg (by simp [isOff_eq_false _ hNormals]),
        List.find?_cons_of_pos ((isOff_iff _ _).2 hSize)]
      rfl
  | texcoords number set hNormals hColors hSet hBefore hSize =>
      obtain ⟨hNumber, hGet⟩ := List.getElem?_eq_some_iff.1 hSet
      refine hChannel ⟨.texcoord (UInt32.ofNat number), _, _⟩ ?_
      rw [mismatch?_eq, List.find?_cons_of_neg (by simp [isOff_eq_false _ hNormals]),
        List.find?_cons_of_neg (by simp [isOff_eq_false _ hColors])]
      refine Option.map_eq_some_iff.2 ⟨(.texcoord (UInt32.ofNat number), set.size), ?_, rfl⟩
      rw [List.find?_eq_some_iff_getElem]
      refine ⟨(isOff_iff _ _).2 hSize, number, by simpa using hNumber, by simp [hGet], ?_⟩
      intro earlier hEarlier
      have hOther := hBefore earlier hEarlier _ (List.getElem?_eq_getElem (by omega))
      simp [isOff_eq_false _ hOther]
  | selection hAligned hSize =>
      unfold compact
      rw [(check_eq_ok_iff arrays).2 hAligned]
      simp only [bind, Except.bind, if_pos hSize]
      rfl

private theorem exists_refuses (h : ¬ (arrays.Aligned ∧ keep.size = arrays.size)) :
    ∃ e, arrays.Refuses keep e := by
  by_cases hNormals : Spans arrays.normals arrays.size
  case neg => exact ⟨_, .normals hNormals⟩
  by_cases hColors : Spans arrays.colors arrays.size
  case neg => exact ⟨_, .colors hNormals hColors⟩
  -- The first set that is off is found by the search of the check itself.
  cases hFind : arrays.texcoords.findIdx? (fun set => arrays.isOff (.position, set.size)) with
  | some number =>
      obtain ⟨hNumber, hOff, hBefore⟩ := List.findIdx?_eq_some_iff_getElem.1 hFind
      refine ⟨_, .texcoords number _ hNormals hColors (List.getElem?_eq_getElem hNumber) ?_
        ((isOff_iff _ _).1 hOff)⟩
      intro earlier hEarlier other hOther
      obtain ⟨_, rfl⟩ := List.getElem?_eq_some_iff.1 hOther
      exact Classical.not_not.1 fun hSpans =>
        hBefore earlier hEarlier ((isOff_iff _ _).2 hSpans)
  | none =>
      have hAligned : arrays.Aligned :=
        { normals := hNormals
          colors := hColors
          texcoords := fun set hSet => Classical.not_not.1 fun hSpans => by
            have hOff := List.findIdx?_eq_none_iff.1 hFind set hSet
            rw [(isOff_iff set .position).2 hSpans] at hOff
            cases hOff }
      exact ⟨_, .selection hAligned fun hSize => h ⟨hAligned, hSize⟩⟩

/-- What is refused is not aligned, or not of the size of the set. -/
theorem exists_refuses_iff :
    (∃ e, arrays.Refuses keep e) ↔ ¬ (arrays.Aligned ∧ keep.size = arrays.size) := by
  refine ⟨?_, exists_refuses⟩
  rintro ⟨e, hRefuses⟩ ⟨hAligned, hSize⟩
  have hOk := (compact_eq_ok_iff (t := .stored) arrays keep _).2 ⟨hAligned, hSize, rfl⟩
  rw [compact_of_refuses hRefuses] at hOk
  cases hOk

/-- The number that is told for a set of texture coordinates is its own, if all can be told. -/
theorem Refuses.texcoord_number {number : UInt32} {expected found : Nat}
    (h : arrays.Refuses keep (.sizeMismatch (.channel (.texcoord number)) expected found))
    (hSets : arrays.texcoords.length ≤ UInt32.size) :
    (arrays.texcoords[number.toNat]?).map Array.size = some found := by
  cases h with
  | texcoords place set _ _ hSet _ _ =>
      have hPlace : place < UInt32.size := by
        obtain ⟨hLess, -⟩ := List.getElem?_eq_some_iff.1 hSet
        omega
      rw [UInt32.toNat_ofNat_of_lt' hPlace, hSet]
      rfl

end VertexArrays

/-- **Compaction fails exactly when it is refused**, and with the reason that is told. -/
theorem compact_eq_error_iff (arrays : VertexArrays) (keep : VertexSet) (e : Error) :
    compact (t := t) arrays keep = .error e ↔ arrays.Refuses keep e := by
  refine ⟨fun h => ?_, VertexArrays.compact_of_refuses⟩
  have hNot : ¬ (arrays.Aligned ∧ keep.size = arrays.size) := fun hFits => by
    have hOk := (compact_eq_ok_iff (t := t) arrays keep _).2 ⟨hFits.1, hFits.2, rfl⟩
    rw [h] at hOk
    cases hOk
  obtain ⟨e', hRefuses⟩ := VertexArrays.exists_refuses_iff.2 hNot
  cases h.symm.trans (VertexArrays.compact_of_refuses hRefuses)
  exact hRefuses

/-! ## What a compaction holds -/

namespace Compaction

/-- **The arrays hold what is kept.** A channel that was present has one entry for each vertex that
is kept, an absent one stays absent in its place, the arrays pass their check, and what is missing
is counted by the flags that are not set. -/
structure Selects (c : Compaction t) (arrays : VertexArrays) (keep : VertexSet) : Prop where
  size : c.arrays.size = keep.flags.count true
  normals : c.arrays.normals.size =
    if arrays.normals.size = 0 then 0 else keep.flags.count true
  colors : c.arrays.colors.size =
    if arrays.colors.size = 0 then 0 else keep.flags.count true
  texcoords : c.arrays.texcoords.map Array.size =
    arrays.texcoords.map fun set => if set.size = 0 then 0 else keep.flags.count true
  checked : c.arrays.check = .ok ()
  removed : c.removed = keep.flags.count false
  noUnderflow : c.arrays.size ≤ c.renumbering.domainSize

/-- **The kept vertices are numbered from zero in their order.** Exactly they have a number, the
numbers ascend with them, the numbers are those below their count, and the row of a number is the
row of the vertex that has it. -/
structure NumbersInOrder (c : Compaction t) (arrays : VertexArrays) (keep : VertexSet) :
    Prop where
  defined : ∀ p, (c.renumbering.indexAt? p).isSome = true ↔ keep.flags[p]? = some true
  ascending : ∀ p q i j, c.renumbering.indexAt? p = some i → c.renumbering.indexAt? q = some j →
    p < q → i.position < j.position
  onto : ∀ k, (∃ p i, c.renumbering.indexAt? p = some i ∧ i.position = k) ↔
    k < keep.flags.count true
  entries : ∀ p i, c.renumbering.indexAt? p = some i →
    c.arrays.entries i.position = arrays.entries p

variable {arrays : VertexArrays} {keep : VertexSet}

/-- Cutting down selects. -/
theorem selects_ofKept (hAligned : arrays.Aligned) (hSize : keep.size = arrays.size) :
    Selects (⟨arrays.restrict keep, .ofKept keep⟩ : Compaction t) arrays keep := by
  have hSelects := VertexArrays.selects_restrict hAligned hSize
  have hCount := keep.length_positions_eq_count
  have hSplit := keep.count_true_add_count_false
  have hKept := hSelects.size
  exact
    { size := hCount ▸ hSelects.size
      normals := hCount ▸ hSelects.normals
      colors := hCount ▸ hSelects.colors
      texcoords := hCount ▸ hSelects.texcoords
      checked := (VertexArrays.check_eq_ok_iff _).2 hSelects.aligned
      removed := by
        simp only [removed, Renumbering.domainSize_ofKept]
        omega
      noUnderflow := by
        simp only [Renumbering.domainSize_ofKept]
        omega }

/-- A kept vertex has its rank as its number, if the type can hold as many as are kept. -/
private theorem position_indexAt_ofKept (hCapacity : keep.flags.count true ≤ t.capacity) {p : Nat}
    {i : Index t} (h : (Renumbering.ofKept keep : Renumbering t).indexAt? p = some i) :
    keep.contains p = true ∧ i.position = keep.rank p := by
  rw [Renumbering.indexAt?_ofKept] at h
  by_cases hKept : keep.contains p = true
  · rw [if_pos hKept] at h
    cases h
    obtain ⟨hLess, -⟩ := List.getElem?_eq_some_iff.1 (VertexSet.positions_rank hKept)
    rw [VertexSet.length_positions_eq_count] at hLess
    exact ⟨hKept, IndexType.position_ofPosition (by omega)⟩
  · rw [if_neg hKept] at h
    cases h

/-- Numbering the members of a set keeps their order. -/
theorem numbersInOrder_ofKept (hAligned : arrays.Aligned) (hSize : keep.size = arrays.size)
    (hCapacity : keep.flags.count true ≤ t.capacity) :
    NumbersInOrder (⟨arrays.restrict keep, .ofKept keep⟩ : Compaction t) arrays keep where
  defined p := by
    rw [Renumbering.indexAt?_ofKept]
    rw [← VertexSet.contains_iff_flag]
    cases keep.contains p <;> simp
  ascending p q i j hp hq hLess := by
    obtain ⟨hKept, hi⟩ := position_indexAt_ofKept hCapacity hp
    obtain ⟨-, hj⟩ := position_indexAt_ofKept hCapacity hq
    rw [hi, hj]
    exact VertexSet.rank_lt hKept hLess
  onto k := by
    rw [← VertexSet.length_positions_eq_count]
    constructor
    · rintro ⟨p, i, hp, rfl⟩
      obtain ⟨hKept, hi⟩ := position_indexAt_ofKept hCapacity hp
      rw [hi]
      exact (List.getElem?_eq_some_iff.1 (VertexSet.positions_rank hKept)).1
    · intro hk
      obtain ⟨hKept, hRank⟩ :=
        VertexSet.rank_of_getElem?_positions (List.getElem?_eq_getElem hk)
      have hIndex := Renumbering.indexAt?_ofKept (t := t) keep keep.positions[k]
      rw [if_pos hKept] at hIndex
      exact ⟨_, _, hIndex, (position_indexAt_ofKept hCapacity hIndex).2.trans hRank⟩
  entries p i hp := by
    obtain ⟨hKept, hi⟩ := position_indexAt_ofKept hCapacity hp
    rw [hi]
    exact VertexArrays.entries_restrict hAligned hSize (VertexSet.positions_rank hKept)

end Compaction

/-! ## Compaction -/

/-- **Compaction is a selection in order.** It fails exactly for the first channel that is present
and off, or else for a set of another size, and says which; the number of a set of texture
coordinates is the true one. Otherwise it gives the arrays cut down to what is kept, and for every
index type that can hold as many positions as are kept, the numbers are the one ascending bijection
from the kept positions onto those below their count. -/
theorem compact_selects_in_order (arrays : VertexArrays) (keep : VertexSet) :
    (∀ e, compact (t := t) arrays keep = .error e ↔ arrays.Refuses keep e) ∧
    ((∃ e, arrays.Refuses keep e) ↔ ¬ (arrays.Aligned ∧ keep.size = arrays.size)) ∧
    (∀ number expected found,
      arrays.Refuses keep (.sizeMismatch (.channel (.texcoord number)) expected found) →
        arrays.texcoords.length ≤ UInt32.size →
          (arrays.texcoords[number.toNat]?).map Array.size = some found) ∧
    ((∀ e, ¬ arrays.Refuses keep e) →
      ∃ c : Compaction t, compact arrays keep = .ok c ∧ c.Selects arrays keep ∧
        (keep.flags.count true ≤ t.capacity → c.NumbersInOrder arrays keep)) := by
  refine ⟨compact_eq_error_iff arrays keep, VertexArrays.exists_refuses_iff,
    fun _ _ _ => VertexArrays.Refuses.texcoord_number, fun hAccepted => ?_⟩
  obtain ⟨hAligned, hSize⟩ : arrays.Aligned ∧ keep.size = arrays.size :=
    Classical.not_not.1 fun hNot => by
      obtain ⟨e, hRefuses⟩ := VertexArrays.exists_refuses_iff.2 hNot
      exact hAccepted e hRefuses
  exact ⟨_, (compact_eq_ok_iff arrays keep _).2 ⟨hAligned, hSize, rfl⟩,
    Compaction.selects_ofKept hAligned hSize, Compaction.numbersInOrder_ofKept hAligned hSize⟩

/-- Three vertices whose first set of texture coordinates is absent. The second has the given
length. -/
def secondSet (length : Nat) : VertexArrays where
  positions := #[⟨0, 0, 0⟩, ⟨1, 0, 0⟩, ⟨0, 1, 0⟩]
  texcoords := [#[], Array.replicate length ⟨0, 1⟩]

/-- The first and the last of three vertices. -/
def outerTwo : VertexSet := ⟨#[true, false, true]⟩

/-- The outer two of three vertices are kept, and a short set is told by its number. -/
theorem compact_selects_in_order_outerTwo :
    (∃ c : Compaction .signedByte, compact (secondSet 3) outerTwo = .ok c ∧
      c.Selects (secondSet 3) outerTwo ∧ c.NumbersInOrder (secondSet 3) outerTwo) ∧
    (secondSet 2).Refuses outerTwo (.sizeMismatch (.channel (.texcoord 1)) 3 2) ∧
    ((secondSet 2).texcoords[1]?).map Array.size = some 2 := by
  have hAligned : (secondSet 3).Aligned := (VertexArrays.check_eq_ok_iff _).1 rfl
  obtain ⟨-, hRefuses, -, hSelects⟩ :=
    compact_selects_in_order (t := .signedByte) (secondSet 3) outerTwo
  obtain ⟨hError, -, hNumber, -⟩ :=
    compact_selects_in_order (t := .signedByte) (secondSet 2) outerTwo
  have hShort : (secondSet 2).Refuses outerTwo (.sizeMismatch (.channel (.texcoord 1)) 3 2) :=
    (hError _).1 rfl
  refine ⟨?_, hShort, hNumber _ _ _ hShort (by decide)⟩
  obtain ⟨c, hOk, hHolds, hNumbers⟩ := hSelects fun e hRefused =>
    hRefuses.1 ⟨e, hRefused⟩ ⟨hAligned, rfl⟩
  exact ⟨c, hOk, hHolds, hNumbers (by decide)⟩

end IndexedMesh
