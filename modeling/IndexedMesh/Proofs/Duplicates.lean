import IndexedMesh.Vertex.Duplicates
import IndexedMesh.Proofs.Equality
import IndexedMesh.Proofs.Index

/-!
# The vertex that stands for its equals

Equality of vertices is symmetric and transitive, so the first vertex of a group of equal ones is
the first equal of every other member, and none of them comes before it. A vertex with a component
that is not a number stands alone and for itself.

The scan compares each vertex with those before it and enters only what it finds. Here its result
is described entry by entry, so that nothing has to be known of the order of the scan any more.

## Main results

* `VertexArrays.earlier?`, `VertexArrays.representative` — the first equal before a vertex, and the
  vertex that stands for it.
* `VertexArrays.representative_eq_iff` — which vertices have a common representative.
* `VertexArrays.earlier?_representative` — a representative has no equal before it.
* `findDuplicates_eq_ok` — the scan succeeds on aligned arrays and enters the first equals.
* `Renumbering.position_follow_duplicates` — a reference becomes one to the representative.
-/

namespace IndexedMesh

variable {t : IndexType}

namespace VertexArrays

/-! ## Groups of equal vertices -/

/-- Whether two vertices are equal in every channel. -/
def equal (arrays : VertexArrays) (a b : Nat) : Bool := (arrays.entries a).equals (arrays.entries b)

/-- The first vertex before `b` that equals it. -/
def earlier? (arrays : VertexArrays) (b : Nat) : Option Nat :=
  (List.range b).find? (arrays.equal · b)

/-- The vertex that stands for `b`: the first one that equals it, or else `b` itself. -/
def representative (arrays : VertexArrays) (b : Nat) : Nat := (arrays.earlier? b).getD b

theorem equal_symm {arrays : VertexArrays} {a b : Nat} (h : arrays.equal a b = true) :
    arrays.equal b a = true :=
  VertexEntries.equals_symm h

theorem equal_trans {arrays : VertexArrays} {a b c : Nat} (hab : arrays.equal a b = true)
    (hbc : arrays.equal b c = true) : arrays.equal a c = true :=
  VertexEntries.equals_trans hab hbc

theorem equal_self_iff (arrays : VertexArrays) (a : Nat) :
    arrays.equal a a = true ↔ (arrays.entries a).hasNaN = false :=
  VertexEntries.equals_self_iff _

/-- Among the vertices of aligned arrays the comparison decides equality. -/
theorem same?_eq_some_true_iff {arrays : VertexArrays} (hAligned : arrays.Aligned) {a b : Nat}
    (ha : a < arrays.size) (hb : b < arrays.size) :
    arrays.same? a b = some true ↔ arrays.equal a b = true := by
  rw [same?_eq hAligned ha hb, Option.some.injEq]
  rfl

theorem earlier?_eq_some_iff (arrays : VertexArrays) (a b : Nat) :
    arrays.earlier? b = some a ↔
      a < b ∧ arrays.equal a b = true ∧ ∀ c, c < a → ¬ arrays.equal c b = true := by
  rw [earlier?, List.find?_range_eq_some]
  simp only [List.mem_range, Bool.not_eq_true', Bool.not_eq_true]
  constructor
  · rintro ⟨hEqual, hLess, hFirst⟩
    exact ⟨hLess, hEqual, hFirst⟩
  · rintro ⟨hLess, hEqual, hFirst⟩
    exact ⟨hEqual, hLess, hFirst⟩

theorem earlier?_eq_none_iff (arrays : VertexArrays) (b : Nat) :
    arrays.earlier? b = none ↔ ∀ a, a < b → ¬ arrays.equal a b = true := by
  simp only [earlier?, List.find?_eq_none, List.mem_range]

theorem isSome_earlier?_iff (arrays : VertexArrays) (b : Nat) :
    (arrays.earlier? b).isSome = true ↔ ∃ a, a < b ∧ arrays.equal a b = true := by
  simp only [earlier?, List.find?_isSome, List.mem_range]

theorem representative_le (arrays : VertexArrays) (b : Nat) : arrays.representative b ≤ b := by
  unfold representative
  cases hEarlier : arrays.earlier? b with
  | none => exact Nat.le_refl b
  | some a => exact Nat.le_of_lt ((earlier?_eq_some_iff arrays a b).1 hEarlier).1

/-- A vertex is equal to the one that stands for it, if it is equal to any. -/
theorem equal_representative {arrays : VertexArrays} {b : Nat}
    (h : (arrays.entries b).hasNaN = false) :
    arrays.equal (arrays.representative b) b = true := by
  unfold representative
  cases hEarlier : arrays.earlier? b with
  | none => exact (equal_self_iff arrays b).2 h
  | some a => exact ((earlier?_eq_some_iff arrays a b).1 hEarlier).2.1

/-- A vertex that is not equal to itself is not equal to any before it, so it stands for itself. -/
theorem representative_eq_self {arrays : VertexArrays} {b : Nat}
    (h : (arrays.entries b).hasNaN = true) : arrays.representative b = b := by
  have hNone : arrays.earlier? b = none := by
    rw [earlier?_eq_none_iff]
    intro a _ hEqual
    have hb := VertexEntries.hasNaN_eq_false_of_equals (equal_symm hEqual)
    rw [h] at hb
    cases hb
  rw [representative, hNone]
  rfl

/-- **A representative comes first in its group**: nothing equal to the vertex is before it. -/
theorem representative_le_of_equal {arrays : VertexArrays} {a b : Nat}
    (h : arrays.equal a b = true) : arrays.representative b ≤ a := by
  unfold representative
  cases hEarlier : arrays.earlier? b with
  | none =>
      refine Nat.le_of_not_lt fun hLess => ?_
      exact (earlier?_eq_none_iff arrays b).1 hEarlier a hLess h
  | some c =>
      refine Nat.le_of_not_lt fun hLess => ?_
      exact ((earlier?_eq_some_iff arrays c b).1 hEarlier).2.2 a hLess h

/-- Equal vertices have one representative. -/
theorem representative_eq_of_equal {arrays : VertexArrays} {a b : Nat}
    (h : arrays.equal a b = true) : arrays.representative a = arrays.representative b := by
  have ha := equal_representative (VertexEntries.hasNaN_eq_false_of_equals h)
  have hb := equal_representative (VertexEntries.hasNaN_eq_false_of_equals (equal_symm h))
  have hLe := representative_le_of_equal (equal_trans ha h)
  have hGe := representative_le_of_equal (equal_trans hb (equal_symm h))
  omega

/-- **Vertices have a common representative exactly if they are equal**, or the same one. -/
theorem representative_eq_iff (arrays : VertexArrays) (a b : Nat) :
    arrays.representative a = arrays.representative b ↔ a = b ∨ arrays.equal a b = true := by
  constructor
  · intro h
    by_cases ha : (arrays.entries a).hasNaN = true
    · by_cases hb : (arrays.entries b).hasNaN = true
      · rw [representative_eq_self ha, representative_eq_self hb] at h
        exact .inl h
      · have hEqual := equal_representative (by simpa using hb : (arrays.entries b).hasNaN = false)
        rw [← h, representative_eq_self ha] at hEqual
        exact .inr hEqual
    · have hEqual := equal_representative (by simpa using ha : (arrays.entries a).hasNaN = false)
      by_cases hb : (arrays.entries b).hasNaN = true
      · rw [h, representative_eq_self hb] at hEqual
        exact .inr (equal_symm hEqual)
      · have hEqual' := equal_representative (by simpa using hb : (arrays.entries b).hasNaN = false)
        rw [h] at hEqual
        exact .inr (equal_trans (equal_symm hEqual) hEqual')
  · rintro (rfl | h)
    · rfl
    · exact representative_eq_of_equal h

/-- **A representative stands for itself**: it has no equal before it. -/
theorem earlier?_representative (arrays : VertexArrays) (b : Nat) :
    arrays.earlier? (arrays.representative b) = none := by
  rw [earlier?_eq_none_iff]
  intro a hLess hEqual
  by_cases hb : (arrays.entries b).hasNaN = true
  · have hNumber := VertexEntries.hasNaN_eq_false_of_equals (equal_symm hEqual)
    rw [representative_eq_self hb, hb] at hNumber
    cases hNumber
  · have hOwn := equal_representative (by simpa using hb : (arrays.entries b).hasNaN = false)
    have hFirst := representative_le_of_equal (equal_trans hEqual hOwn)
    omega

theorem representative_representative (arrays : VertexArrays) (b : Nat) :
    arrays.representative (arrays.representative b) = arrays.representative b := by
  rw [representative, earlier?_representative]
  rfl

/-! ## The scan -/

/-- The search from `a` on finds the first equal among `left` vertices. -/
private theorem firstEqual?_eq_ok {arrays : VertexArrays} (hAligned : arrays.Aligned) {b : Nat}
    (hb : b < arrays.size) :
    ∀ left a : Nat, a + left ≤ arrays.size →
      firstEqual? arrays b left a = .ok ((List.range' a left).find? (arrays.equal · b)) := by
  intro left
  induction left with
  | zero => intro a _; rfl
  | succ left ih =>
      intro a hRange
      have hSame : arrays.same? a b = some (arrays.equal a b) :=
        same?_eq hAligned (by omega) hb
      rw [firstEqual?, hSame, List.range'_succ, List.find?_cons]
      cases arrays.equal a b with
      | true => rfl
      | false => exact ih (a + 1) (by omega)

theorem firstEqual?_eq_earlier? {arrays : VertexArrays} (hAligned : arrays.Aligned) {b : Nat}
    (hb : b < arrays.size) : firstEqual? arrays b b 0 = .ok (arrays.earlier? b) := by
  rw [firstEqual?_eq_ok hAligned hb b 0 (by omega), earlier?, List.range_eq_range']

/-- The entries of the first `n` vertices: each is renumbered to the first equal before it. -/
private def mergedBefore (arrays : VertexArrays) (n : Nat) : Renumbering t :=
  ⟨((List.range arrays.size).map fun b =>
    if b < n then (arrays.earlier? b).map .ofPosition else none).toArray⟩

/-- Each vertex is renumbered to the first equal before it, if there is one. -/
def duplicates (arrays : VertexArrays) : Renumbering t :=
  ⟨((List.range arrays.size).map fun b => (arrays.earlier? b).map .ofPosition).toArray⟩

private theorem getElem?_mergedBefore (arrays : VertexArrays) {n b : Nat} (hb : b < arrays.size) :
    (mergedBefore (t := t) arrays n).targets[b]? =
      some (if b < n then (arrays.earlier? b).map .ofPosition else none) := by
  simp [mergedBefore, hb]

private theorem mergedBefore_succ_of_none {arrays : VertexArrays} {b : Nat}
    (h : arrays.earlier? b = none) :
    mergedBefore (t := t) arrays (b + 1) = mergedBefore arrays b := by
  have hEntries : ∀ c, (if c < b + 1 then (arrays.earlier? c).map Index.ofPosition else none) =
      if c < b then (arrays.earlier? c).map (Index.ofPosition (t := t)) else none := by
    intro c
    by_cases hc : c = b
    · subst hc
      simp [h]
    · have hIff : c < b + 1 ↔ c < b := by omega
      simp only [hIff]
  simp only [mergedBefore, hEntries]

private theorem insert?_mergedBefore {arrays : VertexArrays} {b a : Nat} (hb : b < arrays.size)
    (h : arrays.earlier? b = some a) :
    (mergedBefore (t := t) arrays b).insert? b (.ofPosition a) =
      some (mergedBefore arrays (b + 1), none) := by
  have hOld := getElem?_mergedBefore (t := t) arrays (n := b) hb
  rw [if_neg (Nat.lt_irrefl b)] at hOld
  have hNew : (mergedBefore (t := t) arrays b).targets.setIfInBounds b (some (.ofPosition a)) =
      (mergedBefore (t := t) arrays (b + 1)).targets := by
    apply Array.ext
    · simp [mergedBefore]
    · intro c hc hc'
      have hLess : c < arrays.size := by simpa [mergedBefore] using hc'
      rw [Array.getElem_setIfInBounds (by simpa [mergedBefore] using hc')]
      simp only [mergedBefore, List.getElem_toArray, List.getElem_map, List.getElem_range]
      by_cases hcb : b = c
      · subst hcb
        rw [if_pos rfl, if_pos (Nat.lt_succ_self b), h]
        rfl
      · have hIff : c < b + 1 ↔ c < b := by omega
        rw [if_neg hcb]
        simp only [hIff]
  rw [Renumbering.insert?, hOld]
  simp only [hNew]

/-- What has been entered up to a vertex grows with it. -/
private theorem mergeFrom_eq_ok {arrays : VertexArrays} (hAligned : arrays.Aligned) :
    ∀ left b : Nat, left = 0 ∨ b + left ≤ arrays.size →
      mergeFrom (t := t) arrays left b (mergedBefore arrays b) =
        .ok (mergedBefore arrays (b + left)) := by
  intro left
  induction left with
  | zero => intro b _; rfl
  | succ left ih =>
      intro b hRange
      have hb : b < arrays.size := by omega
      have hNext := ih (b + 1) (by omega)
      rw [mergeFrom, firstEqual?_eq_earlier? hAligned hb]
      cases hEarlier : arrays.earlier? b with
      | none =>
          rw [mergedBefore_succ_of_none hEarlier] at hNext
          rw [show b + (left + 1) = b + 1 + left by omega]
          exact hNext
      | some a =>
          rw [show b + (left + 1) = b + 1 + left by omega]
          dsimp only [bind, Except.bind]
          rw [insert?_mergedBefore hb hEarlier]
          exact hNext

/-- The first vertex has none before it, so the scan may start with the second. -/
private theorem mergedBefore_one (arrays : VertexArrays) :
    mergedBefore (t := t) arrays 1 = .empty arrays.size := by
  have hFirst : ∀ b, (if b < 1 then (arrays.earlier? b).map (Index.ofPosition (t := t)) else none) =
      none := by
    intro b
    by_cases hb : b < 1
    · have h0 : b = 0 := by omega
      subst h0
      rfl
    · rw [if_neg hb]
  simp only [mergedBefore, hFirst, Renumbering.empty, List.map_const', List.length_range]
  rw [List.toArray_replicate]

end VertexArrays

open VertexArrays

/-- **The scan succeeds on aligned arrays** and enters the first equal of each vertex. -/
theorem findDuplicates_eq_ok {arrays : VertexArrays} (hAligned : arrays.Aligned) :
    findDuplicates (t := t) arrays = .ok arrays.duplicates := by
  have hAll : mergedBefore (t := t) arrays (1 + (arrays.size - 1)) = arrays.duplicates := by
    simp only [mergedBefore, duplicates]
    congr 2
    refine List.map_congr_left fun b hb => ?_
    rw [if_pos (by have := List.mem_range.1 hb; omega)]
  have hScan := mergeFrom_eq_ok (t := t) hAligned (arrays.size - 1) 1 (by omega)
  rw [mergedBefore_one, hAll] at hScan
  rw [findDuplicates, (check_eq_ok_iff arrays).2 hAligned]
  exact hScan

namespace Renumbering

/-- How many vertices are renumbered: those with an equal before them. -/
theorem size_duplicates (arrays : VertexArrays) :
    (arrays.duplicates : Renumbering t).size =
      (List.range arrays.size).countP fun b => (arrays.earlier? b).isSome := by
  simp only [size, duplicates, List.countP_toArray, List.countP_map]
  refine List.countP_congr fun b _ => ?_
  simp

/-- **A reference becomes one to the representative.** -/
theorem position_follow_duplicates {arrays : VertexArrays} (hType : t.Addresses arrays.size)
    {i : Index t} (hi : i.position < arrays.size) :
    ((arrays.duplicates : Renumbering t).follow i).position = arrays.representative i.position := by
  have hEntry : (arrays.duplicates : Renumbering t).get? i =
      (arrays.earlier? i.position).map .ofPosition := by
    simp [get?, duplicates, hi]
  rw [follow, hEntry, representative]
  cases hEarlier : arrays.earlier? i.position with
  | none => rfl
  | some a =>
      have hLess := ((earlier?_eq_some_iff arrays a i.position).1 hEarlier).1
      exact hType i a hi (by omega)

end Renumbering

end IndexedMesh
