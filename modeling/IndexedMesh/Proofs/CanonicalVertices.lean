import IndexedMesh.Proofs.Compaction
import IndexedMesh.Proofs.Duplicates

/-!
# One look backwards finds the canonical vertex

The scan for duplicates looks for an equal of each vertex once and never follows what it has found
any further. That is enough because the first equal of a vertex is in no need of being renumbered
itself: an equal before it would also be an equal of the vertex, and an earlier one. The entries of
the scan therefore form no chains, whatever the channels hold, and following them a second time
changes nothing.

Equality of vertices is not reflexive. A vertex with a component that is not a number has no equal,
so it has no entry, no entry leads to it, and it shares its place with no other vertex.

All of this is about the entries as positions, so the index type has to hold the position of every
vertex.

## Main results

* `Renumbering.standIn` — the vertex that a renumbering lets stand for another.
* `Renumbering.follow_follow`, `Renumbering.standIn_standIn` — without chains, twice is once.
* `Renumbering.Canonical` — what it is for a renumbering to lead to canonical vertices.
* `findDuplicates_canonical` — **the scan leads to canonical vertices.**
-/

namespace IndexedMesh

variable {t : IndexType} {arrays : VertexArrays}

/-! ## Comparing positions of any size -/

namespace VertexArrays

/-- The comparison has no answer for a vertex that is not there. -/
theorem lt_size_of_same? {a b : Nat} {answer : Bool} (h : arrays.same? a b = some answer) :
    a < arrays.size ∧ b < arrays.size := by
  have hBoth : equalAt? arrays.positions a b ≠ none := by
    intro hNone
    simp [same?, hNone] at h
  constructor
  · refine Nat.lt_of_not_le fun ha => hBoth ?_
    have hNone : arrays.positions[a]? = none := Array.getElem?_eq_none ha
    simp [equalAt?, hNone]
  · refine Nat.lt_of_not_le fun hb => hBoth ?_
    have hNone : arrays.positions[b]? = none := Array.getElem?_eq_none hb
    simp [equalAt?, hNone]

/-- The first equal of a vertex, in terms of the comparison. -/
theorem earlier?_eq_some_iff_same? (hAligned : arrays.Aligned) {a b : Nat} (hb : b < arrays.size) :
    arrays.earlier? b = some a ↔
      a < b ∧ arrays.same? a b = some true ∧ ∀ c < a, arrays.same? c b = some false := by
  rw [earlier?_eq_some_iff]
  refine and_congr_right fun ha => and_congr ?_ (forall₂_congr fun c hc => ?_)
  · exact (same?_eq_some_true_iff hAligned (by omega) hb).symm
  · rw [same?_eq hAligned (by omega) hb, Option.some.injEq, Bool.not_eq_true]
    rfl

end VertexArrays

/-! ## Renumberings without chains -/

namespace Renumbering

/-- The vertex that stands for another: the one that its entry leads to, or else itself. -/
def standIn (m : Renumbering t) (b : Nat) : Nat := ((m.indexAt? b).map Index.position).getD b

/-- What an entry leads to has no entry itself. -/
def Unchained (m : Renumbering t) : Prop :=
  ∀ b i, m.indexAt? b = some i → m.indexAt? i.position = none

/-- **Without chains, a reference that has been replaced is not replaced again.** -/
theorem follow_follow {m : Renumbering t} (h : m.Unchained) (i : Index t) :
    m.follow (m.follow i) = m.follow i := by
  cases hEntry : m.indexAt? i.position with
  | none =>
      have hSelf : m.follow i = i := by
        rw [follow, show m.get? i = none from hEntry]
        rfl
      rw [hSelf, hSelf]
  | some j =>
      have hNew : m.follow i = j := by
        rw [follow, show m.get? i = some j from hEntry]
        rfl
      rw [hNew, follow, show m.get? j = none from h _ j hEntry]
      rfl

/-- **Without chains, what stands for a vertex stands for itself.** -/
theorem standIn_standIn {m : Renumbering t} (h : m.Unchained) (b : Nat) :
    m.standIn (m.standIn b) = m.standIn b := by
  cases hEntry : m.indexAt? b with
  | none =>
      have hSelf : m.standIn b = b := by simp [standIn, hEntry]
      rw [hSelf, hSelf]
  | some i =>
      have hNew : m.standIn b = i.position := by simp [standIn, hEntry]
      rw [hNew]
      simp [standIn, h b i hEntry]

/-! ## Canonical vertices -/

/-- **The renumbering leads to canonical vertices.** A vertex has an entry exactly if some vertex
before it equals it, and then the entry is the first such vertex. What an entry leads to has none,
so that the renumbering does in two steps what it does in one. The same vertex stands for two
different ones exactly if these are equal. -/
structure Canonical (m : Renumbering t) (arrays : VertexArrays) : Prop where
  domain : m.domainSize = arrays.size
  defined : ∀ b, (m.indexAt? b).isSome = true ↔ ∃ a < b, arrays.same? a b = some true
  least : ∀ b i, m.indexAt? b = some i →
    i.position < b ∧ arrays.same? i.position b = some true ∧
      ∀ c < i.position, arrays.same? c b = some false
  unchained : m.Unchained
  follow_follow : ∀ i, m.follow (m.follow i) = m.follow i
  standIn_standIn : ∀ b, m.standIn (m.standIn b) = m.standIn b
  standIn_eq_iff : ∀ a b, a ≠ b → (m.standIn a = m.standIn b ↔ arrays.same? a b = some true)

/-- The entry of a vertex is the first equal before it. -/
theorem indexAt?_duplicates {b : Nat} (hb : b < arrays.size) :
    (arrays.duplicates : Renumbering t).indexAt? b = (arrays.earlier? b).map .ofPosition := by
  simp [indexAt?, VertexArrays.duplicates, hb]

/-- There are no entries beyond the vertices. -/
theorem lt_size_of_indexAt?_duplicates {b : Nat} {i : Index t}
    (h : (arrays.duplicates : Renumbering t).indexAt? b = some i) : b < arrays.size := by
  refine Nat.lt_of_not_le fun hb => ?_
  simp [indexAt?, VertexArrays.duplicates, Nat.not_lt.2 hb] at h

/-- The position of an entry is the first equal, if the type can hold it. -/
theorem earlier?_of_indexAt?_duplicates (hCapacity : arrays.size ≤ t.capacity) {b : Nat}
    {i : Index t} (h : (arrays.duplicates : Renumbering t).indexAt? b = some i) :
    arrays.earlier? b = some i.position := by
  have hb := lt_size_of_indexAt?_duplicates h
  rw [indexAt?_duplicates hb] at h
  obtain ⟨a, ha, rfl⟩ := Option.map_eq_some_iff.1 h
  have hLess := ((VertexArrays.earlier?_eq_some_iff arrays a b).1 ha).1
  rw [IndexType.position_ofPosition (by omega), ha]

/-- What stands for a vertex is its representative. -/
theorem standIn_duplicates (hCapacity : arrays.size ≤ t.capacity) {b : Nat} (hb : b < arrays.size) :
    (arrays.duplicates : Renumbering t).standIn b = arrays.representative b := by
  cases hEntry : (arrays.duplicates : Renumbering t).indexAt? b with
  | none =>
      rw [standIn, hEntry, VertexArrays.representative]
      rw [indexAt?_duplicates hb, Option.map_eq_none_iff] at hEntry
      rw [hEntry]
      rfl
  | some i =>
      rw [standIn, hEntry, VertexArrays.representative,
        earlier?_of_indexAt?_duplicates hCapacity hEntry]
      rfl

/-- Nothing but itself stands for what is no vertex. -/
theorem standIn_duplicates_of_le {b : Nat} (hb : arrays.size ≤ b) :
    (arrays.duplicates : Renumbering t).standIn b = b := by
  cases hEntry : (arrays.duplicates : Renumbering t).indexAt? b with
  | none => simp [standIn, hEntry]
  | some i => exact absurd (lt_size_of_indexAt?_duplicates hEntry) (Nat.not_lt.2 hb)

/-- **The first equals form no chains.** An equal of the first equal would come first. -/
theorem unchained_duplicates (hCapacity : arrays.size ≤ t.capacity) :
    (arrays.duplicates : Renumbering t).Unchained := by
  intro b i hEntry
  have hFirst := earlier?_of_indexAt?_duplicates hCapacity hEntry
  have hRepresentative : arrays.representative b = i.position := by
    rw [VertexArrays.representative, hFirst]
    rfl
  have hNone := VertexArrays.earlier?_representative arrays b
  rw [hRepresentative] at hNone
  have hLess := ((VertexArrays.earlier?_eq_some_iff arrays _ b).1 hFirst).1
  have hb := lt_size_of_indexAt?_duplicates hEntry
  rw [indexAt?_duplicates (by omega), hNone]
  rfl

/-- The same vertex stands for two others exactly if these are equal. -/
theorem standIn_duplicates_eq_iff (hAligned : arrays.Aligned)
    (hCapacity : arrays.size ≤ t.capacity) {a b : Nat} (hNe : a ≠ b) :
    (arrays.duplicates : Renumbering t).standIn a = (arrays.duplicates : Renumbering t).standIn b ↔
      arrays.same? a b = some true := by
  by_cases hBoth : a < arrays.size ∧ b < arrays.size
  · rw [standIn_duplicates hCapacity hBoth.1, standIn_duplicates hCapacity hBoth.2,
      VertexArrays.representative_eq_iff,
      VertexArrays.same?_eq_some_true_iff hAligned hBoth.1 hBoth.2, or_iff_right hNe]
  · refine iff_of_false (fun hSame => ?_) fun hSame => hBoth (VertexArrays.lt_size_of_same? hSame)
    -- A vertex is in the arrays with what stands for it, and what is no vertex is not.
    have hLess : ∀ c < arrays.size,
        (arrays.duplicates : Renumbering t).standIn c < arrays.size := by
      intro c hc
      rw [standIn_duplicates hCapacity hc]
      exact Nat.lt_of_le_of_lt (VertexArrays.representative_le arrays c) hc
    by_cases ha : a < arrays.size
    · have hb : arrays.size ≤ b := Nat.le_of_not_lt fun hb => hBoth ⟨ha, hb⟩
      have hIn := hLess a ha
      rw [hSame, standIn_duplicates_of_le hb] at hIn
      omega
    · by_cases hb : b < arrays.size
      · have hIn := hLess b hb
        rw [← hSame, standIn_duplicates_of_le (Nat.le_of_not_lt ha)] at hIn
        omega
      · rw [standIn_duplicates_of_le (Nat.le_of_not_lt ha),
          standIn_duplicates_of_le (Nat.le_of_not_lt hb)] at hSame
        exact hNe hSame

theorem canonical_duplicates (hAligned : arrays.Aligned) (hCapacity : arrays.size ≤ t.capacity) :
    (arrays.duplicates : Renumbering t).Canonical arrays where
  domain := by simp [domainSize, VertexArrays.duplicates]
  defined b := by
    constructor
    · intro hSome
      obtain ⟨i, hEntry⟩ := Option.isSome_iff_exists.1 hSome
      have hFirst := earlier?_of_indexAt?_duplicates hCapacity hEntry
      have hb := lt_size_of_indexAt?_duplicates hEntry
      obtain ⟨hLess, hSame, -⟩ := (VertexArrays.earlier?_eq_some_iff_same? hAligned hb).1 hFirst
      exact ⟨i.position, hLess, hSame⟩
    · rintro ⟨a, hLess, hSame⟩
      obtain ⟨ha, hb⟩ := VertexArrays.lt_size_of_same? hSame
      rw [indexAt?_duplicates hb, Option.isSome_map, VertexArrays.isSome_earlier?_iff]
      exact ⟨a, hLess, (VertexArrays.same?_eq_some_true_iff hAligned ha hb).1 hSame⟩
  least b i hEntry :=
    (VertexArrays.earlier?_eq_some_iff_same? hAligned (lt_size_of_indexAt?_duplicates hEntry)).1
      (earlier?_of_indexAt?_duplicates hCapacity hEntry)
  unchained := unchained_duplicates hCapacity
  follow_follow := Renumbering.follow_follow (unchained_duplicates hCapacity)
  standIn_standIn := Renumbering.standIn_standIn (unchained_duplicates hCapacity)
  standIn_eq_iff _ _ hNe := standIn_duplicates_eq_iff hAligned hCapacity hNe

end Renumbering

/-- **The scan leads to canonical vertices**, on all arrays that pass their check and for every
index type that can hold the positions of their vertices. -/
theorem findDuplicates_canonical (arrays : VertexArrays) (hCheck : arrays.check = .ok ())
    (hCapacity : arrays.size ≤ t.capacity) :
    ∃ m : Renumbering t, findDuplicates arrays = .ok m ∧ m.Canonical arrays := by
  have hAligned := (VertexArrays.check_eq_ok_iff arrays).1 hCheck
  exact ⟨arrays.duplicates, findDuplicates_eq_ok hAligned,
    Renumbering.canonical_duplicates hAligned hCapacity⟩

/-- Five vertices in two sets, the first of which is absent: three at the origin with zeros of
either sign, and two that are nowhere. -/
def zerosAndGaps : VertexArrays where
  positions := #[⟨0, 0, 0⟩, ⟨.ofBits 0x7fc00000, 0, 0⟩, ⟨-0, 0, 0⟩, ⟨.ofBits 0x7fc00000, 0, 0⟩,
    ⟨0, -0, 0⟩]
  texcoords := [#[], Array.replicate 5 ⟨1, 1⟩]

/-- One vertex stands for all three at the origin, and the two that are nowhere stand for
themselves, although they agree in every bit. -/
theorem findDuplicates_canonical_zerosAndGaps :
    ∃ m : Renumbering .byte, findDuplicates zerosAndGaps = .ok m ∧ m.Canonical zerosAndGaps ∧
      m.standIn 2 = m.standIn 4 ∧ m.standIn 1 ≠ m.standIn 3 := by
  obtain ⟨m, hScan, hCanonical⟩ :=
    findDuplicates_canonical (t := .byte) zerosAndGaps rfl (by decide)
  refine ⟨m, hScan, hCanonical, ?_, ?_⟩
  · exact (hCanonical.standIn_eq_iff 2 4 (by decide)).2 (by decide +kernel)
  · rw [Ne, hCanonical.standIn_eq_iff 1 3 (by decide)]
    decide +kernel

end IndexedMesh
