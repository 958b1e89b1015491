import IndexedMesh.Error

/-!
# What a vertex holds

The arrays of a mesh are parallel, so a vertex is a row across all of them. This module reads such
a row: one entry for each channel, and none for a channel that is absent. Statements about where a
vertex went are equations between rows, and so they speak of every channel at once.

## Main results

* `VertexEntries`, `VertexArrays.entries` — the row of a vertex.
* `VertexArrays.Aligned` — every channel that is present has one entry for each vertex.
* `VertexArrays.check_eq_ok_iff` — the check of the arrays accepts exactly the aligned ones.
-/

namespace IndexedMesh

/-- What a vertex holds in each channel. -/
structure VertexEntries where
  position : Option Position
  normal : Option Normal
  color : Option Rgba
  texcoords : List (Option Texcoord)
deriving DecidableEq

namespace VertexArrays

/-- The entries of a vertex in all channels. Each set of texture coordinates keeps its place. -/
def entries (arrays : VertexArrays) (i : Nat) : VertexEntries where
  position := arrays.positions[i]?
  normal := arrays.normals[i]?
  color := arrays.colors[i]?
  texcoords := arrays.texcoords.map (·[i]?)

/-- An array is absent or has `size` entries. -/
def Spans {α : Type} (items : Array α) (size : Nat) : Prop := items.size = 0 ∨ items.size = size

/-- Every channel that is present has one entry for each vertex. -/
structure Aligned (arrays : VertexArrays) : Prop where
  normals : Spans arrays.normals arrays.size
  colors : Spans arrays.colors arrays.size
  texcoords : ∀ set ∈ arrays.texcoords, Spans set arrays.size

private theorem fits_iff {α : Type} (items : Array α) (size : Nat) :
    (0 < items.size → items.size = size) ↔ Spans items size := by
  unfold Spans
  omega

private theorem sets_fit_iff (sets : List (Array Texcoord)) (size : Nat) :
    (∀ p ∈ sets.zipIdx.map (fun (set, number) =>
        (Channel.texcoord (UInt32.ofNat number), set.size)), 0 < p.2 → p.2 = size) ↔
      ∀ set ∈ sets, Spans set size := by
  simp only [List.forall_mem_map, fits_iff]
  constructor
  · intro h set hSet
    obtain ⟨n, hn, hGet⟩ := List.mem_iff_getElem.1 hSet
    have hMem : (set, n) ∈ sets.zipIdx :=
      List.mk_mem_zipIdx_iff_getElem?.2 (by rw [List.getElem?_eq_getElem hn, hGet])
    exact h (set, n) hMem
  · rintro h ⟨set, n⟩ hMem
    exact h set (List.fst_mem_of_mem_zipIdx hMem)

theorem mismatch?_eq_none_iff (arrays : VertexArrays) :
    arrays.mismatch? = none ↔ arrays.Aligned := by
  have hAll : arrays.mismatch? = none ↔
      (0 < arrays.normals.size → arrays.normals.size = arrays.size) ∧
        (0 < arrays.colors.size → arrays.colors.size = arrays.size) ∧
          ∀ p ∈ arrays.texcoords.zipIdx.map (fun (set, number) =>
            (Channel.texcoord (UInt32.ofNat number), set.size)), 0 < p.2 → p.2 = arrays.size := by
    rw [mismatch?, Option.map_eq_none_iff, List.find?_eq_none, lengths]
    simp only [List.mem_filter, decide_eq_true_eq, and_imp, ne_eq, Decidable.not_not,
      List.forall_mem_cons]
  rw [hAll, fits_iff, fits_iff, sets_fit_iff]
  constructor
  · rintro ⟨hNormals, hColors, hTexcoords⟩
    exact { normals := hNormals, colors := hColors, texcoords := hTexcoords }
  · intro h
    exact ⟨h.normals, h.colors, h.texcoords⟩

/-- **The check accepts exactly the aligned arrays.** -/
theorem check_eq_ok_iff (arrays : VertexArrays) :
    arrays.check = .ok () ↔ arrays.Aligned := by
  rw [← mismatch?_eq_none_iff]
  unfold check
  cases arrays.mismatch? with
  | none => simp
  | some e => simp

end VertexArrays

end IndexedMesh
