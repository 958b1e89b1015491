import IndexedMesh.Proofs.Closeness
import IndexedMesh.Proofs.Compaction
import IndexedMesh.Proofs.GreedyMatching
import IndexedMesh.Vertex.Transplant

/-!
# Matching vertices and moving their data

Whatever a target chooses is one of the candidates, so moving data by a matching never looks for a
record that is not there.

When targets and candidates are the same, a target may take itself, if it is close to itself: that
is so if its coordinates are finite. The matching of each target with itself follows the greedy
policy, since the candidates before a target have been claimed by the targets before it, and so it
is the one that is found. Other candidates may be as close: they come later.

## Main results

* `Matching.byUv_self` — **targets that are matched with themselves stay where they are**, however
  close they are to each other.
* `transplant_eq` — moving data fails only if the numbers of vertices differ.
* `transplant_self` — moving the data of vertices onto themselves changes nothing.
-/

namespace IndexedMesh

namespace Matching

variable {tolerance : Float32}

/-- **Every choice is one of the candidates.** -/
theorem lt_of_get?_byUv {targets candidates : List Texcoord} {target number : Nat}
    (h : (byUv targets candidates tolerance).get? target = some number) :
    number < candidates.length :=
  (isGreedy_byUv candidates targets).inRange target number h

/-! ## Matching with themselves -/

/-- The matching of each of some targets with the candidate of the same number. -/
def identity (size : Nat) : Matching := ⟨((List.range size).map some).toArray⟩

theorem get?_identity (size i : Nat) :
    (identity size).get? i = if i < size then some i else none := by
  by_cases hi : i < size <;> simp [get?, identity, hi]

theorem matched_identity (size : Nat) : (identity size).matched = size := by
  simp [matched, identity, List.countP_map, Function.comp_def]

/-- **Targets that are matched with themselves stay where they are**, however close they are to
each other. -/
theorem byUv_self {uvs : List Texcoord} (h : ∀ uv ∈ uvs, uv.isClose tolerance uv = true) :
    byUv uvs uvs tolerance = identity uvs.length := by
  have hChoice : ∀ i number, (identity uvs.length).get? i = some number → number = i ∧
      i < uvs.length := by
    intro i number hSome
    rw [get?_identity] at hSome
    split at hSome
    · next hi => exact ⟨(Option.some.inj hSome).symm, hi⟩
    · cases hSome
  have hClaimed : ∀ i number, number < i → number < uvs.length →
      (identity uvs.length).Claimed i number :=
    fun i number hLess hNumber => ⟨number, hLess, by rw [get?_identity, if_pos hNumber]⟩
  refine (isGreedy_byUv uvs uvs).eq
    { size := by simp [size, identity]
      inRange := ?_
      distinct := ?_
      close := ?_
      first := ?_
      unmatched := ?_ }
  · intro i number hSome
    obtain ⟨rfl, hi⟩ := hChoice i number hSome
    exact hi
  · intro i k number hi hk
    exact (hChoice i number hi).1.symm.trans (hChoice k number hk).1
  · intro i number hSome
    obtain ⟨rfl, hi⟩ := hChoice i number hSome
    exact ⟨_, List.getElem?_eq_getElem hi,
      Texcoord.mem_closeTo.2 ⟨_, List.getElem?_eq_getElem hi, h _ (List.getElem_mem hi)⟩⟩
  · intro i target number _ hSome earlier hEarlier hLess
    obtain ⟨rfl, -⟩ := hChoice i number hSome
    exact hClaimed _ earlier hLess (Texcoord.lt_of_mem_closeTo hEarlier)
  · intro i target hTarget
    obtain ⟨hi, rfl⟩ := List.getElem?_eq_some_iff.1 hTarget
    have hSelf : i ∈ (uvs[i]).closeTo tolerance uvs :=
      Texcoord.mem_closeTo.2 ⟨_, hTarget, h _ (List.getElem_mem hi)⟩
    rw [get?_identity, if_pos hi]
    constructor
    · intro hNone
      cases hNone
    · intro hAll
      -- No target before this one is matched with it.
      obtain ⟨k, hk, hSome⟩ := hAll i hSelf
      exact absurd (hChoice k i hSome).1 (by omega)

end Matching

/-! ## Moving vertex data -/

section

variable {target : Array PackedVertex} {records : Array VertexRecord} {copyNormals : Bool}

/-- The matching of vertices with records. -/
def Matching.ofRecords (target : Array PackedVertex) (records : Array VertexRecord) : Matching :=
  .byUv (target.toList.map (·.uv)) (records.toList.map (·.uv)) uvTolerance

/-- What becomes of a vertex: it takes from the record that it is matched with, or it has to be
reported. -/
def movedOne (records : Array VertexRecord) (copyNormals : Bool) (matching : Matching)
    (numbered : PackedVertex × Nat) : PackedVertex × Option Unmatched :=
  match (matching.get? numbered.2).bind (records[·]?) with
  | some record => (numbered.1.take record copyNormals, none)
  | none => (numbered.1, some { index := numbered.2, position := numbered.1.vertex })

/-- What becomes of all vertices, with what has to be reported. -/
def moved (target : Array PackedVertex) (records : Array VertexRecord) (copyNormals : Bool) :
    List (PackedVertex × Option Unmatched) :=
  target.toList.zipIdx.map (movedOne records copyNormals (.ofRecords target records))

/-- A vertex never looks for a record that is not there. -/
theorem transplantOne_eq_ok (numbered : PackedVertex × Nat) :
    transplantOne records copyNormals (.ofRecords target records) numbered =
      .ok (movedOne records copyNormals (.ofRecords target records) numbered) := by
  cases hMatch : (Matching.ofRecords target records).get? numbered.2 with
  | none => simp [transplantOne, movedOne, hMatch, pure, Except.pure]
  | some candidate =>
      have hThere : candidate < records.size := by
        simpa using Matching.lt_of_get?_byUv hMatch
      simp [transplantOne, movedOne, hMatch, entry, hThere, bind, Except.bind, pure, Except.pure]

/-- **Moving data fails only if the numbers of vertices differ.** -/
theorem transplant_eq :
    transplant target records copyNormals =
      if records.size ≠ target.size then .error (.sizeMismatch .records target.size records.size)
      else .ok (((moved target records copyNormals).map (·.1)).toArray, {
        total := target.size
        matched := (Matching.ofRecords target records).matched
        unmatched := (moved target records copyNormals).filterMap (·.2) }) := by
  have hMoved : target.toList.zipIdx.mapM
      (transplantOne records copyNormals (.ofRecords target records)) =
        .ok (moved target records copyNormals) :=
    mapM_eq_ok_map _ _ _ fun numbered _ => transplantOne_eq_ok numbered
  by_cases hSize : records.size ≠ target.size
  · rw [transplant, if_pos hSize, if_pos hSize]
    rfl
  · have hScan := Matching.scan_eq_ok (target.toList.map (·.uv)) (records.toList.map (·.uv))
      uvTolerance
    rw [transplant, if_neg hSize, if_neg hSize, hScan]
    show (target.toList.zipIdx.mapM
      (transplantOne records copyNormals (.ofRecords target records)) >>= _) = _
    rw [hMoved]
    rfl

/-- What a vertex keeps: its texture coordinates, and its normal unless normals are wanted. -/
theorem movedOne_keeps (matching : Matching) (numbered : PackedVertex × Nat) :
    (movedOne records copyNormals matching numbered).1.uv = numbered.1.uv ∧
      (copyNormals = false →
        (movedOne records copyNormals matching numbered).1.normal = numbered.1.normal) := by
  unfold movedOne
  split
  · refine ⟨rfl, ?_⟩
    rintro rfl
    rfl
  · exact ⟨rfl, fun _ => rfl⟩

/-- **Moving data changes positions, and normals if they are wanted, and nothing else.** -/
theorem transplant_keeps {vertices : Array PackedVertex} {report : MatchReport}
    (h : transplant target records copyNormals = .ok (vertices, report)) :
    vertices.map (·.uv) = target.map (·.uv) ∧
      (copyNormals = false → vertices.map (·.normal) = target.map (·.normal)) := by
  rw [transplant_eq] at h
  split at h
  · cases h
  · cases h
    have hFirst : target.toList.zipIdx.map (·.1) = target.toList := by simp
    constructor
    · apply Array.toList_inj.1
      rw [Array.toList_map, Array.toList_map, List.toList_toArray, moved, List.map_map,
        List.map_map]
      conv_rhs => rw [← hFirst, List.map_map]
      exact List.map_congr_left fun numbered _ => (movedOne_keeps _ numbered).1
    · intro hNormals
      apply Array.toList_inj.1
      rw [Array.toList_map, Array.toList_map, List.toList_toArray, moved, List.map_map,
        List.map_map]
      conv_rhs => rw [← hFirst, List.map_map]
      exact List.map_congr_left fun numbered _ => (movedOne_keeps _ numbered).2 hNormals

end

/-! ## Moving vertex data onto itself -/

/-- A vertex takes nothing new from its own record, with normals or without. -/
theorem PackedVertex.take_ofPacked (v : PackedVertex) (withNormals : Bool) :
    v.take (.ofPacked v withNormals) withNormals = v := by
  cases withNormals <;> rfl

/-- **Moving the data of vertices onto themselves changes nothing**, and matches all of them. -/
theorem transplant_self {vertices : Array PackedVertex} (withNormals : Bool)
    (hClose : ∀ v ∈ vertices, v.uv.isClose uvTolerance v.uv = true) :
    transplant vertices (vertices.map (VertexRecord.ofPacked · withNormals)) withNormals =
      .ok (vertices, { total := vertices.size, matched := vertices.size, unmatched := [] }) := by
  have hUvs : (vertices.map (VertexRecord.ofPacked · withNormals)).toList.map (·.uv) =
      vertices.toList.map (·.uv) := by simp [VertexRecord.ofPacked]
  have hMatching : Matching.ofRecords vertices
      (vertices.map (VertexRecord.ofPacked · withNormals)) =
        .identity vertices.size := by
    rw [Matching.ofRecords, hUvs, Matching.byUv_self]
    · simp
    · intro uv hUv
      obtain ⟨v, hv, rfl⟩ := List.mem_map.1 hUv
      exact hClose v (Array.mem_toList_iff.1 hv)
  have hMoved : moved vertices (vertices.map (VertexRecord.ofPacked · withNormals)) withNormals =
      vertices.toList.map fun v => (v, none) := by
    rw [moved, hMatching]
    refine List.ext_getElem (by simp) fun i hLeft hRight => ?_
    have hi : i < vertices.size := by simpa using hRight
    simp [movedOne, Matching.get?_identity, hi, PackedVertex.take_ofPacked]
  rw [transplant_eq, if_neg (by simp), hMoved, hMatching, Matching.matched_identity]
  simp [Function.comp_def]

end IndexedMesh
