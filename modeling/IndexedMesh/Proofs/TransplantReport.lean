import Mathlib.Data.List.Sort
import IndexedMesh.Proofs.EditRuns

/-!
# Every vertex is accounted for when data is moved

A vertex either takes data from a record or is reported, and the matching says which. The report is
built together with the vertices, one entry at a time, so both can be read off at each number: what
has become of the vertex with that number, and whether it is in the report.

Since the matching gives every record to one vertex at most, no data is written twice. Since the
reported numbers are the unmatched ones in ascending order, they are counted like those.

## Main results

* `getElem?_moved` — what becomes of the vertex with a number.
* `index_unmatched_moved` — the reported numbers are those that the matching leaves over.
* `Transplanted` — what a transplant owes to every vertex.
* `transplant_accounts` — **a transplant fails without a trace if the numbers of vertices differ,
  and otherwise accounts for every vertex.**
-/

namespace IndexedMesh

section

variable {target : Array PackedVertex} {records : Array VertexRecord} {copyNormals : Bool}
  {i number : Nat}

/-! ## One vertex -/

/-- A vertex has taken the data of a record: its position, and its normal if there is one and it is
wanted. -/
structure TakesFrom (old : PackedVertex) (record : VertexRecord) (copyNormals : Bool)
    (new : PackedVertex) : Prop where
  position : new.vertex = record.vertex
  uv : new.uv = old.uv
  newNormal : ∀ normal, copyNormals = true → record.normal = some normal → new.normal = normal
  oldNormal : copyNormals = false ∨ record.normal = none → new.normal = old.normal

theorem TakesFrom.take (old : PackedVertex) (record : VertexRecord) (copyNormals : Bool) :
    TakesFrom old record copyNormals (old.take record copyNormals) where
  position := rfl
  uv := rfl
  newNormal := by
    rintro normal rfl hNormal
    simp [PackedVertex.take, hNormal]
  oldNormal := by
    rintro (rfl | hNone)
    · rfl
    · cases copyNormals <;> simp [PackedVertex.take, hNone]

theorem movedOne_of_matched (copyNormals : Bool) (v : PackedVertex)
    (h : (Matching.ofRecords target records).get? i = some number) :
    ∃ record, records[number]? = some record ∧
      movedOne records copyNormals (.ofRecords target records) (v, i) =
        (v.take record copyNormals, none) := by
  have hThere : number < records.size := by simpa using Matching.lt_of_get?_byUv h
  exact ⟨records[number], Array.getElem?_eq_getElem hThere, by simp [movedOne, h, hThere]⟩

theorem movedOne_of_unmatched {v : PackedVertex}
    (h : (Matching.ofRecords target records).get? i = none) :
    movedOne records copyNormals (.ofRecords target records) (v, i) =
      (v, some { index := i, position := v.vertex }) := by
  simp [movedOne, h]

/-- What is reported of a vertex, if anything is: its number, which is unmatched, and its
position. -/
theorem snd_movedOne_eq_some_iff {v : PackedVertex} {u : Unmatched} :
    (movedOne records copyNormals (.ofRecords target records) (v, i)).2 = some u ↔
      (Matching.ofRecords target records).get? i = none ∧ u = ⟨i, v.vertex⟩ := by
  cases hMatch : (Matching.ofRecords target records).get? i with
  | none => simp [movedOne_of_unmatched hMatch, eq_comm]
  | some number =>
      obtain ⟨record, -, hMoved⟩ := movedOne_of_matched copyNormals v hMatch
      simp [hMoved]

/-! ## All vertices -/

/-- What becomes of the vertex with a number. -/
theorem getElem?_moved :
    (moved target records copyNormals)[i]? =
      target[i]?.map fun v => movedOne records copyNormals (.ofRecords target records) (v, i) := by
  rw [moved, List.getElem?_map, List.getElem?_zipIdx, Array.getElem?_toList, Option.map_map,
    Nat.zero_add]
  rfl

theorem mem_unmatched_moved {u : Unmatched} :
    u ∈ (moved target records copyNormals).filterMap (·.2) ↔
      (Matching.ofRecords target records).get? u.index = none ∧
        ∃ v, target[u.index]? = some v ∧ v.vertex = u.position := by
  rw [List.mem_filterMap]
  constructor
  · rintro ⟨outcome, hOutcome, hReported⟩
    obtain ⟨i, hEntry⟩ := List.mem_iff_getElem?.1 hOutcome
    rw [getElem?_moved, Option.map_eq_some_iff] at hEntry
    obtain ⟨v, hVertex, rfl⟩ := hEntry
    obtain ⟨hNone, rfl⟩ := snd_movedOne_eq_some_iff.1 hReported
    exact ⟨hNone, v, hVertex, rfl⟩
  · rintro ⟨hNone, v, hVertex, hPosition⟩
    refine ⟨_, List.mem_of_getElem? (i := u.index) (by rw [getElem?_moved, hVertex]; rfl),
      snd_movedOne_eq_some_iff.2 ⟨hNone, ?_⟩⟩
    rw [hPosition]

/-- Vertices are reported in ascending order. -/
theorem pairwise_unmatched_moved :
    ((moved target records copyNormals).filterMap (·.2)).Pairwise (·.index < ·.index) := by
  rw [moved, List.filterMap_map, List.pairwise_filterMap]
  refine (zipIdx_pairwise target.toList).imp fun {a b} hLess u hu u' hu' => ?_
  obtain ⟨-, rfl⟩ := snd_movedOne_eq_some_iff.1 hu
  obtain ⟨-, rfl⟩ := snd_movedOne_eq_some_iff.1 hu'
  exact hLess

/-- **The reported numbers are those that the matching leaves over.** -/
theorem index_unmatched_moved :
    ((moved target records copyNormals).filterMap (·.2)).map (·.index) =
      (Matching.ofRecords target records).unmatched := by
  have hSize : (Matching.ofRecords target records).size = target.size := by
    simp [Matching.ofRecords, Matching.size_byUv]
  refine (List.pairwise_map.2 pairwise_unmatched_moved).eq_of_mem_iff
    (Matching.ofRecords target records).accounts.ascending fun i => ?_
  rw [Matching.mem_unmatched_iff, hSize, List.mem_map]
  constructor
  · rintro ⟨u, hu, rfl⟩
    obtain ⟨hNone, v, hVertex, -⟩ := mem_unmatched_moved.1 hu
    exact ⟨(Array.getElem?_eq_some_iff.1 hVertex).1, hNone⟩
  · rintro ⟨hLess, hNone⟩
    exact ⟨⟨i, target[i].vertex⟩,
      mem_unmatched_moved.2 ⟨hNone, _, Array.getElem?_eq_getElem hLess, rfl⟩, rfl⟩

/-! ## The account -/

/-- **What a transplant owes to every vertex.** There are as many vertices as before, with the same
texture coordinates. A vertex that is matched with a record takes its data, and no other vertex
takes any from this record. One that is not matched stays as it is, and exactly these are reported,
once and in ascending order, with their positions. Both kinds together are all vertices. -/
structure Transplanted (target : Array PackedVertex) (records : Array VertexRecord)
    (copyNormals : Bool) (vertices : Array PackedVertex) (report : MatchReport) : Prop where
  size : vertices.size = target.size
  uvs : vertices.map (·.uv) = target.map (·.uv)
  matched : ∀ i number old, (Matching.ofRecords target records).get? i = some number →
    target[i]? = some old → ∃ record new, records[number]? = some record ∧
      vertices[i]? = some new ∧ TakesFrom old record copyNormals new
  once : ∀ i k number, (Matching.ofRecords target records).get? i = some number →
    (Matching.ofRecords target records).get? k = some number → i = k
  unmatched : ∀ i, (Matching.ofRecords target records).get? i = none → vertices[i]? = target[i]?
  reported : ∀ u, u ∈ report.unmatched ↔
    (Matching.ofRecords target records).get? u.index = none ∧
      ∃ v, target[u.index]? = some v ∧ v.vertex = u.position
  ascending : report.unmatched.Pairwise (·.index < ·.index)
  counted : report.matched + report.unmatched.length = report.total
  total : report.total = target.size

theorem transplanted_of_eq_ok {vertices : Array PackedVertex} {report : MatchReport}
    (h : transplant target records copyNormals = .ok (vertices, report)) :
    Transplanted target records copyNormals vertices report := by
  have hKeeps := transplant_keeps h
  rw [transplant_eq] at h
  split at h
  · cases h
  cases h
  have hEntry : ∀ i, (((moved target records copyNormals).map (·.1)).toArray)[i]? =
      target[i]?.map fun v =>
        (movedOne records copyNormals (.ofRecords target records) (v, i)).1 := by
    intro i
    rw [List.getElem?_toArray, List.getElem?_map, getElem?_moved, Option.map_map]
    rfl
  refine
    { size := by simp [moved]
      uvs := hKeeps.1
      matched := ?_
      once := (Matching.isGreedy_byUv _ _).distinct
      unmatched := ?_
      reported := fun _ => mem_unmatched_moved
      ascending := pairwise_unmatched_moved
      counted := ?_
      total := rfl }
  · intro i number old hMatch hOld
    obtain ⟨record, hRecord, hMoved⟩ := movedOne_of_matched copyNormals old hMatch
    refine ⟨record, old.take record copyNormals, hRecord, ?_, .take old record copyNormals⟩
    rw [hEntry, hOld, Option.map_some, hMoved]
  · intro i hNone
    rw [hEntry]
    cases target[i]? with
    | none => rfl
    | some v => rw [Option.map_some, movedOne_of_unmatched hNone]
  · dsimp only
    have hLength := congrArg List.length (@index_unmatched_moved target records copyNormals)
    rw [List.length_map] at hLength
    rw [hLength, Matching.matched_add_length_unmatched]
    simp [Matching.ofRecords, Matching.size_byUv]

/-- The records on the clipboard are to be pasted into a block that has these vertices. -/
structure Pastes (w : Workspace) (selection : Selection) (target : Array PackedVertex)
    (records : Array VertexRecord) : Prop where
  block : ∃ id b hasNormals, w.document.selected? selection packedKinds = some id ∧
    w.document.get? id = some b ∧ b.packed? = some (hasNormals, target)
  records : w.clipboard.records = .ok records.toList

/-- **A transplant accounts for every vertex.** If there are not as many records as vertices it
fails, and the reason names both numbers. Pasting the records then leaves the whole workspace as it
was, and fails for the same reason unless there are no vertices to paste into. Otherwise there is a
result, and nothing is missing from its account. -/
theorem transplant_accounts (target : Array PackedVertex) (records : Array VertexRecord)
    (copyNormals : Bool) :
    (records.size ≠ target.size →
      transplant target records copyNormals =
        .error (.sizeMismatch .records target.size records.size) ∧
      ∀ w selection, Pastes w selection target records →
        (Edit.pasteVertexData selection).run w =
          (.error (if target.isEmpty then .emptyInput
            else .sizeMismatch .records target.size records.size), w)) ∧
    (records.size = target.size →
      ∃ vertices report, transplant target records copyNormals = .ok (vertices, report) ∧
        Transplanted target records copyNormals vertices report) := by
  constructor
  · intro hSize
    refine ⟨by rw [transplant_eq, if_pos hSize], ?_⟩
    rintro w selection ⟨⟨id, b, hasNormals, hSelected, hGet, hPacked⟩, hRecords⟩
    rw [Edit.run_pasteVertexData hSelected hGet hPacked, hRecords]
    dsimp only
    rw [transplant_eq, if_pos hSize]
    split <;> rfl
  · intro hSize
    have hOk := @transplant_eq target records copyNormals
    rw [if_neg (not_not.2 hSize)] at hOk
    exact ⟨_, _, hOk, transplanted_of_eq_ok hOk⟩

end

/-- Two vertices that meet at a seam of the texture, and one apart from them. -/
def seamVertices : Array PackedVertex :=
  #[⟨⟨9, 0, 0⟩, ⟨0.5, 0.5⟩, ⟨0, 0, 1⟩⟩, ⟨⟨9, 1, 0⟩, ⟨0.5, 0.5⟩, ⟨0, 1, 0⟩⟩,
    ⟨⟨9, 2, 0⟩, ⟨0.25, 0⟩, ⟨1, 0, 0⟩⟩]

/-- Records of the seam, the second of which has no normal, and one that no vertex is close to. -/
def seamRecords : Array VertexRecord :=
  #[⟨⟨0, 0, 0⟩, some ⟨1, 0, 0⟩, ⟨0.5, 0.5⟩⟩, ⟨⟨7, 7, 7⟩, some ⟨1, 0, 0⟩, ⟨0.75, 0.75⟩⟩,
    ⟨⟨1, 1, 1⟩, none, ⟨0.5, 0.5⟩⟩]

/-- A partition with the vertices, and an empty list of records on the clipboard. -/
def seamWorkspace : Workspace where
  document :=
    { slots := #[some (.skinPartition { hasNormals := true, vertexData := seamVertices })] }
  clipboard := { text := some "[]" }

/-- The first vertex of the seam takes the position and the normal of the first record, the second
one the position of the last, and the third one is reported. With no record at all nothing is
pasted. -/
theorem transplant_accounts_seam :
    (∃ vertices report,
      transplant seamVertices seamRecords true = .ok (vertices, report) ∧
        Transplanted seamVertices seamRecords true vertices report ∧
        vertices = #[⟨⟨0, 0, 0⟩, ⟨0.5, 0.5⟩, ⟨1, 0, 0⟩⟩, ⟨⟨1, 1, 1⟩, ⟨0.5, 0.5⟩, ⟨0, 1, 0⟩⟩,
          ⟨⟨9, 2, 0⟩, ⟨0.25, 0⟩, ⟨1, 0, 0⟩⟩] ∧
        report = { total := 3, matched := 2, unmatched := [⟨2, ⟨9, 2, 0⟩⟩] }) ∧
      (Edit.pasteVertexData (some ⟨0⟩)).run seamWorkspace =
        (.error (.sizeMismatch .records 3 0), seamWorkspace) := by
  constructor
  · obtain ⟨vertices, report, hOk, hTransplanted⟩ :=
      (transplant_accounts seamVertices seamRecords true).2 rfl
    refine ⟨vertices, report, hOk, hTransplanted, ?_⟩
    have hRun : transplant seamVertices seamRecords true = .ok
        (#[⟨⟨0, 0, 0⟩, ⟨0.5, 0.5⟩, ⟨1, 0, 0⟩⟩, ⟨⟨1, 1, 1⟩, ⟨0.5, 0.5⟩, ⟨0, 1, 0⟩⟩,
          ⟨⟨9, 2, 0⟩, ⟨0.25, 0⟩, ⟨1, 0, 0⟩⟩],
          { total := 3, matched := 2, unmatched := [⟨2, ⟨9, 2, 0⟩⟩] }) := by decide
    rw [hRun] at hOk
    cases hOk
    exact ⟨rfl, rfl⟩
  · have hPastes : Pastes seamWorkspace (some ⟨0⟩) seamVertices #[] :=
      ⟨⟨⟨0⟩, _, true, rfl, rfl, rfl⟩, by decide⟩
    exact ((transplant_accounts seamVertices #[] true).1 (by decide)).2 _ _ hPastes

end IndexedMesh
