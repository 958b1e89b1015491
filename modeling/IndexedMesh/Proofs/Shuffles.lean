import IndexedMesh.Proofs.TransplantReport

/-!
# Vertices are found again in any order

Which candidate a target gets depends on all targets before it, since they share the candidates. If
closeness splits the texture coordinates into classes, though, targets of other classes can be left
out of account: a candidate that they claim is of their class. In one class the targets claim the
candidates from the front, each the next one. So the candidates of a class that are still free are
the class without its first few members, as many as there were targets of the class so far.

If the candidates are the targets in another order, there is a candidate for every target, and if
no two of them are close it is the one with the same texture coordinates.

## Main results

* `Texcoord.CloseInClasses` — closeness splits texture coordinates into classes.
* `Matching.filter_closeTo_byUv` — the invariant: what is still free of a class.
* `Matching.get?_byUv_of_classes` — targets of a class are matched with its candidates in order.
* `Matching.matches_by_rank` — **in every class the `k`-th target gets the `k`-th candidate, and
  shuffled vertices are all found again.**
-/

namespace IndexedMesh

variable {tolerance : Float32}

/-! ## Classes -/

/-- Closeness splits some texture coordinates into classes: all are close to themselves, and two
that are close to a third one are close to each other. It is symmetric in any case, see
`Texcoord.isClose_comm`. -/
structure Texcoord.CloseInClasses (tolerance : Float32) (uvs : List Texcoord) : Prop where
  self : ∀ a ∈ uvs, a.isClose tolerance a = true
  trans : ∀ a ∈ uvs, ∀ b ∈ uvs, ∀ c ∈ uvs, a.isClose tolerance b = true →
    b.isClose tolerance c = true → a.isClose tolerance c = true

namespace Texcoord.CloseInClasses

variable {uvs candidates : List Texcoord} {a b c : Texcoord}

theorem mono (h : CloseInClasses tolerance uvs) {others : List Texcoord}
    (hOthers : ∀ a ∈ others, a ∈ uvs) : CloseInClasses tolerance others where
  self a ha := h.self a (hOthers a ha)
  trans a ha b hb c hc := h.trans a (hOthers a ha) b (hOthers b hb) c (hOthers c hc)

/-- Members of a class are close to the same. -/
theorem isClose_congr (h : CloseInClasses tolerance uvs) (ha : a ∈ uvs) (hb : b ∈ uvs)
    (hc : c ∈ uvs) (hClose : a.isClose tolerance b = true) :
    a.isClose tolerance c = b.isClose tolerance c := by
  rw [Bool.eq_iff_iff]
  have hBack : b.isClose tolerance a = true := (isClose_comm tolerance b a).trans hClose
  exact ⟨h.trans b hb a ha c hc hBack, h.trans a ha b hb c hc hClose⟩

/-- Members of a class may take the same candidates. -/
theorem closeTo_congr (h : CloseInClasses tolerance uvs) (ha : a ∈ uvs) (hb : b ∈ uvs)
    (hCandidates : ∀ c ∈ candidates, c ∈ uvs) (hClose : a.isClose tolerance b = true) :
    a.closeTo tolerance candidates = b.closeTo tolerance candidates := by
  rw [closeTo_eq_filter, closeTo_eq_filter]
  refine List.filter_congr fun number hNumber => ?_
  have hLess := List.mem_range.1 hNumber
  rw [List.getElem?_eq_getElem hLess]
  exact h.isClose_congr ha hb (hCandidates _ (List.getElem_mem hLess)) hClose

/-- Those that may take the same candidate are of one class. -/
theorem isClose_of_mem_closeTo (h : CloseInClasses tolerance uvs) (ha : a ∈ uvs) (hb : b ∈ uvs)
    (hCandidates : ∀ c ∈ candidates, c ∈ uvs) {number : Nat}
    (hLeft : number ∈ a.closeTo tolerance candidates)
    (hRight : number ∈ b.closeTo tolerance candidates) : a.isClose tolerance b = true := by
  obtain ⟨c, hCandidate, hac⟩ := mem_closeTo.1 hLeft
  obtain ⟨c', hCandidate', hbc⟩ := mem_closeTo.1 hRight
  obtain rfl : c = c' := Option.some.inj (hCandidate.symm.trans hCandidate')
  exact h.trans a ha c (hCandidates c (List.mem_of_getElem? hCandidate)) b hb hac
    (isClose_comm tolerance b c ▸ hbc)

end Texcoord.CloseInClasses

/-- How many of the targets before number `i` are in the class of a target. -/
def Texcoord.rank (target : Texcoord) (tolerance : Float32) (targets : List Texcoord) (i : Nat) :
    Nat :=
  (targets.take i).countP (target.isClose tolerance)

theorem Texcoord.length_closeTo (target : Texcoord) (candidates : List Texcoord) :
    (target.closeTo tolerance candidates).length =
      candidates.countP (target.isClose tolerance) := by
  rw [closeTo, List.length_findIdxs]

/-- A target that is close to itself is one more of its class. -/
theorem Texcoord.rank_lt_countP {target : Texcoord} {targets : List Texcoord} {i : Nat}
    (hTarget : targets[i]? = some target) (hSelf : target.isClose tolerance target = true) :
    target.rank tolerance targets i < targets.countP (target.isClose tolerance) := by
  have hNext : (targets.take (i + 1)).countP (target.isClose tolerance) =
      target.rank tolerance targets i + 1 := by
    rw [List.take_add_one, hTarget, Option.toList_some, List.countP_append, List.countP_singleton,
      if_pos hSelf, rank]
  have hLe := (List.take_sublist (i + 1) targets).countP_le (p := target.isClose tolerance)
  omega

/-- No two of the texture coordinates are close. -/
def Texcoord.Apart (uvs : List Texcoord) : Prop :=
  uvs.Pairwise fun a b => a.isClose uvTolerance b = false

theorem Texcoord.Apart.eq_of_isClose {uvs : List Texcoord} (h : Apart uvs) {a b : Texcoord}
    (ha : a ∈ uvs) (hb : b ∈ uvs) (hClose : a.isClose uvTolerance b = true) : a = b := by
  by_contra hNe
  have : Std.Symm fun a b : Texcoord => a.isClose uvTolerance b = false :=
    ⟨fun a b hApart => (isClose_comm uvTolerance b a).trans hApart⟩
  rw [List.Pairwise.forall h ha hb hNe] at hClose
  cases hClose

theorem Texcoord.Apart.nodup {uvs : List Texcoord} (h : Apart uvs)
    (hSelf : ∀ a ∈ uvs, a.isClose uvTolerance a = true) : uvs.Nodup := by
  refine List.Pairwise.imp_of_mem (fun {a b} ha _ hApart hEq => ?_) h
  rw [← hEq, hSelf a ha] at hApart
  cases hApart

namespace Matching

open Texcoord

/-! ## Each class is claimed from the front -/

private theorem filter_notMem_concat (l : List Nat) (chosen : List (Option Nat))
    (first : Option Nat) :
    l.filter (some · ∉ chosen ++ [first]) =
      (l.filter (some · ∉ chosen)).filter (some · ≠ first) := by
  rw [List.filter_filter]
  refine List.filter_congr fun number _ => ?_
  simp [and_comm]

/-- **What is still free of a class** are its candidates without the first few, as many as there
were targets of the class. -/
theorem filter_closeTo_byUv {uvs targets candidates : List Texcoord} {a : Texcoord}
    (h : CloseInClasses tolerance uvs) (hTargets : ∀ t ∈ targets, t ∈ uvs)
    (hCandidates : ∀ c ∈ candidates, c ∈ uvs) (ha : a ∈ uvs) :
    (a.closeTo tolerance candidates).filter
        (some · ∉ (byUv targets candidates tolerance).choices.toList) =
      (a.closeTo tolerance candidates).drop (targets.countP (a.isClose tolerance)) := by
  induction targets using List.reverseRecOn with
  | nil => simp
  | append_singleton targets target ih =>
      have hTarget : target ∈ uvs := hTargets target (by simp)
      have hBefore := ih fun t ht => hTargets t (List.mem_append_left _ ht)
      rw [choices_byUv_concat, filter_notMem_concat, hBefore, List.countP_append,
        List.countP_singleton]
      by_cases hClose : a.isClose tolerance target = true
      · -- The target takes the first one of the class that is left.
        have hFirst : firstFree? tolerance candidates target
            (byUv targets candidates tolerance).choices.toList =
              ((a.closeTo tolerance candidates).drop
                (targets.countP (a.isClose tolerance))).head? := by
          rw [firstFree?, ← h.closeTo_congr ha hTarget hCandidates hClose, ← List.head?_filter,
            hBefore]
        have hNodup : ((a.closeTo tolerance candidates).drop
            (targets.countP (a.isClose tolerance))).Nodup :=
          ((a.closeTo_pairwise candidates).imp Nat.ne_of_lt).drop
        rw [hFirst, filter_ne_head?_of_nodup hNodup, List.tail_drop, if_pos hClose]
      · -- What the target takes is of another class.
        rw [if_neg hClose, Nat.add_zero, List.filter_eq_self]
        intro number hNumber
        have hMem := List.mem_of_mem_drop hNumber
        have hOther : firstFree? tolerance candidates target
            (byUv targets candidates tolerance).choices.toList ≠ some number := fun hFirst =>
          hClose (h.isClose_of_mem_closeTo ha hTarget hCandidates hMem (mem_of_firstFree? hFirst).1)
        simpa using hOther.symm

/-- **Targets of a class are matched with its candidates in order.** -/
theorem get?_byUv_of_classes {targets candidates : List Texcoord} {i : Nat} {target : Texcoord}
    (h : CloseInClasses tolerance (targets ++ candidates)) (hTarget : targets[i]? = some target) :
    (byUv targets candidates tolerance).get? i =
      (target.closeTo tolerance candidates)[target.rank tolerance targets i]? := by
  have hTargets : ∀ t ∈ targets.take i, t ∈ targets ++ candidates :=
    fun t ht => List.mem_append_left _ (List.mem_of_mem_take ht)
  have hFree := filter_closeTo_byUv h hTargets (fun c hc => List.mem_append_right _ hc)
    (List.mem_append_left _ (List.mem_of_getElem? hTarget))
  rw [get?_byUv hTarget, firstFree?, ← List.head?_filter, hFree, List.head?_drop]
  rfl

/-! ## Shuffled vertices -/

section

variable {target : Array PackedVertex} {records : Array VertexRecord} {copyNormals : Bool}

/-- Records of shuffled vertices and the vertices share their classes. -/
theorem classes_of_perm (h : CloseInClasses tolerance (target.toList.map (·.uv)))
    (hPerm : (records.toList.map (·.uv)).Perm (target.toList.map (·.uv))) :
    CloseInClasses tolerance
      (target.toList.map (·.uv) ++ records.toList.map (·.uv)) := by
  refine h.mono fun a ha => ?_
  rcases List.mem_append.1 ha with hTarget | hRecord
  · exact hTarget
  · exact hPerm.mem_iff.1 hRecord

/-- **There is a record for every shuffled vertex.** -/
theorem exists_get?_of_perm (h : CloseInClasses uvTolerance (target.toList.map (·.uv)))
    (hPerm : (records.toList.map (·.uv)).Perm (target.toList.map (·.uv))) {i : Nat}
    {v : PackedVertex} (hVertex : target[i]? = some v) :
    ∃ number ∈ v.uv.closeTo uvTolerance (records.toList.map (·.uv)),
      (ofRecords target records).get? i = some number := by
  have hUv : (target.toList.map (·.uv))[i]? = some v.uv := by
    rw [List.getElem?_map, Array.getElem?_toList, hVertex, Option.map_some]
  have hRank := rank_lt_countP hUv (h.self _ (List.mem_of_getElem? hUv))
  rw [← hPerm.countP_eq, ← length_closeTo] at hRank
  refine ⟨_, List.getElem_mem hRank, ?_⟩
  rw [ofRecords, get?_byUv_of_classes (classes_of_perm h hPerm) hUv, List.getElem?_eq_getElem hRank]

/-- Every vertex has got the position of the one record that carries its texture coordinates. -/
def FindsOwn (target : Array PackedVertex) (records : Array VertexRecord)
    (vertices : Array PackedVertex) : Prop :=
  ∀ (i : Nat) (v : PackedVertex), target[i]? = some v →
    ∃ (number : Nat) (record : VertexRecord) (new : PackedVertex),
      records[number]? = some record ∧ record.uv = v.uv ∧
        (∀ (other : Nat) (r : VertexRecord), records[other]? = some r → r.uv = v.uv →
          other = number) ∧
        vertices[i]? = some new ∧ new.vertex = record.vertex

theorem findsOwn_of_perm (h : CloseInClasses uvTolerance (target.toList.map (·.uv)))
    (hPerm : (records.toList.map (·.uv)).Perm (target.toList.map (·.uv)))
    (hApart : Apart (target.toList.map (·.uv)))
    {vertices : Array PackedVertex} {report : MatchReport}
    (hTransplanted : Transplanted target records copyNormals vertices report) :
    FindsOwn target records vertices := by
  intro i v hVertex
  obtain ⟨number, hMem, hMatch⟩ := exists_get?_of_perm h hPerm hVertex
  obtain ⟨record, new, hRecord, hNew, hTakes⟩ := hTransplanted.matched i number v hMatch hVertex
  have hEntry : ∀ {k : Nat} {r : VertexRecord}, records[k]? = some r →
      (records.toList.map (·.uv))[k]? = some r.uv := by
    intro k r hr
    rw [List.getElem?_map, Array.getElem?_toList, hr, Option.map_some]
  have hOwn : record.uv = v.uv := by
    obtain ⟨candidate, hCandidate, hClose⟩ := mem_closeTo.1 hMem
    obtain rfl : record.uv = candidate := Option.some.inj ((hEntry hRecord).symm.trans hCandidate)
    exact (hApart.eq_of_isClose (List.mem_map_of_mem (Array.mem_toList_iff.2
      (Array.mem_of_getElem? hVertex))) (hPerm.mem_iff.1 (List.mem_of_getElem? hCandidate))
      hClose).symm
  have hNodup := hPerm.nodup_iff.2 (hApart.nodup h.self)
  refine ⟨number, record, new, hRecord, hOwn, fun other r hr hUv => ?_, hNew, hTakes.position⟩
  have hLess := (List.getElem?_eq_some_iff.1 (hEntry hr)).1
  exact (List.getElem?_inj hLess hNodup).1 (by rw [hEntry hr, hEntry hRecord, hUv, hOwn])

/-- **Shuffled vertices are all matched.** -/
theorem report_of_perm (h : CloseInClasses uvTolerance (target.toList.map (·.uv)))
    (hPerm : (records.toList.map (·.uv)).Perm (target.toList.map (·.uv)))
    {vertices : Array PackedVertex} {report : MatchReport}
    (hTransplanted : Transplanted target records copyNormals vertices report) :
    report = { total := target.size, matched := target.size, unmatched := [] } := by
  have hNone : report.unmatched = [] := by
    refine List.eq_nil_iff_forall_not_mem.2 fun u hu => ?_
    obtain ⟨hUnmatched, v, hVertex, -⟩ := (hTransplanted.reported u).1 hu
    obtain ⟨number, -, hMatch⟩ := exists_get?_of_perm h hPerm hVertex
    rw [hUnmatched] at hMatch
    cases hMatch
  have hCounted := hTransplanted.counted
  rw [hNone, List.length_nil, Nat.add_zero, hTransplanted.total] at hCounted
  obtain ⟨total, matched, unmatched⟩ := report
  exact congr (congr (congrArg MatchReport.mk hTransplanted.total) hCounted) hNone

end

/-- **In every class the targets are matched with the candidates in order**, and a target has none
exactly if its class has no more candidates than it had targets before. Vertices that come back in
another order are therefore all matched, whatever the order, and if no two of them are close each
one gets the position that belongs to its texture coordinates. -/
theorem matches_by_rank :
    (∀ (tolerance : Float32) (targets candidates : List Texcoord),
      CloseInClasses tolerance (targets ++ candidates) →
        ∀ i target, targets[i]? = some target →
          (byUv targets candidates tolerance).get? i =
              (target.closeTo tolerance candidates)[target.rank tolerance targets i]? ∧
            ((byUv targets candidates tolerance).get? i = none ↔
              candidates.countP (target.isClose tolerance) ≤
                target.rank tolerance targets i)) ∧
    (∀ (target : Array PackedVertex) (records : Array VertexRecord) (copyNormals : Bool),
      CloseInClasses uvTolerance (target.toList.map (·.uv)) →
        (records.toList.map (·.uv)).Perm (target.toList.map (·.uv)) →
          ∃ vertices,
            transplant target records copyNormals =
              .ok (vertices, { total := target.size, matched := target.size, unmatched := [] }) ∧
            (Apart (target.toList.map (·.uv)) → FindsOwn target records vertices)) := by
  constructor
  · intro tolerance targets candidates hClasses i target hTarget
    have hChoice := get?_byUv_of_classes hClasses hTarget
    refine ⟨hChoice, ?_⟩
    rw [hChoice, List.getElem?_eq_none_iff, length_closeTo]
  · intro target records copyNormals hClasses hPerm
    have hSize : records.size = target.size := by simpa using hPerm.length_eq
    have hOk := @transplant_eq target records copyNormals
    rw [if_neg (not_not.2 hSize)] at hOk
    have hTransplanted := transplanted_of_eq_ok hOk
    refine ⟨_, hOk.trans ?_, fun hApart => findsOwn_of_perm hClasses hPerm hApart hTransplanted⟩
    rw [report_of_perm hClasses hPerm hTransplanted]

/-- The corners of the texture, with a position for each. -/
def cornerVertices : Array PackedVertex :=
  #[⟨⟨9, 0, 0⟩, ⟨0, 0⟩, ⟨0, 0, 1⟩⟩, ⟨⟨9, 0, 0⟩, ⟨1, 0⟩, ⟨0, 0, 1⟩⟩,
    ⟨⟨9, 0, 0⟩, ⟨0, 1⟩, ⟨0, 0, 1⟩⟩, ⟨⟨9, 0, 0⟩, ⟨1, 1⟩, ⟨0, 0, 1⟩⟩]

/-- The corners in another order, with other positions. -/
def shuffledCorners : Array VertexRecord :=
  #[⟨⟨2, 2, 2⟩, none, ⟨0, 1⟩⟩, ⟨⟨0, 0, 0⟩, none, ⟨0, 0⟩⟩, ⟨⟨3, 3, 3⟩, none, ⟨1, 1⟩⟩,
    ⟨⟨1, 1, 1⟩, none, ⟨1, 0⟩⟩]

/-- Corners of which the first is there three times, and is to be found twice among the candidates:
the third one gets none. -/
theorem matches_by_rank_corners :
    (byUv [⟨0, 0⟩, ⟨0, 0⟩, ⟨1, 1⟩, ⟨0, 0⟩] [⟨1, 1⟩, ⟨0, 0⟩, ⟨0, 0⟩] uvTolerance).get? 1 = some 2 ∧
      (byUv [⟨0, 0⟩, ⟨0, 0⟩, ⟨1, 1⟩, ⟨0, 0⟩] [⟨1, 1⟩, ⟨0, 0⟩, ⟨0, 0⟩] uvTolerance).get? 3 = none ∧
      ∃ vertices, transplant cornerVertices shuffledCorners false =
          .ok (vertices, { total := 4, matched := 4, unmatched := [] }) ∧
        FindsOwn cornerVertices shuffledCorners vertices := by
  have hSeam : CloseInClasses uvTolerance
      ([⟨0, 0⟩, ⟨0, 0⟩, ⟨1, 1⟩, ⟨0, 0⟩] ++ [⟨1, 1⟩, ⟨0, 0⟩, ⟨0, 0⟩]) :=
    ⟨by decide, by decide⟩
  have hCorners : CloseInClasses uvTolerance (cornerVertices.toList.map (·.uv)) :=
    ⟨by decide, by decide⟩
  have hApart : Apart (cornerVertices.toList.map (·.uv)) := by
    rw [Apart]
    decide
  have hMatches := matches_by_rank.1 uvTolerance _ _ hSeam
  refine ⟨(hMatches 1 _ rfl).1.trans (by decide), (hMatches 3 _ rfl).2.2 (by decide), ?_⟩
  obtain ⟨vertices, hOk, hFinds⟩ :=
    matches_by_rank.2 cornerVertices shuffledCorners false hCorners (by decide)
  exact ⟨vertices, hOk, hFinds hApart⟩

end Matching

end IndexedMesh
