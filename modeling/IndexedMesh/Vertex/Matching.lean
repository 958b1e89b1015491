import IndexedMesh.Error
import IndexedMesh.Vertex.Set

/-!
# Matching vertices by texture coordinates

Two documents can hold the same vertices in different orders, and texture coordinates are what
they agree on. Each target takes the first candidate that is close to it on the texture and that no
target before it has taken. This is not an optimal assignment: where texture coordinates coincide,
the order decides.

## Main definitions

* `uvTolerance`, `Texcoord.isClose` — closeness.
* `Matching` — the candidate of each target.
* `Matching.scan` — looking for a candidate for one target after the other.
* `Matching.byUv` — the matching of targets with candidates, which is what the scan finds.
-/

namespace IndexedMesh

/-- How far apart two close vertices are at most on each axis; exactly so far is too far. -/
def uvTolerance : Float32 := 1e-5

/-- Whether two vertices are closer than a tolerance on both axes. -/
def Texcoord.isClose (tolerance : Float32) (a b : Texcoord) : Bool :=
  (a.u - b.u).abs < tolerance && (a.v - b.v).abs < tolerance

/-- For each target the number of the candidate that it is matched with. -/
structure Matching where
  choices : Array (Option Nat)
deriving DecidableEq

namespace Matching

/-- The first of some candidates, given by their numbers, that a target is close to. -/
def firstClose? (tolerance : Float32) (candidates : Array Texcoord) (target : Texcoord) :
    List Nat → Except Error (Option Nat)
  | [] => return none
  | number :: others => do
    if target.isClose tolerance (← entry candidates number) then return some number
    firstClose? tolerance candidates target others

/-- Matches one more target with the first candidate close to it that has not been claimed, and
claims this one. -/
def assign (tolerance : Float32) (candidates : Array Texcoord)
    (before : VertexSet × Array (Option Nat)) (target : Texcoord) :
    Except Error (VertexSet × Array (Option Nat)) := do
  let (claimed, chosen) := before
  match ← firstClose? tolerance candidates target claimed.gaps with
  | none => return (claimed, chosen.push none)
  | some number =>
    match claimed.insert? number with
    | some claimed => return (claimed, chosen.push (some number))
    | none => throw .outOfBounds

/-- Matches each target in order with the first candidate close to it that has not been claimed. -/
def scan (targets candidates : List Texcoord) (tolerance : Float32) : Except Error Matching := do
  let (_, choices) ← targets.foldlM (assign tolerance candidates.toArray)
    (.empty candidates.length, #[])
  return { choices }

theorem firstClose?_eq_ok {tolerance : Float32} {candidates : Array Texcoord} {target : Texcoord}
    {numbers : List Nat} (h : ∀ number ∈ numbers, number < candidates.size) :
    firstClose? tolerance candidates target numbers =
      .ok (numbers.find? fun number => candidates[number]?.any (target.isClose tolerance)) := by
  induction numbers with
  | nil => rfl
  | cons number others ih =>
      obtain ⟨hFirst, hOthers⟩ := List.forall_mem_cons.1 h
      have hEntry : candidates[number]? = some candidates[number] :=
        Array.getElem?_eq_getElem hFirst
      rw [firstClose?, entry, hEntry, ih hOthers, List.find?_cons, hEntry]
      cases hClose : target.isClose tolerance candidates[number] <;>
        simp [hClose, bind, Except.bind, pure, Except.pure]

/-- **One more target.** Nothing but candidates are looked at and claimed, so the accesses are in
range, and they are as long as there is a flag for each candidate. -/
theorem assign_eq_ok (tolerance : Float32) {candidates : Array Texcoord} {claimed : VertexSet}
    (hSize : claimed.size = candidates.size) (chosen : Array (Option Nat)) (target : Texcoord) :
    ∃ after, after.size = candidates.size ∧
      let first := claimed.gaps.find? fun number =>
        candidates[number]?.any (target.isClose tolerance)
      assign tolerance candidates (claimed, chosen) target = .ok (after, chosen.push first) ∧
        ∀ q, after.flags[q]? = if first = some q then some true else claimed.flags[q]? := by
  have hRange : ∀ number ∈ claimed.gaps, number < candidates.size :=
    fun number h => hSize ▸ VertexSet.lt_size_of_mem_flagged h
  simp only [assign, firstClose?_eq_ok hRange, bind, Except.bind]
  cases hFirst : claimed.gaps.find? fun number =>
      candidates[number]?.any (target.isClose tolerance) with
  | none => exact ⟨claimed, hSize, rfl, fun q => by simp⟩
  | some number =>
      have hLess := hRange number (List.mem_of_find?_eq_some hFirst)
      obtain ⟨after, hInsert, hAfter, hFlags⟩ := VertexSet.exists_insert?_eq_some (hSize ▸ hLess)
      refine ⟨after, hAfter.trans hSize, by simp only [hInsert]; rfl, fun q => ?_⟩
      rw [hFlags]
      simp [eq_comm]

/-- **The scan comes to its end.** -/
theorem exists_scan_eq_ok (targets candidates : List Texcoord) (tolerance : Float32) :
    ∃ m, scan targets candidates tolerance = .ok m := by
  have hFold : ∀ (claimed : VertexSet) (chosen : Array (Option Nat)),
      claimed.size = candidates.toArray.size →
        ∃ r, targets.foldlM (assign tolerance candidates.toArray) (claimed, chosen) = .ok r := by
    induction targets with
    | nil => exact fun claimed chosen _ => ⟨_, rfl⟩
    | cons target others ih =>
        intro claimed chosen hSize
        obtain ⟨after, hAfter, hAssign, -⟩ := assign_eq_ok tolerance hSize chosen target
        rw [List.foldlM_cons, hAssign]
        exact ih after _ hAfter
  obtain ⟨⟨_, choices⟩, hOk⟩ := hFold (.empty candidates.length) #[] (by simp)
  exact ⟨⟨choices⟩, by rw [scan, hOk]; rfl⟩

/-- The matching of targets with candidates that the scan finds. -/
def byUv (targets candidates : List Texcoord) (tolerance : Float32) : Matching :=
  (scan targets candidates tolerance).toOption.get <| by
    obtain ⟨m, hScan⟩ := exists_scan_eq_ok targets candidates tolerance
    rw [hScan]
    rfl

theorem scan_eq_ok (targets candidates : List Texcoord) (tolerance : Float32) :
    scan targets candidates tolerance = .ok (byUv targets candidates tolerance) := by
  obtain ⟨m, hScan⟩ := exists_scan_eq_ok targets candidates tolerance
  simp [byUv, hScan, Except.toOption]

/-- The candidate of a target, if there is one. -/
def get? (m : Matching) (target : Nat) : Option Nat := (m.choices[target]?).join

/-- The number of targets. -/
def size (m : Matching) : Nat := m.choices.size

/-- The number of targets that have a candidate. -/
def matched (m : Matching) : Nat := m.choices.countP Option.isSome

/-- The targets that have no candidate, in ascending order. -/
def unmatched (m : Matching) : List Nat :=
  m.choices.toList.zipIdx.filterMap fun (candidate, target) =>
    if candidate.isNone then some target else none

end Matching

end IndexedMesh
