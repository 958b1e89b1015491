import IndexedMesh.Proofs.Lists
import IndexedMesh.Vertex.Renumbering

/-!
# Renumbering in place

A renumbering replaces all references at once, so that a new index is never taken for an old one.
Here the same is done in place: one place of a row after the other is looked at as it stands now,
and overwritten. New indices may well have entries themselves, in chains or in cycles, and still
none of them is ever looked up, for two different reasons.

References stay where they are. What stands at a place is the old reference until the place has been
looked at, and each place is looked at once, so the order does not matter either.

Weights close up as some of them are dropped. What is kept moves to the front, and it never moves
past the place that is looked at next: the places from there on still hold the old weights.

## Main results

* `Renumbering.rewriteAt`, `Rewriting.Visited` — one place of a row of references, and what holds
  when some of them have been looked at.
* `Renumbering.foldl_rewriteAt` — **looking at each place once, in any order, is replacing all
  references at once.**
* `Renumbering.closeAt`, `Closing.Passed` — one place of a row of weights, and what holds when those
  before it have been looked at.
* `Renumbering.closeUp_eq` — **closing up in place keeps what follows the renumbering.**
-/

namespace IndexedMesh

variable {t : IndexType} {m : Renumbering t}

/-! ## References -/

/-- A row of references while it is rewritten, and how many of them have become others. -/
structure Rewriting (t : IndexType) where
  row : Array (Index t)
  changed : Nat

/-- Replaces what stands at a place now, and counts it if it becomes another. -/
def Renumbering.rewriteAt (m : Renumbering t) (s : Rewriting t) (place : Nat) : Rewriting t :=
  match s.row[place]? with
  | none => s
  | some i =>
    match m.get? i with
    | none => s
    | some new => if new = i then s else ⟨s.row.setIfInBounds place new, s.changed + 1⟩

namespace Rewriting

/-- **Some places of a row have been looked at.** They hold what their references become, all others
hold the references that they held, and each that became another is counted. -/
structure Visited (m : Renumbering t) (refs : List (Index t)) (places : List Nat)
    (s : Rewriting t) : Prop where
  entry : ∀ k, s.row[k]? = if k ∈ places then refs[k]?.map m.follow else refs[k]?
  changed : s.changed = places.countP fun k => refs[k]?.any fun i => m.follow i ≠ i

variable {refs : List (Index t)} {places : List Nat} {s : Rewriting t} {place : Nat}

theorem visited_nil (m : Renumbering t) (refs : List (Index t)) :
    Visited m refs [] ⟨refs.toArray, 0⟩ where
  entry k := by simp
  changed := rfl

/-- What happens at a place depends on the reference that stands there and on nothing else. -/
theorem rewriteAt_eq {i : Index t} (h : s.row[place]? = some i) :
    m.rewriteAt s place =
      ⟨s.row.setIfInBounds place (m.follow i), s.changed + if m.follow i ≠ i then 1 else 0⟩ := by
  have hSame : (⟨s.row.setIfInBounds place i, s.changed⟩ : Rewriting t) = s := by
    rw [setIfInBounds_self h]
  unfold Renumbering.rewriteAt Renumbering.follow
  rw [h]
  cases hEntry : m.get? i with
  | none => simpa [hEntry] using hSame.symm
  | some new =>
      by_cases hNew : new = i
      · subst hNew
        simpa [hEntry] using hSame.symm
      · simp [hEntry, hNew]

/-- **One more place.** It has not been looked at before, so it still holds its old reference. -/
theorem Visited.rewriteAt (h : Visited m refs places s) (hNew : place ∉ places) :
    Visited m refs (place :: places) (m.rewriteAt s place) := by
  have hOld : s.row[place]? = refs[place]? := by rw [h.entry, if_neg hNew]
  cases hRef : refs[place]? with
  | none =>
      have hStays : m.rewriteAt s place = s := by
        rw [Renumbering.rewriteAt, hOld, hRef]
      rw [hStays]
      refine { entry := fun k => ?_, changed := by simp [h.changed, hRef] }
      by_cases hk : k = place
      · subst hk
        simp [hOld, hRef]
      · simp [h.entry, hk]
  | some i =>
      have hRow : s.row[place]? = some i := hOld.trans hRef
      obtain ⟨hBound, -⟩ := Array.getElem?_eq_some_iff.1 hRow
      rw [rewriteAt_eq hRow]
      refine { entry := fun k => ?_, changed := ?_ }
      · by_cases hk : place = k
        · subst hk
          show (s.row.setIfInBounds place (m.follow i))[place]? = _
          rw [Array.getElem?_setIfInBounds_self_of_lt hBound, if_pos List.mem_cons_self, hRef]
          rfl
        · show (s.row.setIfInBounds place (m.follow i))[k]? = _
          rw [Array.getElem?_setIfInBounds_ne hk, h.entry]
          simp [Ne.symm hk]
      · show s.changed + _ = _
        rw [List.countP_cons, h.changed, hRef]
        simp

/-- **Some more places**, none of them twice and none that has been looked at before. -/
theorem Visited.foldl (h : Visited m refs places s) (more : List Nat)
    (hNodup : (more ++ places).Nodup) :
    Visited m refs (more.reverse ++ places) (more.foldl m.rewriteAt s) := by
  induction more generalizing places s with
  | nil => exact h
  | cons place more ih =>
      have hNew : place ∉ more ++ places := (List.nodup_cons.1 hNodup).1
      have hRest : (more ++ place :: places).Nodup := List.perm_middle.nodup_iff.2 hNodup
      rw [List.foldl_cons, List.reverse_cons, List.append_assoc, List.singleton_append]
      exact ih (h.rewriteAt fun hPlace => hNew (List.mem_append_right more hPlace)) hRest

end Rewriting

/-- **Looking at each place once, in any order, is replacing all references at once**, and the count
is that of the references that become others. -/
theorem Renumbering.foldl_rewriteAt (m : Renumbering t) (refs : List (Index t))
    {places : List Nat} (hAll : places.Perm (List.range refs.length)) :
    places.foldl m.rewriteAt ⟨refs.toArray, 0⟩ =
      ⟨(refs.map m.follow).toArray, m.changes refs⟩ := by
  have hNodup : (places ++ []).Nodup := by
    rw [List.append_nil]
    exact hAll.nodup_iff.2 List.nodup_range
  have hVisited := (Rewriting.visited_nil m refs).foldl places hNodup
  have hRow : (places.foldl m.rewriteAt ⟨refs.toArray, 0⟩).row = (refs.map m.follow).toArray := by
    refine Array.ext_getElem? fun k => ?_
    have hMem : k ∈ places.reverse ++ [] ↔ k < refs.length := by simp [hAll.mem_iff]
    rw [hVisited.entry k]
    by_cases hk : k < refs.length
    · rw [if_pos (hMem.2 hk)]
      simp
    · rw [if_neg (mt hMem.1 hk)]
      simp [Nat.le_of_not_lt hk]
  have hChanged : (places.foldl m.rewriteAt ⟨refs.toArray, 0⟩).changed = m.changes refs := by
    let becomesOther (ref : Option (Index t)) : Bool := ref.any fun i => m.follow i ≠ i
    calc (places.foldl m.rewriteAt ⟨refs.toArray, 0⟩).changed
        = (List.range refs.length).countP fun k => becomesOther refs[k]? := by
          rw [hVisited.changed, List.append_nil]
          exact ((List.reverse_perm places).trans hAll).countP_eq _
      _ = ((List.range refs.length).map fun k => refs[k]?).countP becomesOther := by
          rw [List.countP_map]
          rfl
      _ = m.changes refs := by
          rw [map_getElem?_range, List.countP_map]
          rfl
  rw [← hRow, ← hChanged]

/-! ## Weights -/

/-- A row of weights while it is closed up: those that are kept of the ones that have been looked at
stand in front. -/
structure Closing (t : IndexType) where
  row : Array (VertexWeight t)
  kept : Nat

/-- Looks at the weight that stands at a place now, and moves what it becomes to the others that are
kept. -/
def Renumbering.closeAt (m : Renumbering t) (s : Closing t) (place : Nat) : Closing t :=
  match s.row[place]? with
  | none => s
  | some w =>
    match m.weight? w with
    | none => s
    | some v => ⟨s.row.setIfInBounds s.kept v, s.kept + 1⟩

/-- Looks at all weights of a row in order, and cuts off what is left behind those that are kept. -/
def Renumbering.closeUp (m : Renumbering t) (weights : List (VertexWeight t)) :
    List (VertexWeight t) :=
  let s := (List.range weights.length).foldl m.closeAt ⟨weights.toArray, 0⟩
  s.row.toList.take s.kept

namespace Closing

/-- **The first `n` places of a row have been looked at.** In front stands what these weights
become, and it does not reach the places that are still to come, which hold what they held. -/
structure Passed (m : Renumbering t) (weights : List (VertexWeight t)) (n : Nat) (s : Closing t) :
    Prop where
  kept_le : s.kept ≤ n
  front : s.row.toList.take s.kept = (weights.take n).filterMap m.weight?
  back : ∀ k, n ≤ k → s.row[k]? = weights[k]?

variable {weights : List (VertexWeight t)} {n : Nat} {s : Closing t}

theorem passed_zero (m : Renumbering t) (weights : List (VertexWeight t)) :
    Passed m weights 0 ⟨weights.toArray, 0⟩ where
  kept_le := Nat.le_refl 0
  front := by simp
  back k _ := by simp

/-- **The next place.** What is kept has not come that far, so it still holds its old weight. -/
theorem Passed.closeAt (h : Passed m weights n s) (hn : n < weights.length) :
    Passed m weights (n + 1) (m.closeAt s n) := by
  have hKept := h.kept_le
  have hRow : s.row[n]? = some weights[n] := by
    rw [h.back n (Nat.le_refl n), List.getElem?_eq_getElem hn]
  have hTake : (weights.take (n + 1)).filterMap m.weight? =
      (weights.take n).filterMap m.weight? ++ (m.weight? weights[n]).toList := by
    rw [List.take_add_one, List.getElem?_eq_getElem hn, List.filterMap_append]
    cases hWeight : m.weight? weights[n] <;> simp [hWeight]
  unfold Renumbering.closeAt
  rw [hRow]
  cases hWeight : m.weight? weights[n] with
  | none =>
      rw [hWeight] at hTake
      simp only [hWeight]
      exact
        { kept_le := by omega
          front := by simpa [hTake] using h.front
          back := fun k hk => h.back k (by omega) }
  | some v =>
      rw [hWeight] at hTake
      simp only [hWeight]
      obtain ⟨hBound, -⟩ := Array.getElem?_eq_some_iff.1 hRow
      have hLess : s.kept < s.row.toList.length := by
        rw [Array.length_toList]
        omega
      refine { kept_le := Nat.succ_le_succ hKept, front := ?_, back := fun k hk => ?_ }
      · show (s.row.setIfInBounds s.kept v).toList.take (s.kept + 1) = _
        have hFront : (s.row.toList.take s.kept).length = s.kept := by
          rw [List.length_take, Nat.min_eq_left (Nat.le_of_lt hLess)]
        rw [hTake, ← h.front, Array.toList_setIfInBounds, List.take_add_one, List.take_set,
          List.set_eq_of_length_le (Nat.le_of_eq hFront), List.getElem?_set_self hLess]
      · show (s.row.setIfInBounds s.kept v)[k]? = _
        rw [Array.getElem?_setIfInBounds_ne (by omega), h.back k (by omega)]

/-- All places up to some number, one after the other. -/
theorem passed_foldl (m : Renumbering t) (weights : List (VertexWeight t)) {n : Nat}
    (hn : n ≤ weights.length) :
    Passed m weights n ((List.range n).foldl m.closeAt ⟨weights.toArray, 0⟩) := by
  induction n with
  | zero => exact passed_zero m weights
  | succ n ih =>
      rw [List.range_succ, List.foldl_append]
      exact (ih (by omega)).closeAt (by omega)

end Closing

/-- **Closing up in place keeps what follows the renumbering**, in order. -/
theorem Renumbering.closeUp_eq (m : Renumbering t) (weights : List (VertexWeight t)) :
    m.closeUp weights = weights.filterMap m.weight? := by
  have hPassed := Closing.passed_foldl m weights (Nat.le_refl weights.length)
  rw [closeUp, hPassed.front, List.take_length]

end IndexedMesh
