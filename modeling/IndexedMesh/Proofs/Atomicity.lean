import IndexedMesh.Proofs.Effects

/-!
# Operations that do nothing leave no trace

An operation that fails has not written anything, and neither has one that reports nothing to do,
whether its edit said so or found no vertices to work on. This holds of any document, however little
its counts, arrays, indices and links agree, and for any state of the clipboard.

For failures there is nothing left to show: an edit that fails has been seen to leave everything as
it was. A success is quiet if all of its notices say that there was nothing to do. Every edit that
writes tells of it in the end, so a quiet success is one of the few that return before they write.

## Main results

* `Edit.Tells` — an edit that has something to tell whenever it succeeds.
* `Operation.edit_quiet` — an edit that is quiet leaves everything as it was.
* `performNamed_unchanged` — so does an operation that fails or has nothing to do.
-/

namespace IndexedMesh

/-- An outcome is one of nothing to do exactly if no notice says otherwise. -/
theorem Outcome.isNoop_iff (o : Outcome) : o.isNoop = true ↔ ∀ n ∈ o.notices, n = .nothingToDo := by
  simp [Outcome.isNoop]

namespace Edit

variable {w w' : Workspace} {selection : Selection} {mode : Nat}

/-! ## Edits that tell what they did -/

/-- Whenever the edit succeeds, one of its notices says that something was done. -/
def Tells (x : Edit (List Notice)) : Prop :=
  ∀ w notices w', x.run w = (.ok notices, w') → ∃ n ∈ notices, n ≠ .nothingToDo

private theorem tells_pure {n : Notice} (h : n ≠ .nothingToDo) : Tells (pure [n]) := by
  intro w notices w' hRun
  cases hRun
  exact ⟨n, List.mem_singleton_self n, h⟩

private theorem tells_bind {α : Type} {x : Edit α} {f : α → Edit (List Notice)}
    (hf : ∀ a, Tells (f a)) : Tells (x >>= f) := by
  intro w notices w' hRun
  obtain ⟨a, w₁, _, hNext⟩ := run_bind_eq_ok_iff.1 hRun
  exact hf a w₁ notices w' hNext

private theorem tells_unless {c : Prop} [Decidable c] {e : Error}
    {f : Unit → Edit (List Notice)} (hf : Tells (f ())) :
    Tells (if c then throw e >>= f else f ()) := by
  by_cases hc : c
  · rw [if_pos hc]
    intro w notices w' hRun
    rw [run_bind_of_error (run_throw e w)] at hRun
    cases hRun
  · rw [if_neg hc]
    exact hf

private theorem told_of_run_writeBounds {id : BlockId} {rule : CenterRule}
    {points : List Position} {notice : Notice}
    (hRun : (writeBounds id rule points).run w = (.ok notice, w')) : notice ≠ .nothingToDo := by
  obtain ⟨bounds, w₁, _, hRun⟩ := run_bind_eq_ok_iff.1 hRun
  obtain ⟨_, w₂, _, hRun⟩ := run_bind_eq_ok_iff.1 hRun
  cases hRun
  exact nofun

private theorem told_of_run_updatePacked {id : BlockId} {notice : Notice}
    (hRun : (updatePacked id).run w = (.ok notice, w')) : notice ≠ .nothingToDo := by
  obtain ⟨vertices, w₁, _, hRun⟩ := run_bind_eq_ok_iff.1 hRun
  exact told_of_run_writeBounds hRun

private theorem told_of_run_unlessEmpty {id : BlockId} {notice : Notice}
    (hRun : (unlessEmpty (updatePacked id)).run w = (.ok (some notice), w')) :
    notice ≠ .nothingToDo := by
  rw [run_unlessEmpty] at hRun
  rcases hPacked : (updatePacked id).run w with ⟨r, w₁⟩
  rw [hPacked] at hRun
  cases r with
  | ok n =>
      cases hRun
      exact told_of_run_updatePacked hPacked
  | error e => cases e <;> cases hRun

private theorem told_of_run_updateEach :
    ∀ (ids : List BlockId) {w w' : Workspace} {notices : List Notice},
      (updateEach ids).run w = (.ok notices, w') → ∀ n ∈ notices, n ≠ .nothingToDo := by
  intro ids
  induction ids with
  | nil =>
      intro w w' notices hRun n hn
      cases hRun
      cases hn
  | cons id others ih =>
      intro w w' notices hRun n hn
      obtain ⟨first, w₁, hFirst, hRun⟩ := run_bind_eq_ok_iff.1 hRun
      obtain ⟨rest, w₂, hRest, hRun⟩ := run_bind_eq_ok_iff.1 hRun
      cases hRun
      rcases List.mem_append.1 hn with hHead | hTail
      · obtain rfl : first = some n := by simpa using hHead
        exact told_of_run_unlessEmpty hFirst
      · exact ih hRest n hTail

theorem updateCenter_tells : Tells (Edit.updateCenter selection mode) := by
  refine tells_bind fun answer => tells_bind fun rule => tells_bind fun arrays => ?_
  intro w notices w' hRun
  obtain ⟨notice, w₁, hWrite, hRun⟩ := run_bind_eq_ok_iff.1 hRun
  cases hRun
  exact ⟨notice, List.mem_singleton_self notice, told_of_run_writeBounds hWrite⟩

theorem updateBounds_tells : Tells (Edit.updateBounds selection) := by
  refine tells_bind fun id => ?_
  intro w notices w' hRun
  obtain ⟨notice, w₁, hPacked, hRun⟩ := run_bind_eq_ok_iff.1 hRun
  cases hRun
  exact ⟨notice, List.mem_singleton_self notice, told_of_run_updatePacked hPacked⟩

theorem updateAllBounds_tells : Tells Edit.updateAllBounds := by
  refine tells_bind fun shapes => ?_
  intro w notices w' hRun
  obtain ⟨told, w₁, hEach, hRun⟩ := run_bind_eq_ok_iff.1 hRun
  cases told with
  | nil => cases hRun
  | cons n more =>
      cases hRun
      exact ⟨n, List.mem_cons_self, told_of_run_updateEach shapes hEach n List.mem_cons_self⟩

theorem flipUv_tells : Tells (Edit.flipUv selection mode) := by
  refine tells_bind fun answer => ?_
  cases answer with
  | some answer => exact tells_bind fun _ => tells_pure nofun
  | none => exact tells_bind fun _ => tells_bind fun _ => tells_pure nofun

theorem flipFaces_tells : Tells (Edit.flipFaces selection) :=
  tells_bind fun _ => tells_bind fun _ => tells_bind fun _ => tells_pure nofun

theorem copyVertexData_tells : Tells (Edit.copyVertexData selection) :=
  tells_bind fun _ => tells_bind fun _ => tells_unless <| tells_bind fun _ =>
    tells_bind fun _ => tells_bind fun _ => tells_bind fun _ => tells_pure nofun

theorem pasteVertexData_tells : Tells (Edit.pasteVertexData selection) :=
  tells_bind fun _ => tells_bind fun _ => tells_bind fun _ => tells_unless <|
    tells_bind fun _ => tells_bind fun _ => tells_bind fun _ => tells_pure nofun

end Edit

namespace Operation

open Edit

variable {op : Operation} {w w' : Workspace} {selection : Selection} {mode : Nat}
  {notices : List Notice}

/-- Pruning that has nothing to drop does not write, and otherwise tells what it dropped. -/
private theorem pruneTriangles_quiet
    (hRun : (Edit.pruneTriangles selection).run w = (.ok notices, w'))
    (hQuiet : ∀ n ∈ notices, n = .nothingToDo) : w' = w := by
  cases hSelected : w.document.selectedData? selection with
  | none =>
      rw [Edit.pruneTriangles, run_selectedGeometry_bind_of_none hSelected] at hRun
      cases hRun
  | some answer =>
      obtain ⟨g, hGet⟩ := Document.get?_of_selectedData? hSelected
      rw [run_pruneTriangles hSelected hGet] at hRun
      split at hRun
      · cases hRun
      · split at hRun
        · cases hRun
          rfl
        · cases hRun
          cases hQuiet _ (List.mem_singleton_self _)

/-- A removal of vertices that is quiet has found nothing to remove. -/
private theorem removal_quiet (mergeDuplicates : Bool)
    (hRun : ((removal mergeDuplicates).edit selection mode).run w = (.ok notices, w'))
    (hApplies : (removal mergeDuplicates).applies w.document selection = true)
    (hQuiet : ∀ n ∈ notices, n = .nothingToDo) : w' = w := by
  obtain ⟨site, hSite, hSelected⟩ := (applies_removal_iff w.document mergeDuplicates).1 hApplies
  rw [run_edit_removal hSite hSelected] at hRun
  cases hPlan : site.plan mergeDuplicates with
  | error e =>
      rw [hPlan] at hRun
      cases hRun
  | ok answer =>
      rw [hPlan] at hRun
      cases answer with
      | none =>
          cases hRun
          rfl
      | some out =>
          cases hRun
          have hTold := (RemovalSite.removedVertices_mem_notices site out _ _).2 ⟨rfl, rfl⟩
          cases hQuiet _ hTold

/-- A removal of vertices that fails has done so before its first write. -/
private theorem removal_failed {mergeDuplicates : Bool} {e : Error}
    (hRun : ((removal mergeDuplicates).edit selection mode).run w = (.error e, w'))
    (hApplies : (removal mergeDuplicates).applies w.document selection = true) : w' = w := by
  obtain ⟨site, hSite, hSelected⟩ := (applies_removal_iff w.document mergeDuplicates).1 hApplies
  rw [run_edit_removal hSite hSelected] at hRun
  cases hPlan : site.plan mergeDuplicates with
  | error e' =>
      rw [hPlan] at hRun
      cases hRun
      rfl
  | ok answer =>
      rw [hPlan] at hRun
      cases answer <;> cases hRun

/-- **An edit that fails leaves everything as it was.** -/
theorem edit_failed {e : Error} (hApplies : op.applies w.document selection = true)
    (hRun : (op.edit selection mode).run w = (.error e, w')) : w' = w := by
  by_cases hOp : ∃ mergeDuplicates, op = removal mergeDuplicates
  · obtain ⟨mergeDuplicates, rfl⟩ := hOp
    exact removal_failed hRun hApplies
  · rcases edit_cases (not_exists.1 hOp) hRun with ⟨_, _, hSame⟩ | ⟨_, hOk, _⟩
    · exact hSame
    · cases hOk

/-- **An edit whose notices all say that there was nothing to do leaves everything as it was.** -/
theorem edit_quiet (hApplies : op.applies w.document selection = true)
    (hRun : (op.edit selection mode).run w = (.ok notices, w'))
    (hQuiet : ∀ n ∈ notices, n = .nothingToDo) : w' = w := by
  have hTells : ∀ {x : Edit (List Notice)}, Tells x → x.run w = (.ok notices, w') → w' = w := by
    intro x hx hRun
    obtain ⟨n, hn, hTold⟩ := hx w notices w' hRun
    exact absurd (hQuiet n hn) hTold
  cases op with
  | removeUnused => exact removal_quiet false hRun hApplies hQuiet
  | removeDuplicates => exact removal_quiet true hRun hApplies hQuiet
  | updateCenter => exact hTells updateCenter_tells hRun
  | updateBounds => exact hTells updateBounds_tells hRun
  | updateAllBounds => exact hTells updateAllBounds_tells hRun
  | flipUv => exact hTells flipUv_tells hRun
  | flipFaces => exact hTells flipFaces_tells hRun
  | pruneTriangles => exact pruneTriangles_quiet hRun hQuiet
  | copyVertexData => exact hTells copyVertexData_tells hRun
  | pasteVertexData => exact hTells pasteVertexData_tells hRun

/-- **An operation that fails, or has nothing to do, leaves everything as it was.** -/
theorem perform_unchanged {r : Except Error Outcome}
    (hRun : (op.perform selection mode).run w = (r, w'))
    (hNoop : ∀ outcome, r = .ok outcome → outcome.isNoop = true) : w' = w := by
  rw [run_perform] at hRun
  by_cases hApplies : op.applies w.document selection = false
  · rw [if_pos hApplies] at hRun
    cases hRun
    rfl
  · rw [if_neg hApplies] at hRun
    have hFor : op.applies w.document selection = true := by simpa using hApplies
    by_cases hMode : op.modeCount ≤ mode
    · rw [if_pos hMode] at hRun
      cases hRun
      rfl
    · rw [if_neg hMode] at hRun
      rcases hEdit : (op.edit selection mode).run w with ⟨answer, w₁⟩
      rw [hEdit] at hRun
      cases answer with
      | ok notices =>
          cases hRun
          exact edit_quiet hFor hEdit ((Outcome.isNoop_iff _).1 (hNoop _ rfl))
      | error e =>
          -- Finding no vertices is an error of the edit, and only the operation makes it a success.
          obtain rfl := edit_failed hFor hEdit
          cases e <;> cases hRun <;> rfl

end Operation

/-- **Failed operations and operations with nothing to do leave no trace**, neither in the document
nor on the clipboard. -/
theorem performNamed_unchanged {name : String} {selection : Selection} {mode : Nat}
    {w w' : Workspace} {r : Except Error Outcome}
    (hRun : (performNamed name selection mode).run w = (r, w'))
    (hNoop : ∀ outcome, r = .ok outcome → outcome.isNoop = true) : w' = w := by
  unfold performNamed at hRun
  split at hRun
  · exact Operation.perform_unchanged hRun hNoop
  · cases hRun
    rfl

/-- A geometry with a triangle beyond its vertices, and a packed shape without vertices. -/
def strayTriangle : Workspace where
  document := {
    header := { userVersion2 := 130 }
    slots := #[
      some (.geometry {
        numVertices := 3
        vertices := #[⟨0, 0, 0⟩, ⟨1, 0, 0⟩, ⟨0, 0, 0⟩]
        triangles := [⟨.ofPosition 0, .ofPosition 1, .ofPosition 7⟩] }),
      some (.packedShape {})] }
  clipboard := { text := some "[]" }

/-- One operation meets a face beyond the vertices, and one finds no vertices at all. -/
theorem performNamed_unchanged_strayTriangle :
    (performNamed "Remove Duplicate Vertices" (some ⟨0⟩) 0).run strayTriangle =
        (.error (.indexOutOfRange 7 3), strayTriangle) ∧
      (performNamed "Batch/Update All Bounds" none 0).run strayTriangle =
        (.ok ⟨[.nothingToDo]⟩, strayTriangle) := by
  have hFailed : ((performNamed "Remove Duplicate Vertices" (some ⟨0⟩) 0).run strayTriangle).1 =
      .error (.indexOutOfRange 7 3) := by
    decide +kernel
  have hNoop : ((performNamed "Batch/Update All Bounds" none 0).run strayTriangle).1 =
      .ok ⟨[.nothingToDo]⟩ := by
    decide +kernel
  have hFailedRun := Prod.ext (y := (_, _)) hFailed rfl
  have hNoopRun := Prod.ext (y := (_, _)) hNoop rfl
  refine ⟨Prod.ext hFailed ?_, Prod.ext hNoop ?_⟩
  · exact performNamed_unchanged hFailedRun nofun
  · refine performNamed_unchanged hNoopRun fun outcome h => ?_
    cases h
    decide

end IndexedMesh
