import IndexedMesh.Edit.Operation
import IndexedMesh.Proofs.Removal

/-!
# Carrying operations out

Around the edit itself, an operation looks whether it is for the selection and whether it has the
mode, and takes having nothing to work on for an answer. What the two operations that remove
vertices do is read off here from the plan of their site.

## Main results

* `Operation.run_perform` — an operation is its edit between the two checks.
* `Operation.removal` — the two operations that remove vertices.
* `Operation.removal_ok_plan` — such an operation that succeeds either had nothing to do and
  changed nothing, or has carried a plan out.
-/

namespace IndexedMesh.Operation

variable {w w' : Workspace} {selection : Selection} {mode : Nat}

/-- **An operation is its edit between two checks.** -/
theorem run_perform (op : Operation) (selection : Selection) (mode : Nat) (w : Workspace) :
    (op.perform selection mode).run w =
      if op.applies w.document selection = false then (.error (.notApplicable op.name), w)
      else if op.modeCount ≤ mode then (.error (.unknownMode op.name mode), w)
      else match (op.edit selection mode).run w with
        | (.ok notices, w₁) => (.ok { notices }, w₁)
        | (.error .emptyInput, w₁) => (.ok { notices := [.nothingToDo] }, w₁)
        | (.error e, w₁) => (.error e, w₁) := by
  rw [perform, Edit.run_bind_of_ok (Edit.run_view _ _)]
  cases hApplies : op.applies w.document selection with
  | false => rfl
  | true =>
      by_cases hMode : op.modeCount ≤ mode
      · simp only [hMode, if_true]
        rfl
      · simp only [hMode, if_false]
        show (Edit.unlessEmpty (op.edit selection mode) >>= _).run w = _
        rw [Edit.run_bind, Edit.run_unlessEmpty]
        rcases (op.edit selection mode).run w with ⟨r, w₁⟩
        cases r with
        | ok notices => rfl
        | error e => cases e <;> rfl

/-- An operation that is for the selection and has the mode succeeds if its edit does. -/
theorem run_perform_of_ok {op : Operation} {notices : List Notice}
    (hApplies : op.applies w.document selection = true) (hMode : mode < op.modeCount)
    (hEdit : (op.edit selection mode).run w = (.ok notices, w')) :
    (op.perform selection mode).run w = (.ok { notices }, w') := by
  rw [run_perform, if_neg (by simp [hApplies]), if_neg (by omega), hEdit]

/-- An operation leaves what its edit leaves, or does not come to it. -/
theorem run_perform_snd (op : Operation) (selection : Selection) (mode : Nat) (w : Workspace) :
    ((op.perform selection mode).run w).2 = w ∨
      ((op.perform selection mode).run w).2 = ((op.edit selection mode).run w).2 := by
  rw [run_perform]
  split
  · exact .inl rfl
  · split
    · exact .inl rfl
    · rcases (op.edit selection mode).run w with ⟨r, w₁⟩
      cases r with
      | ok notices => exact .inr rfl
      | error e => cases e <;> exact .inr rfl

/-! ## The removal of vertices -/

/-- The operation that removes unused vertices, after merging duplicates if that is asked for. -/
def removal (mergeDuplicates : Bool) : Operation :=
  if mergeDuplicates then .removeDuplicates else .removeUnused

theorem removal_injective : Function.Injective removal := by
  intro a b h
  cases a <;> cases b <;> first | rfl | cases h

theorem modeCount_removal (mergeDuplicates : Bool) : (removal mergeDuplicates).modeCount = 1 := by
  cases mergeDuplicates <;> rfl

/-- The edit, once the selection stands for the geometry of a site. -/
theorem run_edit_removal {site : RemovalSite} (hSite : site.In w.document)
    (hSelected : w.document.selectedData? selection = some (site.shape, site.data))
    (mergeDuplicates : Bool) (mode : Nat) :
    ((removal mergeDuplicates).edit selection mode).run w =
      match site.plan mergeDuplicates with
      | .error e => (.error e, w)
      | .ok none => (.ok [.nothingToDo], w)
      | .ok (some out) =>
        (.ok (site.notices out), { w with document := site.apply out w.document }) := by
  have hGeometry : (Edit.selectedGeometry selection).run w =
      (.ok (site.shape, site.data), w) := by
    rw [Edit.selectedGeometry, Edit.run_bind_of_ok (Edit.run_view _ _), hSelected]
    rfl
  have hEdit : ((removal mergeDuplicates).edit selection mode).run w =
      (Edit.stripVertices site.shape site.data mergeDuplicates).run w := by
    cases mergeDuplicates with
    | false => exact Edit.run_bind_of_ok hGeometry _
    | true => exact Edit.run_bind_of_ok hGeometry _
  exact hEdit.trans (Edit.run_stripVertices hSite mergeDuplicates)

theorem applies_removal_iff (d : Document) (mergeDuplicates : Bool) :
    (removal mergeDuplicates).applies d selection = true ↔
      ∃ site : RemovalSite, site.In d ∧
        d.selectedData? selection = some (site.shape, site.data) := by
  have hApplies : (removal mergeDuplicates).applies d selection =
      (d.selectedData? selection).isSome := by
    cases mergeDuplicates <;> rfl
  rw [hApplies, Option.isSome_iff_exists]
  constructor
  · rintro ⟨⟨shape, data⟩, hSelected⟩
    obtain ⟨g, hGet⟩ := Document.get?_of_selectedData? hSelected
    obtain ⟨site, hShape, hData, _, hSite⟩ := RemovalSite.exists_in shape hGet
    refine ⟨site, hSite, ?_⟩
    rw [hShape, hData, hSelected]
  · rintro ⟨site, _, hSelected⟩
    exact ⟨_, hSelected⟩

/-- **A removal that succeeds** has a site. It had no vertices to work on or planned to remove none,
and then it changed nothing, or it has carried the plan out. -/
theorem removal_ok_plan {mergeDuplicates : Bool} {outcome : Outcome}
    (hRun : ((removal mergeDuplicates).perform selection mode).run w = (.ok outcome, w')) :
    ∃ site : RemovalSite, site.In w.document ∧
      w.document.selectedData? selection = some (site.shape, site.data) ∧
      (((site.geometry.arrays.size = 0 ∨ site.plan mergeDuplicates = .ok none) ∧
          outcome = { notices := [.nothingToDo] } ∧ w' = w) ∨
        ∃ out, site.plan mergeDuplicates = .ok (some out) ∧
          outcome = { notices := site.notices out } ∧
          w' = { w with document := site.apply out w.document }) := by
  rw [run_perform] at hRun
  by_cases hApplies : (removal mergeDuplicates).applies w.document selection = false
  · rw [if_pos hApplies] at hRun
    cases hRun
  · rw [if_neg hApplies] at hRun
    by_cases hMode : (removal mergeDuplicates).modeCount ≤ mode
    · rw [if_pos hMode] at hRun
      cases hRun
    · rw [if_neg hMode] at hRun
      obtain ⟨site, hSite, hSelected⟩ :=
        (applies_removal_iff w.document mergeDuplicates).1 (by simpa using hApplies)
      refine ⟨site, hSite, hSelected, ?_⟩
      rw [run_edit_removal hSite hSelected] at hRun
      cases hPlan : site.plan mergeDuplicates with
      | error e =>
          rw [hPlan] at hRun
          cases e <;> cases hRun
          exact .inl ⟨.inl (RemovalSite.size_eq_zero_of_plan hPlan), rfl, rfl⟩
      | ok answer =>
          rw [hPlan] at hRun
          cases answer with
          | none =>
              cases hRun
              exact .inl ⟨.inr rfl, rfl, rfl⟩
          | some out =>
              cases hRun
              exact .inr ⟨out, rfl, rfl, rfl⟩

/-- A removal that succeeds either had nothing to do and changed nothing, or has carried the plan of
its site out. -/
theorem removal_ok_cases {mergeDuplicates : Bool} {outcome : Outcome}
    (hRun : ((removal mergeDuplicates).perform selection mode).run w = (.ok outcome, w')) :
    (outcome = { notices := [.nothingToDo] } ∧ w' = w) ∨
      ∃ (site : RemovalSite) (out : Stripped .stored), site.In w.document ∧
        w.document.selectedData? selection = some (site.shape, site.data) ∧
        site.plan mergeDuplicates = .ok (some out) ∧ outcome = { notices := site.notices out } ∧
        w' = { w with document := site.apply out w.document } := by
  obtain ⟨site, hSite, hSelected, ⟨-, hNothing⟩ | ⟨out, hDone⟩⟩ := removal_ok_plan hRun
  · exact .inl hNothing
  · exact .inr ⟨site, out, hSite, hSelected, hDone⟩

end IndexedMesh.Operation
