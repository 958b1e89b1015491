import IndexedMesh.Edit.Workspace

/-!
# Running edits

An edit is run on a workspace and gives an answer, or an error, together with the workspace that it
leaves. The steps of an edit are run here one by one: looking never changes the workspace, and a
write changes the document and nothing else, or fails and changes nothing.

A sequence of steps is run by the first step deciding where the second one starts, so a run is taken
apart into the runs of its steps, and put together from them. This is so for any state and any kind
of failure.

## Main results

* `Edit.run_bind_of_ok`, `Edit.run_bind_of_error` — a sequence after its first step.
* `Edit.run_bind_eq_ok_iff` — a sequence that answers.
* `Edit.run_view`, `Edit.run_read_of_ok`, `Edit.run_write_of_ok` and so on — the steps.
* `Edit.run_unlessEmpty` — an edit that may find nothing to work on.
-/

namespace IndexedMesh.Edit

variable {α β : Type} {w w' : Workspace} {e : Error}

/-! ## Sequences -/

theorem run_throw (e : Error) (w : Workspace) : (throw e : Edit α).run w = (.error e, w) := rfl

section

variable {ε σ : Type} {s s' : σ} {fault : ε}

theorem run_bind (x : ExceptT ε (StateM σ) α) (f : α → ExceptT ε (StateM σ) β) (s : σ) :
    (x >>= f).run s =
      match x.run s with
      | (.ok a, s₁) => (f a).run s₁
      | (.error e, s₁) => (.error e, s₁) := by
  show (match x.run s with
    | (r, s₁) => (ExceptT.bindCont f r : StateM σ (Except ε β)).run s₁) = _
  rcases x.run s with ⟨r, s₁⟩
  cases r <;> rfl

theorem run_bind_of_ok {x : ExceptT ε (StateM σ) α} {a : α} (h : x.run s = (.ok a, s'))
    (f : α → ExceptT ε (StateM σ) β) : (x >>= f).run s = (f a).run s' := by
  rw [run_bind, h]

theorem run_bind_of_error {x : ExceptT ε (StateM σ) α} (h : x.run s = (.error fault, s'))
    (f : α → ExceptT ε (StateM σ) β) : (x >>= f).run s = (.error fault, s') := by
  rw [run_bind, h]

/-- **A sequence answers exactly if both of its steps do.** -/
theorem run_bind_eq_ok_iff {x : ExceptT ε (StateM σ) α} {f : α → ExceptT ε (StateM σ) β} {b : β} :
    (x >>= f).run s = (.ok b, s') ↔
      ∃ a s₁, x.run s = (.ok a, s₁) ∧ (f a).run s₁ = (.ok b, s') := by
  rw [run_bind]
  rcases x.run s with ⟨r, s₁⟩
  cases r with
  | ok a =>
      constructor
      · exact fun h => ⟨a, s₁, rfl, h⟩
      · rintro ⟨a', s₂, hFirst, hSecond⟩
        cases hFirst
        exact hSecond
  | error e =>
      constructor
      · intro h; cases h
      · rintro ⟨a', s₂, hFirst, _⟩
        cases hFirst

end

/-! ## Steps -/

theorem run_view (look : Document → α) (w : Workspace) :
    (view look).run w = (.ok (look w.document), w) := rfl

theorem run_attempt_ok (a : α) (w : Workspace) :
    (attempt (.ok a)).run w = (.ok a, w) := rfl

theorem run_attempt_error (e : Error) (w : Workspace) :
    (attempt (.error e) : Edit α).run w = (.error e, w) := rfl

theorem run_permit_ok (a : α) (w : Workspace) :
    (permit (.ok a)).run w = (.ok a, w) := rfl

theorem run_permit_error (e : DocumentError) (w : Workspace) :
    (permit (.error e) : Edit α).run w = (.error (.document e), w) := rfl

theorem run_read_of_ok {look : Document → Except DocumentError α} {a : α}
    (h : look w.document = .ok a) : (Edit.read look).run w = (.ok a, w) := by
  show (permit (look w.document)).run w = _
  rw [h]
  rfl

/-- A write that the document permits changes the document and nothing else. -/
theorem run_write_of_ok {change : Document → Except DocumentError Document} {d : Document}
    (h : change w.document = .ok d) :
    (Edit.write change).run w = (.ok (), { w with document := d }) := by
  rw [Edit.write, run_bind_of_ok (run_read_of_ok h)]
  rfl

theorem run_orEmpty_some (a : α) (w : Workspace) :
    (orEmpty (some a)).run w = (.ok a, w) := rfl

theorem run_orEmpty_none (w : Workspace) :
    (orEmpty (none : Option α)).run w = (.error .emptyInput, w) := rfl

/-- What is looked up and has to be there. -/
theorem run_orEmpty_view_eq_ok_iff {look : Document → Option α} {a : α} :
    (view look >>= orEmpty).run w = (.ok a, w') ↔ look w.document = some a ∧ w' = w := by
  show (orEmpty (look w.document)).run w = _ ↔ _
  cases look w.document with
  | none =>
      constructor
      · intro h; cases h
      · rintro ⟨h, _⟩; cases h
  | some b =>
      rw [run_orEmpty_some]
      constructor
      · intro h
        cases h
        exact ⟨rfl, rfl⟩
      · rintro ⟨h, rfl⟩
        cases h
        rfl

/-! ## Edits that may find nothing to work on -/

private theorem run_map (f : α → β) (x : Edit α) (w : Workspace) :
    (f <$> x).run w =
      match x.run w with
      | (.ok a, w₁) => (.ok (f a), w₁)
      | (.error e, w₁) => (.error e, w₁) := by
  rw [map_eq_pure_bind, run_bind]
  rcases x.run w with ⟨r, w₁⟩
  cases r <;> rfl

private theorem run_tryCatch (x : Edit α) (handle : Error → Edit α) (w : Workspace) :
    (tryCatch x handle).run w =
      match x.run w with
      | (.ok a, w₁) => (.ok a, w₁)
      | (.error e, w₁) => (handle e).run w₁ := by
  rcases hRun : x.run w with ⟨r, w₁⟩
  have hApply : (x : StateM Workspace (Except Error α)) w = (r, w₁) := hRun
  simp only [tryCatch, tryCatchThe, MonadExceptOf.tryCatch, ExceptT.tryCatch, ExceptT.run_mk, bind,
    StateT.bind, hApply]
  cases r <;> rfl

/-- **Having nothing to work on is an answer**; all else stays as it is. -/
theorem run_unlessEmpty (x : Edit α) (w : Workspace) :
    (unlessEmpty x).run w =
      match x.run w with
      | (.ok a, w₁) => (.ok (some a), w₁)
      | (.error .emptyInput, w₁) => (.ok none, w₁)
      | (.error e, w₁) => (.error e, w₁) := by
  rw [unlessEmpty, run_tryCatch, run_map]
  rcases x.run w with ⟨r, w₁⟩
  cases r with
  | ok a => rfl
  | error e => cases e <;> rfl

end IndexedMesh.Edit
