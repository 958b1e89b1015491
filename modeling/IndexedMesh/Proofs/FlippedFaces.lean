import IndexedMesh.Proofs.Pruning

/-!
# Flipping and pruning

A triangle seen from behind begins with the same corner and goes round the other way, so the
rotation that begins with its least corner is another one, and a scan that prunes looks up other
rotations than before. What it keeps does not depend on these, though, but on two properties of
triangles: having an area, and being the same face. Both are the same from behind.

On a document, either operation does to the triangles of the selected geometry what a function does
to a list, and nothing else. This holds where the operation is not for the selection as well, since
then it leaves a list without triangles as it is. So two of them in a row do what the composed
functions do.

## Main results

* `firstFaces_map_flip` — the first triangles of their faces, seen from behind.
* `prune_map_flip` — pruning flipped triangles.
* `EditsFaces` — what it means to edit faces by a function, with `EditsFaces.comp` and
  `EditsFaces.eq`.
* `editsFaces_flip`, `editsFaces_prune` — both operations do.
* `FlipsAndPrunes` — what both do to a geometry.
* `flip_prune_commute` — **flipping and pruning can be exchanged, and flipping twice changes
  nothing.**
-/

namespace IndexedMesh

variable {t : IndexType}

/-! ## Triangles from behind -/

namespace Triangle

@[simp] theorem flip_flip (f : Triangle t) : f.flip.flip = f := rfl

/-- From behind, the corners come round the other way. -/
theorem flip_rotate (f : Triangle t) : f.rotate.flip = f.flip.rotate.rotate := rfl

theorem flip_injective : Function.Injective (flip : Triangle t → Triangle t) := fun f g h => by
  rw [← flip_flip f, h, flip_flip]

/-- **Triangles are the same face exactly if they are from behind.** -/
@[simp] theorem sameFace_flip_flip (f g : Triangle t) : f.flip.sameFace g.flip = f.sameFace g := by
  rw [Bool.eq_iff_iff, sameFace_iff, sameFace_iff, ← flip_injective.eq_iff (a := g),
    ← flip_injective.eq_iff (a := g), ← flip_injective.eq_iff (a := g), flip_rotate, flip_rotate,
    flip_rotate]
  rw [rotate_rotate_rotate, or_comm (a := g.flip = f.flip.rotate)]

@[simp] theorem repeats_flip (f : Triangle t) (before : List (Triangle t)) :
    f.flip.repeats (before.map flip) = f.repeats before := by
  simp only [repeats, isDegenerate_flip, List.any_map, Function.comp_def, sameFace_flip_flip]

@[simp] theorem isFirst_flip (f : Triangle t) (before : List (Triangle t)) :
    f.flip.isFirst (before.map flip) = f.isFirst before := by
  simp only [isFirst, isDegenerate_flip, repeats_flip]

end Triangle

/-! ## Pruning from behind -/

/-- The first triangles of their faces are the same ones from behind. -/
theorem firstFaces_map_flip (fs : List (Triangle t)) :
    firstFaces (fs.map Triangle.flip) = (firstFaces fs).map (Prod.map Triangle.flip id) := by
  rw [firstFaces, firstFaces, List.zipIdx_map, List.filter_map]
  congr 1
  refine List.filter_congr fun p _ => ?_
  simp [← List.map_take]

/-- **Pruning flipped triangles keeps the flipped triangles of those that are kept**, and drops as
many of either sort. -/
theorem prune_map_flip (fs : List (Triangle t)) :
    prune (fs.map Triangle.flip) =
      { prune fs with kept := (prune fs).kept.map Triangle.flip } := by
  have hKept : (prune (fs.map Triangle.flip)).kept = (prune fs).kept.map Triangle.flip := by
    rw [kept_prune, kept_prune, firstFaces_map_flip, List.map_map, List.map_map]
    rfl
  have hDegenerate : (prune (fs.map Triangle.flip)).degenerate = (prune fs).degenerate := by
    rw [degenerate_prune, degenerate_prune, List.countP_map]
    exact List.countP_congr fun f _ => by simp
  have hDuplicate : (prune (fs.map Triangle.flip)).duplicate = (prune fs).duplicate := by
    rw [duplicate_prune, duplicate_prune, List.zipIdx_map, List.countP_map]
    exact List.countP_congr fun p _ => by simp [← List.map_take]
  exact congr (congr (congrArg Pruned.mk hKept) hDegenerate) hDuplicate

/-! ## Edits of faces -/

/-- What an operation leaves, whether it succeeds or not. -/
def Operation.leaves (op : Operation) (selection : Selection) (w : Workspace) : Workspace :=
  ((op.perform selection 0).run w).2

/-- A step that does to the triangles of the selected geometry what a function does to a list, and
changes nothing else. -/
structure EditsFaces (selection : Selection) (step : Workspace → Workspace)
    (F : List (Triangle .stored) → List (Triangle .stored)) : Prop where
  selected : ∀ {w shape data g}, w.document.selectedData? selection = some (shape, data) →
    w.document.get? data = some (.geometry g) →
      step w = w.put data (.geometry { g with triangles := F g.triangles })
  unselected : ∀ {w}, w.document.selectedData? selection = none → step w = w

section

variable {selection : Selection} {step step' : Workspace → Workspace}
  {F G : List (Triangle .stored) → List (Triangle .stored)} {w : Workspace}
  {shape : Option BlockId} {data : BlockId} {g : GeometryData}

private theorem put_triangles_self (hGet : w.document.get? data = some (.geometry g))
    {fs : List (Triangle .stored)} (hSame : fs = g.triangles) :
    w.put data (.geometry { g with triangles := fs }) = w := by
  rw [hSame, Workspace.put, Document.replace_self hGet]

private theorem selectedData?_put (hGet : w.document.get? data = some (.geometry g))
    (fs : List (Triangle .stored)) :
    (w.put data (.geometry { g with triangles := fs })).document.selectedData? selection =
      w.document.selectedData? selection := by
  have hWiring : (w.document.replace data (.geometry { g with triangles := fs })).wiring =
      w.document.wiring := Document.wiring_replace hGet rfl
  rw [Workspace.put, ← Document.selectedData?_wiring, hWiring, Document.selectedData?_wiring]

private theorem get?_put (hGet : w.document.get? data = some (.geometry g)) (block : Block) :
    (w.put data block).document.get? data = some block := by
  rw [Workspace.put, Document.get?_replace (Document.contains_of_get? hGet), if_pos rfl]

namespace EditsFaces

/-- Changing nothing. -/
theorem refl (selection : Selection) : EditsFaces selection (fun w => w) (fun fs => fs) where
  selected _ hGet := (put_triangles_self hGet rfl).symm
  unselected _ := rfl

/-- **Two edits of faces in a row** are an edit by the composed functions. -/
theorem comp (h : EditsFaces selection step F) (h' : EditsFaces selection step' G) :
    EditsFaces selection (step' ∘ step) (G ∘ F) where
  selected {w shape data g} hSelected hGet := by
    have hStill := (selectedData?_put hGet (F g.triangles)).trans hSelected
    rw [Function.comp_apply, h.selected hSelected hGet, h'.selected hStill (get?_put hGet _),
      Workspace.put, Workspace.put, Document.replace_replace]
    rfl
  unselected {w} hNone := by
    rw [Function.comp_apply, h.unselected hNone, h'.unselected hNone]

/-- **The function tells what the edit does.** -/
theorem eq (h : EditsFaces selection step F) (h' : EditsFaces selection step' F) :
    step = step' := by
  funext w
  cases hSelected : w.document.selectedData? selection with
  | none => rw [h.unselected hSelected, h'.unselected hSelected]
  | some answer =>
      obtain ⟨g, hGet⟩ := Document.get?_of_selectedData? hSelected
      rw [h.selected hSelected hGet, h'.selected hSelected hGet]

end EditsFaces

/-! ## Both operations -/

private theorem leaves_of_refused {op : Operation}
    (hRefused : op.applies w.document selection = false) : op.leaves selection w = w := by
  rw [Operation.leaves, Operation.run_perform, if_pos hRefused]

private theorem leaves_of_edit {op : Operation} {r : Except Error (List Notice)} {w' : Workspace}
    (hApplies : op.applies w.document selection = true)
    (hEdit : (op.edit selection 0).run w = (r, w')) : op.leaves selection w = w' := by
  have hMode : ¬ op.modeCount ≤ 0 := by
    rw [Operation.modeCount]
    omega
  rw [Operation.leaves, Operation.run_perform, if_neg (by simp [hApplies]), if_neg hMode, hEdit]
  cases r with
  | ok notices => rfl
  | error e => cases e <;> rfl

/-- An operation for geometries with triangles edits faces by a function if it does so where there
are triangles, and the function adds none where there are none. -/
private theorem editsFaces_of_edit {op : Operation}
    (hOp : op = .flipFaces ∨ op = .pruneTriangles) (hNone : F [] = [])
    (hEdit : ∀ {w : Workspace} {shape data g},
      w.document.selectedData? selection = some (shape, data) →
        w.document.get? data = some (.geometry g) → g.triangles.isEmpty = false →
          ((op.edit selection 0).run w).2 =
            w.put data (.geometry { g with triangles := F g.triangles })) :
    EditsFaces selection (op.leaves selection) F where
  selected {w shape data g} hSelected hGet := by
    have hApplies : op.applies w.document selection = !g.triangles.isEmpty := by
      rw [← Document.hasSelectedTriangles_eq hSelected hGet]
      rcases hOp with rfl | rfl <;> rfl
    cases hEmpty : g.triangles.isEmpty with
    | true =>
        have hTriangles : g.triangles = [] := List.isEmpty_iff.1 hEmpty
        rw [leaves_of_refused (by rw [hApplies, hEmpty]; rfl),
          put_triangles_self hGet (by rw [hTriangles, hNone])]
    | false =>
        rw [← hEdit hSelected hGet hEmpty]
        exact leaves_of_edit (by rw [hApplies, hEmpty]; rfl) rfl
  unselected {w} hUnselected := by
    refine leaves_of_refused ?_
    have hTriangles : w.document.hasSelectedTriangles selection = false := by
      rw [Document.hasSelectedTriangles, hUnselected]
    rcases hOp with rfl | rfl <;> exact hTriangles

/-- **Flipping faces flips each triangle.** -/
theorem editsFaces_flip (selection : Selection) :
    EditsFaces selection (Operation.flipFaces.leaves selection) (·.map Triangle.flip) := by
  refine editsFaces_of_edit (.inl rfl) rfl fun hSelected hGet hEmpty => ?_
  have hRun := Edit.run_flipFaces hSelected hGet
  rw [if_neg (by simp [hEmpty])] at hRun
  exact congrArg Prod.snd hRun

/-- **Pruning triangles leaves the ones that are kept.** If nothing is dropped, the edit does not
write, and writing would change nothing. -/
theorem editsFaces_prune (selection : Selection) :
    EditsFaces selection (Operation.pruneTriangles.leaves selection) (prune · |>.kept) := by
  refine editsFaces_of_edit (.inr rfl) rfl fun {w shape data g} hSelected hGet hEmpty => ?_
  have hRun := Edit.run_pruneTriangles hSelected hGet
  rw [if_neg (by simp [hEmpty])] at hRun
  by_cases hDropped : (prune g.triangles).degenerate + (prune g.triangles).duplicate = 0
  · rw [if_pos hDropped] at hRun
    rw [put_triangles_self hGet (kept_eq_self hDropped)]
    exact congrArg Prod.snd hRun
  · rw [if_neg hDropped] at hRun
    exact congrArg Prod.snd hRun

/-! ## Flipping and pruning a geometry -/

/-- What pruning a geometry with some triangles answers. -/
private def pruneAnswer (fs : List (Triangle .stored)) : Except Error Outcome :=
  if fs.isEmpty = true then .error (.notApplicable Operation.pruneTriangles.name)
  else if (prune fs).degenerate + (prune fs).duplicate = 0 then .ok ⟨[.nothingToDo]⟩
  else .ok ⟨[.removedTriangles (prune fs).degenerate (prune fs).duplicate]⟩

private theorem pruneAnswer_map_flip (fs : List (Triangle .stored)) :
    pruneAnswer (fs.map Triangle.flip) = pruneAnswer fs := by
  simp only [pruneAnswer, prune_map_flip, List.isEmpty_map]

private theorem answer_pruneTriangles
    (hSelected : w.document.selectedData? selection = some (shape, data))
    (hGet : w.document.get? data = some (.geometry g)) :
    ((Operation.pruneTriangles.perform selection 0).run w).1 = pruneAnswer g.triangles := by
  have hApplies : Operation.pruneTriangles.applies w.document selection =
      !g.triangles.isEmpty := Document.hasSelectedTriangles_eq hSelected hGet
  have hEdit : (Operation.pruneTriangles.edit selection 0).run w = _ :=
    Edit.run_pruneTriangles hSelected hGet
  rw [Operation.run_perform, hApplies, hEdit, pruneAnswer]
  by_cases hEmpty : g.triangles.isEmpty = true
  · rw [if_pos (by rw [hEmpty]; rfl), if_pos hEmpty]
  · rw [if_neg (by simpa using hEmpty), if_neg (by decide), if_neg hEmpty, if_neg hEmpty]
    by_cases hDropped : (prune g.triangles).degenerate + (prune g.triangles).duplicate = 0
    · rw [if_pos hDropped, if_pos hDropped]
    · rw [if_neg hDropped, if_neg hDropped]

/-- What flipping faces and pruning triangles do to a selected geometry, one after the other. -/
structure FlipsAndPrunes (w : Workspace) (selection : Selection) (data : BlockId)
    (g : GeometryData) : Prop where
  flipped : Operation.flipFaces.leaves selection w =
    w.put data (.geometry { g with triangles := g.triangles.map Triangle.flip })
  pruned : Operation.pruneTriangles.leaves selection w =
    w.put data (.geometry { g with triangles := (prune g.triangles).kept })
  both : Operation.pruneTriangles.leaves selection (Operation.flipFaces.leaves selection w) =
    w.put data (.geometry { g with triangles := (prune g.triangles).kept.map Triangle.flip })
  /-- Pruning tells the same of flipped triangles. -/
  answer : ((Operation.pruneTriangles.perform selection 0).run
      (Operation.flipFaces.leaves selection w)).1 =
    ((Operation.pruneTriangles.perform selection 0).run w).1
  /-- Pruned triangles can still be flipped if any are left. -/
  applies : Operation.flipFaces.applies (Operation.pruneTriangles.leaves selection w).document
    selection = !(prune g.triangles).kept.isEmpty

private theorem flipsAndPrunes
    (hSelected : w.document.selectedData? selection = some (shape, data))
    (hGet : w.document.get? data = some (.geometry g)) : FlipsAndPrunes w selection data g := by
  have hFlip := (editsFaces_flip selection).selected hSelected hGet
  have hPrune := (editsFaces_prune selection).selected hSelected hGet
  have hBoth := ((editsFaces_flip selection).comp (editsFaces_prune selection)).selected
    hSelected hGet
  have hStill := fun fs => (selectedData?_put hGet fs).trans hSelected
  refine { flipped := hFlip, pruned := hPrune, both := ?_, answer := ?_, applies := ?_ }
  · rw [Function.comp_apply, Function.comp_apply, prune_map_flip] at hBoth
    exact hBoth
  · rw [hFlip, answer_pruneTriangles (hStill _) (get?_put hGet _),
      answer_pruneTriangles hSelected hGet]
    exact pruneAnswer_map_flip g.triangles
  · rw [hPrune]
    exact Document.hasSelectedTriangles_eq (hStill _) (get?_put hGet _)

end

/-- **Flipping and pruning can be exchanged**, in lists over any index type, where as many triangles
of either sort are dropped, and on workspaces for any selection. Flipping twice changes nothing. An
operation that is not for the selection, as flipping is if no triangle is left, leaves all as it
was. -/
theorem flip_prune_commute :
    (∀ {t : IndexType} (fs : List (Triangle t)),
      prune (fs.map Triangle.flip) =
        { prune fs with kept := (prune fs).kept.map Triangle.flip }) ∧
    ∀ (selection : Selection) (w : Workspace),
      Operation.pruneTriangles.leaves selection (Operation.flipFaces.leaves selection w) =
        Operation.flipFaces.leaves selection (Operation.pruneTriangles.leaves selection w) ∧
      Operation.flipFaces.leaves selection (Operation.flipFaces.leaves selection w) = w ∧
      ∀ {shape data g}, w.document.selectedData? selection = some (shape, data) →
        w.document.geometry data = .ok g → FlipsAndPrunes w selection data g := by
  refine ⟨prune_map_flip, fun selection w => ⟨?_, ?_, fun hSelected hGeometry =>
    flipsAndPrunes hSelected ((Document.geometry_eq_ok_iff _).1 hGeometry)⟩⟩
  · have hFlip := editsFaces_flip selection
    have hPrune := editsFaces_prune selection
    have hFunctions : ((prune · |>.kept) ∘ (·.map Triangle.flip) :
        List (Triangle .stored) → List (Triangle .stored)) =
          (·.map Triangle.flip) ∘ (prune · |>.kept) := by
      funext fs
      simp only [Function.comp_apply, prune_map_flip]
    have hFirst := hFlip.comp hPrune
    rw [hFunctions] at hFirst
    exact congrFun (hFirst.eq (hPrune.comp hFlip)) w
  · have hTwice := (editsFaces_flip selection).comp (editsFaces_flip selection)
    have hFunctions : ((·.map Triangle.flip) ∘ (·.map Triangle.flip) :
        List (Triangle .stored) → List (Triangle .stored)) = fun fs => fs := by
      funext fs
      simp [Function.comp_def]
    rw [hFunctions] at hTwice
    exact congrFun (hTwice.eq (.refl selection)) w

/-- Of the triangles of `turnedTriangle` a face and its back are kept, and change places when they
are flipped. -/
theorem flip_prune_commute_turnedTriangle :
    let w : Workspace := { document := { slots := #[some (.geometry turnedTriangle)] } }
    w.document.selectedData? (some ⟨0⟩) = some (none, ⟨0⟩) ∧
      w.document.geometry ⟨0⟩ = .ok turnedTriangle ∧
      FlipsAndPrunes w (some ⟨0⟩) ⟨0⟩ turnedTriangle ∧
      (Operation.flipFaces.leaves (some ⟨0⟩) (Operation.pruneTriangles.leaves (some ⟨0⟩) w)
        ).document.triangles ⟨0⟩ = .ok [⟨.ofPosition 0, .ofPosition 2, .ofPosition 1⟩,
          ⟨.ofPosition 0, .ofPosition 1, .ofPosition 2⟩] := by
  intro w
  have hSelected : w.document.selectedData? (some ⟨0⟩) = some (none, ⟨0⟩) := rfl
  have hGeometry : w.document.geometry ⟨0⟩ = .ok turnedTriangle := rfl
  obtain ⟨hSwap, -, hEdits⟩ := flip_prune_commute.2 (some ⟨0⟩) w
  have hBoth := hEdits hSelected hGeometry
  refine ⟨hSelected, hGeometry, hBoth, ?_⟩
  rw [← hSwap, hBoth.both]
  decide +kernel

end IndexedMesh
