import IndexedMesh.Proofs.Handles

/-!
# Updating all bounds at once

Updating the bounds of a packed shape looks at its vertices and writes its bounds, which are no
vertices. So one update does not see what another one wrote, whether to another shape or to the
same, and what some updates in a row make of a slot depends on whether the slot is among theirs and
on nothing else. It does not matter in which order they come, or how often.

The update of all packed shapes is such a row, with one difference: a shape without vertices is
nothing to do for an update of its own and no more than passed over in a row.

## Main results

* `Document.updated` — a document with the bounds of one block updated.
* `Document.slots_updatedEach`, `Document.updatedEach_congr` — what updates in a row leave.
* `Edit.run_updateEach`, `Operation.run_each_updateBounds` — a row of updates, at once and each for
  itself.
* `AgreesWithEach` — what an update of all bounds owes to the updates of each.
* `updateAllBounds_agrees` — **it agrees with them**, in any order.
-/

namespace IndexedMesh

/-! ## Updated blocks -/

/-- The bounds of the vertices of a packed shape, if there are any. -/
def PackedShape.bounds? (s : PackedShape) : Option (Sphere Float32) :=
  Sphere.ofPoints? .centroid (s.vertexData.toList.map (·.vertex))

/-- A packed shape with the bounds of its vertices. -/
def PackedShape.updated (s : PackedShape) : PackedShape :=
  match s.bounds? with
  | some bounds => { s with center := bounds.center, radius := bounds.radius }
  | none => s

/-- A block with its bounds updated, if it is a packed shape. -/
def Block.updated : Block → Block
  | .packedShape s => .packedShape s.updated
  | other => other

theorem PackedShape.isSome_bounds? (s : PackedShape) :
    s.bounds?.isSome = !s.vertexData.isEmpty := by
  rw [bounds?, Sphere.ofPoints?, Option.isSome_map, centroid?, List.isEmpty_map,
    Array.isEmpty_toList]
  cases s.vertexData.isEmpty <;> rfl

theorem PackedShape.bounds?_eq_none_iff (s : PackedShape) :
    s.bounds? = none ↔ s.vertexData.isEmpty = true := by
  rw [← Option.not_isSome_iff_eq_none, isSome_bounds?, Bool.not_eq_true, Bool.not_eq_false']

theorem PackedShape.updated_of_none {s : PackedShape} (h : s.bounds? = none) : s.updated = s := by
  rw [updated, h]

theorem PackedShape.updated_of_some {s : PackedShape} {bounds : Sphere Float32}
    (h : s.bounds? = some bounds) :
    s.updated = { s with center := bounds.center, radius := bounds.radius } := by
  rw [updated, h]

/-- The vertices stay, and with them the bounds that they have. -/
@[simp] theorem PackedShape.bounds?_updated (s : PackedShape) : s.updated.bounds? = s.bounds? := by
  have hVertices : s.updated.vertexData = s.vertexData := by
    unfold updated
    cases s.bounds? <;> rfl
  rw [bounds?, bounds?, hVertices]

@[simp] theorem PackedShape.updated_updated (s : PackedShape) : s.updated.updated = s.updated := by
  cases h : s.bounds? with
  | none => rw [updated_of_none h, updated_of_none h]
  | some bounds =>
      have hAgain := s.bounds?_updated.trans h
      rw [updated_of_some hAgain, updated_of_some h]

@[simp] theorem Block.updated_updated (b : Block) : b.updated.updated = b.updated := by
  cases b <;> simp [updated]

@[simp] theorem Block.kind_updated (b : Block) : b.updated.kind = b.kind := by
  cases b <;> rfl

namespace Document

/-! ## Updates in a row -/

variable {d : Document} {id : BlockId}

/-- The document with the bounds of one block updated, if it is a packed shape. -/
def updated (d : Document) (id : BlockId) : Document :=
  { d with slots := d.slots.modify (slot id) (Option.map Block.updated) }

theorem slots_updated (d : Document) (id : BlockId) (n : Nat) :
    (d.updated id).slots[n]? =
      if slot id = n then (d.slots[n]?).map (Option.map Block.updated) else d.slots[n]? := by
  rw [updated, Array.getElem?_modify]

/-- **What some updates in a row make of a slot** depends on whether it is among theirs. -/
theorem slots_updatedEach (ids : List BlockId) (d : Document) (n : Nat) :
    (ids.foldl updated d).slots[n]? =
      if ∃ id ∈ ids, slot id = n then (d.slots[n]?).map (Option.map Block.updated)
      else d.slots[n]? := by
  induction ids generalizing d with
  | nil => simp
  | cons id others ih =>
      rw [List.foldl_cons, ih, slots_updated]
      by_cases hId : slot id = n <;> by_cases hOthers : ∃ other ∈ others, slot other = n <;>
        simp [hId, hOthers, Function.comp_def]

theorem header_updatedEach (ids : List BlockId) (d : Document) :
    (ids.foldl updated d).header = d.header := by
  induction ids generalizing d with
  | nil => rfl
  | cons id others ih => exact ih (d.updated id)

/-- **Updates in a row depend on which blocks are among them and on nothing else.** -/
theorem updatedEach_congr {ids others : List BlockId} (h : ∀ id, id ∈ ids ↔ id ∈ others) :
    ids.foldl updated d = others.foldl updated d := by
  have hHeader : (ids.foldl updated d).header = (others.foldl updated d).header := by
    rw [header_updatedEach, header_updatedEach]
  have hSlots : (ids.foldl updated d).slots = (others.foldl updated d).slots := by
    apply Array.ext_getElem?
    intro n
    simp only [slots_updatedEach, h]
  calc ids.foldl updated d
      = ⟨(ids.foldl updated d).header, (ids.foldl updated d).slots⟩ := rfl
    _ = others.foldl updated d := by rw [hHeader, hSlots]

/-- Updating a block writes it anew. -/
theorem replace_updated {b : Block} (hGet : d.get? id = some b) :
    d.replace id b.updated = d.updated id := by
  have hSlot : d.slots[slot id]? = some (some b) := Option.join_eq_some_iff.1 hGet
  have hSlots : d.slots.setIfInBounds (slot id) (some b.updated) =
      d.slots.modify (slot id) (Option.map Block.updated) := by
    apply Array.ext_getElem?
    intro n
    rw [Array.getElem?_modify, Array.getElem?_setIfInBounds]
    by_cases hn : slot id = n
    · subst hn
      rw [if_pos rfl, if_pos rfl, if_pos (slot_lt_of_get? hGet), hSlot]
      rfl
    · rw [if_neg hn, if_neg hn]
  rw [replace, updated, hSlots]

theorem get?_updated (d : Document) (id other : BlockId) :
    (d.updated id).get? other =
      if slot id = slot other then (d.get? other).map Block.updated else d.get? other := by
  rw [get?, slots_updated]
  by_cases h : slot id = slot other
  · rw [if_pos h, if_pos h, get?]
    cases d.slots[slot other]? <;> simp
  · rw [if_neg h, if_neg h, get?]

@[simp] theorem kind?_updated (d : Document) (id other : BlockId) :
    (d.updated id).kind? other = d.kind? other := by
  rw [kind?, kind?, get?_updated]
  split
  · rw [Option.map_map]
    congr 1
    funext b
    exact b.kind_updated
  · rfl

/-! ## What is told of an update -/

/-- What is told of an update of the bounds of a packed shape. -/
def boundsNotice? (d : Document) (id : BlockId) : Option Notice :=
  match d.get? id with
  | some (.packedShape s) => s.bounds?.map (.boundsUpdated id)
  | _ => none

theorem eq_boundsUpdated {notice : Notice} (h : d.boundsNotice? id = some notice) :
    ∃ bounds, notice = .boundsUpdated id bounds := by
  rw [boundsNotice?] at h
  split at h
  · obtain ⟨bounds, -, rfl⟩ := Option.map_eq_some_iff.1 h
    exact ⟨bounds, rfl⟩
  · cases h

/-- No update changes what is told of another one. -/
@[simp] theorem boundsNotice?_updated (d : Document) (id other : BlockId) :
    (d.updated id).boundsNotice? other = d.boundsNotice? other := by
  rw [boundsNotice?, boundsNotice?, get?_updated]
  split_ifs
  · cases d.get? other with
    | none => rfl
    | some b => cases b <;> simp [Block.updated]
  · rfl

/-- **No update changes what is told of the others.** -/
theorem boundsNotice?_updatedEach (ids : List BlockId) (d : Document) (other : BlockId) :
    (ids.foldl updated d).boundsNotice? other = d.boundsNotice? other := by
  induction ids generalizing d with
  | nil => rfl
  | cons id others ih => rw [List.foldl_cons, ih, boundsNotice?_updated]

end Document

/-! ## Runs -/

variable {w : Workspace}

/-- Updates in a row on a workspace. -/
def Workspace.updatedEach (w : Workspace) (ids : List BlockId) : Workspace :=
  { w with document := ids.foldl Document.updated w.document }

/-- One update, of a packed shape. Without vertices there is nothing to write, which is what the
update of such a shape leaves. -/
private theorem Edit.run_updatePacked_updated {id : BlockId}
    (hKind : w.document.kind? id = some .packedShape) :
    (Edit.updatePacked id).run w =
      (match w.document.boundsNotice? id with
        | some notice => .ok notice
        | none => .error .emptyInput, w.updatedEach [id]) := by
  obtain ⟨b, hGet, hb⟩ := Document.kind?_eq_some_iff.1 hKind
  cases b <;> cases hb
  next s =>
    have hNotice : w.document.boundsNotice? id = s.bounds?.map (.boundsUpdated id) := by
      rw [Document.boundsNotice?, hGet]
    have hUpdated : w.document.replace id (.packedShape s.updated) = w.document.updated id :=
      Document.replace_updated hGet
    rw [hNotice, Workspace.updatedEach, List.foldl_cons, List.foldl_nil, ← hUpdated,
      Edit.run_updatePacked hGet, ← PackedShape.bounds?]
    cases hBounds : s.bounds? with
    | none =>
        rw [PackedShape.updated_of_none hBounds, Document.replace_self hGet]
        rfl
    | some bounds =>
        rw [PackedShape.updated_of_some hBounds]
        rfl

private theorem kind?_updatedEach (w : Workspace) (id other : BlockId) :
    (w.updatedEach [id]).document.kind? other = w.document.kind? other :=
  w.document.kind?_updated id other

private theorem boundsNotice?_updatedEach_singleton (w : Workspace) (id : BlockId) :
    (w.updatedEach [id]).document.boundsNotice? = w.document.boundsNotice? :=
  funext (w.document.boundsNotice?_updatedEach [id])

/-- **A row of updates** tells of the shapes that have vertices. -/
theorem Edit.run_updateEach (ids : List BlockId) :
    ∀ {w : Workspace}, (∀ id ∈ ids, w.document.kind? id = some .packedShape) →
      (Edit.updateEach ids).run w =
        (.ok (ids.filterMap w.document.boundsNotice?), w.updatedEach ids) := by
  induction ids with
  | nil => exact fun _ => rfl
  | cons id others ih =>
      intro w hPacked
      have hRest : (Edit.updateEach others).run (w.updatedEach [id]) =
          (.ok (others.filterMap w.document.boundsNotice?), w.updatedEach (id :: others)) := by
        rw [ih fun other hOther => (kind?_updatedEach w id other).trans
          (hPacked other (List.mem_cons_of_mem _ hOther)), boundsNotice?_updatedEach_singleton]
        rfl
      rw [Edit.updateEach, run_bind, run_unlessEmpty,
        run_updatePacked_updated (hPacked id List.mem_cons_self)]
      cases hNotice : w.document.boundsNotice? id with
      | none =>
          rw [List.filterMap_cons_none hNotice]
          exact run_bind_of_ok hRest _
      | some notice =>
          rw [List.filterMap_cons_some hNotice]
          exact run_bind_of_ok hRest _

/-- What an update of the bounds of one packed shape answers. -/
def Document.boundsOutcome (d : Document) (id : BlockId) : Outcome where
  notices := match d.boundsNotice? id with
    | some notice => [notice]
    | none => [.nothingToDo]

namespace Operation

/-- An update of its own, of a packed shape. -/
theorem run_updateBounds {id : BlockId} (hKind : w.document.kind? id = some .packedShape) :
    (updateBounds.perform (some id) 0).run w =
      (.ok (w.document.boundsOutcome id), w.updatedEach [id]) := by
  obtain ⟨b, hGet, hb⟩ := Document.kind?_eq_some_iff.1 hKind
  have hSelected : w.document.selected? (some id) [.packedShape] = some id :=
    Document.selected?_of_get? hGet (by simp [hb])
  have hApplies : updateBounds.applies w.document (some id) = true := by
    rw [applies, hSelected]
    rfl
  have hEdit : (updateBounds.edit (some id) 0).run w =
      ((Edit.updatePacked id >>= fun notice => pure [notice]).run w) :=
    Edit.run_bind_of_ok (Edit.run_selected hSelected) _
  rw [run_perform, if_neg (by simp [hApplies]), if_neg (by decide), hEdit, Edit.run_bind,
    Edit.run_updatePacked_updated hKind, Document.boundsOutcome]
  cases w.document.boundsNotice? id <;> rfl

/-- **A row of updates, each for itself.** -/
theorem run_each_updateBounds (order : List BlockId) :
    ∀ {w : Workspace}, (∀ id ∈ order, w.document.kind? id = some .packedShape) →
      (order.mapM fun id => updateBounds.perform (some id) 0).run w =
        (.ok (order.map w.document.boundsOutcome), w.updatedEach order) := by
  induction order with
  | nil => exact fun _ => rfl
  | cons id others ih =>
      intro w hPacked
      have hOutcomes : (w.updatedEach [id]).document.boundsOutcome =
          w.document.boundsOutcome := by
        funext other
        rw [Document.boundsOutcome, Document.boundsOutcome, boundsNotice?_updatedEach_singleton]
      have hRest := ih (w := w.updatedEach [id]) fun other hOther =>
        (kind?_updatedEach w id other).trans (hPacked other (List.mem_cons_of_mem _ hOther))
      rw [List.mapM_cons, Edit.run_bind_of_ok (run_updateBounds (hPacked id List.mem_cons_self)),
        Edit.run_bind_of_ok hRest, hOutcomes]
      rfl

end Operation

/-! ## All packed shapes -/

namespace Document

/-- The packed shapes, in the order of their slots. -/
def packedShapes (d : Document) : List BlockId :=
  d.ids.filter fun id => d.kind? id = some .packedShape

/-- Whether a block is a packed shape that has vertices. -/
def hasPackedVertices (d : Document) (id : BlockId) : Bool :=
  match d.packedShape id with
  | .ok s => !s.vertexData.isEmpty
  | .error _ => false

variable {d : Document} {id : BlockId}

theorem packedShape_eq_ok_iff (s : PackedShape) :
    d.packedShape id = .ok s ↔ d.get? id = some (.packedShape s) := by
  rw [packedShape, typed_eq_ok_iff]
  cases d.get? id with
  | none => simp
  | some b => cases b <;> simp [Block.asPackedShape?]

theorem kind?_of_packedShape {s : PackedShape} (h : d.packedShape id = .ok s) :
    d.kind? id = some .packedShape :=
  kind?_eq_some_iff.2 ⟨_, (packedShape_eq_ok_iff s).1 h, rfl⟩

theorem mem_packedShapes_iff : id ∈ d.packedShapes ↔ d.kind? id = some .packedShape := by
  rw [packedShapes, List.mem_filter, decide_eq_true_eq, and_iff_right_iff_imp]
  intro hKind
  exact mem_ids_of_contains (exists_kind_iff.2 ⟨_, hKind⟩)

theorem packedShapes_ascending (hSlots : d.slots.size ≤ 2 ^ 32) :
    d.packedShapes.Pairwise (·.number < ·.number) :=
  (ids_ascending hSlots).filter _

theorem boundsNotice?_of_packedShape {s : PackedShape} (h : d.packedShape id = .ok s) :
    d.boundsNotice? id = s.bounds?.map (.boundsUpdated id) := by
  rw [boundsNotice?, (packedShape_eq_ok_iff s).1 h]

/-- Something is told of the packed shapes that have vertices. -/
theorem isSome_boundsNotice? (d : Document) (id : BlockId) :
    (d.boundsNotice? id).isSome = d.hasPackedVertices id := by
  unfold hasPackedVertices
  cases hShape : d.packedShape id with
  | ok s => rw [boundsNotice?_of_packedShape hShape, Option.isSome_map, s.isSome_bounds?]
  | error e =>
      rw [boundsNotice?]
      split
      · next s hGet =>
        rw [(packedShape_eq_ok_iff s).2 hGet] at hShape
        cases hShape
      · rfl

/-- What a row of updates tells is what the updates of the shapes with vertices tell. -/
theorem filterMap_boundsNotice? (d : Document) (ids : List BlockId) :
    ids.filterMap d.boundsNotice? =
      (ids.filter d.hasPackedVertices).flatMap fun id => (d.boundsOutcome id).notices := by
  induction ids with
  | nil => rfl
  | cons id others ih =>
      have hSome := d.isSome_boundsNotice? id
      cases hNotice : d.boundsNotice? id with
      | none =>
          rw [hNotice] at hSome
          rw [List.filterMap_cons_none hNotice, List.filter_cons_of_neg (by simp [← hSome]), ih]
      | some notice =>
          rw [hNotice] at hSome
          rw [List.filterMap_cons_some hNotice, List.filter_cons_of_pos hSome.symm,
            List.flatMap_cons, ← ih, boundsOutcome, hNotice]
          rfl

end Document

/-- What an update of all bounds answers. -/
def Document.allBoundsOutcome (d : Document) : Outcome where
  notices := match d.packedShapes.filterMap d.boundsNotice? with
    | [] => [.nothingToDo]
    | notices => notices

theorem Operation.run_updateAllBounds {selection : Selection}
    (hApplies : updateAllBounds.applies w.document selection = true) :
    (updateAllBounds.perform selection 0).run w =
      (.ok w.document.allBoundsOutcome, w.updatedEach w.document.packedShapes) := by
  have hEach := Edit.run_updateEach w.document.packedShapes
    fun _ hId => Document.mem_packedShapes_iff.1 hId
  have hEdit : (updateAllBounds.edit selection 0).run w = _ :=
    (Edit.run_bind_of_ok (Edit.run_view _ _) _).trans (Edit.run_bind_of_ok hEach _)
  rw [run_perform, if_neg (by simp [hApplies]), if_neg (by decide), hEdit,
    Document.allBoundsOutcome]
  cases w.document.packedShapes.filterMap w.document.boundsNotice? <;> rfl

/-- There is nothing to do if nothing is told of any of them. -/
theorem Document.isNoop_allBoundsOutcome (d : Document) :
    d.allBoundsOutcome.isNoop = true ↔ d.packedShapes.filterMap d.boundsNotice? = [] := by
  rw [allBoundsOutcome]
  cases hNotices : d.packedShapes.filterMap d.boundsNotice? with
  | nil => exact ⟨fun _ => rfl, fun _ => rfl⟩
  | cons notice others =>
      obtain ⟨id, -, hNotice⟩ : ∃ id ∈ d.packedShapes, d.boundsNotice? id = some notice :=
        List.mem_filterMap.1 (hNotices ▸ List.mem_cons_self)
      obtain ⟨bounds, rfl⟩ := eq_boundsUpdated hNotice
      simp [Outcome.isNoop]

/-- What an update of all bounds owes to the updates of each packed shape, when it has given an
answer and left a workspace. -/
structure AgreesWithEach (w : Workspace) (outcome : Outcome) (w' : Workspace)
    (alone : BlockId → Outcome) : Prop where
  /-- What an update of its own answers for a packed shape. -/
  single : ∀ id s, w.document.packedShape id = .ok s →
    ((Operation.updateBounds.perform (some id) 0).run w).1 = .ok (alone id) ∧
      if s.vertexData.isEmpty = true then alone id = ⟨[.nothingToDo]⟩
      else ∃ bounds, alone id = ⟨[.boundsUpdated id bounds]⟩
  /-- The packed shapes one by one, in any order. -/
  anyOrder : ∀ order : List BlockId,
    (∀ id, id ∈ order ↔ w.document.kind? id = some .packedShape) →
      (order.mapM fun id => Operation.updateBounds.perform (some id) 0).run w =
        (.ok (order.map alone), w')
  notices : outcome.notices = if outcome.isNoop = true then [.nothingToDo] else
    (w.document.packedShapes.filter w.document.hasPackedVertices).flatMap
      fun id => (alone id).notices
  /-- The order of the notices is that of the handles, if there is a handle for each slot. -/
  ascending : w.document.slots.size ≤ 2 ^ 32 →
    w.document.packedShapes.Pairwise (·.number < ·.number)
  isNoop_iff : outcome.isNoop = true ↔
    ∀ id s, w.document.packedShape id = .ok s → s.vertexData.isEmpty = true

namespace AgreesWithEach

private theorem single_of (w : Workspace) {id : BlockId} {s : PackedShape}
    (hShape : w.document.packedShape id = .ok s) :
    ((Operation.updateBounds.perform (some id) 0).run w).1 = .ok (w.document.boundsOutcome id) ∧
      if s.vertexData.isEmpty = true then w.document.boundsOutcome id = ⟨[.nothingToDo]⟩
      else ∃ bounds, w.document.boundsOutcome id = ⟨[.boundsUpdated id bounds]⟩ := by
  refine ⟨by rw [Operation.run_updateBounds (Document.kind?_of_packedShape hShape)], ?_⟩
  rw [Document.boundsOutcome, Document.boundsNotice?_of_packedShape hShape]
  cases hBounds : s.bounds? with
  | none =>
      rw [if_pos (s.bounds?_eq_none_iff.1 hBounds)]
      rfl
  | some bounds =>
      have hVertices : ¬ s.vertexData.isEmpty = true := fun hEmpty => by
        rw [s.bounds?_eq_none_iff.2 hEmpty] at hBounds
        cases hBounds
      rw [if_neg hVertices]
      exact ⟨bounds, rfl⟩

private theorem isNoop_iff_of (d : Document) :
    d.allBoundsOutcome.isNoop = true ↔
      ∀ id s, d.packedShape id = .ok s → s.vertexData.isEmpty = true := by
  rw [d.isNoop_allBoundsOutcome, List.filterMap_eq_nil_iff]
  constructor
  · intro hNone id s hShape
    have hId := Document.mem_packedShapes_iff.2 (Document.kind?_of_packedShape hShape)
    have hNotice := hNone id hId
    rwa [Document.boundsNotice?_of_packedShape hShape, Option.map_eq_none_iff,
      s.bounds?_eq_none_iff] at hNotice
  · intro hEmpty id hId
    obtain ⟨b, hGet, hb⟩ := Document.kind?_eq_some_iff.1 (Document.mem_packedShapes_iff.1 hId)
    cases b <;> cases hb
    next s =>
      have hShape := (Document.packedShape_eq_ok_iff s).2 hGet
      rw [Document.boundsNotice?_of_packedShape hShape, Option.map_eq_none_iff,
        s.bounds?_eq_none_iff]
      exact hEmpty id s hShape

/-- The update of all bounds leaves what the updates of the packed shapes leave in the order of
their slots, and in any other order they leave the same. -/
theorem of_updateAllBounds (w : Workspace) :
    AgreesWithEach w w.document.allBoundsOutcome (w.updatedEach w.document.packedShapes)
      w.document.boundsOutcome where
  single _ _ hShape := single_of w hShape
  anyOrder order hOrder := by
    have hSame : order.foldl Document.updated w.document =
        w.document.packedShapes.foldl Document.updated w.document :=
      Document.updatedEach_congr fun id => (hOrder id).trans Document.mem_packedShapes_iff.symm
    rw [Operation.run_each_updateBounds order fun id hId => (hOrder id).1 hId,
      Workspace.updatedEach, Workspace.updatedEach, hSame]
  notices := by
    rw [← Document.filterMap_boundsNotice?]
    split
    next hNoop =>
      rw [Document.isNoop_allBoundsOutcome] at hNoop
      rw [Document.allBoundsOutcome, hNoop]
    next hNoop =>
      rw [Document.isNoop_allBoundsOutcome] at hNoop
      rw [Document.allBoundsOutcome]
      split
      next hNone => exact absurd hNone hNoop
      · rfl
  ascending := Document.packedShapes_ascending
  isNoop_iff := isNoop_iff_of w.document

end AgreesWithEach

/-- **The update of all bounds agrees with the update of each packed shape.** Where it applies it
is carried out, and leaves what the packed shapes updated one by one leave, in any order. It tells
what these tell of the shapes with vertices, in the order of the handles, and has nothing to do if
there are none. -/
theorem updateAllBounds_agrees {w : Workspace} {selection : Selection}
    (hApplies : Operation.updateAllBounds.applies w.document selection = true) :
    ∃ outcome w' alone,
      (Operation.updateAllBounds.perform selection 0).run w = (.ok outcome, w') ∧
        AgreesWithEach w outcome w' alone :=
  ⟨_, _, _, Operation.run_updateAllBounds hApplies, .of_updateAllBounds w⟩

/-- Of two packed shapes only the one behind has vertices. -/
def twoPackedShapes : Workspace where
  document := {
    header := { userVersion2 := 130 }
    slots := #[
      none,
      some (.packedShape { radius := 3 }),
      some (.geometry {}),
      some (.packedShape {
        vertexData := #[⟨⟨0, 0, 0⟩, ⟨0, 0⟩, .zero⟩, ⟨⟨2, 0, 0⟩, ⟨0, 0⟩, .zero⟩] })] }

/-- The shape without vertices is passed over, and the other one may be the first to be updated. -/
theorem updateAllBounds_agrees_twoPackedShapes :
    Operation.updateAllBounds.applies twoPackedShapes.document none = true ∧ ∃ bounds w',
      (Operation.updateAllBounds.perform none 0).run twoPackedShapes =
        (.ok ⟨[.boundsUpdated ⟨3⟩ bounds]⟩, w') ∧
      ([⟨3⟩, ⟨1⟩].mapM fun id => Operation.updateBounds.perform (some id) 0).run twoPackedShapes =
        (.ok [⟨[.boundsUpdated ⟨3⟩ bounds]⟩, ⟨[.nothingToDo]⟩], w') := by
  have hApplies : Operation.updateAllBounds.applies twoPackedShapes.document none = true := rfl
  obtain ⟨outcome, w', alone, hRun, hAgrees⟩ := updateAllBounds_agrees hApplies
  have hShapes : twoPackedShapes.document.packedShapes = [⟨1⟩, ⟨3⟩] := by decide
  obtain ⟨-, hEmpty⟩ := hAgrees.single ⟨1⟩ _ rfl
  obtain ⟨-, bounds, hBounds⟩ := hAgrees.single ⟨3⟩ _ rfl
  have hNoop : ¬ outcome.isNoop = true := fun hNoop =>
    absurd (hAgrees.isNoop_iff.1 hNoop ⟨3⟩ _ rfl) (by decide)
  have hWith : [⟨1⟩, ⟨3⟩].filter twoPackedShapes.document.hasPackedVertices = [⟨3⟩] := by decide
  have hNotices := hAgrees.notices
  rw [if_neg hNoop, hShapes, hWith, List.flatMap_singleton, hBounds] at hNotices
  have hOrder := hAgrees.anyOrder [⟨3⟩, ⟨1⟩] fun id => by
    rw [← Document.mem_packedShapes_iff, hShapes]
    exact (List.Perm.swap _ _ _).mem_iff
  rw [List.map_cons, List.map_cons, List.map_nil, hBounds, hEmpty] at hOrder
  obtain ⟨notices⟩ := outcome
  cases hNotices
  exact ⟨hApplies, bounds, w', hRun, hOrder⟩

end IndexedMesh
