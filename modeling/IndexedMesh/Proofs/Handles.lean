import IndexedMesh.Proofs.Consistency
import IndexedMesh.Proofs.Footprint
import IndexedMesh.Proofs.StalePartition

/-!
# Handles are stable

A handle is the number of a slot. Slots are only ever added at the end, and a slot that has become
empty is not used again. So a handle stands for one block as long as that is there, and for nothing
ever after, whatever is done to the document in between.

What a single action preserves is put down in `Document.Advances`, which can be chained; a run is
then a chain of it. That operations do no harm comes from their footprints: a block that they touch
is written as a block of the same kind, or it is a skin partition that is deleted.

A handle has 32 bits, so no more than `2 ^ 32` blocks can be pushed. The document that a run starts
from comes from pushes as well, as many as it has slots, and these count along.

## Main results

* `Document.mem_ids_iff`, `Document.ids_ascending`, `Document.size_eq` — the list of handles.
* `Action`, `runActions` — pushes, removals and casts in any order.
* `Document.Advances.of_action` — what one action preserves.
* `exists_runActions_eq` — every document comes from as many pushes as it has slots.
* `handlesStable_run` — **handles are stable over whole runs.**
-/

namespace IndexedMesh

/-! ## The list of handles -/

namespace Document

variable {d : Document}

/-- The listed handles are the ones that have blocks. -/
theorem mem_ids_iff (hSlots : d.slots.size ≤ 2 ^ 32) (id : BlockId) :
    id ∈ d.ids ↔ d.contains id = true := by
  refine ⟨fun hId => ?_, mem_ids_of_contains⟩
  obtain ⟨⟨found, n⟩, hMem, hId⟩ := List.mem_filterMap.1 hId
  rw [List.mem_zipIdx_iff_getElem?, Array.getElem?_toList] at hMem
  obtain ⟨b, rfl, rfl⟩ := Option.map_eq_some_iff.1 hId
  have hLess : n < 2 ^ 32 := by
    obtain ⟨hLess, -⟩ := Array.getElem?_eq_some_iff.1 hMem
    omega
  exact contains_iff.2 ⟨b, by rwa [slot, UInt32.toNat_ofNat_of_lt' hLess]⟩

/-- The listed handles ascend. -/
theorem ids_ascending (hSlots : d.slots.size ≤ 2 ^ 32) :
    d.ids.Pairwise (·.number < ·.number) := by
  have hNumbers : d.slots.toList.zipIdx.Pairwise fun a b => a.2 < b.2 ∧ b.2 < 2 ^ 32 := by
    rw [List.pairwise_iff_getElem]
    intro i j hi hj hLess
    simp only [List.length_zipIdx, Array.length_toList] at hj
    simp only [List.getElem_zipIdx]
    omega
  refine hNumbers.filterMap _ ?_
  rintro ⟨a, m⟩ ⟨b, n⟩ ⟨hLess, hBound⟩ id hId other hOther
  obtain ⟨_, _, rfl⟩ := Option.map_eq_some_iff.1 hId
  obtain ⟨_, _, rfl⟩ := Option.map_eq_some_iff.1 hOther
  rw [UInt32.lt_iff_toNat_lt, UInt32.toNat_ofNat_of_lt' (hLess.trans hBound),
    UInt32.toNat_ofNat_of_lt' hBound]
  exact hLess

/-- The number of blocks is the number of handles. -/
theorem size_eq (d : Document) : d.size = d.ids.length := by
  have hFirst : d.slots.toList.zipIdx.map Prod.fst = d.slots.toList := by simp
  rw [size, ids, List.length_filterMap_eq_countP, ← Array.countP_toList]
  conv_lhs => rw [← hFirst, List.countP_map]
  refine List.countP_congr fun entry _ => ?_
  simp

/-! ## What an action preserves -/

/-- Slots are only added, and what is in an old slot afterwards was there before, in a block of the
same kind. -/
structure Advances (d d' : Document) : Prop where
  slots : d.slots.size ≤ d'.slots.size
  kinds : ∀ id kind, slot id < d.slots.size → d'.kind? id = some kind → d.kind? id = some kind

theorem Advances.refl (d : Document) : d.Advances d :=
  { slots := Nat.le_refl _
    kinds := fun _ _ _ h => h }

theorem Advances.trans {d₁ d₂ d₃ : Document} (h : d₁.Advances d₂) (h' : d₂.Advances d₃) :
    d₁.Advances d₃ :=
  { slots := h.slots.trans h'.slots
    kinds := fun id kind hSlot hKind =>
      h.kinds id kind hSlot (h'.kinds id kind (hSlot.trans_le h.slots) hKind) }

theorem exists_kind_iff {id : BlockId} :
    d.contains id = true ↔ ∃ kind, d.kind? id = some kind := by
  rw [contains, kind?, ← Option.isSome_iff_exists, Option.isSome_map]

theorem slot_lt_of_contains {id : BlockId} (h : d.contains id = true) :
    slot id < d.slots.size := by
  obtain ⟨b, hGet⟩ := Option.isSome_iff_exists.1 h
  exact slot_lt_of_get? hGet

variable {d' : Document} {id : BlockId}

/-- An old slot that is empty stays empty. -/
theorem Advances.empty (h : d.Advances d') (hSlot : slot id < d.slots.size)
    (hNone : d.contains id = false) : d'.contains id = false := by
  by_contra hSome
  obtain ⟨kind, hKind⟩ := exists_kind_iff.1 (Bool.not_eq_false _ ▸ hSome)
  rw [exists_kind_iff.2 ⟨kind, h.kinds id kind hSlot hKind⟩] at hNone
  cases hNone

/-- A block that is there before and after is of the same kind. -/
theorem Advances.kind_eq (h : d.Advances d') (hThere : d.contains id = true)
    (hStill : d'.contains id = true) : d'.kind? id = d.kind? id := by
  obtain ⟨kind, hKind⟩ := exists_kind_iff.1 hStill
  rw [hKind, h.kinds id kind (slot_lt_of_contains hThere) hKind]

end Document

/-! ## Actions -/

/-- What can be done to a document. -/
inductive Action
  | push (block : Block)
  | remove (id : BlockId)
  | cast (c : Cast)

namespace Action

/-- The document after an action. -/
def after (d : Document) : Action → Document
  | push block => (d.push block).1
  | remove id => d.remove id
  | cast c => c.after d

/-- Whether the action adds a block. -/
def isPush : Action → Bool
  | push _ => true
  | _ => false

end Action

/-- The document after some actions in a row. -/
def runActions (d : Document) (actions : List Action) : Document := actions.foldl Action.after d

/-- The document after the first actions of a run. -/
def stateAt (d : Document) (actions : List Action) (n : Nat) : Document :=
  runActions d (actions.take n)

/-- The number of blocks that are added in a run. -/
def pushCount (actions : List Action) : Nat := actions.countP Action.isPush

/-! ## One action -/

namespace Document

variable {d : Document} {id : BlockId}

theorem get?_push (d : Document) (block : Block) (id : BlockId) :
    (d.push block).1.get? id = if slot id = d.slots.size then some block else d.get? id := by
  rw [push, get?, Array.getElem?_push]
  split <;> rfl

/-- The slot of a handle that is returned, as long as there are numbers left. -/
theorem slot_push (hSlots : d.slots.size < 2 ^ 32) (block : Block) :
    slot (d.push block).2 = d.slots.size :=
  UInt32.toNat_ofNat_of_lt' hSlots

end Document

/-- What an operation may make of a block is of the same kind, and it deletes nothing but a skin
partition. -/
theorem Operation.Touches.kind {op : Operation} {d : Document} {selection : Selection}
    {id : BlockId} {old : Block} {new : Option Block}
    (h : op.Touches d selection id old new) :
    (∃ b, new = some b ∧ b.kind = old.kind) ∨ (new = none ∧ old.kind = .skinPartition) := by
  cases h with
  | partition => exact .inr ⟨rfl, rfl⟩
  | paste => exact .inl ⟨_, rfl, by cases old <;> rfl⟩
  | _ => exact .inl ⟨_, rfl, rfl⟩

/-- Within a footprint blocks keep their kinds, but for skin partitions that are deleted. -/
theorem Operation.Footprint.kind? {op : Operation} {selection : Selection} {w w' : Workspace}
    (h : op.Footprint selection w w') (id : BlockId) :
    w'.document.kind? id = w.document.kind? id ∨
      (w.document.kind? id = some .skinPartition ∧ w'.document.kind? id = none) := by
  rcases h.slots (Document.slot id) with hSame | ⟨id', old, new, hSlot, hGet, hTouches, hNow⟩
  · left
    rw [Document.kind?, Document.kind?, Document.get?, Document.get?, hSame]
  · obtain rfl := Document.slot_injective hSlot
    rw [Document.kind?, Document.kind?, hGet, hNow]
    rcases hTouches.kind with ⟨b, rfl, hKind⟩ | ⟨rfl, hKind⟩
    · exact .inl (congrArg some hKind)
    · exact .inr ⟨congrArg some hKind, rfl⟩

namespace Cast

private theorem footprint_after (c : Cast) (d : Document) :
    ∃ w', w'.document = c.after d ∧
      c.op.Footprint c.selection { document := d, clipboard := c.clipboard } w' := by
  rcases Operation.run_perform_snd c.op c.selection c.mode
    { document := d, clipboard := c.clipboard } with hSame | hSame
  · exact ⟨_, by rw [after, hSame], .refl _ _ _⟩
  · exact ⟨_, by rw [after, hSame], Operation.footprint_edit _ _ _ _⟩

theorem size_slots_after (c : Cast) (d : Document) : (c.after d).slots.size = d.slots.size := by
  obtain ⟨w', hAfter, hFootprint⟩ := footprint_after c d
  rw [← hAfter, hFootprint.slotCount]

/-- **A cast keeps the kinds of all blocks, but for skin partitions that it removes.** -/
theorem kind?_after (c : Cast) (d : Document) (id : BlockId) :
    (c.after d).kind? id = d.kind? id ∨
      (d.kind? id = some .skinPartition ∧ (c.after d).kind? id = none) := by
  obtain ⟨w', hAfter, hFootprint⟩ := footprint_after c d
  rw [← hAfter]
  exact hFootprint.kind? id

end Cast

/-- **Every action advances the document.** -/
theorem Document.Advances.of_action (d : Document) (action : Action) :
    d.Advances (action.after d) := by
  cases action with
  | push block =>
      refine { slots := by simp [Action.after, push], kinds := fun id kind hSlot hKind => ?_ }
      rwa [Action.after, Document.kind?, get?_push, if_neg (Nat.ne_of_lt hSlot)] at hKind
  | remove removed =>
      refine { slots := by simp [Action.after], kinds := fun id kind hSlot hKind => ?_ }
      rw [Action.after, kind?_remove] at hKind
      split at hKind
      · cases hKind
      · exact hKind
  | cast c =>
      refine { slots := (c.size_slots_after d).ge, kinds := fun id kind hSlot hKind => ?_ }
      rcases c.kind?_after d id with hSame | ⟨-, hGone⟩
      · exact hSame.symm.trans hKind
      · rw [Action.after, hGone] at hKind
        cases hKind

/-! ## Runs -/

section Runs

variable {d : Document} {actions : List Action}

theorem stateAt_succ {n : Nat} {action : Action} (h : actions[n]? = some action) :
    stateAt d actions (n + 1) = action.after (stateAt d actions n) := by
  rw [stateAt, stateAt, runActions, runActions, List.take_add_one, h, List.foldl_append]
  rfl

/-- The document only advances in a run. -/
theorem advances_stateAt {m n : Nat} (h : m ≤ n) :
    (stateAt d actions m).Advances (stateAt d actions n) := by
  induction n, h using Nat.le_induction with
  | base => exact .refl _
  | succ n _ ih =>
      refine ih.trans ?_
      cases hAction : actions[n]? with
      | some action =>
          rw [stateAt_succ hAction]
          exact .of_action _ action
      | none =>
          have hEnd := List.getElem?_eq_none_iff.1 hAction
          rw [stateAt, stateAt, List.take_of_length_le hEnd, List.take_of_length_le (by omega)]
          exact .refl _

/-- **The slots count the pushes.** -/
theorem size_slots_runActions (d : Document) (actions : List Action) :
    (runActions d actions).slots.size = d.slots.size + pushCount actions := by
  induction actions generalizing d with
  | nil => rfl
  | cons action others ih =>
      rw [runActions, List.foldl_cons, ← runActions, ih, pushCount, pushCount, List.countP_cons]
      cases action with
      | push block => simp [Action.after, Action.isPush, Document.push]; omega
      | remove id => simp [Action.after, Action.isPush]
      | cast c => simp [Action.after, Action.isPush, c.size_slots_after d]

/-- **Every document comes from as many pushes as it has slots**: an empty slot is one whose block
has been removed. -/
theorem exists_runActions_eq (d : Document) (hSlots : d.slots.size ≤ 2 ^ 32) :
    ∃ actions, runActions { header := d.header } actions = d ∧
      pushCount actions = d.slots.size := by
  obtain ⟨header, ⟨slots⟩⟩ := d
  simp only [List.size_toArray] at hSlots ⊢
  induction slots using List.reverseRecOn with
  | nil => exact ⟨[], rfl, rfl⟩
  | append_singleton slots slot ih =>
      rw [List.length_append, List.length_singleton] at hSlots
      obtain ⟨actions, hRun, hCount⟩ := ih (by omega)
      rw [runActions] at hRun
      cases slot with
      | some block =>
          refine ⟨actions ++ [.push block], ?_, ?_⟩
          · rw [runActions, List.foldl_append, hRun]
            simp [Action.after, Document.push]
          · rw [pushCount, List.countP_append, ← pushCount, hCount, List.length_append]
            rfl
      | none =>
          refine ⟨actions ++ [.push (.shape {}), .remove ⟨UInt32.ofNat slots.length⟩], ?_, ?_⟩
          · have hSlot : Document.slot ⟨UInt32.ofNat slots.length⟩ = slots.length :=
              UInt32.toNat_ofNat_of_lt' (show slots.length < 2 ^ 32 by omega)
            rw [runActions, List.foldl_append, hRun]
            simp [Action.after, Document.push, Document.remove, hSlot]
          · rw [pushCount, List.countP_append, ← pushCount, hCount, List.length_append]
            rfl

theorem size_slots_stateAt_le (d : Document) (actions : List Action) (n : Nat) :
    (stateAt d actions n).slots.size ≤ d.slots.size + pushCount actions := by
  have hFewer : pushCount (actions.take n) ≤ pushCount actions :=
    (List.take_sublist n actions).countP_le
  rw [stateAt, size_slots_runActions]
  omega

/-- Before a push there is a slot less than after it. -/
theorem size_slots_stateAt_lt {n : Nat} {block : Block} (h : actions[n]? = some (.push block)) :
    (stateAt d actions n).slots.size < d.slots.size + pushCount actions := by
  have hAfter := size_slots_stateAt_le d actions (n + 1)
  rw [stateAt_succ h] at hAfter
  simp only [Action.after, Document.push, Array.size_push] at hAfter
  omega

end Runs

/-- **What it means that handles are stable in a run.** -/
structure HandlesStable (d : Document) (actions : List Action) : Prop where
  /-- A push returns a handle that leads to its block. The handle has not led anywhere up to then,
  and no push has returned it. -/
  fresh : ∀ n block, actions[n]? = some (.push block) →
    let id := ((stateAt d actions n).push block).2
    (stateAt d actions (n + 1)).get? id = some block ∧
      (∀ m ≤ n, (stateAt d actions m).contains id = false) ∧
      ∀ m < n, ∀ earlier, actions[m]? = some (.push earlier) →
        ((stateAt d actions m).push earlier).2 ≠ id
  /-- As long as a handle leads to a block, that is of the same kind. -/
  kind : ∀ m n, m ≤ n → ∀ id, (stateAt d actions m).contains id = true →
    (stateAt d actions n).contains id = true →
      (stateAt d actions n).kind? id = (stateAt d actions m).kind? id
  /-- A handle that has lost its block leads nowhere ever after, and neither does a link to it. -/
  gone : ∀ l m n, l ≤ m → m ≤ n → ∀ id, (stateAt d actions l).contains id = true →
    (stateAt d actions m).contains id = false →
      (stateAt d actions n).contains id = false ∧
        ∀ link, (stateAt d actions n).resolve link ≠ some id
  /-- A cast removes skin partitions only. -/
  byCast : ∀ n c, actions[n]? = some (.cast c) → ∀ id, (stateAt d actions n).contains id = true →
    (stateAt d actions (n + 1)).contains id = false →
      (stateAt d actions n).kind? id = some .skinPartition
  /-- The listed handles are the ones that lead to blocks, in ascending order, and the number of
  blocks is theirs. -/
  listed : ∀ n, (∀ id, id ∈ (stateAt d actions n).ids ↔ (stateAt d actions n).contains id = true) ∧
    (stateAt d actions n).ids.Pairwise (·.number < ·.number) ∧
    (stateAt d actions n).size = (stateAt d actions n).ids.length
  /-- A block that is removed leaves all others as they were. -/
  others : ∀ n id, actions[n]? = some (.remove id) →
    (stateAt d actions (n + 1)).get? id = none ∧
      ∀ other ≠ id, (stateAt d actions (n + 1)).get? other = (stateAt d actions n).get? other

/-- **Handles are stable over whole runs**, from any document and for pushes, removals and casts in
any order, as long as no more than 2 ^ 32 blocks have been pushed, the ones of the first document
included. -/
theorem handlesStable_run (d : Document) (actions : List Action)
    (hPushes : d.slots.size + pushCount actions ≤ 2 ^ 32) : HandlesStable d actions where
  fresh n block hPush := by
    have hSlot := Document.slot_push
      ((size_slots_stateAt_lt (d := d) hPush).trans_le hPushes) block
    refine ⟨?_, fun m hm => ?_, fun m hm earlier hEarlier hSame => ?_⟩
    · rw [stateAt_succ hPush, Action.after, Document.get?_push, if_pos hSlot]
    · by_contra hThere
      have hBefore := Document.slot_lt_of_contains (Bool.not_eq_false _ ▸ hThere)
      have hGrown : (stateAt d actions m).slots.size ≤ (stateAt d actions n).slots.size :=
        (advances_stateAt hm).slots
      omega
    · -- The slot of the earlier handle has been there since.
      have hEarlierSlot := Document.slot_push
        ((size_slots_stateAt_lt (d := d) hEarlier).trans_le hPushes) earlier
      have hGrown : (stateAt d actions (m + 1)).slots.size ≤ (stateAt d actions n).slots.size :=
        (advances_stateAt hm).slots
      rw [stateAt_succ hEarlier, Action.after, Document.push, Array.size_push] at hGrown
      rw [hSame] at hEarlierSlot
      omega
  kind m n hmn id hThere hStill := (advances_stateAt hmn).kind_eq hThere hStill
  gone l m n hlm hmn id hThere hRemoved := by
    have hSlot := (Document.slot_lt_of_contains hThere).trans_le (advances_stateAt hlm).slots
    have hGone := (advances_stateAt hmn).empty hSlot hRemoved
    refine ⟨hGone, fun link hLink => ?_⟩
    rw [(Option.filter_eq_some_iff.1 hLink).2] at hGone
    cases hGone
  byCast n c hCast id hThere hRemoved := by
    rw [stateAt_succ hCast] at hRemoved
    rcases c.kind?_after (stateAt d actions n) id with hSame | ⟨hKind, -⟩
    · obtain ⟨kind, hKind⟩ := Document.exists_kind_iff.1 hThere
      rw [Action.after, Document.exists_kind_iff.2 ⟨kind, hSame.trans hKind⟩] at hRemoved
      cases hRemoved
    · exact hKind
  listed n :=
    have hSlots := (size_slots_stateAt_le d actions n).trans hPushes
    ⟨Document.mem_ids_iff hSlots, Document.ids_ascending hSlots, Document.size_eq _⟩
  others n id hRemove := by
    rw [stateAt_succ hRemove]
    refine ⟨?_, fun other hNe => ?_⟩
    · rw [Action.after, Document.get?_remove, if_pos rfl]
    · rw [Action.after, Document.get?_remove, if_neg hNe]

/-- A run on a skinned triangle: its partition is removed by a cast, a new one is added, and another
one removed. -/
def rebuiltPartition : List Action :=
  [.cast { op := .removeUnused, selection := some ⟨0⟩ }, .push (.skinPartition {}), .remove ⟨5⟩]

/-- The new partition does not get the handle of the old one. -/
theorem handlesStable_run_rebuiltPartition :
    HandlesStable (skinnedTriangle ⟨4⟩).document rebuiltPartition ∧
      (runActions (skinnedTriangle ⟨4⟩).document rebuiltPartition).ids =
        [⟨0⟩, ⟨1⟩, ⟨2⟩, ⟨3⟩, ⟨6⟩] :=
  ⟨handlesStable_run _ _ (by decide), by decide +kernel⟩

end IndexedMesh
