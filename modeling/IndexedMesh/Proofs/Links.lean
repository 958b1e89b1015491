import IndexedMesh.Edit.Workspace
import IndexedMesh.Proofs.Store

/-!
# What links depend on

Following links looks at the kinds of blocks and at the links in them, and at nothing else. Two
documents that agree on these agree on where every link leads, on the owner of every geometry and
on what a selection stands for, whatever else is in their blocks. All writes of fields keep to
documents that agree in this way, so that what is found before a write is found after it.

A removal only takes targets away: a link that led to the removed block leads nowhere, and every
other link leads where it did.

## Main results

* `Block.wiring`, `Document.wiring` — kinds and links alone.
* `Document.wiring_replace` — a write that keeps kind and links keeps the wiring.
* `Link`, `Document.linked?` — the fields that link blocks, and where they lead.
* `Document.linked?_wiring` — links are followed by the wiring.
* `Document.linked?_remove`, `Document.selectedData?_remove` — what is left of them when a partition
  is removed.
-/

namespace IndexedMesh

/-- A block with all but its kind and its links taken out. -/
def Block.wiring : Block → Block
  | .shape s => .shape { s with name := "" }
  | .geometry _ => .geometry {}
  | .skinInstance i => .skinInstance i
  | .skinData s => .skinData { s with bones := [] }
  | .skinPartition _ => .skinPartition {}
  | .packedShape s => .packedShape { skinInstance := s.skinInstance }

@[simp] theorem Block.kind_wiring (b : Block) : b.wiring.kind = b.kind := by
  cases b <;> rfl

/-! ## The fields that link blocks -/

/-- A field that links some blocks to blocks of one kind. It is part of the wiring, and partitions
do not have it. -/
structure Link where
  field : Block → Option BlockId
  kind : BlockKind
  wired : ∀ b, field b.wiring = field b
  ofPartition : ∀ p, field (.skinPartition p) = none

namespace Link

/-- The link of a shape to its geometry. -/
def geometry : Link where
  field
    | .shape s => s.data
    | _ => none
  kind := .geometry
  wired b := by cases b <;> rfl
  ofPartition _ := rfl

/-- The link of a shape of either kind to its skin instance. -/
def skinInstance : Link where
  field
    | .shape s => s.skinInstance
    | .packedShape s => s.skinInstance
    | _ => none
  kind := .skinInstance
  wired b := by cases b <;> rfl
  ofPartition _ := rfl

/-- The link of a skin instance to its skin data. -/
def skinData : Link where
  field
    | .skinInstance i => i.data
    | _ => none
  kind := .skinData
  wired b := by cases b <;> rfl
  ofPartition _ := rfl

/-- The link of a skin instance to a partition. -/
def instancePartition : Link where
  field
    | .skinInstance i => i.partition
    | _ => none
  kind := .skinPartition
  wired b := by cases b <;> rfl
  ofPartition _ := rfl

/-- The link of skin data to a partition. -/
def dataPartition : Link where
  field
    | .skinData s => s.partition
    | _ => none
  kind := .skinPartition
  wired b := by cases b <;> rfl
  ofPartition _ := rfl

end Link

namespace Document

/-- A document with all but the kinds and links of its blocks taken out. -/
def wiring (d : Document) : Document :=
  { d with slots := d.slots.map (·.map Block.wiring) }

variable {d : Document} {id : BlockId}

/-! ## Writes and the wiring -/

theorem get?_wiring (d : Document) (id : BlockId) :
    d.wiring.get? id = (d.get? id).map Block.wiring := by
  rw [get?, get?, wiring, Array.getElem?_map]
  cases d.slots[slot id]? <;> rfl

/-- **A write that keeps kind and links keeps the wiring.** -/
theorem wiring_replace {old new : Block} (hGet : d.get? id = some old)
    (hWiring : new.wiring = old.wiring) : (d.replace id new).wiring = d.wiring := by
  have hSlot : d.slots[slot id]? = some (some old) := by
    have hLess := slot_lt_of_get? hGet
    rw [get?, Array.getElem?_eq_getElem hLess] at hGet
    rw [Array.getElem?_eq_getElem hLess]
    exact congrArg some hGet
  have hSlots : (d.slots.setIfInBounds (slot id) (some new)).map (·.map Block.wiring) =
      d.slots.map (·.map Block.wiring) := by
    apply Array.ext_getElem?
    intro i
    by_cases hi : slot id = i
    · subst hi
      have hLess := slot_lt_of_get? hGet
      rw [Array.getElem?_map, Array.getElem?_map, hSlot,
        Array.getElem?_setIfInBounds_self_of_lt hLess]
      simp [hWiring]
    · simp [hi]
  simp only [wiring, replace, hSlots]

/-! ## Links are followed by the wiring -/

@[simp] theorem contains_wiring (d : Document) (id : BlockId) :
    d.wiring.contains id = d.contains id := by
  simp [contains, get?_wiring]

@[simp] theorem kind?_wiring (d : Document) (id : BlockId) :
    d.wiring.kind? id = d.kind? id := by
  rw [kind?, kind?, get?_wiring, Option.map_map]
  congr 1
  funext b
  exact b.kind_wiring

@[simp] theorem follow?_wiring (d : Document) (link : Option BlockId) (kind : BlockKind) :
    d.wiring.follow? link kind = d.follow? link kind := by
  have hContains : d.wiring.contains = d.contains := funext (contains_wiring d)
  simp only [follow?, resolve, hContains, kind?_wiring]

theorem follow?_eq_some_iff {link : Option BlockId} {kind : BlockKind} {target : BlockId} :
    d.follow? link kind = some target ↔ link = some target ∧ d.kind? target = some kind := by
  simp only [follow?, resolve, Option.filter_eq_some_iff, decide_eq_true_eq]
  constructor
  · rintro ⟨⟨hLink, _⟩, hKind⟩
    exact ⟨hLink, hKind⟩
  · rintro ⟨hLink, hKind⟩
    obtain ⟨b, hGet, _⟩ := kind?_eq_some_iff.1 hKind
    exact ⟨⟨hLink, contains_of_get? hGet⟩, hKind⟩

/-- Where a field of a block leads. -/
def linked? (d : Document) (l : Link) (id : BlockId) : Option BlockId :=
  d.follow? ((d.get? id).bind l.field) l.kind

theorem shapeData?_eq (d : Document) (id : BlockId) : d.shapeData? id = d.linked? .geometry id := by
  unfold shapeData? shape typed linked?
  cases d.get? id with
  | none => rfl
  | some b => cases b <;> rfl

theorem skinInstance?_eq (d : Document) (id : BlockId) :
    d.skinInstance? id = d.linked? .skinInstance id := by
  unfold skinInstance? linked?
  cases d.get? id with
  | none => rfl
  | some b => cases b <;> rfl

theorem skinData?_eq (d : Document) (id : BlockId) : d.skinData? id = d.linked? .skinData id := by
  unfold skinData? skinInstance typed linked?
  cases d.get? id with
  | none => rfl
  | some b => cases b <;> rfl

theorem instancePartition?_eq (d : Document) (id : BlockId) :
    d.instancePartition? id = d.linked? .instancePartition id := by
  unfold instancePartition? skinInstance typed linked?
  cases d.get? id with
  | none => rfl
  | some b => cases b <;> rfl

theorem dataPartition?_eq (d : Document) (id : BlockId) :
    d.dataPartition? id = d.linked? .dataPartition id := by
  unfold dataPartition? skinData typed linked?
  cases d.get? id with
  | none => rfl
  | some b => cases b <;> rfl

/-- What a link leads to is of the kind that the link is for. -/
theorem kind?_of_linked? {l : Link} {target : BlockId} (h : d.linked? l id = some target) :
    d.kind? target = some l.kind :=
  (follow?_eq_some_iff.1 h).2

/-- **Links are followed by the wiring.** -/
@[simp] theorem linked?_wiring (d : Document) (l : Link) (id : BlockId) :
    d.wiring.linked? l id = d.linked? l id := by
  have hField : (d.wiring.get? id).bind l.field = (d.get? id).bind l.field := by
    rw [get?_wiring, Option.bind_map]
    congr 1
    funext b
    exact l.wired b
  rw [linked?, hField, follow?_wiring]
  rfl

@[simp] theorem shapeData?_wiring (d : Document) (id : BlockId) :
    d.wiring.shapeData? id = d.shapeData? id := by
  rw [shapeData?_eq, shapeData?_eq, linked?_wiring]

@[simp] theorem skinInstance?_wiring (d : Document) (id : BlockId) :
    d.wiring.skinInstance? id = d.skinInstance? id := by
  rw [skinInstance?_eq, skinInstance?_eq, linked?_wiring]

@[simp] theorem skinData?_wiring (d : Document) (id : BlockId) :
    d.wiring.skinData? id = d.skinData? id := by
  rw [skinData?_eq, skinData?_eq, linked?_wiring]

@[simp] theorem instancePartition?_wiring (d : Document) (id : BlockId) :
    d.wiring.instancePartition? id = d.instancePartition? id := by
  rw [instancePartition?_eq, instancePartition?_eq, linked?_wiring]

@[simp] theorem dataPartition?_wiring (d : Document) (id : BlockId) :
    d.wiring.dataPartition? id = d.dataPartition? id := by
  rw [dataPartition?_eq, dataPartition?_eq, linked?_wiring]

@[simp] theorem skinDataOf?_wiring (d : Document) (id : BlockId) :
    d.wiring.skinDataOf? id = d.skinDataOf? id := by
  have hData : d.wiring.skinData? = d.skinData? := funext (skinData?_wiring d)
  simp only [skinDataOf?, skinInstance?_wiring, hData]

@[simp] theorem findPartition?_wiring (d : Document) (id : BlockId) :
    d.wiring.findPartition? id = d.findPartition? id := by
  have hData : d.wiring.dataPartition? = d.dataPartition? := funext (dataPartition?_wiring d)
  simp only [findPartition?, skinInstance?_wiring, instancePartition?_wiring, skinData?_wiring,
    hData]

@[simp] theorem ids_wiring (d : Document) : d.wiring.ids = d.ids := by
  unfold ids wiring
  rw [Array.toList_map, List.zipIdx_map, List.filterMap_map]
  congr 1
  funext entry
  obtain ⟨block, n⟩ := entry
  cases block <;> rfl

@[simp] theorem ownerOf?_wiring (d : Document) (data : BlockId) :
    d.wiring.ownerOf? data = d.ownerOf? data := by
  have hOwner : ∀ id, ((d.wiring.get? id).bind Block.asShape?).any (·.data = some data) =
      ((d.get? id).bind Block.asShape?).any (·.data = some data) := by
    intro id
    rw [get?_wiring]
    cases d.get? id with
    | none => rfl
    | some b => cases b <;> rfl
  simp only [ownerOf?, ids_wiring, hOwner]

@[simp] theorem selectedData?_wiring (d : Document) (selection : Selection) :
    d.wiring.selectedData? selection = d.selectedData? selection := by
  simp only [selectedData?, kind?_wiring, ownerOf?_wiring, shapeData?_wiring]

/-! ## Removing a partition -/

theorem kind?_remove (d : Document) (id other : BlockId) :
    (d.remove id).kind? other = if other = id then none else d.kind? other := by
  rw [kind?, get?_remove]
  by_cases hEq : other = id
  · rw [if_pos hEq, if_pos hEq]
    rfl
  · rw [if_neg hEq, if_neg hEq]
    rfl

/-- **When a partition is removed, a link leads where it did, or nowhere** if it led there. -/
theorem linked?_remove {partition : BlockId} (hKind : d.kind? partition = some .skinPartition)
    (l : Link) (id : BlockId) :
    (d.remove partition).linked? l id = (d.linked? l id).filter (· ≠ partition) := by
  have hField : ((d.remove partition).get? id).bind l.field = (d.get? id).bind l.field := by
    rw [get?_remove]
    by_cases hId : id = partition
    · obtain ⟨b, hGet, hb⟩ := kind?_eq_some_iff.1 hKind
      cases b <;> cases hb
      rw [if_pos hId, hId, hGet]
      exact (l.ofPartition _).symm
    · rw [if_neg hId]
  apply Option.ext
  intro target
  rw [linked?, hField, linked?]
  simp only [follow?_eq_some_iff, Option.filter_eq_some_iff, kind?_remove, decide_eq_true_eq]
  by_cases hEq : target = partition <;> simp [hEq]

/-- A link to something else than a partition leads where it did. -/
theorem linked?_remove_of_kind {partition : BlockId}
    (hKind : d.kind? partition = some .skinPartition) {l : Link} (hLink : l.kind ≠ .skinPartition)
    (id : BlockId) : (d.remove partition).linked? l id = d.linked? l id := by
  rw [linked?_remove hKind]
  cases hTarget : d.linked? l id with
  | none => rfl
  | some target =>
      refine Option.filter_some_pos (decide_eq_true fun hEq => hLink ?_)
      have hTargetKind := kind?_of_linked? hTarget
      rw [hEq, hKind] at hTargetKind
      exact (Option.some.inj hTargetKind).symm

/-- The handles of the blocks in a row of slots, the first of which has a number. -/
private def handles (slots : List (Option Block)) (number : Nat) : List BlockId :=
  (slots.zipIdx number).filterMap fun (block, n) => block.map fun _ => ⟨UInt32.ofNat n⟩

/-- A search among the blocks does not miss one that it would have passed over. -/
private theorem find?_handles_set (looksFor : BlockId → Bool) (slots : List (Option Block)) :
    ∀ k number : Nat, looksFor ⟨UInt32.ofNat (number + k)⟩ = false →
      (handles (slots.set k none) number).find? looksFor =
        (handles slots number).find? looksFor := by
  induction slots with
  | nil => intro k number _; rfl
  | cons head tail ih =>
      intro k number hPassed
      cases k with
      | zero =>
          cases head with
          | none => rfl
          | some block =>
              show (handles tail (number + 1)).find? looksFor =
                (⟨UInt32.ofNat number⟩ :: handles tail (number + 1)).find? looksFor
              rw [List.find?_cons_of_neg (by simpa using hPassed)]
      | succ k =>
          have hTail := ih k (number + 1) (by rwa [Nat.add_right_comm])
          cases head with
          | none => exact hTail
          | some block =>
              show (_ :: handles (tail.set k none) (number + 1)).find? looksFor =
                (⟨UInt32.ofNat number⟩ :: handles tail (number + 1)).find? looksFor
              rw [List.find?_cons, List.find?_cons, hTail]

/-- **When a partition is removed, every geometry keeps its owner**, which is a shape. -/
theorem ownerOf?_remove {partition : BlockId} (hKind : d.kind? partition = some .skinPartition)
    (data : BlockId) : (d.remove partition).ownerOf? data = d.ownerOf? data := by
  obtain ⟨b, hGet, hb⟩ := kind?_eq_some_iff.1 hKind
  cases b <;> cases hb
  have hOwner : ∀ id, (((d.remove partition).get? id).bind Block.asShape?).any
      (·.data = some data) = ((d.get? id).bind Block.asShape?).any (·.data = some data) := by
    intro id
    rw [get?_remove]
    by_cases hId : id = partition
    · rw [if_pos hId, hId, hGet]
      rfl
    · rw [if_neg hId]
  have hIds : (d.remove partition).ids = handles (d.slots.toList.set (slot partition) none) 0 := by
    rw [ids, remove, Array.toList_setIfInBounds]
    rfl
  have hPartition : (⟨UInt32.ofNat (0 + slot partition)⟩ : BlockId) = partition := by
    rw [Nat.zero_add, slot, UInt32.ofNat_toNat]
  rw [ownerOf?, ownerOf?, funext hOwner, hIds]
  refine find?_handles_set _ _ _ 0 ?_
  rw [hPartition, hGet]
  rfl

/-- **A selection stands for the geometry that it stood for.** -/
theorem selectedData?_remove {partition : BlockId}
    (hKind : d.kind? partition = some .skinPartition) (selection : Selection) :
    (d.remove partition).selectedData? selection = d.selectedData? selection := by
  unfold selectedData?
  congr 1
  funext id
  rw [kind?_remove, ownerOf?_remove hKind, shapeData?_eq, shapeData?_eq,
    linked?_remove_of_kind hKind (by decide)]
  by_cases hId : id = partition
  · rw [if_pos hId, hId, hKind]
  · rw [if_neg hId]

end Document

end IndexedMesh
