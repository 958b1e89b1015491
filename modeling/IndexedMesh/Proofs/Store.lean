import IndexedMesh.Document.Fields

/-!
# The slots of a document

A handle is a slot number and nothing else, so what a write or a removal does to the other handles
is settled by their numbers being different. A look-up that asks for a kind succeeds exactly on a
block of that kind, and then a write to it succeeds as well.

## Main results

* `Document.get?_replace`, `Document.get?_remove` — what is found after a write or a removal.
* `Document.geometry_eq_ok_iff` and so on — what a look-up by kind finds.
* `Document.setVertexArrays_eq_ok`, `Document.setBones_eq_ok` and so on — what a write leaves.
* `GeometryData.arrays`, `GeometryData.withArrays` — the channels of a geometry as one value.
-/

namespace IndexedMesh

namespace Document

variable {d : Document} {id other : BlockId} {block : Block}

/-! ## Looking up after a change -/

theorem slot_injective {a b : BlockId} (h : slot a = slot b) : a = b := by
  obtain ⟨m⟩ := a
  obtain ⟨n⟩ := b
  exact congrArg BlockId.mk (UInt32.toNat_inj.1 h)

theorem slot_lt_of_get? (h : d.get? id = some block) : slot id < d.slots.size := by
  by_cases hSlot : slot id < d.slots.size
  · exact hSlot
  · rw [get?, Array.getElem?_eq_none (by omega)] at h
    cases h

theorem get?_replace (hOld : d.contains id = true) (other : BlockId) :
    (d.replace id block).get? other = if other = id then some block else d.get? other := by
  obtain ⟨old, hGet⟩ := Option.isSome_iff_exists.1 hOld
  have hSlot := slot_lt_of_get? hGet
  by_cases hEq : other = id
  · subst hEq
    simp [get?, replace, hSlot]
  · have hNe : slot id ≠ slot other := fun h => hEq (slot_injective h.symm)
    simp [get?, replace, hEq, hNe]

theorem get?_remove (d : Document) (id other : BlockId) :
    (d.remove id).get? other = if other = id then none else d.get? other := by
  by_cases hEq : other = id
  · subst hEq
    by_cases hSlot : slot other < d.slots.size <;> simp [get?, remove, hSlot]
  · have hNe : slot id ≠ slot other := fun h => hEq (slot_injective h.symm)
    simp [get?, remove, hEq, hNe]

theorem contains_replace (hOld : d.contains id = true) (other : BlockId) :
    (d.replace id block).contains other = d.contains other := by
  rw [contains, get?_replace hOld]
  by_cases hEq : other = id
  · subst hEq
    rw [if_pos rfl]
    exact hOld.symm
  · rw [if_neg hEq]
    rfl

/-- Of two writes to one block the second counts. -/
theorem replace_replace (d : Document) (id : BlockId) (a b : Block) :
    (d.replace id a).replace id b = d.replace id b := by
  simp only [replace, Array.setIfInBounds_setIfInBounds]

/-- Writing the block that is there changes nothing. -/
theorem replace_self (h : d.get? id = some block) : d.replace id block = d := by
  have hSlot : d.slots[slot id]? = some (some block) := Option.join_eq_some_iff.1 h
  obtain ⟨hLess, hBlock⟩ := Array.getElem?_eq_some_iff.1 hSlot
  have hSame : d.slots.setIfInBounds (slot id) (some block) = d.slots := by
    rw [Array.setIfInBounds, dif_pos hLess, ← hBlock, Array.set_getElem_self]
  rw [replace, hSame]

@[simp] theorem size_slots_replace (d : Document) (id : BlockId) (b : Block) :
    (d.replace id b).slots.size = d.slots.size := by
  simp [replace]

@[simp] theorem size_slots_remove (d : Document) (id : BlockId) :
    (d.remove id).slots.size = d.slots.size := by
  simp [remove]

theorem contains_of_get? (h : d.get? id = some block) : d.contains id = true := by
  rw [contains, h]
  rfl

theorem kind?_eq_some_iff {kind : BlockKind} :
    d.kind? id = some kind ↔ ∃ block, d.get? id = some block ∧ block.kind = kind := by
  rw [kind?, Option.map_eq_some_iff]

theorem contains_iff : d.contains id = true ↔ ∃ b, d.slots[slot id]? = some (some b) := by
  rw [contains, Option.isSome_iff_exists]
  exact exists_congr fun b => Option.join_eq_some_iff

/-- A handle that has a block is listed. -/
theorem mem_ids_of_contains (h : d.contains id = true) : id ∈ d.ids := by
  obtain ⟨b, hSlot⟩ := contains_iff.1 h
  refine List.mem_filterMap.2 ⟨(some b, slot id), ?_, ?_⟩
  · rwa [List.mem_zipIdx_iff_getElem?, Array.getElem?_toList]
  · simp [slot]

/-! ## Looking up by kind -/

theorem typed_eq_ok_iff {α : Type} (expected : BlockKind) (as? : Block → Option α) (a : α) :
    d.typed id expected as? = .ok a ↔ (d.get? id).bind as? = some a := by
  unfold typed
  cases (d.get? id).bind as? <;> simp

/-- A look-up by kind finds the blocks that the kind makes. -/
private theorem typed_kind_eq_ok_iff {α : Type} {expected : BlockKind} {as? : Block → Option α}
    {make : α → Block} (hAs : ∀ b a, as? b = some a ↔ b = make a) (a : α) :
    d.typed id expected as? = .ok a ↔ d.get? id = some (make a) := by
  rw [typed_eq_ok_iff, Option.bind_eq_some_iff]
  constructor
  · rintro ⟨b, hGet, hb⟩
    rw [hGet, (hAs b a).1 hb]
  · exact fun h => ⟨make a, h, (hAs _ a).2 rfl⟩

theorem shape_eq_ok_iff (s : Shape) : d.shape id = .ok s ↔ d.get? id = some (.shape s) :=
  typed_kind_eq_ok_iff (fun b a => by cases b <;> simp [Block.asShape?]) s

theorem geometry_eq_ok_iff (g : GeometryData) :
    d.geometry id = .ok g ↔ d.get? id = some (.geometry g) :=
  typed_kind_eq_ok_iff (fun b a => by cases b <;> simp [Block.asGeometryData?]) g

theorem skinData_eq_ok_iff (s : SkinData) :
    d.skinData id = .ok s ↔ d.get? id = some (.skinData s) :=
  typed_kind_eq_ok_iff (fun b a => by cases b <;> simp [Block.asSkinData?]) s

theorem update_eq_ok {expected : BlockKind} {change? : Block → Option Block} {old new : Block}
    (hGet : d.get? id = some old) (hChange : change? old = some new) :
    d.update id expected change? = .ok (d.replace id new) := by
  have hTyped : d.typed id expected change? = .ok new := by
    rw [typed_eq_ok_iff, hGet]
    exact hChange
  rw [update, hTyped]
  rfl

end Document

/-! ## The fields of a geometry -/

/-- The channels of a geometry. -/
def GeometryData.arrays (g : GeometryData) : VertexArrays where
  positions := g.vertices
  normals := g.normals
  colors := g.vertexColors
  texcoords := g.uvSets

/-- A geometry with other channels, and with their number of vertices declared. -/
def GeometryData.withArrays (g : GeometryData) (arrays : VertexArrays) : GeometryData :=
  { g with
    numVertices := UInt16.ofNat arrays.size
    vertices := arrays.positions
    normals := arrays.normals
    vertexColors := arrays.colors
    uvSets := arrays.texcoords }

theorem narrowCount_eq_ok {count : Nat} (field : String) (h : count < UInt16.size) :
    narrowCount field count = .ok (UInt16.ofNat count) := by
  rw [narrowCount, if_pos h]

/-- A bone as it is stored: its weights, with their number declared. -/
def BoneWeights.stored (bone : BoneWeights .stored) : BoneData where
  numVertices := UInt16.ofNat bone.weights.length
  vertexWeights := bone.weights

/-- The weights of a stored bone. -/
def BoneData.weights (bone : BoneData) : BoneWeights .stored := ⟨bone.vertexWeights⟩

namespace Document

variable {d : Document} {id : BlockId} {g : GeometryData} {s : SkinData}

theorem vertexArrays_eq_ok (h : d.get? id = some (.geometry g)) :
    d.vertexArrays id = .ok g.arrays := by
  rw [vertexArrays, (geometry_eq_ok_iff g).2 h]
  rfl

theorem declaredCount_eq_ok (h : d.get? id = some (.geometry g)) :
    d.declaredCount id = .ok g.numVertices.toNat := by
  rw [declaredCount, (geometry_eq_ok_iff g).2 h]
  rfl

theorem triangles_eq_ok (h : d.get? id = some (.geometry g)) :
    d.triangles id = .ok g.triangles := by
  rw [triangles, typed_eq_ok_iff, h]
  rfl

theorem strips_eq_ok (h : d.get? id = some (.geometry g)) : d.strips id = .ok g.strips := by
  rw [strips, (geometry_eq_ok_iff g).2 h]
  rfl

theorem bones_eq_ok (h : d.get? id = some (.skinData s)) :
    d.bones id = .ok (s.bones.map BoneData.weights) := by
  rw [bones, (skinData_eq_ok_iff s).2 h]
  rfl

theorem setVertexArrays_eq_ok {arrays : VertexArrays} (h : d.get? id = some (.geometry g))
    (hSize : arrays.size < UInt16.size) :
    d.setVertexArrays id arrays = .ok (d.replace id (.geometry (g.withArrays arrays))) := by
  rw [setVertexArrays, narrowCount_eq_ok _ hSize]
  exact update_eq_ok h rfl

theorem setTriangles_eq_ok (h : d.get? id = some (.geometry g))
    (triangles : List (Triangle .stored)) :
    d.setTriangles id triangles = .ok (d.replace id (.geometry { g with triangles })) :=
  update_eq_ok h rfl

theorem setStrips_eq_ok (h : d.get? id = some (.geometry g)) (strips : List (Strip .stored)) :
    d.setStrips id strips = .ok (d.replace id (.geometry { g with strips })) :=
  update_eq_ok h rfl

theorem setTexcoords_eq_ok (h : d.get? id = some (.geometry g))
    (texcoords : List (Array Texcoord)) :
    d.setTexcoords id texcoords =
      .ok (d.replace id (.geometry { g with uvSets := texcoords })) :=
  update_eq_ok h rfl

/-! ### Vertices stored one by one -/

section Packed

variable {s : PackedShape} {p : SkinPartition}

theorem packedVertices_eq_ok (h : d.get? id = some (.packedShape s)) :
    d.packedVertices id = .ok s.vertexData := by
  rw [packedVertices, typed_eq_ok_iff, h]
  rfl

theorem packedVertices_partition_eq_ok (h : d.get? id = some (.skinPartition p)) :
    d.packedVertices id = .ok p.vertexData := by
  rw [packedVertices, typed_eq_ok_iff, h]
  rfl

theorem packedNormals_eq_ok (h : d.get? id = some (.packedShape s)) :
    d.packedNormals id = .ok s.hasNormals := by
  rw [packedNormals, typed_eq_ok_iff, h]
  rfl

theorem packedNormals_partition_eq_ok (h : d.get? id = some (.skinPartition p)) :
    d.packedNormals id = .ok p.hasNormals := by
  rw [packedNormals, typed_eq_ok_iff, h]
  rfl

theorem setPackedVertices_eq_ok (h : d.get? id = some (.packedShape s))
    (vertices : Array PackedVertex) :
    d.setPackedVertices id vertices =
      .ok (d.replace id (.packedShape { s with vertexData := vertices })) :=
  update_eq_ok h rfl

theorem setPackedVertices_partition_eq_ok (h : d.get? id = some (.skinPartition p))
    (vertices : Array PackedVertex) :
    d.setPackedVertices id vertices =
      .ok (d.replace id (.skinPartition { p with vertexData := vertices })) :=
  update_eq_ok h rfl

end Packed

/-! ### Bones -/

/-- The declared number of every bone can hold its weights. -/
def BonesFit (bones : List (BoneWeights .stored)) : Prop :=
  ∀ bone ∈ bones, bone.weights.length < UInt16.size

/-- **Bones can be stored exactly if they fit**; the first one that does not is in the error. -/
theorem storedBones_eq (bones : List (BoneWeights .stored)) :
    storedBones bones =
      match bones.find? (UInt16.size ≤ ·.weights.length) with
      | none => .ok (bones.map BoneWeights.stored)
      | some bone => .error (.overflow boneCountField bone.weights.length) := by
  unfold storedBones
  induction bones with
  | nil => rfl
  | cons bone more ih =>
      rw [List.mapM_cons, ih]
      by_cases h : bone.weights.length < UInt16.size
      · rw [narrowCount_eq_ok _ h, List.find?_cons_of_neg (by simpa using h)]
        cases more.find? (UInt16.size ≤ ·.weights.length) <;> rfl
      · rw [narrowCount, if_neg h, List.find?_cons_of_pos (by simpa using h)]
        rfl

theorem bonesFit_iff (bones : List (BoneWeights .stored)) :
    BonesFit bones ↔ bones.find? (UInt16.size ≤ ·.weights.length) = none := by
  simp only [BonesFit, List.find?_eq_none, decide_eq_true_eq, Nat.not_le]

theorem storedBones_eq_ok {bones : List (BoneWeights .stored)} (h : BonesFit bones) :
    storedBones bones = .ok (bones.map BoneWeights.stored) := by
  rw [storedBones_eq, (bonesFit_iff bones).1 h]

theorem checkBones_eq_ok {bones : List (BoneWeights .stored)} (h : BonesFit bones) :
    checkBones bones = .ok () := by
  rw [checkBones, storedBones_eq_ok h]
  rfl

/-- The check fails if some bone does not fit. -/
theorem checkBones_eq_error {bones : List (BoneWeights .stored)} (h : ¬ BonesFit bones) :
    ∃ count, UInt16.size ≤ count ∧ checkBones bones = .error (.overflow boneCountField count) := by
  cases hFind : bones.find? (UInt16.size ≤ ·.weights.length) with
  | none => exact absurd ((bonesFit_iff bones).2 hFind) h
  | some bone =>
      refine ⟨bone.weights.length, by simpa using List.find?_some hFind, ?_⟩
      rw [checkBones, storedBones_eq, hFind]
      rfl

theorem setBones_eq_ok {bones : List (BoneWeights .stored)} (h : d.get? id = some (.skinData s))
    (hFit : BonesFit bones) :
    d.setBones id bones =
      .ok (d.replace id (.skinData { s with bones := bones.map BoneWeights.stored })) := by
  rw [setBones, storedBones_eq_ok hFit]
  exact update_eq_ok h rfl

theorem removeBlock_eq_ok (h : d.contains id = true) : d.removeBlock id = .ok (d.remove id) := by
  rw [removeBlock, if_pos h]

end Document

end IndexedMesh
