import IndexedMesh.Proofs.Links
import IndexedMesh.Proofs.Run
import IndexedMesh.Proofs.Strip

/-!
# What a removal of vertices does to a document

A removal works on a geometry, on the skin data that its shape reaches, and on the partition of
that shape. Everything that it is going to write follows from these blocks as they are before the
first write. So the whole edit comes down to a plan that is made without touching the document, and
a change of the document that cannot fail any more.

## Main results

* `RemovalSite` — what a removal works on, and `RemovalSite.In` — that a document has it so.
* `RemovalSite.plan`, `RemovalSite.apply` — the decision and the change.
* `Edit.run_stripVertices` — the edit makes the plan and carries it out.
* `RemovalSite.plan_eq_ok_some_iff` — when vertices are removed, and what becomes of the mesh.
* `RemovalSite.exists_skinData_of_plan` — what becomes of the weights of the shape.
-/

namespace IndexedMesh

/-! ## Sites -/

/-- The parts of a geometry that a removal rewrites, together with some bones. -/
def GeometryData.mesh (g : GeometryData) (bones : List (BoneWeights .stored)) : Mesh .stored where
  arrays := g.arrays
  triangles := g.triangles
  strips := g.strips
  bones

/-- Of the weights of a bone those on the vertices of a list are left, in order. They are renumbered
as the list is, and the bone declares how many they are. -/
structure BoneData.KeepsWeights (kept : List Nat) (old new : BoneData) : Prop where
  weights : List.Forall₂ (Mesh.SameWeight kept)
    (old.vertexWeights.filter (·.index.position ∈ kept)) new.vertexWeights
  declared : new.numVertices.toNat = new.vertexWeights.length

/-- A weight that is left is on one of the places of the list. -/
theorem BoneData.KeepsWeights.lt_length {kept : List Nat} {old new : BoneData}
    (h : KeepsWeights kept old new) {v : VertexWeight .stored} (hv : v ∈ new.vertexWeights) :
    v.index.position < kept.length := by
  obtain ⟨w, -, hSame⟩ := exists_mem_of_forall₂ h.weights hv
  exact (List.getElem?_eq_some_iff.1 hSame.index).1

/-- A geometry with the parts of a mesh. -/
def GeometryData.withMesh (g : GeometryData) (m : Mesh .stored) : GeometryData :=
  { g.withArrays m.arrays with
    triangles := m.triangles
    strips := m.strips }

/-- What a removal works on: a geometry, the shape that it belongs to, the skin data that the shape
reaches, and its partition. -/
structure RemovalSite where
  shape : Option BlockId
  data : BlockId
  geometry : GeometryData
  skin : Option (BlockId × SkinData)
  partition : Option BlockId

/-- A document without a block that there may be. -/
def Document.without (d : Document) : Option BlockId → Document
  | some id => d.remove id
  | none => d

namespace RemovalSite

/-- The document has the blocks of the site, linked in this way. -/
structure In (site : RemovalSite) (d : Document) : Prop where
  geometry : d.get? site.data = some (.geometry site.geometry)
  skin : site.shape.bind d.skinDataOf? = site.skin.map Prod.fst
  skinData : ∀ id s, site.skin = some (id, s) → d.get? id = some (.skinData s)
  partition : site.shape.bind d.findPartition? = site.partition

/-- The weights of each bone, of none without skin data. -/
def bones (site : RemovalSite) : List (BoneWeights .stored) :=
  match site.skin with
  | some (_, s) => s.bones.map BoneData.weights
  | none => []

/-- The mesh that vertices are removed from. -/
def mesh (site : RemovalSite) : Mesh .stored := site.geometry.mesh site.bones

theorem bones_mesh {site : RemovalSite} {id : BlockId} {s : SkinData}
    (hSkin : site.skin = some (id, s)) : site.mesh.bones = s.bones.map BoneData.weights := by
  show site.bones = _
  rw [bones, hSkin]

end RemovalSite

theorem Document.get?_of_skinDataOf? {d : Document} {shape skin : BlockId}
    (h : d.skinDataOf? shape = some skin) : ∃ s, d.get? skin = some (.skinData s) := by
  rw [skinDataOf?, Option.bind_eq_some_iff] at h
  obtain ⟨inst, _, hSkin⟩ := h
  rw [skinData?_eq] at hSkin
  obtain ⟨b, hGet, hb⟩ := kind?_eq_some_iff.1 (kind?_of_linked? hSkin)
  cases b <;> cases hb
  exact ⟨_, hGet⟩

theorem Document.kind?_of_findPartition? {d : Document} {shape partition : BlockId}
    (h : d.findPartition? shape = some partition) : d.kind? partition = some .skinPartition := by
  rw [findPartition?, Option.bind_eq_some_iff] at h
  obtain ⟨inst, _, h⟩ := h
  rcases Option.or_eq_some_iff.1 h with h | ⟨_, h⟩
  · rw [instancePartition?_eq] at h
    exact kind?_of_linked? h
  · obtain ⟨skin, _, h⟩ := Option.bind_eq_some_iff.1 h
    rw [dataPartition?_eq] at h
    exact kind?_of_linked? h

theorem Document.get?_of_selectedData? {d : Document} {selection : Selection}
    {shape : Option BlockId} {data : BlockId} (h : d.selectedData? selection = some (shape, data)) :
    ∃ g, d.get? data = some (.geometry g) := by
  have hKind : d.kind? data = some .geometry := by
    rw [selectedData?, Option.bind_eq_some_iff] at h
    obtain ⟨id, _, h⟩ := h
    split at h
    · rename_i hKind
      cases h
      exact hKind
    · rw [Option.map_eq_some_iff] at h
      obtain ⟨data', hData, hPair⟩ := h
      cases hPair
      rw [shapeData?_eq] at hData
      exact kind?_of_linked? hData
    · cases h
  obtain ⟨b, hGet, hb⟩ := kind?_eq_some_iff.1 hKind
  cases b <;> cases hb
  exact ⟨_, hGet⟩

/-- Every geometry is the site of a removal, with any shape. -/
theorem RemovalSite.exists_in {d : Document} {data : BlockId} {g : GeometryData}
    (shape : Option BlockId) (hGet : d.get? data = some (.geometry g)) :
    ∃ site : RemovalSite, site.shape = shape ∧ site.data = data ∧ site.geometry = g ∧
      site.In d := by
  cases hSkin : shape.bind d.skinDataOf? with
  | none =>
      refine ⟨⟨shape, data, g, none, shape.bind d.findPartition?⟩, rfl, rfl, rfl, ?_⟩
      exact
        { geometry := hGet
          skin := hSkin
          skinData := fun id s h => by cases h
          partition := rfl }
  | some skin =>
      obtain ⟨id, _, hReach⟩ := Option.bind_eq_some_iff.1 hSkin
      obtain ⟨s, hs⟩ := Document.get?_of_skinDataOf? hReach
      refine ⟨⟨shape, data, g, some (skin, s), shape.bind d.findPartition?⟩, rfl, rfl, rfl, ?_⟩
      exact
        { geometry := hGet
          skin := hSkin
          skinData := fun id s' h => by cases h; exact hs
          partition := rfl }

/-! ## The plan -/

/-- What has to be right about the channels of a geometry before vertices are removed. -/
structure GeometryData.Counted (g : GeometryData) : Prop where
  nonempty : g.arrays.size ≠ 0
  declared : g.numVertices.toNat = g.arrays.size
  aligned : g.arrays.Aligned

/-- The check of the channels of a geometry. -/
def GeometryData.check (g : GeometryData) : Except Error Unit :=
  if g.arrays.size = 0 then .error .emptyInput
  else if g.numVertices.toNat ≠ g.arrays.size then
    .error (.sizeMismatch .declaredCount g.arrays.size g.numVertices.toNat)
  else g.arrays.check

theorem GeometryData.check_eq_ok_iff (g : GeometryData) : g.check = .ok () ↔ g.Counted := by
  unfold check
  by_cases hEmpty : g.arrays.size = 0
  · rw [if_pos hEmpty]
    constructor
    · intro h; cases h
    · exact fun h => absurd hEmpty h.nonempty
  · rw [if_neg hEmpty]
    by_cases hDeclared : g.numVertices.toNat = g.arrays.size
    · rw [if_neg (not_not_intro hDeclared), VertexArrays.check_eq_ok_iff]
      constructor
      · exact fun h => { nonempty := hEmpty, declared := hDeclared, aligned := h }
      · exact fun h => h.aligned
    · rw [if_pos hDeclared]
      constructor
      · intro h; cases h
      · exact fun h => absurd h.declared hDeclared

/-- There is nothing to work on only if there is no vertex. -/
theorem GeometryData.size_eq_zero_of_check {g : GeometryData} (h : g.check = .error .emptyInput) :
    g.arrays.size = 0 := by
  unfold check at h
  split at h
  · assumption
  · split at h
    · cases h
    · unfold VertexArrays.check at h
      split at h <;> cases h

namespace RemovalSite

/-- What is decided before the first write: whether there is anything to remove, and if so what
the mesh becomes. Bones are only stored if there are skin data. -/
def plan (site : RemovalSite) (mergeDuplicates : Bool) :
    Except Error (Option (Stripped .stored)) :=
  match site.geometry.check with
  | .error e => .error e
  | .ok _ =>
    match site.mesh.strip mergeDuplicates with
    | .error e => .error e
    | .ok none => .ok none
    | .ok (some out) =>
      if site.skin.isSome then
        match Document.checkBones out.mesh.bones with
        | .error e => .error (.document e)
        | .ok _ => .ok (some out)
      else .ok (some out)

/-- The document with the new mesh and the new weights. -/
def rewritten (site : RemovalSite) (out : Stripped .stored) (d : Document) : Document :=
  let withMesh := d.replace site.data (.geometry (site.geometry.withMesh out.mesh))
  match site.skin with
  | some (id, s) =>
    withMesh.replace id (.skinData { s with bones := out.mesh.bones.map BoneWeights.stored })
  | none => withMesh

/-- The document after the change. -/
def apply (site : RemovalSite) (out : Stripped .stored) (d : Document) : Document :=
  (site.rewritten out d).without site.partition

/-- What is told about the change. -/
def notices (site : RemovalSite) (out : Stripped .stored) : List Notice :=
  (if 0 < out.merged then [.mergedVertices out.merged] else []) ++
    [.removedVertices out.removed out.mesh.arrays.size] ++
    (if site.skin.isSome && 0 < out.dropped then [.prunedWeights out.dropped] else []) ++
    (site.partition.map Notice.partitionRemoved).toList

/-- **What the plan is when the checks pass**, up to the bones. -/
theorem plan_of_counted {site : RemovalSite} (hCounted : site.geometry.Counted)
    (hRange : site.mesh.InRange) (mergeDuplicates : Bool) :
    site.plan mergeDuplicates =
      match site.mesh.stripped mergeDuplicates with
      | none => .ok none
      | some out =>
        if site.skin.isSome then
          match Document.checkBones out.mesh.bones with
          | .error e => .error (.document e)
          | .ok _ => .ok (some out)
        else .ok (some out) := by
  have hStrip := (Mesh.strip_eq_ok_iff (m := site.mesh) hCounted.aligned
    (IndexType.stored_addresses _) mergeDuplicates _).2 ⟨hRange, rfl⟩
  rw [plan, (GeometryData.check_eq_ok_iff _).2 hCounted, hStrip]
  cases site.mesh.stripped mergeDuplicates <;> rfl

private theorem counted_of_plan {site : RemovalSite} {mergeDuplicates : Bool}
    {answer : Option (Stripped .stored)} (h : site.plan mergeDuplicates = .ok answer) :
    site.geometry.Counted ∧ site.mesh.InRange := by
  unfold plan at h
  cases hCheck : site.geometry.check with
  | error e =>
      rw [hCheck] at h
      cases h
  | ok u =>
      have hCounted := (GeometryData.check_eq_ok_iff _).1 hCheck
      refine ⟨hCounted, ?_⟩
      rw [hCheck] at h
      cases hStrip : site.mesh.strip mergeDuplicates with
      | error e =>
          rw [hStrip] at h
          cases h
      | ok answer =>
          exact ((Mesh.strip_eq_ok_iff (m := site.mesh) hCounted.aligned
            (IndexType.stored_addresses _) mergeDuplicates _).1 hStrip).1

/-- **When vertices are removed, and what becomes of the mesh.** -/
theorem plan_eq_ok_some_iff (site : RemovalSite) (mergeDuplicates : Bool)
    (out : Stripped .stored) :
    site.plan mergeDuplicates = .ok (some out) ↔
      site.geometry.Counted ∧ site.mesh.InRange ∧ site.mesh.stripped mergeDuplicates = some out ∧
        (site.skin.isSome → Document.BonesFit out.mesh.bones) := by
  constructor
  · intro h
    obtain ⟨hCounted, hRange⟩ := counted_of_plan h
    rw [plan_of_counted hCounted hRange] at h
    refine ⟨hCounted, hRange, ?_⟩
    cases hOut : site.mesh.stripped mergeDuplicates with
    | none =>
        rw [hOut] at h
        cases h
    | some out' =>
        rw [hOut] at h
        simp only at h
        by_cases hSkin : site.skin.isSome = true
        · rw [if_pos hSkin] at h
          by_cases hFit : Document.BonesFit out'.mesh.bones
          · rw [Document.checkBones_eq_ok hFit] at h
            cases h
            exact ⟨rfl, fun _ => hFit⟩
          · obtain ⟨count, _, hError⟩ := Document.checkBones_eq_error hFit
            rw [hError] at h
            cases h
        · rw [if_neg hSkin] at h
          cases h
          exact ⟨rfl, fun h => absurd h hSkin⟩
  · rintro ⟨hCounted, hRange, hOut, hFit⟩
    rw [plan_of_counted hCounted hRange, hOut]
    by_cases hSkin : site.skin.isSome = true
    · simp only [if_pos hSkin, Document.checkBones_eq_ok (hFit hSkin)]
    · simp only [if_neg hSkin]

/-- When there is nothing to remove. -/
theorem plan_eq_ok_none_iff (site : RemovalSite) (mergeDuplicates : Bool) :
    site.plan mergeDuplicates = .ok none ↔
      site.geometry.Counted ∧ site.mesh.InRange ∧ site.mesh.stripped mergeDuplicates = none := by
  constructor
  · intro h
    obtain ⟨hCounted, hRange⟩ := counted_of_plan h
    rw [plan_of_counted hCounted hRange] at h
    refine ⟨hCounted, hRange, ?_⟩
    cases hOut : site.mesh.stripped mergeDuplicates with
    | none => rfl
    | some out =>
        rw [hOut] at h
        simp only at h
        split at h
        · split at h <;> cases h
        · cases h
  · rintro ⟨hCounted, hRange, hOut⟩
    rw [plan_of_counted hCounted hRange, hOut]

/-- **Why no plan is made**: the channels do not pass their check, a reference is out of range, or
there are skin data and the weights that would be left cannot be declared. -/
theorem plan_eq_error_cases {site : RemovalSite} {mergeDuplicates : Bool} {e : Error}
    (h : site.plan mergeDuplicates = .error e) :
    site.geometry.check = .error e ∨ (∃ position count, e = .indexOutOfRange position count) ∨
      ∃ out refusal, site.geometry.Counted ∧ site.mesh.InRange ∧
        site.mesh.stripped mergeDuplicates = some out ∧ site.skin.isSome = true ∧
        Document.checkBones out.mesh.bones = .error refusal ∧ e = .document refusal := by
  cases hCheck : site.geometry.check with
  | error e' =>
      rw [plan, hCheck] at h
      cases h
      exact .inl rfl
  | ok u =>
      have hCounted := (GeometryData.check_eq_ok_iff _).1 hCheck
      refine .inr ?_
      cases hStrip : site.mesh.strip mergeDuplicates with
      | error e' =>
          have hUsed := Mesh.used_eq_error_of_strip hCounted.aligned
            (IndexType.stored_addresses _) hStrip
          obtain ⟨i, -, rfl⟩ := (usedVertices_eq_error_iff _ _ _ _).1 hUsed
          rw [plan, hCheck, hStrip] at h
          cases h
          exact .inl ⟨_, _, rfl⟩
      | ok answer =>
          obtain ⟨hRange, rfl⟩ := (Mesh.strip_eq_ok_iff (m := site.mesh) hCounted.aligned
            (IndexType.stored_addresses _) mergeDuplicates _).1 hStrip
          rw [plan_of_counted hCounted hRange] at h
          cases hOut : site.mesh.stripped mergeDuplicates with
          | none =>
              rw [hOut] at h
              cases h
          | some out =>
              rw [hOut] at h
              dsimp only at h
              split at h
              · next hSkin =>
                cases hBones : Document.checkBones out.mesh.bones with
                | ok u =>
                    rw [hBones] at h
                    cases h
                | error refusal =>
                    rw [hBones] at h
                    cases h
                    exact .inr ⟨out, refusal, hCounted, hRange, rfl, hSkin, hBones, rfl⟩
              · cases h

/-- There is nothing to make a plan of only if there is no vertex. -/
theorem size_eq_zero_of_plan {site : RemovalSite} {mergeDuplicates : Bool}
    (h : site.plan mergeDuplicates = .error .emptyInput) : site.geometry.arrays.size = 0 := by
  rcases plan_eq_error_cases h with hCheck | ⟨_, _, hRange⟩ | ⟨_, _, -, -, -, -, -, hBones⟩
  · exact GeometryData.size_eq_zero_of_check hCheck
  · cases hRange
  · cases hBones

/-- **What a plan makes of the mesh.** -/
theorem renumbered_of_plan {site : RemovalSite} {mergeDuplicates : Bool} {out : Stripped .stored}
    (h : site.plan mergeDuplicates = .ok (some out)) :
    Mesh.Renumbered site.mesh out.mesh (site.mesh.target mergeDuplicates)
      (site.mesh.kept mergeDuplicates) := by
  obtain ⟨hCounted, hRange, hOut, _⟩ := (plan_eq_ok_some_iff site mergeDuplicates out).1 h
  rw [((Mesh.stripped_eq_some_iff _ _ _).1 hOut).2]
  exact Mesh.renumbered_condensed hCounted.aligned (IndexType.stored_addresses _) hRange _

/-- **What a plan makes of the bones of the skin data.** -/
theorem keepsWeights_of_plan {site : RemovalSite} {mergeDuplicates : Bool}
    {out : Stripped .stored} (h : site.plan mergeDuplicates = .ok (some out)) {id : BlockId}
    {s : SkinData} (hSkin : site.skin = some (id, s)) :
    List.Forall₂ (BoneData.KeepsWeights (site.mesh.kept mergeDuplicates)) s.bones
      (out.mesh.bones.map BoneWeights.stored) := by
  obtain ⟨_, _, _, hFit⟩ := (plan_eq_ok_some_iff _ _ _).1 h
  have hFit := hFit (by rw [hSkin]; rfl)
  have hBones := (renumbered_of_plan h).bones
  rw [bones_mesh hSkin, List.forall₂_map_left_iff, List.forall₂_iff_zip] at hBones
  rw [List.forall₂_map_right_iff, List.forall₂_iff_zip]
  refine ⟨hBones.1, fun {old new} hPair => ?_⟩
  exact
    { weights := hBones.2 hPair
      declared := UInt16.toNat_ofNat_of_lt' (hFit new (List.of_mem_zip hPair).2) }

/-- What remains is no more than what was declared, so it can be declared again. -/
theorem size_lt_of_stripped {site : RemovalSite} (hCounted : site.geometry.Counted)
    {mergeDuplicates : Bool} {out : Stripped .stored}
    (hOut : site.mesh.stripped mergeDuplicates = some out) :
    out.mesh.arrays.size < UInt16.size := by
  obtain ⟨hLess, rfl⟩ := (Mesh.stripped_eq_some_iff _ _ _).1 hOut
  have hDeclared : site.geometry.numVertices.toNat = site.mesh.arrays.size := hCounted.declared
  have hNarrow := site.geometry.numVertices.toNat_lt_size
  rw [Mesh.size_condensed]
  omega

/-- What a plan counts. -/
structure Counts (site : RemovalSite) (mergeDuplicates : Bool) (out : Stripped .stored) : Prop where
  merged : out.merged = site.mesh.mergedCount mergeDuplicates
  removed : out.removed + (site.mesh.kept mergeDuplicates).length = site.geometry.arrays.size
  remaining : out.mesh.arrays.size = (site.mesh.kept mergeDuplicates).length
  someRemoved : 0 < out.removed

theorem counts_of_plan {site : RemovalSite} {mergeDuplicates : Bool} {out : Stripped .stored}
    (h : site.plan mergeDuplicates = .ok (some out)) : site.Counts mergeDuplicates out := by
  obtain ⟨_, _, hOut, _⟩ := (plan_eq_ok_some_iff site mergeDuplicates out).1 h
  obtain ⟨hLess, rfl⟩ := (Mesh.stripped_eq_some_iff _ _ _).1 hOut
  exact
    { merged := rfl
      removed := Nat.sub_add_cancel (Nat.le_of_lt hLess)
      remaining := Mesh.size_condensed _ _
      someRemoved := Nat.sub_pos_of_lt hLess }

/-! ## What is told -/

theorem removedVertices_mem_notices (site : RemovalSite) (out : Stripped .stored)
    (removed remaining : Nat) :
    .removedVertices removed remaining ∈ site.notices out ↔
      removed = out.removed ∧ remaining = out.mesh.arrays.size := by
  unfold notices
  by_cases hMerged : 0 < out.merged <;>
    by_cases hDropped : (site.skin.isSome && 0 < out.dropped) = true <;>
    simp [hMerged, hDropped]

theorem mergedVertices_mem_notices (site : RemovalSite) (out : Stripped .stored) (merged : Nat) :
    .mergedVertices merged ∈ site.notices out ↔ 0 < out.merged ∧ merged = out.merged := by
  unfold notices
  by_cases hMerged : 0 < out.merged <;>
    by_cases hDropped : (site.skin.isSome && 0 < out.dropped) = true <;>
    simp [hMerged, hDropped]

theorem partitionRemoved_mem_notices (site : RemovalSite) (out : Stripped .stored)
    (id : BlockId) :
    .partitionRemoved id ∈ site.notices out ↔ site.partition = some id := by
  unfold notices
  by_cases hMerged : 0 < out.merged <;>
    by_cases hDropped : (site.skin.isSome && 0 < out.dropped) = true <;>
    simp [hMerged, hDropped]

end RemovalSite

/-! ## The change -/

namespace RemovalSite

section Change

variable {site : RemovalSite} {d : Document} {out : Stripped .stored}

/-- The geometry and the skin data are of different kinds, and so they are different blocks. -/
theorem In.skin_ne_data (hSite : site.In d) {id : BlockId} {s : SkinData}
    (hSkin : site.skin = some (id, s)) : id ≠ site.data := by
  intro hEq
  have hGet := hSite.skinData id s hSkin
  rw [hEq, hSite.geometry] at hGet
  cases hGet

theorem get?_rewritten (hSite : site.In d) (id : BlockId) :
    (site.rewritten out d).get? id =
      if id = site.data then some (.geometry (site.geometry.withMesh out.mesh))
      else match site.skin with
        | some (skin, s) =>
          if id = skin then
            some (.skinData { s with bones := out.mesh.bones.map BoneWeights.stored })
          else d.get? id
        | none => d.get? id := by
  have hData := Document.contains_of_get? hSite.geometry
  unfold rewritten
  cases hSkin : site.skin with
  | none => exact Document.get?_replace hData id
  | some p =>
      obtain ⟨skin, s⟩ := p
      have hContains : (d.replace site.data
          (.geometry (site.geometry.withMesh out.mesh))).contains skin = true := by
        rw [Document.contains_replace hData]
        exact Document.contains_of_get? (hSite.skinData skin s hSkin)
      simp only
      rw [Document.get?_replace hContains, Document.get?_replace hData]
      by_cases hId : id = site.data
      · rw [if_neg (hId ▸ (hSite.skin_ne_data hSkin).symm), if_pos hId, if_pos hId]
      · rw [if_neg hId, if_neg hId]

/-- The partition of the site is a partition. -/
theorem In.get?_partition (hSite : site.In d) {id : BlockId}
    (hPartition : site.partition = some id) : ∃ p, d.get? id = some (.skinPartition p) := by
  have hFind := hSite.partition
  rw [hPartition, Option.bind_eq_some_iff] at hFind
  obtain ⟨shape, _, hFind⟩ := hFind
  obtain ⟨b, hGet, hb⟩ := Document.kind?_eq_some_iff.1 (Document.kind?_of_findPartition? hFind)
  cases b <;> cases hb
  exact ⟨_, hGet⟩

theorem get?_apply (site : RemovalSite) (out : Stripped .stored) (d : Document) (id : BlockId) :
    (site.apply out d).get? id =
      if site.partition = some id then none else (site.rewritten out d).get? id := by
  unfold apply
  cases site.partition with
  | none => rfl
  | some partition =>
      rw [Document.without, Document.get?_remove]
      by_cases hId : id = partition
      · rw [if_pos hId, if_pos (congrArg some hId.symm)]
      · rw [if_neg hId, if_neg (fun h => hId (Option.some.inj h).symm)]

/-- After the change the geometry has the new mesh. -/
theorem get?_apply_data (hSite : site.In d) :
    (site.apply out d).get? site.data =
      some (.geometry (site.geometry.withMesh out.mesh)) := by
  have hNe : site.partition ≠ some site.data := by
    intro hPartition
    obtain ⟨p, hGet⟩ := hSite.get?_partition hPartition
    rw [hSite.geometry] at hGet
    cases hGet
  rw [get?_apply, if_neg hNe, get?_rewritten hSite, if_pos rfl]

/-- After the change the skin data have the new weights. -/
theorem get?_apply_skin (hSite : site.In d) {id : BlockId} {s : SkinData}
    (hSkin : site.skin = some (id, s)) :
    (site.apply out d).get? id =
      some (.skinData { s with bones := out.mesh.bones.map BoneWeights.stored }) := by
  have hNe : site.partition ≠ some id := by
    intro hPartition
    obtain ⟨p, hGet⟩ := hSite.get?_partition hPartition
    rw [hSite.skinData id s hSkin] at hGet
    cases hGet
  rw [get?_apply, if_neg hNe, get?_rewritten hSite, if_neg (hSite.skin_ne_data hSkin), hSkin]
  exact if_pos rfl

/-- **What becomes of the skin data that the shape reaches.** -/
theorem exists_skinData_of_plan (hSite : site.In d) {mergeDuplicates : Bool}
    (hPlan : site.plan mergeDuplicates = .ok (some out)) {skin : BlockId}
    (hReached : site.shape.bind d.skinDataOf? = some skin) :
    ∃ old new, d.skinData skin = .ok old ∧ (site.apply out d).skinData skin = .ok new ∧
      List.Forall₂ (BoneData.KeepsWeights (site.mesh.kept mergeDuplicates)) old.bones
        new.bones := by
  rw [hSite.skin, Option.map_eq_some_iff] at hReached
  obtain ⟨⟨id, s⟩, hSkin, rfl⟩ := hReached
  refine ⟨s, { s with bones := out.mesh.bones.map BoneWeights.stored }, ?_, ?_,
    keepsWeights_of_plan hPlan hSkin⟩
  · exact (Document.skinData_eq_ok_iff _).2 (hSite.skinData id s hSkin)
  · exact (Document.skinData_eq_ok_iff _).2 (get?_apply_skin hSite hSkin)

/-- All other blocks stay as they are. -/
theorem get?_apply_other (hSite : site.In d) {id : BlockId} (hData : id ≠ site.data)
    (hSkin : ∀ s, site.skin ≠ some (id, s)) (hPartition : site.partition ≠ some id) :
    (site.apply out d).get? id = d.get? id := by
  rw [get?_apply, if_neg hPartition, get?_rewritten hSite, if_neg hData]
  split
  · rename_i skin s hSome
    rw [if_neg]
    intro hId
    exact hSkin s (by rw [hSome, hId])
  · rfl

/-- **What a block is after the change**: the geometry, the skin data, or what it was before. -/
theorem get?_apply_cases (hSite : site.In d) {id : BlockId} {b : Block}
    (h : (site.apply out d).get? id = some b) :
    (id = site.data ∧ b = .geometry (site.geometry.withMesh out.mesh)) ∨
      (∃ s, site.skin = some (id, s) ∧
        b = .skinData { s with bones := out.mesh.bones.map BoneWeights.stored }) ∨
      (id ≠ site.data ∧ (∀ s, site.skin ≠ some (id, s)) ∧ d.get? id = some b) := by
  by_cases hData : id = site.data
  · rw [hData, get?_apply_data hSite] at h
    exact .inl ⟨hData, (Option.some.inj h).symm⟩
  · by_cases hSkin : ∃ s, site.skin = some (id, s)
    · obtain ⟨s, hSkin⟩ := hSkin
      rw [get?_apply_skin hSite hSkin] at h
      exact .inr (.inl ⟨s, hSkin, (Option.some.inj h).symm⟩)
    · have hOther : ∀ s, site.skin ≠ some (id, s) := fun s hs => hSkin ⟨s, hs⟩
      have hPartition : site.partition ≠ some id := by
        intro hRemoved
        rw [get?_apply, if_pos hRemoved] at h
        cases h
      rw [get?_apply_other hSite hData hOther hPartition] at h
      exact .inr (.inr ⟨hData, hOther, h⟩)

/-- The change of the mesh and the weights keeps all links. -/
theorem wiring_rewritten (hSite : site.In d) : (site.rewritten out d).wiring = d.wiring := by
  have hMesh : (d.replace site.data (.geometry (site.geometry.withMesh out.mesh))).wiring =
      d.wiring := Document.wiring_replace hSite.geometry rfl
  unfold rewritten
  cases hSkin : site.skin with
  | none => exact hMesh
  | some p =>
      obtain ⟨skin, s⟩ := p
      have hGet : (d.replace site.data (.geometry (site.geometry.withMesh out.mesh))).get? skin =
          some (.skinData s) := by
        rw [Document.get?_replace (Document.contains_of_get? hSite.geometry),
          if_neg (hSite.skin_ne_data hSkin)]
        exact hSite.skinData skin s hSkin
      show ((d.replace site.data _).replace skin (.skinData _)).wiring = _
      rw [Document.wiring_replace hGet (by rfl), hMesh]

/-- The partition of the site is still one when it is removed. -/
private theorem kind?_rewritten (hSite : site.In d) {partition : BlockId}
    (hPartition : site.partition = some partition) :
    (site.rewritten out d).kind? partition = some .skinPartition := by
  obtain ⟨p, hGet⟩ := hSite.get?_partition hPartition
  rw [← Document.kind?_wiring, wiring_rewritten hSite, Document.kind?_wiring]
  exact Document.kind?_eq_some_iff.2 ⟨_, hGet, rfl⟩

/-! ### Links after the change -/

private theorem linked?_rewritten (hSite : site.In d) (l : Link) (id : BlockId) :
    (site.rewritten out d).linked? l id = d.linked? l id := by
  rw [← Document.linked?_wiring, wiring_rewritten hSite, Document.linked?_wiring]

/-- **A link leads where it did, unless that is the partition of the site.** -/
theorem linked?_apply (hSite : site.In d) (l : Link) (id : BlockId) :
    (site.apply out d).linked? l id = (d.linked? l id).filter (some · ≠ site.partition) := by
  unfold apply
  cases hPartition : site.partition with
  | none =>
      rw [Document.without, linked?_rewritten hSite]
      cases d.linked? l id <;> rfl
  | some partition =>
      rw [Document.without, Document.linked?_remove (kind?_rewritten hSite hPartition),
        linked?_rewritten hSite]
      simp only [ne_eq, Option.some.injEq]

/-- A link to something else than a partition leads where it did. -/
theorem linked?_apply_of_kind (hSite : site.In d) {l : Link} (hKind : l.kind ≠ .skinPartition)
    (id : BlockId) : (site.apply out d).linked? l id = d.linked? l id := by
  unfold apply
  cases hPartition : site.partition with
  | none => exact linked?_rewritten hSite l id
  | some partition =>
      rw [Document.without,
        Document.linked?_remove_of_kind (kind?_rewritten hSite hPartition) hKind,
        linked?_rewritten hSite]

theorem shapeData?_apply (hSite : site.In d) (id : BlockId) :
    (site.apply out d).shapeData? id = d.shapeData? id := by
  rw [Document.shapeData?_eq, Document.shapeData?_eq, linked?_apply_of_kind hSite (by decide)]

theorem skinInstance?_apply (hSite : site.In d) (id : BlockId) :
    (site.apply out d).skinInstance? id = d.skinInstance? id := by
  rw [Document.skinInstance?_eq, Document.skinInstance?_eq,
    linked?_apply_of_kind hSite (by decide)]

theorem skinData?_apply (hSite : site.In d) (id : BlockId) :
    (site.apply out d).skinData? id = d.skinData? id := by
  rw [Document.skinData?_eq, Document.skinData?_eq, linked?_apply_of_kind hSite (by decide)]

theorem skinDataOf?_apply (hSite : site.In d) (id : BlockId) :
    (site.apply out d).skinDataOf? id = d.skinDataOf? id := by
  have hData : (site.apply out d).skinData? = d.skinData? := funext (skinData?_apply hSite)
  rw [Document.skinDataOf?, skinInstance?_apply hSite, hData]
  rfl

/-- A skin instance links to the partition that it did, unless that is the one of the site. -/
theorem instancePartition?_apply (hSite : site.In d) (id : BlockId) :
    (site.apply out d).instancePartition? id =
      (d.instancePartition? id).filter (some · ≠ site.partition) := by
  rw [Document.instancePartition?_eq, Document.instancePartition?_eq, linked?_apply hSite]

/-- Skin data link to the partition that they did, unless that is the one of the site. -/
theorem dataPartition?_apply (hSite : site.In d) (id : BlockId) :
    (site.apply out d).dataPartition? id =
      (d.dataPartition? id).filter (some · ≠ site.partition) := by
  rw [Document.dataPartition?_eq, Document.dataPartition?_eq, linked?_apply hSite]

/-- What is there after the change was there before, but for the partition. -/
theorem contains_apply (hSite : site.In d) (id : BlockId) :
    (site.apply out d).contains id = (d.contains id && site.partition ≠ some id) := by
  have hWiring : (site.rewritten out d).contains id = d.contains id := by
    rw [← Document.contains_wiring, wiring_rewritten hSite, Document.contains_wiring]
  rw [Document.contains, get?_apply]
  by_cases hPartition : site.partition = some id
  · simp [hPartition]
  · rw [if_neg hPartition]
    simpa [hPartition, Document.contains] using hWiring

/-- A selection stands for the geometry that it stood for. -/
theorem selectedData?_apply (hSite : site.In d) (selection : Selection) :
    (site.apply out d).selectedData? selection = d.selectedData? selection := by
  have hRewritten : (site.rewritten out d).selectedData? selection =
      d.selectedData? selection := by
    rw [← Document.selectedData?_wiring, wiring_rewritten hSite, Document.selectedData?_wiring]
  unfold apply
  cases hPartition : site.partition with
  | none => exact hRewritten
  | some partition =>
      rw [Document.without, Document.selectedData?_remove (kind?_rewritten hSite hPartition),
        hRewritten]

end Change

end RemovalSite

namespace Edit

variable {w : Workspace}

/-- The arrays of a geometry are those that its check has passed. -/
theorem run_checkedArrays {data : BlockId} {g : GeometryData}
    (hGet : w.document.get? data = some (.geometry g)) :
    (checkedArrays data).run w = (g.check.map fun _ => g.arrays, w) := by
  rw [checkedArrays, run_bind_of_ok (run_read_of_ok (Document.vertexArrays_eq_ok hGet)),
    GeometryData.check]
  by_cases hEmpty : g.arrays.size = 0
  · rw [if_pos hEmpty, if_pos hEmpty]
    rfl
  · rw [if_neg hEmpty, if_neg hEmpty]
    dsimp only
    rw [run_bind_of_ok (run_read_of_ok (Document.declaredCount_eq_ok hGet))]
    by_cases hDeclared : g.numVertices.toNat = g.arrays.size
    · rw [if_neg (not_not_intro hDeclared), if_neg (not_not_intro hDeclared)]
      cases g.arrays.check <;> rfl
    · rw [if_pos hDeclared, if_pos hDeclared]
      rfl

/-! ### The edit in parts -/

/-- Reads the weights of some skin data, if there are any. -/
private def readBones (skin : Option BlockId) : Edit (List (BoneWeights .stored)) :=
  match skin with
  | some skin => Edit.read (·.bones skin)
  | none => pure []

/-- Writes a mesh to a geometry. -/
private def writeMesh (data : BlockId) (m : Mesh .stored) : Edit Unit := do
  Edit.write (·.setVertexArrays data m.arrays)
  Edit.write (·.setTriangles data m.triangles)
  Edit.write (·.setStrips data m.strips)

/-- Writes bones to some skin data, if there are any. -/
private def writeBones (skin : Option BlockId) (bones : List (BoneWeights .stored)) : Edit Unit :=
  match skin with
  | some skin => Edit.write (·.setBones skin bones)
  | none => pure ()

/-- Deletes the partition of a shape, if there is one. -/
private def removePartitionOf (shape : Option BlockId) : Edit (Option BlockId) :=
  match shape with
  | some shape => removePartition shape
  | none => pure none

/-- Everything that follows the decision. -/
private def carryOut (shape : Option BlockId) (data : BlockId) (skin : Option BlockId)
    (out : Stripped .stored) : Edit (List Notice) := do
  writeMesh data out.mesh
  writeBones skin out.mesh.bones
  let partition ← removePartitionOf shape
  return (if 0 < out.merged then [.mergedVertices out.merged] else [])
    ++ [.removedVertices out.removed out.mesh.arrays.size]
    ++ (if skin.isSome && 0 < out.dropped then [.prunedWeights out.dropped] else [])
    ++ (partition.map Notice.partitionRemoved).toList

private theorem stripVertices_eq (shape : Option BlockId) (data : BlockId)
    (mergeDuplicates : Bool) :
    stripVertices shape data mergeDuplicates = (do
      let arrays ← checkedArrays data
      let triangles ← Edit.read (·.triangles data)
      let strips ← Edit.read (·.strips data)
      let skin ← view fun d => shape.bind d.skinDataOf?
      let bones ← readBones skin
      let mesh : Mesh .stored := { arrays, triangles, strips, bones }
      let out ← attempt (mesh.strip mergeDuplicates)
      match out with
      | none => pure [.nothingToDo]
      | some out =>
        if skin.isSome then permit (Document.checkBones out.mesh.bones)
        carryOut shape data skin out) := by
  unfold stripVertices
  refine bind_congr fun arrays => bind_congr fun triangles => bind_congr fun strips =>
    bind_congr fun skin => ?_
  -- The branches on what there is come after the steps that follow them.
  cases skin
  all_goals
    refine bind_congr fun bones => bind_congr fun out => ?_
    cases out with
    | none => rfl
    | some out =>
        cases shape <;>
          simp only [carryOut, writeMesh, writeBones, removePartitionOf, bind_assoc, pure_bind]

private theorem run_readBones {site : RemovalSite} (hSite : site.In w.document) :
    (readBones (site.skin.map Prod.fst)).run w = (.ok site.bones, w) := by
  rw [RemovalSite.bones]
  cases hSkin : site.skin with
  | none => rfl
  | some p =>
      obtain ⟨id, s⟩ := p
      show (Edit.read (·.bones id)).run w = (.ok (s.bones.map BoneData.weights), w)
      exact run_read_of_ok (Document.bones_eq_ok (hSite.skinData id s hSkin))

private theorem run_writeMesh {data : BlockId} {g : GeometryData} {m : Mesh .stored}
    (hGet : w.document.get? data = some (.geometry g)) (hSize : m.arrays.size < UInt16.size) :
    (writeMesh data m).run w =
      (.ok (), { w with document := w.document.replace data (.geometry (g.withMesh m)) }) := by
  have hContains := Document.contains_of_get? hGet
  have hArrays := Document.setVertexArrays_eq_ok hGet hSize
  have hTriangles := Document.setTriangles_eq_ok
    (d := w.document.replace data (.geometry (g.withArrays m.arrays)))
    (by rw [Document.get?_replace hContains, if_pos rfl]) m.triangles
  rw [Document.replace_replace] at hTriangles
  have hStrips := Document.setStrips_eq_ok
    (d := w.document.replace data
      (.geometry { g.withArrays m.arrays with triangles := m.triangles }))
    (by rw [Document.get?_replace hContains, if_pos rfl]) m.strips
  rw [Document.replace_replace] at hStrips
  rw [writeMesh, run_bind_of_ok (run_write_of_ok hArrays),
    run_bind_of_ok (run_write_of_ok hTriangles), run_write_of_ok hStrips]
  rfl

private theorem run_removePartitionOf {shape partition : Option BlockId}
    (hPartition : shape.bind w.document.findPartition? = partition) :
    (removePartitionOf shape).run w =
      (.ok partition, { w with document := w.document.without partition }) := by
  cases shape with
  | none =>
      subst hPartition
      rfl
  | some shape =>
      rw [Option.bind_some] at hPartition
      rw [removePartitionOf, removePartition, run_bind_of_ok (run_view _ _), hPartition]
      cases partition with
      | none => rfl
      | some partition =>
          obtain ⟨b, hGet, _⟩ :=
            Document.kind?_eq_some_iff.1 (Document.kind?_of_findPartition? hPartition)
          have hRemove := Document.removeBlock_eq_ok (Document.contains_of_get? hGet)
          simp only
          rw [run_bind_of_ok (run_write_of_ok hRemove)]
          rfl

/-- **What is decided can be carried out**: no step fails, and this is what the steps leave. -/
private theorem run_carryOut {site : RemovalSite} (hSite : site.In w.document)
    {out : Stripped .stored} (hSize : out.mesh.arrays.size < UInt16.size)
    (hFit : site.skin.isSome → Document.BonesFit out.mesh.bones) :
    (carryOut site.shape site.data (site.skin.map Prod.fst) out).run w =
      (.ok (site.notices out), { w with document := site.apply out w.document }) := by
  let withMesh := w.document.replace site.data (.geometry (site.geometry.withMesh out.mesh))
  have hBones : (writeBones (site.skin.map Prod.fst) out.mesh.bones).run
      { w with document := withMesh } =
        (.ok (), { w with document := site.rewritten out w.document }) := by
    unfold RemovalSite.rewritten
    cases hSkin : site.skin with
    | none => rfl
    | some p =>
        obtain ⟨skin, s⟩ := p
        have hGet : withMesh.get? skin = some (.skinData s) := by
          rw [Document.get?_replace (Document.contains_of_get? hSite.geometry),
            if_neg (hSite.skin_ne_data hSkin)]
          exact hSite.skinData skin s hSkin
        exact run_write_of_ok (Document.setBones_eq_ok hGet (hFit (by rw [hSkin]; rfl)))
  have hPartition : site.shape.bind (site.rewritten out w.document).findPartition? =
      site.partition := by
    have hFind : (site.rewritten out w.document).findPartition? = w.document.findPartition? := by
      funext shape
      rw [← Document.findPartition?_wiring, RemovalSite.wiring_rewritten hSite,
        Document.findPartition?_wiring]
    rw [hFind]
    exact hSite.partition
  have hRemove := run_removePartitionOf
    (w := { w with document := site.rewritten out w.document }) hPartition
  rw [carryOut, run_bind_of_ok (run_writeMesh hSite.geometry hSize), run_bind_of_ok hBones,
    run_bind_of_ok hRemove, RemovalSite.apply, RemovalSite.notices, Option.isSome_map]
  rfl

/-- **The edit makes the plan and carries it out.** -/
theorem run_stripVertices {site : RemovalSite} (hSite : site.In w.document)
    (mergeDuplicates : Bool) :
    (stripVertices site.shape site.data mergeDuplicates).run w =
      match site.plan mergeDuplicates with
      | .error e => (.error e, w)
      | .ok none => (.ok [.nothingToDo], w)
      | .ok (some out) =>
        (.ok (site.notices out), { w with document := site.apply out w.document }) := by
  have hChecked := run_checkedArrays hSite.geometry
  rw [stripVertices_eq, RemovalSite.plan]
  cases hCheck : site.geometry.check with
  | error e =>
      rw [hCheck] at hChecked
      rw [run_bind_of_error hChecked]
  | ok u =>
      rw [hCheck] at hChecked
      rw [run_bind_of_ok hChecked,
        run_bind_of_ok (run_read_of_ok (Document.triangles_eq_ok hSite.geometry)),
        run_bind_of_ok (run_read_of_ok (Document.strips_eq_ok hSite.geometry)),
        run_bind_of_ok (run_view _ _), hSite.skin, run_bind_of_ok (run_readBones hSite)]
      have hCounted := (GeometryData.check_eq_ok_iff _).1 hCheck
      show (attempt (site.mesh.strip mergeDuplicates) >>= _).run w = _
      cases hStrip : site.mesh.strip mergeDuplicates with
      | error e => rw [run_bind_of_error (run_attempt_error e w)]
      | ok answer =>
          rw [run_bind_of_ok (run_attempt_ok answer w)]
          cases answer with
          | none => rfl
          | some out =>
              obtain ⟨hRange, hOut⟩ := (Mesh.strip_eq_ok_iff hCounted.aligned
                (IndexType.stored_addresses _) mergeDuplicates _).1 hStrip
              have hSize := RemovalSite.size_lt_of_stripped hCounted hOut.symm
              simp only [Option.isSome_map]
              by_cases hSkin : site.skin.isSome = true
              · rw [if_pos hSkin, if_pos hSkin]
                by_cases hFit : Document.BonesFit out.mesh.bones
                · rw [Document.checkBones_eq_ok hFit, run_bind_of_ok (run_permit_ok _ w)]
                  exact run_carryOut hSite hSize fun _ => hFit
                · obtain ⟨count, _, hError⟩ := Document.checkBones_eq_error hFit
                  rw [hError, run_bind_of_error (run_permit_error _ w)]
              · rw [if_neg hSkin, if_neg hSkin]
                exact run_carryOut hSite hSize fun h => absurd h hSkin

end Edit

end IndexedMesh
