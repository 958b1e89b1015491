import IndexedMesh.Proofs.Composition
import IndexedMesh.Proofs.Consistency
import IndexedMesh.Proofs.Footprint
import IndexedMesh.Proofs.OrderedSelection
import IndexedMesh.Proofs.Pruning

/-!
# Why operations fail

An operation may meet any document: links that lead nowhere or to a block of another kind, declared
counts and channels that do not agree, references out of range. It fails on some of them, for a
reason that can be told of the document. It does not fail by asking the document for a block that is
not there or is of another kind, nor by an access past the end of an array. All the accesses by
number are partial, and `Error.outOfBounds` is what a wrong one comes to: entries of the channels,
flags of used vertices, new indices of duplicates, candidates of a matching and the flags of those
that are claimed, records that are pasted.

Only one refusal of the document gets through. A bone declares its number of weights in 16 bits, so
a removal of vertices fails if more weights than that remain on some bone. The declared number of
vertices cannot fail in this way, because it has been checked against the arrays and only becomes
smaller.

## Main results

* `Document.BonesOverflow` — too many weights remain on some bone.
* `RemovalSite.plan_error_cases` — why a removal is not carried out.
* `Operation.perform_error_cases` — **why an operation fails.**
-/

namespace IndexedMesh

/-! ## Weights that remain -/

/-- The vertices that a removal leaves: those that references are sent to. -/
def GeometryData.remainingVertices (g : GeometryData) (mergeDuplicates : Bool) : Finset Nat :=
  ((references g.triangles g.strips).map fun i =>
    if mergeDuplicates then g.arrays.representative i.position else i.position).toFinset

/-- How many weights of a bone are on vertices that a removal leaves. -/
def GeometryData.remainingWeights (g : GeometryData) (mergeDuplicates : Bool) (bone : BoneData) :
    Nat :=
  bone.vertexWeights.countP (·.index.position ∈ g.remainingVertices mergeDuplicates)

/-- **Too many weights remain on some bone.** The selected geometry passes the checks of its
channels and of its references, not all of its vertices remain, its shape reaches skin data, and the
first bone that keeps more weights than can be declared keeps `count` of them. -/
def Document.BonesOverflow (d : Document) (selection : Selection) (mergeDuplicates : Bool)
    (count : Nat) : Prop :=
  ∃ shape data g skin s,
    d.selectedData? selection = some (some shape, data) ∧ d.geometry data = .ok g ∧ g.Counted ∧
      (∀ i ∈ references g.triangles g.strips, i.position < g.vertices.size) ∧
      (g.remainingVertices mergeDuplicates).card < g.vertices.size ∧
      d.skinDataOf? shape = some skin ∧ d.skinData skin = .ok s ∧
      (s.bones.map (g.remainingWeights mergeDuplicates)).find? (65535 < ·) = some count

/-- The weights that remain on each bone are the ones on the vertices that are kept. -/
theorem Mesh.Renumbered.length_weights {t : IndexType} {before after : Mesh t}
    {target : Nat → Nat} {kept : List Nat} (h : Renumbered before after target kept) :
    after.bones.map (·.weights.length) =
      before.bones.map fun bone => bone.weights.countP (·.index.position ∈ kept) := by
  refine map_eq_map_of_forall₂ h.bones fun old new hWeights => ?_
  rw [List.countP_eq_length_filter]
  exact hWeights.length_eq.symm

/-- The check of bones fails with the first one that has too many weights. -/
theorem Document.checkBones_eq_error_iff (bones : List (BoneWeights .stored))
    (refusal : DocumentError) :
    checkBones bones = .error refusal ↔
      ∃ count, (bones.map (·.weights.length)).find? (65535 < ·) = some count ∧
        refusal = .overflow boneCountField count := by
  have hFind : (bones.map (·.weights.length)).find? (65535 < ·) =
      (bones.find? (UInt16.size ≤ ·.weights.length)).map (·.weights.length) := List.find?_map
  rw [hFind, checkBones, storedBones_eq]
  cases bones.find? (UInt16.size ≤ ·.weights.length) with
  | none => simp [bind, Except.bind, pure, Except.pure]
  | some bone => simp [bind, Except.bind, eq_comm]

/-! ## Why a removal is not carried out -/

namespace RemovalSite

variable {site : RemovalSite} {mergeDuplicates : Bool}

theorem mem_kept_iff (hRange : site.mesh.InRange) (p : Nat) :
    p ∈ site.mesh.kept mergeDuplicates ↔
      p ∈ site.geometry.remainingVertices mergeDuplicates := by
  rw [Mesh.mem_kept_iff (IndexType.stored_addresses _) hRange, GeometryData.remainingVertices,
    List.mem_toFinset, List.mem_map]
  rfl

/-- What remains on the bones of the skin data. -/
theorem length_weights_of_stripped (hCounted : site.geometry.Counted)
    (hRange : site.mesh.InRange) {out : Stripped .stored}
    (hOut : site.mesh.stripped mergeDuplicates = some out) {skin : BlockId} {s : SkinData}
    (hSkin : site.skin = some (skin, s)) :
    out.mesh.bones.map (·.weights.length) =
      s.bones.map (site.geometry.remainingWeights mergeDuplicates) := by
  obtain ⟨-, rfl⟩ := (Mesh.stripped_eq_some_iff _ _ _).1 hOut
  have hMesh := Mesh.renumbered_condensed (m := site.mesh) hCounted.aligned
    (IndexType.stored_addresses _) hRange mergeDuplicates
  rw [hMesh.length_weights, bones_mesh hSkin, List.map_map]
  refine List.map_congr_left fun bone _ => List.countP_congr fun v _ => ?_
  simp only [decide_eq_true_eq]
  exact mem_kept_iff hRange _

/-- The bones of the site keep too many weights. -/
structure Overflows (site : RemovalSite) (mergeDuplicates : Bool) (count : Nat) : Prop where
  counted : site.geometry.Counted
  inRange : site.mesh.InRange
  someRemoved : (site.geometry.remainingVertices mergeDuplicates).card < site.geometry.vertices.size
  bones : ∃ skin s, site.skin = some (skin, s) ∧
    (s.bones.map (site.geometry.remainingWeights mergeDuplicates)).find? (65535 < ·) = some count

/-- As many vertices are kept as remain. -/
theorem length_kept_eq_card (hRange : site.mesh.InRange) :
    (site.mesh.kept mergeDuplicates).length =
      (site.geometry.remainingVertices mergeDuplicates).card :=
  Mesh.length_kept (IndexType.stored_addresses _) hRange mergeDuplicates

/-- Bones that keep too many weights are refused. -/
theorem plan_eq_overflow {count : Nat} (h : site.Overflows mergeDuplicates count) :
    site.plan mergeDuplicates = .error (.document (.overflow boneCountField count)) := by
  obtain ⟨skin, s, hSkin, hCount⟩ := h.bones
  have hLess : (site.mesh.kept mergeDuplicates).length < site.mesh.arrays.size := by
    rw [length_kept_eq_card h.inRange]
    exact h.someRemoved
  have hOut := (Mesh.stripped_eq_some_iff site.mesh mergeDuplicates _).2 ⟨hLess, rfl⟩
  have hBones := (Document.checkBones_eq_error_iff _ _).2
    ⟨count, (length_weights_of_stripped h.counted h.inRange hOut hSkin).symm ▸ hCount, rfl⟩
  rw [plan_of_counted h.counted h.inRange, hOut]
  dsimp only
  rw [if_pos (by rw [hSkin]; rfl), hBones]

/-- **Why a removal is not carried out**: for a plain reason, or because of the bones. -/
theorem plan_error_cases {e : Error} (h : site.plan mergeDuplicates = .error e) :
    e.IsPlain = true ∨ ∃ count, e = .document (.overflow boneCountField count) ∧
      site.Overflows mergeDuplicates count := by
  rcases plan_eq_error_cases h with
    hCheck | ⟨position, size, rfl⟩ | ⟨out, refusal, hCounted, hRange, hOut, hSome, hBones, rfl⟩
  · exact .inl (GeometryData.isPlain_of_check hCheck)
  · exact .inl rfl
  · obtain ⟨⟨skin, s⟩, hSkin⟩ := Option.isSome_iff_exists.1 hSome
    obtain ⟨count, hCount, rfl⟩ := (Document.checkBones_eq_error_iff _ _).1 hBones
    have hLess := ((Mesh.stripped_eq_some_iff _ _ _).1 hOut).1
    rw [length_kept_eq_card hRange] at hLess
    rw [length_weights_of_stripped hCounted hRange hOut hSkin] at hCount
    exact .inr ⟨count, rfl,
      { counted := hCounted
        inRange := hRange
        someRemoved := hLess
        bones := ⟨skin, s, hSkin, hCount⟩ }⟩

/-- The bones of the selected site overflow exactly if the document says so. -/
theorem overflows_iff {d : Document} {selection : Selection} (hSite : site.In d)
    (hSelected : d.selectedData? selection = some (site.shape, site.data)) (count : Nat) :
    site.Overflows mergeDuplicates count ↔ d.BonesOverflow selection mergeDuplicates count := by
  have hGeometry := (Document.geometry_eq_ok_iff _).2 hSite.geometry
  constructor
  · intro h
    obtain ⟨skin, s, hSkin, hCount⟩ := h.bones
    have hReach := hSite.skin
    rw [hSkin, Option.map_some, Option.bind_eq_some_iff] at hReach
    obtain ⟨shape, hShape, hReach⟩ := hReach
    exact ⟨shape, site.data, site.geometry, skin, s, hShape ▸ hSelected, hGeometry, h.counted,
      h.inRange, h.someRemoved, hReach,
      (Document.skinData_eq_ok_iff _).2 (hSite.skinData skin s hSkin), hCount⟩
  · rintro ⟨shape, data, g, skin, s, hData, hg, hCounted, hRange, hRemoved, hReach, hs, hCount⟩
    obtain ⟨hShape, rfl⟩ := Prod.mk.inj (Option.some.inj (hSelected.symm.trans hData))
    cases hGeometry.symm.trans hg
    have hSkin := hSite.skin
    rw [hShape, Option.bind_some, hReach] at hSkin
    obtain ⟨⟨skin', s'⟩, hSome, rfl⟩ := Option.map_eq_some_iff.1 hSkin.symm
    cases ((Document.skinData_eq_ok_iff _).2 (hSite.skinData _ _ hSome)).symm.trans hs
    exact
      { counted := hCounted
        inRange := hRange
        someRemoved := hRemoved
        bones := ⟨_, _, hSome, hCount⟩ }

end RemovalSite

/-! ## Why an operation fails -/

/-- An edit that settles fails for plain reasons alone. -/
theorem Edit.Settles.isPlain {w : Workspace} {run : Except Error (List Notice) × Workspace}
    {e : Error} (hSettles : Edit.Settles w (fun _ _ _ => True) run) (h : run.1 = .error e) :
    e.IsPlain = true := by
  cases hSettles with
  | failed hPlain =>
      cases h
      exact hPlain
  | unchanged => cases h
  | put => cases h

namespace Operation

variable {op : Operation} {selection : Selection} {mode : Nat} {w : Workspace} {e : Error}

/-- An operation that fails for no plain reason has come to its edit, which has failed so. -/
theorem edit_of_perform_error (h : ((op.perform selection mode).run w).1 = .error e) :
    e.IsPlain = true ∨ (op.applies w.document selection = true ∧ mode < op.modeCount ∧
      ((op.edit selection mode).run w).1 = .error e) := by
  rw [run_perform] at h
  split at h
  · cases h
    exact .inl rfl
  · next hApplies =>
    split at h
    · cases h
      exact .inl rfl
    · next hMode =>
      rcases hEdit : (op.edit selection mode).run w with ⟨r, w₁⟩
      rw [hEdit] at h
      cases r with
      | ok notices => cases h
      | error e' =>
          refine .inr ⟨by simpa using hApplies, by omega, ?_⟩
          cases e' <;> cases h <;> rfl

/-- An error of an edit is the error of the operation, unless there was nothing to work on. -/
theorem perform_error_of_edit (hApplies : op.applies w.document selection = true)
    (hMode : mode < op.modeCount) (hEdit : ((op.edit selection mode).run w).1 = .error e)
    (hInput : e ≠ .emptyInput) : ((op.perform selection mode).run w).1 = .error e := by
  rw [run_perform, if_neg (by simp [hApplies]), if_neg (by omega)]
  rcases hRun : (op.edit selection mode).run w with ⟨r, w₁⟩
  rw [hRun] at hEdit
  cases hEdit
  cases e <;> first | rfl | exact absurd rfl hInput

/-- An edit that does not remove vertices fails for plain reasons alone, whatever it would write. -/
theorem isPlain_of_edit (hOp : ∀ mergeDuplicates, op ≠ removal mergeDuplicates)
    (h : ((op.edit selection mode).run w).1 = .error e) : e.IsPlain = true := by
  cases op with
  | removeUnused => exact absurd rfl (hOp false)
  | removeDuplicates => exact absurd rfl (hOp true)
  | updateCenter => exact (Edit.settles_updateCenter fun _ _ => trivial).isPlain h
  | updateBounds => exact (Edit.settles_updateBounds fun _ _ => trivial).isPlain h
  | updateAllBounds =>
      rcases Edit.updateAllBounds_cases w with hRun | ⟨notices, w', hRun, -⟩
      · rw [edit, hRun] at h
        cases h
        rfl
      · rw [edit, hRun] at h
        cases h
  | flipUv => exact (Edit.settles_flipUv (fun _ => trivial) fun _ => trivial).isPlain h
  | flipFaces => exact (Edit.settles_flipFaces fun _ => trivial).isPlain h
  | pruneTriangles => exact (Edit.settles_pruneTriangles fun _ => trivial).isPlain h
  | copyVertexData =>
      rcases Edit.copyVertexData_cases selection w with ⟨e', hRun, hPlain⟩ | ⟨_, _, hRun⟩
      · rw [edit, hRun] at h
        cases h
        exact hPlain
      · rw [edit, hRun] at h
        cases h
  | pasteVertexData =>
      exact (Edit.settles_pasteVertexData fun _ _ _ _ => trivial).isPlain h

/-- **Why an operation fails**: for a plain reason, or because a removal of vertices leaves too many
weights on a bone. -/
theorem perform_error_cases (h : ((op.perform selection mode).run w).1 = .error e) :
    e.IsPlain = true ∨ ∃ mergeDuplicates count, op = removal mergeDuplicates ∧ mode = 0 ∧
      e = .document (.overflow boneCountField count) ∧
        w.document.BonesOverflow selection mergeDuplicates count := by
  rcases edit_of_perform_error h with hPlain | ⟨hApplies, hMode, hEdit⟩
  · exact .inl hPlain
  · by_cases hOp : ∃ mergeDuplicates, op = removal mergeDuplicates
    · obtain ⟨mergeDuplicates, rfl⟩ := hOp
      obtain ⟨site, hSite, hSelected⟩ := (applies_removal_iff _ _).1 hApplies
      rw [run_edit_removal hSite hSelected] at hEdit
      split at hEdit
      · next hPlan =>
        cases hEdit
        rcases RemovalSite.plan_error_cases hPlan with hPlain | ⟨count, rfl, hOverflows⟩
        · exact .inl hPlain
        · rw [modeCount_removal] at hMode
          exact .inr ⟨mergeDuplicates, count, rfl, by omega, rfl,
            (RemovalSite.overflows_iff hSite hSelected count).1 hOverflows⟩
      · cases hEdit
      · cases hEdit
    · exact .inl (isPlain_of_edit (fun mergeDuplicates hEq => hOp ⟨mergeDuplicates, hEq⟩) hEdit)

/-- Too many weights on a bone make a removal fail. -/
theorem perform_of_bonesOverflow {mergeDuplicates : Bool} {count : Nat}
    (h : w.document.BonesOverflow selection mergeDuplicates count) :
    (((removal mergeDuplicates).perform selection 0).run w).1 =
      .error (.document (.overflow boneCountField count)) := by
  obtain ⟨shape, data, g, skin, s, hData, hg, -⟩ := id h
  obtain ⟨site, hShape, rfl, -, hSite⟩ := RemovalSite.exists_in (some shape)
    ((Document.geometry_eq_ok_iff _).1 hg)
  rw [← hShape] at hData
  have hApplies := (applies_removal_iff w.document mergeDuplicates).2 ⟨site, hSite, hData⟩
  refine perform_error_of_edit hApplies (by rw [modeCount_removal]; decide) ?_ nofun
  rw [run_edit_removal hSite hData,
    RemovalSite.plan_eq_overflow ((RemovalSite.overflows_iff hSite hData count).2 h)]

end Operation

/-! ## Subtractions -/

/-- What a compaction removes is what it does not keep. -/
theorem size_add_removed {t : IndexType} {arrays : VertexArrays} {keep : VertexSet}
    {c : Compaction t} (h : compact arrays keep = .ok c) :
    c.arrays.size + c.removed = c.renumbering.domainSize := by
  obtain ⟨hAligned, hSize, rfl⟩ := (compact_eq_ok_iff arrays keep c).1 h
  have hSelects := Compaction.selects_ofKept (t := t) hAligned hSize
  rw [hSelects.size, hSelects.removed, VertexSet.count_true_add_count_false,
    Renumbering.domainSize_ofKept]

/-! ## Safety -/

/-- **No operation goes wrong, on any document.** Whatever the document, the clipboard, the
selection and the mode are, an operation does not read an entry or set a flag or a new index past
the end of an array, and the document does not refuse it a block that is missing or of another kind.
The document refuses a count that cannot be declared only if it is that of a bone, and exactly if a
removal of vertices has passed its checks, would remove vertices, and would leave too many weights
on that bone; the declared number of vertices can always be written. Where operations subtract, it
is a part that is taken from the whole: what is left and what is taken away add up. -/
theorem Operation.perform_safe (op : Operation) (selection : Selection) (mode : Nat)
    (w : Workspace) :
    let result := ((op.perform selection mode).run w).1
    (result ≠ .error .outOfBounds ∧
      (∀ id, result ≠ .error (.document (.missingBlock id))) ∧
      (∀ id expected found, result ≠ .error (.document (.wrongKind id expected found))) ∧
      ∀ count, result ≠ .error (.document (.overflow vertexCountField count))) ∧
    (∀ field count, result = .error (.document (.overflow field count)) ↔
      ∃ mergeDuplicates, op = removal mergeDuplicates ∧ mode = 0 ∧ field = boneCountField ∧
        w.document.BonesOverflow selection mergeDuplicates count) ∧
    (∀ triangles : List (Triangle .stored),
      (prune triangles).kept.length + (prune triangles).duplicate + (prune triangles).degenerate =
        triangles.length) ∧
    (∀ (arrays : VertexArrays) (keep : VertexSet) (c : Compaction .stored),
      compact arrays keep = .ok c → c.arrays.size + c.removed = c.renumbering.domainSize) ∧
    ∀ (m : Renumbering .stored) (bones : List (BoneWeights .stored)),
      ((m.bones bones).map (·.weights.length)).sum + m.dropped bones =
        (bones.map (·.weights.length)).sum := by
  intro result
  have hCases : ∀ e, result = .error e → e.IsPlain = true ∨ ∃ mergeDuplicates count,
      op = removal mergeDuplicates ∧ mode = 0 ∧
        e = .document (.overflow boneCountField count) ∧
          w.document.BonesOverflow selection mergeDuplicates count := fun e => perform_error_cases
  -- What is neither plain nor about bones is never the result.
  have hNever : ∀ e, e.IsPlain = false →
      (∀ count, e ≠ .document (.overflow boneCountField count)) → result ≠ .error e := by
    intro e hNotPlain hNotBones h
    rcases hCases e h with hPlain | ⟨_, count, _, _, hBones, _⟩
    · exact absurd (hPlain.symm.trans hNotPlain) (by decide)
    · exact hNotBones count hBones
  have hFields : ∀ found count, Error.document (.overflow vertexCountField found) ≠
      .document (.overflow boneCountField count) := by
    intro found count h
    injection h with hRefusal
    injection hRefusal with hField
    exact absurd hField (by decide)
  refine ⟨⟨hNever _ rfl nofun, fun id => hNever _ rfl nofun,
    fun id expected found => hNever _ rfl nofun, fun found => hNever _ rfl (hFields found)⟩,
    fun field count => ⟨fun h => ?_, ?_⟩, length_kept_add_dropped, fun _ _ _ => size_add_removed,
    length_weights_add_dropped⟩
  · rcases hCases _ h with hPlain | ⟨mergeDuplicates, _, hOp, hMode, hError, hOverflow⟩
    · cases hPlain
    · cases hError
      exact ⟨mergeDuplicates, hOp, hMode, rfl, hOverflow⟩
  · rintro ⟨mergeDuplicates, rfl, rfl, rfl, hOverflow⟩
    exact perform_of_bonesOverflow hOverflow

/-- A bone that holds one vertex far too often. -/
def heavyBone : BoneData := ⟨0, List.replicate 65536 ⟨.ofPosition 0, 1⟩⟩

/-- A triangle with a loose vertex, and a shape that such a bone moves. -/
def heavyTriangle : Workspace where
  document := { slots := #[
    some (.shape { data := some ⟨1⟩, skinInstance := some ⟨2⟩ }), some (.geometry looseTriangle),
    some (.skinInstance { data := some ⟨3⟩ }), some (.skinData { bones := [heavyBone] })] }

/-- The weights of the bone are too many to be declared. -/
theorem perform_safe_heavyTriangle :
    ((Operation.removeUnused.perform (some ⟨0⟩) 0).run heavyTriangle).1 =
      .error (.document (.overflow boneCountField 65536)) := by
  have hSafe := Operation.perform_safe .removeUnused (some ⟨0⟩) 0 heavyTriangle
  have hWeights : looseTriangle.remainingWeights false heavyBone = 65536 := by
    rw [GeometryData.remainingWeights, heavyBone, List.countP_replicate, if_pos (by decide)]
  refine (hSafe.2.1 boneCountField 65536).2 ⟨false, rfl, rfl, rfl, ⟨0⟩, ⟨1⟩, looseTriangle, ⟨3⟩,
    { bones := [heavyBone] }, rfl, rfl, (GeometryData.check_eq_ok_iff _).1 rfl, by decide,
    by decide, rfl, rfl, ?_⟩
  rw [List.map_singleton, hWeights]
  rfl

end IndexedMesh
