import IndexedMesh.Proofs.Perform

/-!
# Skin partitions after a removal of vertices

A skin partition is derived from the layout of the vertices and cannot follow a removal, so the
partition of the shape is deleted, and a warning names it. The search for it stops at the first one:
a shape whose skin instance and skin data link to partitions of their own keeps the second, although
it is as stale as the first.

## Main results

* `Document.TwoPartitions` — the shapes for which one deletion is not enough.
* `NoStalePartition` — neither link of the shape leads to a partition.
* `removal_noStalePartition_iff` — a removal leaves no stale partition exactly if the shape does
  not have two, and otherwise leaves the one of the skin data.
-/

namespace IndexedMesh

/-- The skin instance of a shape and its skin data link to different partitions. -/
def Document.TwoPartitions (d : Document) (shape first second : BlockId) : Prop :=
  ∃ inst skin, d.skinInstance? shape = some inst ∧ d.skinData? inst = some skin ∧
    d.instancePartition? inst = some first ∧ d.dataPartition? skin = some second ∧ first ≠ second

/-- The shape has no partition: neither its skin instance nor its skin data link to one. -/
structure NoStalePartition (d : Document) (shape : BlockId) : Prop where
  noneFound : d.findPartition? shape = none
  ofInstance : ∀ inst, d.skinInstance? shape = some inst → d.instancePartition? inst = none
  ofData : ∀ skin, d.skinDataOf? shape = some skin → d.dataPartition? skin = none

/-- A shape has no partition if neither link leads to one. -/
theorem NoStalePartition.of_links {d : Document} {shape : BlockId}
    (ofInstance : ∀ inst, d.skinInstance? shape = some inst → d.instancePartition? inst = none)
    (ofData : ∀ skin, d.skinDataOf? shape = some skin → d.dataPartition? skin = none) :
    NoStalePartition d shape := by
  refine { noneFound := ?_, ofInstance := ofInstance, ofData := ofData }
  rw [Document.findPartition?, Option.bind_eq_none_iff]
  intro inst hInst
  rw [ofInstance inst hInst, Option.none_or, Option.bind_eq_none_iff]
  intro skin hSkin
  refine ofData skin ?_
  rw [Document.skinDataOf?, hInst]
  exact hSkin

namespace RemovalSite

variable {site : RemovalSite} {d : Document} {out : Stripped .stored} {shape inst skin : BlockId}

private theorem partition_eq (hSite : site.In d) (hShape : site.shape = some shape)
    (hInst : d.skinInstance? shape = some inst) :
    site.partition =
      (d.instancePartition? inst).or ((d.skinData? inst).bind d.dataPartition?) := by
  rw [← hSite.partition, hShape, Option.bind_some, Document.findPartition?, hInst]
  rfl

/-- The partition of the skin instance is the first to be found, so it is deleted. -/
private theorem instance_after (hSite : site.In d) (hShape : site.shape = some shape)
    (hInst : d.skinInstance? shape = some inst) :
    (site.apply out d).instancePartition? inst = none := by
  rw [instancePartition?_apply hSite, partition_eq hSite hShape hInst]
  cases d.instancePartition? inst with
  | none => rfl
  | some p => simp

/-- The partition of the skin data is deleted unless another one is found first. -/
private theorem data_after (hSite : site.In d) (hShape : site.shape = some shape)
    (hInst : d.skinInstance? shape = some inst) (hSkin : d.skinData? inst = some skin)
    (hOne : ∀ p q, ¬ d.TwoPartitions shape p q) :
    (site.apply out d).dataPartition? skin = none := by
  rw [dataPartition?_apply hSite, partition_eq hSite hShape hInst, hSkin, Option.bind_some]
  cases hData : d.dataPartition? skin with
  | none => rfl
  | some q =>
      cases hInstance : d.instancePartition? inst with
      | none => simp
      | some p =>
          by_cases hEq : p = q
          · subst hEq
            simp
          · exact absurd ⟨inst, skin, hInst, hSkin, hInstance, hData, hEq⟩ (hOne p q)

/-- **With two partitions the one of the skin data is left.** -/
theorem findPartition?_apply_of_two (hSite : site.In d) (hShape : site.shape = some shape)
    {p q : BlockId} (hTwo : d.TwoPartitions shape p q) :
    (site.apply out d).findPartition? shape = some q := by
  obtain ⟨inst, skin, hInst, hSkin, hInstance, hData, hNe⟩ := hTwo
  have hPartition : site.partition = some p := by
    rw [partition_eq hSite hShape hInst, hInstance]
    rfl
  rw [Document.findPartition?, skinInstance?_apply hSite, hInst, Option.bind_some,
    instance_after hSite hShape hInst, Option.none_or, skinData?_apply hSite, hSkin,
    Option.bind_some, dataPartition?_apply hSite, hPartition, hData]
  simp [Ne.symm hNe]

/-- **The shape of the site has no partition left exactly if it did not have two.** -/
theorem noStalePartition_apply_iff (hSite : site.In d) (hShape : site.shape = some shape) :
    NoStalePartition (site.apply out d) shape ↔ ∀ p q, ¬ d.TwoPartitions shape p q := by
  constructor
  · intro hNone p q hTwo
    have hLeft := hNone.noneFound
    rw [findPartition?_apply_of_two hSite hShape hTwo] at hLeft
    cases hLeft
  · intro hOne
    refine NoStalePartition.of_links ?_ ?_
    · intro inst hInst
      rw [skinInstance?_apply hSite] at hInst
      exact instance_after hSite hShape hInst
    · intro skin hReached
      rw [skinDataOf?_apply hSite, Document.skinDataOf?, Option.bind_eq_some_iff] at hReached
      obtain ⟨inst, hInst, hSkin⟩ := hReached
      exact data_after hSite hShape hInst hSkin hOne

/-- The warnings name the blocks that are gone. -/
theorem partitionRemoved_mem_warnings_iff (hSite : site.In d) (p : BlockId) :
    .partitionRemoved p ∈ (Outcome.mk (site.notices out)).warnings ↔
      d.contains p = true ∧ (site.apply out d).contains p = false := by
  have hWarning : .partitionRemoved p ∈ (Outcome.mk (site.notices out)).warnings ↔
      .partitionRemoved p ∈ site.notices out := by
    simp [Outcome.warnings, Notice.isWarning]
  rw [hWarning, partitionRemoved_mem_notices, contains_apply hSite]
  constructor
  · intro hPartition
    obtain ⟨b, hGet⟩ := hSite.get?_partition hPartition
    refine ⟨Document.contains_of_get? hGet, ?_⟩
    simp [hPartition]
  · rintro ⟨hBefore, hAfter⟩
    simpa [hBefore] using hAfter

end RemovalSite

variable {w w' : Workspace} {op : Operation} {selection : Selection} {mode : Nat}
  {outcome : Outcome} {removed remaining : Nat} {shape : Option BlockId} {data : BlockId}

/-- **A removal of vertices leaves no stale partition, except where the shape has two.** The
warnings name what was deleted in any case, and of two partitions the one of the skin data is
left. -/
theorem removal_noStalePartition_iff (hOp : op = .removeUnused ∨ op = .removeDuplicates)
    (hRun : (op.perform selection mode).run w = (.ok outcome, w'))
    (hRemoved : .removedVertices removed remaining ∈ outcome.notices)
    (hSelected : w.document.selectedData? selection = some (shape, data)) :
    (∀ p, .partitionRemoved p ∈ outcome.warnings ↔
      w.document.contains p = true ∧ w'.document.contains p = false) ∧
    ∀ s, shape = some s →
      (NoStalePartition w'.document s ↔ ∀ p q, ¬ w.document.TwoPartitions s p q) ∧
      ∀ p q, w.document.TwoPartitions s p q → w'.document.findPartition? s = some q := by
  obtain ⟨mergeDuplicates, rfl⟩ : ∃ mergeDuplicates, op = .removal mergeDuplicates := by
    rcases hOp with rfl | rfl
    · exact ⟨false, rfl⟩
    · exact ⟨true, rfl⟩
  rcases Operation.removal_ok_cases hRun with
    ⟨hOutcome, _⟩ | ⟨site, out, hSite, hSiteSelected, _, hOutcome, hAfter⟩
  · rw [hOutcome] at hRemoved
    cases hRemoved with
    | tail _ h => cases h
  · subst hOutcome hAfter
    rw [hSelected] at hSiteSelected
    cases hSiteSelected
    refine ⟨RemovalSite.partitionRemoved_mem_warnings_iff hSite, fun s hShape => ⟨?_, ?_⟩⟩
    · exact RemovalSite.noStalePartition_apply_iff hSite hShape
    · exact fun p q hTwo => RemovalSite.findPartition?_apply_of_two hSite hShape hTwo

/-- A skinned triangle with a loose vertex. Its skin instance links to the partition `#4`, and its
skin data to a partition of choice. -/
def skinnedTriangle (second : BlockId) : Workspace where
  document := { slots := #[
    some (.shape { data := some ⟨1⟩, skinInstance := some ⟨2⟩ }),
    some (.geometry {
      numVertices := 4
      vertices := #[⟨0, 0, 0⟩, ⟨1, 0, 0⟩, ⟨0, 1, 0⟩, ⟨9, 9, 9⟩]
      triangles := [⟨.ofPosition 0, .ofPosition 1, .ofPosition 2⟩] }),
    some (.skinInstance { data := some ⟨3⟩, partition := some ⟨4⟩ }),
    some (.skinData { partition := some second }),
    some (.skinPartition {}), some (.skinPartition {})] }

/-- If both links lead to one partition, none is left. -/
theorem removal_noStalePartition_skinnedTriangle :
    NoStalePartition
      ((Operation.removeUnused.perform (some ⟨0⟩) 0).run (skinnedTriangle ⟨4⟩)).2.document ⟨0⟩ := by
  have hRun : (Operation.removeUnused.perform (some ⟨0⟩) 0).run (skinnedTriangle ⟨4⟩) =
      (.ok ⟨[.removedVertices 1 3, .partitionRemoved ⟨4⟩]⟩,
        ((Operation.removeUnused.perform (some ⟨0⟩) 0).run (skinnedTriangle ⟨4⟩)).2) :=
    Prod.ext (by decide +kernel) rfl
  have hIff := ((removal_noStalePartition_iff (.inl rfl) hRun List.mem_cons_self rfl).2 ⟨0⟩ rfl).1
  refine hIff.2 ?_
  rintro p q ⟨inst, skin, hInst, hSkin, hFirst, hSecond, hNe⟩
  obtain rfl : ⟨2⟩ = inst := Option.some.inj hInst
  obtain rfl : ⟨3⟩ = skin := Option.some.inj hSkin
  exact hNe (Option.some.inj (hFirst.symm.trans hSecond))

/-- If the links lead to different partitions, the second one is left. -/
theorem removal_leaves_partition_skinnedTriangle :
    ∃ w', (Operation.removeUnused.perform (some ⟨0⟩) 0).run (skinnedTriangle ⟨5⟩) =
        (.ok ⟨[.removedVertices 1 3, .partitionRemoved ⟨4⟩]⟩, w') ∧
      ¬ NoStalePartition w'.document ⟨0⟩ := by
  refine ⟨_, Prod.ext (by decide +kernel) rfl, fun hNone => ?_⟩
  have hLeft : ((Operation.removeUnused.perform (some ⟨0⟩) 0).run
      (skinnedTriangle ⟨5⟩)).2.document.findPartition? ⟨0⟩ = some ⟨5⟩ := by
    decide +kernel
  have hNoneFound := hNone.noneFound
  rw [hLeft] at hNoneFound
  cases hNoneFound

end IndexedMesh
