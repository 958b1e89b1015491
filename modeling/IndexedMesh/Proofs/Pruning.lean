import IndexedMesh.Proofs.EditRuns
import IndexedMesh.Proofs.Perform

/-!
# What pruning keeps

By its definition, pruning keeps a triangle if it has an area and no triangle with an area before it
is the same face. It does not compare triangles in pairs, though. It turns each to begin with its
least corner and looks that rotation up among those that it has met. Rotations of one triangle agree
there only because a triangle with an area has a single least corner, so the triangles without one
have to be gone before the first look.

## Main results

* `Triangle.sameFace_iff_canonical` — for triangles with an area, the rotation that begins with the
  least corner tells faces apart.
* `firstFaces` — what is kept, by the definition.
* `KeepsFirsts` — what pruning owes to a list of triangles.
* `prune_keeps_firsts` — **pruning pays it**, and an edit that prunes has nothing to do exactly if
  there is nothing to drop.
-/

namespace IndexedMesh

variable {t : IndexType}

namespace Triangle

/-! ## Faces and rotations -/

variable {f g h : Triangle t}

@[simp] theorem rotate_rotate_rotate (f : Triangle t) : f.rotate.rotate.rotate = f := rfl

@[simp] theorem isDegenerate_rotate (f : Triangle t) : f.rotate.isDegenerate = f.isDegenerate := by
  simp only [isDegenerate, rotate]
  rw [Bool.or_comm, ← Bool.or_assoc]
  rfl

theorem isDegenerate_eq_false_iff (f : Triangle t) :
    f.isDegenerate = false ↔ f.a ≠ f.b ∧ f.b ≠ f.c ∧ f.c ≠ f.a := by
  simp [isDegenerate, and_assoc]

@[simp] theorem isDegenerate_flip (f : Triangle t) : f.flip.isDegenerate = f.isDegenerate := by
  rw [Bool.eq_iff_iff]
  simp only [isDegenerate, flip, Bool.or_eq_true, decide_eq_true_eq]
  grind

theorem sameFace_iff (f g : Triangle t) :
    f.sameFace g = true ↔ g = f ∨ g = f.rotate ∨ g = f.rotate.rotate := by
  simp only [sameFace, Bool.or_eq_true, decide_eq_true_eq]
  rw [or_assoc, or_comm (a := g = f.rotate.rotate)]

theorem sameFace_refl (f : Triangle t) : f.sameFace f = true := (sameFace_iff f f).2 (.inl rfl)

theorem sameFace_rotate (f : Triangle t) : f.sameFace f.rotate = true :=
  (sameFace_iff f _).2 (.inr (.inl rfl))

theorem sameFace_symm (h : f.sameFace g = true) : g.sameFace f = true := by
  rcases (sameFace_iff f g).1 h with rfl | rfl | rfl
  · exact sameFace_refl _
  · exact (sameFace_iff _ _).2 (.inr (.inr rfl))
  · exact sameFace_rotate _

theorem sameFace_trans (hfg : f.sameFace g = true) (hgh : g.sameFace h = true) :
    f.sameFace h = true := by
  rw [sameFace_iff] at *
  rcases hfg with rfl | rfl | rfl <;> rcases hgh with rfl | rfl | rfl <;> simp

/-- The same face has an area or has none, however it is turned. -/
theorem isDegenerate_eq_of_sameFace (h : f.sameFace g = true) :
    g.isDegenerate = f.isDegenerate := by
  rcases (sameFace_iff f g).1 h with rfl | rfl | rfl <;> simp

/-- **Seen from behind, a triangle with an area is another face.** -/
theorem sameFace_flip (h : f.isDegenerate = false) : f.sameFace f.flip = false := by
  obtain ⟨hab, hbc, hca⟩ := (isDegenerate_eq_false_iff f).1 h
  rw [← Bool.not_eq_true, sameFace_iff]
  rintro (hSame | hSame | hSame)
  · exact hbc (congrArg Triangle.c hSame)
  · exact hab (congrArg Triangle.a hSame)
  · exact hca (congrArg Triangle.a hSame).symm

/-! ## The rotation that begins with the least corner -/

theorem sameFace_canonical (f : Triangle t) : f.sameFace f.canonical = true := by
  rw [sameFace_iff, canonical]
  split_ifs
  · exact .inl rfl
  · exact .inr (.inl rfl)
  · exact .inr (.inr rfl)

/-- A triangle with an area has one least corner, wherever it begins. -/
theorem canonical_rotate (hProper : f.isDegenerate = false) : f.rotate.canonical = f.canonical := by
  obtain ⟨hab, hbc, hca⟩ := (isDegenerate_eq_false_iff f).1 hProper
  have hAB : f.a.value ≠ f.b.value := fun h => hab (Index.eq_of_value_eq h)
  have hBC : f.b.value ≠ f.c.value := fun h => hbc (Index.eq_of_value_eq h)
  have hCA : f.c.value ≠ f.a.value := fun h => hca (Index.eq_of_value_eq h)
  have hLe : ∀ i j : Index t, i ≤ j ↔ i.value ≤ j.value := fun _ _ => Iff.rfl
  simp only [canonical, rotate, hLe]
  -- The corners are pairwise different, so only one of the three can be the least.
  split_ifs <;> first | rfl | omega

/-- **For triangles with an area, the rotation that begins with the least corner tells faces
apart.** -/
theorem sameFace_iff_canonical (hProper : f.isDegenerate = false) (g : Triangle t) :
    f.sameFace g = true ↔ g.canonical = f.canonical := by
  constructor
  · intro hSame
    rcases (sameFace_iff f g).1 hSame with rfl | rfl | rfl
    · rfl
    · exact canonical_rotate hProper
    · rw [canonical_rotate (by rwa [isDegenerate_rotate]), canonical_rotate hProper]
  · intro hCanonical
    have hg := sameFace_canonical g
    rw [hCanonical] at hg
    exact sameFace_trans (sameFace_canonical f) (sameFace_symm hg)

end Triangle

/-! ## Pruning by its definition -/

/-- Whether a triangle has an area and some triangle before it has one and is the same face. -/
def Triangle.repeats (f : Triangle t) (before : List (Triangle t)) : Bool :=
  !f.isDegenerate && before.any fun g => !g.isDegenerate && g.sameFace f

/-- Whether a triangle has an area and no triangle before it has one and is the same face. -/
def Triangle.isFirst (f : Triangle t) (before : List (Triangle t)) : Bool :=
  !f.isDegenerate && !f.repeats before

/-- The triangles that are the first of their faces, with their places. -/
def firstFaces (fs : List (Triangle t)) : List (Triangle t × Nat) :=
  fs.zipIdx.filter fun p => p.1.isFirst (fs.take p.2)

namespace Triangle

theorem repeats_iff (f : Triangle t) (before : List (Triangle t)) :
    f.repeats before = true ↔
      f.isDegenerate = false ∧ ∃ g ∈ before, g.isDegenerate = false ∧ g.sameFace f = true := by
  simp [repeats]

theorem isFirst_iff (f : Triangle t) (before : List (Triangle t)) :
    f.isFirst before = true ↔
      f.isDegenerate = false ∧
        ∀ g ∈ before, g.isDegenerate = false → g.sameFace f = false := by
  have hNot := repeats_iff f before
  rw [isFirst, Bool.and_eq_true, Bool.not_eq_true', Bool.not_eq_true']
  constructor
  · rintro ⟨hProper, hNew⟩
    refine ⟨hProper, fun g hg hArea => Bool.eq_false_iff.2 fun hSame => ?_⟩
    rw [hNot.2 ⟨hProper, g, hg, hArea, hSame⟩] at hNew
    cases hNew
  · rintro ⟨hProper, hNew⟩
    refine ⟨hProper, Bool.eq_false_iff.2 fun hRepeats => ?_⟩
    obtain ⟨-, g, hg, hArea, hSame⟩ := hNot.1 hRepeats
    rw [hNew g hg hArea] at hSame
    cases hSame

end Triangle

theorem mem_firstFaces_iff (fs : List (Triangle t)) (f : Triangle t) (k : Nat) :
    (f, k) ∈ firstFaces fs ↔ fs[k]? = some f ∧ f.isFirst (fs.take k) = true := by
  rw [firstFaces, List.mem_filter, List.mk_mem_zipIdx_iff_getElem?]

/-! ## The scan -/

/-- The rotations that have been `seen` are those of the triangles with an area among `past`. -/
private def HasMet (past seen : List (Triangle t)) : Prop :=
  ∀ f : Triangle t, f.isDegenerate = false →
    (f.canonical ∈ seen ↔ ∃ g ∈ past, g.isDegenerate = false ∧ g.sameFace f = true)

namespace HasMet

variable {past seen : List (Triangle t)} {f : Triangle t}

private theorem isFirst_iff (h : HasMet past seen) (hProper : f.isDegenerate = false) :
    f.isFirst past = true ↔ f.canonical ∉ seen := by
  rw [Triangle.isFirst_iff, h f hProper]
  simp [hProper]

/-- A triangle without an area is not looked up and stands for no face. -/
private theorem passOver (h : HasMet past seen) (hDegenerate : f.isDegenerate = true) :
    HasMet (past ++ [f]) seen := by
  intro g hg
  rw [h g hg]
  simp [hDegenerate]

private theorem enter (h : HasMet past seen) (hProper : f.isDegenerate = false) :
    HasMet (past ++ [f]) (f.canonical :: seen) := by
  intro g hg
  rw [List.mem_cons, h g hg, ← Triangle.sameFace_iff_canonical hProper]
  simp [hProper, or_and_right, exists_or, or_comm]

/-- A rotation that was seen before does not have to be entered again. -/
private theorem meetAgain (h : HasMet past seen) (hProper : f.isDegenerate = false)
    (hSeen : f.canonical ∈ seen) : HasMet (past ++ [f]) seen := by
  intro g hg
  rw [← h.enter hProper g hg, List.mem_cons]
  constructor
  · exact .inr
  · rintro (hSame | hOther)
    · rwa [hSame]
    · exact hOther

end HasMet

/-- What is kept of the triangles that are left after those `past`, with their places. -/
private def firstFacesAfter (past left : List (Triangle t)) : List (Triangle t × Nat) :=
  (left.zipIdx past.length).filter fun p => p.1.isFirst ((past ++ left).take p.2)

private theorem firstFacesAfter_cons (past : List (Triangle t)) (f : Triangle t)
    (more : List (Triangle t)) :
    firstFacesAfter past (f :: more) =
      if f.isFirst past then (f, past.length) :: firstFacesAfter (past ++ [f]) more
      else firstFacesAfter (past ++ [f]) more := by
  have hPast : (past ++ f :: more).take past.length = past := List.take_left
  have hMore : firstFacesAfter (past ++ [f]) more =
      (more.zipIdx (past.length + 1)).filter fun p =>
        p.1.isFirst ((past ++ f :: more).take p.2) := by
    simp [firstFacesAfter]
  rw [firstFacesAfter, List.zipIdx_cons, List.filter_cons, hPast, hMore]

/-- **The scan keeps the first triangle of each face.** -/
private theorem firstOfEach_eq (left : List (Triangle t)) :
    ∀ past seen before : List (Triangle t), HasMet past seen →
      firstOfEach seen before (left.filter fun f => !f.isDegenerate) =
        before.reverse ++ (firstFacesAfter past left).map Prod.fst := by
  induction left with
  | nil =>
      intro past seen before _
      simp [firstOfEach, firstFacesAfter]
  | cons f more ih =>
      intro past seen before hMet
      rw [firstFacesAfter_cons]
      cases hArea : f.isDegenerate with
      | true =>
          have hFirst : ¬ f.isFirst past = true := by simp [Triangle.isFirst, hArea]
          rw [List.filter_cons_of_neg (by simp [hArea]), if_neg hFirst]
          exact ih _ _ _ (hMet.passOver hArea)
      | false =>
          have hFirst := hMet.isFirst_iff hArea
          rw [List.filter_cons_of_pos (by simp [hArea]), firstOfEach]
          by_cases hSeen : f.canonical ∈ seen
          · rw [if_pos hSeen, if_neg fun h => hFirst.1 h hSeen]
            exact ih _ _ _ (hMet.meetAgain hArea hSeen)
          · rw [if_neg hSeen, if_pos (hFirst.2 hSeen), ih _ _ _ (hMet.enter hArea),
              List.reverse_cons, List.append_assoc]
            rfl

/-- **Pruning keeps what it keeps by definition.** -/
theorem kept_prune (fs : List (Triangle t)) :
    (prune fs).kept = (firstFaces fs).map Prod.fst :=
  firstOfEach_eq fs [] [] [] fun f _ => by simp

/-! ## The first triangle of a face -/

section

variable {fs : List (Triangle t)} {f g : Triangle t} {j k : Nat}

private theorem mem_firstFaces_or (hk : fs[k]? = some f) (hArea : f.isDegenerate = false) :
    (f, k) ∈ firstFaces fs ∨
      ∃ g j, fs[j]? = some g ∧ j < k ∧ g.isDegenerate = false ∧ g.sameFace f = true := by
  by_cases hRepeats : f.repeats (fs.take k) = true
  · obtain ⟨-, g, hg, hAreaG, hSame⟩ := (Triangle.repeats_iff _ _).1 hRepeats
    obtain ⟨j, hj, hLess⟩ := mem_take_iff_getElem?.1 hg
    exact .inr ⟨g, j, hj, hLess, hAreaG, hSame⟩
  · refine .inl ((mem_firstFaces_iff _ _ _).2 ⟨hk, ?_⟩)
    simp [Triangle.isFirst, hArea, hRepeats]

/-- **Each face has a first triangle.** -/
private theorem exists_first (hk : fs[k]? = some f) (hArea : f.isDegenerate = false) :
    ∃ g j, (g, j) ∈ firstFaces fs ∧ j ≤ k ∧ g.sameFace f = true := by
  induction k using Nat.strong_induction_on generalizing f with
  | _ k ih =>
    rcases mem_firstFaces_or hk hArea with hFirst | ⟨g, j, hj, hLess, hAreaG, hSame⟩
    · exact ⟨f, k, hFirst, Nat.le_refl k, Triangle.sameFace_refl f⟩
    · obtain ⟨h, i, hFirst, hLe, hSameH⟩ := ih j hLess hj hAreaG
      exact ⟨h, i, hFirst, by omega, Triangle.sameFace_trans hSameH hSame⟩

end

theorem isDegenerate_of_mem_kept {fs : List (Triangle t)} {f : Triangle t}
    (h : f ∈ (prune fs).kept) : f.isDegenerate = false := by
  rw [kept_prune] at h
  obtain ⟨⟨_, k⟩, hMem, rfl⟩ := List.mem_map.1 h
  exact ((Triangle.isFirst_iff _ _).1 ((mem_firstFaces_iff _ _ _).1 hMem).2).1

/-- **No two triangles that are kept are the same face.** -/
theorem pairwise_kept (fs : List (Triangle t)) :
    (prune fs).kept.Pairwise fun f g => f.sameFace g = false := by
  rw [kept_prune, List.pairwise_map]
  have hAscending : (firstFaces fs).Pairwise (·.2 < ·.2) := (zipIdx_pairwise fs).filter _
  refine hAscending.imp_of_mem fun {p q} hp hq hLess => ?_
  obtain ⟨hGetP, hFirstP⟩ := (mem_firstFaces_iff fs p.1 p.2).1 hp
  obtain ⟨_, hFirstQ⟩ := (mem_firstFaces_iff fs q.1 q.2).1 hq
  exact ((Triangle.isFirst_iff _ _).1 hFirstQ).2 p.1 (mem_take_iff_getElem?.2 ⟨p.2, hGetP, hLess⟩)
    ((Triangle.isFirst_iff _ _).1 hFirstP).1

/-! ## Counts -/

theorem degenerate_prune (fs : List (Triangle t)) :
    (prune fs).degenerate = fs.countP Triangle.isDegenerate := by
  have hSplit := List.length_eq_countP_add_countP Triangle.isDegenerate (l := fs)
  have hProper : fs.countP (fun f => decide (¬ f.isDegenerate = true)) =
      (fs.filter fun f => !f.isDegenerate).length := by
    rw [List.countP_eq_length_filter]
    congr 2
    funext f
    cases f.isDegenerate <;> rfl
  show fs.length - (fs.filter _).length = _
  omega

/-- A triangle with an area repeats a face or is the first of it. -/
private theorem countP_proper (fs : List (Triangle t)) :
    fs.countP (fun f => !f.isDegenerate) =
      fs.zipIdx.countP (fun p => p.1.repeats (fs.take p.2)) + (firstFaces fs).length := by
  have hPlaces : fs.countP (fun f => !f.isDegenerate) =
      fs.zipIdx.countP fun p => !p.1.isDegenerate := by
    conv_lhs => rw [← List.zipIdx_map_fst 0 fs, List.countP_map]
    rfl
  rw [hPlaces, List.countP_eq_countP_filter_add _ _ fun p => p.1.repeats (fs.take p.2),
    List.countP_filter, List.countP_filter, firstFaces, ← List.countP_eq_length_filter]
  congr 1
  · refine List.countP_congr fun p _ => ?_
    rw [Bool.and_eq_true, and_iff_right_iff_imp, Triangle.repeats_iff]
    exact fun h => by simp [h.1]

theorem duplicate_prune (fs : List (Triangle t)) :
    (prune fs).duplicate = fs.zipIdx.countP fun p => p.1.repeats (fs.take p.2) := by
  have hProper := countP_proper fs
  have hKept := congrArg List.length (kept_prune fs)
  rw [List.length_map] at hKept
  show (fs.filter _).length - (prune fs).kept.length = _
  rw [← List.countP_eq_length_filter, hKept, hProper]
  omega

/-- What pruning drops is what it does not keep. -/
theorem length_kept_add_dropped (triangles : List (Triangle t)) :
    (prune triangles).kept.length + (prune triangles).duplicate + (prune triangles).degenerate =
      triangles.length := by
  have hProper := countP_proper triangles
  have hSplit := List.length_filter_le (fun f : Triangle t => !f.isDegenerate) triangles
  have hDegenerate : (prune triangles).degenerate =
      triangles.length - (triangles.filter fun f => !f.isDegenerate).length := rfl
  rw [← List.countP_eq_length_filter] at hSplit hDegenerate
  rw [duplicate_prune, hDegenerate, kept_prune, List.length_map]
  omega

/-! ## What pruning owes to a list -/

/-- What pruning owes to a list of triangles. -/
structure KeepsFirsts (fs : List (Triangle t)) (p : Pruned t) : Prop where
  kept : p.kept = (firstFaces fs).map Prod.fst
  distinct : p.kept.Pairwise fun f g => f.sameFace g = false
  windings : ∀ f ∈ fs, ∀ g ∈ fs, f.isDegenerate = false → f.flip.sameFace g = true →
    ∃ f' ∈ p.kept, ∃ g' ∈ p.kept,
      f'.sameFace f = true ∧ g'.sameFace g = true ∧ f'.sameFace g' = false
  covered : ∀ f k, fs[k]? = some f → f.isDegenerate = false → (f, k) ∉ firstFaces fs →
    ∃ g j, (g, j) ∈ firstFaces fs ∧ j < k ∧ g.sameFace f = true
  degenerate : p.degenerate = fs.countP Triangle.isDegenerate
  duplicate : p.duplicate = fs.zipIdx.countP fun q => q.1.repeats (fs.take q.2)
  total : p.kept.length + p.duplicate + p.degenerate = fs.length

private theorem windings_prune {fs : List (Triangle t)} {f g : Triangle t} (hf : f ∈ fs)
    (hg : g ∈ fs) (hArea : f.isDegenerate = false) (hBack : f.flip.sameFace g = true) :
    ∃ f' ∈ (prune fs).kept, ∃ g' ∈ (prune fs).kept,
      f'.sameFace f = true ∧ g'.sameFace g = true ∧ f'.sameFace g' = false := by
  have hAreaG : g.isDegenerate = false := by
    rw [Triangle.isDegenerate_eq_of_sameFace hBack, Triangle.isDegenerate_flip, hArea]
  obtain ⟨i, hi⟩ := List.mem_iff_getElem?.1 hf
  obtain ⟨j, hj⟩ := List.mem_iff_getElem?.1 hg
  obtain ⟨f', i', hFirst, -, hSame⟩ := exists_first hi hArea
  obtain ⟨g', j', hFirstG, -, hSameG⟩ := exists_first hj hAreaG
  rw [kept_prune]
  refine ⟨f', List.mem_map_of_mem hFirst, g', List.mem_map_of_mem hFirstG, hSame, hSameG, ?_⟩
  refine Bool.eq_false_iff.2 fun hOne => ?_
  have hAround : f.sameFace f.flip = true := Triangle.sameFace_trans (Triangle.sameFace_symm hSame)
    (Triangle.sameFace_trans hOne (Triangle.sameFace_trans hSameG (Triangle.sameFace_symm hBack)))
  rw [Triangle.sameFace_flip hArea] at hAround
  cases hAround

theorem keepsFirsts_prune (fs : List (Triangle t)) : KeepsFirsts fs (prune fs) where
  kept := kept_prune fs
  distinct := pairwise_kept fs
  windings _ hf _ hg := windings_prune hf hg
  covered f k hk hArea hDropped := by
    rcases mem_firstFaces_or hk hArea with hFirst | ⟨g, j, hj, hLess, hAreaG, hSame⟩
    · exact absurd hFirst hDropped
    · obtain ⟨h, i, hFirst, hLe, hSameH⟩ := exists_first hj hAreaG
      exact ⟨h, i, hFirst, by omega, Triangle.sameFace_trans hSameH hSame⟩
  degenerate := degenerate_prune fs
  duplicate := duplicate_prune fs
  total := length_kept_add_dropped fs

/-! ## Nothing to drop -/

/-- All triangles have an area, and no two are the same face. -/
def IsPruned (fs : List (Triangle t)) : Prop :=
  (∀ f ∈ fs, f.isDegenerate = false) ∧ fs.Pairwise fun f g => f.sameFace g = false

instance (fs : List (Triangle t)) : Decidable (IsPruned fs) :=
  inferInstanceAs (Decidable ((∀ f ∈ fs, f.isDegenerate = false) ∧
    fs.Pairwise fun f g => f.sameFace g = false))

theorem isPruned_kept (fs : List (Triangle t)) : IsPruned (prune fs).kept :=
  ⟨fun _ hf => isDegenerate_of_mem_kept hf, pairwise_kept fs⟩

/-- Pruning keeps a part of the list, in its order. -/
theorem kept_sublist (fs : List (Triangle t)) : (prune fs).kept.Sublist fs := by
  have hPart : ((firstFaces fs).map Prod.fst).Sublist (fs.zipIdx.map Prod.fst) :=
    List.Sublist.map _ List.filter_sublist
  rwa [List.zipIdx_map_fst, ← kept_prune] at hPart

/-- If nothing is dropped, everything is kept. -/
theorem kept_eq_self {fs : List (Triangle t)}
    (hNone : (prune fs).degenerate + (prune fs).duplicate = 0) : (prune fs).kept = fs := by
  have hTotal := length_kept_add_dropped fs
  exact (kept_sublist fs).eq_of_length (by omega)

/-- **Nothing is dropped exactly if there is nothing to drop.** -/
theorem dropped_eq_zero_iff (fs : List (Triangle t)) :
    (prune fs).degenerate + (prune fs).duplicate = 0 ↔ IsPruned fs := by
  constructor
  · intro hNone
    rw [← kept_eq_self hNone]
    exact isPruned_kept fs
  · rintro ⟨hAreas, hDistinct⟩
    have hDegenerate : fs.countP Triangle.isDegenerate = 0 :=
      List.countP_eq_zero.2 fun f hf => by simp [hAreas f hf]
    have hDuplicate : (fs.zipIdx.countP fun q => q.1.repeats (fs.take q.2)) = 0 := by
      refine List.countP_eq_zero.2 fun q hq hRepeats => ?_
      obtain ⟨-, g, hg, -, hSame⟩ := (Triangle.repeats_iff _ _).1 hRepeats
      obtain ⟨j, hj, hLess⟩ := mem_take_iff_getElem?.1 hg
      obtain ⟨hBoundJ, rfl⟩ := List.getElem?_eq_some_iff.1 hj
      obtain ⟨hBound, hPlace⟩ :=
        List.getElem?_eq_some_iff.1 (List.mk_mem_zipIdx_iff_getElem?.1 hq)
      rw [← hPlace, List.pairwise_iff_getElem.1 hDistinct j q.2 hBoundJ hBound hLess] at hSame
      cases hSame
    rw [degenerate_prune, duplicate_prune, hDegenerate, hDuplicate]

/-! ## The edit -/

/-- How pruning the triangles of a selected geometry goes. The edit answers for every geometry, and
has nothing to work on if there are no triangles, which is answered like having nothing to do. The
operation is only for geometries with triangles, and answers what the edit does. -/
structure PrunesGeometry (w : Workspace) (selection : Selection) (data : BlockId)
    (g : GeometryData) (answer : Option (List Notice)) (w' : Workspace) : Prop where
  edit : (Edit.unlessEmpty (Operation.pruneTriangles.edit selection 0)).run w = (.ok answer, w')
  performed : g.triangles ≠ [] → (Operation.pruneTriangles.perform selection 0).run w =
    (.ok { notices := answer.getD [.nothingToDo] }, w')
  quiet : answer.getD [.nothingToDo] = [.nothingToDo] ↔ IsPruned g.triangles
  unchanged : w' = w ↔ IsPruned g.triangles
  changed : ¬ IsPruned g.triangles →
    answer = some [.removedTriangles (prune g.triangles).degenerate
      (prune g.triangles).duplicate] ∧
    w' = w.put data (.geometry { g with triangles := (prune g.triangles).kept })

section

variable {w : Workspace} {selection : Selection} {shape : Option BlockId} {data : BlockId}
  {g : GeometryData}

/-- The edit, told apart by whether there is anything to drop. -/
private theorem run_edit_pruneTriangles
    (hSelected : w.document.selectedData? selection = some (shape, data))
    (hGet : w.document.get? data = some (.geometry g)) :
    (Operation.pruneTriangles.edit selection 0).run w =
      if g.triangles.isEmpty = true then (.error .emptyInput, w)
      else if IsPruned g.triangles then (.ok [.nothingToDo], w)
      else
        (.ok [.removedTriangles (prune g.triangles).degenerate (prune g.triangles).duplicate],
          w.put data (.geometry { g with triangles := (prune g.triangles).kept })) := by
  simp only [← dropped_eq_zero_iff]
  exact Edit.run_pruneTriangles hSelected hGet

private theorem put_kept_ne (hGet : w.document.get? data = some (.geometry g))
    (hDrops : ¬ IsPruned g.triangles) :
    w.put data (.geometry { g with triangles := (prune g.triangles).kept }) ≠ w := by
  intro hSame
  have hPut : (w.put data (.geometry { g with
      triangles := (prune g.triangles).kept })).document.get? data =
        some (.geometry { g with triangles := (prune g.triangles).kept }) := by
    rw [Workspace.put, Document.get?_replace (Document.contains_of_get? hGet), if_pos rfl]
  rw [hSame, hGet] at hPut
  injection hPut with hBlock
  injection hBlock with hGeometry
  have hKept : g.triangles = (prune g.triangles).kept := congrArg GeometryData.triangles hGeometry
  rw [hKept] at hDrops
  exact hDrops (isPruned_kept g.triangles)

theorem Document.hasSelectedTriangles_eq {d : Document}
    (hSelected : d.selectedData? selection = some (shape, data))
    (hGet : d.get? data = some (.geometry g)) :
    d.hasSelectedTriangles selection = !g.triangles.isEmpty := by
  rw [hasSelectedTriangles, hSelected]
  simp only [triangles_eq_ok hGet]

private theorem prunesGeometry
    (hSelected : w.document.selectedData? selection = some (shape, data))
    (hGet : w.document.get? data = some (.geometry g)) :
    ∃ answer w', PrunesGeometry w selection data g answer w' := by
  have hEdit := run_edit_pruneTriangles hSelected hGet
  have hApplies : Operation.pruneTriangles.applies w.document selection =
      !g.triangles.isEmpty := Document.hasSelectedTriangles_eq hSelected hGet
  by_cases hEmpty : g.triangles.isEmpty = true
  · rw [if_pos hEmpty] at hEdit
    have hNone : g.triangles = [] := List.isEmpty_iff.1 hEmpty
    have hPruned : IsPruned g.triangles := by
      rw [hNone]
      decide
    refine ⟨none, w, ?_, fun h => absurd hNone h, ?_, ?_, fun h => absurd hPruned h⟩
    · rw [Edit.run_unlessEmpty, hEdit]
    · simp [hPruned]
    · simp [hPruned]
  · rw [if_neg hEmpty] at hEdit
    have hFor : Operation.pruneTriangles.applies w.document selection = true := by
      rw [hApplies]
      simpa using hEmpty
    by_cases hPruned : IsPruned g.triangles
    · rw [if_pos hPruned] at hEdit
      refine ⟨some [.nothingToDo], w, ?_, fun _ => ?_, ?_, ?_, fun h => absurd hPruned h⟩
      · rw [Edit.run_unlessEmpty, hEdit]
      · exact Operation.run_perform_of_ok hFor (by decide) hEdit
      · simp [hPruned]
      · simp [hPruned]
    · rw [if_neg hPruned] at hEdit
      refine ⟨some _, _, ?_, fun _ => ?_, ?_, ?_, fun _ => ⟨rfl, rfl⟩⟩
      · rw [Edit.run_unlessEmpty, hEdit]
      · exact Operation.run_perform_of_ok hFor (by decide) hEdit
      · simp [hPruned]
      · simp [hPruned, put_kept_ne hGet hPruned]

end

/-- **Pruning keeps the first triangle of each face and counts what it drops**, in lists over any
index type. On a geometry it has nothing to do, and writes nothing, exactly if there is nothing to
drop. -/
theorem prune_keeps_firsts :
    (∀ {t : IndexType} (fs : List (Triangle t)), KeepsFirsts fs (prune fs)) ∧
      ∀ {w : Workspace} {selection : Selection} {shape : Option BlockId} {data : BlockId}
        {g : GeometryData}, w.document.selectedData? selection = some (shape, data) →
          w.document.geometry data = .ok g →
            ∃ answer w', PrunesGeometry w selection data g answer w' :=
  ⟨keepsFirsts_prune, fun hSelected hGeometry =>
    prunesGeometry hSelected ((Document.geometry_eq_ok_iff _).1 hGeometry)⟩

/-- A triangle, the same turned, its back, and one without an area before its own repetition. -/
def turnedTriangle : GeometryData where
  triangles := [⟨.ofPosition 0, .ofPosition 1, .ofPosition 2⟩,
    ⟨.ofPosition 1, .ofPosition 2, .ofPosition 0⟩, ⟨.ofPosition 0, .ofPosition 2, .ofPosition 1⟩,
    ⟨.ofPosition 0, .ofPosition 0, .ofPosition 1⟩, ⟨.ofPosition 0, .ofPosition 1, .ofPosition 0⟩]

theorem prune_keeps_firsts_turnedTriangle :
    let w : Workspace := { document := { slots := #[some (.geometry turnedTriangle)] } }
    KeepsFirsts turnedTriangle.triangles (prune turnedTriangle.triangles) ∧
      ∃ w', (Operation.pruneTriangles.perform (some ⟨0⟩) 0).run w =
          (.ok { notices := [.removedTriangles 2 1] }, w') ∧
        w'.document.triangles ⟨0⟩ = .ok [⟨.ofPosition 0, .ofPosition 1, .ofPosition 2⟩,
          ⟨.ofPosition 0, .ofPosition 2, .ofPosition 1⟩] := by
  intro w
  have hSelected : w.document.selectedData? (some ⟨0⟩) = some (none, ⟨0⟩) := rfl
  have hGeometry : w.document.geometry ⟨0⟩ = .ok turnedTriangle := rfl
  obtain ⟨answer, w', hPrunes⟩ := prune_keeps_firsts.2 hSelected hGeometry
  obtain ⟨rfl, rfl⟩ := hPrunes.changed (by decide +kernel)
  exact ⟨prune_keeps_firsts.1 _, _, hPrunes.performed (by decide), rfl⟩

end IndexedMesh
