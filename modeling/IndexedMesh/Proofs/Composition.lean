import IndexedMesh.Proofs.InPlace
import IndexedMesh.Proofs.Strip

/-!
# Renumbering once and twice

A renumbering is read off entry by entry. A reference with an entry becomes that entry, and one
without an entry stays; a weight with an entry gets it as its index, and one without an entry is
dropped. The two differ only in what has no entry, and that is why weights compose and references do
not: a reference that the first of two renumberings leaves alone may be replaced by the second.

Nothing is asked of the entries. They may be indices that have entries themselves, in chains or in
cycles, or that are no vertices at all.

## Main results

* `Renumbering.Sends`, `Renumbering.Carries` — what a reference and a weight become, by entries.
* `Renumbering.changes_eq_differences` — the count of changes is the number of places that differ.
* `Renumbering.andThen`, `Renumbering.bones_bones` — **bones that follow two renumberings follow
  their composition**, and as many weights are dropped.
* `renumbering_simultaneous` — **references and weights are replaced at once, by their old
  entries.**
-/

namespace IndexedMesh

variable {t : IndexType}

namespace Renumbering

/-! ## What references and weights become -/

/-- The reference `i` becomes `j`: that is its entry, or it has none and stays. -/
def Sends (m : Renumbering t) (i j : Index t) : Prop :=
  m.targets[i.position]? = some (some j) ∨
    (∀ k, m.targets[i.position]? ≠ some (some k)) ∧ j = i

/-- The weight `w` becomes `v`: its entry is the new index, and it is as heavy as before. -/
structure Carries (m : Renumbering t) (w v : VertexWeight t) : Prop where
  entry : m.targets[w.index.position]? = some (some v.index)
  weight : v.weight = w.weight

/-- Whether the vertex of a weight has an entry. -/
def keeps (m : Renumbering t) (w : VertexWeight t) : Bool := (m.get? w.index).isSome

variable {m : Renumbering t}

theorem get?_eq_some_iff {i j : Index t} :
    m.get? i = some j ↔ m.targets[i.position]? = some (some j) :=
  Option.join_eq_some_iff

theorem sends_follow (m : Renumbering t) (i : Index t) : m.Sends i (m.follow i) := by
  cases hEntry : m.get? i with
  | none =>
      refine .inr ⟨fun k hk => ?_, by rw [follow, hEntry]; rfl⟩
      rw [get?_eq_some_iff.2 hk] at hEntry
      cases hEntry
  | some j =>
      refine .inl ?_
      rw [follow, hEntry]
      exact get?_eq_some_iff.1 hEntry

theorem carries_of_weight? {w v : VertexWeight t} (h : m.weight? w = some v) : m.Carries w v := by
  obtain ⟨new, hEntry, rfl⟩ := Option.map_eq_some_iff.1 h
  exact { entry := get?_eq_some_iff.1 hEntry, weight := rfl }

/-- **Exactly the weights with an entry are kept**, in order, and each becomes what its entry
says. -/
theorem carries_bones (m : Renumbering t) (bones : List (BoneWeights t)) :
    List.Forall₂ (fun old new => List.Forall₂ m.Carries (old.weights.filter m.keeps) new.weights)
      bones (m.bones bones) := by
  rw [Renumbering.bones, List.forall₂_map_right_iff, List.forall₂_same]
  intro bone _
  have hKeeps : ∀ w, (m.weight? w).isSome = m.keeps w := fun w => Option.isSome_map
  have hFollow := forall₂_filterMap m.weight? bone.weights
  simp only [hKeeps] at hFollow
  exact hFollow.imp fun w v => carries_of_weight?

end Renumbering

/-! ## Counting -/

/-- In how many places two rows of references differ. -/
def differences (before after : List (Index t)) : Nat :=
  (before.zip after).countP fun (i, j) => j ≠ i

/-- **The count of changes is the number of places that differ.** -/
theorem Renumbering.changes_eq_differences (m : Renumbering t) (refs : List (Index t)) :
    m.changes refs = differences refs (refs.map m.follow) := by
  induction refs with
  | nil => rfl
  | cons i more ih =>
      simp only [changes, differences, List.map_cons, List.zip_cons_cons, List.countP_cons] at ih ⊢
      rw [ih]

/-- The weights that are dropped are the ones that do not follow. -/
theorem length_weights_add_dropped (m : Renumbering t) (bones : List (BoneWeights t)) :
    ((m.bones bones).map (·.weights.length)).sum + m.dropped bones =
      (bones.map (·.weights.length)).sum := by
  induction bones with
  | nil => rfl
  | cons bone others ih =>
      have hFewer := List.length_filterMap_le m.weight? bone.weights
      simp only [Renumbering.bones, Renumbering.dropped, List.map_cons, List.sum_cons] at ih ⊢
      omega

/-! ## One renumbering after another -/

namespace Renumbering

/-- The entries of the first renumbering, each replaced by its own entry in the second. -/
def andThen (f g : Renumbering t) : Renumbering t := ⟨f.targets.map (·.bind g.get?)⟩

/-- **A position has an entry in the composition exactly if it has one in the first renumbering that
has one in the second.** -/
theorem targets_andThen_iff (f g : Renumbering t) (p : Nat) (k : Index t) :
    (f.andThen g).targets[p]? = some (some k) ↔
      ∃ j, f.targets[p]? = some (some j) ∧ g.targets[j.position]? = some (some k) := by
  simp only [andThen, Array.getElem?_map, Option.map_eq_some_iff, Option.bind_eq_some_iff,
    get?_eq_some_iff]
  constructor
  · rintro ⟨entry, hEntry, j, rfl, hj⟩
    exact ⟨j, hEntry, hj⟩
  · rintro ⟨j, hEntry, hj⟩
    exact ⟨some j, hEntry, j, rfl, hj⟩

theorem get?_andThen (f g : Renumbering t) (i : Index t) :
    (f.andThen g).get? i = (f.get? i).bind g.get? := by
  refine Option.ext fun k => ?_
  rw [get?_eq_some_iff, targets_andThen_iff, Option.bind_eq_some_iff]
  simp only [get?_eq_some_iff]

/-- A weight follows the composition as it follows the two. -/
theorem weight?_andThen (f g : Renumbering t) (w : VertexWeight t) :
    (f.andThen g).weight? w = (f.weight? w).bind g.weight? := by
  rw [weight?, get?_andThen, weight?]
  cases f.get? w.index with
  | none => rfl
  | some j => rfl

/-- **Bones that follow two renumberings follow their composition.** -/
theorem bones_bones (f g : Renumbering t) (bones : List (BoneWeights t)) :
    g.bones (f.bones bones) = (f.andThen g).bones bones := by
  have hWeight : (f.andThen g).weight? = fun w => (f.weight? w).bind g.weight? :=
    funext (weight?_andThen f g)
  simp only [Renumbering.bones, List.map_map, Function.comp_def, List.filterMap_filterMap, hWeight]

/-- The weights that two renumberings drop are those that their composition drops. -/
theorem dropped_add_dropped (f g : Renumbering t) (bones : List (BoneWeights t)) :
    f.dropped bones + g.dropped (f.bones bones) = (f.andThen g).dropped bones := by
  have hFirst := length_weights_add_dropped f bones
  have hSecond := length_weights_add_dropped g (f.bones bones)
  have hBoth := length_weights_add_dropped (f.andThen g) bones
  rw [bones_bones] at hSecond
  omega

end Renumbering

/-! ## All at once -/

/-- **References and weights are replaced at once.** Whatever the entries of a renumbering are, each
corner and each element becomes the entry of what stood there before, or stays if it has none, and
the count is the number of places that differ afterwards; looking at one place after the other in
place, in any order, comes to the same. Of the weights exactly those with an entry are kept, in
order and as heavy as before, with the entry as their index, also if they are closed up in place,
and the count is that of the ones that are missing. Bones that follow a second renumbering as well
follow the composition of the two, and the counts add up. -/
theorem renumbering_simultaneous (m : Renumbering t) :
    (∀ (fs : List (Triangle t)) (ss : List (Strip t)),
      List.Forall₂ (Triangle.Relates m.Sends) fs (m.triangles fs) ∧
      List.Forall₂ (List.Forall₂ m.Sends) ss (m.strips ss) ∧
      m.changes (references fs ss) =
        differences (references fs ss) (references (m.triangles fs) (m.strips ss)) ∧
      ∀ places, List.Perm places (List.range (references fs ss).length) →
        places.foldl m.rewriteAt ⟨(references fs ss).toArray, 0⟩ =
          ⟨(references (m.triangles fs) (m.strips ss)).toArray, m.changes (references fs ss)⟩) ∧
    (∀ bones : List (BoneWeights t),
      List.Forall₂ (fun old new => List.Forall₂ m.Carries (old.weights.filter m.keeps) new.weights)
        bones (m.bones bones) ∧
      (m.bones bones).map (·.weights) = bones.map (m.closeUp ·.weights) ∧
      ((m.bones bones).map (·.weights.length)).sum + m.dropped bones =
        (bones.map (·.weights.length)).sum) ∧
    ∀ (g : Renumbering t) (bones : List (BoneWeights t)),
      g.bones (m.bones bones) = (m.andThen g).bones bones ∧
      m.dropped bones + g.dropped (m.bones bones) = (m.andThen g).dropped bones ∧
      ∀ (p : Nat) (k : Index t), (m.andThen g).targets[p]? = some (some k) ↔
        ∃ j : Index t, m.targets[p]? = some (some j) ∧ g.targets[j.position]? = some (some k) := by
  have hReferences : ∀ fs ss, references (m.triangles fs) (m.strips ss) =
      (references fs ss).map m.follow := references_map m.follow
  refine ⟨fun fs ss => ⟨?_, ?_, ?_, fun places hAll => ?_⟩, fun bones => ⟨?_, ?_, ?_⟩,
    fun g bones => ⟨?_, ?_, ?_⟩⟩
  · exact Mesh.relates_triangles fs fun i _ => m.sends_follow i
  · exact Mesh.relates_strips ss fun i _ => m.sends_follow i
  · rw [hReferences]
    exact m.changes_eq_differences (references fs ss)
  · rw [hReferences]
    exact m.foldl_rewriteAt (references fs ss) hAll
  · exact m.carries_bones bones
  · simp [Renumbering.bones, m.closeUp_eq]
  · exact length_weights_add_dropped m bones
  · exact m.bones_bones g bones
  · exact m.dropped_add_dropped g bones
  · exact m.targets_andThen_iff g

/-- The first three of four vertices change places in a cycle, and the fourth has no entry. -/
def threeCycle : Renumbering .byte :=
  ⟨#[some (.ofPosition 1), some (.ofPosition 2), some (.ofPosition 0), none]⟩

/-- A bone with one weight on each of four vertices. -/
def evenBone : BoneWeights .byte := ⟨(List.range 4).map fun p => ⟨.ofPosition p, 1⟩⟩

/-- Around a cycle all corners change, from the last to the first as well, and the weight that is
dropped the first time is missed no more the second time. -/
theorem renumbering_simultaneous_threeCycle :
    let corners : List (Triangle .byte) := [⟨.ofPosition 0, .ofPosition 1, .ofPosition 2⟩]
    ([2, 1, 0].foldl threeCycle.rewriteAt ⟨(references corners []).toArray, 0⟩).row =
        (references (threeCycle.triangles corners) []).toArray ∧
      threeCycle.changes (references corners []) = 3 ∧
      threeCycle.bones (threeCycle.bones [evenBone]) =
        (threeCycle.andThen threeCycle).bones [evenBone] ∧
      threeCycle.dropped [evenBone] + threeCycle.dropped (threeCycle.bones [evenBone]) = 1 := by
  intro corners
  obtain ⟨hFaces, -, hTwice⟩ := renumbering_simultaneous threeCycle
  obtain ⟨-, -, hCount, hInPlace⟩ := hFaces corners []
  obtain ⟨hBones, hDropped, -⟩ := hTwice threeCycle [evenBone]
  refine ⟨?_, ?_, hBones, ?_⟩
  · rw [hInPlace [2, 1, 0] (by decide)]
    rfl
  · rw [hCount]
    decide
  · rw [hDropped]
    decide +kernel

end IndexedMesh
