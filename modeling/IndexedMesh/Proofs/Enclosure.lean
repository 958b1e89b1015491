import IndexedMesh.Bounds.Sphere
import IndexedMesh.Proofs.NumberOrder

/-!
# Bounds enclose and are tight

The sides of a box and the radius of a sphere are found by going through some values and choosing
between two of them at a time. Whatever is chosen is one of the two, and comes before both of them
in the order, as far as they are numbers. By induction the value that is left is one of all, and
comes before all numbers among them. So it is not a number only if there is none.

That determines the value but for the sign of a zero. The order of the points does not matter for
this reason, though a choice between two zeros takes the second one.

## Main results

* `Scalar.Chooses`, `Scalar.Extreme` — a choice between two values, and the first of all.
* `Scalar.Chooses.extreme_foldl` — **choosing in turn finds the first of all.**
* `Scalar.Extreme.same` — the first of all does not depend on how it was found.
* `Box.Bounds`, `Sphere.Bounds` — what boxes and spheres of some points owe to these.
* `bounds_enclose` — **bounds enclose the points and are tight, whatever the order of the points.**
-/

namespace IndexedMesh

/-! ## Extremes -/

namespace Scalar

variable {α : Type} [Scalar α] {r : α → α → Prop} {choose : α → α → α}

/-- A choice of one of two values that comes before both, as far as they are numbers. -/
structure Chooses (r : α → α → Prop) (choose : α → α → α) : Prop where
  eq_or_eq : ∀ a b, choose a b = a ∨ choose a b = b
  left : ∀ a b, isNaN a = false → r (choose a b) a
  right : ∀ a b, isNaN b = false → r (choose a b) b

/-- One of some values that comes before all numbers among them. -/
structure Extreme (r : α → α → Prop) (values : List α) (extreme : α) : Prop where
  mem : extreme ∈ values
  first : ∀ a ∈ values, isNaN a = false → r extreme a
  isNaN_iff : isNaN extreme = true ↔ ∀ a ∈ values, isNaN a = true

namespace Order

/-- Taking the second value if the first one is not a number, or does not come strictly before. -/
theorem chooses [DecidableRel r] (hOrder : Order r) :
    Chooses r fun a b => if isNaN a || r b a then b else a where
  eq_or_eq a b := by
    split
    · exact .inr rfl
    · exact .inl rfl
  left a b hNumber := by
    split
    next h =>
      rw [hNumber, Bool.false_or, decide_eq_true_eq] at h
      exact h
    next => exact hOrder.refl hNumber
  right a b hNumber := by
    split
    next => exact hOrder.refl hNumber
    next h =>
      rw [Bool.or_eq_true, not_or, Bool.not_eq_true, decide_eq_true_eq] at h
      exact (hOrder.total h.1 hNumber).resolve_right h.2

theorem extreme {values : List α} {extreme : α} (hOrder : Order r) (hMem : extreme ∈ values)
    (hFirst : ∀ a ∈ values, isNaN a = false → r extreme a) : Extreme r values extreme where
  mem := hMem
  first := hFirst
  isNaN_iff := by
    refine ⟨fun hNaN a ha => ?_, fun hAll => hAll _ hMem⟩
    by_contra hNumber
    have hFound := (hOrder.isNaN_of (hFirst a ha (Bool.eq_false_of_not_eq_true hNumber))).1
    rw [hNaN] at hFound
    cases hFound

end Order

/-- **Choosing in turn finds the first of all.** -/
theorem Chooses.extreme_foldl (hChooses : Chooses r choose) (hOrder : Order r) (values : List α) :
    ∀ first, Extreme r (first :: values) (values.foldl choose first) := by
  induction values with
  | nil =>
      intro first
      refine hOrder.extreme List.mem_cons_self fun a ha hNumber => ?_
      obtain rfl := List.mem_singleton.1 ha
      exact hOrder.refl hNumber
  | cons second others ih =>
      intro first
      have hRest := ih (choose first second)
      rw [List.foldl_cons]
      -- What comes after the one that was chosen of the first two comes after the last one chosen.
      have hBefore : ∀ a, r (choose first second) a →
          r (others.foldl choose (choose first second)) a := fun a ha =>
        hOrder.trans (hRest.first _ List.mem_cons_self (hOrder.isNaN_of ha).1) ha
      refine hOrder.extreme ?_ fun a ha hNumber => ?_
      · rcases List.mem_cons.1 hRest.mem with hChosen | hOther
        · rw [hChosen]
          rcases hChooses.eq_or_eq first second with h | h <;> simp [h]
        · exact List.mem_cons_of_mem _ (List.mem_cons_of_mem _ hOther)
      · rcases List.mem_cons.1 ha with rfl | ha
        · exact hBefore _ (hChooses.left _ _ hNumber)
        rcases List.mem_cons.1 ha with rfl | ha
        · exact hBefore _ (hChooses.right _ _ hNumber)
        · exact hRest.first a (List.mem_cons_of_mem _ ha) hNumber

variable [Ordered α]

/-- **The first of some values is the same but for the sign of a zero, however they are listed.** -/
theorem Extreme.same {values others : List α} {a b : α} (h : Extreme r values a)
    (h' : Extreme r others b) (hOrder : Order r) (hPerm : values.Perm others) :
    SameNumber a b := by
  cases hNaN : isNaN a with
  | true =>
      have hNone : isNaN b = true := h'.isNaN_iff.2 fun c hc =>
        h.isNaN_iff.1 hNaN c (hPerm.mem_iff.2 hc)
      exact .inl (Ordered.eq_of_isNaN hNaN hNone)
  | false =>
      have hba := h'.first a (hPerm.mem_iff.1 h.mem) hNaN
      have hab := h.first b (hPerm.mem_iff.2 h'.mem) (hOrder.isNaN_of hba).1
      exact hOrder.same hab hba

theorem chooses_least : Chooses (α := α) (· ≤ ·) least := Ordered.order_le.chooses

theorem chooses_greatest : Chooses (α := α) (· ≥ ·) greatest := Ordered.order_ge.chooses

end Scalar

/-! ## Boxes -/

variable {α : Type}

/-- An axis of space. -/
inductive Axis
  | x
  | y
  | z

/-- The coordinate of a point on an axis. -/
def Vec3.coord (p : Vec3 α) : Axis → α
  | .x => p.x
  | .y => p.y
  | .z => p.z

theorem Vec3.coord_zipWith (f : α → α → α) (p q : Vec3 α) (axis : Axis) :
    (p.zipWith f q).coord axis = f (p.coord axis) (q.coord axis) := by
  cases axis <;> rfl

/-- Points that are combined in turn are combined on each axis. -/
theorem Vec3.coord_foldl_zipWith (f : α → α → α) (axis : Axis) (points : List (Vec3 α)) :
    ∀ first, (points.foldl (zipWith f) first).coord axis =
      (points.map (·.coord axis)).foldl f (first.coord axis) := by
  induction points with
  | nil => exact fun _ => rfl
  | cons p others ih =>
      intro first
      rw [List.foldl_cons, ih, coord_zipWith, List.map_cons, List.foldl_cons]

variable [Scalar α]

open Scalar

namespace Box

/-- Whether a box lies in another one. -/
def Within (box outer : Box α) : Prop :=
  ∀ axis, outer.mins.coord axis ≤ box.mins.coord axis ∧ box.maxs.coord axis ≤ outer.maxs.coord axis

/-- The same box but for the signs of zeros. -/
def Same (box other : Box α) : Prop :=
  ∀ axis, SameNumber (box.mins.coord axis) (other.mins.coord axis) ∧
    SameNumber (box.maxs.coord axis) (other.maxs.coord axis)

/-- What a box of some points owes to them. -/
structure Bounds (box : Box α) (points : List (Vec3 α)) : Prop where
  least : ∀ axis, Extreme (· ≤ ·) (points.map (·.coord axis)) (box.mins.coord axis)
  greatest : ∀ axis, Extreme (· ≥ ·) (points.map (·.coord axis)) (box.maxs.coord axis)
  contains : ∀ p ∈ points, (∀ axis, isNaN (p.coord axis) = false) → box.contains p = true
  /-- No box contains a point with a coordinate that is not a number. -/
  within : ∀ outer : Box α, (∀ p ∈ points, outer.contains p = true) → box.Within outer

theorem contains_iff (box : Box α) (p : Vec3 α) :
    box.contains p = true ↔
      ∀ axis, box.mins.coord axis ≤ p.coord axis ∧ p.coord axis ≤ box.maxs.coord axis := by
  simp only [Box.contains, Bool.and_eq_true, decide_eq_true_eq]
  constructor
  · rintro ⟨⟨⟨hx, hy⟩, hz⟩, ⟨hx', hy'⟩, hz'⟩ (_ | _ | _)
    · exact ⟨hx, hx'⟩
    · exact ⟨hy, hy'⟩
    · exact ⟨hz, hz'⟩
  · intro h
    exact ⟨⟨⟨(h .x).1, (h .y).1⟩, (h .z).1⟩, ⟨(h .x).2, (h .y).2⟩, (h .z).2⟩

variable {box other : Box α} {points others : List (Vec3 α)}

/-- The extremes on each axis are what makes a box the least one. -/
theorem Bounds.of_extremes
    (hLeast : ∀ axis, Extreme (· ≤ ·) (points.map (·.coord axis)) (box.mins.coord axis))
    (hGreatest : ∀ axis, Extreme (· ≥ ·) (points.map (·.coord axis)) (box.maxs.coord axis)) :
    box.Bounds points where
  least := hLeast
  greatest := hGreatest
  contains p hp hNumbers := (contains_iff box p).2 fun axis =>
    have hMem := List.mem_map_of_mem (f := (·.coord axis)) hp
    ⟨(hLeast axis).first _ hMem (hNumbers axis), (hGreatest axis).first _ hMem (hNumbers axis)⟩
  within outer hOuter axis := by
    obtain ⟨p, hp, hMins⟩ := List.mem_map.1 (hLeast axis).mem
    obtain ⟨q, hq, hMaxs⟩ := List.mem_map.1 (hGreatest axis).mem
    rw [← hMins, ← hMaxs]
    exact ⟨((contains_iff outer p).1 (hOuter p hp) axis).1,
      ((contains_iff outer q).1 (hOuter q hq) axis).2⟩

variable [Ordered α]

/-- **Extending a box in turn bounds the points.** -/
theorem bounds_foldl (first : Vec3 α) (others : List (Vec3 α)) :
    (others.foldl extend ⟨first, first⟩).Bounds (first :: others) := by
  have hMins : (others.foldl extend ⟨first, first⟩).mins =
      others.foldl (Vec3.zipWith least) first := (List.foldl_hom mins fun _ _ => rfl).symm
  have hMaxs : (others.foldl extend ⟨first, first⟩).maxs =
      others.foldl (Vec3.zipWith greatest) first := (List.foldl_hom maxs fun _ _ => rfl).symm
  refine .of_extremes (fun axis => ?_) fun axis => ?_
  · rw [hMins, Vec3.coord_foldl_zipWith]
    exact chooses_least.extreme_foldl Ordered.order_le _ _
  · rw [hMaxs, Vec3.coord_foldl_zipWith]
    exact chooses_greatest.extreme_foldl Ordered.order_ge _ _

theorem exists_bounds (hSome : points ≠ []) :
    ∃ box, ofPoints? points = some box ∧ box.Bounds points := by
  obtain ⟨first, others, rfl⟩ := List.exists_cons_of_ne_nil hSome
  exact ⟨_, rfl, bounds_foldl first others⟩

/-- Boxes of the same points are the same but for the signs of zeros. -/
theorem Bounds.same (h : box.Bounds points) (h' : other.Bounds others)
    (hPerm : points.Perm others) : box.Same other := fun axis =>
  ⟨(h.least axis).same (h'.least axis) Ordered.order_le (hPerm.map _),
    (h.greatest axis).same (h'.greatest axis) Ordered.order_ge (hPerm.map _)⟩

end Box

/-! ## Spheres -/

namespace Sphere

/-- What a sphere with a center owes to some points. -/
structure Bounds (sphere : Sphere α) (center : Vec3 α) (points : List (Vec3 α)) : Prop where
  center_eq : sphere.center = center
  isNaN_radius : isNaN sphere.radius = false
  reaches : ∀ p ∈ points, isNaN (p.distance center) = false → p.distance center ≤ sphere.radius
  attained : sphere.radius = ofNat 0 ∨
    ∃ p ∈ points, isNaN (p.distance center) = false ∧ sphere.radius = p.distance center

variable [Ordered α] {points others : List (Vec3 α)}

/-- The radius is the greatest of the distances and zero. -/
theorem extreme_around (center : Vec3 α) (points : List (Vec3 α)) :
    Extreme (· ≥ ·) (ofNat 0 :: points.map (·.distance center)) (around center points).radius := by
  have hRadius : (around center points).radius =
      (points.map (·.distance center)).foldl greatest (ofNat 0) := List.foldl_map.symm
  rw [hRadius]
  exact chooses_greatest.extreme_foldl Ordered.order_ge _ _

theorem bounds_around (center : Vec3 α) (points : List (Vec3 α)) :
    (around center points).Bounds center points := by
  have hExtreme := extreme_around center points
  have hZero := hExtreme.first _ List.mem_cons_self Ordered.isNaN_zero
  have hNumber := (Ordered.order_ge.isNaN_of hZero).1
  refine
    { center_eq := rfl
      isNaN_radius := hNumber
      reaches := fun p hp => hExtreme.first _ (List.mem_cons_of_mem _ (List.mem_map_of_mem hp))
      attained := (List.mem_cons.1 hExtreme.mem).imp_right fun hMem => ?_ }
  obtain ⟨p, hp, hRadius⟩ := List.mem_map.1 hMem
  exact ⟨p, hp, hRadius ▸ hNumber, hRadius.symm⟩

theorem same_around (center : Vec3 α) (hPerm : points.Perm others) :
    SameNumber (around center points).radius (around center others).radius :=
  (extreme_around center points).same (extreme_around center others) Ordered.order_ge
    ((hPerm.map _).cons _)

end Sphere

/-! ## All bounds of some points -/

/-- What the bounds of some points owe to them, and to the points in another order. -/
structure TightBounds (points : List (Vec3 α)) : Prop where
  box : ∃ box, Box.ofPoints? points = some box ∧ box.Bounds points ∧
    ∀ others, points.Perm others → ∃ other, Box.ofPoints? others = some other ∧ box.Same other
  sphere : ∀ center, (Sphere.around center points).Bounds center points ∧
    ∀ others, points.Perm others →
      SameNumber (Sphere.around center points).radius (Sphere.around center others).radius

private theorem TightBounds.of_ne_nil [Ordered α] {points : List (Vec3 α)} (hSome : points ≠ []) :
    TightBounds points where
  box := by
    obtain ⟨box, hBox, hBounds⟩ := Box.exists_bounds hSome
    refine ⟨box, hBox, hBounds, fun others hPerm => ?_⟩
    have hOthers : others ≠ [] := fun hNil => hSome (List.perm_nil.1 (hNil ▸ hPerm))
    obtain ⟨other, hOther, hBounds'⟩ := Box.exists_bounds hOthers
    exact ⟨other, hOther, hBounds.same hBounds' hPerm⟩
  sphere center := ⟨Sphere.bounds_around center points, fun _ => Sphere.same_around center⟩

/-- **Bounds enclose the points and are tight, whatever the order of the points**, in single and in
double precision. -/
theorem bounds_enclose :
    (∀ points : List (Vec3 Float32), points ≠ [] → TightBounds points) ∧
      ∀ points : List (Vec3 Float), points ≠ [] → TightBounds points :=
  ⟨fun _ => .of_ne_nil, fun _ => .of_ne_nil⟩

/-- Two points, both with a coordinate that is not a number, and with zeros of both signs. -/
def twoPoints : List (Vec3 Float32) :=
  [⟨.ofBits 0x7fc00000, -0, 1⟩, ⟨2, 0, .ofBits 0x7fc00000⟩]

/-- What is not a number is passed over, also in the first point. The order of the points decides
which zero is taken. -/
theorem bounds_enclose_twoPoints :
    TightBounds twoPoints ∧ Box.ofPoints? twoPoints = some ⟨⟨2, 0, 1⟩, ⟨2, 0, 1⟩⟩ ∧
      Box.ofPoints? twoPoints.reverse = some ⟨⟨2, -0, 1⟩, ⟨2, -0, 1⟩⟩ := by
  refine ⟨bounds_enclose.1 twoPoints (by decide), ?_, ?_⟩
  · decide +kernel
  · decide +kernel

end IndexedMesh
