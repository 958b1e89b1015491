import IndexedMesh.Bounds.Scalar

/-!
# Bounding boxes

A box with its sides along the axes, given by its least and its greatest corner. The box of some
points starts as the first point and is extended to the others in turn.

## Main definitions

* `Box` — a box.
* `Box.ofPoints?` — the least box around some points.
* `Box.contains`, `Box.center` — membership and midpoint.
-/

namespace IndexedMesh

/-- A box with its sides along the axes. -/
structure Box (α : Type) where
  mins : Vec3 α
  maxs : Vec3 α
deriving DecidableEq

namespace Box

variable {α : Type} [Scalar α]

/-- The box extended to contain a point. -/
def extend (box : Box α) (p : Vec3 α) : Box α where
  mins := box.mins.zipWith Scalar.least p
  maxs := box.maxs.zipWith Scalar.greatest p

/-- The least box that contains some points. -/
def ofPoints? : List (Vec3 α) → Option (Box α)
  | [] => none
  | first :: others => some (others.foldl extend ⟨first, first⟩)

/-- Whether a point lies in the box, its sides included. -/
def contains (box : Box α) (p : Vec3 α) : Bool :=
  (box.mins.x ≤ p.x && box.mins.y ≤ p.y && box.mins.z ≤ p.z) &&
    (p.x ≤ box.maxs.x && p.y ≤ box.maxs.y && p.z ≤ box.maxs.z)

/-- The midpoint of the box. -/
def center (box : Box α) : Vec3 α :=
  box.mins.zipWith (fun low high => (low + high) / Scalar.ofNat 2) box.maxs

end Box

end IndexedMesh
