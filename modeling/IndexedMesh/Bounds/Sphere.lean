import IndexedMesh.Bounds.Box

/-!
# Bounding spheres

A sphere around a given center is as large as the farthest point needs. The center is the mean of
the points, or the midpoint of their box, which older layouts expect.

## Main definitions

* `Sphere` — a center and a radius.
* `Sphere.around` — the least sphere with a given center.
* `centroid?` — the mean of some points.
* `CenterRule`, `Sphere.ofPoints?` — the sphere of some points.
-/

namespace IndexedMesh

/-- A center and a radius. -/
structure Sphere (α : Type) where
  center : Vec3 α
  radius : α
deriving DecidableEq

/-- How the center of a sphere is chosen. -/
inductive CenterRule
  /-- the mean of all points -/
  | centroid
  /-- the midpoint of the box of all points -/
  | boxCenter
deriving DecidableEq

variable {α : Type} [Scalar α]

/-- The mean of some points: their sum in order, divided by their number. -/
def centroid? (points : List (Vec3 α)) : Option (Vec3 α) :=
  if points.isEmpty then none
  else
    let sum := points.foldl (Vec3.zipWith (· + ·)) (.diagonal (Scalar.ofNat 0))
    some (sum.map (· / Scalar.ofNat points.length))

/-- The least sphere with a given center that contains some points. -/
def Sphere.around (center : Vec3 α) (points : List (Vec3 α)) : Sphere α where
  center := center
  radius := points.foldl (fun radius p => Scalar.greatest radius (p.distance center))
    (Scalar.ofNat 0)

/-- The sphere of some points. There is none if there are no points. -/
def Sphere.ofPoints? (rule : CenterRule) (points : List (Vec3 α)) : Option (Sphere α) :=
  let center? := match rule with
    | .centroid => centroid? points
    | .boxCenter => (Box.ofPoints? points).map Box.center
  center?.map fun center => .around center points

end IndexedMesh
