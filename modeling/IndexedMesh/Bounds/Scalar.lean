import IndexedMesh.Vertex.Point

/-!
# Arithmetic for bounds

Bounds are computed in the precision of the points, single or double. `Scalar` names what they
need of a floating-point type; the operations of both types round every result to nearest.

The lesser and the greater of two numbers pass over what is not a number: the other one is taken.
Of two equal numbers the second is taken, which shows only where two zeros differ in sign.

## Main definitions

* `Scalar`, with instances for `Float32` and `Float`.
* `Scalar.least`, `Scalar.greatest` — the lesser and the greater of two numbers.
* `Vec3.distance` — the distance of two points.
-/

namespace IndexedMesh

/-- A floating-point type. -/
class Scalar (α : Type) extends Add α, Sub α, Mul α, Div α, LT α, LE α where
  ofNat : Nat → α
  sqrt : α → α
  isNaN : α → Bool
  decideLt : DecidableLT α
  decideLe : DecidableLE α

instance Scalar.instDecidableLT {α : Type} [Scalar α] : DecidableLT α := Scalar.decideLt

instance Scalar.instDecidableLE {α : Type} [Scalar α] : DecidableLE α := Scalar.decideLe

instance : Scalar Float32 where
  ofNat := Float32.ofNat
  sqrt := Float32.sqrt
  isNaN := Float32.isNaN
  decideLt := inferInstance
  decideLe := inferInstance

instance : Scalar Float where
  ofNat := Float.ofNat
  sqrt := Float.sqrt
  isNaN := Float.isNaN
  decideLt := inferInstance
  decideLe := inferInstance

variable {α : Type} [Scalar α]

/-- The lesser of two numbers. -/
def Scalar.least (a b : α) : α :=
  if Scalar.isNaN a || b ≤ a then b else a

/-- The greater of two numbers. -/
def Scalar.greatest (a b : α) : α :=
  if Scalar.isNaN a || a ≤ b then b else a

/-- The distance of two points: the root of the sum of the squares, added from left to right. -/
def Vec3.distance (p q : Vec3 α) : α :=
  let d := p.zipWith (· - ·) q
  Scalar.sqrt (d.x * d.x + d.y * d.y + d.z * d.z)

end IndexedMesh
