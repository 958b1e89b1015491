import IndexedMesh.Index
import IndexedMesh.Json.Format

/-!
# Faces

A face is a triangle of vertex indices whose order says which side is the front, or a part of a
strip, where each index after the second makes a face with the two before it.

Pruning drops the triangles without area, and then every triangle that is a rotation of an earlier
one. Triangles of opposite winding are different faces.

## Main definitions

* `Triangle`, with `flip`, `isDegenerate` and `sameFace`.
* `Triangle.canonical` — the rotation that starts with the least corner.
* `Pruned`, `prune` — the triangles that are kept, and how many are not, by reason.
-/

namespace IndexedMesh

/-- The corners of a face, counter-clockwise as seen from its front. -/
structure Triangle (t : IndexType) where
  a : Index t
  b : Index t
  c : Index t
deriving DecidableEq

/-- A triangle strip. -/
abbrev Strip (t : IndexType) := List (Index t)

namespace Triangle

variable {t : IndexType}

/-- The corners in order. -/
def corners (f : Triangle t) : List (Index t) := [f.a, f.b, f.c]

/-- The same function of each corner. -/
def map (f : Triangle t) (g : Index t → Index t) : Triangle t := ⟨g f.a, g f.b, g f.c⟩

/-- The triangle with one corner replaced. There are only three. -/
def setCorner? (f : Triangle t) (corner : Nat) (i : Index t) : Option (Triangle t) :=
  match corner with
  | 0 => some { f with a := i }
  | 1 => some { f with b := i }
  | 2 => some { f with c := i }
  | _ => none

/-- The same triangle seen from behind. -/
def flip (f : Triangle t) : Triangle t := ⟨f.a, f.c, f.b⟩

/-- The triangle that starts with the second corner. -/
def rotate (f : Triangle t) : Triangle t := ⟨f.b, f.c, f.a⟩

/-- Whether two corners are the same vertex, so that the face has no area. -/
def isDegenerate (f : Triangle t) : Bool := f.a = f.b || f.b = f.c || f.c = f.a

/-- Whether one triangle is a rotation of the other. -/
def sameFace (f g : Triangle t) : Bool :=
  g = f || g = f.rotate.rotate || g = f.rotate

/-- The rotation that starts with the least corner. For triangles with an area it is the same if
and only if they are the same face. -/
def canonical (f : Triangle t) : Triangle t :=
  if f.a ≤ f.b ∧ f.a ≤ f.c then f
  else if f.b ≤ f.c then f.rotate
  else f.rotate.rotate

end Triangle

/-! ## Pruning -/

/-- The outcome of pruning. -/
structure Pruned (t : IndexType) where
  kept : List (Triangle t)
  degenerate : Nat
  duplicate : Nat

variable {t : IndexType}

/-- Keeps the first triangle of each face. The canonical forms of the faces met so far are in
`seen`, and the triangles kept so far in `before`, the last one first. -/
def firstOfEach (seen : List (Triangle t)) (before : List (Triangle t)) :
    List (Triangle t) → List (Triangle t)
  | [] => before.reverse
  | f :: more =>
    if f.canonical ∈ seen then firstOfEach seen before more
    else firstOfEach (f.canonical :: seen) (f :: before) more

/-- Drops triangles without area, and then repetitions of a face. -/
def prune (triangles : List (Triangle t)) : Pruned t :=
  let proper := triangles.filter fun f => !f.isDegenerate
  let kept := firstOfEach [] [] proper
  { kept
    degenerate := triangles.length - proper.length
    duplicate := proper.length - kept.length }

/-! ## Written forms -/

open Json

/-- The index of a document, as an integer. -/
def Index.format : Format (Index .stored) :=
  (Format.natural UInt16.size).map .ofPosition Index.position

/-- An array of three indices. -/
def Triangle.format : Format (Triangle .stored) where
  read := do
    openArray
    let a ← item true Index.format.read
    let b ← item false Index.format.read
    let c ← item false Index.format.read
    expect ']'
    return ⟨a, b, c⟩
  write f := .array (f.corners.map Index.format.write)

/-- An array of indices. -/
def Strip.format : Format (Strip .stored) := Index.format.list

end IndexedMesh
