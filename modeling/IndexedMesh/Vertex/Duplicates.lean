import IndexedMesh.Error
import IndexedMesh.Vertex.Renumbering

/-!
# Duplicate vertices

Two vertices are duplicates if they are equal in every channel that is present. Of each group of
duplicates the first vertex stands for all: the others are renumbered to it, and it keeps its own
number.

## Main definitions

* `firstEqual?` — the first vertex that is equal to a given one.
* `findDuplicates` — the renumbering of duplicates.
-/

namespace IndexedMesh

variable {t : IndexType}

/-- The first vertex equal to `b` among `left` vertices from `a` on. -/
def firstEqual? (arrays : VertexArrays) (b : Nat) : (left a : Nat) → Except Error (Option Nat)
  | 0, _ => .ok none
  | left + 1, a =>
    match arrays.same? a b with
    | some true => .ok (some a)
    | some false => firstEqual? arrays b left (a + 1)
    | none => .error .outOfBounds

/-- Renumbers the `left` vertices from `b` on that have an equal before them. -/
def mergeFrom (arrays : VertexArrays) :
    (left b : Nat) → Renumbering t → Except Error (Renumbering t)
  | 0, _, merged => .ok merged
  | left + 1, b, merged => do
    match ← firstEqual? arrays b b 0 with
    | none => mergeFrom arrays left (b + 1) merged
    | some a =>
      match merged.insert? b (.ofPosition a) with
      | some (merged, _) => mergeFrom arrays left (b + 1) merged
      | none => throw .outOfBounds

/-- Renumbers every vertex that has an equal before it to the first such vertex. -/
def findDuplicates (arrays : VertexArrays) : Except Error (Renumbering t) := do
  arrays.check
  mergeFrom arrays (arrays.size - 1) 1 (.empty arrays.size)

end IndexedMesh
