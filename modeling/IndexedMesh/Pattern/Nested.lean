/-!
# Depth

The parts of a pattern lie within each other, and a pattern may only be so deep. A part that is a
single sign has no depth; several parts in a row are one level deeper than the deepest of them.

## Main definitions

* `Nested` — a part with its depth.
* `Nested.ofRow` — several parts as one.
-/

namespace IndexedMesh.Pattern

/-- A part with the number of levels that are within it. -/
structure Nested (α : Type) where
  value : α
  depth : Nat := 0

/-- The number of levels that a pattern may have. -/
def greatestDepth : Nat := 250

/-- A part with another value. -/
def Nested.map {α β : Type} (f : α → β) (part : Nested α) : Nested β :=
  ⟨f part.value, part.depth⟩

/-- A part that has another one in it. -/
def Nested.around {α β : Type} (f : α → β) (part : Nested α) : Nested β :=
  ⟨f part.value, part.depth + 1⟩

/-- The depth of a row of parts. A row of one part is no level of its own. -/
def rowDepth : List Nat → Nat
  | [] => 0
  | [depth] => depth
  | depths => depths.foldl max 0 + 1

/-- A row of parts, with the last one first, as one part. -/
def Nested.ofRow {α β : Type} (f : List α → β) (parts : List (Nested α)) : Nested β :=
  ⟨f (parts.reverse.map (·.value)), rowDepth (parts.map (·.depth))⟩

end IndexedMesh.Pattern
