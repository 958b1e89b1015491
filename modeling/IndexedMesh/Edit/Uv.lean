import IndexedMesh.Edit.Notice
import IndexedMesh.Edit.Workspace

/-!
# Flipping texture coordinates

The texture of a mesh is reversed along one of its axes, or its two axes are exchanged, by a
change of all texture coordinates.

## Main definitions

* `UvFlip` — the three changes.
* `Edit.flipUv` — the edit.
-/

namespace IndexedMesh

/-- A change of texture coordinates. -/
inductive UvFlip
  /-- reverses the first axis -/
  | reverseU
  /-- reverses the second axis -/
  | reverseV
  /-- exchanges the axes -/
  | exchange
deriving DecidableEq

namespace UvFlip

/-- The change that a mode stands for. -/
def ofMode : Nat → UvFlip
  | 0 => reverseU
  | 1 => reverseV
  | _ => exchange

/-- The changed texture coordinates. -/
def apply (flip : UvFlip) (uv : Texcoord) : Texcoord :=
  match flip with
  | reverseU => { uv with u := 1 - uv.u }
  | reverseV => { uv with v := 1 - uv.v }
  | exchange => ⟨uv.v, uv.u⟩

end UvFlip

namespace Edit

/-- Flips all texture coordinates of a geometry, of which there has to be a set. -/
def flipGeometryUv (data : BlockId) (flip : UvFlip) : Edit Nat := do
  let arrays ← checkedArrays data
  if arrays.texcoords.all (·.isEmpty) then throw .emptyInput
  write (·.setTexcoords data (arrays.texcoords.map (·.map flip.apply)))
  return arrays.size

/-- Flips the texture coordinates of all vertices of a packed shape. -/
def flipPackedUv (id : BlockId) (flip : UvFlip) : Edit Nat := do
  let vertices ← read (·.packedVertices id)
  if vertices.isEmpty then throw .emptyInput
  write (·.setPackedVertices id (vertices.map fun v => { v with uv := flip.apply v.uv }))
  return vertices.size

/-- Flips the texture coordinates of the selected geometry or packed shape. -/
def flipUv (selection : Selection) (mode : Nat) : Edit (List Notice) := do
  let flip := UvFlip.ofMode mode
  let count ← match ← view (·.selectedData? selection) with
    | some (_, data) => flipGeometryUv data flip
    | none => do flipPackedUv (← selected selection [.packedShape]) flip
  return [.flippedUvs count]

end Edit

end IndexedMesh
