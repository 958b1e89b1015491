import IndexedMesh.Vertex.Point

/-!
# Parallel vertex arrays

The vertices of a mesh are stored channel by channel: all positions, all normals, all colors, and
any number of sets of texture coordinates. Every channel but the positions may be absent, and then
its array is empty; an absent set of texture coordinates still takes up its number.

Nothing keeps the arrays of one length, since they come out of documents that may be corrupt.
`mismatch?` finds the first channel that does not fit; operations look for it before anything else.

## Main definitions

* `Channel` — the channels and their names.
* `VertexArrays` — the arrays of all channels.
* `VertexArrays.mismatch?` — the first array whose length is wrong.
* `VertexArrays.same?` — whether two vertices are equal in every channel that is present.
-/

namespace IndexedMesh

/-- What is stored for each vertex. -/
inductive Channel
  | position
  | normal
  | color
  | texcoord (set : UInt32)
deriving DecidableEq

/-- The channel in messages. -/
def Channel.name : Channel → String
  | .position => "vertex positions"
  | .normal => "vertex normals"
  | .color => "vertex colors"
  | .texcoord set => s!"UV set {set.toNat}"

/-- One array for each channel. -/
structure VertexArrays where
  positions : Array Position := #[]
  normals : Array Normal := #[]
  colors : Array Rgba := #[]
  texcoords : List (Array Texcoord) := []
deriving DecidableEq

/-- An array that has not one entry for each vertex. -/
structure LengthMismatch where
  channel : Channel
  expected : Nat
  found : Nat
deriving DecidableEq

/-- The mismatch in words. -/
def LengthMismatch.message (e : LengthMismatch) : String :=
  s!"{e.channel.name} has {e.found} entries, but the vertex set has {e.expected}"

namespace VertexArrays

/-- The number of vertices. -/
def size (arrays : VertexArrays) : Nat := arrays.positions.size

/-- The channels that are present beside the positions, with their lengths. Sets of texture
coordinates keep the number of their place. -/
def lengths (arrays : VertexArrays) : List (Channel × Nat) :=
  let sets := arrays.texcoords.zipIdx.map fun (set, number) =>
    (Channel.texcoord (UInt32.ofNat number), set.size)
  ((.normal, arrays.normals.size) :: (.color, arrays.colors.size) :: sets).filter (0 < ·.2)

/-- The first channel that is present and has a wrong length. -/
def mismatch? (arrays : VertexArrays) : Option LengthMismatch :=
  (arrays.lengths.find? (·.2 ≠ arrays.size)).map fun (channel, found) =>
    { channel, expected := arrays.size, found }

/-! ## Comparing two vertices -/

/-- Whether two entries of an array are equal. Nothing if one of them is not there. -/
def equalAt? {α : Type} [BEq α] (items : Array α) (a b : Nat) : Option Bool :=
  match items[a]?, items[b]? with
  | some x, some y => some (x == y)
  | _, _ => none

/-- Whether two entries of a channel are equal. They are if the channel is absent. -/
def equalIfPresent? {α : Type} [BEq α] (items : Array α) (a b : Nat) : Option Bool :=
  if items.isEmpty then some true else equalAt? items a b

/-- Whether two vertices are equal in all of the given sets. The sets after the first difference
are not looked at. -/
def equalInSets? (a b : Nat) : List (Array Texcoord) → Option Bool
  | [] => some true
  | set :: sets =>
    match equalIfPresent? set a b with
    | some true => equalInSets? a b sets
    | answer => answer

/-- Whether two vertices are equal in every channel that is present. The channels after the first
difference are not looked at. Nothing if an entry that is looked at is not there. -/
def same? (arrays : VertexArrays) (a b : Nat) : Option Bool :=
  match equalAt? arrays.positions a b with
  | some true =>
    match equalIfPresent? arrays.normals a b with
    | some true =>
      match equalIfPresent? arrays.colors a b with
      | some true => equalInSets? a b arrays.texcoords
      | answer => answer
    | answer => answer
  | answer => answer

end VertexArrays

end IndexedMesh
