import IndexedMesh.Face
import IndexedMesh.Skin
import IndexedMesh.Vertex.Set

/-!
# Renumberings

A renumbering gives new indices to some of the vertices of a mesh. A vertex without a new index
was removed, or merged into another.

Faces and weights follow a renumbering in different ways: a corner whose vertex has no new index
keeps the old one, a weight of such a vertex is dropped. All references are replaced at once, so a
new index is never taken for an old one.

## Main definitions

* `Renumbering` — a partial map from positions to indices.
* `Renumbering.ofKept` — consecutive new indices for the vertices of a set.
* `Renumbering.get?`, `Renumbering.insert?` — looking up and adding an entry.
* `Renumbering.triangles`, `Renumbering.strips`, `Renumbering.bones` — what follows.
-/

namespace IndexedMesh

/-- New indices for some of the vertices of a mesh. -/
structure Renumbering (t : IndexType) where
  targets : Array (Option (Index t))
deriving DecidableEq

namespace Renumbering

variable {t : IndexType}

/-- New indices for no vertex of a mesh with `size` vertices. -/
def empty (size : Nat) : Renumbering t := ⟨Array.replicate size none⟩

/-- Appends the entry of the next vertex; the vertices before it have `next` entries. -/
def number (before : Nat × Array (Option (Index t))) (isKept : Bool) :
    Nat × Array (Option (Index t)) :=
  let (next, targets) := before
  if isKept then (next + 1, targets.push (some (.ofPosition next)))
  else (next, targets.push none)

/-- Consecutive new indices for the vertices that are kept, in ascending order. -/
def ofKept (keep : VertexSet) : Renumbering t := ⟨(keep.flags.foldl number (0, #[])).2⟩

/-- The number of vertices, renumbered or not. -/
def domainSize (m : Renumbering t) : Nat := m.targets.size

/-- The number of vertices that have a new index. -/
def size (m : Renumbering t) : Nat := m.targets.countP Option.isSome

/-- Whether no vertex has a new index. -/
def isEmpty (m : Renumbering t) : Bool := m.targets.all Option.isNone

/-- The new index of a vertex, if it has one. -/
def get? (m : Renumbering t) (old : Index t) : Option (Index t) :=
  (m.targets[old.position]?).join

/-- Gives a new index to a vertex, and tells the one that it had before. The vertex has to be one
of the mesh. -/
def insert? (m : Renumbering t) (old : Nat) (new : Index t) :
    Option (Renumbering t × Option (Index t)) :=
  match m.targets[old]? with
  | some previous => some (⟨m.targets.setIfInBounds old (some new)⟩, previous)
  | none => none

/-- The vertices that have a new index, with it, in ascending order. -/
def toList (m : Renumbering t) : List (Nat × Index t) :=
  m.targets.toList.zipIdx.filterMap fun (new, old) => new.map (old, ·)

/-! ## Faces -/

/-- What a reference becomes. Without a new index it stays. -/
def follow (m : Renumbering t) (i : Index t) : Index t := (m.get? i).getD i

/-- How many of some references become others. -/
def changes (m : Renumbering t) (references : List (Index t)) : Nat :=
  references.countP fun i => m.follow i ≠ i

/-- What triangles become. -/
def triangles (m : Renumbering t) (fs : List (Triangle t)) : List (Triangle t) :=
  fs.map (·.map m.follow)

/-- What strips become. -/
def strips (m : Renumbering t) (ss : List (Strip t)) : List (Strip t) :=
  ss.map (·.map m.follow)

/-! ## Weights -/

/-- What a weight becomes. Without a new index it is dropped. -/
def weight? (m : Renumbering t) (w : VertexWeight t) : Option (VertexWeight t) :=
  (m.get? w.index).map fun new => { w with index := new }

/-- What bones become. -/
def bones (m : Renumbering t) (bs : List (BoneWeights t)) : List (BoneWeights t) :=
  bs.map fun bone => { weights := bone.weights.filterMap m.weight? }

/-- How many weights of some bones are dropped. -/
def dropped (m : Renumbering t) : List (BoneWeights t) → Nat
  | [] => 0
  | bone :: rest =>
    bone.weights.length - (bone.weights.filterMap m.weight?).length + m.dropped rest

end Renumbering

end IndexedMesh
