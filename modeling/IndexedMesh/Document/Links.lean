import IndexedMesh.Document.Basic

/-!
# Links between blocks

A link leads somewhere only if the block is still there and of the kind that the link is for; any
other link leads nowhere. From a shape the links go to its geometry, and over its skin instance to
the skin data and to a skin partition, which either of these two may hold.

## Main definitions

* `Document.shapeData?`, `Document.skinInstance?`, `Document.skinData?` — where a link leads.
* `Document.skinDataOf?` — the skin data of a shape.
* `Document.findPartition?` — the skin partition of a shape.
-/

namespace IndexedMesh.Document

/-- Follows a link to a block of one kind. -/
def follow? (d : Document) (link : Option BlockId) (kind : BlockKind) : Option BlockId :=
  (d.resolve link).filter fun id => d.kind? id = some kind

/-- The geometry of a shape. -/
def shapeData? (d : Document) (shape : BlockId) : Option BlockId :=
  match d.shape shape with
  | .ok s => d.follow? s.data .geometry
  | .error _ => none

/-- The skin instance of a shape of either kind. -/
def skinInstance? (d : Document) (shape : BlockId) : Option BlockId :=
  match d.get? shape with
  | some (.shape s) => d.follow? s.skinInstance .skinInstance
  | some (.packedShape s) => d.follow? s.skinInstance .skinInstance
  | _ => none

/-- The skin data of a skin instance. -/
def skinData? (d : Document) (inst : BlockId) : Option BlockId :=
  match d.skinInstance inst with
  | .ok i => d.follow? i.data .skinData
  | .error _ => none

/-- The partition that a skin instance links to. -/
def instancePartition? (d : Document) (inst : BlockId) : Option BlockId :=
  match d.skinInstance inst with
  | .ok i => d.follow? i.partition .skinPartition
  | .error _ => none

/-- The partition that skin data link to. -/
def dataPartition? (d : Document) (skinData : BlockId) : Option BlockId :=
  match d.skinData skinData with
  | .ok s => d.follow? s.partition .skinPartition
  | .error _ => none

/-- The skin data of a shape. -/
def skinDataOf? (d : Document) (shape : BlockId) : Option BlockId :=
  (d.skinInstance? shape).bind d.skinData?

/-- The skin partition of a shape. The link of its skin instance goes before the one of its skin
data. -/
def findPartition? (d : Document) (shape : BlockId) : Option BlockId :=
  (d.skinInstance? shape).bind fun inst =>
    (d.instancePartition? inst).or ((d.skinData? inst).bind d.dataPartition?)

end IndexedMesh.Document
