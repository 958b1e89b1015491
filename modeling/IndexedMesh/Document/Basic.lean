import IndexedMesh.Document.Block

/-!
# Documents

A document is a header and a row of slots. A block is pushed into a new slot at the end, and a
block that is removed leaves its slot empty, so that no handle is ever used twice and no other
handle changes its meaning.

A look-up that asks for a kind fails in two ways: there is no block, or it is of another kind.

## Main definitions

* `Header`, `Document` — a document.
* `Document.push`, `Document.remove` — adding and removing blocks.
* `Document.get?`, `Document.typed` — looking a block up, of any kind or of one.
* `Document.update` — changing a block.
* `Document.ownerOf?` — the shape that a geometry belongs to.
-/

namespace IndexedMesh

/-- Version numbers; some operations treat older layouts in another way. -/
structure Header where
  version : UInt32 := 0
  userVersion : UInt32 := 0
  userVersion2 : UInt32 := 0
deriving DecidableEq

/-- Blocks that refer to each other by handle. -/
structure Document where
  header : Header := {}
  slots : Array (Option Block) := #[]
deriving DecidableEq

/-- Why a document refuses a read or a write. -/
inductive DocumentError
  /-- there is no block with this handle -/
  | missingBlock (id : BlockId)
  /-- the block is of another kind -/
  | wrongKind (id : BlockId) (expected found : BlockKind)
  /-- a declared count is too narrow for so many entries -/
  | overflow (field : String) (count : Nat)
deriving DecidableEq

/-- The error in words. -/
def DocumentError.message : DocumentError → String
  | .missingBlock id => s!"block {id.name} does not exist"
  | .wrongKind id expected found =>
    s!"block {id.name} is a {found.name}, expected a {expected.name}"
  | .overflow field count => s!"{field} cannot hold {count} entries"

/-- A 16-bit count, unless there are too many entries for it. -/
def narrowCount (field : String) (count : Nat) : Except DocumentError UInt16 :=
  if count < UInt16.size then .ok (UInt16.ofNat count) else .error (.overflow field count)

/-- The field that declares the number of vertices of a geometry. -/
def vertexCountField : String := "num_vertices"

/-- The field that declares the number of vertices of a bone. -/
def boneCountField : String := "bone num_vertices"

/-- Geometry from positions and faces alone. -/
def GeometryData.new (vertices : Array Position) (triangles : List (Triangle .stored)) :
    Except DocumentError GeometryData := do
  let numVertices ← narrowCount vertexCountField vertices.size
  return { numVertices, vertices, triangles }

namespace Document

/-! ## Slots -/

/-- The slot of a handle. -/
def slot (id : BlockId) : Nat := id.number.toNat

/-- Adds a block, in a new slot. -/
def push (d : Document) (block : Block) : Document × BlockId :=
  ({ d with slots := d.slots.push (some block) }, ⟨UInt32.ofNat d.slots.size⟩)

/-- The block of a handle. -/
def get? (d : Document) (id : BlockId) : Option Block := (d.slots[slot id]?).join

/-- Whether a handle has a block. -/
def contains (d : Document) (id : BlockId) : Bool := (d.get? id).isSome

/-- The kind of a block. -/
def kind? (d : Document) (id : BlockId) : Option BlockKind := (d.get? id).map Block.kind

/-- Takes a block out of its slot. The links to it stay, and lead nowhere. -/
def remove (d : Document) (id : BlockId) : Document :=
  { d with slots := d.slots.setIfInBounds (slot id) none }

/-- Puts a block into a slot. -/
def replace (d : Document) (id : BlockId) (block : Block) : Document :=
  { d with slots := d.slots.setIfInBounds (slot id) (some block) }

/-- Follows a link, if it leads to a block. -/
def resolve (d : Document) (link : Option BlockId) : Option BlockId := link.filter d.contains

/-- The handles of all blocks, in ascending order. -/
def ids (d : Document) : List BlockId :=
  d.slots.toList.zipIdx.filterMap fun (block, n) => block.map fun _ => ⟨UInt32.ofNat n⟩

/-- The number of blocks. -/
def size (d : Document) : Nat := d.slots.countP Option.isSome

/-- The first shape that links to a geometry. -/
def ownerOf? (d : Document) (data : BlockId) : Option BlockId :=
  d.ids.find? fun id => ((d.get? id).bind Block.asShape?).any (·.data = some data)

/-! ## Blocks of one kind -/

/-- What fails when a block of another kind is asked for. -/
def notA (d : Document) (id : BlockId) (expected : BlockKind) : DocumentError :=
  match d.kind? id with
  | some found => .wrongKind id expected found
  | none => .missingBlock id

/-- The block of a handle, as a block of one kind. -/
def typed {α : Type} (d : Document) (id : BlockId) (expected : BlockKind)
    (as? : Block → Option α) : Except DocumentError α :=
  match (d.get? id).bind as? with
  | some block => .ok block
  | none => .error (d.notA id expected)

/-- Changes a block by a function that answers for the kinds it can change. -/
def update (d : Document) (id : BlockId) (expected : BlockKind) (change? : Block → Option Block) :
    Except DocumentError Document := do
  return d.replace id (← d.typed id expected change?)

/-- The block of a handle, as a shape. -/
def shape (d : Document) (id : BlockId) : Except DocumentError Shape :=
  d.typed id .shape Block.asShape?

/-- The block of a handle, as geometry. -/
def geometry (d : Document) (id : BlockId) : Except DocumentError GeometryData :=
  d.typed id .geometry Block.asGeometryData?

/-- The block of a handle, as a skin instance. -/
def skinInstance (d : Document) (id : BlockId) : Except DocumentError SkinInstance :=
  d.typed id .skinInstance Block.asSkinInstance?

/-- The block of a handle, as skin data. -/
def skinData (d : Document) (id : BlockId) : Except DocumentError SkinData :=
  d.typed id .skinData Block.asSkinData?

/-- The block of a handle, as a skin partition. -/
def skinPartition (d : Document) (id : BlockId) : Except DocumentError SkinPartition :=
  d.typed id .skinPartition Block.asSkinPartition?

/-- The block of a handle, as a packed shape. -/
def packedShape (d : Document) (id : BlockId) : Except DocumentError PackedShape :=
  d.typed id .packedShape Block.asPackedShape?

end Document

end IndexedMesh
