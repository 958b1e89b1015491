import IndexedMesh.Document.Format
import IndexedMesh.Proofs.Interchange

/-!
# Documents lose nothing in their text

Every part of a document is kept by its format: names with any characters, links that are not there
and links that lead nowhere, empty slots, empty sets of texture coordinates, integers of each width,
and floating-point numbers with each of their bits. So a document is read back as it was, from the
text without blanks and from the one with every part on its own line. The one exception are numbers
that are not finite: a document that has one has no text that can be read.

## Main results

* `Document.numbers` — the floating-point numbers of a document.
* `Document.faithful_format` — a document is kept.
* `Document.parse_written` — **documents are read back as they were.**
-/

namespace IndexedMesh

open Json Reader

/-! ## The parts of blocks -/

theorem BlockId.faithful_format : BlockId.format.Faithful fun _ => [] :=
  Format.faithful_uint32.map fun _ => rfl

/-- A handle is no null. -/
theorem BlockId.head?_write (id : BlockId) (layout : Layout) :
    (BlockId.format.write id layout).head? ≠ some 'n' := by
  intro h
  have hDigit : 'n'.isDigit = true := isDigit_of_mem_digitsText (List.mem_of_mem_head? h)
  exact absurd hDigit (by decide)

theorem Header.faithful_format : Header.format.Faithful fun _ => [] := by
  have hMembers := Members.Faithful.required "version" Format.faithful_uint32 (by decide)
    (Members.Faithful.required "user_version" Format.faithful_uint32 (by decide)
    (Members.Faithful.required "user_version_2" Format.faithful_uint32 (by decide) .nil))
  exact (Format.faithful_record hMembers).map fun _ => rfl

theorem Shape.faithful_format : Shape.format.Faithful fun _ => [] := by
  have hMembers := Members.Faithful.required "name" Format.faithful_text (by decide)
    (Members.Faithful.optional "data" BlockId.faithful_format BlockId.head?_write (by decide)
    (Members.Faithful.optional "skin_instance" BlockId.faithful_format BlockId.head?_write
      (by decide) .nil))
  refine ((Format.faithful_record hMembers).map fun _ => rfl).of_eq fun s => ?_
  simp

/-- The numbers of a geometry. -/
def GeometryData.numbers (g : GeometryData) : List Float32 :=
  g.vertices.toList.flatMap Vec3.components ++ g.normals.toList.flatMap Vec3.components ++
    g.vertexColors.toList.flatMap Rgba.components ++
    g.uvSets.flatMap (fun set => set.toList.flatMap Texcoord.components) ++
    g.center.components ++ [g.radius]

theorem GeometryData.faithful_format : GeometryData.format.Faithful GeometryData.numbers := by
  have hMembers := Members.Faithful.required "num_vertices" Format.faithful_uint16 (by decide)
    (Members.Faithful.required "vertices" Position.faithful_format.array (by decide)
    (Members.Faithful.required "normals" Position.faithful_format.array (by decide)
    (Members.Faithful.required "vertex_colors" Rgba.faithful_format.array (by decide)
    (Members.Faithful.required "uv_sets" Texcoord.faithful_format.array.list (by decide)
    (Members.Faithful.required "consistency_flags" Format.faithful_uint16 (by decide)
    (Members.Faithful.required "center" Position.faithful_format (by decide)
    (Members.Faithful.required "radius" Format.faithful_float32 (by decide)
    (Members.Faithful.required "triangles" Triangle.faithful_format.list (by decide)
    (Members.Faithful.required "strips" Index.faithful_format.list.list (by decide) .nil)))))))))
  refine ((Format.faithful_record hMembers).map fun _ => rfl).of_eq fun g => ?_
  simp [GeometryData.numbers]

theorem SkinInstance.faithful_format : SkinInstance.format.Faithful fun _ => [] := by
  have hMembers := Members.Faithful.optional "data" BlockId.faithful_format BlockId.head?_write
    (by decide) (Members.Faithful.optional "partition" BlockId.faithful_format BlockId.head?_write
    (by decide) .nil)
  refine ((Format.faithful_record hMembers).map fun _ => rfl).of_eq fun i => ?_
  simp

theorem VertexWeight.faithful_format : VertexWeight.format.Faithful fun w => [w.weight] := by
  have hMembers := Members.Faithful.required "index" Index.faithful_format (by decide)
    (Members.Faithful.required "weight" Format.faithful_float32 (by decide) .nil)
  exact (Format.faithful_record hMembers).map fun _ => rfl

/-- The numbers of a bone. -/
def BoneData.numbers (b : BoneData) : List Float32 := b.vertexWeights.map (·.weight)

theorem BoneData.faithful_format : BoneData.format.Faithful BoneData.numbers := by
  have hMembers := Members.Faithful.required "num_vertices" Format.faithful_uint16 (by decide)
    (Members.Faithful.required "vertex_weights" VertexWeight.faithful_format.list (by decide) .nil)
  refine ((Format.faithful_record hMembers).map fun _ => rfl).of_eq fun b => ?_
  simp [BoneData.numbers, List.map_eq_flatMap]

theorem SkinData.faithful_format :
    SkinData.format.Faithful fun s => s.bones.flatMap BoneData.numbers := by
  have hMembers := Members.Faithful.required "bones" BoneData.faithful_format.list (by decide)
    (Members.Faithful.optional "partition" BlockId.faithful_format BlockId.head?_write (by decide)
      .nil)
  refine ((Format.faithful_record hMembers).map fun _ => rfl).of_eq fun s => ?_
  simp

/-- The numbers of a vertex. -/
def PackedVertex.numbers (v : PackedVertex) : List Float32 :=
  v.vertex.components ++ v.uv.components ++ v.normal.components

theorem PackedVertex.faithful_format : PackedVertex.format.Faithful PackedVertex.numbers := by
  have hMembers := Members.Faithful.required "vertex" Position.faithful_format (by decide)
    (Members.Faithful.required "uv" Texcoord.faithful_format (by decide)
    (Members.Faithful.required "normal" Position.faithful_format (by decide) .nil))
  refine ((Format.faithful_record hMembers).map fun _ => rfl).of_eq fun v => ?_
  simp [PackedVertex.numbers]

theorem SkinPartition.faithful_format :
    SkinPartition.format.Faithful fun p => p.vertexData.toList.flatMap PackedVertex.numbers := by
  have hMembers := Members.Faithful.required "has_normals" Format.faithful_bool (by decide)
    (Members.Faithful.required "vertex_data" PackedVertex.faithful_format.array (by decide) .nil)
  refine ((Format.faithful_record hMembers).map fun _ => rfl).of_eq fun p => ?_
  simp

/-- The numbers of a packed shape. -/
def PackedShape.numbers (s : PackedShape) : List Float32 :=
  s.vertexData.toList.flatMap PackedVertex.numbers ++ s.center.components ++ [s.radius]

theorem PackedShape.faithful_format : PackedShape.format.Faithful PackedShape.numbers := by
  have hMembers := Members.Faithful.required "name" Format.faithful_text (by decide)
    (Members.Faithful.required "has_normals" Format.faithful_bool (by decide)
    (Members.Faithful.required "vertex_data" PackedVertex.faithful_format.array (by decide)
    (Members.Faithful.required "triangles" Triangle.faithful_format.list (by decide)
    (Members.Faithful.required "center" Position.faithful_format (by decide)
    (Members.Faithful.required "radius" Format.faithful_float32 (by decide)
    (Members.Faithful.optional "skin_instance" BlockId.faithful_format BlockId.head?_write
      (by decide) .nil))))))
  have hNone : ∀ {α : Type} (values : List α), values.flatMap (fun _ => ([] : List Float32)) = [] :=
    fun values => List.flatMap_eq_nil_iff.2 fun _ _ => rfl
  refine ((Format.faithful_record hMembers).map fun _ => rfl).of_eq fun s => ?_
  simp [PackedShape.numbers, hNone]

/-! ## Blocks and documents -/

/-- The numbers of a block. -/
def Block.numbers : Block → List Float32
  | .shape _ => []
  | .geometry g => g.numbers
  | .skinInstance _ => []
  | .skinData s => s.bones.flatMap BoneData.numbers
  | .skinPartition p => p.vertexData.toList.flatMap PackedVertex.numbers
  | .packedShape s => s.numbers

private theorem reads_carried {α : Type} {format : Format α} {numbers : α → List Float32}
    (h : format.Faithful numbers) (block : α → Block) (a : α) {blanks rest : List Char}
    (layout : Layout) (hBlanks : Blank blanks) (hRest : Delimited rest) :
    Reads (AllFinite (numbers a)) (block <$> format.read)
      (blanks ++ (format.write a layout ++ rest)) (block a) rest := by
  rw [Reads, map_congr_text block (h.skips blanks _ hBlanks)]
  exact (h.reads a layout rest hRest).map block

private theorem find?_written (kind : BlockKind) :
    (BlockKind.all.map fun kind => (kind.written, Block.alternative kind)).find?
      (fun entry => kind.written.toList = entry.1.toList) =
        some (kind.written, Block.alternative kind) := by
  cases kind <;> simp [BlockKind.all, BlockKind.written]

theorem Block.faithful_format : Block.format.Faithful Block.numbers := by
  refine Format.faithful_oneOf fun block => ?_
  have hKind := find?_written block.kind
  cases block with
  | shape s =>
    exact ⟨_, hKind, fun _ layout _ => reads_carried Shape.faithful_format _ s layout⟩
  | geometry g =>
    exact ⟨_, hKind, fun _ layout _ => reads_carried GeometryData.faithful_format _ g layout⟩
  | skinInstance i =>
    exact ⟨_, hKind, fun _ layout _ => reads_carried SkinInstance.faithful_format _ i layout⟩
  | skinData s =>
    exact ⟨_, hKind, fun _ layout _ => reads_carried SkinData.faithful_format _ s layout⟩
  | skinPartition p =>
    exact ⟨_, hKind, fun _ layout _ => reads_carried SkinPartition.faithful_format _ p layout⟩
  | packedShape s =>
    exact ⟨_, hKind, fun _ layout _ => reads_carried PackedShape.faithful_format _ s layout⟩

/-- A block is no null. -/
theorem Block.head?_write (block : Block) (layout : Layout) :
    (Block.format.write block layout).head? ≠ some 'n' := by
  change (Written.bracketed '{' '}'
    [Written.member (writeText block.kind.written.toList) block.written] layout).head? ≠ some 'n'
  rw [head?_bracketed]
  decide

/-- The numbers of a document. -/
def Document.numbers (d : Document) : List Float32 :=
  d.slots.toList.flatMap fun slot => slot.toList.flatMap Block.numbers

/-- **A document is kept.** -/
theorem Document.faithful_format : Document.format.Faithful Document.numbers := by
  have hMembers := Members.Faithful.required "header" Header.faithful_format (by decide)
    (Members.Faithful.required "blocks"
      (Block.faithful_format.optional Block.head?_write).array (by decide) .nil)
  refine ((Format.faithful_record hMembers).map fun _ => rfl).of_eq fun d => ?_
  simp [Document.numbers]

/-- **Documents are read back as they were**, from both of their texts. -/
theorem Document.parse_written (d : Document) (hFinite : ∀ x ∈ d.numbers, x.isFinite = true) :
    Document.format.parse (Document.format.compact d) = .ok d ∧
      Document.format.parse (Document.format.pretty d) = .ok d :=
  ⟨(Document.faithful_format.parse_compact d).1 hFinite,
    (Document.faithful_format.parse_pretty d).1 hFinite⟩

/-- A document with an empty slot, a link that leads nowhere and one that is not there, an empty set
of texture coordinates, minus zero, the greatest index, and a name that has to be escaped. -/
def unevenDocument : Document where
  header := { version := 4294967295 }
  slots := #[
    some (.shape { name := "\"é\\\n\t\x00😀", data := some ⟨2⟩, skinInstance := some ⟨9⟩ }),
    none,
    some (.geometry {
      numVertices := 65535
      vertices := #[⟨.ofBits 0x80000000, 1, .ofBits 1⟩]
      uvSets := [#[], #[⟨0, 1⟩]]
      triangles := [⟨.ofPosition 0, .ofPosition 65535, .ofPosition 0⟩]
      strips := [[]] }),
    some (.skinData { bones := [⟨0, [⟨.ofPosition 3, .ofBits 0x3f000000⟩]⟩] })]

theorem Document.parse_written_unevenDocument :
    (∀ x ∈ unevenDocument.numbers, x.isFinite = true) ∧
      Document.format.parse (Document.format.compact unevenDocument) = .ok unevenDocument ∧
      Document.format.parse (Document.format.pretty unevenDocument) = .ok unevenDocument :=
  have hFinite : ∀ x ∈ unevenDocument.numbers, x.isFinite = true := by decide
  ⟨hFinite, Document.parse_written unevenDocument hFinite⟩

end IndexedMesh
