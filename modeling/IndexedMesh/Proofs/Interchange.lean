import IndexedMesh.Edit.Transfer
import IndexedMesh.Proofs.Records
import IndexedMesh.Proofs.Run

/-!
# Vertex records lose nothing on their way

What is copied as vertex records is a text, and it is pasted by reading that text. All records come
back as they were, every number with each of its bits, and every normal where it was. Only a number
that is not finite stops them: the text then holds no vertex records.

## Main results

* `VertexRecord.faithful_format` — a record is kept.
* `VertexRecord.readAll_writeAll` — **records come back as they were**, or not at all if one of
  their numbers is not finite.
-/

namespace IndexedMesh

open Json Reader

/-! ## The written form of a record -/

/-- The numbers of a record. -/
def VertexRecord.numbers (r : VertexRecord) : List Float32 :=
  r.vertex.components ++ r.normal.toList.flatMap Vec3.components ++ r.uv.components

/-- An array of numbers is no null. -/
theorem Position.head?_write (p : Position) (layout : Layout) :
    (Position.format.write p layout).head? ≠ some 'n' := by
  have hText : Position.format.write p layout = Written.bracketed '[' ']'
      [Format.float32.write p.x, Format.float32.write p.y, Format.float32.write p.z] layout := rfl
  rw [hText, head?_bracketed]
  decide

/-- **A record is kept**, with a normal that is there and with one that is not. -/
theorem VertexRecord.faithful_format : VertexRecord.format.Faithful VertexRecord.numbers := by
  have hMembers := Members.Faithful.required "vertex" Position.faithful_format (by decide)
    (Members.Faithful.omissible "normal" Position.faithful_format Position.head?_write
      (fun _ => Option.isNone_iff_eq_none.1) (by decide)
    (Members.Faithful.required "uv" Texcoord.faithful_format (by decide) .nil))
  refine ((Format.faithful_record hMembers).map fun _ => rfl).of_eq fun r => ?_
  simp [VertexRecord.numbers]

/-! ## Records on the clipboard -/

private theorem run_clipboardRecords {w : Workspace} {text : String}
    (h : w.clipboard = { text := some text }) :
    Edit.clipboardRecords.run w = ((VertexRecord.readAll text).mapError .records, w) := by
  have hGet : (get : Edit Workspace).run w = (.ok w, w) := rfl
  have hText : (Edit.attempt w.clipboard.read).run w = (.ok (some text), w) := by
    rw [h]
    rfl
  rw [Edit.clipboardRecords, Edit.run_bind_of_ok hGet, Edit.run_bind_of_ok hText]
  dsimp only
  cases VertexRecord.readAll text <;> rfl

/-- **Vertex records come back as they were.** If all numbers of the records are finite, the text of
the records is read as them, also from the clipboard of any document. If one of the numbers is not,
the text holds no records, and taking records from a clipboard with this text fails for that
reason. -/
theorem VertexRecord.readAll_writeAll (records : List VertexRecord) (document : Document) :
    let text := VertexRecord.writeAll records
    let w : Workspace := { document, clipboard := { text := some text } }
    ((∀ r ∈ records, ∀ x ∈ r.numbers, x.isFinite = true) →
      VertexRecord.readAll text = .ok records ∧ Edit.clipboardRecords.run w = (.ok records, w)) ∧
    ((∃ r ∈ records, ∃ x ∈ r.numbers, x.isFinite = false) →
      ∃ fault, VertexRecord.readAll text = .error fault ∧
        Edit.clipboardRecords.run w = (.error (.records fault), w)) := by
  intro text w
  obtain ⟨hKept, hRefused⟩ := VertexRecord.faithful_format.list.parse_pretty records
  have hRun := run_clipboardRecords (w := w) rfl
  constructor
  · intro hFinite
    have hRead : VertexRecord.readAll text = .ok records := by
      refine hKept fun x hx => ?_
      obtain ⟨r, hr, hMem⟩ := List.mem_flatMap.1 hx
      exact hFinite r hr x hMem
    rw [hRead] at hRun
    exact ⟨hRead, hRun⟩
  · rintro ⟨r, hr, x, hMem, hNot⟩
    obtain ⟨fault, hRead⟩ := hRefused fun hAll => by
      rw [hAll x (List.mem_flatMap.2 ⟨r, hr, hMem⟩)] at hNot
      cases hNot
    change VertexRecord.readAll text = .error fault at hRead
    rw [hRead] at hRun
    exact ⟨fault, hRead, hRun⟩

/-- Records at the edges: the least number, minus zero, the greatest number, digits next to a
midpoint, and a normal on one of two records. -/
def edgeRecords : List VertexRecord :=
  [⟨⟨.ofBits 1, .ofBits 0x80000000, .ofBits 0x7f7fffff⟩, none, ⟨.ofBits 0x15ae43fd, 1⟩⟩,
    ⟨.zero, some ⟨0, 0, 1⟩, ⟨0, 0⟩⟩]

theorem VertexRecord.readAll_writeAll_edgeRecords :
    (∀ r ∈ edgeRecords, ∀ x ∈ r.numbers, x.isFinite = true) ∧
      VertexRecord.readAll (VertexRecord.writeAll edgeRecords) = .ok edgeRecords :=
  have hFinite : ∀ r ∈ edgeRecords, ∀ x ∈ r.numbers, x.isFinite = true := by decide
  ⟨hFinite, ((VertexRecord.readAll_writeAll edgeRecords {}).1 hFinite).1⟩

end IndexedMesh
