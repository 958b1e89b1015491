import IndexedMesh.Proofs.FiniteNumbers
import IndexedMesh.Proofs.Program

/-!
# What the program saves can be read again

After an operation the program saves the document, over the file that it came from unless another
one is named. Whether the text that it saves is read as the document again depends on one thing: a
number that is not finite is written as null, and null is not read as a number. Such numbers come
from two sources. A text may hold a number beyond the range of single precision, which is read as
infinity, and the operations that compute bounds may leave that range on the way.

So a document of finite numbers stays readable under every operation that computes no bounds, if
what it pastes is finite too, and under the others exactly if the bounds are finite.

## Main results

* `saved_readBack_iff` — **when the saved text is read as the document that was saved.**
* `farShape_not_readBack` — bounds that leave the range.
-/

namespace IndexedMesh.Command

open Json

/-- A document is read back from its text exactly if its numbers are finite. Otherwise the text is
not read at all. -/
theorem parse_pretty_iff (d : Document) :
    (Document.format.parse (Document.format.pretty d) = .ok d ↔
        ∀ x ∈ d.numbers, x.isFinite = true) ∧
      (Document.format.parse (Document.format.pretty d) ≠ .ok d →
        ∃ fault, Document.format.parse (Document.format.pretty d) = .error fault) := by
  obtain ⟨hFinite, hNot⟩ := Document.faithful_format.parse_pretty d
  by_cases h : AllFinite d.numbers
  · exact ⟨⟨fun _ => h, fun _ => hFinite h⟩, fun hne => absurd (hFinite h) hne⟩
  · obtain ⟨fault, hFault⟩ := hNot h
    refine ⟨⟨fun hParse => ?_, fun hAll => absurd hAll h⟩, fun _ => ⟨fault, hFault⟩⟩
    cases hFault.symm.trans hParse

section

variable {logging : Logging} {arguments : Arguments} {operation clipboard text : String}
  {block : Option BlockId} {mode : Nat} {output : Option String} {desk desk' : Desk}
  {document : Document} {outcome : Outcome} {w : Workspace}

/-- **When the saved text is read as the document that was saved.** The text is what the program
writes after an operation that has done something. -/
theorem saved_readBack_iff
    (hAction : arguments.action = .perform operation block mode clipboard output)
    (hRead : desk.files.read arguments.document = .ok text)
    (hParse : Document.format.parse text = .ok document)
    (hPerform : (performNamed operation block mode).run
      { document, clipboard := desk.files.clipboard operation clipboard } = (.ok outcome, w))
    (hDone : outcome.isNoop = false)
    (hRun : (carryOut logging arguments : ExceptT Failure (StateM Desk) Unit).run desk =
      (.ok (), desk')) :
    (∃ files : FileTree, files.write (output.getD arguments.document)
        (Document.format.pretty w.document) = .ok desk'.files) ∧
      (Document.format.parse (Document.format.pretty w.document) = .ok w.document ↔
        ∀ x ∈ w.document.numbers, x.isFinite = true) ∧
      (Document.format.parse (Document.format.pretty w.document) ≠ .ok w.document →
        ∃ fault, Document.format.parse (Document.format.pretty w.document) = .error fault) ∧
      ((∀ x ∈ document.numbers, x.isFinite = true) →
        (Operation.find? operation).any (·.computesBounds) = false →
          (desk.files.clipboard operation clipboard).Finite →
            Document.format.parse (Document.format.pretty w.document) = .ok w.document) := by
  obtain ⟨hIff, hNot⟩ := parse_pretty_iff w.document
  refine ⟨?_, hIff, hNot, fun hFinite hOp hClipboard => hIff.2 ?_⟩
  · obtain ⟨_, _, _, _, files, hRead', hParse', hPerform', _, hWritten⟩ :=
      (ends_carryOut_iff hAction).1 ⟨desk', hRun, rfl⟩
    cases hRead.symm.trans hRead'
    cases hParse.symm.trans hParse'
    cases hPerform.symm.trans hPerform'
    rw [FileTree.withDocument, hDone] at hWritten
    exact ⟨files, hWritten⟩
  · unfold performNamed at hPerform
    cases hFind : Operation.find? operation with
    | none =>
        rw [hFind] at hPerform
        cases hPerform
    | some op =>
        rw [hFind] at hOp hPerform
        refine Operation.finite_of_perform hOp (fun _ => ?_) ?_ hPerform
        · exact hClipboard
        · exact hFinite

end

/-! ## One file -/

/-- A directory with one file. -/
def meshFile (text : String) : FileTree := { files := [(["mesh"], text)] }

private theorem locate_meshFile (toWrite : Bool) (text : String) :
    (meshFile text).locate toWrite "mesh" = .ok (.file ["mesh"] text) := by
  have hSplit : "mesh".splitOn "/" = ["mesh"] := by cbv
  rw [FileTree.locate, hSplit, if_neg (by decide), if_neg (by decide +kernel),
    if_neg (by decide +kernel)]
  cases toWrite <;> rfl

theorem read_meshFile (text : String) : (meshFile text).read "mesh" = .ok text := by
  rw [FileTree.read, locate_meshFile]

theorem write_meshFile (text text' : String) :
    (meshFile text).write "mesh" text' = .ok (meshFile text') := by
  rw [FileTree.write, locate_meshFile]
  rfl

/-- Asks for an operation on the file. -/
def meshArguments (operation : String) (block : BlockId) : Arguments where
  logFilter := "off"
  logFormat := .full
  document := "mesh"
  action := .perform operation (some block) 0 "clipboard" none

/-- An operation on the file that leaves the clipboard alone is carried out to the end. -/
theorem ends_carryOut_meshFile (logging : Logging) {operation : String} {block : BlockId}
    {document : Document} {outcome : Outcome} {w : Workspace}
    (hFinite : ∀ x ∈ document.numbers, x.isFinite = true)
    (hPerform : (performNamed operation (some block) 0).run { document } = (.ok outcome, w))
    (hDone : outcome.isNoop = false)
    (hReads : (Operation.find? operation).any (·.readsClipboard) = false)
    (hClipboard : w.clipboard = {}) :
    Ends (carryOut logging (meshArguments operation block))
      { files := meshFile (Document.format.pretty document) } ()
      (meshFile (Document.format.pretty w.document)) := by
  have hEmpty :
      (meshFile (Document.format.pretty document)).clipboard operation "clipboard" = {} := by
    rw [FileTree.clipboard, hReads]
    rfl
  refine (ends_carryOut_iff rfl).2 ⟨_, document, outcome, w,
    meshFile (Document.format.pretty document), read_meshFile _,
    (Document.parse_written document hFinite).2, ?_, ?_, ?_⟩
  · rw [hEmpty]
    exact hPerform
  · rw [FileTree.withClipboard, hEmpty, if_pos hClipboard]
  · rw [FileTree.withDocument, hDone]
    exact write_meshFile _ _

/-- A log that shows nothing. -/
def silent : Logging where
  filter := { directives := [] }
  format := .full

theorem saved_readBack_iff_unevenDocument :
    ∃ outcome w desk', (performNamed "Flip Faces" (some ⟨2⟩) 0).run { document := unevenDocument } =
        (.ok outcome, w) ∧ outcome.isNoop = false ∧
      (carryOut silent (meshArguments "Flip Faces" ⟨2⟩) : ExceptT Failure (StateM Desk) Unit).run
        { files := meshFile (Document.format.pretty unevenDocument) } = (.ok (), desk') ∧
      Document.format.parse (Document.format.pretty w.document) = .ok w.document := by
  have hFinite : ∀ x ∈ unevenDocument.numbers, x.isFinite = true := by decide
  have hPerform : (performNamed "Flip Faces" (some ⟨2⟩) 0).run { document := unevenDocument } =
      (.ok ⟨[.flippedFaces 1]⟩, _) := Prod.ext (y := (_, _)) (by decide +kernel) rfl
  have hDone : (⟨[.flippedFaces 1]⟩ : Outcome).isNoop = false := by decide
  obtain ⟨desk', hRun, _⟩ := ends_carryOut_meshFile silent hFinite hPerform hDone
    (by decide) rfl
  refine ⟨_, _, desk', hPerform, hDone, hRun, ?_⟩
  obtain ⟨_, _, _, hKept⟩ := saved_readBack_iff rfl (read_meshFile _)
    (Document.parse_written unevenDocument hFinite).2 hPerform hDone hRun
  exact hKept hFinite (by decide) Clipboard.finite_empty

/-- A packed shape with some bounds, whose two vertices are so far from the origin that the sum of
their first coordinates is out of range. -/
def farShape (bounds : Sphere Float32) : Document where
  header := { userVersion2 := 130 }
  slots := #[some (.packedShape {
    vertexData := #[
      { vertex := ⟨.ofBits 0x7f61b1e6, 0, 0⟩, uv := ⟨0, 0⟩ },
      { vertex := ⟨.ofBits 0x7f61b1e6, 0, 0⟩, uv := ⟨1, 0⟩ }]
    center := bounds.center
    radius := bounds.radius })]

/-- **Bounds can leave the range of numbers**: a document of finite numbers is read, and what is
saved after its bounds have been updated is not read at all. -/
theorem farShape_not_readBack :
    let before := farShape ⟨⟨0, 0, 0⟩, 0⟩
    (∀ x ∈ before.numbers, x.isFinite = true) ∧
      Document.format.parse (Document.format.pretty before) = .ok before ∧
      ∃ outcome w desk',
        (performNamed "Update Bounds" (some ⟨0⟩) 0).run { document := before } =
          (.ok outcome, w) ∧ outcome.isNoop = false ∧
        (carryOut silent (meshArguments "Update Bounds" ⟨0⟩) :
          ExceptT Failure (StateM Desk) Unit).run
            { files := meshFile (Document.format.pretty before) } = (.ok (), desk') ∧
        desk'.files.read "mesh" = .ok (Document.format.pretty w.document) ∧
        ∃ fault, Document.format.parse (Document.format.pretty w.document) = .error fault := by
  intro before
  let infinite : Sphere Float32 := ⟨⟨.ofBits 0x7f800000, 0, 0⟩, .ofBits 0x7f800000⟩
  have hFinite : ∀ x ∈ before.numbers, x.isFinite = true := by decide
  have hPerform : (performNamed "Update Bounds" (some ⟨0⟩) 0).run { document := before } =
      (.ok ⟨[.boundsUpdated ⟨0⟩ infinite]⟩, { document := farShape infinite }) :=
    Prod.ext (by decide +kernel) (by decide +kernel)
  have hDone : (⟨[.boundsUpdated ⟨0⟩ infinite]⟩ : Outcome).isNoop = false := by decide
  obtain ⟨desk', hRun, hFiles⟩ := ends_carryOut_meshFile silent hFinite hPerform hDone
    (by decide) rfl
  refine ⟨hFinite, (Document.parse_written _ hFinite).2, _, _, desk', hPerform, hDone, hRun, ?_, ?_⟩
  · rw [hFiles]
    exact read_meshFile _
  · have hSome : ¬ ∀ x ∈ (farShape infinite).numbers, x.isFinite = true := by decide
    exact (parse_pretty_iff _).2 (mt (parse_pretty_iff _).1.1 hSome)

end IndexedMesh.Command
