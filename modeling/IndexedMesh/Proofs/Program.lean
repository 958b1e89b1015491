import IndexedMesh.Command.Program
import IndexedMesh.Proofs.Run

/-!
# Running the program on a desk

On a desk the program is a function of the files. What it prints and what it logs never decides
anything, so a run is described by what it answers and by the files that it leaves, and the run of a
sequence is put together from such descriptions of its steps.

Of the program there remain the reading of a document, the operation, and at most two files that
are written, the one of the clipboard and then the one of the document.

## Main results

* `Ends` — a run that answers, with the files that it leaves.
* `ends_bind_iff` — sequences.
* `ends_load_iff`, `ends_performOn_iff`, `ends_save_iff` — the parts of the program.
* `ends_carryOut_iff` — when an operation is carried out to the end, and the files that are left.
-/

namespace IndexedMesh.Command

open Json

/-- What the program does on a desk. -/
abbrev Deskwork (α : Type) : Type := ExceptT Failure (StateM Desk) α

/-- The run answers `a` and leaves these files. -/
def Ends {α : Type} (x : Deskwork α) (desk : Desk) (a : α) (files : FileTree) : Prop :=
  ∃ desk', x.run desk = (.ok a, desk') ∧ desk'.files = files

variable {α β : Type} {desk : Desk} {files : FileTree} {logging : Logging} {path : String}
  {document : Document} {outcome : Outcome}

/-! ## Steps and sequences -/

theorem ends_pure_iff {a b : α} :
    Ends (pure b : Deskwork α) desk a files ↔ b = a ∧ desk.files = files := by
  constructor
  · rintro ⟨desk', hRun, rfl⟩
    cases hRun
    exact ⟨rfl, rfl⟩
  · rintro ⟨rfl, rfl⟩
    exact ⟨desk, rfl, rfl⟩

theorem not_ends_throw {a : α} {e : Failure} : ¬ Ends (throw e : Deskwork α) desk a files := by
  rintro ⟨desk', hRun, _⟩
  cases hRun

/-- A step of the surroundings always answers. -/
theorem ends_lift_iff {x : StateM Desk α} {a : α} :
    Ends (liftM x) desk a files ↔ (x.run desk).1 = a ∧ (x.run desk).2.files = files := by
  constructor
  · rintro ⟨desk', hRun, rfl⟩
    cases hRun
    exact ⟨rfl, rfl⟩
  · rintro ⟨rfl, rfl⟩
    exact ⟨_, rfl, rfl⟩

/-- **A sequence ends as its second step does**, which starts from the files that the first one has
left. Nothing else that the first step does may matter to the second. -/
theorem ends_bind_iff {x : Deskwork α} {f : α → Deskwork β} {b : β}
    {R : α → FileTree → Prop} (hRest : ∀ a desk, Ends (f a) desk b files ↔ R a desk.files) :
    Ends (x >>= f) desk b files ↔ ∃ a files₁, Ends x desk a files₁ ∧ R a files₁ := by
  constructor
  · rintro ⟨desk', hRun, hFiles⟩
    obtain ⟨a, desk₁, hFirst, hSecond⟩ := Edit.run_bind_eq_ok_iff.1 hRun
    exact ⟨a, desk₁.files, ⟨desk₁, hFirst, rfl⟩, (hRest a desk₁).1 ⟨desk', hSecond, hFiles⟩⟩
  · rintro ⟨a, _, ⟨desk₁, hFirst, rfl⟩, hSecond⟩
    obtain ⟨desk', hRun, hFiles⟩ := (hRest a desk₁).2 hSecond
    exact ⟨desk', (Edit.run_bind_of_ok hFirst f).trans hRun, hFiles⟩

/-! ## Telling -/

/-- The step answers, and leaves the files as they are. -/
def Tells (x : Deskwork PUnit) : Prop :=
  ∀ desk files, Ends x desk ⟨⟩ files ↔ desk.files = files

theorem tells_printLine (line : String) :
    Tells (liftM (Surroundings.printLine line : StateM Desk Unit)) :=
  fun _ _ => ends_lift_iff.trans ⟨And.right, fun h => ⟨rfl, h⟩⟩

theorem tells_log (logging : Logging) (event : Event) :
    Tells (liftM (logging.log event : StateM Desk Unit)) := by
  intro desk files
  have hFiles : ((logging.log event : StateM Desk Unit).run desk).2.files = desk.files := by
    rw [Logging.log]
    split <;> rfl
  rw [ends_lift_iff, hFiles]
  exact ⟨And.right, fun h => ⟨rfl, h⟩⟩

/-- What follows a telling step starts from the same files. -/
theorem ends_bind_iff_of_tells {x : Deskwork PUnit} {y : Deskwork β} {b : β}
    {R : FileTree → Prop} (hx : Tells x) (hRest : ∀ desk, Ends y desk b files ↔ R desk.files) :
    Ends (x >>= fun _ => y) desk b files ↔ R desk.files := by
  rw [ends_bind_iff (R := fun _ => R) fun _ => hRest]
  constructor
  · rintro ⟨_, files₁, hFirst, hSecond⟩
    rw [(hx _ _).1 hFirst]
    exact hSecond
  · exact fun h => ⟨⟨⟩, desk.files, (hx _ _).2 rfl, h⟩

/-- Telling one thing after another. -/
theorem tells_forM {f : α → Deskwork PUnit} (hf : ∀ a, Tells (f a)) (items : List α) :
    Tells (items.forM f) := by
  induction items with
  | nil => exact fun _ _ => ends_pure_iff.trans ⟨And.right, fun h => ⟨rfl, h⟩⟩
  | cons a more ih =>
      exact fun _ files => ends_bind_iff_of_tells (R := (· = files)) (hf a) (ih · files)

/-! ## Documents -/

/-- A file is written. -/
theorem ends_writeFile_iff {text : String} :
    Ends (liftM (Surroundings.writeFile path text : StateM Desk (Except FileError Unit))) desk
        (.ok ()) files ↔ desk.files.write path text = .ok files := by
  rw [ends_lift_iff]
  cases hWrite : desk.files.write path text with
  | error e =>
      have hStep : ((Surroundings.writeFile path text : StateM Desk (Except FileError Unit)).run
          desk).1 = .error e := by
        simp only [Surroundings.writeFile, StateT.run_bind, StateT.run_get, pure_bind, hWrite]
        rfl
      rw [hStep]
      constructor
      · rintro ⟨h, _⟩
        cases h
      · intro h
        cases h
  | ok written =>
      have hStep : (Surroundings.writeFile path text : StateM Desk (Except FileError Unit)).run
          desk = (.ok (), { desk with
            files := written, output := desk.output ++ desk.files.printed path text }) := by
        simp only [Surroundings.writeFile, StateT.run_bind, StateT.run_get, pure_bind, hWrite]
        rfl
      rw [hStep]
      constructor
      · rintro ⟨_, rfl⟩
        rfl
      · intro h
        cases h
        exact ⟨rfl, rfl⟩

/-- **A document is what the text of its file is read as.** -/
theorem ends_load_iff :
    Ends (load path) desk document files ↔
      (∃ text, desk.files.read path = .ok text ∧ Document.format.parse text = .ok document) ∧
        desk.files = files := by
  have hRead : (liftM (Surroundings.readFile path : StateM Desk (Except FileError String)) :
      Deskwork (Except FileError String)).run desk = (.ok (desk.files.read path), desk) := rfl
  rw [Ends, load, Edit.run_bind_of_ok hRead]
  cases desk.files.read path with
  | error e =>
      refine ⟨fun h => absurd h not_ends_throw, ?_⟩
      rintro ⟨⟨_, h, _⟩, _⟩
      cases h
  | ok text =>
      dsimp only
      cases hParse : Document.format.parse text with
      | error fault =>
          refine ⟨fun h => absurd h not_ends_throw, ?_⟩
          rintro ⟨⟨_, h, hFound⟩, _⟩
          cases h
          cases hParse.symm.trans hFound
      | ok found =>
          refine ends_pure_iff.trans (and_congr_left' ?_)
          constructor
          · rintro rfl
            exact ⟨text, rfl, hParse⟩
          · rintro ⟨_, h, hFound⟩
            cases h
            cases hParse.symm.trans hFound
            rfl

/-- **What is saved is the document with every part on its own line.** -/
theorem ends_save_iff :
    Ends (save logging document path) desk () files ↔
      desk.files.write path (Document.format.pretty document) = .ok files := by
  rw [save]
  refine (ends_bind_iff (R := fun answer files₁ => answer = .ok () ∧ files₁ = files)
    fun answer desk => ?_).trans ?_
  · cases answer with
    | error e =>
        refine ⟨fun h => absurd h not_ends_throw, ?_⟩
        rintro ⟨h, _⟩
        cases h
    | ok _ => exact (tells_log logging savedEvent desk files).trans ⟨fun h => ⟨rfl, h⟩, And.right⟩
  · constructor
    · rintro ⟨_, _, hWritten, rfl, rfl⟩
      exact ends_writeFile_iff.1 hWritten
    · exact fun h => ⟨.ok (), files, ends_writeFile_iff.2 h, rfl, rfl⟩

/-! ## Operations -/

/-- The clipboard that an operation finds among some files. -/
def FileTree.clipboard (files : FileTree) (operation path : String) : Clipboard :=
  if (Operation.find? operation).any (·.readsClipboard) then Clipboard.ofFile (files.read path)
  else {}

/-- The files with what an operation leaves on the clipboard, which is written if the operation has
changed it. -/
def FileTree.withClipboard (files : FileTree) (operation path : String) (left : Clipboard) :
    Except FileError FileTree :=
  if left = files.clipboard operation path then .ok files
  else files.write path (left.text.getD "")

/-- The files with the document that an operation leaves, which is written unless there was nothing
to do. -/
def FileTree.withDocument (files : FileTree) (outcome : Outcome) (path : String)
    (document : Document) : Except FileError FileTree :=
  if outcome.isNoop then .ok files else files.write path (Document.format.pretty document)

variable {operation clipboard : String} {block : Option BlockId} {mode : Nat}

private theorem run_clipboardFor (operation path : String) (desk : Desk) :
    (liftM (clipboardFor operation path : StateM Desk Clipboard) : Deskwork Clipboard).run desk =
      (.ok (desk.files.clipboard operation path), desk) := by
  change (Except.ok ((clipboardFor operation path : StateM Desk Clipboard).run desk).1,
    ((clipboardFor operation path : StateM Desk Clipboard).run desk).2) = _
  rw [clipboardFor, FileTree.clipboard]
  split <;> rfl

/-- **An operation is carried out** on the document and on the clipboard among the files. -/
theorem ends_performOn_iff {document' : Document} :
    Ends (performOn document operation block mode clipboard) desk (outcome, document') files ↔
      ∃ w, (performNamed operation block mode).run
          { document, clipboard := desk.files.clipboard operation clipboard } = (.ok outcome, w) ∧
        desk.files.withClipboard operation clipboard w.clipboard = .ok files ∧
        w.document = document' := by
  rw [Ends, performOn, Edit.run_bind_of_ok (run_clipboardFor operation clipboard desk)]
  dsimp only
  rcases (performNamed operation block mode).run
    { document, clipboard := desk.files.clipboard operation clipboard } with ⟨answer, w⟩
  cases answer with
  | error e =>
      refine ⟨fun h => absurd h not_ends_throw, ?_⟩
      rintro ⟨_, h, _⟩
      cases h
  | ok found =>
      dsimp only [FileTree.withClipboard]
      by_cases hSame : w.clipboard = desk.files.clipboard operation clipboard
      · rw [if_neg (not_not_intro hSame)]
        refine ends_pure_iff.trans ?_
        constructor
        · rintro ⟨hDone, rfl⟩
          cases hDone
          exact ⟨w, rfl, if_pos hSame, rfl⟩
        · rintro ⟨_, hRun, hFiles, rfl⟩
          cases hRun
          rw [if_pos hSame] at hFiles
          cases hFiles
          exact ⟨rfl, rfl⟩
      · rw [if_pos hSame]
        refine (ends_bind_iff (R := fun written files₁ => written = .ok () ∧
          (found, w.document) = (outcome, document') ∧ files₁ = files)
            fun written desk => ?_).trans ?_
        · cases written with
          | error e =>
              constructor
              · rintro ⟨_, h, _⟩
                cases h
              · rintro ⟨h, _⟩
                cases h
          | ok _ => exact ends_pure_iff.trans ⟨fun h => ⟨rfl, h⟩, And.right⟩
        · constructor
          · rintro ⟨_, _, hWritten, rfl, hDone, rfl⟩
            cases hDone
            refine ⟨w, rfl, (if_neg hSame).trans ?_, rfl⟩
            exact ends_writeFile_iff.1 hWritten
          · rintro ⟨_, hRun, hFiles, rfl⟩
            cases hRun
            rw [if_neg hSame] at hFiles
            exact ⟨.ok (), files, ends_writeFile_iff.2 hFiles, rfl, rfl, rfl⟩

/-- After an operation its notices are told, and the document is saved unless there was nothing to
do. -/
private theorem ends_conclusion_iff (span : Option Span) :
    Ends (do
      outcome.notices.forM fun notice => logging.log (m := StateM Desk) (noticeEvent span notice)
      outcome.notices.forM fun notice => Surroundings.printLine (m := StateM Desk) notice.text
      if !outcome.isNoop then save logging document path : Deskwork Unit) desk () files ↔
      desk.files.withDocument outcome path document = .ok files := by
  have hLog : Tells (outcome.notices.forM fun notice =>
      liftM (logging.log (noticeEvent span notice) : StateM Desk Unit)) := by
    refine tells_forM (fun notice => ?_) outcome.notices
    exact tells_log logging (noticeEvent span notice)
  have hPrint : Tells (outcome.notices.forM fun notice =>
      liftM (Surroundings.printLine notice.text : StateM Desk Unit)) := by
    refine tells_forM (fun notice => ?_) outcome.notices
    exact tells_printLine notice.text
  have hSave : ∀ desk, Ends (if !outcome.isNoop then save logging document path else pure ()) desk
      () files ↔ desk.files.withDocument outcome path document = .ok files := by
    intro desk
    unfold FileTree.withDocument
    cases outcome.isNoop with
    | true =>
        rw [if_pos rfl, Except.ok.injEq]
        exact ends_pure_iff.trans ⟨And.right, fun h => ⟨rfl, h⟩⟩
    | false => exact ends_save_iff
  refine ends_bind_iff_of_tells (R := (·.withDocument outcome path document = .ok files)) hLog
    fun desk => ?_
  exact ends_bind_iff_of_tells (R := (·.withDocument outcome path document = .ok files)) hPrint
    hSave

/-- **An operation is carried out to the end** exactly if the document can be read, the operation
succeeds on it, and the files that are written can be. -/
theorem ends_carryOut_iff {arguments : Arguments} {output : Option String}
    (hAction : arguments.action = .perform operation block mode clipboard output) :
    Ends (carryOut logging arguments) desk () files ↔
      ∃ text document outcome w files₁,
        desk.files.read arguments.document = .ok text ∧
        Document.format.parse text = .ok document ∧
        (performNamed operation block mode).run
          { document, clipboard := desk.files.clipboard operation clipboard } = (.ok outcome, w) ∧
        desk.files.withClipboard operation clipboard w.clipboard = .ok files₁ ∧
        files₁.withDocument outcome (output.getD arguments.document) w.document = .ok files := by
  rw [carryOut]
  simp only [hAction]
  refine (ends_bind_iff (R := fun document files₀ => ∃ outcome w files₁,
    (performNamed operation block mode).run
      { document, clipboard := files₀.clipboard operation clipboard } = (.ok outcome, w) ∧
    files₀.withClipboard operation clipboard w.clipboard = .ok files₁ ∧
    files₁.withDocument outcome (output.getD arguments.document) w.document = .ok files)
    fun document desk => ?_).trans ?_
  · refine (ends_bind_iff (R := fun done files₁ =>
      files₁.withDocument done.1 (output.getD arguments.document) done.2 = .ok files)
      fun done desk => ends_conclusion_iff _).trans ?_
    constructor
    · rintro ⟨⟨outcome, document'⟩, files₁, hPerformed, hWritten⟩
      obtain ⟨w, hRun, hFiles, rfl⟩ := ends_performOn_iff.1 hPerformed
      exact ⟨outcome, w, files₁, hRun, hFiles, hWritten⟩
    · rintro ⟨outcome, w, files₁, hRun, hFiles, hWritten⟩
      exact ⟨(outcome, w.document), files₁, ends_performOn_iff.2 ⟨w, hRun, hFiles, rfl⟩, hWritten⟩
  · constructor
    · rintro ⟨document, _, hLoad, outcome, w, files₁, hRun, hFiles, hWritten⟩
      obtain ⟨⟨text, hRead, hParse⟩, rfl⟩ := ends_load_iff.1 hLoad
      exact ⟨text, document, outcome, w, files₁, hRead, hParse, hRun, hFiles, hWritten⟩
    · rintro ⟨text, document, outcome, w, files₁, hRead, hParse, hRun, hFiles, hWritten⟩
      exact ⟨document, desk.files, ends_load_iff.2 ⟨⟨text, hRead, hParse⟩, rfl⟩,
        outcome, w, files₁, hRun, hFiles, hWritten⟩

end IndexedMesh.Command
