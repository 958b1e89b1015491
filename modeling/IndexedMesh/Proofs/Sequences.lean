import IndexedMesh.Face
import IndexedMesh.Proofs.Formats
import IndexedMesh.Vertex.Point

/-!
# Arrays in a text

The parts of an array stand behind each other, each with its comma and its blanks. What is left of
the text behind a part has the same form again, so arrays of any length are read by an induction on
the parts that are left. Arrays with a fixed number of items are read one item after the other.

## Main results

* `remaining`, `bracketed_eq` — the text that is left behind a part.
* `Format.Faithful.list` — **lists of any length are kept.**
* `Position.faithful_format`, `Rgba.faithful_format`, `Texcoord.faithful_format`,
  `Triangle.faithful_format` — so are arrays with a fixed number of items.
-/

namespace IndexedMesh

open Json Reader

namespace Json

/-! ## The text of parts -/

/-- The parts that are still to come and the closing bracket, behind the opening bracket or behind
another part. -/
def remaining (closing : Char) (layout : Layout) : Bool → List Written → List Char
  | isFirst, [] => (if isFirst then [] else layout.lineBreak) ++ [closing]
  | isFirst, part :: parts =>
    (if isFirst then [] else [',']) ++ (layout.inside.lineBreak ++
      (part layout.inside ++ remaining closing layout false parts))

/-- **Parts between brackets are one part after the other.** -/
theorem bracketed_eq (opening closing : Char) (parts : List Written) (layout : Layout) :
    Written.bracketed opening closing parts layout =
      opening :: remaining closing layout true parts := by
  have hOthers : ∀ others : List Written,
      others.flatMap (fun p => ',' :: (layout.inside.lineBreak ++ p layout.inside)) ++
        (layout.lineBreak ++ [closing]) = remaining closing layout false others := by
    intro others
    induction others with
    | nil => rfl
    | cons part others ih =>
      rw [List.flatMap_cons, List.append_assoc, ih]
      simp [remaining]
  cases parts with
  | nil => rfl
  | cons first others =>
    unfold Written.bracketed
    dsimp only
    rw [hOthers]
    simp [remaining]

theorem head?_bracketed (opening closing : Char) (parts : List Written) (layout : Layout) :
    (Written.bracketed opening closing parts layout).head? = some opening := by
  rw [bracketed_eq]
  rfl

theorem blank_lineBreak (layout : Layout) : Blank layout.lineBreak := by
  intro c hc
  cases layout with
  | compact => cases hc
  | indented depth =>
    rcases List.mem_cons.1 hc with rfl | hBlank
    · rfl
    · rw [List.eq_of_mem_replicate hBlank]
      rfl

/-- What is left behind a part does not go on with it. -/
theorem delimited_remaining {closing : Char} (hClosing : continuesNumber closing = false)
    (layout : Layout) (parts : List Written) (rest : List Char) :
    Delimited (remaining closing layout false parts ++ rest) := by
  cases parts with
  | cons part parts =>
    intro c hc
    cases hc
    rfl
  | nil =>
    cases layout with
    | compact =>
      intro c hc
      cases hc
      exact hClosing
    | indented depth =>
      intro c hc
      cases hc
      rfl

/-- Where no part is left, the closing bracket is expected. -/
theorem expect_remaining {closing : Char} (hClosing : isBlank closing = false) (layout : Layout)
    (rest : List Char) :
    expect closing (remaining closing layout false [] ++ rest) = .ok ((), rest) := by
  rw [remaining, if_neg Bool.false_ne_true, List.append_assoc]
  exact expect_blanks (blank_lineBreak layout) hClosing rest

/-- There is a character for each part, and one for the closing bracket. -/
theorem length_lt_remaining (closing : Char) (layout : Layout) (isFirst : Bool)
    (parts : List Written) (hNe : ∀ part ∈ parts, 0 < (part layout.inside).length) :
    parts.length < (remaining closing layout isFirst parts).length := by
  induction parts generalizing isFirst with
  | nil => simp [remaining]
  | cons part parts ih =>
    have hPart := hNe part List.mem_cons_self
    have hParts := ih false fun p hp => hNe p (List.mem_cons_of_mem part hp)
    simp only [remaining, List.length_append, List.length_cons]
    omega

/-! ## Items -/

variable {α : Type} {format : Format α} {numbers : α → List Float32}

/-- The closing bracket shows that no item follows. -/
theorem anotherItem_closing {blanks : List Char} (hBlanks : Blank blanks) (isFirst : Bool)
    (rest : List Char) :
    anotherItem isFirst (blanks ++ ']' :: rest) = .ok (false, ']' :: rest) := by
  unfold anotherItem
  rw [bind_peek_blanks hBlanks, bind_ok (peek_cons rfl rest), if_pos rfl]
  rfl

/-- Any other character shows that one does. -/
theorem anotherItem_part {blanks : List Char} (hBlanks : Blank blanks) {c : Char}
    (hBlank : isBlank c = false) (hc : c ≠ ']') (isFirst : Bool) (rest : List Char) :
    anotherItem isFirst ((if isFirst then [] else [',']) ++ (blanks ++ c :: rest)) =
      .ok (true, c :: rest) := by
  cases isFirst with
  | true =>
    unfold anotherItem
    rw [if_pos rfl, List.nil_append, bind_peek_blanks hBlanks, bind_ok (peek_cons hBlank rest),
      if_neg hc]
    rfl
  | false =>
    change (do if (← peek) = ']' then throw .malformed else return true : Reader Bool)
      (blanks ++ c :: rest) = _
    rw [bind_peek_blanks hBlanks, bind_ok (peek_cons hBlank rest), if_neg hc]
    rfl

/-- The text of an item begins with the character that shows it, behind its comma and blanks. -/
private theorem anotherItem_remaining (h : format.Faithful numbers) (a : α) (isFirst : Bool)
    (layout : Layout) (parts : List Written) (rest : List Char) :
    anotherItem isFirst (remaining ']' layout isFirst (format.write a :: parts) ++ rest) =
      .ok (true, format.write a layout.inside ++ (remaining ']' layout false parts ++ rest)) := by
  obtain ⟨c, more, hMore, hBlank, hc⟩ := h.opens a layout.inside
  have hPart := anotherItem_part (blank_lineBreak layout.inside) hBlank hc isFirst
    (more ++ (remaining ']' layout false parts ++ rest))
  rw [remaining, hMore]
  simpa using hPart

/-- An item is read where it is written. -/
theorem Format.Faithful.reads_item (h : format.Faithful numbers) (a : α) (isFirst : Bool)
    (layout : Layout) (parts : List Written) (rest : List Char) :
    Reads (AllFinite (numbers a)) (item isFirst format.read)
      (remaining ']' layout isFirst (format.write a :: parts) ++ rest) a
      (remaining ']' layout false parts ++ rest) :=
  Reads.after (anotherItem_remaining h a isFirst layout parts rest)
    (h.reads a layout.inside _ (delimited_remaining rfl layout parts rest))

/-- Behind the last item the array ends. -/
theorem reads_lastItem (read : Reader α) (layout : Layout) (rest : List Char) :
    Reads True (lastItem read) (remaining ']' layout false [] ++ rest) () rest := by
  have hClosing := anotherItem_closing (blank_lineBreak layout) false rest
  rw [remaining, if_neg Bool.false_ne_true, List.append_assoc]
  exact Reads.after hClosing (reads_of_eq_ok rfl)

/-! ## Any number of items -/

/-- **The items that are left are read**, as long as the bound lasts. The induction is on the
items, for any that have been read before. -/
theorem Format.Faithful.reads_items (h : format.Faithful numbers) (layout : Layout)
    (rest : List Char) (values : List α) :
    ∀ (bound : List Char) (isFirst : Bool) (before : List α), values.length < bound.length →
      Reads (AllFinite (values.flatMap numbers)) (readItems format.read bound isFirst before)
        (remaining ']' layout isFirst (values.map format.write) ++ rest)
        (before.reverse ++ values) rest := by
  induction values with
  | nil =>
    intro bound isFirst before hBound
    obtain ⟨_, bound, rfl⟩ := List.exists_cons_of_length_pos hBound
    have hBlanks : Blank (if isFirst then [] else layout.lineBreak) := by
      cases isFirst with
      | true => exact blank_nil
      | false => exact blank_lineBreak layout
    have hClosing := anotherItem_closing hBlanks isFirst rest
    rw [List.map_nil, remaining, List.append_assoc, List.append_nil]
    unfold readItems
    refine Reads.after hClosing ?_
    exact (reads_of_eq_ok rfl).congr (iff_of_true trivial allFinite_nil)
  | cons a values ih =>
    intro bound isFirst before hBound
    obtain ⟨_, bound, rfl⟩ := List.exists_cons_of_length_pos (Nat.zero_lt_of_lt hBound)
    have hLess : values.length < bound.length := Nat.lt_of_succ_lt_succ hBound
    have hNext := ih bound false (a :: before) hLess
    rw [List.reverse_cons, List.append_assoc, List.singleton_append] at hNext
    rw [List.flatMap_cons, List.map_cons]
    unfold readItems
    refine Reads.after (anotherItem_remaining h a isFirst layout _ rest) ?_
    exact ((h.reads a layout.inside _ (delimited_remaining rfl layout _ rest)).bind
      fun _ => hNext).congr allFinite_append.symm

private theorem length_lt_text (h : format.Faithful numbers) (layout : Layout) (values : List α)
    (rest : List Char) :
    values.length < (remaining ']' layout true (values.map format.write) ++ rest).length := by
  have hOpens : ∀ a ∈ values, 0 < (format.write a layout.inside).length := fun a _ => by
    obtain ⟨c, more, hMore, -⟩ := h.opens a layout.inside
    rw [hMore]
    exact Nat.succ_pos _
  have hLess := length_lt_remaining ']' layout true (values.map format.write)
    (by simpa using hOpens)
  rw [List.length_map] at hLess
  rw [List.length_append]
  omega

/-- An array is kept if its items are, behind the opening bracket. -/
theorem Format.faithful_openArray {read : Reader α} {items : α → List Written}
    (h : ∀ a layout rest, Reads (AllFinite (numbers a)) read
      (remaining ']' layout true (items a) ++ rest) a rest) :
    (Format.mk (openArray >>= fun _ => read) fun a => .array (items a)).Faithful numbers where
  opens a layout := ⟨'[', _, bracketed_eq '[' ']' (items a) layout, rfl, by decide⟩
  skips blanks text hBlanks := bind_congr_text _ (bind_peek_blanks hBlanks _ text)
  reads a layout rest _ := by
    change Reads _ _ (Written.bracketed '[' ']' (items a) layout ++ rest) a rest
    rw [bracketed_eq, List.cons_append]
    exact Reads.after rfl (h a layout rest)

/-- **Lists of any length are kept.** -/
theorem Format.Faithful.list (h : format.Faithful numbers) :
    format.list.Faithful fun values => values.flatMap numbers :=
  Format.faithful_openArray fun values layout rest =>
    h.reads_items layout rest values _ true [] (length_lt_text h layout values rest)

/-- So are arrays, which are read as lists. -/
theorem Format.Faithful.array (h : format.Faithful numbers) :
    format.array.Faithful fun values => values.toList.flatMap numbers :=
  h.list.map fun _ => Array.toArray_toList

end Json

/-! ## A fixed number of items -/

/-- The components of a position. -/
def Vec3.components (p : Position) : List Float32 := [p.x, p.y, p.z]

/-- The components of a color. -/
def Rgba.components (c : Rgba) : List Float32 := [c.red, c.green, c.blue, c.alpha]

/-- The components of texture coordinates. -/
def Texcoord.components (t : Texcoord) : List Float32 := [t.u, t.v]

theorem Position.faithful_format : Position.format.Faithful Vec3.components := by
  have hItem := Format.faithful_float32.reads_item
  refine Format.faithful_openArray fun p layout rest => Reads.congr
    ((hItem p.x true layout _ rest).bind fun _ =>
    (hItem p.y false layout _ rest).bind fun _ =>
    (hItem p.z false layout _ rest).bind fun _ =>
    (reads_lastItem _ layout rest).bind fun _ => reads_pure) ?_
  simp [Vec3.components, AllFinite]

theorem Rgba.faithful_format : Rgba.format.Faithful Rgba.components := by
  have hItem := Format.faithful_float32.reads_item
  refine Format.faithful_openArray fun c layout rest => Reads.congr
    ((hItem c.red true layout _ rest).bind fun _ =>
    (hItem c.green false layout _ rest).bind fun _ =>
    (hItem c.blue false layout _ rest).bind fun _ =>
    (hItem c.alpha false layout _ rest).bind fun _ =>
    (reads_lastItem _ layout rest).bind fun _ => reads_pure) ?_
  simp [Rgba.components, AllFinite]

theorem Texcoord.faithful_format : Texcoord.format.Faithful Texcoord.components := by
  have hItem := Format.faithful_float32.reads_item
  refine Format.faithful_openArray fun t layout rest => Reads.congr
    ((hItem t.u true layout _ rest).bind fun _ =>
    (hItem t.v false layout _ rest).bind fun _ =>
    (reads_lastItem _ layout rest).bind fun _ => reads_pure) ?_
  simp [Texcoord.components, AllFinite]

/-- An index is written as its position, which has no more bits. -/
theorem Index.faithful_format : Index.format.Faithful fun _ => [] := by
  have hPosition : ∀ i : Index .stored, i.position = i.bits.toNat := fun _ => rfl
  refine Format.faithful_natural (by decide) (fun i => ?_) fun i => ?_
  · rw [hPosition]
    exact i.bits.isLt
  · rw [hPosition, Index.ofPosition, BitVec.ofNat_toNat, BitVec.setWidth_eq]

theorem Triangle.faithful_format : Triangle.format.Faithful fun _ => [] := by
  have hItem := Index.faithful_format.reads_item
  refine Format.faithful_openArray fun f layout rest => Reads.congr
    ((hItem f.a true layout _ rest).bind fun _ =>
    (hItem f.b false layout _ rest).bind fun _ =>
    (hItem f.c false layout _ rest).bind fun _ =>
    Reads.after (expect_remaining rfl layout rest) reads_pure) ?_
  simp [AllFinite]

end IndexedMesh
