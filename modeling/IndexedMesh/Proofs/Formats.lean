import IndexedMesh.Json.Format
import IndexedMesh.Proofs.FloatText
import IndexedMesh.Proofs.StringText

/-!
# Formats that keep what they write

A format is faithful if every value that it writes, in any layout, is read back, with the text after
it left as it is. The one thing that cannot be kept is a floating-point number that is not finite:
it is written as a null, which is no number, so a value that has one is refused when it is read.

Formats of larger types are faithful because those of their parts are, and their numbers are those
of their parts.

## Main results

* `Format.Faithful` — reading undoes writing, up to numbers that are not finite.
* `Format.Faithful.map`, `Format.Faithful.optional`, `Format.Faithful.list` — of larger types.
* `Format.Faithful.parse_compact`, `Format.Faithful.parse_pretty` — whole texts.
-/

namespace IndexedMesh.Json

open Reader

/-- All of the numbers are finite. -/
def AllFinite (numbers : List Float32) : Prop := ∀ x ∈ numbers, x.isFinite = true

theorem allFinite_nil : AllFinite [] := fun _ h => absurd h List.not_mem_nil

theorem allFinite_append {xs ys : List Float32} :
    AllFinite (xs ++ ys) ↔ AllFinite xs ∧ AllFinite ys := List.forall_mem_append

variable {α β : Type} {format : Format α} {numbers : α → List Float32}

/-- Every value is read back from where it is written, with any blanks before it and with nothing
after it that could belong to it, if its numbers are finite; and if they are not, it is refused. -/
structure Format.Faithful (format : Format α) (numbers : α → List Float32) : Prop where
  opens : ∀ a layout, ∃ c more, format.write a layout = c :: more ∧ isBlank c = false ∧ c ≠ ']'
  skips : ∀ blanks text, Blank blanks → format.read (blanks ++ text) = format.read text
  reads : ∀ a layout rest, Delimited rest →
    Reads (AllFinite (numbers a)) format.read (format.write a layout ++ rest) a rest

namespace Format

/-! ## Values without parts -/

theorem isBlank_of_startsNumber {c : Char} (h : startsNumber c = true) : isBlank c = false := by
  by_contra hBlank
  unfold isBlank at hBlank
  simp only [Bool.not_eq_false, Bool.or_eq_true, decide_eq_true_eq] at hBlank
  rcases hBlank with ((rfl | rfl) | rfl) | rfl <;> exact absurd h (by decide)

private theorem ne_of_startsNumber {c d : Char} (h : startsNumber c = true)
    (hd : startsNumber d = false) : c ≠ d := by
  rintro rfl
  rw [h] at hd
  cases hd

private theorem startsNumber_natural (n : Nat) :
    ∃ c more, digitsText n = c :: more ∧ startsNumber c = true := by
  obtain ⟨c, more, hMore⟩ := List.exists_cons_of_ne_nil (digitsText_ne_nil n)
  have hDigit : c.isDigit = true :=
    isDigit_of_mem_digitsText (n := n) (by rw [hMore]; exact List.mem_cons_self)
  exact ⟨c, more, hMore, by unfold startsNumber; rw [hDigit, Bool.or_true]⟩

/-- The values of a type that are written as natural numbers below a bound. -/
theorem faithful_natural {bound : Nat} {build : Nat → β} {split : β → Nat} (hBound : bound ≤ 2 ^ 53)
    (hLess : ∀ b, split b < bound) (hBuild : ∀ b, build (split b) = b) :
    ((natural bound).map build split).Faithful fun _ => [] where
  opens b layout := by
    obtain ⟨c, more, hMore, hStarts⟩ := startsNumber_natural (split b)
    exact ⟨c, more, hMore, isBlank_of_startsNumber hStarts, ne_of_startsNumber hStarts rfl⟩
  skips blanks text hBlanks := map_congr_text build (bind_peek_blanks hBlanks _ text)
  reads b layout rest hRest := by
    obtain ⟨c, more, hMore, hStarts⟩ := startsNumber_natural (split b)
    have hNatural := readNatural_digitsText (hLess b) hBound hRest
    have hRead : (natural bound).read (digitsText (split b) ++ rest) = .ok (split b, rest) := by
      rw [hMore, List.cons_append] at hNatural ⊢
      unfold natural
      dsimp only
      rw [bind_ok (peek_cons (isBlank_of_startsNumber hStarts) _), if_pos hStarts]
      exact hNatural
    have hBuilt := (reads_of_eq_ok hRead).map build
    rw [hBuild] at hBuilt
    exact hBuilt.congr (iff_of_true trivial allFinite_nil)

theorem faithful_uint16 : uint16.Faithful fun _ => [] :=
  faithful_natural (by decide) UInt16.toNat_lt fun _ => UInt16.ofNat_toNat

theorem faithful_uint32 : uint32.Faithful fun _ => [] :=
  faithful_natural (by decide) UInt32.toNat_lt fun _ => UInt32.ofNat_toNat

/-- **A floating-point number is kept if it is finite**, and refused if it is not. -/
theorem faithful_float32 : float32.Faithful fun x => [x] where
  opens x layout := by
    cases hFinite : x.isFinite with
    | true =>
      obtain ⟨n, hDenotes, hText⟩ := exists_numeral hFinite
      obtain ⟨c, more, hMore, hStarts⟩ := hDenotes.proper.exists_cons
      exact ⟨c, more, hText.symm.trans hMore, isBlank_of_startsNumber hStarts,
        ne_of_startsNumber hStarts rfl⟩
    | false =>
      have hText : writeFloat32 x = "null".toList := if_neg (ne_true_of_eq_false hFinite)
      exact ⟨'n', _, hText, rfl, by decide⟩
  skips blanks text hBlanks := bind_peek_blanks hBlanks _ text
  reads x layout rest hRest := by
    constructor
    · intro hAll
      obtain ⟨n, hDenotes, hText⟩ := exists_numeral (hAll x (List.mem_singleton_self x))
      obtain ⟨c, more, hMore, hStarts⟩ := hDenotes.proper.exists_cons
      have hNumber := hDenotes.readFloat32_text hRest
      change float32.read (writeFloat32 x ++ rest) = _
      rw [← hText]
      rw [hMore, List.cons_append] at hNumber ⊢
      unfold float32
      dsimp only
      rw [bind_ok (peek_cons (isBlank_of_startsNumber hStarts) _), if_pos hStarts]
      exact hNumber
    · intro hNot
      have hFinite : ¬x.isFinite = true :=
        fun h => hNot fun y hy => by rwa [List.mem_singleton.1 hy]
      have hText : writeFloat32 x = "null".toList := if_neg hFinite
      change ∃ fault, float32.read (writeFloat32 x ++ rest) = .error fault
      rw [hText]
      exact ⟨.mismatch, rfl⟩

theorem faithful_bool : bool.Faithful fun _ => [] where
  opens b layout := by cases b <;> exact ⟨_, _, rfl, rfl, by decide⟩
  skips blanks text hBlanks := bind_peek_blanks hBlanks _ text
  reads b layout rest hRest := by
    have hRead : bool.read (bool.write b layout ++ rest) = .ok (b, rest) := by cases b <;> rfl
    exact (reads_of_eq_ok hRead).congr (iff_of_true trivial allFinite_nil)

/-- **A string is kept**, whatever its characters are. -/
theorem faithful_text : text.Faithful fun _ => [] where
  opens s layout := ⟨'"', _, rfl, rfl, by decide⟩
  skips blanks text hBlanks := bind_peek_blanks hBlanks _ text
  reads s layout rest hRest := by
    have hRead : text.read (text.write s layout ++ rest) = .ok (s, rest) := by
      change (do
        let before ← readText []
        return String.ofList before : Reader String)
          (s.toList.flatMap escaped ++ ['"'] ++ rest) = .ok (s, rest)
      rw [List.append_assoc, List.singleton_append, bind_ok (readText_writeText [] s.toList rest)]
      change Except.ok (String.ofList s.toList, rest) = .ok (s, rest)
      rw [String.ofList_toList]
    exact (reads_of_eq_ok hRead).congr (iff_of_true trivial allFinite_nil)

/-! ## Types that correspond, and values or null -/

/-- A type that corresponds to a part of another one is kept with it. -/
theorem Faithful.map (h : format.Faithful numbers) {build : α → β} {split : β → α}
    (hBuild : ∀ b, build (split b) = b) :
    (format.map build split).Faithful fun b => numbers (split b) where
  opens b layout := h.opens (split b) layout
  skips blanks text hBlanks := map_congr_text build (h.skips blanks text hBlanks)
  reads b layout rest hRest := by
    have hBuilt := (h.reads (split b) layout rest hRest).map build
    rw [hBuild] at hBuilt
    exact hBuilt

/-- The numbers may be given in another way. -/
theorem Faithful.of_eq {numbers' : α → List Float32} (h : format.Faithful numbers)
    (hEq : ∀ a, numbers a = numbers' a) : format.Faithful numbers' :=
  funext hEq ▸ h

/-- A value or null is kept if no value begins like a null. -/
theorem Faithful.optional (h : format.Faithful numbers)
    (hNull : ∀ a layout, (format.write a layout).head? ≠ some 'n') :
    format.optional.Faithful fun o => o.toList.flatMap numbers where
  opens o layout := by
    cases o with
    | none => exact ⟨'n', _, rfl, rfl, by decide⟩
    | some a => exact h.opens a layout
  skips blanks text hBlanks := bind_peek_blanks hBlanks _ text
  reads o layout rest hRest := by
    cases o with
    | none =>
      have hRead : format.optional.read (format.optional.write none layout ++ rest) =
          .ok (none, rest) := rfl
      exact (reads_of_eq_ok hRead).congr (iff_of_true trivial allFinite_nil)
    | some a =>
      obtain ⟨c, more, hMore, hBlank, -⟩ := h.opens a layout
      have hc : c ≠ 'n' := by
        rintro rfl
        exact hNull a layout (by rw [hMore]; rfl)
      have hSome := (h.reads a layout rest hRest).map some
      change Reads (AllFinite (numbers a ++ [])) format.optional.read
        (format.write a layout ++ rest) (some a) rest
      rw [List.append_nil]
      rw [hMore, List.cons_append] at hSome ⊢
      refine Reads.after (peek_cons hBlank _) ?_
      rw [if_neg hc]
      exact hSome

/-! ## Whole texts -/

private theorem run_of_reads {P : Prop} {reader : Reader α} {text : List Char} {a : α}
    (h : Reads P reader text a []) :
    (P → reader.run text = .ok a) ∧ (¬P → ∃ fault, reader.run text = .error fault) := by
  have hWhole : Reads P (do let a ← reader; finish; return a : Reader α) text a [] := by
    have hFinish : Reads True (do finish; return a : Reader α) [] a [] := reads_of_eq_ok rfl
    exact (h.bind fun _ => hFinish).congr (iff_of_eq (and_true P))
  have hValue : ∀ x : Reader α, StateT.run' x text = Prod.fst <$> x text := fun _ => rfl
  unfold Reader.run
  rw [hValue]
  constructor
  · intro hP
    rw [hWhole.1 hP]
    rfl
  · intro hP
    obtain ⟨fault, hFault⟩ := hWhole.2 hP
    exact ⟨fault, by rw [hFault]; rfl⟩

private theorem parse_ofList (h : format.Faithful numbers) (a : α) (layout : Layout) :
    (AllFinite (numbers a) → format.parse (String.ofList (format.write a layout)) = .ok a) ∧
      (¬AllFinite (numbers a) →
        ∃ fault, format.parse (String.ofList (format.write a layout)) = .error fault) := by
  have hReads := h.reads a layout [] (fun _ hc => by cases hc)
  rw [List.append_nil] at hReads
  unfold parse
  rw [String.toList_ofList]
  exact run_of_reads hReads

/-- **A text without blanks reads back** if the numbers of its value are finite, and is refused if
they are not. -/
theorem Faithful.parse_compact (h : format.Faithful numbers) (a : α) :
    (AllFinite (numbers a) → format.parse (format.compact a) = .ok a) ∧
      (¬AllFinite (numbers a) → ∃ fault, format.parse (format.compact a) = .error fault) :=
  parse_ofList h a .compact

/-- **So does a text with every part on its own line.** -/
theorem Faithful.parse_pretty (h : format.Faithful numbers) (a : α) :
    (AllFinite (numbers a) → format.parse (format.pretty a) = .ok a) ∧
      (¬AllFinite (numbers a) → ∃ fault, format.parse (format.pretty a) = .error fault) :=
  parse_ofList h a (.indented 0)

end Format

end IndexedMesh.Json
