import IndexedMesh.Json.Reader

/-!
# What a reader makes of a text

A reader that is put together from steps succeeds if each of them does, and fails at the first that
fails. To say of one text both when it is read and when it is refused, a reader is described by the
condition under which it gets its value: with the condition it does, and without it it fails. The
conditions of the steps add up.

## Main results

* `Reader.Reads` — when a reader gets a value from a text.
* `Reader.Reads.bind`, `Reader.Reads.map` — the conditions of steps add up.
* `peek_blanks`, `expect_blanks` — blanks before a token do not matter.
-/

namespace IndexedMesh.Json

variable {α β : Type} {x : Reader α} {f : α → Reader β} {text rest rest' : List Char}
  {a : α} {b : β}
  {fault : Fault}

namespace Reader

/-! ## Steps -/

theorem bind_ok (h : x text = .ok (a, rest)) : (x >>= f) text = f a rest := by
  change (x text >>= fun p => f p.1 p.2) = f a rest
  rw [h]
  rfl

theorem bind_error (h : x text = .error fault) : (x >>= f) text = .error fault := by
  change (x text >>= fun p => f p.1 p.2) = .error fault
  rw [h]
  rfl

/-- Texts from which a step makes the same are the same for what follows it. -/
theorem bind_congr_text {text' : List Char} (f : α → Reader β) (h : x text = x text') :
    (x >>= f) text = (x >>= f) text' := by
  change (x text >>= fun p => f p.1 p.2) = _
  rw [h]
  rfl

theorem map_congr_text {text' : List Char} (g : α → β) (h : x text = x text') :
    (g <$> x) text = (g <$> x) text' := bind_congr_text (fun a => pure (g a)) h

theorem get_bind (f : List Char → Reader β) (text : List Char) :
    ((get : Reader (List Char)) >>= f) text = f text text := rfl

/-! ## Conditions -/

/-- The reader gets the value from the text and leaves the rest, if a condition holds, and fails if
it does not. -/
def Reads (P : Prop) (x : Reader α) (text : List Char) (a : α) (rest : List Char) : Prop :=
  (P → x text = .ok (a, rest)) ∧ (¬P → ∃ fault, x text = .error fault)

theorem reads_of_eq_ok (h : x text = .ok (a, rest)) : Reads True x text a rest :=
  ⟨fun _ => h, fun hNot => absurd trivial hNot⟩

theorem reads_pure : Reads True (pure a) rest a rest := reads_of_eq_ok rfl

variable {P Q : Prop}

theorem Reads.congr (h : Reads P x text a rest) (hIff : P ↔ Q) : Reads Q x text a rest :=
  propext hIff ▸ h

/-- **A step and what follows it**: both conditions are needed. -/
theorem Reads.bind (hx : Reads P x text a rest) (hf : P → Reads Q (f a) rest b rest') :
    Reads (P ∧ Q) (x >>= f) text b rest' := by
  constructor
  · rintro ⟨hP, hQ⟩
    rw [bind_ok (hx.1 hP)]
    exact (hf hP).1 hQ
  · intro hNot
    by_cases hP : P
    · rw [bind_ok (hx.1 hP)]
      exact (hf hP).2 fun hQ => hNot ⟨hP, hQ⟩
    · obtain ⟨fault, hFault⟩ := hx.2 hP
      exact ⟨fault, bind_error hFault⟩

/-- A step that succeeds has no condition. -/
theorem Reads.after (hx : x text = .ok (a, rest)) (hf : Reads Q (f a) rest b rest') :
    Reads Q (x >>= f) text b rest' := by
  rw [Reads, bind_ok hx]
  exact hf

/-- A step that only builds a value has no condition. -/
theorem Reads.map (h : Reads P x text a rest) (g : α → β) : Reads P (g <$> x) text (g a) rest := by
  have hBuild : Reads (P ∧ True) (x >>= fun a => pure (g a)) text (g a) rest :=
    h.bind fun _ => reads_pure
  exact hBuild.congr (iff_of_eq (and_true P))

end Reader

/-! ## Blanks -/

/-- A text of blanks only. -/
def Blank (blanks : List Char) : Prop := ∀ c ∈ blanks, isBlank c = true

theorem blank_nil : Blank [] := fun _ h => absurd h List.not_mem_nil

/-- **Blanks before a token do not matter.** -/
theorem peek_blanks {blanks : List Char} (h : Blank blanks) (text : List Char) :
    peek (blanks ++ text) = peek text := by
  unfold peek
  rw [List.dropWhile_append_of_pos h]

theorem bind_peek_blanks {blanks : List Char} (h : Blank blanks) (f : Char → Reader β)
    (text : List Char) : (peek >>= f) (blanks ++ text) = (peek >>= f) text :=
  Reader.bind_congr_text f (peek_blanks h text)

/-- The next character, if it is not blank. -/
theorem peek_cons {c : Char} (h : isBlank c = false) (text : List Char) :
    peek (c :: text) = .ok (c, c :: text) := by
  unfold peek
  rw [List.dropWhile_cons_of_neg (by rw [h]; exact Bool.false_ne_true)]

/-- The character that is expected is gone past, with the blanks before it. -/
theorem expect_blanks {blanks : List Char} {c : Char} (hBlanks : Blank blanks)
    (hc : isBlank c = false) (text : List Char) :
    expect c (blanks ++ c :: text) = .ok ((), text) := by
  unfold expect
  rw [bind_peek_blanks hBlanks, Reader.bind_ok (peek_cons hc text), if_pos rfl]
  rfl

end IndexedMesh.Json
