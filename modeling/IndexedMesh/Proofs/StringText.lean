import IndexedMesh.Json.Text

/-!
# Strings in a text

A string is written character by character between quotes. Each character is read back from its
escaped form, whatever comes after it, so the string is read back up to the closing quote.

## Main results

* `readText_escaped` — a character reads back.
* `readText_writeText` — **a string reads back**, whatever its characters are.
-/

namespace IndexedMesh.Json

private theorem hexCode?_control : ∀ n : Fin 32,
    hexCode? '0' '0' (hexDigit (n / 16)) (hexDigit (n % 16)) = some n.val := by
  decide

private theorem readText_control (before tail : List Char) {c : Char} (h : c < ' ') :
    readText before
        (['\\', 'u', '0', '0', hexDigit (c.toNat / 16), hexDigit (c.toNat % 16)] ++ tail) =
      readText (c :: before) tail := by
  have hLess : c.toNat < 32 := h
  have hCode := hexCode?_control ⟨c.toNat, hLess⟩
  have hLow : isLowSurrogate c.toNat = false := by
    unfold isLowSurrogate
    simp
    omega
  have hHigh : isHighSurrogate c.toNat = false := by
    unfold isHighSurrogate
    simp
    omega
  simp only [List.cons_append, List.nil_append, readText, hCode, hLow, hHigh]
  simp

/-- **A character reads back from its escaped form.** -/
theorem readText_escaped (before tail : List Char) (c : Char) :
    readText before (escaped c ++ tail) = readText (c :: before) tail := by
  unfold escaped
  split
  · rfl
  · rfl
  · rfl
  · rfl
  · rfl
  · rfl
  · rfl
  · next hQuote hBackslash _ _ _ _ _ =>
    split
    · next h => exact readText_control before tail h
    · next h =>
      rw [List.singleton_append, readText, if_neg h]
      · exact hQuote
      all_goals
        intros
        exact hBackslash ‹_›

/-- **A string reads back**, and reading goes on behind its closing quote. -/
theorem readText_writeText (before text rest : List Char) :
    readText before (text.flatMap escaped ++ ('"' :: rest)) =
      .ok (before.reverse ++ text, rest) := by
  induction text generalizing before with
  | nil => simp [readText]
  | cons c text ih =>
    rw [List.flatMap_cons, List.append_assoc, readText_escaped, ih, List.reverse_cons,
      List.append_assoc]
    rfl

end IndexedMesh.Json
