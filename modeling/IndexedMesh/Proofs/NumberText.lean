import IndexedMesh.Json.Number
import IndexedMesh.Proofs.ReadBack
import IndexedMesh.Proofs.Reading

/-!
# Numbers in a text

A numeral is written as its parts, one after the other, and scanned back into them wherever no
character follows that could go on with it. Its value is that of all its digits, with a power of ten
that accounts for the digits after the point, as long as the digits fit into 64 bits.

## Main results

* `Numeral.text`, `Numeral.Proper` — the text of a numeral, and which numerals have one.
* `Delimited` — what may follow a number.
* `scanNumeral_text` — a numeral is scanned back.
* `Numeral.toDecimal_eq` — its value.
* `readNatural_digitsText` — natural numbers read back.
-/

namespace IndexedMesh.Json

/-! ## Digits -/

theorem digitsValue_eq (digits : List Char) :
    digitsValue digits = Nat.ofDigitChars 10 digits 0 := by
  rw [Nat.ofDigitChars_eq_foldl]
  simp only [digitsValue, Nat.mul_comm]

theorem isDigit_of_mem_digitsText {n : Nat} {c : Char} (h : c ∈ digitsText n) : c.isDigit = true :=
  Nat.isDigit_of_mem_toDigits (by decide) (by decide) h

/-- A positive number does not begin with a zero. -/
theorem eq_zero_of_head?_digitsText (n : Nat) (h : (digitsText n).head? = some '0') : n = 0 := by
  induction n using Nat.strongRecOn with
  | _ n ih =>
    unfold digitsText at h ih
    by_cases hLess : n < 10
    · rw [Nat.toDigits_of_lt_base hLess, List.head?_cons, Option.some_inj] at h
      have hDigit : ∀ d < 10, d.digitChar = '0' → d = 0 := by decide
      exact hDigit n hLess h
    · obtain ⟨c, more, hMore⟩ :=
        List.exists_cons_of_ne_nil (Nat.toDigits_ne_nil (n := n / 10) (b := 10))
      rw [Nat.toDigits_of_base_le (by decide) (Nat.le_of_not_lt hLess), hMore] at h
      have hZero := ih (n / 10) (by omega) (by rw [hMore]; exact h)
      omega

theorem digitsText_ne_nil (n : Nat) : digitsText n ≠ [] := Nat.toDigits_ne_nil

private theorem le_ofDigitChars (digits : List Char) (value : Nat) :
    value ≤ Nat.ofDigitChars 10 digits value := by
  induction digits generalizing value with
  | nil => exact Nat.le_refl value
  | cons c digits ih =>
    rw [Nat.ofDigitChars_cons]
    exact le_trans (by omega) (ih _)

/-- Digits that fit into 64 bits are all gathered. -/
theorem gatherDigits_eq {digits : List Char} {value : Nat}
    (h : Nat.ofDigitChars 10 digits value < UInt64.size) :
    gatherDigits value digits = (Nat.ofDigitChars 10 digits value, []) := by
  induction digits generalizing value with
  | nil => rfl
  | cons c digits ih =>
    rw [Nat.ofDigitChars_cons, Nat.mul_comm] at h ⊢
    unfold gatherDigits
    dsimp only
    rw [if_pos ((le_ofDigitChars digits _).trans_lt h), ih h]

/-! ## The text of a numeral -/

/-- The digits after the point, with the point, if there are any. -/
def fractionText : List Char → List Char
  | [] => []
  | digits => '.' :: digits

/-- The power of ten with its sign, if there is one. -/
def exponentText : Option ℤ → List Char
  | none => []
  | some e => 'e' :: (if e < 0 then '-' else '+') :: digitsText e.natAbs

/-- The text of a numeral. -/
def Numeral.text (n : Numeral) : List Char :=
  (if n.negative then ['-'] else []) ++
    (n.whole ++ (fractionText n.fraction ++ exponentText n.exponent))

/-- There are digits before the point, and a zero stands alone there. -/
structure Numeral.Proper (n : Numeral) : Prop where
  whole_ne_nil : n.whole ≠ []
  whole_isDigit : ∀ c ∈ n.whole, c.isDigit = true
  lone_zero : n.whole.head? = some '0' → n.whole = ['0']
  fraction_isDigit : ∀ c ∈ n.fraction, c.isDigit = true

/-- The text begins like a number. -/
theorem Numeral.Proper.exists_cons {n : Numeral} (h : n.Proper) :
    ∃ c more, n.text = c :: more ∧ startsNumber c = true := by
  unfold text
  cases n.negative with
  | true => exact ⟨'-', _, rfl, rfl⟩
  | false =>
    obtain ⟨c, more, hMore⟩ := List.exists_cons_of_ne_nil h.whole_ne_nil
    have hDigit := h.whole_isDigit c (by rw [hMore]; exact List.mem_cons_self)
    rw [hMore]
    exact ⟨c, _, rfl, by unfold startsNumber; rw [hDigit, Bool.or_true]⟩

/-- Whether a character can go on with a number. -/
def continuesNumber (c : Char) : Bool := c.isDigit || c = '.' || c = 'e' || c = 'E'

/-- What follows a number does not go on with it. -/
def Delimited (rest : List Char) : Prop := ∀ c ∈ rest.head?, continuesNumber c = false

/-! ## Scanning -/

/-- What follows digits is no digit. -/
private def Stops (rest : List Char) : Prop := ∀ c ∈ rest.head?, c.isDigit = false

private theorem Delimited.stops {rest : List Char} (h : Delimited rest) : Stops rest := by
  intro c hc
  have hContinues := h c hc
  unfold continuesNumber at hContinues
  simp only [Bool.or_eq_false_iff] at hContinues
  exact hContinues.1.1.1

/-- Digits are scanned up to where they stop. -/
theorem scanDigits_append (atEnd : Fault) {digits rest : List Char} (hNe : digits ≠ [])
    (hDigits : ∀ c ∈ digits, c.isDigit = true) (hStops : ∀ c ∈ rest.head?, c.isDigit = false) :
    scanDigits atEnd (digits ++ rest) = .ok (digits, rest) := by
  have hTake : (digits ++ rest).takeWhile Char.isDigit = digits := by
    rw [List.takeWhile_append_of_pos hDigits]
    cases rest with
    | nil => simp
    | cons c rest => simp [hStops c rfl]
  have hDrop : (digits ++ rest).dropWhile Char.isDigit = rest := by
    rw [List.dropWhile_append_of_pos hDigits]
    cases rest with
    | nil => rfl
    | cons c rest => simp [hStops c rfl]
  cases digits with
  | nil => exact absurd rfl hNe
  | cons c digits =>
    have hFirst : c.isDigit = true := hDigits c List.mem_cons_self
    rw [List.cons_append] at hTake hDrop ⊢
    unfold scanDigits
    dsimp only
    rw [if_pos hFirst, hTake, hDrop]

private theorem scanWhole_append (atEnd : Fault) {digits rest : List Char} (hNe : digits ≠ [])
    (hDigits : ∀ c ∈ digits, c.isDigit = true) (hZero : digits.head? = some '0' → digits = ['0'])
    (hStops : Stops rest) : scanWhole atEnd (digits ++ rest) = .ok (digits, rest) := by
  unfold scanWhole
  rw [Reader.bind_ok (scanDigits_append atEnd hNe hDigits hStops)]
  split
  · next d more =>
    have hLone := hZero rfl
    simp at hLone
  · rfl

private theorem scanFraction_append (atEnd : Fault) {digits rest : List Char}
    (hDigits : ∀ c ∈ digits, c.isDigit = true) (hStops : Stops rest)
    (hPoint : rest.head? ≠ some '.') :
    scanFraction atEnd (fractionText digits ++ rest) = .ok (digits, rest) := by
  cases digits with
  | nil =>
    cases rest with
    | nil => rfl
    | cons c rest =>
      have hc : c ≠ '.' := fun h => hPoint (by rw [h]; rfl)
      unfold scanFraction fractionText
      simp [hc]
  | cons d digits => exact scanDigits_append atEnd (List.cons_ne_nil d digits) hDigits hStops

private theorem scanExponent_append (atEnd : Fault) {rest : List Char} (e : Option ℤ)
    (hRest : Delimited rest) : scanExponent atEnd (exponentText e ++ rest) = .ok (e, rest) := by
  cases e with
  | none =>
    unfold scanExponent exponentText
    cases rest with
    | nil => rfl
    | cons c rest =>
      have hContinues := hRest c rfl
      unfold continuesNumber at hContinues
      simp only [Bool.or_eq_false_iff, decide_eq_false_iff_not] at hContinues
      rw [List.nil_append, Reader.get_bind]
      generalize hText : c :: rest = text
      split
      · exact absurd (List.cons.inj hText).1 hContinues.1.2
      · exact absurd (List.cons.inj hText).1 hContinues.2
      · rfl
  | some e =>
    have hDigits := scanDigits_append atEnd (digitsText_ne_nil e.natAbs)
      (fun c => isDigit_of_mem_digitsText) hRest.stops
    have hValue : (digitsValue (digitsText e.natAbs) : ℤ) = |e| := by
      rw [digitsValue_eq, digitsText, Nat.ofDigitChars_ten_toDigits, Int.natCast_natAbs]
    unfold scanExponent exponentText
    dsimp only
    by_cases he : e < 0
    · rw [if_pos he]
      change (do
        let value : ℤ := digitsValue (← scanDigits atEnd)
        return some (-value) : Reader (Option ℤ)) (digitsText e.natAbs ++ rest) = _
      rw [Reader.bind_ok hDigits, hValue, abs_of_neg he, neg_neg]
      rfl
    · rw [if_neg he]
      change (do
        let value : ℤ := digitsValue (← scanDigits atEnd)
        return some value : Reader (Option ℤ)) (digitsText e.natAbs ++ rest) = _
      rw [Reader.bind_ok hDigits, hValue, abs_of_nonneg (not_lt.1 he)]
      rfl

/-- Neither an exponent nor what follows it goes on with digits or with a point. -/
private theorem stops_exponentText (e : Option ℤ) {rest : List Char} (hRest : Delimited rest) :
    Stops (exponentText e ++ rest) ∧ (exponentText e ++ rest).head? ≠ some '.' := by
  cases e with
  | none =>
    refine ⟨hRest.stops, fun hPoint => ?_⟩
    have hContinues := hRest '.' hPoint
    revert hContinues
    decide
  | some e =>
    refine ⟨fun c hc => ?_, fun hPoint => ?_⟩
    · cases hc
      rfl
    · cases hPoint

private theorem stops_fractionText (digits : List Char) {rest : List Char} (hRest : Stops rest) :
    Stops (fractionText digits ++ rest) := by
  cases digits with
  | nil => exact hRest
  | cons d digits =>
    intro c hc
    cases hc
    rfl

/-- **A numeral is scanned back** where nothing follows that goes on with it. -/
theorem scanNumeral_text {n : Numeral} (atEnd : Fault) {rest : List Char} (h : n.Proper)
    (hRest : Delimited rest) : scanNumeral atEnd (n.text ++ rest) = .ok (n, rest) := by
  obtain ⟨negative, whole, fraction, exponent⟩ := n
  obtain ⟨hNe, hWhole, hZero, hFraction⟩ := h
  dsimp only at hNe hWhole hZero hFraction
  obtain ⟨hStops, hPoint⟩ := stops_exponentText exponent hRest
  have hWholeScan :=
    scanWhole_append atEnd hNe hWhole hZero (stops_fractionText fraction hStops)
  have hFractionScan := scanFraction_append atEnd hFraction hStops hPoint
  have hExponentScan := scanExponent_append atEnd exponent hRest
  -- The numeral without its sign.
  have hUnsigned : (do
      let whole ← scanWhole atEnd
      let fraction ← scanFraction atEnd
      let exponent ← scanExponent atEnd
      return { negative, whole, fraction, exponent } : Reader Numeral)
        (whole ++ (fractionText fraction ++ (exponentText exponent ++ rest))) =
      .ok ({ negative, whole, fraction, exponent }, rest) := by
    rw [Reader.bind_ok hWholeScan, Reader.bind_ok hFractionScan, Reader.bind_ok hExponentScan]
    rfl
  unfold scanNumeral Numeral.text
  dsimp only
  rw [List.append_assoc, List.append_assoc, List.append_assoc]
  cases negative with
  | true => exact hUnsigned
  | false =>
    obtain ⟨c, more, hMore⟩ := List.exists_cons_of_ne_nil hNe
    have hc : c ≠ '-' := by
      rintro rfl
      have hDigit := hWhole '-' (by rw [hMore]; exact List.mem_cons_self)
      revert hDigit
      decide
    rw [hMore, List.cons_append] at hUnsigned
    rw [hMore, if_neg (by decide), List.nil_append, List.cons_append]
    refine (Reader.bind_ok (a := false) ?_).trans hUnsigned
    -- No sign is taken from a text that begins with a digit.
    rw [Reader.get_bind]
    generalize hText :
      c :: (more ++ (fractionText fraction ++ (exponentText exponent ++ rest))) = text
    split
    · exact absurd (List.cons.inj hText).1 hc
    · rfl

/-! ## The value of a numeral -/

/-- **The value of a numeral is that of all its digits**, with a power of ten for those after the
point, if they fit into 64 bits. -/
theorem Numeral.toDecimal_eq {n : Numeral}
    (h : Nat.ofDigitChars 10 (n.whole ++ n.fraction) 0 < UInt64.size) :
    n.toDecimal = {
      negative := n.negative
      digits := Nat.ofDigitChars 10 (n.whole ++ n.fraction) 0
      exponent := n.exponent.getD 0 - n.fraction.length } := by
  rw [Nat.ofDigitChars_append] at h ⊢
  unfold toDecimal
  rw [gatherDigits_eq ((le_ofDigitChars n.fraction _).trans_lt h)]
  dsimp only
  rw [gatherDigits_eq h]
  simp

/-- A numeral with a point or a power of ten stands for no integer. -/
theorem Numeral.toInt?_eq_none {n : Numeral} (h : n.fraction ≠ [] ∨ n.exponent.isSome = true) :
    n.toInt? = none := if_pos (by simpa using h)

/-! ## Natural numbers -/

/-- The numeral of a natural number. -/
def Numeral.natural (n : Nat) : Numeral := ⟨false, digitsText n, [], none⟩

private theorem Numeral.text_natural (n : Nat) : (Numeral.natural n).text = digitsText n := by
  simp [Numeral.text, Numeral.natural, fractionText, exponentText]

private theorem Numeral.proper_natural (n : Nat) : (Numeral.natural n).Proper where
  whole_ne_nil := digitsText_ne_nil n
  whole_isDigit _ := isDigit_of_mem_digitsText
  lone_zero h := by
    rw [show n = 0 from eq_zero_of_head?_digitsText n h]
    rfl
  fraction_isDigit _ h := absurd h List.not_mem_nil

private theorem isSome_toDouble? {n : Nat} (hn : n < 2 ^ 53) :
    (Decimal.toDouble? ⟨false, n, 0⟩).isSome = true := by
  rcases Nat.eq_zero_or_pos n with rfl | hPos
  · rfl
  · have hOne : (1 : ℚ) ≤ n := by exact_mod_cast hPos
    have hLess : (n : ℚ) < 2 ^ 53 := by exact_mod_cast hn
    rw [Decimal.toDouble?_eq false hPos hn (by decide) (by decide)]
    · rfl
    · rw [zpow_zero, mul_one]
      exact le_trans (by norm_num) hOne
    · rw [zpow_zero, mul_one]
      exact hLess.le.trans (by norm_num)

/-- **Natural numbers below a bound read back.** -/
theorem readNatural_digitsText {n bound : Nat} {rest : List Char} (hn : n < bound)
    (hBound : bound ≤ 2 ^ 53) (hRest : Delimited rest) :
    readNatural bound (digitsText n ++ rest) = .ok (n, rest) := by
  have hScan := scanNumeral_text .truncated (Numeral.proper_natural n) hRest
  rw [Numeral.text_natural] at hScan
  have hDigits : Nat.ofDigitChars 10 (digitsText n) 0 = n := Nat.ofDigitChars_ten_toDigits
  have hSize : n < UInt64.size := by
    unfold UInt64.size
    omega
  have hDecimal : (Numeral.natural n).toDecimal = ⟨false, n, 0⟩ := by
    have hAll : Nat.ofDigitChars 10 ((Numeral.natural n).whole ++ (Numeral.natural n).fraction) 0 =
        n := by
      rw [show (Numeral.natural n).fraction = [] from rfl, List.append_nil]
      exact hDigits
    rw [Numeral.toDecimal_eq (hAll.trans_lt hSize), hAll]
    rfl
  have hInt : (Numeral.natural n).toInt? = some (n : ℤ) := by
    unfold Numeral.toInt? Numeral.natural
    rw [if_neg (by simp), gatherDigits_eq (hDigits.trans_lt hSize), hDigits]
    rfl
  have hNumeral : readNumeral (digitsText n ++ rest) = .ok (Numeral.natural n, rest) := by
    unfold readNumeral
    rw [Reader.bind_ok hScan, hDecimal, if_pos (isSome_toDouble? (hn.trans_le hBound))]
    rfl
  unfold readNatural
  rw [Reader.bind_ok hNumeral, hInt]
  change (if n < bound then pure n else throw .mismatch : Reader Nat) rest = _
  rw [if_pos hn]
  rfl

end IndexedMesh.Json
