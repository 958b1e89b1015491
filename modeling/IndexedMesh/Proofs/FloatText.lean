import Mathlib
import IndexedMesh.Proofs.NumberText

/-!
# Floating-point numbers in a text

A finite number is written from its shortest digits, with or without a power of ten, and always so
that it is no integer. What is scanned back has the same digits, and they are read as the number.
What is not finite is written as a null.

## Main results

* `isFinite_iff` — which numbers are finite, by their bits.
* `Magnitude.finite_ofFloat32`, `signedFloat32_bits` — a number is its sign and its magnitude.
* `Json.exists_numeral`, `Json.Numeral.Denotes.readFloat32_text` — **every finite number reads back,
  with each of its bits.**
-/

namespace IndexedMesh

/-! ## Numbers by their bits -/

/-- The field of the exponent. -/
def exponentField (x : Float32) : Nat := x.toBits.toNat / 2 ^ 23 % 2 ^ 8

open Float.Model in
/-- A number is finite unless all bits of its exponent are set. -/
theorem isFinite_iff (x : Float32) : x.isFinite = true ↔ exponentField x ≠ 255 := by
  have hField : exponentField x =
      (@UnpackedFloat.unpackExponent .binary32 x.toBits.toBitVec).toNat := by
    rw [UnpackedFloat.unpackExponent_def, BitVec.extractLsb'_toNat, Nat.shiftRight_eq_div_pow]
    rfl
  have hOnes : exponentField x ≠ 255 ↔
      @UnpackedFloat.unpackExponent .binary32 x.toBits.toBitVec ≠ -1#_ := by
    rw [hField, ne_eq, ne_eq, ← BitVec.toNat_inj]
    rfl
  rw [hOnes]
  change (UnpackedFloat.unpack .binary32 x.toBits.toBitVec).isFinite = true ↔ _
  unfold UnpackedFloat.unpack
  dsimp only
  split
  · next h =>
    split <;> exact iff_of_false Bool.false_ne_true (fun hNe => hNe h)
  · next h =>
    refine iff_of_true ?_ h
    split
    · split <;> rfl
    · rfl

/-- The magnitude of a finite number that is not zero is one of single precision. -/
theorem Magnitude.finite_ofFloat32 {x : Float32} (hFinite : x.isFinite = true)
    (hZero : isZero x = false) : (Magnitude.ofFloat32 x).Finite := by
  rw [isFinite_iff, exponentField] at hFinite
  unfold isZero at hZero
  rw [decide_eq_false_iff_not] at hZero
  have hBits : x.toBits.toNat < 2 ^ 32 := x.toBits.toNat_lt
  unfold Magnitude.ofFloat32
  simp only [Nat.pow_eq] at hZero ⊢
  generalize x.toBits.toNat = bits at *
  split
  · next hField => exact {
      mantissa_pos := by dsimp only; omega
      mantissa_lt := by dsimp only; omega
      unit_le := by dsimp only; omega
      exponent_le := by dsimp only; omega
      normal := fun h => absurd h (lt_irrefl _)
      narrow := by simp }
  · next hField => exact {
      mantissa_pos := by dsimp only; omega
      mantissa_lt := by dsimp only; omega
      unit_le := by dsimp only; omega
      exponent_le := by dsimp only; omega
      normal := fun _ => by dsimp only; omega
      narrow := by
        dsimp only
        rw [Bool.and_eq_true, decide_eq_true_eq, decide_eq_true_eq]
        omega }

/-- The bits of a magnitude are those of the number below its sign. -/
theorem Magnitude.bits_ofFloat32 (x : Float32) :
    (Magnitude.ofFloat32 x).bits = x.toBits.toNat % 2 ^ 31 := by
  have hBits : x.toBits.toNat < 2 ^ 32 := x.toBits.toNat_lt
  unfold Magnitude.ofFloat32 Magnitude.bits
  simp only [Nat.pow_eq]
  generalize x.toBits.toNat = bits at *
  split
  · dsimp only
    omega
  · dsimp only
    omega

/-- **A number is its sign and the bits below it.** -/
theorem signedFloat32_bits (x : Float32) :
    signedFloat32 (signBit x) (x.toBits.toNat % 2 ^ 31) = x := by
  have hBits : x.toBits.toNat < 2 ^ 32 := x.toBits.toNat_lt
  have hSum : (if signBit x then Nat.pow 2 31 + x.toBits.toNat % 2 ^ 31
      else x.toBits.toNat % 2 ^ 31) = x.toBits.toNat := by
    unfold signBit
    simp only [Nat.pow_eq, decide_eq_true_eq]
    split <;> omega
  rw [signedFloat32, hSum, UInt32.ofNat_toNat, Float32.ofBits_toBits]

namespace Json

/-! ## Layouts of digits -/

/-- The numeral of digits times a power of ten, without a power of ten. -/
def Numeral.positional (negative : Bool) (digits : List Char) (k : ℤ) : Numeral :=
  let places := (-k).toNat
  if 0 ≤ k then ⟨negative, digits ++ List.replicate k.toNat '0', ['0'], none⟩
  else if places < digits.length then
    ⟨negative, digits.take (digits.length - places), digits.drop (digits.length - places), none⟩
  else ⟨negative, ['0'], List.replicate (places - digits.length) '0' ++ digits, none⟩

/-- The numeral of digits with a point after the first one, and a power of ten. -/
def Numeral.scientific (negative : Bool) (digits : List Char) (e : ℤ) : Numeral :=
  ⟨negative, digits.take 1, digits.drop 1, some e⟩

/-- The sign of a number. -/
def signText (negative : Bool) : List Char := if negative then ['-'] else []

variable {negative : Bool} {digits : List Char} {k e : ℤ}

private theorem fractionText_of_ne_nil (h : digits ≠ []) : fractionText digits = '.' :: digits := by
  cases digits with
  | nil => exact absurd rfl h
  | cons d digits => rfl

/-- There are always digits after the point. -/
theorem Numeral.fraction_positional_ne_nil (hNe : digits ≠ []) :
    (Numeral.positional negative digits k).fraction ≠ [] := by
  unfold positional
  dsimp only
  split
  · exact List.cons_ne_nil _ _
  · split
    · next hk hPlaces =>
      dsimp only
      rw [ne_eq, List.drop_eq_nil_iff]
      omega
    · exact List.append_ne_nil_of_right_ne_nil _ hNe

theorem Numeral.text_positional (hNe : digits ≠ []) :
    (Numeral.positional negative digits k).text =
      signText negative ++ positionalText true digits k := by
  rw [Numeral.text, fractionText_of_ne_nil (fraction_positional_ne_nil hNe)]
  unfold positional positionalText signText
  dsimp only
  split
  · rfl
  · split
    · dsimp only
      rw [exponentText, List.append_nil]
    · dsimp only
      rw [exponentText, List.append_nil]
      rfl

theorem Numeral.text_scientific (hNe : digits ≠ []) :
    (Numeral.scientific negative digits e).text = signText negative ++ scientificText digits e := by
  obtain ⟨d, more, rfl⟩ := List.exists_cons_of_ne_nil hNe
  cases more <;> rfl

/-- A numeral of digits that do not begin with a zero is proper. -/
theorem Numeral.proper_positional (hNe : digits ≠ []) (hDigits : ∀ c ∈ digits, c.isDigit = true)
    (hHead : digits.head? ≠ some '0') : (Numeral.positional negative digits k).Proper := by
  have hZeros : ∀ n, ∀ c ∈ List.replicate n '0', c.isDigit = true := by
    intro n c hc
    rw [List.eq_of_mem_replicate hc]
    rfl
  unfold positional
  dsimp only
  split
  · exact {
      whole_ne_nil := List.append_ne_nil_of_left_ne_nil hNe _
      whole_isDigit := fun c hc => (List.mem_append.1 hc).elim (hDigits c) (hZeros _ c)
      lone_zero := fun h => by
        obtain ⟨d, more, rfl⟩ := List.exists_cons_of_ne_nil hNe
        exact absurd h hHead
      fraction_isDigit := fun c hc => by
        rw [List.mem_singleton.1 hc]
        rfl }
  · split
    · next hk hPlaces => exact {
        whole_ne_nil := by
          dsimp only
          rw [ne_eq, List.take_eq_nil_iff, not_or]
          exact ⟨by omega, hNe⟩
        whole_isDigit := fun c hc => hDigits c (List.mem_of_mem_take hc)
        lone_zero := fun h => by
          dsimp only at h
          rw [List.head?_take, if_neg (by omega)] at h
          exact absurd h hHead
        fraction_isDigit := fun c hc => hDigits c (List.mem_of_mem_drop hc) }
    · exact {
        whole_ne_nil := List.cons_ne_nil _ _
        whole_isDigit := fun c hc => by
          rw [List.mem_singleton.1 hc]
          rfl
        lone_zero := fun _ => rfl
        fraction_isDigit := fun c hc => (List.mem_append.1 hc).elim (hZeros _ c) (hDigits c) }

theorem Numeral.proper_scientific (hNe : digits ≠ []) (hDigits : ∀ c ∈ digits, c.isDigit = true) :
    (Numeral.scientific negative digits e).Proper where
  whole_ne_nil := by
    obtain ⟨d, more, rfl⟩ := List.exists_cons_of_ne_nil hNe
    exact List.cons_ne_nil _ _
  whole_isDigit _ hc := hDigits _ (List.mem_of_mem_take hc)
  lone_zero h := by
    obtain ⟨d, more, rfl⟩ := List.exists_cons_of_ne_nil hNe
    cases h
    rfl
  fraction_isDigit _ hc := hDigits _ (List.mem_of_mem_drop hc)

/-! ## Values of layouts -/

private theorem value_digitsText (d : Nat) : Nat.ofDigitChars 10 (digitsText d) 0 = d :=
  Nat.ofDigitChars_ten_toDigits

/-- Digits without a power of ten are gathered as they are, unless they are those of a whole number,
where all zeros count. -/
theorem Numeral.toDecimal_positional {d : Nat} (hFit : d < 2 ^ 53)
    (hWhole : 0 ≤ k → 10 * (d * 10 ^ k.toNat) < 2 ^ 53) :
    (Numeral.positional negative (digitsText d) k).toDecimal =
      if 0 ≤ k then ⟨negative, 10 * (d * 10 ^ k.toNat), -1⟩ else ⟨negative, d, k⟩ := by
  have hSize : 2 ^ 53 < UInt64.size := by decide
  have hValue := value_digitsText d
  unfold positional
  dsimp only
  split
  · next hk =>
    have hAll : Nat.ofDigitChars 10 (digitsText d ++ List.replicate k.toNat '0' ++ ['0']) 0 =
        10 * (d * 10 ^ k.toNat) := by
      rw [Nat.ofDigitChars_append, Nat.ofDigitChars_append, hValue,
        Nat.ofDigitChars_replicate_zero, Nat.mul_comm d]
      rfl
    rw [toDecimal_eq (by dsimp only; rw [hAll]; exact (hWhole hk).trans hSize), hAll]
    rfl
  · next hk =>
    split
    · next hPlaces =>
      have hAll : Nat.ofDigitChars 10 ((digitsText d).take ((digitsText d).length - (-k).toNat) ++
          (digitsText d).drop ((digitsText d).length - (-k).toNat)) 0 = d := by
        rw [List.take_append_drop, hValue]
      rw [toDecimal_eq (by dsimp only; rw [hAll]; exact hFit.trans hSize), hAll]
      simp only [List.length_drop, Option.getD_none, Decimal.mk.injEq, true_and]
      omega
    · next hPlaces =>
      have hAll : Nat.ofDigitChars 10 (['0'] ++
          (List.replicate ((-k).toNat - (digitsText d).length) '0' ++ digitsText d)) 0 = d := by
        rw [Nat.ofDigitChars_append, Nat.ofDigitChars_append, Nat.ofDigitChars_replicate_zero]
        exact hValue
      rw [toDecimal_eq (by dsimp only; rw [hAll]; exact hFit.trans hSize), hAll]
      simp only [List.length_append, List.length_replicate, Option.getD_none, Decimal.mk.injEq,
        true_and]
      omega

/-- With a power of ten they are gathered as they are too. -/
theorem Numeral.toDecimal_scientific {d : Nat} (hFit : d < 2 ^ 53) :
    (Numeral.scientific negative (digitsText d) (k + (digitsText d).length - 1)).toDecimal =
      ⟨negative, d, k⟩ := by
  have hSize : 2 ^ 53 < UInt64.size := by decide
  have hAll : Nat.ofDigitChars 10 ((digitsText d).take 1 ++ (digitsText d).drop 1) 0 = d := by
    rw [List.take_append_drop, value_digitsText]
  have hLength : 0 < (digitsText d).length := List.length_pos_of_ne_nil (digitsText_ne_nil d)
  unfold scientific
  rw [toDecimal_eq (by dsimp only; rw [hAll]; exact hFit.trans hSize), hAll]
  simp only [List.length_drop, Option.getD_some, Decimal.mk.injEq, true_and]
  omega

/-! ## Numbers of single precision -/

/-- Numbers that are written out have few digits before the point. -/
private theorem whole_lt {d : Nat} (hk : 0 ≤ k)
    (hPositional : numberStyle.positional (k + (digitsText d).length - 1) = true) :
    10 * (d * 10 ^ k.toNat) < 2 ^ 53 := by
  have hLength : 0 < (digitsText d).length := List.length_pos_of_ne_nil (digitsText_ne_nil d)
  have hDigits : d < 10 ^ (digitsText d).length :=
    (Nat.length_toDigits_le_iff (by decide) hLength).1 (Nat.le_refl _)
  have hExponent : (digitsText d).length + k.toNat ≤ 13 := by
    unfold numberStyle at hPositional
    simp only [Bool.and_eq_true, decide_eq_true_eq] at hPositional
    omega
  calc 10 * (d * 10 ^ k.toNat) < 10 * (10 ^ (digitsText d).length * 10 ^ k.toNat) := by
        refine Nat.mul_lt_mul_of_pos_left (Nat.mul_lt_mul_of_pos_right hDigits ?_) (by decide)
        exact Nat.pow_pos (by decide)
    _ = 10 * 10 ^ ((digitsText d).length + k.toNat) := by rw [← Nat.pow_add]
    _ ≤ 10 * 10 ^ 13 := Nat.mul_le_mul_left 10 (Nat.pow_le_pow_right (by decide) hExponent)
    _ < 2 ^ 53 := by decide

/-- The numeral is one of a number that is no integer. -/
structure Numeral.Denotes (n : Numeral) (x : Float32) : Prop where
  proper : n.Proper
  toInt?_eq_none : n.toInt? = none
  toFloat32?_eq_some : n.toDecimal.toFloat32? = some x

/-- **A magnitude is written as a numeral of it.** -/
theorem exists_numeral_magnitude {v : Magnitude} (negative : Bool) (h : v.Finite) :
    ∃ n : Numeral, n.Denotes (signedFloat32 negative v.bits) ∧
      n.text = signText negative ++ v.text numberStyle := by
  obtain ⟨hHolds, hFine, -, -⟩ := Magnitude.shortest_spec .toEven h
  have hPos := Magnitude.digits_pos h hHolds
  have hFew := Magnitude.digits_le h hFine hHolds
  have hShortest := Decimal.toFloat32?_shortest negative h
  unfold Magnitude.text
  rw [show numberStyle.tie = .toEven from rfl]
  generalize v.shortest .toEven = shortest at *
  obtain ⟨d, k⟩ := shortest
  dsimp only at *
  have hNe := digitsText_ne_nil d
  have hDigits : ∀ c ∈ digitsText d, c.isDigit = true := fun _ => isDigit_of_mem_digitsText
  have hHead : (digitsText d).head? ≠ some '0' := fun hZero =>
    hPos.ne' (eq_zero_of_head?_digitsText d hZero)
  split
  · next hPositional =>
    refine ⟨Numeral.positional negative (digitsText d) k, {
      proper := Numeral.proper_positional hNe hDigits hHead
      toInt?_eq_none := Numeral.toInt?_eq_none (.inl (Numeral.fraction_positional_ne_nil hNe))
      toFloat32?_eq_some := ?_ }, Numeral.text_positional hNe⟩
    rw [Numeral.toDecimal_positional (by omega) (fun hk => whole_lt hk hPositional)]
    split
    · next hk =>
      refine Decimal.toFloat32?_whole negative h (whole_lt hk hPositional) ?_
      obtain ⟨n, rfl⟩ := Int.eq_ofNat_of_zero_le hk
      rw [zpow_natCast] at hHolds
      exact_mod_cast hHolds
    · exact hShortest
  · refine ⟨Numeral.scientific negative (digitsText d) (k + (digitsText d).length - 1), {
      proper := Numeral.proper_scientific hNe hDigits
      toInt?_eq_none := Numeral.toInt?_eq_none (.inr rfl)
      toFloat32?_eq_some := ?_ }, Numeral.text_scientific hNe⟩
    rw [Numeral.toDecimal_scientific (by omega)]
    exact hShortest

private theorem denotes_zero (negative : Bool) :
    (Numeral.mk negative ['0'] ['0'] none).Denotes (signedFloat32 negative 0) where
  proper := {
    whole_ne_nil := List.cons_ne_nil _ _
    whole_isDigit := by simp
    lone_zero := fun _ => rfl
    fraction_isDigit := by simp }
  toInt?_eq_none := Numeral.toInt?_eq_none (.inl (List.cons_ne_nil _ _))
  toFloat32?_eq_some := Decimal.toFloat32?_zero negative

/-- **Every finite number is written as a numeral of it**, with each of its bits. -/
theorem exists_numeral {x : Float32} (hFinite : x.isFinite = true) :
    ∃ n : Numeral, n.Denotes x ∧ n.text = writeFloat32 x := by
  have hSigned := signedFloat32_bits x
  have hText : writeFloat32 x = signText (signBit x) ++
      if isZero x then positionalText true ['0'] 0
      else (Magnitude.ofFloat32 x).text numberStyle := by
    unfold writeFloat32 decimalText
    rw [if_pos hFinite]
    cases signBit x <;> rfl
  rw [hText]
  cases hZero : isZero x with
  | true =>
    have hBits : x.toBits.toNat % 2 ^ 31 = 0 := of_decide_eq_true hZero
    have hDenotes := denotes_zero (signBit x)
    rw [← hBits, hSigned] at hDenotes
    exact ⟨_, hDenotes, rfl⟩
  | false =>
    obtain ⟨n, hDenotes, hNumeral⟩ :=
      exists_numeral_magnitude (signBit x) (Magnitude.finite_ofFloat32 hFinite hZero)
    rw [Magnitude.bits_ofFloat32, hSigned] at hDenotes
    exact ⟨n, hDenotes, hNumeral⟩

/-- **A numeral of a number reads as the number.** -/
theorem Numeral.Denotes.readFloat32_text {n : Numeral} {x : Float32} (h : n.Denotes x)
    {rest : List Char} (hRest : Delimited rest) : readFloat32 (n.text ++ rest) = .ok (x, rest) := by
  unfold readFloat32
  rw [Reader.bind_ok (scanNumeral_text .truncated h.proper hRest), h.toInt?_eq_none]
  dsimp only
  rw [h.toFloat32?_eq_some]
  rfl

end Json

end IndexedMesh
