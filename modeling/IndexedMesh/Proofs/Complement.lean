import IndexedMesh.Proofs.FloatText

/-!
# Reversed coordinates stay finite

A coordinate is reversed by taking it from one. The exact difference of one and a finite number is
less than half a unit beyond the greatest finite number, so it is not rounded to infinity.

Arithmetic is done on the sign, the mantissa and the exponent of a number. The exact result is
shifted to the exponent that its size asks for, the bits that are shifted out decide the rounding,
and the result is infinite if that exponent is too great. So what has to be followed is how far the
rounding can lift the result, which is by half of the unit that it is rounded to.

## Main results

* `InRange` — the result of an operation that is stored as a finite number.
* `inRange_round` — rounding stays in the range from half a unit below its end.
* `isFinite_one_sub` — **one minus a finite number is finite.**
-/

namespace IndexedMesh

open Float.Model Float.Model.UnpackedFloat

/-! ## Numbers in parts -/

/-- The number is zero, or its exponent is no greater than that of the greatest finite number. -/
def InRange : UnpackedFloat → Prop
  | .zero _ => True
  | .finite _ _ exponent _ => exponent ≤ 104
  | _ => False

/-- What is in the range is stored as a finite number. -/
theorem isFinite_of_inRange {u : UnpackedFloat} (h : InRange u) :
    (Float32.ofModel (Float32.Model.pack u)).isFinite = true := by
  have hUnpack : ∀ b : BitVec Format.binary32.numBits, unpackExponent b ≠ -1#_ →
      (UnpackedFloat.unpack .binary32 b).isFinite = true := by
    intro b hb
    unfold UnpackedFloat.unpack
    dsimp only
    rw [if_neg hb]
    split
    · split <;> rfl
    · rfl
  change (UnpackedFloat.unpack .binary32 (UnpackedFloat.pack .binary32 u)).isFinite = true
  refine hUnpack _ ?_
  cases u with
  | notANumber => exact h.elim
  | infinity sign => exact h.elim
  | zero sign =>
      rw [UnpackedFloat.pack, packedZero, unpackExponent_packComponents]
      decide
  | finite sign m e hm =>
      have hExponent : e ≤ 104 := h
      unfold UnpackedFloat.pack
      dsimp only
      have hBias : e + (Format.binary32.exponentBias : ℤ) +
          (Format.binary32.mantissaBitsWithoutImplicit : ℤ) = e + 150 := by
        rw [add_assoc]
        rfl
      rw [hBias, if_neg (by show ¬ 2 ^ 8 ≤ _; omega)]
      split
      · rw [unpackExponent_packComponents]
        intro hOnes
        have := congrArg BitVec.toNat hOnes
        rw [BitVec.toNat_ofNat] at this
        change (e + 150).toNat % 256 = 255 at this
        omega
      · rw [unpackExponent_packComponents]
        decide

/-- A finite number is zero, or it has a mantissa of 24 bits and an exponent in the range. -/
theorem unpack_of_isFinite {x : Float32} (h : x.isFinite = true) :
    (∃ sign, x.toModel.unpack = .zero sign) ∨
      ∃ sign m e hm, x.toModel.unpack = .finite sign m e hm ∧ m < 2 ^ 24 ∧ e ≤ 104 := by
  change (UnpackedFloat.unpack .binary32 x.toModel.toBits.toBitVec).isFinite = true at h
  generalize hUnpack : x.toModel.unpack = u
  change UnpackedFloat.unpack .binary32 x.toModel.toBits.toBitVec = u at hUnpack
  rw [hUnpack] at h
  unfold UnpackedFloat.unpack at hUnpack
  dsimp only at hUnpack
  split at hUnpack
  · split at hUnpack <;> subst hUnpack <;> cases h
  · next hOnes =>
    have hBias : (Format.binary32.exponentBias : ℤ) = 127 := rfl
    have hField := (@unpackExponent .binary32 x.toModel.toBits.toBitVec).isLt
    rw [← BitVec.toNat_inj] at hOnes
    change ¬ (@unpackExponent .binary32 x.toModel.toBits.toBitVec).toNat = 255 at hOnes
    change (@unpackExponent .binary32 x.toModel.toBits.toBitVec).toNat < 256 at hField
    split at hUnpack
    · next hSubnormal =>
      split at hUnpack
      · exact .inl ⟨_, hUnpack.symm⟩
      · refine .inr ⟨_, _, _, _, hUnpack.symm, lt_trans (BitVec.isLt _) (by decide), ?_⟩
        rw [hSubnormal]
        decide
    · refine .inr ⟨_, _, _, _, hUnpack.symm, BitVec.isLt _, ?_⟩
      omega

/-! ## Rounding -/

/-- What has been shifted to the right is at most a quotient, also with the bit after its last. -/
private theorem shiftRight_le (m n : Nat) :
    let shifted := ExtendedMantissa.ofMantissaAndAccuracy m .exact >>> n
    2 ^ n * (2 * shifted.mantissa + shifted.roundBit.toNat) ≤ 2 * m := by
  induction n with
  | zero =>
    show 2 ^ 0 * (2 * m + 0) ≤ 2 * m
    omega
  | succ n ih =>
    have hStep : ExtendedMantissa.ofMantissaAndAccuracy m .exact >>> (n + 1) =
        (ExtendedMantissa.ofMantissaAndAccuracy m .exact >>> n).shiftRightOne := rfl
    rw [hStep]
    generalize ExtendedMantissa.ofMantissaAndAccuracy m .exact >>> n = shifted at *
    dsimp only [ExtendedMantissa.shiftRightOne] at *
    have hBit :
        2 * (shifted.mantissa / 2) + (shifted.mantissa % 2 != 0).toNat = shifted.mantissa := by
      rcases Nat.mod_two_eq_zero_or_one shifted.mantissa with h | h <;> rw [h] <;> simp <;> omega
    rw [hBit, pow_succ]
    calc 2 ^ n * 2 * shifted.mantissa
        ≤ 2 ^ n * (2 * shifted.mantissa + shifted.roundBit.toNat) := by
          rw [mul_assoc]
          gcongr
          omega
      _ ≤ 2 * m := ih

/-- What is rounded is lifted by at most half of the last place. -/
private theorem roundedMantissa_le (m n : Nat) :
    2 ^ n * (2 * (ExtendedMantissa.ofMantissaAndAccuracy m .exact >>> n).roundedMantissa) ≤
      2 * m + 2 ^ n := by
  have hShift := shiftRight_le m n
  generalize ExtendedMantissa.ofMantissaAndAccuracy m .exact >>> n = shifted at *
  dsimp only at hShift
  have hLift : shifted.roundedMantissa ≤ shifted.mantissa + shifted.roundBit.toNat := by
    obtain ⟨mantissa, roundBit, stickyBit⟩ := shifted
    cases roundBit <;> cases stickyBit <;>
      simp only [ExtendedMantissa.roundedMantissa, ExtendedMantissa.accuracy,
        Accuracy.roundToNearestEven, Bool.toNat_true, Bool.toNat_false] <;> omega
  have hBit : shifted.roundBit.toNat ≤ 1 := shifted.roundBit.toNat_le
  calc 2 ^ n * (2 * shifted.roundedMantissa)
      ≤ 2 ^ n * (2 * shifted.mantissa + shifted.roundBit.toNat + 1) := by
        gcongr
        omega
    _ ≤ 2 * m + 2 ^ n := by
        rw [mul_add, mul_one]
        omega

/-- The exponent that a number asks for is in the range if the number is. -/
private theorem targetExponent_le {m : Nat} {e : ℤ} (he : e ≤ 104)
    (hSize : (m : ℚ) * 2 ^ e < 2 ^ (128 : ℤ)) :
    Format.binary32.targetExponent (totalExponent m e) ≤ 104 := by
  have hLog : (m.log2 : ℤ) + e < 128 := by
    by_cases hm : m = 0
    · subst hm
      simp
      omega
    · have hPow : ((2 ^ m.log2 : Nat) : ℚ) ≤ m := by exact_mod_cast Nat.log2_self_le hm
      have hLess : (2 : ℚ) ^ ((m.log2 : ℤ) + e) < 2 ^ (128 : ℤ) := by
        rw [zpow_add₀ two_ne_zero, zpow_natCast]
        refine lt_of_le_of_lt ?_ hSize
        gcongr
        exact_mod_cast hPow
      exact (zpow_lt_zpow_iff_right₀ one_lt_two).1 hLess
  show max ((m.log2 : ℤ) + 1 + e - 24) (-149) ≤ 104
  omega

/-- **Rounding stays in the range** if the exact number is at least half a unit below its end. -/
private theorem inRange_roundWithAccuracy (sign : Sign) {m : Nat} {e : ℤ} (he : e ≤ 104)
    (hSize : (m : ℚ) * 2 ^ e + 2 ^ (103 : ℤ) < 2 ^ (128 : ℤ)) :
    InRange (roundWithAccuracy .binary32 sign m e .exact) := by
  have hTarget : Format.binary32.targetExponent (totalExponent m e) ≤ 104 :=
    targetExponent_le he (lt_of_le_of_lt (le_add_of_nonneg_right (by positivity)) hSize)
  set n := (Format.binary32.targetExponent (totalExponent m e) - e).toNat with hn
  set rounded := (ExtendedMantissa.ofMantissaAndAccuracy m .exact >>> n).roundedMantissa
    with hRounded
  have hExponent : e + n ≤ 104 := by omega
  -- Half of the unit that the number is rounded to is not more than half of the greatest unit.
  have hRoundedSize : (rounded : ℚ) * 2 ^ (e + n) < 2 ^ (128 : ℤ) := by
    have hNat : (2 ^ n * (2 * rounded) : ℚ) ≤ 2 * m + 2 ^ n := by
      exact_mod_cast roundedMantissa_le m n
    have hUnit : (2 : ℚ) ^ (e + n) ≤ 2 ^ (104 : ℤ) := zpow_le_zpow_right₀ one_le_two hExponent
    have hPow : (2 : ℚ) ^ (e + n) = 2 ^ n * 2 ^ e := by
      rw [zpow_add₀ two_ne_zero, zpow_natCast, mul_comm]
    have hScaled : 2 * (rounded * 2 ^ (e + n)) ≤ 2 * (m * 2 ^ e) + (2 : ℚ) ^ (e + n) := by
      have hMul := mul_le_mul_of_nonneg_right hNat (zpow_pos (two_pos (α := ℚ)) e).le
      rw [hPow]
      linarith
    have hHalf : (2 : ℚ) ^ (104 : ℤ) = 2 * 2 ^ (103 : ℤ) := by norm_num
    linarith
  have hSecond := targetExponent_le hExponent hRoundedSize
  have hResult : roundWithAccuracy .binary32 sign m e .exact =
      (let final := shiftToTargetExponent .binary32 rounded (e + n) .exact
      if h : final.1.mantissa = 0 then .zero sign
      else .finite sign final.1.mantissa final.2 (Nat.pos_of_ne_zero h)) := rfl
  rw [hResult]
  dsimp only
  split
  · trivial
  · show e + n + ((Format.binary32.targetExponent (totalExponent rounded (e + n)) -
      (e + n)).toNat : ℤ) ≤ 104
    omega

/-- Rounding a number that may have to be shifted to the left first. -/
theorem inRange_round (sign : Sign) {m : Nat} {e : ℤ} (he : e ≤ 104)
    (hSize : (m : ℚ) * 2 ^ e + 2 ^ (103 : ℤ) < 2 ^ (128 : ℤ)) :
    InRange (UnpackedFloat.round .binary32 sign m e) := by
  set k := (e - Format.binary32.targetExponent (totalExponent m e)).toNat with hk
  have hResult : UnpackedFloat.round .binary32 sign m e =
      roundWithAccuracy .binary32 sign (m <<< k) (e - k) .exact := rfl
  rw [hResult]
  refine inRange_roundWithAccuracy sign (by omega) ?_
  have hSame : ((m <<< k : Nat) : ℚ) * 2 ^ (e - k) = m * 2 ^ e := by
    rw [Nat.shiftLeft_eq]
    push_cast
    rw [mul_assoc, ← zpow_natCast, ← zpow_add₀ two_ne_zero]
    congr 2
    omega
  rw [hSame]
  exact hSize

/-! ## Differences -/

/-- A result with a sign is in the range if its magnitude is half a unit below the end. -/
private theorem inRange_normalize {mantissa : ℤ} {e : ℤ} (zeroSign : Sign) {b : ℚ} (he : e ≤ 104)
    (hMantissa : (mantissa.natAbs : ℚ) * 2 ^ e ≤ b)
    (hBound : b + 2 ^ (103 : ℤ) < 2 ^ (128 : ℤ)) :
    InRange (UnpackedFloat.normalize .binary32 mantissa e zeroSign) := by
  have hSize : (mantissa.natAbs : ℚ) * 2 ^ e + 2 ^ (103 : ℤ) < 2 ^ (128 : ℤ) := by linarith
  unfold UnpackedFloat.normalize
  split
  · next hCompare =>
    have hNegative : mantissa < 0 := Int.compare_eq_lt.1 hCompare
    rw [show (-mantissa).toNat = mantissa.natAbs by omega]
    exact inRange_round _ he hSize
  · trivial
  · next hCompare =>
    have hPositive : 0 < mantissa := Int.compare_eq_gt.1 hCompare
    rw [show mantissa.toNat = mantissa.natAbs by omega]
    exact inRange_round _ he hSize

private theorem decreaseExponent_value (m : Nat) (e target : ℤ) (h : target ≤ e) :
    ((decreaseExponent m e target).1 : ℚ) * 2 ^ target = m * 2 ^ e := by
  rw [decreaseExponent, Nat.shiftLeft_eq]
  push_cast
  rw [mul_assoc, ← zpow_natCast, ← zpow_add₀ two_ne_zero]
  congr 2
  omega

/-- **One minus a finite number is finite.** -/
theorem isFinite_one_sub {x : Float32} (h : x.isFinite = true) : (1 - x).isFinite = true := by
  have hOne : (1 : Float32).toModel.unpack = .finite .positive (2 ^ 23) (-23) (by decide) := by
    rfl
  change (Float32.ofModel (Float32.Model.pack (UnpackedFloat.sub .binary32
    (1 : Float32).toModel.unpack x.toModel.unpack))).isFinite = true
  refine isFinite_of_inRange ?_
  rw [hOne]
  rcases unpack_of_isFinite h with ⟨sign, hZero⟩ | ⟨sign, m, e, hm, hFinite, hLess, hExponent⟩
  · rw [hZero]
    show (-23 : ℤ) ≤ 104
    decide
  · rw [hFinite]
    set low := min (-23) e with hLow
    set one := (decreaseExponent (2 ^ 23) (-23) low).1 with hOneMantissa
    set other := (decreaseExponent m e low).1 with hOtherMantissa
    have hOneValue : (one : ℚ) * 2 ^ low = (2 ^ 23 : Nat) * 2 ^ (-23 : ℤ) :=
      decreaseExponent_value _ _ _ (min_le_left _ _)
    have hOtherValue : (other : ℚ) * 2 ^ low = m * 2 ^ e :=
      decreaseExponent_value _ _ _ (min_le_right _ _)
    show InRange (UnpackedFloat.normalize .binary32 (Sign.positive.apply one - sign.apply other) low
      .positive)
    have hAbs : (Sign.positive.apply one - sign.apply other).natAbs ≤ one + other := by
      cases sign <;> simp only [Sign.apply] <;> omega
    have hMost : (m : ℚ) * 2 ^ e ≤ (2 ^ 24 - 1) * 2 ^ (104 : ℤ) := by
      have hMantissa : (m : ℚ) ≤ 2 ^ 24 - 1 := by
        rw [le_sub_iff_add_le]
        exact_mod_cast hLess
      have hUnit : (2 : ℚ) ^ e ≤ 2 ^ (104 : ℤ) := zpow_le_zpow_right₀ one_le_two hExponent
      gcongr
    refine inRange_normalize _ (b := 1 + (2 ^ 24 - 1) * 2 ^ (104 : ℤ)) ?_ ?_ (by norm_num)
    · omega
    · calc ((Sign.positive.apply one - sign.apply other).natAbs : ℚ) * 2 ^ low
          ≤ (one + other) * 2 ^ low := by
            gcongr
            exact_mod_cast hAbs
        _ = (2 ^ 23 : Nat) * 2 ^ (-23 : ℤ) + m * 2 ^ e := by rw [add_mul, hOneValue, hOtherValue]
        _ ≤ 1 + (2 ^ 24 - 1) * 2 ^ (104 : ℤ) := by
            have hUnitOne : ((2 ^ 23 : Nat) : ℚ) * 2 ^ (-23 : ℤ) = 1 := by norm_num
            rw [hUnitOne]
            linarith

end IndexedMesh
