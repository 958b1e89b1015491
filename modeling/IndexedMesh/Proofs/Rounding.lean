import Mathlib.Algebra.Order.Field.Power
import Mathlib.Data.Rat.Cast.Order
import Mathlib.Tactic.FieldSimp
import Mathlib.Tactic.Linarith
import Mathlib.Tactic.Positivity
import Mathlib.Tactic.Ring
import IndexedMesh.Decimal.Basic

/-!
# How far rounding moves a number

Rounding is computed on quotients of naturals. Here it is described by what it does to the rational
number that the quotient stands for: the result is a multiple of a power of two, the unit of the
number, and it is at most half a unit away. From this follow the two facts that reading a decimal
needs: a number that the format holds is left alone, and any other number in the normal range moves
by at most one part in `2 ^ bits`.

## Main results

* `roundQuotient_eq_of_within` — the integer that a quotient is rounded to.
* `Precision.value_round_le` — rounding moves a number by at most half a unit.
* `Precision.value_round_exact` — it does not move a number of the format.
* `Precision.round_near` — the relative error.
-/

namespace IndexedMesh

/-! ## Powers with integer exponents -/

/-- A power with an integer exponent is a quotient of powers with natural exponents, one of them
zero. -/
theorem zpow_eq_div_toNat (b : ℚ) (e : ℤ) :
    b ^ e = b ^ e.toNat / b ^ (-e).toNat := by
  rcases le_total 0 e with h | h
  · obtain ⟨n, rfl⟩ := Int.eq_ofNat_of_zero_le h
    simp
  · obtain ⟨n, hn⟩ := Int.eq_ofNat_of_zero_le (neg_nonneg.2 h)
    obtain rfl : e = -(n : ℤ) := by omega
    simp

/-! ## The nearest integer -/

/-- A quotient is at most one half away from the integer that it is rounded to. -/
theorem roundQuotient_bounds (num den : Nat) (hden : 0 < den) :
    2 * num ≤ 2 * (den * roundQuotient num den) + den ∧
      2 * (den * roundQuotient num den) ≤ 2 * num + den := by
  have hDiv : den * (num / den) + num % den = num := Nat.div_add_mod num den
  have hMod : num % den < den := Nat.mod_lt num hden
  unfold roundQuotient
  dsimp only
  split
  · constructor <;> omega
  · split
    · rw [Nat.mul_add]
      constructor <;> omega
    · rcases Nat.mod_two_eq_zero_or_one (num / den) with h | h <;> rw [h, Nat.mul_add] <;>
        constructor <;> omega

/-- **The integer that a quotient is rounded to** is the one less than half away, or at most half
away if it is even. -/
theorem roundQuotient_eq_of_within {num den n : Nat} (hden : 0 < den)
    (hLower : 2 * (den * n) ≤ 2 * num + den) (hUpper : 2 * num ≤ 2 * (den * n) + den)
    (hTie : n % 2 = 1 → 2 * (den * n) < 2 * num + den ∧ 2 * num < 2 * (den * n) + den) :
    roundQuotient num den = n := by
  have hDiv : den * (num / den) + num % den = num := Nat.div_add_mod num den
  have hMod : num % den < den := Nat.mod_lt num hden
  generalize hq : num / den = q at *
  generalize hr : num % den = r at *
  -- The quotient is cut off or rounded up, so it is `n` or one less.
  have hCases : n = q ∨ n = q + 1 := by
    have h₁ : q ≤ n := by
      by_contra hlt
      have hmul : den * (n + 1) ≤ den * q := Nat.mul_le_mul_left den (by omega)
      rw [Nat.mul_add] at hmul
      have hr0 : r = 0 := by omega
      have hmod : n % 2 = 1 → False := fun h => by
        have := hTie h
        omega
      have hEq : den * q = den * (n + 1) := by
        rw [Nat.mul_add]
        omega
      omega
    have h₂ : n ≤ q + 1 := by
      by_contra hlt
      have hmul : den * (q + 2) ≤ den * n := Nat.mul_le_mul_left den (by omega)
      rw [Nat.mul_add] at hmul
      omega
    omega
  unfold roundQuotient
  dsimp only
  rw [hq, hr]
  rcases hCases with rfl | rfl
  · have hHalf : 2 * r ≤ den := by omega
    by_cases h : 2 * r < den
    · rw [if_pos h]
    · rw [if_neg h, if_neg (by omega)]
      have hEven : ¬ n % 2 = 1 := fun hOdd => by
        have := hTie hOdd
        omega
      omega
  · rw [Nat.mul_add] at hLower hUpper hTie
    have hHalf : den ≤ 2 * r := by omega
    by_cases h : den < 2 * r
    · rw [if_neg (by omega), if_pos h]
    · rw [if_neg (by omega), if_neg h]
      have hEven : ¬ (q + 1) % 2 = 1 := fun hOdd => by
        have := hTie hOdd
        omega
      omega

/-! ## The size of a quotient -/

/-- **The logarithm of a quotient**, rounded down. -/
theorem floorLog2_bounds {num den : Nat} (hnum : 0 < num) (hden : 0 < den) :
    (2 : ℚ) ^ floorLog2 num den ≤ num / den ∧ (num / den : ℚ) < 2 ^ (floorLog2 num den + 1) := by
  have hden' : (0 : ℚ) < den := by exact_mod_cast hden
  have hNumLow : (2 : ℚ) ^ (num.log2 : ℤ) ≤ num := by
    exact_mod_cast Nat.log2_self_le hnum.ne'
  have hNumHigh : (num : ℚ) < 2 ^ ((num.log2 : ℤ) + 1) := by
    exact_mod_cast Nat.lt_log2_self (n := num)
  have hDenLow : (2 : ℚ) ^ (den.log2 : ℤ) ≤ den := by
    exact_mod_cast Nat.log2_self_le hden.ne'
  have hDenHigh : (den : ℚ) < 2 ^ ((den.log2 : ℤ) + 1) := by
    exact_mod_cast Nat.lt_log2_self (n := den)
  -- The two logarithms give the answer up to one.
  set guess : ℤ := num.log2 - den.log2 with hGuess
  have hBelow : (2 : ℚ) ^ (guess - 1) ≤ num / den := by
    rw [le_div_iff₀ hden']
    calc (2 : ℚ) ^ (guess - 1) * den ≤ 2 ^ (guess - 1) * 2 ^ ((den.log2 : ℤ) + 1) := by gcongr
      _ = 2 ^ (num.log2 : ℤ) := by
        rw [← zpow_add₀ two_ne_zero]
        congr 1
        omega
      _ ≤ num := hNumLow
  have hAbove : (num / den : ℚ) < 2 ^ (guess + 1) := by
    rw [div_lt_iff₀ hden']
    calc (num : ℚ) < 2 ^ ((num.log2 : ℤ) + 1) := hNumHigh
      _ = 2 ^ (guess + 1) * 2 ^ (den.log2 : ℤ) := by
        rw [← zpow_add₀ two_ne_zero]
        congr 1
        omega
      _ ≤ 2 ^ (guess + 1) * den := by gcongr
  have hTest : den * Nat.pow 2 guess.toNat ≤ num * Nat.pow 2 (-guess).toNat ↔
      (2 : ℚ) ^ guess ≤ num / den := by
    rw [zpow_eq_div_toNat, div_le_div_iff₀ (by positivity) hden', mul_comm]
    exact_mod_cast Iff.rfl
  unfold floorLog2
  dsimp only
  rw [← hGuess]
  by_cases h : den * Nat.pow 2 guess.toNat ≤ num * Nat.pow 2 (-guess).toNat
  · rw [if_pos h]
    exact ⟨hTest.1 h, hAbove⟩
  · rw [if_neg h, sub_add_cancel]
    exact ⟨hBelow, lt_of_not_ge fun hle => h (hTest.2 hle)⟩

/-! ## Rounded numbers -/

/-- The number that is meant. -/
def Rounded.value (r : Rounded) : ℚ := r.mantissa * 2 ^ r.exponent

theorem Rounded.den_pos (r : Rounded) : 0 < r.den := Nat.pos_of_ne_zero (by simp [Rounded.den])

theorem Rounded.num_div_den (r : Rounded) : (r.num / r.den : ℚ) = r.value := by
  rw [Rounded.value, zpow_eq_div_toNat, Rounded.num, Rounded.den]
  simp only [Nat.pow_eq]
  push_cast
  rw [mul_div_assoc]

theorem Rounded.num_pos {r : Rounded} (h : 0 < r.value) : 0 < r.num := by
  have hDen : (0 : ℚ) < r.den := by exact_mod_cast r.den_pos
  rw [← r.num_div_den] at h
  have hNum : (0 : ℚ) < r.num := by
    by_contra hle
    exact absurd h (not_lt.2 (div_nonpos_of_nonpos_of_nonneg (not_lt.1 hle) hDen.le))
  exact_mod_cast hNum

namespace Precision

variable {p : Precision} {num den : Nat}

theorem exponent_round (hnum : 0 < num) :
    (p.round num den).exponent = max p.unit (floorLog2 num den - (p.bits - 1)) := by
  rw [round, if_neg hnum.ne']

/-- The quotient that is rounded to an integer is the number in its units. -/
private theorem scaled_eq (num den : Nat) (e : ℤ) :
    ((num * Nat.pow 2 (-e).toNat : Nat) : ℚ) / (den * Nat.pow 2 e.toNat : Nat) =
      num / den / 2 ^ e := by
  rw [zpow_eq_div_toNat]
  simp only [Nat.pow_eq]
  push_cast
  rw [div_div_div_eq]

private theorem scaled_pos (hden : 0 < den) (e : ℤ) : 0 < den * Nat.pow 2 e.toNat :=
  Nat.mul_pos hden (Nat.pow_pos (by decide))

/-- **Rounding moves a number by at most half a unit.** -/
theorem value_round_le (hnum : 0 < num) (hden : 0 < den) :
    |(p.round num den).value - num / den| ≤ 2 ^ (p.round num den).exponent / 2 := by
  have hExponent : (p.round num den).exponent = _ := exponent_round hnum
  generalize hr : p.round num den = r at *
  have hMantissa : r.mantissa =
      roundQuotient (num * Nat.pow 2 (-r.exponent).toNat) (den * Nat.pow 2 r.exponent.toNat) := by
    rw [hExponent, ← hr, round, if_neg hnum.ne']
  have hPos := scaled_pos hden r.exponent
  have hBounds := roundQuotient_bounds (num * Nat.pow 2 (-r.exponent).toNat) _ hPos
  rw [← hMantissa] at hBounds
  have hScaled := scaled_eq num den r.exponent
  set a := num * Nat.pow 2 (-r.exponent).toNat
  set b := den * Nat.pow 2 r.exponent.toNat
  have hb : (0 : ℚ) < b := by exact_mod_cast hPos
  have hUnit : (0 : ℚ) < 2 ^ r.exponent := by positivity
  have hLower : 2 * (a : ℚ) ≤ 2 * (b * r.mantissa) + b := by exact_mod_cast hBounds.1
  have hUpper : 2 * (b * r.mantissa : ℚ) ≤ 2 * a + b := by exact_mod_cast hBounds.2
  have hLower' : (a : ℚ) / b ≤ r.mantissa + 1 / 2 := by
    rw [div_le_iff₀ hb]
    linarith
  have hUpper' : (r.mantissa : ℚ) - 1 / 2 ≤ a / b := by
    rw [le_div_iff₀ hb]
    linarith
  rw [hScaled] at hLower' hUpper'
  rw [div_le_iff₀ hUnit] at hLower'
  rw [le_div_iff₀ hUnit] at hUpper'
  rw [Rounded.value, abs_le]
  constructor <;> linarith

/-- The mantissa of a rounded number, if the number is near enough to it. -/
theorem mantissa_round_eq (hnum : 0 < num) (hden : 0 < den) {n : Nat}
    (hNear : |(num / den : ℚ) - n * 2 ^ (p.round num den).exponent| ≤
      2 ^ (p.round num den).exponent / 2)
    (hTie : n % 2 = 1 → |(num / den : ℚ) - n * 2 ^ (p.round num den).exponent| <
      2 ^ (p.round num den).exponent / 2) :
    (p.round num den).mantissa = n := by
  have hExponent : (p.round num den).exponent = _ := exponent_round hnum
  generalize hr : p.round num den = r at *
  have hMantissa : r.mantissa =
      roundQuotient (num * Nat.pow 2 (-r.exponent).toNat) (den * Nat.pow 2 r.exponent.toNat) := by
    rw [hExponent, ← hr, round, if_neg hnum.ne']
  have hPos := scaled_pos hden r.exponent
  have hScaled := scaled_eq num den r.exponent
  rw [hMantissa]
  set a := num * Nat.pow 2 (-r.exponent).toNat
  set b := den * Nat.pow 2 r.exponent.toNat
  have hb : (0 : ℚ) < b := by exact_mod_cast hPos
  have hUnit : (0 : ℚ) < 2 ^ r.exponent := by positivity
  -- In units, the number is at most one half away from the integer.
  have hDistance : (num / den : ℚ) - n * 2 ^ r.exponent = (a / b - n) * 2 ^ r.exponent := by
    rw [hScaled]
    field_simp
  rw [hDistance, abs_mul, abs_of_pos hUnit] at hNear hTie
  have hNear' : |(a / b : ℚ) - n| ≤ 1 / 2 := by
    by_contra h
    nlinarith
  have hTie' : n % 2 = 1 → |(a / b : ℚ) - n| < 1 / 2 := fun h => by
    by_contra h'
    nlinarith [hTie h]
  have hValue : (a : ℚ) / b * b = a := div_mul_cancel₀ _ hb.ne'
  have hBelow := (abs_le.1 hNear').1
  have hAbove := (abs_le.1 hNear').2
  refine roundQuotient_eq_of_within hPos ?_ ?_ fun hOdd => ⟨?_, ?_⟩
  · have h : 2 * ((b : ℚ) * n) ≤ 2 * a + b := by nlinarith
    exact_mod_cast h
  · have h : 2 * (a : ℚ) ≤ 2 * (b * n) + b := by nlinarith
    exact_mod_cast h
  · have hStrict := (abs_lt.1 (hTie' hOdd)).1
    have h : 2 * ((b : ℚ) * n) < 2 * a + b := by nlinarith
    exact_mod_cast h
  · have hStrict := (abs_lt.1 (hTie' hOdd)).2
    have h : 2 * (a : ℚ) < 2 * (b * n) + b := by nlinarith
    exact_mod_cast h

/-- **The relative error of rounding** a number in the normal range. -/
theorem round_near (hnum : 0 < num) (hden : 0 < den)
    (hNormal : (2 : ℚ) ^ (p.unit + (p.bits - 1)) ≤ num / den) :
    |(p.round num den).value - num / den| ≤ (num / den : ℚ) / 2 ^ p.bits := by
  obtain ⟨hLog, hLog'⟩ := floorLog2_bounds hnum hden
  have hRange : p.unit + (p.bits - 1) < floorLog2 num den + 1 :=
    (zpow_lt_zpow_iff_right₀ one_lt_two).1 (hNormal.trans_lt hLog')
  have hExponent : (p.round num den).exponent = floorLog2 num den - (p.bits - 1) := by
    rw [exponent_round hnum]
    omega
  refine (value_round_le hnum hden).trans ?_
  calc (2 : ℚ) ^ (p.round num den).exponent / 2 = 2 ^ floorLog2 num den / 2 ^ p.bits := by
        rw [hExponent, ← zpow_natCast, ← zpow_sub₀ two_ne_zero, eq_comm, eq_div_iff two_ne_zero,
          ← zpow_add_one₀ two_ne_zero]
        congr 1
        omega
    _ ≤ num / den / 2 ^ p.bits := by gcongr

/-- **A number of the format is not moved.** -/
theorem value_round_exact (hnum : 0 < num) (hden : 0 < den) {n : Nat} {s : ℤ}
    (hn : n < 2 ^ p.bits) (hs : p.unit ≤ s) (hValue : (num / den : ℚ) = n * 2 ^ s) :
    (p.round num den).value = num / den := by
  obtain ⟨hLog, -⟩ := floorLog2_bounds hnum hden
  -- The unit of the number is not greater than the unit that it is given in.
  have hFine : (p.round num den).exponent ≤ s := by
    rw [exponent_round hnum]
    refine max_le hs ?_
    have hLess : (2 : ℚ) ^ floorLog2 num den < 2 ^ (p.bits + s : ℤ) := by
      refine hLog.trans_lt ?_
      rw [hValue, zpow_add₀ two_ne_zero, zpow_natCast]
      have hn' : (n : ℚ) < 2 ^ p.bits := by exact_mod_cast hn
      gcongr
    have := (zpow_lt_zpow_iff_right₀ one_lt_two).1 hLess
    omega
  obtain ⟨i, hi⟩ := Int.eq_ofNat_of_zero_le (sub_nonneg.2 hFine)
  have hUnits : (num / den : ℚ) = ((n * 2 ^ i : Nat) : ℚ) * 2 ^ (p.round num den).exponent := by
    rw [hValue, show s = (i : ℤ) + (p.round num den).exponent by omega,
      zpow_add₀ two_ne_zero, zpow_natCast]
    push_cast
    ring
  have hUnit : (0 : ℚ) < 2 ^ (p.round num den).exponent := by positivity
  have hMantissa : (p.round num den).mantissa = n * 2 ^ i := by
    refine mantissa_round_eq hnum hden ?_ fun _ => ?_ <;> rw [hUnits, sub_self, abs_zero] <;>
      positivity
  rw [Rounded.value, hMantissa, hUnits]

/-! ## Products and quotients -/

/-- The product of two rounded numbers, before it is rounded. -/
theorem mul_quotient (a b : Rounded) :
    ((a.num * b.num : Nat) : ℚ) / (a.den * b.den : Nat) = a.value * b.value := by
  rw [← a.num_div_den, ← b.num_div_den]
  push_cast
  rw [div_mul_div_comm]

/-- The quotient of two rounded numbers, before it is rounded. -/
theorem div_quotient (a b : Rounded) :
    ((a.num * b.den : Nat) : ℚ) / (a.den * b.num : Nat) = a.value / b.value := by
  rw [← a.num_div_den, ← b.num_div_den]
  push_cast
  rw [div_div_div_eq]

end Precision

end IndexedMesh
