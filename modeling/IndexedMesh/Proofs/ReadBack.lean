import IndexedMesh.Proofs.Neighbours
import IndexedMesh.Proofs.Shortest

/-!
# The shortest digits read back

The shortest digits of a number lie in its rounding interval, so rounded once they give the number
again. But they are read by way of double precision, where they are multiplied or divided by a power
of ten that may be rounded itself. The double that comes out is off by less than one part in
`2 ^ 51`, and it may have left the interval if the digits are that near to an end of it.

The ends are midpoints of numbers with one unit. How near digits on a decimal grid can come to such
a midpoint is a matter of the fractions next to the quotient of grid and unit, and these are found
for each unit. They show that hardly any digits are too near; the numbers on both sides of the
midpoints where there could be some are read back one by one, and so are the powers of two, whose
lower ends are midpoints of another unit.

## Main results

* `readDouble_near`, `readDouble_exact` — the double that digits are read as.
* `Magnitude.far_of_clear` — digits that are not on a midpoint are far from it.
* `Magnitude.readsBack_of_finite` — **the shortest digits of every finite number read back.**
-/

namespace IndexedMesh

open Precision

/-! ## Digits in double precision -/

/-- Digits times a power of ten in double precision. -/
def readDouble (d : Nat) (k : ℤ) : Rounded :=
  let digits := Precision.double.round d 1
  if 0 ≤ k then Precision.double.mul digits (powerOfTen k.toNat)
  else Precision.double.div digits (powerOfTen (-k).toNat)

/-- Digits that fit into double precision are not rounded. -/
theorem value_digits {d : Nat} (hPos : 0 < d) (hFit : d < 2 ^ 53) :
    (Precision.double.round d 1).value = d := by
  have h := value_round_exact (p := .double) (n := d) (s := 0) hPos one_pos hFit (by decide)
    (by simp)
  simpa using h

/-- What is at least one is in the normal range of double precision, and so is anything not much
smaller. -/
private theorem round_double_near {num den : Nat} (hnum : 0 < num) (hden : 0 < den)
    (hNormal : (2 : ℚ) ^ (-200 : ℤ) ≤ num / den) :
    |(Precision.double.round num den).value - num / den| ≤ (num / den : ℚ) / 2 ^ 53 := by
  refine round_near (p := .double) hnum hden (le_trans ?_ hNormal)
  exact zpow_le_zpow_right₀ one_le_two (by decide)

theorem powerOfTen_near (k : Nat) :
    |(powerOfTen k).value - 10 ^ k| ≤ (10 ^ k : ℚ) / 2 ^ 53 := by
  have hOne : (1 : ℚ) ≤ (10 : ℚ) ^ k := one_le_pow₀ (by norm_num)
  have h := @round_double_near (Nat.pow 10 k) 1 (Nat.pow_pos (by decide)) one_pos
    (by
      simp only [Nat.pow_eq]
      push_cast
      rw [div_one]
      exact le_trans (by norm_num) hOne)
  simp only [Nat.pow_eq] at h
  push_cast at h
  rw [div_one] at h
  exact h

/-- Powers of ten up to this one fit into double precision. -/
theorem value_powerOfTen {k : Nat} (hk : k ≤ 22) : (powerOfTen k).value = 10 ^ k := by
  have hFive : 5 ^ k < 2 ^ 53 := (Nat.pow_le_pow_right (by decide) hk).trans_lt (by decide)
  have h := @value_round_exact .double (Nat.pow 10 k) 1 (Nat.pow_pos (by decide)) one_pos (5 ^ k) k
    hFive (by simp [Precision.double])
    (by
      simp only [Nat.pow_eq]
      push_cast
      rw [div_one, zpow_natCast, ← mul_pow]
      norm_num)
  rw [powerOfTen, h]
  simp

private theorem powerOfTen_pos (k : Nat) : 0 < (powerOfTen k).value := by
  have hTen : (0 : ℚ) < 10 ^ k := by positivity
  have h := (abs_le.1 (powerOfTen_near k)).1
  have hSmall : (10 ^ k : ℚ) / 2 ^ 53 < 10 ^ k := div_lt_self hTen (by norm_num)
  linarith

private theorem mul_near {d p t : ℚ} (hd : 0 < d) (hp : |p - t| ≤ t / 2 ^ 53) :
    |d * p - d * t| ≤ d * t / 2 ^ 53 := by
  rw [← mul_sub, abs_mul, abs_of_pos hd, mul_div_assoc]
  gcongr

private theorem div_near {d p t : ℚ} (hd : 0 < d) (ht : 0 < t) (hp : |p - t| ≤ t / 2 ^ 53) :
    |d / p - d / t| ≤ d / t / 2 ^ 52 := by
  have hHalf : t / 2 ≤ p := by
    have h := (abs_le.1 hp).1
    linarith
  have hpPos : 0 < p := by linarith
  have hDifference : d / p - d / t = d / t * ((t - p) / p) := by
    field_simp
  have hRatio : |p - t| / p ≤ 1 / 2 ^ 52 := by
    rw [div_le_div_iff₀ hpPos (by norm_num)]
    linarith
  rw [hDifference, abs_mul, abs_of_pos (div_pos hd ht), abs_div, abs_of_pos hpPos, abs_sub_comm,
    div_eq_mul_one_div (d / t) (2 ^ 52)]
  exact mul_le_mul_of_nonneg_left hRatio (div_pos hd ht).le

/-- Digits times a power of ten are rounded from a quotient that is slightly off, and not at all for
small powers. -/
private theorem readDouble_eq {d : Nat} (k : ℤ) (hPos : 0 < d) (hFit : d < 2 ^ 53) :
    ∃ num den : Nat, 0 < num ∧ 0 < den ∧ readDouble d k = Precision.double.round num den ∧
      |(num / den : ℚ) - d * 10 ^ k| ≤ d * 10 ^ k / 2 ^ 52 ∧
      (-22 ≤ k → k ≤ 22 → (num / den : ℚ) = d * 10 ^ k) := by
  have hDigits := value_digits hPos hFit
  have hPos' : (0 : ℚ) < d := by exact_mod_cast hPos
  have hDigitsNum : 0 < (Precision.double.round d 1).num := Rounded.num_pos (hDigits ▸ hPos')
  unfold readDouble
  by_cases hk : 0 ≤ k
  · obtain ⟨n, rfl⟩ := Int.eq_ofNat_of_zero_le hk
    have hQuotient := mul_quotient (Precision.double.round d 1) (powerOfTen n)
    rw [hDigits] at hQuotient
    refine ⟨(Precision.double.round d 1).num * (powerOfTen n).num,
      (Precision.double.round d 1).den * (powerOfTen n).den,
      Nat.mul_pos hDigitsNum (Rounded.num_pos (powerOfTen_pos n)),
      Nat.mul_pos (Rounded.den_pos _) (Rounded.den_pos _), if_pos hk, ?_, fun _ hSmall => ?_⟩
    · rw [hQuotient, zpow_natCast]
      refine (mul_near hPos' (powerOfTen_near n)).trans ?_
      gcongr <;> norm_num
    · rw [hQuotient, zpow_natCast, value_powerOfTen (by omega)]
  · obtain ⟨n, hn⟩ := Int.eq_ofNat_of_zero_le (show 0 ≤ -k by omega)
    obtain rfl : k = -(n : ℤ) := by omega
    have hQuotient := div_quotient (Precision.double.round d 1) (powerOfTen n)
    rw [hDigits] at hQuotient
    refine ⟨(Precision.double.round d 1).num * (powerOfTen n).den,
      (Precision.double.round d 1).den * (powerOfTen n).num,
      Nat.mul_pos hDigitsNum (Rounded.den_pos _),
      Nat.mul_pos (Rounded.den_pos _) (Rounded.num_pos (powerOfTen_pos n)), ?_, ?_,
      fun hSmall _ => ?_⟩
    · rw [if_neg hk, neg_neg]
      rfl
    · rw [hQuotient, zpow_neg, zpow_natCast, ← div_eq_mul_inv]
      exact div_near hPos' (by positivity) (powerOfTen_near n)
    · rw [hQuotient, zpow_neg, zpow_natCast, ← div_eq_mul_inv, value_powerOfTen (by omega)]

/-- **Digits times a power of ten are off by less than one part in `2 ^ 51`.** -/
theorem readDouble_near {d : Nat} {k : ℤ} (hPos : 0 < d) (hFit : d < 2 ^ 53)
    (hNormal : (2 : ℚ) ^ (-199 : ℤ) ≤ d * 10 ^ k) :
    |(readDouble d k).value - d * 10 ^ k| ≤ (d * 10 ^ k : ℚ) / 2 ^ 51 := by
  obtain ⟨num, den, hnum, hden, hRead, hNear, -⟩ := readDouble_eq k hPos hFit
  have hPositive : (0 : ℚ) < d * 10 ^ k := lt_of_lt_of_le (by norm_num) hNormal
  have hRound := round_double_near hnum hden (by
    have h := (abs_le.1 hNear).1
    calc (2 : ℚ) ^ (-200 : ℤ) = 2 ^ (-199 : ℤ) / 2 := by norm_num
      _ ≤ d * 10 ^ k / 2 := by gcongr
      _ ≤ num / den := by linarith)
  rw [hRead]
  rw [abs_le] at hNear hRound ⊢
  constructor <;> linarith

/-- **What fits into double precision is read exactly**, for small powers of ten. -/
theorem readDouble_exact {d n : Nat} {k s : ℤ} (hPos : 0 < d) (hFit : d < 2 ^ 53)
    (hLow : -22 ≤ k) (hHigh : k ≤ 22) (hn : n < 2 ^ 53) (hs : -1074 ≤ s)
    (hValue : (d * 10 ^ k : ℚ) = n * 2 ^ s) : (readDouble d k).value = d * 10 ^ k := by
  obtain ⟨num, den, hnum, hden, hRead, -, hExact⟩ := readDouble_eq k hPos hFit
  have hQuotient := hExact hLow hHigh
  rw [hRead, value_round_exact hnum hden hn hs (hQuotient.trans hValue), hQuotient]

namespace Magnitude

/-- Whether the shortest digits of a number are read as the number. -/
def readsBack (v : Magnitude) : Bool :=
  let (d, k) := v.shortest .toEven
  let double := readDouble d k
  (Precision.single.round double.num double.den).singleBits = v.bits

/-! ## Digits near to a midpoint

A midpoint of two numbers with a unit is an odd multiple of half the unit. The digits of such
numbers are multiples of a power of ten, the coarsest that is shorter than the unit. -/

/-- The number with a mantissa and a unit. -/
def ofMantissa (unit : ℤ) (m : Nat) : Magnitude := ⟨m, unit, m = Nat.pow 2 23 && -149 < unit⟩

/-- Whether a mantissa is possible for a unit. -/
def fits (unit : ℤ) (m : Nat) : Bool :=
  0 < m && m < Nat.pow 2 24 && (unit = -149 || Nat.pow 2 23 ≤ m)

/-- Whether both numbers next to a multiple of half a unit read back, if it is a midpoint. -/
def sidesReadBack (unit : ℤ) (n : Nat) : Bool :=
  n % 2 = 0 ||
    ((!fits unit (n / 2) || (ofMantissa unit (n / 2)).readsBack) &&
      (!fits unit (n / 2 + 1) || (ofMantissa unit (n / 2 + 1)).readsBack))

/-- What one step of the grid counts for. -/
def gridScale (unit : ℤ) : Nat := Nat.pow 10 (gridFor unit).toNat * Nat.pow 2 (1 - unit).toNat

/-- What half a unit counts for. -/
def unitScale (unit : ℤ) : Nat := Nat.pow 10 (-gridFor unit).toNat * Nat.pow 2 (unit - 1).toNat

/-- The greatest multiple of the grid that can be in a rounding interval. -/
def mostDigits (unit : ℤ) : Nat := (Nat.pow 2 25 - 1) * unitScale unit / gridScale unit

/-- Whether all digits for a unit are far from midpoints they are not on, or the numbers next to the
midpoint read back. All multiples of the neighbouring fractions are tried that are near. -/
def clear (unit : ℤ) : Bool :=
  let p := FractionPair.around (gridScale unit) (unitScale unit) (mostDigits unit)
  let below := p.below (gridScale unit) (unitScale unit)
  let above := p.above (gridScale unit) (unitScale unit)
  let tolerance := mostDigits unit * gridScale unit / Nat.pow 2 51
  decide (p.Encloses (gridScale unit) (unitScale unit) (mostDigits unit)) &&
    if below = 0 || above = 0 then tolerance < below + above
    else (List.range (tolerance / below + 1)).all fun i =>
      (List.range (tolerance / above + 1)).all fun j =>
        tolerance < i * below + j * above ||
          (sidesReadBack unit (i * p.lowNum - j * p.highNum) &&
            sidesReadBack unit (j * p.highNum - i * p.lowNum))

/-- All units have been checked. -/
theorem clear_all : ∀ n : Fin 254, clear (n - 149) = true := by decide +kernel

/-- The powers of two have been read back. -/
theorem powers_readBack :
    ∀ n : Fin 253, (ofMantissa (n - 148) (Nat.pow 2 23)).readsBack = true := by decide +kernel

/-! ## Far from midpoints -/

variable {unit : ℤ} {v : Magnitude}

/-- What both sides of a comparison with a midpoint are multiplied by. -/
private def gridUnit (unit : ℤ) : ℚ := 10 ^ (-gridFor unit).toNat * 2 ^ (1 - unit).toNat

private theorem gridUnit_pos (unit : ℤ) : 0 < gridUnit unit := by
  unfold gridUnit
  positivity

private theorem grid_eq (unit : ℤ) (d : Nat) :
    (d * 10 ^ gridFor unit : ℚ) = (d * gridScale unit : Nat) / gridUnit unit := by
  rw [zpow_eq_div_toNat, gridScale, gridUnit]
  simp only [Nat.pow_eq]
  push_cast
  field_simp

private theorem midpoint_eq (unit : ℤ) (n : Nat) :
    (n * 2 ^ (unit - 1) : ℚ) = (n * unitScale unit : Nat) / gridUnit unit := by
  rw [zpow_eq_div_toNat, unitScale, gridUnit, show -(unit - 1) = 1 - unit by omega]
  simp only [Nat.pow_eq]
  push_cast
  field_simp

private theorem le_mostDigits {d n : Nat} (hn : n < 2 ^ 25)
    (hLe : (d * 10 ^ gridFor unit : ℚ) ≤ n * 2 ^ (unit - 1)) : d ≤ mostDigits unit := by
  have hScale : 0 < gridScale unit :=
    Nat.mul_pos (Nat.pow_pos (by decide)) (Nat.pow_pos (by decide))
  rw [grid_eq, midpoint_eq, div_le_div_iff_of_pos_right (gridUnit_pos unit), Nat.cast_le] at hLe
  rw [mostDigits, Nat.le_div_iff_mul_le hScale]
  refine hLe.trans (Nat.mul_le_mul_right _ ?_)
  have hPow : Nat.pow 2 25 = 2 ^ 25 := rfl
  omega

/-- A sum of multiples that is not zero is not less than the one number that is. -/
private theorem le_combination {below above i j : Nat} (hTouches : below = 0 ∨ above = 0)
    (hNonzero : i * below + j * above ≠ 0) : below + above ≤ i * below + j * above := by
  rcases hTouches with rfl | rfl
  · have hj : 0 < j := Nat.pos_of_ne_zero (by rintro rfl; simp at hNonzero)
    have := Nat.le_mul_of_pos_left above hj
    omega
  · have hi : 0 < i := Nat.pos_of_ne_zero (by rintro rfl; simp at hNonzero)
    have := Nat.le_mul_of_pos_left below hi
    omega

/-- What has been checked for a unit: there are neighbours, and all combinations of them that are
near have been read back. -/
private theorem exists_neighbours (hClear : clear unit = true) :
    ∃ p : FractionPair, p.Encloses (gridScale unit) (unitScale unit) (mostDigits unit) ∧
      ∀ i j : Nat,
        let distance := i * p.below (gridScale unit) (unitScale unit) +
          j * p.above (gridScale unit) (unitScale unit)
        distance ≠ 0 → distance ≤ mostDigits unit * gridScale unit / Nat.pow 2 51 →
          sidesReadBack unit (i * p.lowNum - j * p.highNum) = true ∧
            sidesReadBack unit (j * p.highNum - i * p.lowNum) = true := by
  unfold clear at hClear
  dsimp only at hClear
  generalize FractionPair.around (gridScale unit) (unitScale unit) (mostDigits unit) = p at hClear
  rw [Bool.and_eq_true, decide_eq_true_eq] at hClear
  obtain ⟨hEncloses, hClear⟩ := hClear
  refine ⟨p, hEncloses, fun i j hNonzero hNear => ?_⟩
  generalize p.below (gridScale unit) (unitScale unit) = below at hClear hNonzero hNear
  generalize p.above (gridScale unit) (unitScale unit) = above at hClear hNonzero hNear
  generalize mostDigits unit * gridScale unit / Nat.pow 2 51 = tolerance at hClear hNear
  by_cases hTouches : below = 0 ∨ above = 0
  · -- Every distance but zero is a multiple of the one that is left, so there is no near one.
    rw [if_pos (by simpa using hTouches), decide_eq_true_eq] at hClear
    exact absurd (hClear.trans_le (le_combination hTouches hNonzero)) (not_lt.2 hNear)
  · rw [if_neg (by simpa using hTouches)] at hClear
    rw [not_or] at hTouches
    have hi : i < tolerance / below + 1 := by
      rw [Nat.lt_succ_iff, Nat.le_div_iff_mul_le (Nat.pos_of_ne_zero hTouches.1)]
      omega
    have hj : j < tolerance / above + 1 := by
      rw [Nat.lt_succ_iff, Nat.le_div_iff_mul_le (Nat.pos_of_ne_zero hTouches.2)]
      omega
    have hRead := List.all_eq_true.1
      (List.all_eq_true.1 hClear i (List.mem_range.2 hi)) j (List.mem_range.2 hj)
    rwa [decide_eq_false (not_lt.2 hNear), Bool.false_or, Bool.and_eq_true] at hRead

/-- The distance of digits from a multiple of half the unit, on the scale of both. -/
private theorem distance_eq {d n distance : Nat}
    (h : (d * gridScale unit : ℤ) - n * unitScale unit = distance ∨
      (n * unitScale unit : ℤ) - d * gridScale unit = distance) :
    |(d * 10 ^ gridFor unit - n * 2 ^ (unit - 1) : ℚ)| = distance / gridUnit unit := by
  rw [grid_eq, midpoint_eq, ← sub_div, abs_div, abs_of_pos (gridUnit_pos unit)]
  congr 1
  rcases h with h | h
  · have hCast : ((d * gridScale unit : Nat) - (n * unitScale unit : Nat) : ℚ) = distance := by
      exact_mod_cast h
    rw [hCast, abs_of_nonneg (Nat.cast_nonneg _)]
  · have hCast : ((n * unitScale unit : Nat) - (d * gridScale unit : Nat) : ℚ) = distance := by
      exact_mod_cast h
    rw [abs_sub_comm, hCast, abs_of_nonneg (Nat.cast_nonneg _)]

/-- **Digits that are not on a midpoint are far from it**, unless the numbers next to the midpoint
have been read back. -/
theorem far_of_clear (hClear : clear unit = true) {d n : Nat} (hPos : 0 < d)
    (hMost : d ≤ mostDigits unit) (hNe : (d * 10 ^ gridFor unit : ℚ) ≠ n * 2 ^ (unit - 1)) :
    sidesReadBack unit n = true ∨
      (d * 10 ^ gridFor unit : ℚ) / 2 ^ 51 <
        |(d * 10 ^ gridFor unit - n * 2 ^ (unit - 1) : ℚ)| := by
  obtain ⟨p, hEncloses, hRead⟩ := exists_neighbours hClear
  obtain ⟨i, j, hCombination⟩ := hEncloses.combination (n := n) hPos hMost
  specialize hRead i j
  generalize p.below (gridScale unit) (unitScale unit) = below at hRead hCombination
  generalize p.above (gridScale unit) (unitScale unit) = above at hRead hCombination
  have hDistance : |(d * 10 ^ gridFor unit - n * 2 ^ (unit - 1) : ℚ)| =
      (i * below + j * above : Nat) / gridUnit unit :=
    distance_eq (by push_cast; exact hCombination.imp And.right And.right)
  by_cases hFar : mostDigits unit * gridScale unit / Nat.pow 2 51 < i * below + j * above
  · refine .inr ?_
    rw [hDistance, grid_eq, div_right_comm, div_lt_div_iff_of_pos_right (gridUnit_pos unit),
      div_lt_iff₀ (by norm_num)]
    have hLess := (Nat.div_lt_iff_lt_mul (by decide)).1 hFar
    have hLe : d * gridScale unit ≤ mostDigits unit * gridScale unit :=
      Nat.mul_le_mul_right _ hMost
    exact_mod_cast hLe.trans_lt hLess
  · have hNonzero : i * below + j * above ≠ 0 := by
      intro hZero
      rw [hZero, Nat.cast_zero, zero_div, abs_eq_zero, sub_eq_zero] at hDistance
      exact hNe hDistance
    obtain ⟨hLow, hHigh⟩ := hRead hNonzero (not_lt.1 hFar)
    refine .inl ?_
    rcases hCombination with ⟨h, -⟩ | ⟨h, -⟩
    · rw [show n = i * p.lowNum - j * p.highNum by omega]
      exact hLow
    · rw [show n = j * p.highNum - i * p.lowNum by omega]
      exact hHigh

/-! ## The digits of a number -/

/-- The mantissa and the unit say which number it is. -/
theorem Finite.eq_ofMantissa (h : v.Finite) : v = ofMantissa v.exponent v.mantissa := by
  obtain ⟨mantissa, exponent, narrow⟩ := v
  have hNarrow : narrow = (mantissa = Nat.pow 2 23 && -149 < exponent) := by
    rw [Bool.eq_iff_iff, h.narrow]
    simp
  rw [hNarrow]
  rfl

/-- The number has a mantissa that is possible for its unit. -/
theorem Finite.fits (h : v.Finite) : Magnitude.fits v.exponent v.mantissa = true := by
  have hLow := h.unit_le
  have hNormal := h.normal
  have hPow : Nat.pow 2 23 = 2 ^ 23 := rfl
  have hPow' : Nat.pow 2 24 = 2 ^ 24 := rfl
  have hPos := h.mantissa_pos
  have hLess := h.mantissa_lt
  simp only [Magnitude.fits, Bool.and_eq_true, Bool.or_eq_true, decide_eq_true_eq]
  omega

/-- If both numbers next to a midpoint read back, so does the one above or below it. -/
theorem readsBack_of_sides (h : v.Finite) {n : Nat}
    (hn : n = 2 * v.mantissa - 1 ∨ n = 2 * v.mantissa + 1)
    (hSides : sidesReadBack v.exponent n = true) : v.readsBack = true := by
  have hFits := h.fits
  have hPos := h.mantissa_pos
  rw [h.eq_ofMantissa]
  unfold sidesReadBack at hSides
  rw [Bool.or_eq_true, decide_eq_true_eq, Bool.and_eq_true] at hSides
  rcases hn with rfl | rfl
  · rw [show (2 * v.mantissa - 1) / 2 + 1 = v.mantissa by omega, hFits, Bool.not_true,
      Bool.false_or] at hSides
    rcases hSides with hEven | ⟨-, hReads⟩
    · omega
    · exact hReads
  · rw [show (2 * v.mantissa + 1) / 2 = v.mantissa by omega, hFits, Bool.not_true,
      Bool.false_or] at hSides
    rcases hSides with hEven | ⟨hReads, -⟩
    · omega
    · exact hReads

/-- There are few digits. -/
theorem digits_le (h : v.Finite) {d : Nat} {k : ℤ} (hGrid : gridFor v.exponent - 1 ≤ k)
    (hHolds : v.Holds (d * 10 ^ k)) : d ≤ 100 * 2 ^ 24 := by
  obtain ⟨-, hUnit⟩ := gridFor_bounds h.unit_le h.exponent_le
  have hMantissa : (v.mantissa : ℚ) + 1 ≤ 2 ^ 24 := by
    have hLess : v.mantissa + 1 ≤ 2 ^ 24 := h.mantissa_lt
    exact_mod_cast hLess
  have hStep : (0 : ℚ) < 10 ^ k := by positivity
  have hUnitStep : (2 : ℚ) ^ v.exponent ≤ 100 * 10 ^ k := by
    calc (2 : ℚ) ^ v.exponent ≤ 10 ^ (gridFor v.exponent + 1) := hUnit
      _ ≤ 10 ^ (k + 2) := zpow_le_zpow_right₀ (by norm_num) (by omega)
      _ = 100 * 10 ^ k := by
        rw [zpow_add₀ (by norm_num), mul_comm]
        norm_num
  have hLe : (d : ℚ) * 10 ^ k ≤ (100 * 2 ^ 24) * 10 ^ k := by
    calc (d : ℚ) * 10 ^ k ≤ v.high := hHolds.2.1
      _ = (v.mantissa + 1 / 2) * 2 ^ v.exponent := high_eq v
      _ ≤ 2 ^ 24 * (100 * 10 ^ k) := by gcongr; linarith
      _ = 100 * 2 ^ 24 * 10 ^ k := by ring
  exact_mod_cast le_of_mul_le_mul_right hLe hStep

/-- There are digits. -/
theorem digits_pos (h : v.Finite) {d : Nat} {k : ℤ} (hHolds : v.Holds (d * 10 ^ k)) : 0 < d := by
  rcases Nat.eq_zero_or_pos d with rfl | hPos
  · have hLow := hHolds.1
    rw [Nat.cast_zero, zero_mul] at hLow
    exact absurd hLow (not_le.2 h.low_pos)
  · exact hPos

/-- A number in an interval is not below the range of double precision. -/
theorem normal_of_holds (h : v.Finite) {t : ℚ} (hHolds : v.Holds t) : (2 : ℚ) ^ (-199 : ℤ) ≤ t := by
  have hOne : (1 : ℚ) ≤ v.mantissa := by exact_mod_cast h.mantissa_pos
  calc (2 : ℚ) ^ (-199 : ℤ) ≤ 1 / 2 * 2 ^ (-149 : ℤ) := by norm_num
    _ ≤ (v.mantissa - 1 / 2) * 2 ^ v.exponent := by
      refine mul_le_mul (by linarith) ?_ (by positivity) (by linarith)
      exact zpow_le_zpow_right₀ one_le_two h.unit_le
    _ ≤ v.low := h.le_low
    _ ≤ t := hHolds.1

private theorem power_le {k n bound : Nat} (hDvd : 5 ^ k ∣ n) (hPos : 0 < n)
    (hLess : n < 5 ^ (bound + 1)) : k ≤ bound := by
  have hPower : 5 ^ k < 5 ^ (bound + 1) := (Nat.le_of_dvd hPos hDvd).trans_lt hLess
  have := (Nat.pow_lt_pow_iff_right (by decide)).1 hPower
  omega

/-- Digits that are on a midpoint have a small power of ten. -/
theorem exponent_of_midpoint {d n : Nat} {k e : ℤ} (hPos : 0 < d) (hd : d < 2 ^ 53)
    (hn : n < 2 ^ 53) (hEq : (d * 10 ^ k : ℚ) = n * 2 ^ e) : -22 ≤ k ∧ k ≤ 22 := by
  -- Without denominators both sides are naturals.
  have hNat : d * 10 ^ k.toNat * 2 ^ (-e).toNat = n * 2 ^ e.toNat * 10 ^ (-k).toNat := by
    rw [zpow_eq_div_toNat, zpow_eq_div_toNat, ← mul_div_assoc, ← mul_div_assoc,
      div_eq_div_iff (by positivity) (by positivity)] at hEq
    exact_mod_cast hEq
  have hTen : ∀ m : Nat, 10 ^ m = 5 ^ m * 2 ^ m := fun m => by rw [← Nat.mul_pow]
  have hnPos : 0 < n := by
    rcases Nat.eq_zero_or_pos n with rfl | h
    · rw [Nat.cast_zero, zero_mul] at hEq
      have hPositive : (0 : ℚ) < d * 10 ^ k := by
        have : (0 : ℚ) < d := by exact_mod_cast hPos
        positivity
      exact absurd hEq hPositive.ne'
    · exact h
  have hCoprime : ∀ m m' : Nat, Nat.Coprime (5 ^ m) (2 ^ m') := fun m m' =>
    Nat.Coprime.pow m m' (by decide)
  have hBound : 2 ^ 53 < 5 ^ (22 + 1) := by decide
  constructor
  · have hDvd : 5 ^ (-k).toNat ∣ d := by
      by_cases hk : 0 ≤ k
      · rw [show (-k).toNat = 0 by omega]
        exact one_dvd d
      · rw [show k.toNat = 0 by omega, pow_zero, mul_one, hTen] at hNat
        refine (hCoprime _ (-e).toNat).dvd_of_dvd_mul_right ?_
        rw [hNat]
        exact Dvd.dvd.mul_left (Nat.dvd_mul_right _ _) _
    have := power_le hDvd hPos (hd.trans hBound)
    omega
  · have hDvd : 5 ^ k.toNat ∣ n := by
      by_cases hk : k ≤ 0
      · rw [show k.toNat = 0 by omega]
        exact one_dvd n
      · rw [show (-k).toNat = 0 by omega, pow_zero, mul_one, hTen] at hNat
        refine (hCoprime _ e.toNat).dvd_of_dvd_mul_right ?_
        rw [← hNat, mul_assoc d]
        exact Dvd.dvd.mul_left (Dvd.dvd.mul_right (Nat.dvd_mul_right _ _) _) _
    have := power_le hDvd hnPos (hn.trans hBound)
    omega

/-- A double in the rounding interval is rounded to the number. -/
theorem singleBits_of_holds (h : v.Finite) {double : Rounded} (hHolds : v.Holds double.value) :
    (Precision.single.round double.num double.den).singleBits = v.bits := by
  have hPos : 0 < double.value := h.low_pos.trans_le hHolds.1
  rw [← double.num_div_den] at hHolds
  exact singleBits_round h (Rounded.num_pos hPos) double.den_pos hHolds

private theorem readsBack_of_narrow (h : v.Finite) (hNarrow : v.narrowBelow = true) :
    v.readsBack = true := by
  obtain ⟨hMantissa, hUnit⟩ := h.narrow.1 hNarrow
  have hTop := h.exponent_le
  obtain ⟨n, hn⟩ := Int.eq_ofNat_of_zero_le (show 0 ≤ v.exponent + 148 by omega)
  have hPower := powers_readBack ⟨n, by omega⟩
  rw [h.eq_ofMantissa, hMantissa, show v.exponent = n - 148 by omega]
  exact hPower

private theorem high_eq_midpoint (v : Magnitude) :
    v.high = (2 * v.mantissa + 1 : Nat) * 2 ^ (v.exponent - 1) := by
  rw [high_eq, zpow_sub_one₀ two_ne_zero]
  push_cast
  ring

/-- Where digits are read as something that is not beyond a midpoint. -/
private theorem beside_midpoint (h : v.Finite) {n d : Nat} {k : ℤ}
    (hn : n = 2 * v.mantissa - 1 ∨ n = 2 * v.mantissa + 1) (hGrid : gridFor v.exponent ≤ k)
    (hHolds : v.Holds (d * 10 ^ k)) (hReads : v.readsBack = false) :
    (d * 10 ^ k : ℚ) = n * 2 ^ (v.exponent - 1) ∨
      |(readDouble d k).value - d * 10 ^ k| <
        |(d * 10 ^ k - n * 2 ^ (v.exponent - 1) : ℚ)| := by
  have hPos := digits_pos h hHolds
  have hFew := digits_le h (by omega) hHolds
  have hLess := h.mantissa_lt
  have hLow := h.unit_le
  have hTop := h.exponent_le
  have hNear := readDouble_near hPos (by omega) (normal_of_holds h hHolds)
  -- The digits are on the grid of the unit too.
  obtain ⟨s, hs⟩ := Int.eq_ofNat_of_zero_le (show 0 ≤ k - gridFor v.exponent by omega)
  have hOnGrid : (d * 10 ^ k : ℚ) = (d * 10 ^ s : Nat) * 10 ^ gridFor v.exponent := by
    rw [show k = s + gridFor v.exponent by omega, zpow_add₀ (by norm_num), zpow_natCast]
    push_cast
    ring
  have hHigh := hHolds.2.1
  rw [hOnGrid, high_eq_midpoint] at hHigh
  have hMost := le_mostDigits (show 2 * v.mantissa + 1 < 2 ^ 25 by omega) hHigh
  obtain ⟨i, hi⟩ := Int.eq_ofNat_of_zero_le (show 0 ≤ v.exponent + 149 by omega)
  have hClear : clear v.exponent = true := by
    have hUnit := clear_all ⟨i, by omega⟩
    rwa [show ((i : ℤ) - 149) = v.exponent by omega] at hUnit
  by_cases hOn : (d * 10 ^ k : ℚ) = n * 2 ^ (v.exponent - 1)
  · exact .inl hOn
  · rw [hOnGrid] at hOn
    rcases far_of_clear hClear (Nat.mul_pos hPos (Nat.pow_pos (by decide))) hMost hOn
      with hSides | hFar
    · rw [readsBack_of_sides h hn hSides] at hReads
      cases hReads
    · rw [← hOnGrid] at hFar
      exact .inr (hNear.trans_lt hFar)

/-- What is not beyond a midpoint on either side is in the interval. Digits that are on a midpoint
are read exactly. -/
private theorem holds_readDouble (h : v.Finite) (hWide : v.narrowBelow = false) {d : Nat} {k : ℤ}
    (hPos : 0 < d) (hFit : d < 2 ^ 53) (hHolds : v.Holds (d * 10 ^ k))
    (hBeside : ∀ n, n = 2 * v.mantissa - 1 ∨ n = 2 * v.mantissa + 1 →
      (d * 10 ^ k : ℚ) = n * 2 ^ (v.exponent - 1) ∨
        |(readDouble d k).value - d * 10 ^ k| <
          |(d * 10 ^ k - n * 2 ^ (v.exponent - 1) : ℚ)|) :
    v.Holds (readDouble d k).value := by
  have hMantissa := h.mantissa_pos
  have hLess := h.mantissa_lt
  have hUnit := h.unit_le
  have hLow : v.low = (2 * v.mantissa - 1 : Nat) * 2 ^ (v.exponent - 1) := by
    rw [h.low_eq, hWide, zpow_sub_one₀ two_ne_zero, Nat.cast_sub (by omega), if_neg (by decide)]
    push_cast
    ring
  have hHigh := v.high_eq_midpoint
  have hOn : ∀ n : Nat, n < 2 ^ 53 → (d * 10 ^ k : ℚ) = n * 2 ^ (v.exponent - 1) →
      v.Holds (readDouble d k).value := by
    intro n hn hEq
    obtain ⟨hk, hk'⟩ := exponent_of_midpoint hPos hFit hn hEq
    rw [readDouble_exact hPos hFit hk hk' hn (by omega) hEq]
    exact hHolds
  rcases hBeside _ (.inl rfl) with hEq | hBelow
  · exact hOn _ (by omega) hEq
  rcases hBeside _ (.inr rfl) with hEq | hAbove
  · exact hOn _ (by omega) hEq
  rw [← hLow, abs_of_nonneg (sub_nonneg.2 hHolds.1), abs_lt] at hBelow
  rw [← hHigh, abs_of_nonpos (sub_nonpos.2 hHolds.2.1), abs_lt] at hAbove
  have hLow' : v.low < (readDouble d k).value := by linarith [hBelow.1]
  have hHigh' : (readDouble d k).value < v.high := by linarith [hAbove.2]
  exact ⟨hLow'.le, hHigh'.le, fun _ => ⟨hLow', hHigh'⟩⟩

/-- **The shortest digits of every finite number read back.** -/
theorem readsBack_of_finite (h : v.Finite) : v.readsBack = true := by
  by_contra hReads
  rw [Bool.not_eq_true] at hReads
  have hWide : v.narrowBelow = false := by
    rw [← Bool.not_eq_true]
    intro hNarrow
    rw [readsBack_of_narrow h hNarrow] at hReads
    cases hReads
  obtain ⟨hHolds, -, hGrid, -⟩ := shortest_spec .toEven h
  replace hGrid := hGrid hWide
  have hPos := digits_pos h hHolds
  have hFew := digits_le h (by omega) hHolds
  have hDouble := holds_readDouble h hWide hPos (by omega) hHolds fun n hn =>
    beside_midpoint h hn hGrid hHolds hReads
  exact absurd (decide_eq_true (singleBits_of_holds h hDouble)) (ne_true_of_eq_false hReads)

/-- Whole digits with a zero behind the point are read exactly, so they read back as well. -/
theorem holds_whole (h : v.Finite) {n : Nat} (hn : 10 * n < 2 ^ 53) (hHolds : v.Holds n) :
    v.Holds (readDouble (10 * n) (-1)).value := by
  have hPos : 0 < n := digits_pos h (k := 0) (by simpa using hHolds)
  have hValue : ((10 * n : Nat) * 10 ^ (-1 : ℤ) : ℚ) = n * 2 ^ (0 : ℤ) := by
    push_cast
    rw [zpow_neg_one]
    ring
  rw [readDouble_exact (by omega) hn (by decide) (by decide) (by omega) (by decide) hValue, hValue]
  simpa using hHolds

end Magnitude

/-! ## Decimals -/

namespace Decimal

open Magnitude

variable {digits : Nat} {k : ℤ} {v : Magnitude}

/-- What is not much more than a single-precision number is in the range of double precision. -/
private theorem exceeds_eq_false {double : Rounded} (h : double.value ≤ 2 ^ 200) :
    Precision.double.exceeds double = false := by
  have hDen : (0 : ℚ) < double.den := by exact_mod_cast double.den_pos
  rw [← double.num_div_den, div_le_iff₀ hDen] at h
  have hNat : double.num ≤ 2 ^ 200 * double.den := by exact_mod_cast h
  have hLess : 2 ^ 200 * double.den < double.den * Nat.pow 2 Precision.double.top := by
    rw [Nat.mul_comm]
    have hPow : ∀ n, 200 < n → 2 ^ 200 < Nat.pow 2 n := fun n =>
      Nat.pow_lt_pow_right one_lt_two
    exact Nat.mul_lt_mul_of_pos_left (hPow _ (by decide)) double.den_pos
  exact decide_eq_false (not_le.2 (hNat.trans_lt hLess))

/-- **Digits with a power of ten that is not extreme have a double.** -/
theorem toDouble?_eq (negative : Bool) (hPos : 0 < digits) (hFit : digits < 2 ^ 53)
    (hLow : -308 ≤ k) (hHigh : k ≤ 308) (hNormal : (2 : ℚ) ^ (-199 : ℤ) ≤ digits * 10 ^ k)
    (hRange : (digits * 10 ^ k : ℚ) ≤ 2 ^ 199) :
    toDouble? ⟨negative, digits, k⟩ = some (readDouble digits k) := by
  have hNear := (abs_le.1 (readDouble_near hPos hFit hNormal)).2
  have hValue : (readDouble digits k).value ≤ 2 ^ 200 := by linarith
  have hExceeds := exceeds_eq_false hValue
  have hMantissa : (Precision.double.round digits 1).mantissa ≠ 0 := by
    intro hZero
    have hDigits := value_digits hPos hFit
    rw [Rounded.value, hZero, Nat.cast_zero, zero_mul] at hDigits
    have hNonzero : (digits : ℚ) ≠ 0 := by exact_mod_cast hPos.ne'
    exact hNonzero hDigits.symm
  unfold toDouble? readDouble at *
  dsimp only
  by_cases hk : 0 ≤ k
  · rw [if_pos hk] at hExceeds ⊢
    unfold Rounded.timesPower? greatestPower
    rw [if_neg hMantissa, if_neg (by omega)]
    dsimp only
    rw [hExceeds, if_neg Bool.false_ne_true, if_pos hk]
  · rw [if_neg hk, if_neg hk, Rounded.overPower, if_neg (by unfold greatestPower; omega)]

/-- Digits whose double lies in the rounding interval are read as the number. -/
private theorem toFloat32?_of_singleBits (negative : Bool)
    (hDouble : toDouble? ⟨negative, digits, k⟩ = some (readDouble digits k))
    (hBits : (Precision.single.round (readDouble digits k).num
      (readDouble digits k).den).singleBits = v.bits) :
    toFloat32? ⟨negative, digits, k⟩ = some (signedFloat32 negative v.bits) := by
  rw [toFloat32?, hDouble, Option.map_some, hBits]

private theorem le_of_holds (h : v.Finite) {t : ℚ} (hHolds : v.Holds t) : t ≤ 2 ^ 199 := by
  have hMantissa : (v.mantissa : ℚ) + 1 ≤ 2 ^ 24 := by
    have hLess : v.mantissa + 1 ≤ 2 ^ 24 := h.mantissa_lt
    exact_mod_cast hLess
  calc t ≤ v.high := hHolds.2.1
    _ = (v.mantissa + 1 / 2) * 2 ^ v.exponent := high_eq v
    _ ≤ 2 ^ 24 * 2 ^ (104 : ℤ) := by
      refine mul_le_mul (by linarith) ?_ (by positivity) (by positivity)
      exact zpow_le_zpow_right₀ one_le_two h.exponent_le
    _ ≤ 2 ^ 199 := by norm_num

/-- **The shortest digits of a finite number are read as the number.** -/
theorem toFloat32?_shortest (negative : Bool) (h : v.Finite) :
    toFloat32? ⟨negative, (v.shortest .toEven).1, (v.shortest .toEven).2⟩ =
      some (signedFloat32 negative v.bits) := by
  obtain ⟨hHolds, hFine, -, hCoarse⟩ := shortest_spec .toEven h
  obtain ⟨-, hStart⟩ := coarsest_bounds h
  have hLow := h.unit_le
  have hHigh := h.exponent_le
  have hGrid : -46 ≤ gridFor v.exponent ∧ gridFor v.exponent ≤ 31 := by
    unfold gridFor
    omega
  have hFew := digits_le h hFine hHolds
  refine toFloat32?_of_singleBits negative (toDouble?_eq negative (digits_pos h hHolds) (by omega)
    (by omega) (by omega) (normal_of_holds h hHolds) (le_of_holds h hHolds)) ?_
  exact of_decide_eq_true (readsBack_of_finite h)

/-- **So are whole digits, with a zero behind the point.** -/
theorem toFloat32?_whole (negative : Bool) (h : v.Finite) {n : Nat} (hn : 10 * n < 2 ^ 53)
    (hHolds : v.Holds n) :
    toFloat32? ⟨negative, 10 * n, -1⟩ = some (signedFloat32 negative v.bits) := by
  have hPos : 0 < n := digits_pos h (k := 0) (by simpa using hHolds)
  have hValue : ((10 * n : Nat) * 10 ^ (-1 : ℤ) : ℚ) = n := by
    push_cast
    rw [zpow_neg_one]
    ring
  refine toFloat32?_of_singleBits negative (toDouble?_eq negative (by omega) hn (by decide)
    (by decide) ?_ ?_) (singleBits_of_holds h (holds_whole h hn hHolds))
  · rw [hValue]
    exact normal_of_holds h hHolds
  · rw [hValue]
    exact le_of_holds h hHolds

/-- Zero is read as zero, with its sign. -/
theorem toFloat32?_zero (negative : Bool) :
    toFloat32? ⟨negative, 0, -1⟩ = some (signedFloat32 negative 0) := by
  have hRound : ∀ (p : Precision) (den : Nat), p.round 0 den = ⟨0, p.unit⟩ :=
    fun p den => if_pos rfl
  have hNum : ∀ e : ℤ, (⟨0, e⟩ : Rounded).num = 0 := fun e => Nat.zero_mul _
  have hDouble : toDouble? ⟨negative, 0, -1⟩ = some ⟨0, -1074⟩ := by
    have hNegative : ¬(0 ≤ (-1 : ℤ)) := by decide
    have hInRange : ¬greatestPower < (-(-1) : ℤ).toNat := by decide
    unfold toDouble?
    dsimp only
    rw [if_neg hNegative, Rounded.overPower, if_neg hInRange, hRound, Precision.div, hNum,
      Nat.zero_mul, hRound]
    rfl
  have hBits : (⟨0, Precision.single.unit⟩ : Rounded).singleBits = 0 := by decide
  rw [toFloat32?, hDouble, Option.map_some, hNum, hRound, hBits]

end Decimal

end IndexedMesh
