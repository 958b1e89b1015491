import IndexedMesh.Decimal.Shortest
import IndexedMesh.Proofs.Rounding

/-!
# What the shortest digits are known to be

The search for the fewest digits goes from coarse decimal grids to fine ones and stops at the first
that has a multiple in the rounding interval of the number. Two facts about its answer matter for
reading it back: the multiple is in the interval, and its grid is not finer than the interval needs,
so that the digits are few.

The interval is described by rational numbers. Its ends are halfway to the neighbours of the number,
and they belong to it where the mantissa is even. Whatever lies in it is rounded to the number in
single precision, and to its bits.

## Main results

* `Magnitude.Holds` — the rounding interval, and `Magnitude.identifiedBy_iff` that this is tested.
* `Magnitude.singleBits_round` — what lies in the interval is rounded to the number.
* `Magnitude.shortest_spec` — the shortest digits lie in the interval, on a grid that is coarse
  enough for it.
-/

namespace IndexedMesh

namespace Magnitude

variable {v : Magnitude} {tie : Tie}

/-! ## Magnitudes of single precision -/

/-- The magnitudes of the positive finite numbers of single precision. -/
structure Finite (v : Magnitude) : Prop where
  mantissa_pos : 0 < v.mantissa
  mantissa_lt : v.mantissa < 2 ^ 24
  unit_le : -149 ≤ v.exponent
  exponent_le : v.exponent ≤ 104
  normal : -149 < v.exponent → 2 ^ 23 ≤ v.mantissa
  narrow : v.narrowBelow = true ↔ v.mantissa = 2 ^ 23 ∧ -149 < v.exponent

/-- The bits of the number below its sign. -/
def bits (v : Magnitude) : Nat := (v.exponent + 149).toNat * 2 ^ 23 + v.mantissa

/-- The lower end of the rounding interval. -/
def low (v : Magnitude) : ℚ := v.lower * 2 ^ (v.exponent - 2)

/-- The upper end of the rounding interval. -/
def high (v : Magnitude) : ℚ := v.upper * 2 ^ (v.exponent - 2)

/-- Whether a number is in the rounding interval, whose ends belong to it for an even mantissa. -/
def Holds (v : Magnitude) (t : ℚ) : Prop :=
  v.low ≤ t ∧ t ≤ v.high ∧ (v.mantissa % 2 = 1 → v.low < t ∧ t < v.high)

theorem Finite.lower_eq (h : v.Finite) :
    (v.lower : ℚ) = 4 * v.mantissa - if v.narrowBelow then 1 else 2 := by
  have hPos := h.mantissa_pos
  unfold lower
  cases v.narrowBelow
  · rw [if_neg (by decide), if_neg (by decide), Nat.cast_sub (by omega)]
    push_cast
    rfl
  · rw [if_pos rfl, if_pos rfl, Nat.cast_sub (by omega)]
    push_cast
    rfl

theorem Finite.low_pos (h : v.Finite) : 0 < v.low := by
  have hLower : 0 < v.lower := by
    have hPos := h.mantissa_pos
    unfold lower
    split <;> omega
  have hLower' : (0 : ℚ) < v.lower := by exact_mod_cast hLower
  exact mul_pos hLower' (by positivity)

private theorem quarter_unit (e : ℤ) : (2 : ℚ) ^ (e - 2) = 2 ^ e / 4 := by
  rw [zpow_sub₀ two_ne_zero]
  norm_num

/-- The lower end, in units of the number. -/
theorem Finite.low_eq (h : v.Finite) :
    v.low = (v.mantissa - if v.narrowBelow then 1 / 4 else 1 / 2) * 2 ^ v.exponent := by
  rw [low, h.lower_eq, quarter_unit]
  split <;> ring

/-- The upper end, in units of the number. -/
theorem high_eq (v : Magnitude) : v.high = (v.mantissa + 1 / 2) * 2 ^ v.exponent := by
  rw [high, upper, quarter_unit]
  push_cast
  ring

/-- The interval does not reach further than half a unit. -/
theorem Finite.le_low (h : v.Finite) : (v.mantissa - 1 / 2) * 2 ^ v.exponent ≤ v.low := by
  have hUnit : (0 : ℚ) < 2 ^ v.exponent := by positivity
  rw [h.low_eq]
  split <;> nlinarith

/-! ## The test -/

/-- What both sides of a comparison on a grid are multiplied by. -/
private def scale (v : Magnitude) (k : ℤ) : ℚ := 10 ^ (-k).toNat * 2 ^ (2 - v.exponent).toNat

private theorem scale_pos (v : Magnitude) (k : ℤ) : 0 < scale v k := by
  unfold scale
  positivity

private theorem binary_eq (v : Magnitude) (k : ℤ) (n : Nat) :
    (n * 2 ^ (v.exponent - 2) : ℚ) = (n * v.binaryStep k : Nat) / scale v k := by
  rw [zpow_eq_div_toNat, binaryStep, scale, show -(v.exponent - 2) = 2 - v.exponent by omega]
  simp only [Nat.pow_eq]
  push_cast
  field_simp

private theorem decimal_eq (v : Magnitude) (k : ℤ) (d : Nat) :
    (d * 10 ^ k : ℚ) = (d * v.decimalStep k : Nat) / scale v k := by
  rw [zpow_eq_div_toNat, decimalStep, scale]
  simp only [Nat.pow_eq]
  push_cast
  field_simp

private theorem binary_le_decimal_iff (v : Magnitude) (k : ℤ) (n d : Nat) :
    (n * 2 ^ (v.exponent - 2) : ℚ) ≤ d * 10 ^ k ↔ n * v.binaryStep k ≤ d * v.decimalStep k := by
  rw [binary_eq, decimal_eq, div_le_div_iff_of_pos_right (scale_pos v k), Nat.cast_le]

private theorem decimal_le_binary_iff (v : Magnitude) (k : ℤ) (n d : Nat) :
    (d * 10 ^ k : ℚ) ≤ n * 2 ^ (v.exponent - 2) ↔ d * v.decimalStep k ≤ n * v.binaryStep k := by
  rw [binary_eq, decimal_eq, div_le_div_iff_of_pos_right (scale_pos v k), Nat.cast_le]

/-- **The test on a grid is whether a multiple lies in the rounding interval.** -/
theorem identifiedBy_iff (v : Magnitude) (d : Nat) (k : ℤ) :
    v.identifiedBy d k = true ↔ v.Holds (d * 10 ^ k) := by
  have hLow : v.low ≤ d * 10 ^ k ↔ v.lower * v.binaryStep k ≤ d * v.decimalStep k :=
    binary_le_decimal_iff v k v.lower d
  have hHigh : d * 10 ^ k ≤ v.high ↔ d * v.decimalStep k ≤ v.upper * v.binaryStep k :=
    decimal_le_binary_iff v k v.upper d
  have hLow' : v.low < d * 10 ^ k ↔ v.lower * v.binaryStep k < d * v.decimalStep k := by
    rw [← not_le, ← not_le, not_iff_not]
    exact decimal_le_binary_iff v k v.lower d
  have hHigh' : d * 10 ^ k < v.high ↔ d * v.decimalStep k < v.upper * v.binaryStep k := by
    rw [← not_le, ← not_le, not_iff_not]
    exact binary_le_decimal_iff v k v.upper d
  unfold identifiedBy Holds
  dsimp only
  rw [hLow, hHigh, hLow', hHigh']
  split
  · simp
    omega
  · simp
    omega

/-! ## Rounding to the number -/

/-- What lies in the interval is less than twice the greatest number of its scale. -/
private theorem log_lt {num den : Nat} (hFinite : v.Finite)
    (hLog : (2 : ℚ) ^ floorLog2 num den ≤ num / den) (hHigh : (num / den : ℚ) ≤ v.high) :
    floorLog2 num den < v.exponent + 24 := by
  have hMantissa : (v.mantissa : ℚ) + 1 ≤ 2 ^ 24 := by
    have h : v.mantissa + 1 ≤ 2 ^ 24 := hFinite.mantissa_lt
    exact_mod_cast h
  have hUnit : (0 : ℚ) < 2 ^ v.exponent := by positivity
  have h : (2 : ℚ) ^ floorLog2 num den < 2 ^ (v.exponent + 24) := by
    calc (2 : ℚ) ^ floorLog2 num den ≤ v.high := hLog.trans hHigh
      _ = (v.mantissa + 1 / 2) * 2 ^ v.exponent := high_eq v
      _ < 2 ^ 24 * 2 ^ v.exponent := by gcongr; linarith
      _ = 2 ^ (v.exponent + 24) := by
        rw [zpow_add₀ two_ne_zero, mul_comm]
        rfl
  exact (zpow_lt_zpow_iff_right₀ one_lt_two).1 h

/-- What lies in the interval but below the scale of the number lies under a power of two. -/
private theorem mantissa_eq_of_below {t : ℚ} (hFinite : v.Finite) (hNormal : -149 < v.exponent)
    (hLow : v.low ≤ t) (hBelow : t < 2 ^ (v.exponent + 23)) : v.mantissa = 2 ^ 23 := by
  have hUnit : (0 : ℚ) < 2 ^ v.exponent := by positivity
  have hLess : ((v.mantissa : ℚ) - 1 / 2) * 2 ^ v.exponent < 2 ^ 23 * 2 ^ v.exponent := by
    calc ((v.mantissa : ℚ) - 1 / 2) * 2 ^ v.exponent ≤ v.low := hFinite.le_low
      _ ≤ t := hLow
      _ < 2 ^ (v.exponent + 23) := hBelow
      _ = 2 ^ 23 * 2 ^ v.exponent := by
        rw [zpow_add₀ two_ne_zero, mul_comm]
        rfl
  have hSmall : (v.mantissa : ℚ) - 1 / 2 < 2 ^ 23 := lt_of_mul_lt_mul_right hLess hUnit.le
  have hSmall' : v.mantissa < 2 ^ 23 + 1 := by
    have h : (v.mantissa : ℚ) < 2 ^ 23 + 1 := by linarith
    exact_mod_cast h
  exact le_antisymm (Nat.lt_succ_iff.1 hSmall') (hFinite.normal hNormal)

/-- The bits of a number, whose mantissa may have carried into its exponent. -/
private theorem singleBits_eq {r : Rounded} (hFinite : v.Finite)
    (hBits : (r.exponent + 149).toNat * 2 ^ 23 + r.mantissa = v.bits) :
    r.singleBits = v.bits := by
  have hLess := hFinite.mantissa_lt
  have hScale : (v.exponent + 149).toNat ≤ 253 := by
    have hTop := hFinite.exponent_le
    omega
  rw [Rounded.singleBits, Nat.pow_eq, hBits, infinityBits, Nat.min_eq_right]
  unfold bits
  omega

/-- **What lies in the rounding interval is rounded to the number.** -/
theorem singleBits_round (hFinite : v.Finite) {num den : Nat} (hnum : 0 < num) (hden : 0 < den)
    (hHolds : v.Holds (num / den)) : (Precision.single.round num den).singleBits = v.bits := by
  obtain ⟨hLow, hHigh, hStrict⟩ := hHolds
  obtain ⟨hLog, hLog'⟩ := floorLog2_bounds hnum hden
  have hBelow := log_lt hFinite hLog hHigh
  have hUnitLe := hFinite.unit_le
  have hExponent : (Precision.single.round num den).exponent =
      max (-149) (floorLog2 num den - 23) := Precision.exponent_round hnum
  have hUnit : (0 : ℚ) < 2 ^ v.exponent := by positivity
  refine singleBits_eq hFinite ?_
  by_cases hScale : v.exponent = -149 ∨ v.exponent + 23 ≤ floorLog2 num den
  · -- The unit is that of the number, and its mantissa is the nearest integer.
    have he : (Precision.single.round num den).exponent = v.exponent := by omega
    have hMantissa : (Precision.single.round num den).mantissa = v.mantissa := by
      have hLowest := hFinite.le_low
      rw [high_eq] at hHigh hStrict
      refine Precision.mantissa_round_eq hnum hden ?_ fun hOdd => ?_
      · rw [he, abs_le]
        constructor <;> linarith
      · obtain ⟨hLow', hHigh'⟩ := hStrict hOdd
        rw [he, abs_lt]
        constructor <;> linarith
    rw [he, hMantissa, bits]
  · -- A number below a power of two is rounded up to it from the scale below.
    rw [not_or] at hScale
    have hNormal : -149 < v.exponent := by omega
    have hUnder : (num / den : ℚ) < 2 ^ (v.exponent + 23) :=
      hLog'.trans_le (zpow_le_zpow_right₀ one_le_two (by omega))
    have hMantissa := mantissa_eq_of_below hFinite hNormal hLow hUnder
    rw [hFinite.low_eq, hFinite.narrow.2 ⟨hMantissa, hNormal⟩, if_pos rfl, hMantissa] at hLow
    push_cast at hLow
    have hAbove : v.exponent + 22 < floorLog2 num den + 1 := by
      refine (zpow_lt_zpow_iff_right₀ (one_lt_two (α := ℚ))).1 ((le_trans ?_ hLow).trans_lt hLog')
      rw [zpow_add₀ two_ne_zero, mul_comm]
      gcongr
      norm_num
    have he : (Precision.single.round num den).exponent = v.exponent - 1 := by omega
    have hHalf : (2 : ℚ) ^ v.exponent = 2 * 2 ^ (v.exponent - 1) := by
      rw [zpow_sub_one₀ two_ne_zero]
      ring
    have hCarried : (Precision.single.round num den).mantissa = 2 ^ 24 := by
      refine Precision.mantissa_round_eq hnum hden ?_ fun h => absurd h (by decide)
      rw [zpow_add₀ two_ne_zero, hHalf] at hUnder
      rw [hHalf] at hLow
      rw [he, abs_le]
      push_cast
      norm_num at hUnder ⊢
      constructor <;> linarith
    rw [he, hCarried, bits, hMantissa]
    omega

/-! ## The search -/

/-- What is found on a grid has been tested. -/
theorem identifiedBy_of_onGrid? {d : Nat} {k : ℤ} (h : v.onGrid? tie k = some d) :
    v.identifiedBy d k = true := by
  unfold onGrid? at h
  dsimp only at h
  generalize 4 * v.mantissa * v.binaryStep k = exact at h
  generalize hBelow : exact / v.decimalStep k = below at h
  cases hFirst : v.identifiedBy below k <;> cases hSecond : v.identifiedBy (below + 1) k <;>
    rw [hFirst, hSecond] at h
  · cases h
  · cases h
    exact hSecond
  · cases h
    exact hFirst
  · dsimp only at h
    split at h
    · cases h
      exact hFirst
    · split at h
      · cases h
        exact hSecond
      · cases tie with
        | up =>
            cases h
            exact hSecond
        | toEven =>
            cases h
            rcases Nat.mod_two_eq_zero_or_one below with hEven | hOdd
            · rw [hEven]
              exact hFirst
            · rw [hOdd]
              exact hSecond

/-- **A grid whose steps are shorter than the interval has a multiple in it**, and one of the two
multiples next to the number is such a one. -/
theorem exists_onGrid? (hFinite : v.Finite) {k : ℤ} (hStep : 10 ^ k < v.high - v.low) :
    ∃ d, v.onGrid? tie k = some d := by
  set below := 4 * v.mantissa * v.binaryStep k / v.decimalStep k with hBelow
  have hNumber : ((4 * v.mantissa : Nat) : ℚ) * 2 ^ (v.exponent - 2) =
      v.mantissa * 2 ^ v.exponent := by
    rw [quarter_unit]
    push_cast
    ring
  have hUnit : (0 : ℚ) < 2 ^ v.exponent := by positivity
  have hBelowNumber : (below * 10 ^ k : ℚ) ≤ v.mantissa * 2 ^ v.exponent := by
    rw [← hNumber, decimal_le_binary_iff]
    exact Nat.div_mul_le_self _ _
  have hAboveNumber : (v.mantissa * 2 ^ v.exponent : ℚ) < (below + 1 : Nat) * 10 ^ k := by
    rw [← hNumber, ← not_le, decimal_le_binary_iff, not_le, mul_comm (below + 1)]
    have hPos : 0 < v.decimalStep k :=
      Nat.mul_pos (Nat.pow_pos (by decide)) (Nat.pow_pos (by decide))
    exact Nat.lt_mul_div_succ _ hPos
  have hLowest : v.low < v.mantissa * 2 ^ v.exponent := by
    rw [hFinite.low_eq]
    split <;> nlinarith
  have hHighest : v.mantissa * 2 ^ v.exponent < v.high := by
    rw [high_eq]
    nlinarith
  -- Otherwise both multiples would be outside, and the interval between them.
  have hOne : v.identifiedBy below k = true ∨ v.identifiedBy (below + 1) k = true := by
    rw [identifiedBy_iff, identifiedBy_iff]
    by_cases hIn : v.low < below * 10 ^ k
    · exact .inl ⟨hIn.le, by linarith, fun _ => ⟨hIn, by linarith⟩⟩
    · have hLess : ((below + 1 : Nat) : ℚ) * 10 ^ k < v.high := by
        push_cast
        linarith
      exact .inr ⟨by linarith, hLess.le, fun _ => ⟨by linarith, hLess⟩⟩
  unfold onGrid?
  dsimp only
  rw [← hBelow]
  cases hFirst : v.identifiedBy below k <;> cases hSecond : v.identifiedBy (below + 1) k
  · rw [hFirst, hSecond] at hOne
    simp at hOne
  · exact ⟨_, rfl⟩
  · exact ⟨_, rfl⟩
  · dsimp only
    split
    · exact ⟨_, rfl⟩
    · split
      · exact ⟨_, rfl⟩
      · cases tie <;> exact ⟨_, rfl⟩

/-- The search stops at the first grid with a multiple in the interval. -/
theorem search_of_onGrid? {grid : ℤ} {n : Nat} (hGrid : v.onGrid? tie grid = some n) :
    ∀ (grids : Nat) (k : ℤ), grid ≤ k → k < grid + grids →
      grid ≤ (v.search tie grids k).2 ∧ (v.search tie grids k).2 ≤ k ∧
        v.onGrid? tie (v.search tie grids k).2 = some (v.search tie grids k).1 := by
  intro grids
  induction grids with
  | zero =>
      intro k hLe hLess
      exact absurd hLess (by push_cast; omega)
  | succ grids ih =>
      intro k hLe hLess
      rw [search]
      cases hHere : v.onGrid? tie k with
      | some d => exact ⟨hLe, le_refl k, hHere⟩
      | none =>
          have hNe : grid ≠ k := by
            rintro rfl
            rw [hHere] at hGrid
            cases hGrid
          obtain ⟨hAbove, hBelow, hFound⟩ := ih (k - 1) (by omega) (by push_cast at hLess; omega)
          exact ⟨hAbove, hBelow.trans (by omega), hFound⟩

/-! ## Grids that are fine enough -/

/-- The finest power of ten that is needed for numbers of a unit, as an exponent. -/
def gridFor (unit : ℤ) : ℤ := (unit * 30103 - 1) / 100000

/-- The steps of the grid are shorter than the unit, but not by more than ten times. -/
theorem gridFor_bounds {unit : ℤ} (hLow : -149 ≤ unit) (hHigh : unit ≤ 104) :
    (10 : ℚ) ^ gridFor unit < 2 ^ unit ∧ (2 : ℚ) ^ unit ≤ 10 ^ (gridFor unit + 1) := by
  have hAll : ∀ n : Fin 254,
      Nat.pow 10 (gridFor (n - 149)).toNat * Nat.pow 2 (-((n : ℤ) - 149)).toNat <
          Nat.pow 2 ((n : ℤ) - 149).toNat * Nat.pow 10 (-gridFor (n - 149)).toNat ∧
        Nat.pow 2 ((n : ℤ) - 149).toNat * Nat.pow 10 (-(gridFor (n - 149) + 1)).toNat ≤
          Nat.pow 10 (gridFor (n - 149) + 1).toNat * Nat.pow 2 (-((n : ℤ) - 149)).toNat := by
    decide +kernel
  obtain ⟨n, hn⟩ := Int.eq_ofNat_of_zero_le (show 0 ≤ unit + 149 by omega)
  obtain ⟨hBelow, hAbove⟩ := hAll ⟨n, by omega⟩
  simp only [show (n : ℤ) - 149 = unit by omega, Nat.pow_eq] at hBelow hAbove
  constructor
  · rw [zpow_eq_div_toNat, zpow_eq_div_toNat, div_lt_div_iff₀ (by positivity) (by positivity)]
    exact_mod_cast hBelow
  · rw [zpow_eq_div_toNat, zpow_eq_div_toNat, div_le_div_iff₀ (by positivity) (by positivity)]
    exact_mod_cast hAbove

/-- The search starts on a grid that is coarse enough, and goes on for long enough. -/
theorem coarsest_bounds (hFinite : v.Finite) :
    gridFor v.exponent ≤ v.coarsest ∧ v.coarsest < gridFor v.exponent + 12 := by
  have hLog : v.mantissa.log2 < 24 :=
    (Nat.log2_lt hFinite.mantissa_pos.ne').2 hFinite.mantissa_lt
  unfold coarsest gridFor
  omega

/-- The interval is wider than three quarters of a unit. -/
theorem width_eq (hFinite : v.Finite) :
    v.high - v.low = (if v.narrowBelow then 3 / 4 else 1) * 2 ^ v.exponent := by
  rw [high_eq, hFinite.low_eq]
  split <;> ring

/-- **The shortest digits are in the rounding interval**, and on a grid that is coarse enough for
the interval. -/
theorem shortest_spec (tie : Tie) (hFinite : v.Finite) :
    v.Holds ((v.shortest tie).1 * 10 ^ (v.shortest tie).2) ∧
      gridFor v.exponent - 1 ≤ (v.shortest tie).2 ∧
      (v.narrowBelow = false → gridFor v.exponent ≤ (v.shortest tie).2) ∧
      (v.shortest tie).2 ≤ v.coarsest := by
  obtain ⟨hGrid, -⟩ := gridFor_bounds hFinite.unit_le hFinite.exponent_le
  obtain ⟨hCoarse, hFine⟩ := coarsest_bounds hFinite
  have hWidth := width_eq hFinite
  have hUnit : (0 : ℚ) < 2 ^ v.exponent := by positivity
  have hTenth : (10 : ℚ) ^ (gridFor v.exponent - 1) < v.high - v.low := by
    rw [hWidth, zpow_sub_one₀ (by norm_num)]
    split <;> linarith
  obtain ⟨n, hFound⟩ : ∃ d, v.onGrid? tie _ = some d := exists_onGrid? hFinite hTenth
  have hSearch := search_of_onGrid? hFound 20 v.coarsest (by omega) (by push_cast; omega)
  refine ⟨(identifiedBy_iff v _ _).1 (identifiedBy_of_onGrid? hSearch.2.2), hSearch.1, ?_,
    hSearch.2.1⟩
  intro hWide
  have hWhole : (10 : ℚ) ^ gridFor v.exponent < v.high - v.low := by
    rw [hWidth, hWide]
    simpa using hGrid
  obtain ⟨n', hFound'⟩ : ∃ d, v.onGrid? tie _ = some d := exists_onGrid? hFinite hWhole
  exact (search_of_onGrid? hFound' 20 v.coarsest hCoarse (by push_cast; omega)).1

end Magnitude

end IndexedMesh
