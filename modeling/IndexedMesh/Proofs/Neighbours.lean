import Mathlib.Algebra.Order.Ring.Int
import Mathlib.Tactic.Linarith
import Mathlib.Tactic.LinearCombination
import Mathlib.Tactic.Ring

/-!
# Fractions next to a number

Two fractions with the cross difference one are neighbours: every fraction between them has a
denominator at least as great as the sum of theirs. So if a number lies between two neighbours whose
denominators add up to more than a bound, all fractions with denominators up to the bound lie
outside, and how far each is away from the number is a sum of multiples of what the two neighbours
are away from it. A fraction that is very near to the number is found among few multiples.

The number is a quotient of naturals `a / b`, and how far a fraction `n / d` is away from it is told
by the difference of `d * a` and `n * b`.

## Main results

* `FractionPair.Encloses` — two neighbours around a number, with a bound.
* `FractionPair.Encloses.combination` — every fraction with a small denominator is a difference of
  multiples of the neighbours, and its distance the sum of theirs.
* `FractionPair.around` — a search for such neighbours.
-/

namespace IndexedMesh

/-- A lower and an upper fraction. -/
structure FractionPair where
  lowNum : Nat
  lowDen : Nat
  highNum : Nat
  highDen : Nat

namespace FractionPair

/-- How far the lower fraction is below the number. -/
def below (p : FractionPair) (a b : Nat) : Nat := p.lowDen * a - p.lowNum * b

/-- How far the upper fraction is above the number. -/
def above (p : FractionPair) (a b : Nat) : Nat := p.highNum * b - p.highDen * a

/-- The two fractions are neighbours, the number is between them, and their denominators add up to
more than a bound. -/
def Encloses (p : FractionPair) (a b bound : Nat) : Prop :=
  p.highNum * p.lowDen = p.lowNum * p.highDen + 1 ∧ p.lowNum * b ≤ p.lowDen * a ∧
    p.highDen * a ≤ p.highNum * b ∧ bound < p.lowDen + p.highDen

instance (p : FractionPair) (a b bound : Nat) : Decidable (p.Encloses a b bound) :=
  inferInstanceAs (Decidable (_ ∧ _ ∧ _ ∧ _))

/-- **Fractions with small denominators are differences of multiples of the neighbours.** Those
below the number begin with multiples of the lower neighbour, those above with multiples of the
upper one, and distances add up. -/
theorem Encloses.combination {p : FractionPair} {a b bound : Nat} (h : p.Encloses a b bound)
    {n d : Nat} (hPos : 0 < d) (hBound : d ≤ bound) :
    ∃ i j : Nat, (n + j * p.highNum = i * p.lowNum ∧
        (d * a : ℤ) - n * b = i * p.below a b + j * p.above a b) ∨
      (n + i * p.lowNum = j * p.highNum ∧
        (n * b : ℤ) - d * a = i * p.below a b + j * p.above a b) := by
  obtain ⟨hNeighbours, hLow, hHigh, hSum⟩ := h
  have hBelow : (p.below a b : ℤ) = p.lowDen * a - p.lowNum * b := by
    unfold below
    push_cast [Nat.cast_sub hLow]
    rfl
  have hAbove : (p.above a b : ℤ) = p.highNum * b - p.highDen * a := by
    unfold above
    push_cast [Nat.cast_sub hHigh]
    rfl
  have hOne : (p.highNum : ℤ) * p.lowDen = p.lowNum * p.highDen + 1 := by exact_mod_cast hNeighbours
  -- The coordinates of the fraction with respect to the two neighbours.
  set x : ℤ := d * p.highNum - n * p.highDen with hx
  set y : ℤ := n * p.lowDen - d * p.lowNum with hy
  have hDen : (d : ℤ) = x * p.lowDen + y * p.highDen := by
    rw [hx, hy]
    linear_combination -(d : ℤ) * hOne
  have hNum : (n : ℤ) = x * p.lowNum + y * p.highNum := by
    rw [hx, hy]
    linear_combination -(n : ℤ) * hOne
  have hDistance : (d * a : ℤ) - n * b = x * p.below a b - y * p.above a b := by
    rw [hBelow, hAbove]
    linear_combination (a : ℤ) * hDen - (b : ℤ) * hNum
  have hLowDen : (0 : ℤ) ≤ p.lowDen := Int.natCast_nonneg _
  have hHighDen : (0 : ℤ) ≤ p.highDen := Int.natCast_nonneg _
  have hPos' : (0 : ℤ) < d := by exact_mod_cast hPos
  have hBound' : (d : ℤ) < p.lowDen + p.highDen := by exact_mod_cast hBound.trans_lt hSum
  rcases le_or_gt y 0 with hy0 | hy0
  · have hx0 : 0 ≤ x := by
      by_contra hlt
      nlinarith
    obtain ⟨i, hi⟩ := Int.eq_ofNat_of_zero_le hx0
    obtain ⟨j, hj⟩ := Int.eq_ofNat_of_zero_le (neg_nonneg.2 hy0)
    refine ⟨i, j, .inl ⟨?_, ?_⟩⟩
    · zify
      rw [← hi, ← hj, hNum]
      ring
    · rw [hDistance, ← hi, ← hj]
      ring
  · have hx0 : x ≤ 0 := by
      by_contra hlt
      have h₁ : (p.lowDen : ℤ) ≤ x * p.lowDen := le_mul_of_one_le_left hLowDen (by omega)
      have h₂ : (p.highDen : ℤ) ≤ y * p.highDen := le_mul_of_one_le_left hHighDen (by omega)
      omega
    obtain ⟨i, hi⟩ := Int.eq_ofNat_of_zero_le (neg_nonneg.2 hx0)
    obtain ⟨j, hj⟩ := Int.eq_ofNat_of_zero_le hy0.le
    refine ⟨i, j, .inr ⟨?_, ?_⟩⟩
    · zify
      rw [← hi, ← hj, hNum]
      ring
    · rw [← neg_sub, hDistance, ← hi, ← hj]
      ring

/-! ## Finding neighbours -/

/-- Moves the fraction that is farther away towards the number, by as many steps as stay on its side
and keep the denominator within the bound, until no step is possible. Each step takes the mediant,
so neighbours stay neighbours. -/
def approach (a b bound : Nat) : Nat → FractionPair → FractionPair
  | 0, p => p
  | rounds + 1, p =>
    if bound < p.lowDen + p.highDen then p
    else if p.above a b ≤ p.below a b then
      let within := (bound - p.lowDen) / p.highDen
      let steps := if p.above a b = 0 then within else min (p.below a b / p.above a b) within
      approach a b bound rounds { p with
        lowNum := p.lowNum + steps * p.highNum, lowDen := p.lowDen + steps * p.highDen }
    else
      let within := (bound - p.highDen) / p.lowDen
      let steps := if p.below a b = 0 then within else min (p.above a b / p.below a b) within
      approach a b bound rounds { p with
        highNum := p.highNum + steps * p.lowNum, highDen := p.highDen + steps * p.lowDen }

/-- Neighbours around a number, found from the integers next to it. -/
def around (a b bound : Nat) : FractionPair :=
  approach a b bound 100 ⟨a / b, 1, a / b + 1, 1⟩

example : around 314159 100000 100 = ⟨311, 99, 22, 7⟩ := by rfl

end FractionPair

end IndexedMesh
