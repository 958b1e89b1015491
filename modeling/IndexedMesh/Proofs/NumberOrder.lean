import Mathlib
import IndexedMesh.Bounds.Scalar

/-!
# The order of floating-point numbers

A floating-point value has a place in the order of numbers, unless it is not a number. The place is
first that of its kind, from the negative infinity over negative numbers, zeros and positive numbers
to the positive infinity, and among the finite numbers of one sign it is that of the exponent and
then of the mantissa. One value is at most another exactly if both have a place and these are in
order, so the laws of the order are those of the places.

Two values in the same place are the same bit for bit, or they are two zeros: nothing is lost when
bits are unpacked, and there is only one way to write what is not a number.

## Main results

* `Scalar.SameNumber` — the same but for the sign of a zero.
* `Scalar.Order`, `Scalar.Ordered` — the laws of the order, with instances for both types.
-/

namespace IndexedMesh

/-! ## Places -/

section Places

open Float.Model (UnpackedFloat)
open Float.Model.UnpackedFloat

/-- Where a value stands among the numbers. -/
private def place? : UnpackedFloat → Option (ℤ ×ₗ ℤ ×ₗ ℤ)
  | .notANumber => none
  | .infinity .negative => some (toLex (-2, toLex (0, 0)))
  | .finite .negative mantissa exponent _ => some (toLex (-1, toLex (-exponent, -mantissa)))
  | .zero _ => some (toLex (0, toLex (0, 0)))
  | .finite .positive mantissa exponent _ => some (toLex (1, toLex (exponent, mantissa)))
  | .infinity .positive => some (toLex (2, toLex (0, 0)))

private theorem isNaN_iff_place? (u : UnpackedFloat) : u.isNaN = true ↔ place? u = none := by
  rcases u with (_ | _) | _ | _ | ⟨_ | _, m, e, _⟩ <;> simp [UnpackedFloat.isNaN, place?]

private theorem compare_sign_isLE {s t : Sign} :
    (compare s t).isLE = true ↔ s = .negative ∨ t = .positive := by
  cases s <;> cases t <;> simp [compare]

private theorem compare_finite_isLE {e e' : ℤ} {m m' : ℕ} :
    ((compare e e').then (compare m m')).isLE = true ↔ e < e' ∨ e = e' ∧ m ≤ m' := by
  rw [Ordering.isLE_then_iff_or, compare_lt_iff_lt, compare_eq_iff_eq, Nat.isLE_compare]

private theorem compare_finite_isGE {e e' : ℤ} {m m' : ℕ} :
    ((compare e e').then (compare m m')).isGE = true ↔ e' < e ∨ e = e' ∧ m' ≤ m := by
  rw [← Ordering.isLE_swap, Ordering.swap_then, Ordering.isLE_then_iff_or, Ordering.swap_eq_lt,
    Ordering.swap_eq_eq, Ordering.isLE_swap, compare_gt_iff_gt, compare_eq_iff_eq,
    Nat.isGE_compare]

/-- **A value is at most another if their places are in order.** -/
private theorem le_iff_place? (u v : UnpackedFloat) :
    u.le v = true ↔ ∃ p q, place? u = some p ∧ place? v = some q ∧ p ≤ q := by
  show (u.compare v).any (·.isLE) = true ↔ _
  -- The order depends on the kinds of both values and then on their signs.
  rcases u with (_ | _) | _ | _ | ⟨_ | _, m, e, _⟩ <;>
    rcases v with (_ | _) | _ | _ | ⟨_ | _, n, e', _⟩ <;>
    dsimp only [UnpackedFloat.compare, place?] <;>
    simp [Prod.Lex.toLex_le_toLex, compare_sign_isLE, compare_finite_isLE, compare_finite_isGE]

private theorem eq_of_place?_eq {u v : UnpackedFloat} (h : place? u = place? v) :
    u = v ∨ place? u = place? (.zero .positive) := by
  rcases u with (_ | _) | _ | _ | ⟨_ | _, m, e, _⟩ <;>
    rcases v with (_ | _) | _ | _ | ⟨_ | _, n, e', _⟩ <;>
    simp_all [place?]

end Places

/-! ## The laws of the order -/

namespace Scalar

variable {α : Type} [Scalar α]

/-- A zero of either sign. -/
def IsZero (a : α) : Prop := a ≤ ofNat 0 ∧ ofNat 0 ≤ a

/-- The same value but for the sign of a zero. -/
def SameNumber (a b : α) : Prop := a = b ∨ IsZero a ∧ IsZero b

/-- An order of the numbers, upwards or downwards: what is not a number is left out. Two values that
come before each other differ in the sign of a zero, if at all. -/
structure Order (r : α → α → Prop) : Prop where
  trans : ∀ {a b c : α}, r a b → r b c → r a c
  total : ∀ {a b : α}, isNaN a = false → isNaN b = false → r a b ∨ r b a
  isNaN_of : ∀ {a b : α}, r a b → isNaN a = false ∧ isNaN b = false
  same : ∀ {a b : α}, r a b → r b a → SameNumber a b

/-- Zero is a number, and there is only one value that is not. -/
class Ordered (α : Type) [Scalar α] : Prop where
  order_le : Order (α := α) (· ≤ ·)
  isNaN_zero : isNaN (ofNat 0 : α) = false
  eq_of_isNaN : ∀ {a b : α}, isNaN a = true → isNaN b = true → a = b

theorem Order.refl {r : α → α → Prop} (hOrder : Order r) {a : α} (hNumber : isNaN a = false) :
    r a a :=
  (hOrder.total hNumber hNumber).elim id id

theorem Ordered.order_ge [Ordered α] : Order (α := α) (· ≥ ·) where
  trans h h' := order_le.trans h' h
  total h h' := order_le.total h' h
  isNaN_of h := (order_le.isNaN_of h).symm
  same h h' := order_le.same h' h

/-- The laws are those of places in a linear order. -/
private theorem Ordered.of_places {P : Type} [LinearOrder P] (place? : α → Option P)
    (hLe : ∀ a b, a ≤ b ↔ ∃ p q, place? a = some p ∧ place? b = some q ∧ p ≤ q)
    (hNaN : ∀ a, isNaN a = true ↔ place? a = none) (hZero : place? (ofNat 0) ≠ none)
    (hSame : ∀ a b, place? a = place? b → a = b ∨ place? a = place? (ofNat 0)) : Ordered α := by
  have hNumber : ∀ a, isNaN a = false ↔ ∃ p, place? a = some p := fun a => by
    rw [← Bool.not_eq_true, hNaN, ← ne_eq, Option.ne_none_iff_exists']
  have hIsZero : ∀ a, place? a = place? (ofNat 0) → IsZero a := fun a ha => by
    obtain ⟨p, hp⟩ := Option.ne_none_iff_exists'.1 hZero
    exact ⟨(hLe _ _).2 ⟨p, p, ha.trans hp, hp, le_rfl⟩, (hLe _ _).2 ⟨p, p, hp, ha.trans hp, le_rfl⟩⟩
  refine
    { order_le :=
        { trans := fun {a b c} hab hbc => ?_
          total := fun {a b} ha hb => ?_
          isNaN_of := fun {a b} h => ?_
          same := fun {a b} hab hba => ?_ }
      isNaN_zero := (hNumber _).2 (Option.ne_none_iff_exists'.1 hZero)
      eq_of_isNaN := fun {a b} ha hb => ?_ }
  · obtain ⟨p, q, hp, hq, hpq⟩ := (hLe a b).1 hab
    obtain ⟨q', r, hq', hr, hqr⟩ := (hLe b c).1 hbc
    cases hq.symm.trans hq'
    exact (hLe a c).2 ⟨p, r, hp, hr, hpq.trans hqr⟩
  · obtain ⟨p, hp⟩ := (hNumber a).1 ha
    obtain ⟨q, hq⟩ := (hNumber b).1 hb
    exact (le_total p q).imp (fun h => (hLe a b).2 ⟨p, q, hp, hq, h⟩)
      fun h => (hLe b a).2 ⟨q, p, hq, hp, h⟩
  · obtain ⟨p, q, hp, hq, -⟩ := (hLe a b).1 h
    exact ⟨(hNumber a).2 ⟨p, hp⟩, (hNumber b).2 ⟨q, hq⟩⟩
  · obtain ⟨p, q, hp, hq, hpq⟩ := (hLe a b).1 hab
    obtain ⟨q', p', hq', hp', hqp⟩ := (hLe b a).1 hba
    cases hp.symm.trans hp'
    cases hq.symm.trans hq'
    cases le_antisymm hpq hqp
    have hPlaces := hp.trans hq.symm
    exact (hSame a b hPlaces).imp_right fun h => ⟨hIsZero a h, hIsZero b (hPlaces.symm.trans h)⟩
  · have hNone := (hNaN a).1 ha
    refine (hSame a b (hNone.trans ((hNaN b).1 hb).symm)).resolve_right fun h => ?_
    exact hZero (h.symm.trans hNone)

open Float.Model (Format UnpackedFloat)

/-- The laws hold for values that are bits of some format and are unpacked to be compared. -/
private theorem Ordered.of_bits (f : Format) (hFormat : 2 ≤ f.exponentBits)
    (bits : α → BitVec f.numBits) (hInjective : Function.Injective bits)
    (hValid : ∀ a, f.Valid (bits a))
    (hLe : ∀ a b, a ≤ b ↔ (UnpackedFloat.unpack f (bits a)).le (.unpack f (bits b)) = true)
    (hNaN : ∀ a, isNaN a = (UnpackedFloat.unpack f (bits a)).isNaN)
    (hZero : UnpackedFloat.unpack f (bits (ofNat 0)) = .zero .positive) : Ordered α := by
  refine .of_places (fun a => place? (.unpack f (bits a)))
    (fun a b => (hLe a b).trans (le_iff_place? _ _))
    (fun a => by rw [hNaN, isNaN_iff_place?]) (by simp [hZero, place?]) fun a b h => ?_
  rw [hZero]
  exact (eq_of_place?_eq h).imp_left fun hUnpack =>
    hInjective ((UnpackedFloat.unpack_inj_of_valid (hValid a) (hValid b) hFormat).1 hUnpack)

instance instOrderedFloat32 : Ordered Float32 :=
  .of_bits .binary32 (by decide) (fun a => a.toBits.toBitVec)
    (fun _ _ h => Float32.toBits_inj.1 (UInt32.toBitVec_inj.1 h)) (fun a => a.toModel.valid)
    (fun _ _ => decide_eq_true_iff) (fun _ => rfl) rfl

instance instOrderedFloat : Ordered Float :=
  .of_bits .binary64 (by decide) (fun a => a.toBits.toBitVec)
    (fun _ _ h => Float.toBits_inj.1 (UInt64.toBitVec_inj.1 h)) (fun a => a.toModel.valid)
    (fun _ _ => decide_eq_true_iff) (fun _ => rfl) rfl

end Scalar

end IndexedMesh
