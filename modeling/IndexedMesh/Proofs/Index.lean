import IndexedMesh.Index

/-!
# Which positions an index type can express

A position that is narrowed to an index drops the bits that do not fit, so it need not come back.
Renumbering a mesh never asks for more than it already had, though: a vertex only ever gets the
number of a vertex at its own place or before it. What has to be known of an index type is
therefore not how many positions it can hold but that it can hold every position up to one that an
index of that type already refers to.

## Main results

* `Index.position_ofPosition_of_le` — positions up to that of an index with a value that is not
  negative survive narrowing.
* `Index.position_of_neg`, `Index.le_position_of_neg` — where negative indices lead.
* `IndexType.capacity`, `IndexType.position_ofPosition` — so do those that the type has values for.
* `IndexType.Addresses` — the first of these for every index into a mesh of some size.
* `IndexType.addresses_of_unsigned` — a type without negative values addresses meshes of every size.
* `IndexType.addresses_of_bounded` — so does every type, up to the size that an array can have.
-/

namespace IndexedMesh

namespace Index

variable {t : IndexType}

/-- An index that is not negative refers to the position that it spells. -/
theorem position_eq_value {i : Index t} (h : 0 ≤ i.value) : (i.position : Int) = i.value := by
  unfold position
  cases hValue : i.value with
  | ofNat n => rfl
  | negSucc n =>
      rw [hValue] at h
      exact absurd h (by simp)

theorem value_nonneg_of_unsigned (hUnsigned : t.signed = false) (i : Index t) : 0 ≤ i.value := by
  simp [value, hUnsigned]

theorem signed_of_neg {i : Index t} (h : i.value < 0) : t.signed = true := by
  cases hUnsigned : t.signed with
  | true => rfl
  | false => exact absurd (value_nonneg_of_unsigned hUnsigned i) (by omega)

private theorem msb_of_toInt_nonneg {w : Nat} {b : BitVec w} (h : 0 ≤ b.toInt) :
    b.msb = false := by
  rw [BitVec.msb_eq_toInt]
  exact decide_eq_false (Int.not_lt.2 h)

/-- An index that is not negative has the value of its bits. -/
theorem value_eq_toNat {i : Index t} (h : 0 ≤ i.value) : i.value = (i.bits.toNat : Int) := by
  unfold value at h ⊢
  by_cases hSigned : t.signed
  · simp only [hSigned, if_true] at h ⊢
    exact BitVec.toInt_eq_toNat_of_msb (msb_of_toInt_nonneg h)
  · simp [hSigned]

private theorem value_ofPosition {n : Nat} (hBits : (BitVec.ofNat t.width n).toNat = n)
    (hSign : t.signed = true → (BitVec.ofNat t.width n).msb = false) :
    (ofPosition n : Index t).value = n := by
  by_cases h : t.signed
  · simp only [value, ofPosition, h, if_true]
    rw [BitVec.toInt_eq_toNat_of_msb (hSign h), hBits]
  · simp only [value, ofPosition, h, Bool.false_eq_true, if_false]
    rw [hBits]

/-- **Narrowing is exact below an index.** No position up to that of an index loses bits. -/
theorem position_ofPosition_of_le {i : Index t} (h : 0 ≤ i.value) {n : Nat}
    (hn : n ≤ i.position) : (ofPosition n : Index t).position = n := by
  have hValue := value_eq_toNat h
  have hPosition := position_eq_value h
  have hBits : n ≤ i.bits.toNat := by omega
  have hLess : n < 2 ^ t.width := Nat.lt_of_le_of_lt hBits i.bits.isLt
  have hNat : (BitVec.ofNat t.width n).toNat = n := by
    rw [BitVec.toNat_ofNat, Nat.mod_eq_of_lt hLess]
  have hNarrow : (ofPosition n : Index t).value = (n : Int) := by
    refine value_ofPosition hNat fun hSigned => ?_
    have hHalf : 2 * i.bits.toNat < 2 ^ t.width := by
      simp only [value, hSigned, if_true] at h
      exact BitVec.msb_eq_false_iff_two_mul_lt.1 (msb_of_toInt_nonneg h)
    rw [BitVec.msb_eq_false_iff_two_mul_lt, hNat]
    omega
  have hBack := position_eq_value (i := (ofPosition n : Index t)) (by omega)
  omega

/-- An index is known by its value. -/
theorem eq_of_value_eq {i j : Index t} (h : i.value = j.value) : i = j := by
  obtain ⟨a⟩ := i
  obtain ⟨b⟩ := j
  by_cases hSigned : t.signed
  · simp only [value, hSigned, if_true] at h
    rw [BitVec.eq_of_toInt_eq h]
  · simp only [value, hSigned] at h
    rw [BitVec.eq_of_toNat_eq (Int.ofNat.inj h)]

private theorem least_le_value (hSigned : t.signed = true) (i : Index t) :
    -(UInt64.size : Int) ≤ 2 * i.value := by
  have hBits := BitVec.le_two_mul_toInt (x := i.bits)
  have hPower : (2 : Nat) ^ t.width ≤ 2 ^ 64 := Nat.pow_le_pow_right (by omega) t.width_le
  have hInt : (2 : Int) ^ t.width ≤ 2 ^ 64 := by exact_mod_cast hPower
  simp only [value, hSigned, if_true, UInt64.size]
  omega

/-- A negative index is extended by its sign, so it counts from the end of the addresses. -/
theorem position_of_neg {i : Index t} (h : i.value < 0) :
    (i.position : Int) = UInt64.size + i.value := by
  have hLeast := least_le_value (signed_of_neg h) i
  unfold position
  cases hValue : i.value with
  | ofNat n =>
      rw [hValue] at h
      exact absurd h (Int.not_lt.2 (Int.natCast_nonneg n))
  | negSucc n =>
      simp only [UInt64.size] at hLeast ⊢
      omega

/-- A negative index refers to a position in the upper half of the addresses. -/
theorem le_position_of_neg {i : Index t} (h : i.value < 0) :
    UInt64.size / 2 ≤ i.position := by
  have hLeast := least_le_value (signed_of_neg h) i
  have hPosition := position_of_neg h
  simp only [UInt64.size] at hLeast hPosition ⊢
  omega

end Index

namespace IndexType

/-- How many positions an index type can hold: as many as it has values that are not negative. -/
def capacity (t : IndexType) : Nat :=
  if t.signed then Nat.pow 2 (t.width - 1) else Nat.pow 2 t.width

/-- Positions that the type can hold survive narrowing. -/
theorem position_ofPosition {t : IndexType} {n : Nat} (h : n < t.capacity) :
    (Index.ofPosition n : Index t).position = n := by
  have hValue : (Index.ofPosition n : Index t).value = (n : Int) := by
    unfold capacity at h
    by_cases hSigned : t.signed
    · simp only [hSigned, if_true] at h
      by_cases hWidth : t.width = 0
      · have hZero : n = 0 := by
          rw [hWidth] at h
          exact Nat.lt_one_iff.1 h
        have hBits : ∀ b : BitVec t.width, b.toInt = 0 := by
          rw [hWidth]
          exact fun b => BitVec.toInt_zero_length b
        simp [Index.value, hSigned, hBits, hZero]
      · have hHalf : 2 ^ t.width = 2 * Nat.pow 2 (t.width - 1) := by
          obtain ⟨w, hw⟩ := Nat.exists_eq_succ_of_ne_zero hWidth
          rw [hw, Nat.pow_succ, Nat.mul_comm]
          rfl
        have hNat : (BitVec.ofNat t.width n).toNat = n := by
          rw [BitVec.toNat_ofNat, Nat.mod_eq_of_lt (by omega)]
        refine Index.value_ofPosition hNat fun _ => ?_
        rw [BitVec.msb_eq_false_iff_two_mul_lt, hNat]
        omega
    · simp only [hSigned] at h
      have hNat : (BitVec.ofNat t.width n).toNat = n := by
        rw [BitVec.toNat_ofNat]
        exact Nat.mod_eq_of_lt h
      exact Index.value_ofPosition hNat fun hTrue => absurd hTrue hSigned
  have hBack := Index.position_eq_value (i := (Index.ofPosition n : Index t)) (by omega)
  omega

/-- Whatever position an index into a mesh of `size` vertices refers to, the positions up to it can
be narrowed and come back. -/
def Addresses (t : IndexType) (size : Nat) : Prop :=
  ∀ (i : Index t) (n : Nat), i.position < size → n ≤ i.position →
    (Index.ofPosition n : Index t).position = n

/-- A type without negative values addresses meshes of every size, also of sizes that it cannot
count. -/
theorem addresses_of_unsigned {t : IndexType} (hUnsigned : t.signed = false) (size : Nat) :
    t.Addresses size := by
  intro i n _ hn
  exact Index.position_ofPosition_of_le (Index.value_nonneg_of_unsigned hUnsigned i) hn

/-- The stored type has no negative values. -/
theorem stored_addresses (size : Nat) : IndexType.stored.Addresses size :=
  addresses_of_unsigned rfl size

/-- **No array is so long that a negative index leads into it**, so every type addresses every array
that a program can have. Only types with negative values need a bound for that, and it is that of
half the address space. -/
theorem addresses_of_bounded {t : IndexType} {size : Nat}
    (hSize : t.signed = true → size ≤ UInt64.size / 2) : t.Addresses size := by
  intro i n hi hn
  refine Index.position_ofPosition_of_le ?_ hn
  refine Int.not_lt.1 fun hNegative => ?_
  have hLower := hSize (Index.signed_of_neg hNegative)
  have hUpper := Index.le_position_of_neg hNegative
  omega

end IndexType

end IndexedMesh
