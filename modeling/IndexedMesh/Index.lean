/-!
# Vertex indices

A mesh stores its vertex indices in an integer type of some width, signed or not, and everything
that is computed about vertices uses positions, which are natural numbers. This module goes
between the two.

An index becomes a position in a 64-bit address space, so that a negative one lies far beyond any
vertex set; no index is wider than an address. A position becomes an index by dropping the bits that
do not fit.

## Main definitions

* `IndexType` — width and signedness.
* `Index` — an index of a type, with its integer `value` and its `position`.
* `Index.ofPosition` — the index of a position.
-/

namespace IndexedMesh

/-- An integer type that indices are stored in, of at most as many bits as an address has. -/
structure IndexType where
  bits : Fin 65
  signed : Bool
deriving DecidableEq

/-- The number of bits of an index. -/
abbrev IndexType.width (t : IndexType) : Nat := t.bits

theorem IndexType.width_le (t : IndexType) : t.width ≤ 64 := Nat.le_of_lt_succ t.bits.isLt

/-- The type that documents store their indices in. -/
def IndexType.stored : IndexType := ⟨16, false⟩

/-- The narrowest type in use, without a sign. -/
def IndexType.byte : IndexType := ⟨8, false⟩

/-- The narrowest type in use, with a sign. -/
def IndexType.signedByte : IndexType := ⟨8, true⟩

/-- A vertex index. -/
structure Index (t : IndexType) where
  bits : BitVec t.width
deriving DecidableEq

namespace Index

variable {t : IndexType}

/-- The integer that an index stands for. -/
def value (i : Index t) : Int := if t.signed then i.bits.toInt else i.bits.toNat

/-- The position that an index refers to: its value as a 64-bit address. -/
def position (i : Index t) : Nat :=
  match i.value with
  | .ofNat n => n
  | .negSucc n => UInt64.size - 1 - n

/-- The index of an integer, without the bits that do not fit. -/
def ofInt (n : Int) : Index t := ⟨BitVec.ofInt t.width n⟩

/-- The index of a position, without the bits that do not fit. -/
def ofPosition (n : Nat) : Index t := ⟨BitVec.ofNat t.width n⟩

/-- Indices are ordered by value. -/
instance : LE (Index t) := ⟨fun i j => i.value ≤ j.value⟩

instance (i j : Index t) : Decidable (i ≤ j) := inferInstanceAs (Decidable (i.value ≤ j.value))

end Index

end IndexedMesh
