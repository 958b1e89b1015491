/-!
# Decimal numbers and the binary numbers they are read as

A text holds a number as decimal digits with a power of ten; a mesh holds it as a 32-bit
floating-point number. This module goes from the first to the second.

An integer is rounded once, to the 24 significant bits of single precision. A decimal is first
evaluated in double precision: its digits are rounded to 53 significant bits and then multiplied
or divided by the power of ten, which is rounded itself, and so is the result. A decimal that
overflows on the way is refused. What comes out is rounded once more, to single precision, where a
number out of range becomes an infinity. Because each step rounds, the double is not always the
one nearest to the decimal.

Every rounding is the same function of a quotient of naturals, `Precision.round`, with a different
`Precision`: to nearest, a tie going to the even neighbour. All of it is exact arithmetic on `Nat`
and `Int`. No power of ten beyond the range of double precision is ever formed, so an exponent of
any size costs nothing.

## Main definitions

* `Decimal` — sign, digits and power of ten.
* `Precision.round` — the number of a binary format that is nearest to a quotient.
* `Decimal.toDouble?` — the value of a decimal in double precision, if it is in range.
* `Decimal.toFloat32?`, `nearestFloat32` — decimals and integers in single precision.
-/

namespace IndexedMesh

/-- The number `digits · 10 ^ exponent`, negated if `negative` is set. Zero keeps its sign. -/
structure Decimal where
  negative : Bool
  digits : Nat
  exponent : Int
deriving DecidableEq

/-! ## Rounding a quotient to a binary format -/

/-- A binary floating-point format: its numbers are `m · 2 ^ e` with `m` of at most `bits` bits
and `e` at least `unit`, and a number is finite if it is below `2 ^ top`. -/
structure Precision where
  bits : Nat
  unit : Int
  top : Nat

/-- Single precision. -/
def Precision.single : Precision := ⟨24, -149, 128⟩

/-- Double precision. -/
def Precision.double : Precision := ⟨53, -1074, 1024⟩

/-- The natural number nearest to `num / den`; of two equally near ones, the even one. -/
def roundQuotient (num den : Nat) : Nat :=
  let quotient := num / den
  let rest := num % den
  if 2 * rest < den then quotient
  else if den < 2 * rest then quotient + 1
  else quotient + quotient % 2

/-- The greatest `k` with `2 ^ k ≤ num / den`, for positive `num` and `den`. -/
def floorLog2 (num den : Nat) : Int :=
  let guess : Int := num.log2 - den.log2
  if den * Nat.pow 2 guess.toNat ≤ num * Nat.pow 2 (-guess).toNat then guess else guess - 1

/-- A number `mantissa · 2 ^ exponent`. -/
structure Rounded where
  mantissa : Nat
  exponent : Int
deriving DecidableEq

/-- The numerator of a rounded number, written as a quotient. -/
def Rounded.num (d : Rounded) : Nat := d.mantissa * Nat.pow 2 d.exponent.toNat

/-- The denominator of a rounded number, written as a quotient. -/
def Rounded.den (d : Rounded) : Nat := Nat.pow 2 (-d.exponent).toNat

/-- Rounds `num / den` to `p.bits` significant bits, or to a multiple of `2 ^ p.unit` where that
is coarser. The mantissa of the result can be `2 ^ p.bits` itself. -/
def Precision.round (p : Precision) (num den : Nat) : Rounded :=
  if num = 0 then ⟨0, p.unit⟩
  else
    let exponent := max p.unit (floorLog2 num den - (p.bits - 1))
    ⟨roundQuotient (num * Nat.pow 2 (-exponent).toNat) (den * Nat.pow 2 exponent.toNat), exponent⟩

/-- Whether a number is beyond the finite numbers of the format. -/
def Precision.exceeds (p : Precision) (d : Rounded) : Bool :=
  d.den * Nat.pow 2 p.top ≤ d.num

/-! ## Single precision as bits -/

/-- The bits of positive infinity. -/
def infinityBits : Nat := 0x7f800000

/-- The bits of a nonnegative number that has been rounded to single precision. A mantissa with
its top bit set carries one into the exponent field, which is what that field has to hold, and
a number out of range becomes infinity. -/
def Rounded.singleBits (d : Rounded) : Nat :=
  min infinityBits ((d.exponent + 149).toNat * Nat.pow 2 23 + d.mantissa)

/-- The single-precision number with the given sign and the given bits below the sign. -/
def signedFloat32 (negative : Bool) (bits : Nat) : Float32 :=
  Float32.ofBits (UInt32.ofNat (if negative then Nat.pow 2 31 + bits else bits))

/-- The single-precision number nearest to an integer. -/
def nearestFloat32 (n : Int) : Float32 :=
  signedFloat32 (n < 0) (Precision.single.round n.natAbs 1).singleBits

/-! ## From decimal to double precision -/

/-- The product of two numbers, rounded. -/
def Precision.mul (p : Precision) (a b : Rounded) : Rounded :=
  p.round (a.num * b.num) (a.den * b.den)

/-- The quotient of two numbers, rounded. -/
def Precision.div (p : Precision) (a b : Rounded) : Rounded :=
  p.round (a.num * b.den) (a.den * b.num)

/-- Ten to this power is the greatest power of ten in the range of double precision. -/
def greatestPower : Nat := 308

/-- A power of ten in double precision. -/
def powerOfTen (k : Nat) : Rounded := Precision.double.round (Nat.pow 10 k) 1

/-- A double times `10 ^ k`, or nothing if that is out of range. -/
def Rounded.timesPower? (x : Rounded) (k : Nat) : Option Rounded :=
  if x.mantissa = 0 then some x
  else if greatestPower < k then none
  else
    let product := Precision.double.mul x (powerOfTen k)
    if Precision.double.exceeds product then none else some product

/-- A double divided by `10 ^ k`. The greatest power of ten is divided out for as long as the one
that is left is not in range, which leaves zero after a few steps. -/
def Rounded.overPower (x : Rounded) (k : Nat) : Rounded :=
  if greatestPower < k then
    if x.mantissa = 0 then x
    else
      overPower (Precision.double.div x (powerOfTen greatestPower)) (k - greatestPower)
  else Precision.double.div x (powerOfTen k)
termination_by k
decreasing_by unfold greatestPower at *; omega

/-- The decimal in double precision, without its sign, or nothing if it is out of range. -/
def Decimal.toDouble? (d : Decimal) : Option Rounded :=
  let digits := Precision.double.round d.digits 1
  if 0 ≤ d.exponent then digits.timesPower? d.exponent.toNat
  else some (digits.overPower (-d.exponent).toNat)

/-- The single-precision value of a decimal: its double, rounded again. Nothing if the decimal is
beyond double precision. -/
def Decimal.toFloat32? (d : Decimal) : Option Float32 :=
  d.toDouble?.map fun double =>
    signedFloat32 d.negative (Precision.single.round double.num double.den).singleBits

end IndexedMesh
