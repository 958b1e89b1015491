/-!
# The fewest digits that identify a number

A finite single-precision number is written with the fewest decimal digits that still identify
it, and of the decimals with that many digits the nearest one.

The reals that round to a number `m · 2 ^ q` form an interval around it, from halfway to the
number below to halfway to the number above; its ends belong to it when `m` is even. On each grid
of multiples of `10 ^ k`, from coarse to fine, only the two neighbours of the number on the grid
need a test: if any multiple lies in the interval, so does one of these two.

Two neighbours can be equally near. Which one is taken is a decision of the format that is being
written, so the rule is a parameter (`Tie`).

## Main definitions

* `Magnitude` — a positive number together with its rounding interval.
* `Magnitude.shortest` — the digits and the power of ten.
-/

namespace IndexedMesh

/-- Which of two equally near decimals is taken. -/
inductive Tie
  /-- the one whose last digit is even -/
  | toEven
  /-- the greater one -/
  | up
deriving DecidableEq

/-- A positive number `mantissa · 2 ^ exponent` of a binary format. The gap below it is half the
gap above it if `narrowBelow` is set, which happens at powers of two. -/
structure Magnitude where
  mantissa : Nat
  exponent : Int
  narrowBelow : Bool
deriving DecidableEq

/-- The magnitude of a finite single-precision number. -/
def Magnitude.ofFloat32 (x : Float32) : Magnitude :=
  let bits : Nat := x.toBits.toNat
  let field : Nat := bits / Nat.pow 2 23 % Nat.pow 2 8
  let fraction : Nat := bits % Nat.pow 2 23
  if field = 0 then ⟨fraction, -149, false⟩
  else ⟨Nat.pow 2 23 + fraction, (field : Int) - 150, fraction = 0 && 1 < field⟩

namespace Magnitude

/-! ## The grid of multiples of a power of ten

All comparisons are between a multiple `d` of `10 ^ k` and a multiple `x` of a quarter of the
number's unit. Both are brought to whole numbers by the factors below. -/

/-- What one step of the decimal grid counts for. -/
def decimalStep (v : Magnitude) (k : Int) : Nat :=
  Nat.pow 10 k.toNat * Nat.pow 2 (2 - v.exponent).toNat

/-- What a quarter of the binary unit counts for. -/
def binaryStep (v : Magnitude) (k : Int) : Nat :=
  Nat.pow 10 (-k).toNat * Nat.pow 2 (v.exponent - 2).toNat

/-- The lower end of the rounding interval, in quarters of the unit. -/
def lower (v : Magnitude) : Nat := 4 * v.mantissa - if v.narrowBelow then 1 else 2

/-- The upper end of the rounding interval, in quarters of the unit. -/
def upper (v : Magnitude) : Nat := 4 * v.mantissa + 2

/-- Whether `d · 10 ^ k` rounds to the number. -/
def identifiedBy (v : Magnitude) (d : Nat) (k : Int) : Bool :=
  let low := v.lower * v.binaryStep k
  let high := v.upper * v.binaryStep k
  let point := d * v.decimalStep k
  if v.mantissa % 2 = 0 then low ≤ point && point ≤ high else low < point && point < high

/-- The nearest multiple of `10 ^ k` that rounds to the number, if there is one. -/
def onGrid? (tie : Tie) (v : Magnitude) (k : Int) : Option Nat :=
  let exact := 4 * v.mantissa * v.binaryStep k
  let below := exact / v.decimalStep k
  let above := below + 1
  let middle := (below + above) * v.decimalStep k
  match v.identifiedBy below k, v.identifiedBy above k with
  | false, false => none
  | true, false => some below
  | false, true => some above
  | true, true =>
    if 2 * exact < middle then some below
    else if middle < 2 * exact then some above
    else match tie with
      | .toEven => some (below + below % 2)
      | .up => some above

/-- Where the search starts: ten to this power is at least twice the number, so every coarser grid
lies beyond its interval. -/
def coarsest (v : Magnitude) : Int :=
  (v.mantissa.log2 + v.exponent + 2) * 30103 / 100000 + 1

/-- Searches the grids downward from `10 ^ k`. After the last one the number itself is taken,
which has a finite decimal form. -/
def search (tie : Tie) (v : Magnitude) : Nat → Int → Nat × Int
  | 0, _ =>
    (v.mantissa * Nat.pow 2 v.exponent.toNat * Nat.pow 5 (-v.exponent).toNat,
      -((-v.exponent).toNat : Int))
  | grids + 1, k =>
    match v.onGrid? tie k with
    | some d => (d, k)
    | none => search tie v grids (k - 1)

/-- The fewest digits that identify the number, as `d · 10 ^ k`. -/
def shortest (tie : Tie) (v : Magnitude) : Nat × Int := search tie v 20 v.coarsest

end Magnitude

end IndexedMesh
