import IndexedMesh.Decimal.Shortest

/-!
# The text of a number

A finite number is written from its shortest digits. The rest is a matter of style: which scales
are written out and which with a power of ten, whether a whole number keeps a point, and how a tie
between two digits is broken. `DecimalStyle` collects these decisions, and each format that is
written has one value of it.

## Main definitions

* `DecimalStyle` — the decisions.
* `decimalText` — a finite number in a style.
* `reportStyle`, `reportText` — the style of messages to a reader: never a power of ten,
  no point in a whole number, and words for what is not finite.
-/

namespace IndexedMesh

/-- How a finite number is laid out. -/
structure DecimalStyle where
  tie : Tie
  /-- whether a number whose first digit stands for `10 ^ e` is written without a power of ten -/
  positional : Int → Bool
  /-- whether a whole number ends in a point and a zero -/
  keepsPoint : Bool

/-- The digits of a natural number. -/
def digitsText (n : Nat) : List Char := Nat.toDigits 10 n

/-- The number `digits · 10 ^ exponent` without a power of ten. -/
def positionalText (keepsPoint : Bool) (digits : List Char) (exponent : Int) : List Char :=
  let places := (-exponent).toNat
  if 0 ≤ exponent then
    digits ++ List.replicate exponent.toNat '0' ++ if keepsPoint then ['.', '0'] else []
  else if places < digits.length then
    digits.take (digits.length - places) ++ '.' :: digits.drop (digits.length - places)
  else
    '0' :: '.' :: List.replicate (places - digits.length) '0' ++ digits

/-- The number with its point after the first digit, and the power of ten `e` always signed. -/
def scientificText (digits : List Char) (e : Int) : List Char :=
  let mantissa := match digits with
    | d :: rest@(_ :: _) => d :: '.' :: rest
    | short => short
  mantissa ++ 'e' :: (if e < 0 then '-' else '+') :: digitsText e.natAbs

/-- A positive number in a style. -/
def Magnitude.text (style : DecimalStyle) (v : Magnitude) : List Char :=
  let (d, k) := v.shortest style.tie
  let digits := digitsText d
  let e := k + digits.length - 1
  if style.positional e then positionalText style.keepsPoint digits k
  else scientificText digits e

/-- Whether the sign bit is set. -/
def signBit (x : Float32) : Bool := Nat.pow 2 31 ≤ x.toBits.toNat

/-- Whether a number is a zero of either sign. -/
def isZero (x : Float32) : Bool := x.toBits.toNat % Nat.pow 2 31 = 0

/-- A finite number in a style. Zero is written with its sign. -/
def decimalText (style : DecimalStyle) (x : Float32) : List Char :=
  let magnitude :=
    if isZero x then positionalText style.keepsPoint ['0'] 0
    else (Magnitude.ofFloat32 x).text style
  if signBit x then '-' :: magnitude else magnitude

/-- Messages write every number out in full. -/
def reportStyle : DecimalStyle where
  tie := .up
  positional _ := true
  keepsPoint := false

/-- A number in a message. -/
def reportText (x : Float32) : String :=
  if x.isNaN then "NaN"
  else if x.isInf then (if signBit x then "-inf" else "inf")
  else String.ofList (decimalText reportStyle x)

end IndexedMesh
