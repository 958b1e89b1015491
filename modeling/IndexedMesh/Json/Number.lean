import IndexedMesh.Decimal.Basic
import IndexedMesh.Decimal.Text
import IndexedMesh.Json.Reader

/-!
# Numbers

A number in a text is scanned as a numeral, by the grammar alone, and a numeral then has a value:
an integer, if it has neither a point nor an exponent and 64 bits hold it, and in any case a
decimal. The grammar refuses a leading zero, a leading plus, and a point or exponent mark that no
digit follows.

The numeral of minus zero counts as a decimal only, because no integer is minus zero.

The digits of a decimal are gathered in 64 bits. Digits before the point that do not fit only
count towards the power of ten; digits after the point that do not fit say nothing.

## Main definitions

* `Numeral`, `scanNumeral` — the parts of a number and the grammar.
* `Numeral.toInt?`, `Numeral.toDecimal` — the value of a numeral.
* `readNatural`, `readFloat32` — a number as a bounded integer and as a floating-point number.
* `numberStyle`, `writeFloat32` — how floating-point numbers are written.
-/

namespace IndexedMesh.Json

/-- The parts of a number. The fraction is empty if there is no point. -/
structure Numeral where
  negative : Bool
  whole : List Char
  fraction : List Char
  exponent : Option Int
deriving DecidableEq

/-- The value of decimal digits. -/
def digitsValue (digits : List Char) : Nat :=
  digits.foldl (fun value c => value * 10 + (c.toNat - '0'.toNat)) 0

/-! ## Grammar

A text that ends inside a number fails with the fault `atEnd`. -/

/-- All digits that follow, at least one. -/
def scanDigits (atEnd : Fault) : Reader (List Char) := fun text =>
  match text with
  | [] => .error atEnd
  | c :: _ =>
    if c.isDigit then .ok (text.takeWhile Char.isDigit, text.dropWhile Char.isDigit)
    else .error .malformed

/-- The digits before the point. A zero stands alone. -/
def scanWhole (atEnd : Fault) : Reader (List Char) := do
  match ← scanDigits atEnd with
  | '0' :: _ :: _ => throw .malformed
  | digits => return digits

/-- The point and the digits after it, if there is a point. -/
def scanFraction (atEnd : Fault) : Reader (List Char) := fun text =>
  match text with
  | '.' :: rest => scanDigits atEnd rest
  | _ => .ok ([], text)

/-- The sign of an exponent. -/
def scanSign : Reader Bool := fun text =>
  match text with
  | '+' :: rest => .ok (false, rest)
  | '-' :: rest => .ok (true, rest)
  | _ => .ok (false, text)

/-- The exponent, if there is one. -/
def scanExponent (atEnd : Fault) : Reader (Option Int) := do
  match ← get with
  | 'e' :: _ | 'E' :: _ =>
    advance
    let negative ← scanSign
    let value : Int := digitsValue (← scanDigits atEnd)
    return some (if negative then -value else value)
  | _ => return none

/-- A number, starting at its sign or its first digit. -/
def scanNumeral (atEnd : Fault) : Reader Numeral := do
  let negative ← (do
    match ← get with
    | '-' :: _ => advance; return true
    | _ => return false)
  let whole ← scanWhole atEnd
  let fraction ← scanFraction atEnd
  let exponent ← scanExponent atEnd
  return { negative, whole, fraction, exponent }

/-! ## Values -/

/-- Takes digits into a value for as long as it stays below `2 ^ 64`. Returns the value and the
digits that are left over. -/
def gatherDigits (value : Nat) : List Char → Nat × List Char
  | [] => (value, [])
  | c :: rest =>
    let next := value * 10 + (c.toNat - '0'.toNat)
    if next < UInt64.size then gatherDigits next rest else (value, c :: rest)

/-- The decimal that a numeral stands for. Digits before the point are left over only where the
value is full, but a small digit after the point can still fit then, and counts. -/
def Numeral.toDecimal (n : Numeral) : Decimal :=
  let (whole, left) := gatherDigits 0 n.whole
  let (digits, dropped) := gatherDigits whole n.fraction
  let places : Int := n.fraction.length - dropped.length
  { negative := n.negative, digits, exponent := n.exponent.getD 0 + left.length - places }

/-- The integer that a numeral stands for, if it is the numeral of one: an unsigned integer of 64
bits, or a negative one that has 64 bits with its sign. -/
def Numeral.toInt? (n : Numeral) : Option Int :=
  if n.fraction ≠ [] || n.exponent.isSome then none
  else match gatherDigits 0 n.whole with
    | (_, _ :: _) => none
    | (value, []) =>
      if !n.negative then some value
      else if 0 < value && value ≤ UInt64.size / 2 then some (-value)
      else none

/-- Whether a character can start a number. -/
def startsNumber (c : Char) : Bool := c = '-' || c.isDigit

/-- A number of any kind. One beyond double precision is refused. -/
def readNumeral : Reader Numeral := do
  let numeral ← scanNumeral .truncated
  if numeral.toDecimal.toDouble?.isSome then return numeral else throw .malformed

/-- An integer from zero up to but not including `bound`, starting at its first character. -/
def readNatural (bound : Nat) : Reader Nat := do
  let numeral ← readNumeral
  match numeral.toInt? with
  | some (.ofNat n) => if n < bound then return n else throw .mismatch
  | _ => throw .mismatch

/-- A floating-point number, starting at its first character. An integer goes to single precision
directly, any other number by way of double precision. -/
def readFloat32 : Reader Float32 := do
  let numeral ← scanNumeral .truncated
  match numeral.toInt? with
  | some n => return nearestFloat32 n
  | none =>
    match numeral.toDecimal.toFloat32? with
    | some x => return x
    | none => throw .malformed

/-! ## Writing -/

/-- Numbers from a millionth to below ten million million are written out; others have a power
of ten. A whole number keeps its point, so that it reads back as a floating-point number. -/
def numberStyle : DecimalStyle where
  tie := .toEven
  positional e := -6 ≤ e && e ≤ 12
  keepsPoint := true

/-- A floating-point number. What is not finite has no number text and is written as a null. -/
def writeFloat32 (x : Float32) : List Char :=
  if x.isFinite then decimalText numberStyle x else "null".toList

end IndexedMesh.Json
