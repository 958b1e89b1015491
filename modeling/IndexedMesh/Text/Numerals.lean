/-!
# Numbers in arguments

A number in an argument is made of decimal digits. An integer is a row of them, which may have a
sign. A real number may have a point in it as well, and a power of ten behind it. Infinity and the
result of an undefined computation have names.

## Main definitions

* `parseNatural?` — a natural number, with a plus sign or without.
* `parseInteger?` — an integer with either sign.
* `isNumeral` — whether a text is a real number.
-/

namespace IndexedMesh.Text

/-- Whether a text is a row of digits, of which there has to be one. -/
def isDigits (text : List Char) : Bool := !text.isEmpty && text.all Char.isDigit

/-! ## Integers -/

/-- The value of a row of digits. -/
def parseDigits? (digits : List Char) : Option Nat :=
  if isDigits digits then some (digits.foldl (fun value c => value * 10 + (c.toNat - '0'.toNat)) 0)
  else none

/-- A natural number, with a plus sign or without. -/
def parseNatural? (text : String) : Option Nat :=
  match text.toList with
  | '+' :: digits => parseDigits? digits
  | digits => parseDigits? digits

/-- An integer with either sign. -/
def parseInteger? (text : String) : Option Int :=
  match text.toList with
  | '-' :: digits => (parseDigits? digits).map fun n => -(n : Int)
  | '+' :: digits => (parseDigits? digits).map Int.ofNat
  | digits => (parseDigits? digits).map Int.ofNat

/-! ## Real numbers -/

/-- A text without a sign at its front. -/
def withoutSign (text : List Char) : List Char :=
  if text.head? = some '+' || text.head? = some '-' then text.drop 1 else text

/-- Whether a text is a power of ten, or nothing. -/
def isPower : List Char → Bool
  | [] => true
  | mark :: text => (mark = 'e' || mark = 'E') && isDigits (withoutSign text)

/-- Whether a text is a number without a name. There has to be a digit before the point or behind
it. -/
def isDecimal (text : List Char) : Bool :=
  let whole := text.takeWhile Char.isDigit
  match text.dropWhile Char.isDigit with
  | '.' :: text =>
    isDigits (whole ++ text.takeWhile Char.isDigit) && isPower (text.dropWhile Char.isDigit)
  | text => isDigits whole && isPower text

/-- The names of numbers, in small letters. -/
def numberNames : List String := ["inf", "infinity", "nan"]

/-- Whether a text is a number, by its digits or by its name in letters of either case. -/
def isNumeral (text : String) : Bool :=
  let text := withoutSign text.toList
  isDecimal text || numberNames.contains (String.ofList (text.map Char.toLower))

end IndexedMesh.Text
