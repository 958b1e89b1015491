import IndexedMesh.Text.Printable

/-!
# Characters in texts

What the characters of a text are taken for, and how much room they need. Codes of characters are
often given in base sixteen, whose digits from ten on are letters of either case. A text made of
white space of any script says nothing. A text that is cut at a number of bytes may be cut in the
middle of a character, of which one takes up to four, and then there are no two parts.

A message quotes a name so that its ends can be seen and every character of it can be told: quotes
and backslashes are escaped, and a character without a glyph of its own is given by its code.

## Main definitions

* `hexDigit?` — the value of a hexadecimal digit.
* `isBlank` — the twenty-five blank characters; `isAllBlank`, `trim` — texts made of them, and a
  text without those around it.
* `byteLength`, `splitBytes?` — the length of a text in bytes, and its two parts at such a length.
* `quoted` — a name between quotes.
-/

namespace IndexedMesh.Text

/-- The value of a hexadecimal digit of either case. -/
def hexDigit? (c : Char) : Option Nat :=
  if '0' ≤ c ∧ c ≤ '9' then some (c.toNat - '0'.toNat)
  else if 'a' ≤ c ∧ c ≤ 'f' then some (c.toNat - 'a'.toNat + 10)
  else if 'A' ≤ c ∧ c ≤ 'F' then some (c.toNat - 'A'.toNat + 10)
  else none

/-! ## White space -/

/-- Codes of the blank characters, as ranges with both ends included. -/
def blankRanges : List (Nat × Nat) := [
  (0x9, 0xd), (0x20, 0x20), (0x85, 0x85), (0xa0, 0xa0), (0x1680, 0x1680), (0x2000, 0x200a),
  (0x2028, 0x2029), (0x202f, 0x202f), (0x205f, 0x205f), (0x3000, 0x3000)]

/-- Whether a character is white space. -/
def isBlank (c : Char) : Bool :=
  blankRanges.any fun (first, last) => first ≤ c.toNat && c.toNat ≤ last

/-- Whether a text is made of white space alone. -/
def isAllBlank (text : String) : Bool := text.toList.all isBlank

/-- A text without the white space at its ends. -/
def trim (text : List Char) : List Char :=
  ((text.dropWhile isBlank).reverse.dropWhile isBlank).reverse

/-! ## Lengths in bytes -/

/-- The number of bytes that a text takes. -/
def byteLength : List Char → Nat
  | [] => 0
  | c :: rest => c.utf8Size + byteLength rest

/-- The first bytes of a text and the others. Nothing if a character is on both sides, or if the
text is shorter. -/
def splitBytes? : Nat → List Char → Option (List Char × List Char)
  | 0, text => some ([], text)
  | _ + 1, [] => none
  | size, c :: text =>
    if size < c.utf8Size then none
    else (splitBytes? (size - c.utf8Size) text).map fun (front, back) => (c :: front, back)

/-! ## Names in messages -/

/-- A character inside quotes. -/
def quotedChar (c : Char) : List Char :=
  match c with
  | '"' => ['\\', '"']
  | '\\' => ['\\', '\\']
  | '\n' => ['\\', 'n']
  | '\r' => ['\\', 'r']
  | '\t' => ['\\', 't']
  | '\x00' => ['\\', '0']
  | c =>
    if isPrintable c then [c]
    else ['\\', 'u', '\x7b'] ++ Nat.toDigits 16 c.toNat ++ ['\x7d']

/-- A name between quotes. -/
def quoted (name : String) : String :=
  String.ofList ('"' :: (name.toList.flatMap quotedChar ++ ['"']))

end IndexedMesh.Text
