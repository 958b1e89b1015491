/-!
# Character classes

A character class is a set of characters, given by ranges of their codes. The ranges may overlap
and come in any order. Classes are joined, intersected and complemented range by range; the lemmas
say that a code is then in the result just when it should be.

## Main definitions

* `CodeRange` — the codes from one to another.
* `CharClass` — a set of codes, and `CharClass.has`.
* `CharClass.union`, `common`, `outside`, `without`, `either` — operations on sets.
* `CharClass.anyCase` — a class whose letters count in either case.
* `CharClass.named?` — the classes that have names.
-/

namespace IndexedMesh.Text

/-- The codes from the first to the last. There are none if the last comes before the first. -/
structure CodeRange where
  first : Nat
  last : Nat
deriving DecidableEq

namespace CodeRange

/-- Whether a code is in a range. -/
def has (r : CodeRange) (code : Nat) : Bool := r.first ≤ code && code ≤ r.last

/-- The codes that two ranges share. -/
def common (a b : CodeRange) : CodeRange := ⟨max a.first b.first, min a.last b.last⟩

theorem has_common (a b : CodeRange) (code : Nat) :
    (a.common b).has code = (a.has code && b.has code) := by
  rw [Bool.eq_iff_iff]
  simp only [has, common, Bool.and_eq_true, decide_eq_true_eq, Nat.max_le, Nat.le_min]
  exact and_and_and_comm

/-- The codes up to the greatest one that are not in a range. -/
def outside (greatest : Nat) (r : CodeRange) : List CodeRange :=
  if r.last < r.first then [⟨0, greatest⟩]
  else if r.first = 0 then [⟨r.last + 1, greatest⟩]
  else [⟨0, min (r.first - 1) greatest⟩, ⟨r.last + 1, greatest⟩]

theorem has_outside {greatest code : Nat} (r : CodeRange) (bounded : code ≤ greatest) :
    (r.outside greatest).any (·.has code) = !r.has code := by
  rw [Bool.eq_iff_iff]
  unfold outside
  split
  · simp [has]; omega
  · split
    · simp [has]; omega
    · simp [has]; omega

end CodeRange

/-- A set of characters. -/
structure CharClass where
  ranges : List CodeRange
deriving DecidableEq

namespace CharClass

/-- The greatest code of a character. -/
def greatestCode : Nat := 0x10ffff

/-- Whether a code is in a class. -/
def hasCode (s : CharClass) (code : Nat) : Bool := s.ranges.any (·.has code)

/-- Whether a character is in a class. -/
def has (s : CharClass) (c : Char) : Bool := s.hasCode c.toNat

/-- The characters from one to another. -/
def range (first last : Char) : CharClass := ⟨[⟨first.toNat, last.toNat⟩]⟩

/-- The class of one character. -/
def single (c : Char) : CharClass := range c c

/-- No characters. -/
def empty : CharClass := ⟨[]⟩

/-- The codes up to the greatest one. -/
def upTo (greatest : Nat) : CharClass := ⟨[⟨0, greatest⟩]⟩

/-! ## Operations on sets -/

/-- What is in one class or the other. -/
def union (a b : CharClass) : CharClass := ⟨a.ranges ++ b.ranges⟩

/-- What is in both classes. -/
def common (a b : CharClass) : CharClass :=
  ⟨(a.ranges.flatMap fun r => b.ranges.map r.common).filter fun r => r.first ≤ r.last⟩

/-- The codes up to the greatest one that are not in a class. -/
def outside (greatest : Nat) (s : CharClass) : CharClass :=
  s.ranges.foldr (fun r rest => common ⟨r.outside greatest⟩ rest) (upTo greatest)

/-- What is in one class and not in the other. -/
def without (greatest : Nat) (a b : CharClass) : CharClass := a.common (b.outside greatest)

/-- What is in one class or the other, but not in both. -/
def either (greatest : Nat) (a b : CharClass) : CharClass :=
  (a.without greatest b).union (b.without greatest a)

theorem hasCode_union (a b : CharClass) (code : Nat) :
    (a.union b).hasCode code = (a.hasCode code || b.hasCode code) := by
  simp [hasCode, union]

theorem hasCode_common (a b : CharClass) (code : Nat) :
    (a.common b).hasCode code = (a.hasCode code && b.hasCode code) := by
  rw [Bool.eq_iff_iff]
  simp only [hasCode, common, List.any_eq_true, List.mem_filter, List.mem_flatMap, List.mem_map,
    Bool.and_eq_true]
  constructor
  · rintro ⟨_, ⟨⟨r, hr, t, ht, rfl⟩, -⟩, h⟩
    rw [CodeRange.has_common, Bool.and_eq_true] at h
    exact ⟨⟨r, hr, h.1⟩, ⟨t, ht, h.2⟩⟩
  · rintro ⟨⟨r, hr, h⟩, ⟨t, ht, h'⟩⟩
    refine ⟨r.common t, ⟨⟨r, hr, t, ht, rfl⟩, ?_⟩, ?_⟩
    · simp only [CodeRange.has, Bool.and_eq_true, decide_eq_true_eq] at h h'
      exact decide_eq_true (by simp only [CodeRange.common]; omega)
    · rw [CodeRange.has_common, h, h']; rfl

theorem hasCode_outside {greatest code : Nat} (s : CharClass) (bounded : code ≤ greatest) :
    (s.outside greatest).hasCode code = !s.hasCode code := by
  obtain ⟨ranges⟩ := s
  induction ranges with
  | nil => simp [outside, upTo, hasCode, CodeRange.has, bounded]
  | cons r ranges ih =>
    have step : (outside greatest ⟨r :: ranges⟩) =
        common ⟨r.outside greatest⟩ (outside greatest ⟨ranges⟩) := rfl
    rw [step, hasCode_common, ih]
    simp only [hasCode, List.any_cons, Bool.not_or]
    rw [CodeRange.has_outside r bounded]

/-! ## Letters in either case -/

/-- The codes between capital and small ASCII letters. -/
def caseDistance : Nat := 'a'.toNat - 'A'.toNat

/-- A class with the other case of its ASCII letters. -/
def anyCase (s : CharClass) : CharClass :=
  let small := (s.common (range 'A' 'Z')).ranges.map fun r =>
    ⟨r.first + caseDistance, r.last + caseDistance⟩
  let capital := (s.common (range 'a' 'z')).ranges.map fun r =>
    ⟨r.first - caseDistance, r.last - caseDistance⟩
  ⟨s.ranges ++ small ++ capital⟩

/-- Whether all characters of a class are ASCII ones. -/
def isAscii (s : CharClass) : Bool := s.ranges.all fun r => r.last < 0x80

/-! ## Classes with names -/

/-- The decimal digits. -/
def digits : CharClass := range '0' '9'

/-- The small and the capital letters. -/
def letters : CharClass := (range 'a' 'z').union (range 'A' 'Z')

/-- The letters and the digits. -/
def alphanumeric : CharClass := letters.union digits

/-- What words are made of: letters, digits and low lines. -/
def wordChars : CharClass := alphanumeric.union (single '_')

/-- The white space of ASCII. -/
def spaces : CharClass := (range '\t' '\r').union (single ' ')

/-- The signs that are neither letters nor digits. -/
def punctuation : CharClass :=
  ((range '!' '/').union (range ':' '@')).union ((range '[' '\x60').union (range '\x7b' '~'))

/-- The classes of ASCII characters that have names. -/
def named? : String → Option CharClass
  | "alnum" => some alphanumeric
  | "alpha" => some letters
  | "ascii" => some (range '\x00' '\x7f')
  | "blank" => some ((single '\t').union (single ' '))
  | "cntrl" => some ((range '\x00' '\x1f').union (single '\x7f'))
  | "digit" => some digits
  | "graph" => some (range '!' '~')
  | "lower" => some (range 'a' 'z')
  | "print" => some (range ' ' '~')
  | "punct" => some punctuation
  | "space" => some spaces
  | "upper" => some (range 'A' 'Z')
  | "word" => some wordChars
  | "xdigit" => some (digits.union ((range 'a' 'f').union (range 'A' 'F')))
  | _ => none

end CharClass

end IndexedMesh.Text
