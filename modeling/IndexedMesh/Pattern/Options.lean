import IndexedMesh.Pattern.Basic
import IndexedMesh.Text.Characters

/-!
# Reading patterns

A pattern is written as a text. Options say how the text is to be read; they can be changed in the
midst of it. With one of them white space and comments between the signs do not count. A reader of
patterns goes through the text and fails where it finds something that is no pattern.

## Main definitions

* `Options` — how a text is read as a pattern, and `Options.change?`.
* `PatternReader` — goes through the text of a pattern, and its steps.
-/

namespace IndexedMesh.Pattern

open Text (CharClass)

/-! ## Options -/

/-- How a text is read as a pattern. -/
structure Options where
  /-- letters count in either case -/
  anyCase : Bool := false
  /-- the starts and ends of lines count, and not only those of the text -/
  lines : Bool := false
  /-- a dot stands for a line feed too -/
  dotAll : Bool := false
  /-- a repetition is reluctant, and eager with a question mark -/
  reluctant : Bool := false
  /-- classes are sets of characters; otherwise of bytes, and then they may only hold those of
  ASCII characters -/
  characters : Bool := true
  /-- a carriage return is as good as a line feed -/
  returns : Bool := false
  /-- white space and comments do not count -/
  spaced : Bool := false
deriving DecidableEq

/-- Turns the option of some letter on or off. -/
def Options.turn? (on : Bool) (o : Options) : Char → Option Options
  | 'i' => some { o with anyCase := on }
  | 'm' => some { o with lines := on }
  | 's' => some { o with dotAll := on }
  | 'U' => some { o with reluctant := on }
  | 'u' => some { o with characters := on }
  | 'R' => some { o with returns := on }
  | 'x' => some { o with spaced := on }
  | _ => none

/-- Changes options by their letters: those before a hyphen are turned on and those behind it off.
No letter may come twice, and a hyphen has to be followed by one. -/
def Options.change? (o : Options) (letters : List Char) : Option Options :=
  if !decide letters.Nodup || letters.getLast? = some '-' then none
  else do
    let o ← (letters.takeWhile (· ≠ '-')).foldlM (turn? true) o
    ((letters.dropWhile (· ≠ '-')).drop 1).foldlM (turn? false) o

/-- The greatest code that can be in a class. -/
def Options.greatestCode (o : Options) : Nat :=
  if o.characters then CharClass.greatestCode else 0xff

/-! ## Readers -/

/-- A place in the text of a pattern. -/
structure PatternCursor where
  /-- what follows -/
  rest : List Char
  /-- the names of the groups up to here -/
  names : List String := []

/-- Goes through the text of a pattern. -/
abbrev PatternReader := StateT PatternCursor Option

namespace PatternReader

/-- What follows. -/
def rest : PatternReader (List Char) := return (← get).rest

/-- Goes on to some place. -/
def goTo (rest : List Char) : PatternReader Unit := modify ({ · with rest })

/-- Goes past a character. -/
def next : PatternReader Char := do
  match ← rest with
  | c :: rest => goTo rest; return c
  | [] => failure

/-- Goes past a character if it comes next. Returns whether it did. -/
def skipIf (mark : Char) : PatternReader Bool := do
  match ← rest with
  | c :: rest => if c = mark then goTo rest; return true else return false
  | [] => return false

end PatternReader

/-- A text without the white space and the comments at its front. A comment starts with a hash
mark and goes up to the end of the line. -/
def withoutSpace (inComment : Bool) : List Char → List Char
  | [] => []
  | c :: rest =>
    if inComment then withoutSpace (c ≠ '\n') rest
    else if Text.isBlank c then withoutSpace false rest
    else if c = '#' then withoutSpace true rest
    else c :: rest

/-- Goes past white space and comments, if they do not count. -/
def skipSpace (o : Options) : PatternReader Unit := do
  if o.spaced then PatternReader.goTo (withoutSpace false (← PatternReader.rest))

end IndexedMesh.Pattern
