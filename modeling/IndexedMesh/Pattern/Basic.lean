import IndexedMesh.Text.CharClass

/-!
# Patterns

A pattern describes texts. It can be found at several places of a text and at each of them in
several ways, which come in an order of preference: the first of two alternatives comes before the
second, and where something may be repeated an eager pattern prefers one more time and a reluctant
one prefers to stop.

A way to go on with a pattern at some place is called a head: the pattern is finished there, or it
takes one character and leaves another pattern. A text is gone through once with all ways at a
time, in the order of preference, so a pattern never goes back. A repetition that has taken
nothing is not repeated again, so there are finitely many heads at every place.

## Main definitions

* `Boundary` — what can be asked of the place between two characters.
* `Pattern` — the patterns.
* `Pattern.heads` — how a pattern can go on at a place.
* `Pattern.endsText` — whether a pattern is found at the end of a text.
-/

namespace IndexedMesh

open Text (CharClass)

/-! ## Places between characters -/

/-- What can be asked of the place between two characters. -/
inductive Boundary
  | textStart
  | textEnd
  /-- the start of a line; a carriage return may end a line too -/
  | lineStart (returns : Bool)
  /-- the end of a line; a carriage return may end it too -/
  | lineEnd (returns : Bool)
  /-- a word on one side only -/
  | wordEdge
  /-- a word on both sides or on none -/
  | noWordEdge
  | wordStart
  | wordEnd
deriving DecidableEq

namespace Boundary

/-- Whether a word goes up to a place on the side of some character. -/
def isWord (side : Option Char) : Bool := side.any CharClass.wordChars.has

/-- Whether the place between two characters is such a place. At an end of the text one of the
characters is missing. A line feed behind a carriage return belongs to it. -/
def isBetween (before after : Option Char) : Boundary → Bool
  | textStart => before.isNone
  | textEnd => after.isNone
  | lineStart returns =>
    before.isNone || before = some '\n' ||
      (returns && before = some '\r' && after ≠ some '\n')
  | lineEnd returns =>
    after.isNone || (returns && after = some '\r') ||
      (after = some '\n' && !(returns && before = some '\r'))
  | wordEdge => isWord before ≠ isWord after
  | noWordEdge => isWord before = isWord after
  | wordStart => !isWord before && isWord after
  | wordEnd => isWord before && !isWord after

end Boundary

/-! ## Patterns -/

/-- A description of texts. -/
inductive Pattern
  /-- the text without characters -/
  | nothing
  /-- a character of some class -/
  | one (chars : CharClass)
  /-- no characters, but only at some places -/
  | only (boundary : Boundary)
  /-- one after the other -/
  | seq (first second : Pattern)
  /-- one or the other -/
  | either (first second : Pattern)
  /-- once or not at all -/
  | optional (eager : Bool) (part : Pattern)
  /-- once or several times -/
  | repeated (eager : Bool) (part : Pattern)
  /-- what is left of a repetition behind one of its times: any number of times more -/
  | again (eager : Bool) (part : Pattern)
deriving DecidableEq

namespace Pattern

/-- How a pattern can go on. -/
inductive Head
  /-- it is finished -/
  | done
  /-- it takes a character and goes on as another pattern -/
  | take (chars : CharClass) (rest : Pattern)
deriving DecidableEq

/-- One pattern after another. Nothing is left of a first one that is `nothing`. -/
def followedBy : Pattern → Pattern → Pattern
  | nothing, second => second
  | first, second => seq first second

/-- What is left when a character is taken, if the head takes it. -/
def Head.after? (c : Char) : Head → Option Pattern
  | done => none
  | take chars rest => if chars.has c then some rest else none

/-- A head of a pattern that is followed by another pattern with some heads. -/
def Head.followedBy (second : Pattern) (heads : List Head) : Head → List Head
  | done => heads
  | take chars rest => [take chars (rest.followedBy second)]

/-- Adds the way to stop to some heads: last if the others are preferred to it. -/
def Head.orDone (eager : Bool) (heads : List Head) : List Head :=
  if eager then heads ++ [done] else done :: heads

/-- How a pattern can go on between two characters, in order of preference. A head that comes
again later is left out there. -/
def heads (before after : Option Char) : Pattern → List Head
  | nothing => [.done]
  | one chars => [.take chars nothing]
  | only boundary => if boundary.isBetween before after then [.done] else []
  | seq first second =>
    let next := second.heads before after
    ((first.heads before after).flatMap (Head.followedBy second next)).eraseDups
  | either first second => (first.heads before after ++ second.heads before after).eraseDups
  | optional eager part => (Head.orDone eager (part.heads before after)).eraseDups
  | repeated eager part =>
    ((part.heads before after).flatMap (Head.followedBy (again eager part) [.done])).eraseDups
  | again eager part =>
    let more := (part.heads before after).flatMap (Head.followedBy (again eager part) [])
    (Head.orDone eager more).eraseDups

/-! ## Finding a pattern -/

/-- Any character. -/
def anyChar : Pattern := one (.upTo CharClass.greatestCode)

/-- A pattern behind as few characters as possible. -/
def anywhere (pattern : Pattern) : Pattern :=
  seq (optional false (repeated false anyChar)) pattern

/-- Whether the preferred one of several ways to go on reaches the end of the text. A way that is
finished earlier counts for more than the ways behind it, so these are given up. -/
def reachesEnd (before : Option Char) : List Char → List Pattern → Bool
  | [], ways => (ways.flatMap (heads before none)).contains .done
  | c :: text, ways =>
    let preferred := ((ways.flatMap (heads before (some c))).takeWhile (· ≠ .done)).eraseDups
    reachesEnd (some c) text (preferred.filterMap (·.after? c)).eraseDups

/-- Whether a pattern is found at the end of a text. The place where it is found is the first one
where it can be, and of the ways to find it there the preferred one counts: the end of the text
has to be the end of that one. -/
def endsText (pattern : Pattern) (text : String) : Bool :=
  reachesEnd none text.toList [anywhere pattern]

end Pattern

end IndexedMesh
