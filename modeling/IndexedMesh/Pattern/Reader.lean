import IndexedMesh.Pattern.Bracket
import IndexedMesh.Text.Alphanumeric

/-!
# Texts as patterns

A pattern is written as a row of signs, dots, classes in brackets and groups. A group is put in
round brackets and holds patterns with bars between them. Behind a part of a row there may be a
mark that says how often it comes: an asterisk, a plus sign or a question mark. A hat and a dollar
stand for the start and the end.

Behind its opening bracket a group may have a name or change the options for what is in it. Round
brackets may also hold nothing but a change of the options for the rest of the group around them.

An opening curly bracket would count how often something comes, and no text with such a count is
read as a pattern here.

## Main definitions

* `Group` — a group that is being read.
* `Pattern.parse?` — reads a pattern.
-/

namespace IndexedMesh.Pattern

/-! ## Groups that are being read -/

/-- A group whose closing bracket has not come yet. -/
structure Group where
  /-- the options around it -/
  around : Options
  /-- its patterns before the last bar, the last one first -/
  branches : List (Nested Pattern) := []
  /-- the row behind the last bar, with its last part first; a change of options is no pattern -/
  row : List (Option (Nested Pattern)) := []

namespace Group

/-- A group with another part in its row. -/
def add (g : Group) (part : Nested Pattern) : Group := { g with row := some part :: g.row }

/-- A group with a change of options in its row. -/
def addChange (g : Group) : Group := { g with row := none :: g.row }

/-- The pattern of a row. -/
def rowPattern (g : Group) : Nested Pattern :=
  let parts := g.row.map fun part => part.getD ⟨nothing, 0⟩
  Nested.ofRow (fun parts => parts.foldr Pattern.followedBy nothing) parts

/-- A group with a bar behind its row. -/
def nextBranch (g : Group) : Group := { g with branches := g.rowPattern :: g.branches, row := [] }

/-- One of several patterns, of which the first is preferred. -/
def anyOf : List Pattern → Pattern
  | [] => nothing
  | [pattern] => pattern
  | pattern :: others => either pattern (anyOf others)

/-- The pattern of a group. -/
def pattern (g : Group) : Nested Pattern := Nested.ofRow anyOf (g.rowPattern :: g.branches)

/-- A group whose last part comes more or less than once. There has to be one. -/
def repeatLast? (g : Group) (f : Pattern → Pattern) : Option Group :=
  match g.row with
  | some part :: row => some { g with row := some (part.around f) :: row }
  | _ => none

end Group

/-! ## Parts of a row -/

/-- What a mark behind a pattern makes of it. -/
def repetition (eager : Bool) (mark : Char) (pattern : Pattern) : Pattern :=
  if mark = '+' then repeated eager pattern
  else if mark = '?' then optional eager pattern
  else optional eager (repeated eager pattern)

/-- Reads the first part of a row that starts with some character, behind it. -/
def readPart (o : Options) : (first : Char) → PatternReader (Nested Pattern)
  | '[' => return (← readBracket o).map one
  | '\\' => do
    let sign ← readEscape o
    return ⟨← signPattern? o sign, 0⟩
  | '.' => return ⟨← dotPattern? o, 0⟩
  | '^' => return ⟨startPattern o, 0⟩
  | '$' => return ⟨endPattern o, 0⟩
  | c => return ⟨← charPattern? o c, 0⟩

/-! ## Opening brackets -/

/-- Whether a text can be the name of a group. -/
def isGroupName : List Char → Bool
  | [] => false
  | first :: more =>
    (first = '_' || Text.isAlphabetic first) &&
      more.all fun c => ['_', '.', '[', ']'].contains c || Text.isAlphanumeric c

/-- Reads the name of a group and the mark behind it. No two groups may have the same name. -/
def readGroupName (text : List Char) : PatternReader Unit := do
  let name := text.takeWhile (· ≠ '>')
  let { names, .. } ← get
  match text.dropWhile (· ≠ '>') with
  | _ :: rest =>
    if !isGroupName name || names.contains (String.ofList name) then failure
    else set ({ rest, names := String.ofList name :: names } : PatternCursor)
  | [] => failure

/-- Reads a change of options and the mark behind it. Returns the options and the mark. -/
def readChange (o : Options) (text : List Char) : PatternReader (Options × Char) := do
  let letters := text.takeWhile fun c => c ≠ ':' && c ≠ ')'
  match text.dropWhile fun c => c ≠ ':' && c ≠ ')' with
  | mark :: rest =>
    if mark = ')' && letters.isEmpty then failure
    else
      PatternReader.goTo rest
      return (← o.change? letters, mark)
  | [] => failure

/-- Reads what is behind an opening bracket and says how the group is to be read. Returns the
options from there on, and the mark that ends their change. -/
def readOpening (o : Options) : PatternReader (Options × Char) := do
  skipSpace o
  match ← PatternReader.rest with
  | '?' :: 'P' :: '<' :: text => readGroupName text; return (o, ':')
  | '?' :: '<' :: text => readGroupName text; return (o, ':')
  | '?' :: text => readChange o text
  | _ => return (o, ':')

/-! ## Whole patterns -/

/-- Reads a pattern up to the end of the text. The groups around the present place are on a stack,
and the text itself bounds the number of steps. -/
def readGroup : (bound : List Char) → Options → Group → List Group →
    PatternReader (Nested Pattern)
  | [], _, g, outer => if outer.isEmpty then return g.pattern else failure
  | _ :: bound, o, g, outer => do
    skipSpace o
    match ← PatternReader.rest with
    | [] => if outer.isEmpty then return g.pattern else failure
    | c :: rest =>
      PatternReader.goTo rest
      if c = '(' then
        match ← readOpening o with
        | (changed, ')') => readGroup bound changed g.addChange outer
        | (changed, _) => readGroup bound changed { around := o } (g :: outer)
      else if c = ')' then
        match outer with
        | [] => failure
        | around :: outer => readGroup bound g.around (around.add (g.pattern.around id)) outer
      else if c = '|' then readGroup bound o g.nextBranch outer
      else if c = '*' || c = '+' || c = '?' then
        let eager := (← PatternReader.skipIf '?') = o.reluctant
        readGroup bound o (← g.repeatLast? (repetition eager c)) outer
      else if c = '\x7b' then failure
      else readGroup bound o (g.add (← readPart o c)) outer

/-- Reads a text as a pattern. -/
def parse? (text : String) : Option Pattern := do
  let rest := text.toList
  let { value, depth } ← (readGroup rest {} { around := {} } []).run' { rest }
  if depth ≤ greatestDepth then some value else none

end IndexedMesh.Pattern
