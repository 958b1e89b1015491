import IndexedMesh.Json.Format

/-!
# Alternatives

A value of one of several named kinds is written as an object with a single member, whose name is
the kind and whose value is what the kind carries. A kind that carries nothing is written as its
name alone; it is read in both forms, with a null in the place of the value.

## Main definitions

* `Alternative` — a kind of value.
* `Format.oneOf` — the format of a type with several kinds of values.
-/

namespace IndexedMesh.Json

/-- One kind of value. -/
inductive Alternative (α : Type)
  /-- a kind with a single value -/
  | bare (value : α)
  /-- a kind whose values carry more -/
  | carrying (read : Reader α)

/-- A null. -/
def readNull : Reader Unit := do
  if (← peek) = 'n' then
    advance
    word ['u', 'l', 'l']
  else mismatched

/-- The kind that is named next. Where anything else stands, the text is not JSON. -/
def readKind {α : Type} (kinds : List (String × Alternative α)) : Reader (Alternative α) := do
  if (← peek) ≠ '"' then throw .malformed
  else
    let name ← readQuoted
    match kinds.find? fun kind => name = kind.1.toList with
    | some kind => return kind.2
    | none => throw .mismatch

/-- Reads a value of one of the kinds. -/
def readOneOf {α : Type} (kinds : List (String × Alternative α)) : Reader α := do
  match ← peek with
  | '{' =>
    advance
    let kind ← readKind kinds
    expect ':'
    let value ← match kind with
      | .bare value => (fun _ => value) <$> readNull
      | .carrying read => read
    expect '}'
    return value
  | '"' =>
    match ← readKind kinds with
    | .bare value => return value
    | .carrying _ => throw .mismatch
  | _ => throw .malformed

/-- Writes the name of a kind and what the value carries. -/
def writeOneOf (name : String) (carried : Option Written) : Written :=
  match carried with
  | none => .plain (writeText name.toList)
  | some value => .object [(writeText name.toList, value)]

/-- The format of a type with the given kinds of values. -/
def Format.oneOf {α : Type} (kinds : List (String × Alternative α))
    (carried : α → String × Option Written) : Format α where
  read := readOneOf kinds
  write value := writeOneOf (carried value).1 (carried value).2

end IndexedMesh.Json
