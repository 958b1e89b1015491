import IndexedMesh.Json.Format

/-!
# Records

A record is written as an object whose members have fixed names, in a fixed order. It is read from
an object with its members in any order, where members of other names are skipped and a name may
not come twice, or from an array of the members' values in their order.

The members of a record are described by a list that is typed by their values, so that the same
description reads, writes, and tells which values are still to come.

## Main definitions

* `Member` — name and format of one member.
* `Members` — the members of a record.
* `Format.record` — the format of the tuple of the members' values.
-/

namespace IndexedMesh.Json

/-- One member of a record. -/
structure Member (α : Type) where
  name : String
  format : Format α
  /-- the value of a member that is missing, if one may be -/
  missing : Option α := none
  /-- which values are left out when the record is written -/
  omits : α → Bool := fun _ => false

/-- A member that may not be missing. -/
def Member.required {α : Type} (name : String) (format : Format α) : Member α where
  name := name
  format := format

/-- A member that is a value or null, and null if it is missing. -/
def Member.optional {α : Type} (name : String) (format : Format α) : Member (Option α) where
  name := name
  format := format.optional
  missing := some none

/-- The members of a record, typed by the tuple of their values. -/
inductive Members : Type → Type 1
  | nil : Members Unit
  | cons {α β : Type} (first : Member α) (others : Members β) : Members (α × β)

namespace Members

/-- The values of the members, as far as they have been read. -/
def Found : {τ : Type} → Members τ → Type
  | _, .nil => Unit
  | _, @cons α _ _ others => Option α × others.Found

/-- No values yet. -/
def nothing : {τ : Type} → (members : Members τ) → members.Found
  | _, .nil => ()
  | _, .cons _ others => (none, others.nothing)

/-- The values of all members, if none is wanting. -/
def all? : {τ : Type} → (members : Members τ) → members.Found → Option τ
  | _, .nil, _ => some ()
  | _, @cons α _ first others, found =>
    let (value, values) : Option α × others.Found := found
    match value.or first.missing, others.all? values with
    | some a, some as => some (a, as)
    | _, _ => none

/-- How to go on after the name of a member: its value is read, unless it has one. Nothing if no
member has this name. -/
def readNamed? (name : List Char) :
    {τ : Type} → (members : Members τ) → members.Found → Option (Reader members.Found)
  | _, .nil, _ => none
  | _, @cons α _ first others, found =>
    let (value, values) : Option α × others.Found := found
    if name = first.name.toList then
      some do
        if value.isSome then throw .mismatch
        expect ':'
        let a ← first.format.read
        return (some a, values)
    else
      (others.readNamed? name values).map fun rest => do
        let values ← rest
        return (value, values)

/-! ## Reading an object -/

/-- Whether another member follows, and if so goes past the comma before it and past the quote
that opens its name. The closing bracket is left in place. -/
def anotherMember (isFirst : Bool) : Reader Bool := do
  let c ← peek
  if c = '}' then return false
  if !isFirst then
    if c = ',' then advance else throw .malformed
  if (← peek) = '"' then
    advance
    return true
  else throw .malformed

/-- The remaining members of an object. The text itself bounds their number: each takes at least
one character, so where the bound is used up the text is too. -/
def readMembers {τ : Type} (members : Members τ) :
    (bound : List Char) → Bool → members.Found → Reader members.Found
  | [], _, _ => throw .truncated
  | _ :: bound, isFirst, found => do
    if ← anotherMember isFirst then
      let name ← readText []
      match members.readNamed? name found with
      | some next => readMembers members bound false (← next)
      | none =>
        expect ':'
        skipValue
        readMembers members bound false found
    else return found

/-- The members of an object, from after its opening bracket. -/
def readObject {τ : Type} (members : Members τ) : Reader τ := do
  let found ← members.readMembers (← get) true members.nothing
  match members.all? found with
  | some values =>
    advance
    return values
  | none => throw .mismatch

/-! ## Reading an array -/

/-- The values of the members in their order. -/
def readValues : {τ : Type} → Members τ → Bool → Reader τ
  | _, .nil, _ => return ()
  | _, .cons first others, isFirst => do
    let a ← item isFirst first.format.read
    return (a, ← others.readValues false)

/-- The values of the members in their order, from after the opening bracket. -/
def readArray {τ : Type} (members : Members τ) : Reader τ := do
  let values ← members.readValues true
  expect ']'
  return values

/-! ## Writing -/

/-- Names and values of the members that are not left out. -/
def written : {τ : Type} → Members τ → τ → List (List Char × Written)
  | _, .nil, _ => []
  | _, .cons first others, (a, as) =>
    if first.omits a then others.written as
    else (writeText first.name.toList, first.format.write a) :: others.written as

end Members

/-- The format of a record. -/
def Format.record {τ : Type} (members : Members τ) : Format τ where
  read := do
    match ← peek with
    | '{' => advance; members.readObject
    | '[' => advance; members.readArray
    | _ => mismatched
  write values := .object (members.written values)

end IndexedMesh.Json
