/-!
# Layout of written values

A value is written either without any blanks, or with each part of an array or object on a line
of its own, two blanks further in than what encloses it. Both come from one description of the
value: its text as a function of the layout at the place where it stands.

## Main definitions

* `Layout` — the two layouts, with the depth of the place.
* `Written` — the text of a value in any layout.
* `Written.array`, `Written.object` — the text of a value that has parts.
-/

namespace IndexedMesh.Json

/-- How the parts of a value are set apart. -/
inductive Layout
  | compact
  | indented (depth : Nat)
deriving DecidableEq

/-- The layout of the parts of a value. -/
def Layout.inside : Layout → Layout
  | .compact => .compact
  | .indented depth => .indented (depth + 1)

/-- What stands before a part, and before the closing bracket. -/
def Layout.lineBreak : Layout → List Char
  | .compact => []
  | .indented depth => '\n' :: List.replicate (2 * depth) ' '

/-- What stands between the name of a member and its value. -/
def Layout.colon : Layout → List Char
  | .compact => [':']
  | .indented _ => [':', ' ']

/-- The text of a value in each layout. -/
abbrev Written := Layout → List Char

/-- A text that has no parts and is the same in every layout. -/
def Written.plain (text : List Char) : Written := fun _ => text

/-- Parts between brackets, with commas between them. -/
def Written.bracketed (opening closing : Char) (parts : List Written) : Written := fun layout =>
  match parts with
  | [] => [opening, closing]
  | first :: others =>
    let inside := layout.inside
    let part (p : Written) : List Char := inside.lineBreak ++ p inside
    opening :: (part first ++
      (others.flatMap (fun p => ',' :: part p) ++ (layout.lineBreak ++ [closing])))

/-- An array. -/
def Written.array (items : List Written) : Written := Written.bracketed '[' ']' items

/-- The quoted name of a member, and its value. -/
def Written.member (name : List Char) (value : Written) : Written := fun layout =>
  name ++ (layout.colon ++ value layout)

/-- An object. The names are quoted already. -/
def Written.object (members : List (List Char × Written)) : Written :=
  Written.bracketed '{' '}' (members.map fun (name, value) => Written.member name value)

end IndexedMesh.Json
