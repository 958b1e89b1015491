import IndexedMesh.Json.Format

/-!
# What vertices are made of

Positions and normals have three components, colors four, and texture coordinates two. All are
written as arrays of exactly that many numbers.

Two values are compared in two ways. Equality of the types is identity: every bit is the same, up
to the sign and the payload of what is not a number, of which `Float32` has but one. So whatever is
said to stay as it is bit for bit stays so up to these. The Boolean test `==` is numerical:
component by component, zeros of either sign are equal, and what is not a number equals nothing,
itself included.

## Main definitions

* `Vec3`, with `Position` and `Normal` — three components.
* `Rgba`, `Texcoord` — colors and texture coordinates.
* `Position.format`, `Rgba.format`, `Texcoord.format` — their written forms.
-/

namespace IndexedMesh

/-- A point or a direction in space. -/
structure Vec3 (α : Type) where
  x : α
  y : α
  z : α
deriving DecidableEq

/-- Where a vertex lies. -/
abbrev Position := Vec3 Float32

/-- Which way the surface faces at a vertex. -/
abbrev Normal := Vec3 Float32

/-- A color with its opacity. -/
structure Rgba where
  red : Float32
  green : Float32
  blue : Float32
  alpha : Float32
deriving DecidableEq

/-- Where a vertex lies on a texture. -/
structure Texcoord where
  u : Float32
  v : Float32
deriving DecidableEq

namespace Vec3

variable {α : Type}

instance [BEq α] : BEq (Vec3 α) := ⟨fun a b => a.x == b.x && (a.y == b.y && a.z == b.z)⟩

/-- The same function of each component. -/
def map {β : Type} (f : α → β) (a : Vec3 α) : Vec3 β := ⟨f a.x, f a.y, f a.z⟩

/-- The same function of each two components. -/
def zipWith {β γ : Type} (f : α → β → γ) (a : Vec3 α) (b : Vec3 β) : Vec3 γ :=
  ⟨f a.x b.x, f a.y b.y, f a.z b.z⟩

/-- The same value in each component. -/
def diagonal (a : α) : Vec3 α := ⟨a, a, a⟩

end Vec3

instance : BEq Rgba :=
  ⟨fun a b => a.red == b.red && (a.green == b.green && (a.blue == b.blue && a.alpha == b.alpha))⟩

instance : BEq Texcoord := ⟨fun a b => a.u == b.u && a.v == b.v⟩

/-- The origin, which is also the direction of no length. -/
def Vec3.zero : Vec3 Float32 := .diagonal 0

/-! ## Written forms -/

open Json

/-- An array of three numbers. -/
def Position.format : Format Position where
  read := do
    openArray
    let x ← item true Format.float32.read
    let y ← item false Format.float32.read
    let z ← item false Format.float32.read
    lastItem Format.float32.read
    return ⟨x, y, z⟩
  write p := .array [Format.float32.write p.x, Format.float32.write p.y, Format.float32.write p.z]

/-- An array of four numbers. -/
def Rgba.format : Format Rgba where
  read := do
    openArray
    let red ← item true Format.float32.read
    let green ← item false Format.float32.read
    let blue ← item false Format.float32.read
    let alpha ← item false Format.float32.read
    lastItem Format.float32.read
    return ⟨red, green, blue, alpha⟩
  write c := .array [Format.float32.write c.red, Format.float32.write c.green,
    Format.float32.write c.blue, Format.float32.write c.alpha]

/-- An array of two numbers. -/
def Texcoord.format : Format Texcoord where
  read := do
    openArray
    let u ← item true Format.float32.read
    let v ← item false Format.float32.read
    lastItem Format.float32.read
    return ⟨u, v⟩
  write t := .array [Format.float32.write t.u, Format.float32.write t.v]

end IndexedMesh
