import Mathlib
import IndexedMesh.Proofs.VertexEntries

/-!
# Numerical equality of vertices

Vertices are compared by numerical equality, channel by channel. That test is symmetric and
transitive but not reflexive: what is not a number equals nothing, itself included. So the
vertices of a mesh fall into groups of equal ones, and beside them stand the vertices with a
component that is not a number, each for itself.

The symmetry and transitivity of the floating-point test are those of the library. They come from
one fact: it accepts two values exactly if both are the same number, or zeros of either sign.

## Main results

* `float32_beq_self_iff` — a value equals itself exactly if it is a number.
* `VertexEntries.equals`, `VertexEntries.hasNaN` — equality of rows, and what breaks reflexivity.
* `VertexEntries.equals_symm`, `VertexEntries.equals_trans`, `VertexEntries.equals_self_iff`.
* `VertexArrays.same?_eq` — the comparison that stops at the first difference answers whether the
  two rows are equal in all channels.
-/

namespace IndexedMesh

/-! ## Floating-point numbers -/

/-- **A value equals itself exactly if it is a number.** -/
theorem float32_beq_self_iff (x : Float32) : (x == x) = true ↔ x.isNaN = false := by
  rw [Float32.beq_self_iff, Float32.isNaN_eq_decide_eq_nan, decide_eq_false_iff_not]

/-! ## Entries of one channel -/

/-- Whether a component is not a number. -/
def Vec3.hasNaN (p : Vec3 Float32) : Bool := p.x.isNaN || p.y.isNaN || p.z.isNaN

/-- Whether a component is not a number. -/
def Rgba.hasNaN (c : Rgba) : Bool :=
  c.red.isNaN || c.green.isNaN || c.blue.isNaN || c.alpha.isNaN

/-- Whether a component is not a number. -/
def Texcoord.hasNaN (uv : Texcoord) : Bool := uv.u.isNaN || uv.v.isNaN

theorem Vec3.beq_iff {α : Type} [BEq α] (p q : Vec3 α) :
    (p == q) = true ↔ (p.x == q.x) = true ∧ (p.y == q.y) = true ∧ (p.z == q.z) = true := by
  show (p.x == q.x && (p.y == q.y && p.z == q.z)) = true ↔ _
  simp only [Bool.and_eq_true]

theorem Rgba.beq_iff (c d : Rgba) :
    (c == d) = true ↔ (c.red == d.red) = true ∧ (c.green == d.green) = true ∧
      (c.blue == d.blue) = true ∧ (c.alpha == d.alpha) = true := by
  show (c.red == d.red && (c.green == d.green && (c.blue == d.blue && c.alpha == d.alpha))) =
    true ↔ _
  simp only [Bool.and_eq_true]

theorem Texcoord.beq_iff (a b : Texcoord) :
    (a == b) = true ↔ (a.u == b.u) = true ∧ (a.v == b.v) = true := by
  show (a.u == b.u && a.v == b.v) = true ↔ _
  simp only [Bool.and_eq_true]

instance {α : Type} [BEq α] [PartialEquivBEq α] : PartialEquivBEq (Vec3 α) where
  symm {p q} h := by
    obtain ⟨hx, hy, hz⟩ := (Vec3.beq_iff p q).1 h
    exact (Vec3.beq_iff q p).2
      ⟨PartialEquivBEq.symm hx, PartialEquivBEq.symm hy, PartialEquivBEq.symm hz⟩
  trans {p q r} h h' := by
    obtain ⟨hx, hy, hz⟩ := (Vec3.beq_iff p q).1 h
    obtain ⟨hx', hy', hz'⟩ := (Vec3.beq_iff q r).1 h'
    exact (Vec3.beq_iff p r).2
      ⟨PartialEquivBEq.trans hx hx', PartialEquivBEq.trans hy hy', PartialEquivBEq.trans hz hz'⟩

instance : PartialEquivBEq Rgba where
  symm {c d} h := by
    obtain ⟨hr, hg, hb, ha⟩ := (Rgba.beq_iff c d).1 h
    exact (Rgba.beq_iff d c).2 ⟨PartialEquivBEq.symm hr, PartialEquivBEq.symm hg,
      PartialEquivBEq.symm hb, PartialEquivBEq.symm ha⟩
  trans {c d e} h h' := by
    obtain ⟨hr, hg, hb, ha⟩ := (Rgba.beq_iff c d).1 h
    obtain ⟨hr', hg', hb', ha'⟩ := (Rgba.beq_iff d e).1 h'
    exact (Rgba.beq_iff c e).2 ⟨PartialEquivBEq.trans hr hr', PartialEquivBEq.trans hg hg',
      PartialEquivBEq.trans hb hb', PartialEquivBEq.trans ha ha'⟩

instance : PartialEquivBEq Texcoord where
  symm {a b} h := by
    obtain ⟨hu, hv⟩ := (Texcoord.beq_iff a b).1 h
    exact (Texcoord.beq_iff b a).2 ⟨PartialEquivBEq.symm hu, PartialEquivBEq.symm hv⟩
  trans {a b c} h h' := by
    obtain ⟨hu, hv⟩ := (Texcoord.beq_iff a b).1 h
    obtain ⟨hu', hv'⟩ := (Texcoord.beq_iff b c).1 h'
    exact (Texcoord.beq_iff a c).2 ⟨PartialEquivBEq.trans hu hu', PartialEquivBEq.trans hv hv'⟩

theorem Vec3.beq_self_iff (p : Vec3 Float32) : (p == p) = true ↔ p.hasNaN = false := by
  simp only [Vec3.beq_iff, float32_beq_self_iff, Vec3.hasNaN, Bool.or_eq_false_iff, and_assoc]

theorem Rgba.beq_self_iff (c : Rgba) : (c == c) = true ↔ c.hasNaN = false := by
  simp only [Rgba.beq_iff, float32_beq_self_iff, Rgba.hasNaN, Bool.or_eq_false_iff, and_assoc]

theorem Texcoord.beq_self_iff (uv : Texcoord) : (uv == uv) = true ↔ uv.hasNaN = false := by
  simp only [Texcoord.beq_iff, float32_beq_self_iff, Texcoord.hasNaN, Bool.or_eq_false_iff]

/-! ## Rows -/

/-- Whether two entries are equal. An entry that is absent equals only another such. -/
def equalEntries {α : Type} [BEq α] : Option α → Option α → Bool
  | none, none => true
  | some x, some y => x == y
  | _, _ => false

/-- Whether the entries of two rows are equal in all sets. -/
def equalSets : List (Option Texcoord) → List (Option Texcoord) → Bool
  | [], [] => true
  | x :: xs, y :: ys => equalEntries x y && equalSets xs ys
  | _, _ => false

section Entries

variable {α : Type} [BEq α] [PartialEquivBEq α]

theorem equalEntries_symm {x y : Option α} (h : equalEntries x y = true) :
    equalEntries y x = true := by
  cases x <;> cases y
  case none.none => rfl
  case some.some a b => exact PartialEquivBEq.symm (α := α) h
  all_goals cases h

theorem equalEntries_trans {x y z : Option α} (hxy : equalEntries x y = true)
    (hyz : equalEntries y z = true) : equalEntries x z = true := by
  cases x <;> cases y
  case none.none => exact hyz
  case some.some a b =>
    cases z with
    | none => cases hyz
    | some c => exact PartialEquivBEq.trans (α := α) hxy hyz
  all_goals cases hxy

end Entries

theorem equalSets_symm : ∀ {xs ys : List (Option Texcoord)},
    equalSets xs ys = true → equalSets ys xs = true := by
  intro xs
  induction xs with
  | nil =>
      intro ys h
      cases ys with
      | nil => rfl
      | cons y ys => cases h
  | cons x xs ih =>
      intro ys h
      cases ys with
      | nil => cases h
      | cons y ys =>
          obtain ⟨hHead, hTail⟩ := Bool.and_eq_true_iff.1 h
          exact Bool.and_eq_true_iff.2 ⟨equalEntries_symm hHead, ih hTail⟩

theorem equalSets_trans : ∀ {xs ys zs : List (Option Texcoord)},
    equalSets xs ys = true → equalSets ys zs = true → equalSets xs zs = true := by
  intro xs
  induction xs with
  | nil =>
      intro ys zs h h'
      cases ys with
      | nil => exact h'
      | cons y ys => cases h
  | cons x xs ih =>
      intro ys zs h h'
      cases ys with
      | nil => cases h
      | cons y ys =>
          cases zs with
          | nil => cases h'
          | cons z zs =>
              obtain ⟨hHead, hTail⟩ := Bool.and_eq_true_iff.1 h
              obtain ⟨hHead', hTail'⟩ := Bool.and_eq_true_iff.1 h'
              exact Bool.and_eq_true_iff.2
                ⟨equalEntries_trans hHead hHead', ih hTail hTail'⟩

namespace VertexEntries

/-- Whether two rows are equal in every channel. -/
def equals (v w : VertexEntries) : Bool :=
  equalEntries v.position w.position && (equalEntries v.normal w.normal &&
    (equalEntries v.color w.color && equalSets v.texcoords w.texcoords))

/-- Whether some entry has a component that is not a number. -/
def hasNaN (v : VertexEntries) : Bool :=
  v.position.any Vec3.hasNaN || v.normal.any Vec3.hasNaN || v.color.any Rgba.hasNaN ||
    v.texcoords.any (·.any Texcoord.hasNaN)

theorem equals_iff (v w : VertexEntries) :
    v.equals w = true ↔
      equalEntries v.position w.position = true ∧ equalEntries v.normal w.normal = true ∧
        equalEntries v.color w.color = true ∧ equalSets v.texcoords w.texcoords = true := by
  simp only [equals, Bool.and_eq_true]

theorem equals_symm {v w : VertexEntries} (h : v.equals w = true) : w.equals v = true := by
  obtain ⟨hPosition, hNormal, hColor, hTexcoords⟩ := (equals_iff v w).1 h
  exact (equals_iff w v).2 ⟨equalEntries_symm hPosition, equalEntries_symm hNormal,
    equalEntries_symm hColor, equalSets_symm hTexcoords⟩

theorem equals_trans {u v w : VertexEntries} (huv : u.equals v = true)
    (hvw : v.equals w = true) : u.equals w = true := by
  obtain ⟨hPosition, hNormal, hColor, hTexcoords⟩ := (equals_iff u v).1 huv
  obtain ⟨hPosition', hNormal', hColor', hTexcoords'⟩ := (equals_iff v w).1 hvw
  exact (equals_iff u w).2 ⟨equalEntries_trans hPosition hPosition',
    equalEntries_trans hNormal hNormal', equalEntries_trans hColor hColor',
    equalSets_trans hTexcoords hTexcoords'⟩

private theorem equalEntries_self_iff {α : Type} [BEq α] {hasNaN : α → Bool}
    (hSelf : ∀ a, (a == a) = true ↔ hasNaN a = false) (x : Option α) :
    equalEntries x x = true ↔ x.any hasNaN = false := by
  cases x with
  | none => simp [equalEntries]
  | some a => simpa [equalEntries] using hSelf a

private theorem equalSets_self_iff (xs : List (Option Texcoord)) :
    equalSets xs xs = true ↔ xs.any (·.any Texcoord.hasNaN) = false := by
  induction xs with
  | nil => simp [equalSets]
  | cons x xs ih =>
      rw [equalSets, Bool.and_eq_true, ih, equalEntries_self_iff Texcoord.beq_self_iff,
        List.any_cons, Bool.or_eq_false_iff]

/-- **A row equals itself exactly if all its components are numbers.** -/
theorem equals_self_iff (v : VertexEntries) : v.equals v = true ↔ v.hasNaN = false := by
  rw [equals_iff, equalEntries_self_iff Vec3.beq_self_iff, equalEntries_self_iff Vec3.beq_self_iff,
    equalEntries_self_iff Rgba.beq_self_iff, equalSets_self_iff]
  simp only [hasNaN, Bool.or_eq_false_iff, and_assoc]

/-- A row that equals any row at all has no component that is not a number. -/
theorem hasNaN_eq_false_of_equals {v w : VertexEntries} (h : v.equals w = true) :
    v.hasNaN = false :=
  (equals_self_iff v).1 (equals_trans h (equals_symm h))

end VertexEntries

/-! ## The comparison that stops at the first difference -/

namespace VertexArrays

theorem equalAt?_eq {α : Type} [BEq α] {items : Array α} {a b : Nat} (ha : a < items.size)
    (hb : b < items.size) : equalAt? items a b = some (equalEntries items[a]? items[b]?) := by
  rw [equalAt?, Array.getElem?_eq_getElem ha, Array.getElem?_eq_getElem hb]
  rfl

theorem equalIfPresent?_eq {α : Type} [BEq α] {items : Array α} {size a b : Nat}
    (h : Spans items size) (ha : a < size) (hb : b < size) :
    equalIfPresent? items a b = some (equalEntries items[a]? items[b]?) := by
  unfold equalIfPresent?
  rcases h with h0 | hSize
  · have hItems : items = #[] := Array.size_eq_zero_iff.1 h0
    subst hItems
    rfl
  · have hPresent : ¬ items.isEmpty = true := by
      rw [Array.isEmpty_iff_size_eq_zero]
      omega
    rw [if_neg hPresent]
    exact equalAt?_eq (by omega) (by omega)

theorem equalInSets?_eq {size a b : Nat} (ha : a < size) (hb : b < size) :
    ∀ sets : List (Array Texcoord), (∀ set ∈ sets, Spans set size) →
      equalInSets? a b sets = some (equalSets (sets.map (·[a]?)) (sets.map (·[b]?))) := by
  intro sets
  induction sets with
  | nil => intro _; rfl
  | cons set sets ih =>
      intro h
      have hHead := equalIfPresent?_eq (h set (by simp)) ha hb
      have hTail := ih fun other hOther => h other (by simp [hOther])
      rw [equalInSets?, hHead, List.map_cons, List.map_cons, equalSets]
      cases hEqual : equalEntries set[a]? set[b]? with
      | false => rfl
      | true => exact hTail

/-- **The comparison answers whether two rows are equal**, on aligned arrays. -/
theorem same?_eq {arrays : VertexArrays} (hAligned : arrays.Aligned) {a b : Nat}
    (ha : a < arrays.size) (hb : b < arrays.size) :
    arrays.same? a b = some ((arrays.entries a).equals (arrays.entries b)) := by
  have hPositions : equalAt? arrays.positions a b =
      some (equalEntries arrays.positions[a]? arrays.positions[b]?) := equalAt?_eq ha hb
  have hNormals := equalIfPresent?_eq hAligned.normals ha hb
  have hColors := equalIfPresent?_eq hAligned.colors ha hb
  have hSets := equalInSets?_eq ha hb arrays.texcoords hAligned.texcoords
  rw [same?, hPositions, hNormals, hColors, hSets]
  simp only [VertexEntries.equals, entries]
  -- One case for each channel that may be the first difference.
  cases equalEntries arrays.positions[a]? arrays.positions[b]? with
  | false => rfl
  | true =>
      cases equalEntries arrays.normals[a]? arrays.normals[b]? with
      | false => rfl
      | true => cases equalEntries arrays.colors[a]? arrays.colors[b]? <;> rfl

end VertexArrays

end IndexedMesh
