import IndexedMesh.Proofs.Index
import IndexedMesh.Proofs.Lists
import IndexedMesh.Proofs.Usage

/-!
# What the scan of the faces tells

The scan for used vertices runs over one row of references, in which the corners of all triangles
stand before the elements of all strips. Here the same is said of the faces themselves: where the
first bad corner or element stands, and which vertices some corner or element names.

The row keeps the order of the triangles and of their corners, and then that of the strips and of
their elements, so a corner or an element is the first bad one of the faces if all that stands
before it in the row is good. The set that is left at the end does not show the order any more: it
depends on the vertices that are named, and on nothing else.

## Main results

* `FacesWithin`, `FirstOutside`, `facesWithin_or_firstOutside` — either all corners and elements are
  vertices, or one of them is the first that is not.
* `usedVertices_eq_of_names` — faces that name the same vertices have the same result.
* `usedVertices_exact` — **the scan collects exactly the vertices that are named, and fails exactly
  with the first reference to none.**
-/

namespace IndexedMesh

variable {t : IndexType} {triangles : List (Triangle t)} {strips : List (Strip t)} {count : Nat}

/-! ## Corners and elements -/

/-- All corners of a triangle are vertices. -/
structure Triangle.Within (f : Triangle t) (count : Nat) : Prop where
  a : f.a.position < count
  b : f.b.position < count
  c : f.c.position < count

/-- All corners and elements are vertices. -/
structure FacesWithin (triangles : List (Triangle t)) (strips : List (Strip t)) (count : Nat) :
    Prop where
  corners : ∀ f ∈ triangles, f.Within count
  elements : ∀ strip ∈ strips, ∀ i ∈ strip, i.position < count

/-- A corner or an element is the vertex `p`. -/
def FacesName (triangles : List (Triangle t)) (strips : List (Strip t)) (p : Nat) : Prop :=
  (∃ f ∈ triangles, f.a.position = p ∨ f.b.position = p ∨ f.c.position = p) ∨
    ∃ strip ∈ strips, ∃ i ∈ strip, i.position = p

/-- The first corner of a triangle that is no vertex. -/
inductive Triangle.FirstOutside (count : Nat) (f : Triangle t) : Index t → Prop
  | a (h : count ≤ f.a.position) : FirstOutside count f f.a
  | b (ha : f.a.position < count) (h : count ≤ f.b.position) : FirstOutside count f f.b
  | c (ha : f.a.position < count) (hb : f.b.position < count) (h : count ≤ f.c.position) :
      FirstOutside count f f.c

/-- The first corner that is no vertex, triangle by triangle, or, if there is none, the first such
element, strip by strip. -/
inductive FirstOutside (triangles : List (Triangle t)) (strips : List (Strip t)) (count : Nat) :
    Index t → Prop
  | corner (before : List (Triangle t)) (f : Triangle t) (after : List (Triangle t)) (i : Index t)
      (hSplit : triangles = before ++ f :: after) (hBefore : ∀ g ∈ before, g.Within count)
      (hFirst : f.FirstOutside count i) : FirstOutside triangles strips count i
  | element (before : List (Strip t)) (start : List (Index t)) (i : Index t)
      (rest : List (Index t)) (after : List (Strip t))
      (hSplit : strips = before ++ (start ++ i :: rest) :: after)
      (hTriangles : ∀ f ∈ triangles, f.Within count)
      (hBefore : ∀ strip ∈ before, ∀ j ∈ strip, j.position < count)
      (hStart : ∀ j ∈ start, j.position < count) (h : count ≤ i.position) :
      FirstOutside triangles strips count i

theorem Triangle.within_iff (f : Triangle t) :
    f.Within count ↔ ∀ i ∈ f.corners, i.position < count := by
  simp only [corners, List.forall_mem_cons, List.not_mem_nil, false_implies, implies_true, and_true]
  constructor
  · exact fun h => ⟨h.a, h.b, h.c⟩
  · exact fun h => { a := h.1, b := h.2.1, c := h.2.2 }

theorem facesWithin_iff :
    FacesWithin triangles strips count ↔
      ∀ i ∈ references triangles strips, i.position < count := by
  simp only [references, List.mem_append, or_imp, forall_and, List.forall_mem_flatten,
    List.forall_mem_flatMap, ← Triangle.within_iff]
  constructor
  · exact fun h => ⟨h.corners, h.elements⟩
  · exact fun h => { corners := h.1, elements := h.2 }

theorem facesName_iff (p : Nat) :
    FacesName triangles strips p ↔ ∃ i ∈ references triangles strips, i.position = p := by
  simp only [FacesName, references, List.mem_append, List.mem_flatMap, List.mem_flatten,
    Triangle.corners, List.mem_cons, List.not_mem_nil, or_false]
  grind

/-! ## The first reference to no vertex -/

theorem Triangle.exists_firstOutside {f : Triangle t} (h : ¬ f.Within count) :
    ∃ i, f.FirstOutside count i := by
  by_cases ha : f.a.position < count
  · by_cases hb : f.b.position < count
    · have hc : count ≤ f.c.position :=
        Nat.le_of_not_lt fun hc => h { a := ha, b := hb, c := hc }
      exact ⟨f.c, .c ha hb hc⟩
    · exact ⟨f.b, .b ha (Nat.le_of_not_lt hb)⟩
  · exact ⟨f.a, .a (Nat.le_of_not_lt ha)⟩

/-- **Either all corners and elements are vertices, or one of them is the first that is not.** -/
theorem facesWithin_or_firstOutside (triangles : List (Triangle t)) (strips : List (Strip t))
    (count : Nat) :
    FacesWithin triangles strips count ∨ ∃ i, FirstOutside triangles strips count i := by
  rcases forall_or_exists_exception (·.Within count) triangles with
    hTriangles | ⟨before, f, after, hSplit, hBefore, hf⟩
  · rcases forall_or_exists_exception (fun strip : Strip t => ∀ i ∈ strip, i.position < count)
      strips with hStrips | ⟨before, strip, after, hSplit, hBefore, hStrip⟩
    · exact .inl { corners := hTriangles, elements := hStrips }
    · rcases forall_or_exists_exception (fun i : Index t => i.position < count) strip with
        hAll | ⟨start, i, rest, rfl, hStart, hi⟩
      · exact absurd hAll hStrip
      · exact .inr ⟨i, .element before start i rest after hSplit hTriangles hBefore hStart
          (Nat.le_of_not_lt hi)⟩
  · obtain ⟨i, hFirst⟩ := Triangle.exists_firstOutside hf
    exact .inr ⟨i, .corner before f after i hSplit hBefore hFirst⟩

/-- The first bad corner of a triangle stands behind good ones. -/
private theorem Triangle.FirstOutside.corners_eq {f : Triangle t} {i : Index t}
    (h : f.FirstOutside count i) :
    count ≤ i.position ∧ ∃ before after, f.corners = before ++ i :: after ∧
      ∀ j ∈ before, j.position < count := by
  cases h with
  | a h => exact ⟨h, [], [f.b, f.c], rfl, by simp⟩
  | b ha h => exact ⟨h, [f.a], [f.c], rfl, by simpa using ha⟩
  | c ha hb h => exact ⟨h, [f.a, f.b], [], rfl, by simpa using ⟨ha, hb⟩⟩

/-- **In the row of all references the first bad one stands behind good ones.** -/
theorem FirstOutside.references_eq {i : Index t} (h : FirstOutside triangles strips count i) :
    count ≤ i.position ∧ ∃ before after, references triangles strips = before ++ i :: after ∧
      ∀ j ∈ before, j.position < count := by
  cases h with
  | corner before f after _ hSplit hBefore hFirst =>
      obtain ⟨hi, start, rest, hCorners, hStart⟩ := hFirst.corners_eq
      refine ⟨hi, before.flatMap Triangle.corners ++ start,
        rest ++ after.flatMap Triangle.corners ++ strips.flatten, ?_, ?_⟩
      · simp [references, hSplit, hCorners]
      · intro j hj
        rcases List.mem_append.1 hj with hj | hj
        · obtain ⟨g, hg, hj⟩ := List.mem_flatMap.1 hj
          exact (Triangle.within_iff g).1 (hBefore g hg) j hj
        · exact hStart j hj
  | element before start _ rest after hSplit hTriangles hBefore hStart hi =>
      refine ⟨hi, triangles.flatMap Triangle.corners ++ (before.flatten ++ start),
        rest ++ after.flatten, ?_, ?_⟩
      · simp [references, hSplit]
      · intro j hj
        rcases List.mem_append.1 hj with hj | hj
        · obtain ⟨f, hf, hj⟩ := List.mem_flatMap.1 hj
          exact (Triangle.within_iff f).1 (hTriangles f hf) j hj
        · rcases List.mem_append.1 hj with hj | hj
          · obtain ⟨strip, hStrip, hj⟩ := List.mem_flatten.1 hj
            exact hBefore strip hStrip j hj
          · exact hStart j hj

/-! ## What the scan tells -/

theorem usedVertices_of_firstOutside {i : Index t} (h : FirstOutside triangles strips count i) :
    usedVertices triangles strips count = .error (.indexOutOfRange i.position count) := by
  obtain ⟨hi, before, after, hSplit, hBefore⟩ := h.references_eq
  refine (usedVertices_eq_error_iff _ _ _ _).2 ⟨i, ?_, rfl⟩
  rw [List.find?_eq_some_iff_append]
  refine ⟨by simpa using hi, before, after, hSplit, fun j hj => ?_⟩
  simpa using hBefore j hj

/-- The scan succeeds exactly if all corners and elements are vertices. -/
theorem exists_usedVertices_eq_ok_iff :
    (∃ used, usedVertices triangles strips count = .ok used) ↔
      FacesWithin triangles strips count := by
  simp only [usedVertices_eq_ok_iff, facesWithin_iff, exists_and_left, exists_eq, and_true]

/-- The scan fails exactly with the first bad corner or element. -/
theorem usedVertices_eq_error_iff_firstOutside (e : Error) :
    usedVertices triangles strips count = .error e ↔
      ∃ i, FirstOutside triangles strips count i ∧ e = .indexOutOfRange i.position count := by
  constructor
  · intro hError
    rcases facesWithin_or_firstOutside triangles strips count with hWithin | ⟨i, hFirst⟩
    · obtain ⟨used, hOk⟩ := exists_usedVertices_eq_ok_iff.2 hWithin
      rw [hOk] at hError
      cases hError
    · rw [usedVertices_of_firstOutside hFirst] at hError
      exact ⟨i, hFirst, (Except.error.inj hError).symm⟩
  · rintro ⟨i, hFirst, rfl⟩
    exact usedVertices_of_firstOutside hFirst

/-- **The set has a flag for each vertex, and it is set exactly if a face names the vertex.** -/
theorem flags_of_usedVertices {used : VertexSet}
    (h : usedVertices triangles strips count = .ok used) :
    used.flags.size = count ∧ ∀ p, used.flags[p]? = some true ↔ FacesName triangles strips p := by
  obtain ⟨hRange, rfl⟩ := (usedVertices_eq_ok_iff _ _ _ _).1 h
  refine ⟨VertexSet.size_ofReferences count _, fun p => ?_⟩
  rw [← VertexSet.contains_iff_flag, VertexSet.contains_ofReferences hRange, facesName_iff]

/-- **Faces that name the same vertices have the same result.** Neither their order nor their number
matters. -/
theorem usedVertices_eq_of_names {used : VertexSet} {triangles' : List (Triangle t)}
    {strips' : List (Strip t)} (h : usedVertices triangles strips count = .ok used)
    (hNames : ∀ p, FacesName triangles' strips' p ↔ FacesName triangles strips p) :
    usedVertices triangles' strips' count = .ok used := by
  have hRange := ((usedVertices_eq_ok_iff _ _ _ _).1 h).1
  have hWithin : FacesWithin triangles' strips' count := by
    rw [facesWithin_iff]
    intro i hi
    obtain ⟨j, hj, hji⟩ := (facesName_iff _).1 ((hNames _).1 ((facesName_iff _).2 ⟨i, hi, rfl⟩))
    rw [← hji]
    exact hRange j hj
  obtain ⟨used', h'⟩ := exists_usedVertices_eq_ok_iff.2 hWithin
  obtain ⟨hSize, hFlags⟩ := flags_of_usedVertices h
  obtain ⟨hSize', hFlags'⟩ := flags_of_usedVertices h'
  have hSame : used' = used := VertexSet.eq_of_contains_iff (hSize'.trans hSize.symm) fun p => by
    rw [VertexSet.contains_iff_flag, VertexSet.contains_iff_flag, hFlags, hFlags', hNames]
  rw [h', hSame]

/-- The same faces in another order name the same vertices. -/
theorem facesName_of_perm {triangles' : List (Triangle t)} {strips' : List (Strip t)}
    (hTriangles : triangles'.Perm triangles) (hStrips : strips'.Perm strips) (p : Nat) :
    FacesName triangles' strips' p ↔ FacesName triangles strips p := by
  simp only [FacesName, hTriangles.mem_iff, hStrips.mem_iff]

/-- **The scan is exact.** It succeeds exactly if all corners and elements are vertices. Then it has
a flag for each vertex, set exactly if a corner or an element names it, and the same faces in any
order give the same set. Otherwise it fails with the number of vertices and the position of the
first corner that is no vertex, triangle by triangle, or else of the first such element, strip by
strip. An index that is not negative has its value as its position. A negative one counts from
the end of the addresses, and so it is beyond any number of vertices: no row of flags reaches the
upper half of the addresses. -/
theorem usedVertices_exact (triangles : List (Triangle t)) (strips : List (Strip t))
    (count : Nat) :
    ((∃ used, usedVertices triangles strips count = .ok used) ↔
      FacesWithin triangles strips count) ∧
    (∀ used, usedVertices triangles strips count = .ok used →
      used.flags.size = count ∧
      (∀ p, used.flags[p]? = some true ↔ FacesName triangles strips p) ∧
      ∀ triangles' strips', List.Perm triangles' triangles → List.Perm strips' strips →
        usedVertices triangles' strips' count = .ok used) ∧
    (∀ e, usedVertices triangles strips count = .error e ↔
      ∃ i, FirstOutside triangles strips count i ∧ e = .indexOutOfRange i.position count) ∧
    (∀ i : Index t, 0 ≤ i.value → (i.position : Int) = i.value) ∧
    (∀ i : Index t, i.value < 0 →
      (i.position : Int) = UInt64.size + i.value ∧
      (count ≤ UInt64.size / 2 → count ≤ i.position)) := by
  refine ⟨exists_usedVertices_eq_ok_iff, fun used hUsed => ?_,
    usedVertices_eq_error_iff_firstOutside, fun i => Index.position_eq_value,
    fun i hNegative => ⟨Index.position_of_neg hNegative, fun hCount => ?_⟩⟩
  · obtain ⟨hSize, hFlags⟩ := flags_of_usedVertices hUsed
    exact ⟨hSize, hFlags, fun triangles' strips' hTriangles hStrips =>
      usedVertices_eq_of_names hUsed (facesName_of_perm hTriangles hStrips)⟩
  · have hUpper := Index.le_position_of_neg hNegative
    omega

/-- A strip with signed indices, the last of which is given. -/
def endingStrip (last : Int) : Strip .signedByte := [.ofInt 2, .ofInt 0, .ofInt last]

/-- Of two strips on four vertices, one that ends in a negative index is told with its position, and
otherwise the strips may change places. -/
theorem usedVertices_exact_endingStrip :
    (∃ used, usedVertices [] [endingStrip 3, endingStrip 2] 4 = .ok used ∧
      usedVertices [] [endingStrip 2, endingStrip 3] 4 = .ok used ∧
      used.flags[3]? = some true ∧ used.flags[1]? ≠ some true) ∧
    usedVertices [] [endingStrip 3, endingStrip (-1)] 4 =
      .error (.indexOutOfRange (UInt64.size - 1) 4) ∧
    ((Index.ofInt (-1) : Index .signedByte).position : Int) = UInt64.size + -1 := by
  obtain ⟨hOk, hExact, -, -, -⟩ :=
    usedVertices_exact (t := .signedByte) [] [endingStrip 3, endingStrip 2] 4
  obtain ⟨-, -, hError, -, hNegative⟩ :=
    usedVertices_exact (t := .signedByte) [] [endingStrip 3, endingStrip (-1)] 4
  refine ⟨?_, ?_, (hNegative _ (by decide)).1⟩
  · obtain ⟨used, hUsed⟩ := hOk.2 { corners := by simp, elements := by decide }
    obtain ⟨-, hFlags, hOrder⟩ := hExact used hUsed
    refine ⟨used, hUsed, hOrder _ _ .rfl (.swap _ _ _), ?_, ?_⟩
    · exact (hFlags 3).2 (.inr ⟨endingStrip 3, by simp, .ofInt 3, by simp [endingStrip], rfl⟩)
    · rw [Ne, hFlags 1]
      unfold FacesName
      decide
  · exact (hError _).2 ⟨.ofInt (-1), .element [endingStrip 3] [.ofInt 2, .ofInt 0] (.ofInt (-1)) []
      [] rfl (by simp) (by decide) (by decide) (by decide), rfl⟩

end IndexedMesh
