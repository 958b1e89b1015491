import Mathlib.Data.Finset.Card
import Mathlib.Data.Finset.Dedup
import Mathlib.Data.List.Forall2

/-!
# Lists, entry by entry

What a mesh holds comes in lists, and most of what is said about two meshes is said of their lists
entry by entry. This module has what is needed of such relations beyond the library, and of the two
other ways in which lists are gone through: by the numbers of their entries, and by a function that
may fail.

## Main results

* `exists_mem_of_forall₂`, `map_eq_map_of_forall₂`, `forall₂_trans` — lists that are related entry
  by entry.
* `card_toFinset_map_eq` — such lists have as many different entries.
* `forall₂_filterMap` — what a partial function makes of a list.
* `forall_or_exists_exception` — an exception to a property has a first one.
* `mapM_eq_ok_map`, `exists_of_mem_mapM` — a list that is mapped without a failure.
-/

namespace IndexedMesh

variable {α β γ δ ε : Type}

/-! ## Related lists -/

/-- Something in a list is related to what stands in a related list. -/
theorem exists_mem_of_forall₂ {R : α → β → Prop} {xs : List α} {ys : List β}
    (h : List.Forall₂ R xs ys) {y : β} (hy : y ∈ ys) : ∃ x ∈ xs, R x y := by
  induction h with
  | nil => cases hy
  | cons hHead _ ih =>
      rcases List.mem_cons.1 hy with rfl | hy
      · exact ⟨_, List.mem_cons_self, hHead⟩
      · obtain ⟨x, hx, hRelated⟩ := ih hy
        exact ⟨x, List.mem_cons_of_mem _ hx, hRelated⟩

/-- What related entries have in common, related lists have in common entry by entry. -/
theorem map_eq_map_of_forall₂ {R : α → β → Prop} {f : α → γ} {g : β → γ}
    {xs : List α} {ys : List β} (h : List.Forall₂ R xs ys) (hSame : ∀ x y, R x y → g y = f x) :
    ys.map g = xs.map f := by
  induction h with
  | nil => rfl
  | cons hHead _ ih => rw [List.map_cons, List.map_cons, hSame _ _ hHead, ih]

theorem forall₂_imp_of_mem {R S : α → β → Prop} {xs : List α} {ys : List β}
    (h : List.Forall₂ R xs ys) (hImp : ∀ x ∈ xs, ∀ y, R x y → S x y) : List.Forall₂ S xs ys :=
  ((List.forall₂_and_left xs ys).2 ⟨hImp, h⟩).imp fun _ y hBoth => hBoth.1 y hBoth.2

theorem forall₂_trans {R : α → β → Prop} {S : β → γ → Prop}
    {xs : List α} {ys : List β} {zs : List γ} (h : List.Forall₂ R xs ys)
    (h' : List.Forall₂ S ys zs) : List.Forall₂ (fun x z => ∃ y, R x y ∧ S y z) xs zs := by
  induction h generalizing zs with
  | nil =>
      cases h'
      exact .nil
  | cons hHead _ ih =>
      cases h' with
      | cons hNext hRest => exact .cons ⟨_, hHead, hNext⟩ (ih hRest)

/-- What a partial function makes of a list stands in the order of what it is made of. -/
theorem forall₂_filterMap (f : α → Option β) (xs : List α) :
    List.Forall₂ (fun x y => f x = some y) (xs.filter fun x => (f x).isSome) (xs.filterMap f) := by
  induction xs with
  | nil => exact .nil
  | cons x xs ih =>
      cases hx : f x with
      | none => simpa [hx] using ih
      | some y => simpa [hx] using ih

/-- Related lists in which the same entries are told apart have as many different entries. -/
theorem card_toFinset_map_eq [DecidableEq γ] [DecidableEq δ] {R : α → β → Prop}
    {f : α → γ} {g : β → δ} (hAlike : ∀ x y x' y', R x y → R x' y' → (f x = f x' ↔ g y = g y'))
    {xs : List α} {ys : List β} (h : List.Forall₂ R xs ys) :
    (xs.map f).toFinset.card = (ys.map g).toFinset.card := by
  induction h with
  | nil => rfl
  | @cons x y xs ys hHead hTail ih =>
      have hMem : f x ∈ (xs.map f).toFinset ↔ g y ∈ (ys.map g).toFinset := by
        simp only [List.mem_toFinset, List.mem_map]
        constructor
        · rintro ⟨x', hx', hEq⟩
          obtain ⟨y', hy', hRelated⟩ := exists_mem_of_forall₂ hTail.flip hx'
          exact ⟨y', hy', (hAlike x' y' x y hRelated hHead).1 hEq⟩
        · rintro ⟨y', hy', hEq⟩
          obtain ⟨x', hx', hRelated⟩ := exists_mem_of_forall₂ hTail hy'
          exact ⟨x', hx', (hAlike x' y' x y hRelated hHead).2 hEq⟩
      rw [List.map_cons, List.map_cons, List.toFinset_cons, List.toFinset_cons]
      by_cases hOld : f x ∈ (xs.map f).toFinset
      · rw [Finset.insert_eq_of_mem hOld, Finset.insert_eq_of_mem (hMem.1 hOld), ih]
      · rw [Finset.card_insert_of_notMem hOld, Finset.card_insert_of_notMem (mt hMem.2 hOld), ih]

/-! ## Places -/

/-- Numbered entries come in the order of their numbers. -/
theorem zipIdx_pairwise (items : List α) : items.zipIdx.Pairwise (·.2 < ·.2) := by
  rw [← List.pairwise_map (f := Prod.snd) (R := (· < ·)), List.zipIdx_map_snd]
  exact List.pairwise_lt_range'

/-- A list, place by place. -/
theorem map_getElem?_range (xs : List α) :
    (List.range xs.length).map (fun k => xs[k]?) = xs.map some := by
  refine List.ext_getElem (by simp) fun k hk hk' => ?_
  simp at hk'
  simp [hk']

theorem mem_take_iff_getElem? {xs : List α} {a : α} {k : Nat} :
    a ∈ xs.take k ↔ ∃ j, xs[j]? = some a ∧ j < k := by
  rw [List.mem_iff_getElem?]
  refine exists_congr fun j => ?_
  rw [List.getElem?_take]
  split <;> simp_all

/-- Without its first entry a list without repetition is its tail. -/
theorem filter_ne_head?_of_nodup [DecidableEq α] {xs : List α} (h : xs.Nodup) :
    xs.filter (some · ≠ xs.head?) = xs.tail := by
  cases xs with
  | nil => rfl
  | cons a rest =>
      rw [List.filter_cons_of_neg (by simp), List.tail_cons, List.filter_eq_self]
      intro b hb
      have hNe : b ≠ a := fun hEq => (List.nodup_cons.1 h).1 (hEq ▸ hb)
      simpa using hNe

theorem setIfInBounds_self {items : Array α} {k : Nat} {a : α} (h : items[k]? = some a) :
    items.setIfInBounds k a = items := by
  refine Array.ext_getElem? fun j => ?_
  by_cases hj : k = j
  · subst hj
    obtain ⟨hk, -⟩ := Array.getElem?_eq_some_iff.1 h
    rw [Array.getElem?_setIfInBounds_self_of_lt hk, h]
  · rw [Array.getElem?_setIfInBounds_ne hj]

/-- A lookup that finds something everywhere keeps the places of a list. -/
theorem getElem?_filterMap_of_isSome (f : Nat → Option α) :
    ∀ (positions : List Nat) (k : Nat), (∀ i ∈ positions, (f i).isSome) →
      (positions.filterMap f)[k]? = positions[k]?.bind f := by
  intro positions
  induction positions with
  | nil => intro k _; rfl
  | cons i more ih =>
      intro k h
      obtain ⟨a, ha⟩ := Option.isSome_iff_exists.1 (h i (by simp))
      rw [List.filterMap_cons_some ha]
      cases k with
      | zero => exact ha.symm
      | succ k => exact ih k (fun j hj => h j (by simp [hj]))

/-- A list without a first exception has no exception at all. -/
theorem forall_or_exists_exception (p : α → Prop) (xs : List α) :
    (∀ x ∈ xs, p x) ∨
      ∃ before x after, xs = before ++ x :: after ∧ (∀ y ∈ before, p y) ∧ ¬ p x := by
  induction xs with
  | nil => exact .inl (by simp)
  | cons x xs ih =>
      by_cases hx : p x
      · rcases ih with hAll | ⟨before, y, after, rfl, hBefore, hy⟩
        · exact .inl (List.forall_mem_cons.2 ⟨hx, hAll⟩)
        · exact .inr ⟨x :: before, y, after, rfl, List.forall_mem_cons.2 ⟨hx, hBefore⟩, hy⟩
      · exact .inr ⟨[], x, xs, rfl, by simp, hx⟩

/-! ## Functions that may fail -/

theorem except_bind_eq_ok_iff {x : Except ε α} {f : α → Except ε β} {b : β} :
    (x >>= f) = .ok b ↔ ∃ a, x = .ok a ∧ f a = .ok b := by
  cases x <;> simp [bind, Except.bind]

theorem mapM_eq_ok_map (f : α → Except ε β) (g : α → β) :
    ∀ items : List α, (∀ a ∈ items, f a = .ok (g a)) → items.mapM f = .ok (items.map g) := by
  intro items
  induction items with
  | nil => intro _; rfl
  | cons a more ih =>
      intro h
      rw [List.mapM_cons, h a (by simp), ih (fun b hb => h b (by simp [hb]))]
      rfl

/-- What comes out of a list that is mapped without a failure comes from an item of the list. -/
theorem exists_of_mem_mapM {f : α → Except ε β} {b : β} {items : List α}
    {results : List β} (h : items.mapM f = .ok results) (hb : b ∈ results) :
    ∃ a ∈ items, f a = .ok b := by
  induction items generalizing results with
  | nil =>
      cases h
      cases hb
  | cons a more ih =>
      rw [List.mapM_cons] at h
      obtain ⟨first, hFirst, h⟩ := except_bind_eq_ok_iff.1 h
      obtain ⟨others, hOthers, h⟩ := except_bind_eq_ok_iff.1 h
      cases h
      rcases List.mem_cons.1 hb with rfl | hb
      · exact ⟨a, List.mem_cons_self, hFirst⟩
      · obtain ⟨a', ha', hResult⟩ := ih hOthers hb
        exact ⟨a', List.mem_cons_of_mem a ha', hResult⟩

end IndexedMesh
