import Mathlib.Data.List.Find
import Mathlib.Data.List.Induction
import Mathlib.Data.List.Sort
import IndexedMesh.Vertex.Matching

/-!
# The matching is exactly the greedy policy

The scan keeps a flag for each candidate that has been claimed. After some targets these are the
chosen ones, so the next target takes the least number of a close candidate that was not chosen
before. This one equation describes the scan completely: nothing below it looks at the flags again.

The greedy policy itself is stated of matchings as such, without a scan. Whatever matching follows
it is the one that the scan finds, since the choice of a target is fixed by the choices of the
targets before it.

## Main results

* `Texcoord.closeTo` — the candidates that a target may take, in ascending order.
* `Matching.get?_byUv` — the choice of each target, from the choices of those before it.
* `Matching.IsGreedy` — the greedy policy, and `Matching.Accounts` — what a matching reports.
* `Matching.byUv_greedy_iff` — **the matching that is found follows the policy, and no other does.**
-/

namespace IndexedMesh

variable {tolerance : Float32}

/-! ## Candidates of a target -/

/-- The numbers of the candidates that a target is close to, in ascending order. -/
def Texcoord.closeTo (target : Texcoord) (tolerance : Float32) (candidates : List Texcoord) :
    List Nat :=
  candidates.findIdxs (target.isClose tolerance)

theorem Texcoord.mem_closeTo {target : Texcoord} {candidates : List Texcoord} {number : Nat} :
    number ∈ target.closeTo tolerance candidates ↔
      ∃ candidate, candidates[number]? = some candidate ∧
        target.isClose tolerance candidate = true := by
  rw [closeTo, List.mem_findIdxs_iff_exists_getElem_pos]
  constructor
  · rintro ⟨hLess, hClose⟩
    exact ⟨_, List.getElem?_eq_getElem hLess, hClose⟩
  · rintro ⟨candidate, hCandidate, hClose⟩
    obtain ⟨hLess, rfl⟩ := List.getElem?_eq_some_iff.1 hCandidate
    exact ⟨hLess, hClose⟩

theorem Texcoord.lt_of_mem_closeTo {target : Texcoord} {candidates : List Texcoord} {number : Nat}
    (h : number ∈ target.closeTo tolerance candidates) : number < candidates.length := by
  obtain ⟨candidate, hCandidate, -⟩ := mem_closeTo.1 h
  exact (List.getElem?_eq_some_iff.1 hCandidate).1

theorem Texcoord.closeTo_pairwise (target : Texcoord) (candidates : List Texcoord) :
    (target.closeTo tolerance candidates).Pairwise (· < ·) :=
  List.pairwise_findIdxs

theorem Texcoord.closeTo_eq_filter (target : Texcoord) (candidates : List Texcoord) :
    target.closeTo tolerance candidates = (List.range candidates.length).filter fun number =>
      candidates[number]?.any (target.isClose tolerance) := by
  refine (closeTo_pairwise target candidates).eq_of_mem_iff (List.pairwise_lt_range.filter _)
    fun number => ?_
  rw [mem_closeTo, List.mem_filter, List.mem_range]
  constructor
  · rintro ⟨candidate, hCandidate, hClose⟩
    exact ⟨(List.getElem?_eq_some_iff.1 hCandidate).1, by rw [hCandidate]; exact hClose⟩
  · rintro ⟨hLess, hClose⟩
    rw [List.getElem?_eq_getElem hLess] at hClose
    exact ⟨_, List.getElem?_eq_getElem hLess, hClose⟩

namespace Matching

/-! ## The scan -/

/-- The first candidate close to a target that has not been chosen. -/
def firstFree? (tolerance : Float32) (candidates : List Texcoord) (target : Texcoord)
    (chosen : List (Option Nat)) : Option Nat :=
  (target.closeTo tolerance candidates).find? (some · ∉ chosen)

theorem mem_of_firstFree? {candidates : List Texcoord} {target : Texcoord}
    {chosen : List (Option Nat)} {number : Nat}
    (h : firstFree? tolerance candidates target chosen = some number) :
    number ∈ target.closeTo tolerance candidates ∧ some number ∉ chosen :=
  ⟨List.mem_of_find?_eq_some h, by simpa using List.find?_some h⟩

/-- Close candidates before the first free one have been chosen. -/
theorem mem_chosen_of_lt_firstFree? {candidates : List Texcoord} {target : Texcoord}
    {chosen : List (Option Nat)} {number earlier : Nat}
    (h : firstFree? tolerance candidates target chosen = some number)
    (hEarlier : earlier ∈ target.closeTo tolerance candidates) (hLess : earlier < number) :
    some earlier ∈ chosen := by
  obtain ⟨-, before, after, hSplit, hChosen⟩ := List.find?_eq_some_iff_append.1 h
  have hAscending := @Texcoord.closeTo_pairwise tolerance target candidates
  rw [hSplit, List.pairwise_append, List.pairwise_cons] at hAscending
  rw [hSplit, List.mem_append, List.mem_cons] at hEarlier
  rcases hEarlier with hBefore | rfl | hAfter
  · simpa using hChosen earlier hBefore
  · exact absurd hLess (Nat.lt_irrefl earlier)
  · exact absurd hLess (Nat.lt_asymm (hAscending.2.1.1 earlier hAfter))

theorem firstFree?_eq_none_iff {candidates : List Texcoord} {target : Texcoord}
    {chosen : List (Option Nat)} :
    firstFree? tolerance candidates target chosen = none ↔
      ∀ number ∈ target.closeTo tolerance candidates, some number ∈ chosen := by
  simp [firstFree?, List.find?_eq_none]

/-- There is a flag for each candidate, and it is set exactly if the candidate has been chosen. -/
structure Claims (candidates : List Texcoord) (claimed : VertexSet) (chosen : List (Option Nat)) :
    Prop where
  size : claimed.size = candidates.length
  flag : ∀ number < candidates.length, claimed.flags[number]? = some (decide (some number ∈ chosen))

/-- Among the candidates that have not been claimed, the first close one is the first free one. -/
private theorem Claims.find?_gaps {candidates : List Texcoord} {claimed : VertexSet}
    {chosen : List (Option Nat)} (h : Claims candidates claimed chosen) (target : Texcoord) :
    (claimed.gaps.find? fun number =>
      candidates.toArray[number]?.any (target.isClose tolerance)) =
        firstFree? tolerance candidates target chosen := by
  rw [firstFree?, Texcoord.closeTo_eq_filter, VertexSet.gaps, VertexSet.flagged, List.find?_filter,
    List.find?_filter, h.size]
  refine List.find?_congr fun number hNumber => ?_
  rw [h.flag number (List.mem_range.1 hNumber), List.getElem?_toArray]
  simp [Bool.and_comm]

/-- **One more target** takes the first free candidate close to it, and claims it. -/
theorem Claims.concat {candidates targets : List Texcoord} {claimed : VertexSet}
    {chosen : Array (Option Nat)} (h : Claims candidates claimed chosen.toList)
    (hScan : targets.foldlM (assign tolerance candidates.toArray) (.empty candidates.length, #[]) =
      .ok (claimed, chosen)) (target : Texcoord) :
    let chosen := chosen.push (firstFree? tolerance candidates target chosen.toList)
    ∃ claimed, (targets ++ [target]).foldlM (assign tolerance candidates.toArray)
        (.empty candidates.length, #[]) = .ok (claimed, chosen) ∧
      Claims candidates claimed chosen.toList := by
  have hClaimed : claimed.size = candidates.toArray.size := h.size
  obtain ⟨after, hSize, hAssign, hFlags⟩ := assign_eq_ok tolerance hClaimed chosen target
  simp only [h.find?_gaps] at hAssign hFlags
  refine ⟨after, ?_, { size := hSize, flag := fun number hLess => ?_ }⟩
  · rw [List.foldlM_append, hScan]
    show assign tolerance candidates.toArray (claimed, chosen) target >>= pure = _
    rw [hAssign]
    rfl
  · rw [hFlags, h.flag number hLess, Array.toList_push]
    by_cases hFirst : firstFree? tolerance candidates target chosen.toList = some number
    · simp [hFirst]
    · simp [hFirst, Ne.symm hFirst]

theorem byUv_eq_of_foldlM {candidates targets : List Texcoord} {claimed : VertexSet}
    {choices : Array (Option Nat)}
    (h : targets.foldlM (assign tolerance candidates.toArray) (.empty candidates.length, #[]) =
      .ok (claimed, choices)) : byUv targets candidates tolerance = ⟨choices⟩ := by
  refine Except.ok.inj ((scan_eq_ok targets candidates tolerance).symm.trans ?_)
  rw [scan, h]
  rfl

@[simp] theorem byUv_nil (candidates : List Texcoord) : byUv [] candidates tolerance = ⟨#[]⟩ :=
  byUv_eq_of_foldlM rfl

/-- **What the scan has found after some targets**: the matching of these, and its choices are what
has been claimed. -/
theorem exists_claims (candidates targets : List Texcoord) :
    ∃ claimed, targets.foldlM (assign tolerance candidates.toArray)
        (.empty candidates.length, #[]) =
          .ok (claimed, (byUv targets candidates tolerance).choices) ∧
      Claims candidates claimed (byUv targets candidates tolerance).choices.toList := by
  induction targets using List.reverseRecOn with
  | nil =>
      rw [byUv_nil]
      exact ⟨.empty candidates.length, rfl,
        { size := VertexSet.size_empty _, flag := fun _ hLess => by simp [VertexSet.empty, hLess] }⟩
  | append_singleton targets target ih =>
      obtain ⟨claimed, hScan, hClaims⟩ := ih
      obtain ⟨after, hMore, hAfter⟩ := hClaims.concat hScan target
      rw [byUv_eq_of_foldlM hMore]
      exact ⟨after, hMore, hAfter⟩

/-- The matching of one more target. -/
theorem choices_byUv_concat (candidates targets : List Texcoord) (target : Texcoord) :
    (byUv (targets ++ [target]) candidates tolerance).choices.toList =
      (byUv targets candidates tolerance).choices.toList ++
        [firstFree? tolerance candidates target
          (byUv targets candidates tolerance).choices.toList] := by
  obtain ⟨claimed, hScan, hClaims⟩ := @exists_claims tolerance candidates targets
  obtain ⟨after, hMore, -⟩ := hClaims.concat hScan target
  rw [byUv_eq_of_foldlM hMore, Array.toList_push]

/-! ## The choice of each target -/

theorem get?_eq (m : Matching) (i : Nat) : m.get? i = (m.choices.toList[i]?).join := by
  rw [get?, Array.getElem?_toList]

theorem size_byUv (candidates targets : List Texcoord) :
    (byUv targets candidates tolerance).size = targets.length := by
  rw [size, ← Array.length_toList]
  induction targets using List.reverseRecOn with
  | nil => simp
  | append_singleton targets target ih =>
      rw [choices_byUv_concat, List.length_append, List.length_append, ih]
      rfl

/-- The targets before one are matched as if there were no others. -/
theorem choices_byUv_take (candidates targets : List Texcoord) (i : Nat) :
    (byUv (targets.take i) candidates tolerance).choices.toList =
      (byUv targets candidates tolerance).choices.toList.take i := by
  induction targets using List.reverseRecOn with
  | nil => simp
  | append_singleton targets target ih =>
      have hLength : (byUv targets candidates tolerance).choices.toList.length = targets.length :=
        size_byUv candidates targets
      by_cases hi : i ≤ targets.length
      · rw [List.take_append_of_le_length hi, ih, choices_byUv_concat,
          List.take_append_of_le_length (hLength ▸ hi)]
      · rw [List.take_of_length_le (by rw [List.length_append]; exact Nat.lt_of_not_le hi),
          choices_byUv_concat,
          List.take_of_length_le (by rw [List.length_append, hLength]; exact Nat.lt_of_not_le hi)]

/-- **The choice of a target**, from the choices of the targets before it. -/
theorem get?_byUv {candidates targets : List Texcoord} {i : Nat} {target : Texcoord}
    (hTarget : targets[i]? = some target) :
    (byUv targets candidates tolerance).get? i =
      firstFree? tolerance candidates target
        (byUv (targets.take i) candidates tolerance).choices.toList := by
  obtain ⟨hLess, rfl⟩ := List.getElem?_eq_some_iff.1 hTarget
  have hThis := @choices_byUv_take tolerance candidates targets (i + 1)
  have hLength : (byUv (targets.take i) candidates tolerance).choices.toList.length = i := by
    show (byUv (targets.take i) candidates tolerance).size = i
    rw [size_byUv, List.length_take, Nat.min_eq_left (Nat.le_of_lt hLess)]
  rw [List.take_add_one, List.getElem?_eq_getElem hLess, Option.toList_some,
    choices_byUv_concat] at hThis
  have hEntry := congrArg (·[i]?) hThis
  simp only [List.getElem?_take_of_succ] at hEntry
  rw [get?_eq, ← hEntry, List.getElem?_append_right (Nat.le_of_eq hLength), hLength]
  simp

/-! ## The greedy policy -/

/-- A target before `i` has chosen the candidate. -/
def Claimed (m : Matching) (i number : Nat) : Prop := ∃ k < i, m.get? k = some number

/-- **The greedy policy.** Every candidate is chosen by one target at most. A target chooses a
candidate that is close to it, and all close candidates before that one have been claimed by targets
before it. It chooses none exactly if all close candidates have been. -/
structure IsGreedy (m : Matching) (tolerance : Float32) (targets candidates : List Texcoord) :
    Prop where
  size : m.size = targets.length
  inRange : ∀ i number, m.get? i = some number → number < candidates.length
  distinct : ∀ i k number, m.get? i = some number → m.get? k = some number → i = k
  close : ∀ i number, m.get? i = some number →
    ∃ target, targets[i]? = some target ∧ number ∈ target.closeTo tolerance candidates
  first : ∀ i target number, targets[i]? = some target → m.get? i = some number →
    ∀ earlier ∈ target.closeTo tolerance candidates, earlier < number → m.Claimed i earlier
  unmatched : ∀ i target, targets[i]? = some target →
    (m.get? i = none ↔ ∀ number ∈ target.closeTo tolerance candidates, m.Claimed i number)

theorem get?_eq_none_of_size_le {m : Matching} {i : Nat} (h : m.size ≤ i) : m.get? i = none := by
  rw [get?, Array.getElem?_eq_none h]
  rfl

theorem lt_size_of_get? {m : Matching} {i number : Nat} (h : m.get? i = some number) :
    i < m.size := by
  refine Nat.lt_of_not_le fun hPast => ?_
  rw [get?_eq_none_of_size_le hPast] at h
  cases h

/-- What has been chosen before a target are the claims of the targets before it. -/
theorem some_mem_choices_take_iff {candidates targets : List Texcoord} {i number : Nat} :
    some number ∈ (byUv (targets.take i) candidates tolerance).choices.toList ↔
      (byUv targets candidates tolerance).Claimed i number := by
  rw [choices_byUv_take, List.mem_take_iff_getElem]
  constructor
  · rintro ⟨k, hk, hEntry⟩
    refine ⟨k, by omega, ?_⟩
    rw [get?_eq, List.getElem?_eq_getElem (by omega), hEntry]
    rfl
  · rintro ⟨k, hk, hChoice⟩
    rw [get?_eq, Option.join_eq_some_iff] at hChoice
    obtain ⟨hLess, hEntry⟩ := List.getElem?_eq_some_iff.1 hChoice
    exact ⟨k, by omega, hEntry⟩

/-- A target that has chosen did so from what was close to it and free. -/
private theorem exists_of_get? {candidates targets : List Texcoord} {i number : Nat}
    (h : (byUv targets candidates tolerance).get? i = some number) :
    ∃ target, targets[i]? = some target ∧ number ∈ target.closeTo tolerance candidates ∧
      ¬ (byUv targets candidates tolerance).Claimed i number := by
  have hLess := lt_size_of_get? h
  rw [size_byUv] at hLess
  have hTarget := List.getElem?_eq_getElem hLess
  rw [get?_byUv hTarget] at h
  obtain ⟨hClose, hFree⟩ := mem_of_firstFree? h
  exact ⟨_, hTarget, hClose, mt some_mem_choices_take_iff.2 hFree⟩

/-- **The scan follows the greedy policy.** -/
theorem isGreedy_byUv (candidates targets : List Texcoord) :
    (byUv targets candidates tolerance).IsGreedy tolerance targets candidates := by
  refine
    { size := size_byUv candidates targets
      inRange := ?_
      distinct := ?_
      close := ?_
      first := ?_
      unmatched := ?_ }
  · intro i number h
    obtain ⟨target, -, hClose, -⟩ := exists_of_get? h
    exact Texcoord.lt_of_mem_closeTo hClose
  · intro i k number hi hk
    obtain ⟨-, -, -, hFreeAtI⟩ := exists_of_get? hi
    obtain ⟨-, -, -, hFreeAtK⟩ := exists_of_get? hk
    -- The later of two targets with one choice would have found it claimed.
    rcases Nat.lt_trichotomy i k with hLess | rfl | hLess
    · exact absurd ⟨i, hLess, hi⟩ hFreeAtK
    · rfl
    · exact absurd ⟨k, hLess, hk⟩ hFreeAtI
  · intro i number h
    obtain ⟨target, hTarget, hClose, -⟩ := exists_of_get? h
    exact ⟨target, hTarget, hClose⟩
  · intro i target number hTarget h earlier hEarlier hLess
    rw [get?_byUv hTarget] at h
    exact some_mem_choices_take_iff.1 (mem_chosen_of_lt_firstFree? h hEarlier hLess)
  · intro i target hTarget
    rw [get?_byUv hTarget, firstFree?_eq_none_iff]
    simp only [some_mem_choices_take_iff]

/-! ## Only one matching follows the policy -/

section

variable {m m' : Matching} {candidates targets : List Texcoord}

private theorem IsGreedy.not_claimed (h : m.IsGreedy tolerance targets candidates) {i number : Nat}
    (hChoice : m.get? i = some number) : ¬ m.Claimed i number := by
  rintro ⟨k, hk, hClaim⟩
  exact absurd (h.distinct k i number hClaim hChoice) (by omega)

/-- A target chooses alike in two matchings if the targets before it do. -/
private theorem IsGreedy.get?_eq_some_of_below (h : m.IsGreedy tolerance targets candidates)
    (h' : m'.IsGreedy tolerance targets candidates) {i number : Nat}
    (hBelow : ∀ k < i, m.get? k = m'.get? k) (hChoice : m.get? i = some number) :
    m'.get? i = some number := by
  have hClaims : ∀ other, m'.Claimed i other ↔ m.Claimed i other := by
    intro other
    refine exists_congr fun k => and_congr_right fun hk => ?_
    rw [hBelow k hk]
  obtain ⟨target, hTarget, hClose⟩ := h.close i number hChoice
  cases hOther : m'.get? i with
  | none =>
      have hClaimed := (h'.unmatched i target hTarget).1 hOther number hClose
      exact absurd ((hClaims number).1 hClaimed) (h.not_claimed hChoice)
  | some other =>
      obtain ⟨target', hTarget', hCloseOther⟩ := h'.close i other hOther
      obtain rfl : target = target' := Option.some.inj (hTarget.symm.trans hTarget')
      rcases Nat.lt_trichotomy number other with hLess | rfl | hLess
      · have hClaimed := h'.first i target other hTarget hOther number hClose hLess
        exact absurd ((hClaims number).1 hClaimed) (h.not_claimed hChoice)
      · rfl
      · have hClaimed := h.first i target number hTarget hChoice other hCloseOther hLess
        exact absurd ((hClaims other).2 hClaimed) (h'.not_claimed hOther)

/-- **The policy determines every choice.** -/
theorem IsGreedy.get?_eq (h : m.IsGreedy tolerance targets candidates)
    (h' : m'.IsGreedy tolerance targets candidates) (i : Nat) : m.get? i = m'.get? i := by
  induction i using Nat.strongRecOn with
  | ind i ih =>
      ext number
      constructor
      · exact h.get?_eq_some_of_below h' ih
      · exact h'.get?_eq_some_of_below h fun k hk => (ih k hk).symm

theorem IsGreedy.eq (h : m.IsGreedy tolerance targets candidates)
    (h' : m'.IsGreedy tolerance targets candidates) : m = m' := by
  obtain ⟨choices⟩ := m
  obtain ⟨choices'⟩ := m'
  have hSize : choices.size = choices'.size := h.size.trans h'.size.symm
  congr 1
  refine Array.ext hSize fun i hi hi' => ?_
  have hChoice := h.get?_eq h' i
  simpa [get?, hi, hi'] using hChoice

end

/-! ## What a matching reports -/

theorem unmatched_eq (m : Matching) : m.unmatched = m.choices.toList.findIdxs Option.isNone := by
  rw [unmatched, List.findIdxs_eq_filterMap_zipIdx]
  refine List.filterMap_congr fun (choice, _) _ => ?_
  cases choice <;> rfl

theorem mem_unmatched_iff (m : Matching) (i : Nat) :
    i ∈ m.unmatched ↔ i < m.size ∧ m.get? i = none := by
  rw [unmatched_eq, List.mem_findIdxs_iff_exists_getElem_pos, get?_eq]
  constructor
  · rintro ⟨hLess, hNone⟩
    refine ⟨hLess, ?_⟩
    rw [List.getElem?_eq_getElem hLess, Option.isNone_iff_eq_none.1 hNone]
    rfl
  · rintro ⟨hLess, hNone⟩
    refine ⟨hLess, ?_⟩
    rw [List.getElem?_eq_getElem hLess] at hNone
    rw [Option.isNone_iff_eq_none]
    exact hNone

/-- **Every target is counted once**, as matched or as not. -/
theorem matched_add_length_unmatched (m : Matching) :
    m.matched + m.unmatched.length = m.size := by
  have hSplit := List.length_eq_countP_add_countP Option.isSome (l := m.choices.toList)
  rw [unmatched_eq, List.length_findIdxs, matched, ← Array.countP_toList, size,
    ← Array.length_toList, hSplit]
  congr 1
  refine List.countP_congr fun choice _ => ?_
  cases choice <;> simp

/-- What is reported of the targets: how many there are, which have no candidate, and how many
have one. There is nothing past the end. -/
structure Accounts (m : Matching) (targets : Nat) : Prop where
  size : m.size = targets
  pastEnd : ∀ i, targets ≤ i → m.get? i = none
  ascending : m.unmatched.Pairwise (· < ·)
  mem_unmatched : ∀ i, i ∈ m.unmatched ↔ i < targets ∧ m.get? i = none
  total : m.matched + m.unmatched.length = m.size

theorem accounts (m : Matching) : m.Accounts m.size where
  size := rfl
  pastEnd _ hPast := get?_eq_none_of_size_le hPast
  ascending := by
    rw [unmatched_eq]
    exact List.pairwise_findIdxs
  mem_unmatched := m.mem_unmatched_iff
  total := m.matched_add_length_unmatched

/-- **The matching that is found follows the greedy policy, and no other does.** Its reports agree
with it. -/
theorem byUv_greedy_iff (targets candidates : List Texcoord) (tolerance : Float32) :
    (∀ m : Matching, m.IsGreedy tolerance targets candidates ↔
      m = byUv targets candidates tolerance) ∧
      (byUv targets candidates tolerance).Accounts targets.length := by
  refine ⟨fun m => ⟨fun h => h.eq (isGreedy_byUv candidates targets), ?_⟩, ?_⟩
  · rintro rfl
    exact isGreedy_byUv candidates targets
  · rw [← @size_byUv tolerance candidates targets]
    exact accounts _

end Matching

end IndexedMesh
