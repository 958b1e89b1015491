import IndexedMesh.Json.Record
import IndexedMesh.Json.Variant
import IndexedMesh.Proofs.Sequences

/-!
# Objects in a text

A record is written member by member, in the order of its members, and members that are missing
anyway may be left out. It is read into what has been found so far. The induction is on the members
that are still to come: what has been found of the ones before them is a place into which the rest
is put, and because no two members have one name, the next name that is read is found behind them.

A value of one of several kinds is written as an object with one member.

## Main results

* `Members.Faithful` — the formats of the members are faithful, and their names distinct.
* `Format.faithful_record` — **records are kept.**
* `Format.faithful_oneOf` — so are values of several kinds that all carry something.
-/

namespace IndexedMesh.Json

open Reader

/-! ## Members of an object -/

private theorem colon_eq (layout : Layout) : layout.colon = ':' :: layout.colon.tail := by
  cases layout <;> rfl

private theorem blank_colon_tail (layout : Layout) : Blank layout.colon.tail := by
  cases layout with
  | compact => exact blank_nil
  | indented depth =>
    intro c hc
    rw [List.mem_singleton.1 hc]
    rfl

/-- The text of a member: its name between quotes, a colon and its value. -/
theorem remaining_member (layout : Layout) (isFirst : Bool) (name : List Char) (value : Written)
    (parts : List Written) (rest : List Char) :
    remaining '}' layout isFirst (Written.member (writeText name) value :: parts) ++ rest =
      (if isFirst then [] else [',']) ++ (layout.inside.lineBreak ++ '"' :: (name.flatMap escaped ++
        '"' :: ':' :: (layout.inside.colon.tail ++ (value layout.inside ++
          (remaining '}' layout false parts ++ rest))))) := by
  rw [remaining, Written.member, colon_eq layout.inside, List.tail_cons, writeText]
  simp

/-- The closing bracket shows that no member follows. -/
theorem anotherMember_closing {blanks : List Char} (hBlanks : Blank blanks) (isFirst : Bool)
    (rest : List Char) :
    Members.anotherMember isFirst (blanks ++ '}' :: rest) = .ok (false, '}' :: rest) := by
  unfold Members.anotherMember
  rw [bind_peek_blanks hBlanks, bind_ok (peek_cons rfl rest)]
  rfl

/-- A quote shows that one does. -/
theorem anotherMember_part {blanks : List Char} (hBlanks : Blank blanks) (isFirst : Bool)
    (rest : List Char) :
    Members.anotherMember isFirst ((if isFirst then [] else [',']) ++ (blanks ++ '"' :: rest)) =
      .ok (true, rest) := by
  have hQuote : (do
      if (← peek) = '"' then
        advance
        return true
      else throw .malformed : Reader Bool) (blanks ++ '"' :: rest) = .ok (true, rest) := by
    rw [bind_peek_blanks hBlanks, bind_ok (peek_cons rfl rest), if_pos rfl]
    rfl
  cases isFirst with
  | true =>
    unfold Members.anotherMember
    rw [if_pos rfl, List.nil_append, bind_peek_blanks hBlanks, bind_ok (peek_cons rfl rest)]
    change (do
      if (← peek) = '"' then
        advance
        return true
      else throw .malformed : Reader Bool) ('"' :: rest) = _
    rw [bind_ok (peek_cons rfl rest), if_pos rfl]
    rfl
  | false => exact hQuote

/-- The value of a member is read behind its name and the colon. -/
theorem Format.Faithful.reads_member {α β : Type} {format : Format α} {numbers : α → List Float32}
    (h : format.Faithful numbers) (build : α → β) (a : α) (layout : Layout) (parts : List Written)
    (rest : List Char) :
    Reads (AllFinite (numbers a)) (do
      expect ':'
      let a ← format.read
      return build a)
      (':' :: (layout.inside.colon.tail ++ (format.write a layout.inside ++
        (remaining '}' layout false parts ++ rest)))) (build a)
      (remaining '}' layout false parts ++ rest) := by
  have hClosing : continuesNumber '}' = false := rfl
  have hValue :=
    (h.reads a layout.inside _ (delimited_remaining hClosing layout parts rest)).map build
  refine Reads.after (expect_blanks blank_nil rfl _) ?_
  have hBuild : (do let a ← format.read; return build a : Reader β) = build <$> format.read := rfl
  rw [Reads, hBuild, map_congr_text build (h.skips _ _ (blank_colon_tail layout.inside))]
  exact hValue

/-! ## Members that are found -/

namespace Members

variable {σ τ : Type}

/-- The names of the members. -/
def names : {τ : Type} → Members τ → List (List Char)
  | _, .nil => []
  | _, .cons first others => first.name.toList :: others.names

/-- What is found of the first member and of the others. -/
def both {α β : Type} (first : Member α) {others : Members β} (value : Option α)
    (found : others.Found) : (Members.cons first others).Found := (value, found)

/-- The values that are found in what a record is written as. -/
def kept : {τ : Type} → (members : Members τ) → τ → members.Found
  | _, .nil, _ => ()
  | _, .cons first others, (a, as) =>
    both first (if first.omits a then none else some a) (others.kept as)

/-- The formats of all members are faithful, no two have one name, and a value that is left out is
the one that is missing. -/
inductive Faithful : {τ : Type} → Members τ → (τ → List Float32) → Prop
  | nil : Faithful .nil fun _ => []
  | cons {α β : Type} {first : Member α} {others : Members β} {numbers : α → List Float32}
      {more : β → List Float32} (hFirst : first.format.Faithful numbers)
      (hOmits : ∀ a, first.omits a = true → first.missing = some a ∧ numbers a = [])
      (hName : first.name.toList ∉ others.names) (hOthers : others.Faithful more) :
      Faithful (.cons first others) fun values => numbers values.1 ++ more values.2

section

variable {α β : Type} {format : Format α} {others : Members β} {numbers : α → List Float32}
  {more : β → List Float32}

/-- A member that is always written. -/
theorem Faithful.required (name : String) (h : format.Faithful numbers)
    (hName : name.toList ∉ others.names) (hOthers : others.Faithful more) :
    (Members.cons (.required name format) others).Faithful
      fun values => numbers values.1 ++ more values.2 :=
  .cons h (fun _ hOmits => absurd hOmits Bool.false_ne_true) hName hOthers

/-- A member that is a value or null, and may be left out if it is null. -/
theorem Faithful.omissible (name : String) {omits : Option α → Bool} (h : format.Faithful numbers)
    (hNull : ∀ a layout, (format.write a layout).head? ≠ some 'n')
    (hOmits : ∀ o, omits o = true → o = none) (hName : name.toList ∉ others.names)
    (hOthers : others.Faithful more) :
    (Members.cons { Member.optional name format with omits } others).Faithful
      fun values => values.1.toList.flatMap numbers ++ more values.2 := by
  have hLeft : ∀ o, omits o = true →
      (some none : Option (Option α)) = some o ∧ o.toList.flatMap numbers = [] := by
    intro o hOmitted
    rw [hOmits o hOmitted]
    exact ⟨rfl, rfl⟩
  exact @Faithful.cons _ _ { Member.optional name format with omits } others _ _
    (h.optional hNull) hLeft hName hOthers

/-- A member that is a value or null, and is always written. -/
theorem Faithful.optional (name : String) (h : format.Faithful numbers)
    (hNull : ∀ a layout, (format.write a layout).head? ≠ some 'n')
    (hName : name.toList ∉ others.names) (hOthers : others.Faithful more) :
    (Members.cons (.optional name format) others).Faithful
      fun values => values.1.toList.flatMap numbers ++ more values.2 :=
  .omissible name h hNull (fun _ hOmits => absurd hOmits Bool.false_ne_true) hName hOthers

end

/-- What is found are all the values. -/
theorem all?_kept {members : Members τ} {numbers : τ → List Float32}
    (h : members.Faithful numbers) (values : τ) :
    members.all? (members.kept values) = some values := by
  induction h with
  | nil => rfl
  | @cons α β first others numbers more hFirst hOmits hName hOthers ih =>
    obtain ⟨a, as⟩ := values
    have hValue : (if first.omits a then none else some a).or first.missing = some a := by
      cases hLeft : first.omits a with
      | true => exact (hOmits a hLeft).1
      | false => rfl
    simp only [all?, kept, both, hValue, ih as]

/-- The first member is read where its name comes next. -/
theorem readNamed?_first {α β : Type} (first : Member α) {others : Members β}
    (found : others.Found) :
    (Members.cons first others).readNamed? first.name.toList (both first none found) = some (do
      expect ':'
      let a ← first.format.read
      return both first (some a) found) :=
  if_pos rfl

/-- Behind any other name the other members are looked at. -/
theorem readNamed?_others {α β : Type} {first : Member α} {others : Members β} {name : List Char}
    (hName : name ≠ first.name.toList) (value : Option α) (found : others.Found) :
    (Members.cons first others).readNamed? name (both first value found) =
      (others.readNamed? name found).map fun next => both first value <$> next :=
  if_neg hName

/-- What is found of some members has its place in what is found of all of them. -/
def Places (all : Members τ) (members : Members σ) (place : members.Found → all.Found) : Prop :=
  ∀ name ∈ members.names, ∀ found, all.readNamed? name (place found) =
    (members.readNamed? name found).map fun next => place <$> next

/-- All members are in their place. -/
theorem places_self (all : Members τ) : Places all all id := by
  intro name _ found
  rw [id_eq, show (fun next : Reader all.Found => id <$> next) = id from
    funext fun next => id_map next, Option.map_id, id_eq]

/-- The place of the other members is behind that of the first one. -/
theorem Places.others {α β : Type} {all : Members τ} {first : Member α} {others : Members β}
    {place : (Members.cons first others).Found → all.Found}
    (h : Places all (.cons first others) place) (hName : first.name.toList ∉ others.names)
    (value : Option α) : Places all others fun found => place (both first value found) := by
  intro name hMem found
  have hNe : name ≠ first.name.toList := by
    rintro rfl
    exact hName hMem
  refine (h name (List.mem_cons_of_mem _ hMem) (both first value found)).trans ?_
  rw [readNamed?_others hNe, Option.map_map]
  congr 1
  funext next
  exact (comp_map _ _ next).symm

/-- The texts of members. -/
def texts (members : List (List Char × Written)) : List Written :=
  members.map fun (name, value) => Written.member name value

/-- **The members that are left are read into their place.** The induction is on the members, for
any place. -/
theorem Faithful.reads_members {all : Members τ} (layout : Layout) (rest : List Char)
    {members : Members σ} {numbers : σ → List Float32} (h : members.Faithful numbers) :
    ∀ (place : members.Found → all.Found), Places all members place →
    ∀ (values : σ) (bound : List Char) (isFirst : Bool),
      (members.written values).length < bound.length →
      Reads (AllFinite (numbers values)) (all.readMembers bound isFirst (place members.nothing))
        (remaining '}' layout isFirst (texts (members.written values)) ++ rest)
        (place (members.kept values)) ('}' :: rest) := by
  induction h with
  | nil =>
    intro place _ values bound isFirst hBound
    obtain ⟨_, bound, rfl⟩ := List.exists_cons_of_length_pos hBound
    have hBlanks : Blank (if isFirst then [] else layout.lineBreak) := by
      cases isFirst with
      | true => exact blank_nil
      | false => exact blank_lineBreak layout
    have hClosing := anotherMember_closing hBlanks isFirst rest
    change Reads _ _ ((if isFirst then [] else layout.lineBreak) ++ ['}'] ++ rest) _ _
    rw [List.append_assoc]
    unfold readMembers
    refine Reads.after hClosing ?_
    exact (reads_of_eq_ok rfl).congr (iff_of_true trivial allFinite_nil)
  | @cons α β first others numbers more hFirst hOmits hName hOthers ih =>
    intro place hPlaces values bound isFirst hBound
    obtain ⟨a, as⟩ := values
    have hNothing : (Members.cons first others).nothing = both first none others.nothing := rfl
    rw [hNothing]
    cases hLeft : first.omits a with
    | true =>
      -- A value that is left out leaves its place as it is.
      have hWritten : (Members.cons first others).written (a, as) = others.written as :=
        if_pos hLeft
      have hKept : (Members.cons first others).kept (a, as) = both first none (others.kept as) := by
        rw [kept, hLeft, if_pos rfl]
      have hNumbers : numbers a ++ more as = more as := by
        rw [(hOmits a hLeft).2, List.nil_append]
      rw [hWritten] at hBound ⊢
      rw [hKept]
      change Reads (AllFinite (numbers a ++ more as)) _ _ _ _
      rw [hNumbers]
      exact ih _ (hPlaces.others hName none) as bound isFirst hBound
    | false =>
      have hWritten : (Members.cons first others).written (a, as) =
          (writeText first.name.toList, first.format.write a) :: others.written as :=
        if_neg (ne_true_of_eq_false hLeft)
      have hKept : (Members.cons first others).kept (a, as) =
          both first (some a) (others.kept as) := by
        rw [kept, hLeft, if_neg Bool.false_ne_true]
      rw [hWritten] at hBound ⊢
      rw [hKept]
      obtain ⟨_, bound, rfl⟩ := List.exists_cons_of_length_pos (Nat.zero_lt_of_lt hBound)
      have hNext := ih _ (hPlaces.others hName (some a)) as bound false
        (Nat.lt_of_succ_lt_succ hBound)
      have hNamed := hPlaces first.name.toList List.mem_cons_self (both first none others.nothing)
      rw [readNamed?_first, Option.map_some] at hNamed
      have hMember := (hFirst.reads_member (fun a => both first (some a) others.nothing) a layout
        (texts (others.written as)) rest).map place
      rw [texts, List.map_cons, remaining_member]
      unfold readMembers
      refine Reads.after (anotherMember_part (blank_lineBreak _) isFirst _) ?_
      refine Reads.after (readText_writeText [] first.name.toList _) ?_
      rw [List.reverse_nil, List.nil_append, hNamed]
      exact (hMember.bind fun _ => hNext).congr allFinite_append.symm

private theorem length_lt_texts (members : Members τ) (layout : Layout) (values : τ)
    (rest : List Char) : (members.written values).length <
      (remaining '}' layout true (texts (members.written values)) ++ rest).length := by
  have hNames : ∀ part ∈ texts (members.written values), 0 < (part layout.inside).length := by
    intro part hPart
    obtain ⟨⟨name, value⟩, -, rfl⟩ := List.mem_map.1 hPart
    change 0 < (name ++ (layout.inside.colon ++ value layout.inside)).length
    rw [colon_eq]
    simp
  have hLess := length_lt_remaining '}' layout true _ hNames
  rw [texts, List.length_map] at hLess
  rw [List.length_append, texts]
  omega

end Members

/-- **Records are kept.** -/
theorem Format.faithful_record {τ : Type} {members : Members τ} {numbers : τ → List Float32}
    (h : members.Faithful numbers) : (Format.record members).Faithful numbers where
  opens values layout :=
    ⟨'{', _, bracketed_eq '{' '}' (Members.texts (members.written values)) layout, rfl, by decide⟩
  skips blanks text hBlanks := bind_peek_blanks hBlanks _ text
  reads values layout rest hRest := by
    have hMembers := h.reads_members layout rest id (Members.places_self members) values
      (remaining '}' layout true (Members.texts (members.written values)) ++ rest) true
      (Members.length_lt_texts members layout values rest)
    change Reads _ _
      (Written.bracketed '{' '}' (Members.texts (members.written values)) layout ++ rest) _ _
    rw [bracketed_eq, List.cons_append]
    refine Reads.after (peek_cons rfl _) ?_
    change Reads _ members.readObject
      (remaining '}' layout true (Members.texts (members.written values)) ++ rest) _ _
    unfold Members.readObject
    refine Reads.after (show (get : Reader (List Char)) _ = .ok (_, _) from rfl) ?_
    refine Reads.congr (hMembers.bind fun _ => ?_) (iff_of_eq (and_true _))
    rw [id_eq, Members.all?_kept h]
    exact reads_of_eq_ok rfl

/-! ## Kinds -/

/-- The name of a kind is read, behind any blanks. -/
private theorem readKind_name {α : Type} {kinds : List (String × Alternative α)} {name : List Char}
    {kind : String × Alternative α}
    (hKind : kinds.find? (fun kind => name = kind.1.toList) = some kind) {blanks : List Char}
    (hBlanks : Blank blanks) (rest : List Char) :
    readKind kinds (blanks ++ '"' :: (name.flatMap escaped ++ '"' :: rest)) =
      .ok (kind.2, rest) := by
  have hName : readQuoted ('"' :: (name.flatMap escaped ++ '"' :: rest)) = .ok (name, rest) :=
    readText_writeText [] name rest
  unfold readKind
  rw [bind_peek_blanks hBlanks, bind_ok (peek_cons rfl _), if_neg (by decide), bind_ok hName, hKind]
  rfl

/-- Values of several kinds are kept if each has a reader of its kind that reads what it carries,
behind any blanks. -/
theorem Format.faithful_oneOf {α : Type} {kinds : List (String × Alternative α)} {name : α → String}
    {carried : α → Written} {numbers : α → List Float32}
    (h : ∀ a, ∃ read, kinds.find? (fun kind => (name a).toList = kind.1.toList) =
        some (name a, .carrying read) ∧
      ∀ blanks layout rest, Blank blanks → Delimited rest →
        Reads (AllFinite (numbers a)) read (blanks ++ (carried a layout ++ rest)) a rest) :
    (Format.oneOf kinds fun a => (name a, some (carried a))).Faithful numbers where
  opens a layout :=
    ⟨'{', _, bracketed_eq '{' '}' [Written.member (writeText (name a).toList) (carried a)] layout,
      rfl, by decide⟩
  skips blanks text hBlanks := bind_peek_blanks hBlanks _ text
  reads a layout rest hRest := by
    obtain ⟨read, hKind, hRead⟩ := h a
    have hClosing : continuesNumber '}' = false := rfl
    have hValue := hRead layout.inside.colon.tail layout.inside _ (blank_colon_tail _)
      (delimited_remaining hClosing layout [] rest)
    change Reads _ (readOneOf kinds) (Written.bracketed '{' '}'
      [Written.member (writeText (name a).toList) (carried a)] layout ++ rest) _ _
    rw [bracketed_eq, List.cons_append, remaining_member]
    unfold readOneOf
    refine Reads.after (peek_cons rfl _) ?_
    refine Reads.after (a := ()) rfl ?_
    refine Reads.after (readKind_name hKind (blank_lineBreak _) _) ?_
    refine Reads.after (expect_blanks blank_nil rfl _) ?_
    refine Reads.congr (hValue.bind fun _ =>
      Reads.after (expect_remaining rfl layout rest) reads_pure) (iff_of_eq (and_true _))

end IndexedMesh.Json
