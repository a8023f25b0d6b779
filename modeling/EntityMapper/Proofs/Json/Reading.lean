import EntityMapper.Proofs.Json.RoundTrip

/-!
# What JSON text gives

The values of JSON text are well formed: their integers have 64 bits and their members are in order.
No text has itself, as a string, for its value.
-/

namespace EntityMapper.Json

variable {fuel limit : Nat} {cs rest : List Char} {j : Json}

/-! ## Numbers -/

theorem whole_digits_le {n : Nat} (hn : n ≤ unsignedLimit) (cs : List Char) :
    (Significand.whole n cs).digits ≤ unsignedLimit := by
  induction cs generalizing n with
  | nil => exact hn
  | cons c cs ih =>
    unfold Significand.whole
    dsimp only
    split
    · rename_i hnext
      exact ih hnext
    · exact hn

/-- An integer of 64 bits or a binary64 number. -/
def IsNumber (j : Json) : Prop := (∃ n, j = .int n ∧ Fits n) ∨ ∃ x, j = .float x

theorem isNumber_of_integer? {negative : Bool} {s : Significand} (hs : s.digits ≤ unsignedLimit)
    (h : integer? negative s = some j) : j.IsNumber := by
  have hfloat : ∀ {b : Bool}, (s.toDouble? b).map .float = some j → j.IsNumber := by
    intro b h
    obtain ⟨x, -, rfl⟩ := Option.map_eq_some_iff.mp h
    exact .inr ⟨x, rfl⟩
  unfold integer? at h
  unfold unsignedLimit at hs
  split at h
  · exact hfloat h
  · split at h
    · cases h
      exact .inl ⟨_, rfl, by unfold Fits unsignedLimit; omega⟩
    · split at h
      · exact hfloat h
      · cases h
        exact .inl ⟨_, rfl, by unfold Fits unsignedLimit; omega⟩

theorem isNumber_of_unsignedNumber? {negative : Bool}
    (h : unsignedNumber? negative cs = some (j, rest)) : j.IsNumber := by
  have hlimit (ds : List Char) := whole_digits_le (Nat.zero_le unsignedLimit) ds
  simp only [unsignedNumber?, Option.bind_eq_bind, Option.bind_eq_some_iff] at h
  obtain ⟨⟨ds, after⟩, -, h⟩ := h
  split at h
  · cases h
  · split at h
    · simp only [Option.bind_eq_some_iff, Option.pure_def, Option.some.injEq] at h
      obtain ⟨_, _, _, _, x, _, h⟩ := h
      cases h
      exact .inr ⟨x, rfl⟩
    · simp only [Option.bind_eq_some_iff] at h
      obtain ⟨_, _, h⟩ := h
      split at h
      · simp only [Option.bind_eq_some_iff, Option.pure_def, Option.some.injEq] at h
        obtain ⟨number, hnumber, h⟩ := h
        cases h
        exact isNumber_of_integer? (hlimit ds) hnumber
      · simp only [Option.bind_eq_some_iff, Option.pure_def, Option.some.injEq] at h
        obtain ⟨x, _, h⟩ := h
        cases h
        exact .inr ⟨x, rfl⟩

theorem isNumber_of_number? (h : number? cs = some (j, rest)) : j.IsNumber := by
  unfold number? at h
  split at h <;> exact isNumber_of_unsignedNumber? h

/-! ## Values -/

/-- Where a value that was read comes from: `items?` or `members?` when it has parts. -/
inductive ReadBy (fuel : Nat) (cs rest : List Char) : Json → Prop
  | null : ReadBy fuel cs rest .null
  | bool (b : Bool) : ReadBy fuel cs rest (.bool b)
  | number {j : Json} (h : j.IsNumber) : ReadBy fuel cs rest j
  | str {tail : List Char} {s : String} (hcs : skipSpace cs = tail)
      (h : string? tail = some (s, rest)) : ReadBy fuel cs rest (.str s)
  | arr {items : List Json}
      (h : items = [] ∨ ∃ limit tail, items? fuel limit tail = some (items, rest)) :
      ReadBy fuel cs rest (.arr items)
  | obj {members : List (String × Json)}
      (h : members = [] ∨ ∃ limit tail, members? fuel limit tail = some (members, rest)) :
      ReadBy fuel cs rest (.obj (Dict.ofList members))

theorem readBy_of_value? (h : value? (fuel + 1) limit cs = some (j, rest)) :
    ReadBy fuel cs rest j := by
  unfold value? at h
  split at h
  · cases h
    exact .null
  · cases h
    exact .bool true
  · cases h
    exact .bool false
  · split at h
    · cases h
    · split at h
      · cases h
        exact .arr (.inl rfl)
      · obtain ⟨⟨items, after⟩, hitems, heq⟩ := Option.map_eq_some_iff.mp h
        cases heq
        exact .arr (.inr ⟨_, _, hitems⟩)
  · split at h
    · cases h
    · split at h
      · cases h
        exact .obj (.inl rfl)
      · obtain ⟨⟨members, after⟩, hmembers, heq⟩ := Option.map_eq_some_iff.mp h
        cases heq
        exact .obj (.inr ⟨_, _, hmembers⟩)
  · rename_i tail hcs
    obtain ⟨⟨s, after⟩, hs, heq⟩ := Option.map_eq_some_iff.mp h
    cases heq
    exact .str hcs hs
  · exact .number (isNumber_of_number? h)

/-! ## Strings -/

theorem length_lt_of_string? {s : String} (h : string? cs = some (s, rest)) :
    s.length < cs.length := by
  unfold string? at h
  split at h
  · obtain ⟨⟨out, after⟩, hout, heq⟩ := Option.map_eq_some_iff.mp h
    cases heq
    have hshorter := length_lt_of_stringRest hout
    rw [String.length_ofList, List.length_cons]
    omega
  · cases h

theorem length_lt_of_value? {s : String} (h : value? fuel limit cs = some (.str s, rest)) :
    s.length < cs.length := by
  cases fuel with
  | zero =>
    unfold value? at h
    cases h
  | succ fuel =>
    cases readBy_of_value? h with
    | number hnumber =>
      rcases hnumber with ⟨n, hn, -⟩ | ⟨x, hx⟩
      · cases hn
      · cases hx
    | str hcs hs =>
      have hspace : (skipSpace cs).length ≤ cs.length := (List.dropWhile_suffix isSpace).length_le
      rw [hcs] at hspace
      exact Nat.lt_of_lt_of_le (length_lt_of_string? hs) hspace

/-- A string is not the value of its own text. -/
theorem read?_ne_str (s : String) : read? s ≠ some (.str s) := by
  intro h
  simp only [read?, parse?, Option.bind_eq_bind, Option.bind_eq_some_iff] at h
  obtain ⟨⟨j, rest⟩, hvalue, h⟩ := h
  split at h
  · cases h
    exact absurd (length_lt_of_value? hvalue) (by rw [String.length_toList]; omega)
  · cases h

/-! ## Well-formed values -/

theorem IsNumber.wellFormed (h : j.IsNumber) : j.WellFormed := by
  rcases h with ⟨n, rfl, hn⟩ | ⟨x, rfl⟩
  · exact hn
  · trivial

theorem wellFormedMembers_iff (members : List (String × Json)) :
    WellFormedMembers members ↔ ∀ m ∈ members, m.2.WellFormed := by
  induction members with
  | nil => simp [WellFormedMembers]
  | cons member rest ih => simp [WellFormedMembers, ih]

theorem wellFormed_ofList {members : List (String × Json)} (h : WellFormedMembers members) :
    (obj (Dict.ofList members)).WellFormed := by
  refine ⟨Dict.sorted_ofList members, (wellFormedMembers_iff _).mpr fun m hm => ?_⟩
  exact (wellFormedMembers_iff members).mp h m (Dict.mem_of_mem_ofList hm)

/-- What the reader gives with some fuel is well formed. -/
structure GivesWellFormed (fuel : Nat) : Prop where
  value {limit : Nat} {cs rest : List Char} {j : Json} :
    value? fuel limit cs = some (j, rest) → j.WellFormed
  items {limit : Nat} {cs rest : List Char} {items : List Json} :
    items? fuel limit cs = some (items, rest) → WellFormedItems items
  members {limit : Nat} {cs rest : List Char} {members : List (String × Json)} :
    members? fuel limit cs = some (members, rest) → WellFormedMembers members

theorem GivesWellFormed.value_succ (ih : GivesWellFormed fuel)
    (h : value? (fuel + 1) limit cs = some (j, rest)) : j.WellFormed := by
  cases readBy_of_value? h with
  | null | bool | str => trivial
  | number hnumber => exact hnumber.wellFormed
  | arr hitems =>
    rcases hitems with rfl | ⟨_, _, hitems⟩
    · trivial
    · exact ih.items hitems
  | obj hmembers =>
    rcases hmembers with rfl | ⟨_, _, hmembers⟩
    · exact wellFormed_ofList trivial
    · exact wellFormed_ofList (ih.members hmembers)

theorem GivesWellFormed.items_succ (ih : GivesWellFormed fuel) {items : List Json}
    (h : items? (fuel + 1) limit cs = some (items, rest)) : WellFormedItems items := by
  unfold items? at h
  simp only [Option.bind_eq_bind, Option.bind_eq_some_iff] at h
  obtain ⟨⟨j, after⟩, hj, h⟩ := h
  split at h
  · simp only [Option.bind_eq_some_iff, Option.pure_def] at h
    obtain ⟨⟨others, last⟩, hothers, h⟩ := h
    cases h
    exact ⟨ih.value hj, ih.items hothers⟩
  · cases h
    exact ⟨ih.value hj, trivial⟩
  · cases h

theorem GivesWellFormed.members_succ (ih : GivesWellFormed fuel) {members : List (String × Json)}
    (h : members? (fuel + 1) limit cs = some (members, rest)) : WellFormedMembers members := by
  unfold members? at h
  simp only [Option.bind_eq_bind, Option.bind_eq_some_iff] at h
  obtain ⟨⟨key, afterKey⟩, -, h⟩ := h
  split at h
  · simp only [Option.bind_eq_some_iff] at h
    obtain ⟨⟨j, after⟩, hj, h⟩ := h
    split at h
    · simp only [Option.bind_eq_some_iff, Option.pure_def] at h
      obtain ⟨⟨others, last⟩, hothers, h⟩ := h
      cases h
      exact ⟨ih.value hj, ih.members hothers⟩
    · cases h
      exact ⟨ih.value hj, trivial⟩
    · cases h
  · cases h

theorem givesWellFormed (fuel : Nat) : GivesWellFormed fuel := by
  induction fuel with
  | zero =>
    constructor
    · intro limit cs rest j h
      unfold value? at h
      cases h
    · intro limit cs rest items h
      unfold items? at h
      cases h
    · intro limit cs rest members h
      unfold members? at h
      cases h
  | succ fuel ih => exact ⟨ih.value_succ, ih.items_succ, ih.members_succ⟩

/-- The value of any JSON text is well formed. -/
theorem wellFormed_of_parse? {limit : Nat} {text : String} (h : parse? limit text = some j) :
    j.WellFormed := by
  simp only [parse?, Option.bind_eq_bind, Option.bind_eq_some_iff] at h
  obtain ⟨⟨j, rest⟩, hvalue, h⟩ := h
  split at h
  · cases h
    exact (givesWellFormed _).value hvalue
  · cases h

end EntityMapper.Json
