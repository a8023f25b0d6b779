import EntityMapper.Proofs.Dict
import EntityMapper.Proofs.Json.Number
import EntityMapper.Proofs.Json.Strings

/-!
# Values in JSON text

A value without binary64 numbers is read back from its compact text, as long as its lists and objects
nest no deeper than the reader goes.
-/

namespace EntityMapper.Json

/-! ## Values that text can hold -/

mutual
/-- Integers have 64 bits, and the members of an object stand in the order of their keys. -/
def WellFormed : Json → Prop
  | .int n => Fits n
  | .arr items => WellFormedItems items
  | .obj members => Dict.Sorted members ∧ WellFormedMembers members
  | _ => True

def WellFormedItems : List Json → Prop
  | [] => True
  | j :: rest => WellFormed j ∧ WellFormedItems rest

def WellFormedMembers : List (String × Json) → Prop
  | [] => True
  | (_, j) :: rest => WellFormed j ∧ WellFormedMembers rest
end

mutual
/-- No binary64 number is in the value. -/
def FloatFree : Json → Prop
  | .float _ => False
  | .arr items => FloatFreeItems items
  | .obj members => FloatFreeMembers members
  | _ => True

def FloatFreeItems : List Json → Prop
  | [] => True
  | j :: rest => FloatFree j ∧ FloatFreeItems rest

def FloatFreeMembers : List (String × Json) → Prop
  | [] => True
  | (_, j) :: rest => FloatFree j ∧ FloatFreeMembers rest
end

mutual
/-- How deep lists and objects nest. -/
def depth : Json → Nat
  | .arr items => depthItems items + 1
  | .obj members => depthMembers members + 1
  | _ => 0

def depthItems : List Json → Nat
  | [] => 0
  | j :: rest => max (depth j) (depthItems rest)

def depthMembers : List (String × Json) → Nat
  | [] => 0
  | (_, j) :: rest => max (depth j) (depthMembers rest)
end

/-! ## One step of the reader -/

variable {fuel limit : Nat} {cs rest more : List Char} {j : Json}

theorem skipSpace_cons {c : Char} (h : isSpace c = false) (cs : List Char) :
    skipSpace (c :: cs) = c :: cs := by
  simp [skipSpace, h]

/-- A digit or a minus sign. -/
def BeginsNumber (c : Char) : Prop := Text.Decimal.isDigit c = true ∨ c = '-'

theorem BeginsNumber.ne {c d : Char} (h : BeginsNumber c)
    (hd : d ∈ [' ', '\n', '\r', '\t', 'n', 't', 'f', '[', ']', '{', '"']) : c ≠ d := by
  rintro rfl
  simp only [List.mem_cons, List.not_mem_nil, or_false] at hd
  rcases hd with rfl | rfl | rfl | rfl | rfl | rfl | rfl | rfl | rfl | rfl | rfl <;>
    rcases h with h | h <;> cases h

theorem BeginsNumber.isSpace_eq {c : Char} (h : BeginsNumber c) : isSpace c = false := by
  simp [isSpace, h.ne]

/-- It begins a number and nothing else. -/
theorem value?_number {c : Char} (h : BeginsNumber c) :
    value? (fuel + 1) limit (c :: cs) = number? (c :: cs) := by
  unfold value?
  rw [skipSpace_cons h.isSpace_eq]
  simp [h.ne]

theorem exists_ofInt (n : Int) : ∃ c cs, Text.Decimal.ofInt n = c :: cs ∧ BeginsNumber c := by
  unfold Text.Decimal.ofInt
  split
  · exact ⟨_, _, rfl, .inr rfl⟩
  · obtain ⟨c, cs, hdigits⟩ := List.exists_cons_of_ne_nil (Text.Decimal.digits_ne_nil n.natAbs)
    have hmem : c ∈ Text.Decimal.digits n.natAbs := hdigits ▸ List.mem_cons_self
    exact ⟨c, cs, hdigits, .inl (Text.Decimal.isDigit_of_mem_digits hmem)⟩

theorem value?_int {n : Int} (hn : Fits n) (h : Ends rest) :
    value? (fuel + 1) limit (Text.Decimal.ofInt n ++ rest) = some (.int n, rest) := by
  obtain ⟨c, cs, htext, hbegin⟩ := exists_ofInt n
  rw [← number?_ofInt hn h, htext, List.cons_append, value?_number hbegin]

theorem value?_str (s : String) :
    value? (fuel + 1) limit (stringChars s ++ rest) = some (.str s, rest) := by
  have hread := string?_stringChars s rest
  unfold stringChars at hread ⊢
  rw [List.cons_append] at hread ⊢
  unfold value?
  rw [skipSpace_cons rfl]
  change (string? _).map _ = _
  rw [hread]
  rfl

/-- What follows the opening bracket is not the end of an empty list. -/
theorem value?_list {items : List Json}
    (hcs : ∃ c tail, cs = c :: tail ∧ isSpace c = false ∧ c ≠ ']')
    (h : items? fuel limit cs = some (items, rest)) :
    value? (fuel + 1) (limit + 1) ('[' :: cs) = some (.arr items, rest) := by
  obtain ⟨c, tail, rfl, hspace, hc⟩ := hcs
  unfold value?
  rw [skipSpace_cons rfl]
  simp [skipSpace_cons hspace, hc, h]

theorem value?_object {members : List (String × Json)}
    (h : members? fuel limit ('"' :: cs) = some (members, rest)) :
    value? (fuel + 1) (limit + 1) ('{' :: '"' :: cs) = some (.obj (Dict.ofList members), rest) := by
  unfold value?
  rw [skipSpace_cons rfl]
  simp [skipSpace_cons (c := '"') rfl, h]

theorem items?_last (h : value? fuel limit cs = some (j, ']' :: rest)) :
    items? (fuel + 1) limit cs = some ([j], rest) := by
  unfold items?
  rw [h]
  rfl

theorem items?_next {items : List Json} (h : value? fuel limit cs = some (j, ',' :: more))
    (hmore : items? fuel limit more = some (items, rest)) :
    items? (fuel + 1) limit cs = some (j :: items, rest) := by
  unfold items?
  rw [h, Option.bind_eq_bind, Option.bind_some]
  change (items? fuel limit more >>= _) = _
  rw [hmore]
  rfl

theorem string?_key (key : String) (cs : List Char) :
    string? (skipSpace (stringChars key ++ ':' :: cs)) = some (key, ':' :: cs) := by
  rw [← string?_stringChars key (':' :: cs)]
  rfl

theorem members?_last {key : String} (h : value? fuel limit cs = some (j, '}' :: rest)) :
    members? (fuel + 1) limit (stringChars key ++ ':' :: cs) = some ([(key, j)], rest) := by
  unfold members?
  rw [string?_key, Option.bind_eq_bind, Option.bind_some]
  change (value? fuel limit cs >>= _) = _
  rw [h]
  rfl

theorem members?_next {key : String} {members : List (String × Json)}
    (h : value? fuel limit cs = some (j, ',' :: more))
    (hmore : members? fuel limit more = some (members, rest)) :
    members? (fuel + 1) limit (stringChars key ++ ':' :: cs) = some ((key, j) :: members, rest) := by
  unfold members?
  rw [string?_key, Option.bind_eq_bind, Option.bind_some]
  change (value? fuel limit cs >>= _) = _
  rw [h, Option.bind_eq_bind, Option.bind_some]
  change (members? fuel limit more >>= _) = _
  rw [hmore]
  rfl

/-! ## Values from their text -/

theorem ends_itemChars (items : List Json) (rest : List Char) : Ends (itemChars items ++ rest) := by
  intro c hc
  cases items <;> cases hc <;> simp

theorem ends_memberChars (members : List (String × Json)) (rest : List Char) :
    Ends (memberChars members ++ rest) := by
  intro c hc
  cases members <;> cases hc <;> simp

/-- A text does not begin with a blank or with the end of a list. -/
theorem exists_chars (h : j.FloatFree) :
    ∃ c cs, j.chars = c :: cs ∧ isSpace c = false ∧ c ≠ ']' := by
  cases j with
  | int n =>
    obtain ⟨c, cs, htext, hbegin⟩ := exists_ofInt n
    exact ⟨c, cs, htext, hbegin.isSpace_eq, hbegin.ne (by decide)⟩
  | float x => exact h.elim
  | bool b => cases b <;> exact ⟨_, _, rfl, rfl, by decide⟩
  | arr items => cases items <;> exact ⟨_, _, rfl, rfl, by decide⟩
  | obj members => cases members <;> exact ⟨_, _, rfl, rfl, by decide⟩
  | _ => exact ⟨_, _, rfl, rfl, by decide⟩

/-- The items of a list, after the bracket that opens it. -/
def itemText : List Json → List Char
  | [] => []
  | j :: rest => j.chars ++ itemChars rest

def memberText : List (String × Json) → List Char
  | [] => []
  | (key, j) :: rest => stringChars key ++ ':' :: (j.chars ++ memberChars rest)

theorem exists_itemText {items : List Json} (hitems : items ≠ []) (h : FloatFreeItems items)
    (rest : List Char) :
    ∃ c tail, itemText items ++ rest = c :: tail ∧ isSpace c = false ∧ c ≠ ']' := by
  cases items with
  | nil => exact absurd rfl hitems
  | cons j others =>
    obtain ⟨c, cs, htext, hc⟩ := exists_chars h.1
    exact ⟨c, cs ++ itemChars others ++ rest, by rw [itemText, htext]; rfl, hc⟩

-- The induction is on the value. No part of a text has more values in it than characters, so its
-- length is fuel enough for it.
mutual
theorem value?_chars (j : Json) {fuel limit : Nat} {rest : List Char} (hwell : j.WellFormed)
    (hfree : j.FloatFree) (hdepth : j.depth ≤ limit) (hfuel : j.chars.length ≤ fuel)
    (hrest : Ends rest) : value? fuel limit (j.chars ++ rest) = some (j, rest) := by
  have hpos : 0 < j.chars.length := by
    obtain ⟨c, cs, htext, -⟩ := exists_chars hfree
    rw [htext, List.length_cons]
    omega
  obtain ⟨fuel, rfl⟩ := Nat.exists_eq_add_one.mpr (Nat.lt_of_lt_of_le hpos hfuel)
  cases j with
  | null => rfl
  | bool b => cases b <;> rfl
  | int n => exact value?_int hwell hrest
  | float x => exact hfree.elim
  | str s => exact value?_str s
  | arr items =>
    obtain ⟨limit, rfl⟩ := Nat.exists_eq_add_one.mpr (Nat.zero_lt_of_lt hdepth)
    have hdepth := Nat.le_of_succ_le_succ hdepth
    cases items with
    | nil => rfl
    | cons j others =>
      have hfuel := Nat.le_of_succ_le_succ hfuel
      have hne := List.cons_ne_nil j others
      have hbegin := exists_itemText hne hfree rest
      exact value?_list hbegin (items?_chars (j :: others) hwell hfree hdepth hne hfuel)
  | obj members =>
    obtain ⟨limit, rfl⟩ := Nat.exists_eq_add_one.mpr (Nat.zero_lt_of_lt hdepth)
    have hdepth := Nat.le_of_succ_le_succ hdepth
    cases members with
    | nil => rfl
    | cons member others =>
      have hfuel := Nat.le_of_succ_le_succ hfuel
      have hne := List.cons_ne_nil member others
      have hread : members? _ limit (memberText (member :: others) ++ rest) = _ :=
        members?_chars (member :: others) hwell.2 hfree hdepth hne hfuel
      have hobject := value?_object hread
      rw [Dict.ofList_eq_self hwell.1] at hobject
      exact hobject

theorem items?_chars (items : List Json) {fuel limit : Nat} {rest : List Char}
    (hwell : WellFormedItems items) (hfree : FloatFreeItems items)
    (hdepth : depthItems items ≤ limit) (hitems : items ≠ [])
    (hfuel : (itemText items).length ≤ fuel) :
    items? fuel limit (itemText items ++ rest) = some (items, rest) := by
  cases items with
  | nil => exact absurd rfl hitems
  | cons j others =>
    obtain ⟨hlimit, hothers⟩ := Nat.max_le.mp hdepth
    have hpos : 0 < (itemChars others).length := by cases others <;> simp [itemChars]
    rw [itemText, List.length_append] at hfuel
    obtain ⟨fuel, rfl⟩ := Nat.exists_eq_add_one.mpr (by omega : 0 < fuel)
    have hj : value? fuel limit (j.chars ++ (itemChars others ++ rest))
        = some (j, itemChars others ++ rest) :=
      value?_chars j hwell.1 hfree.1 hlimit (by omega) (ends_itemChars others rest)
    rw [itemText, List.append_assoc]
    cases others with
    | nil => exact items?_last hj
    | cons next others =>
      have hlength : (itemText (next :: others)).length ≤ fuel := by
        rw [itemChars, List.length_cons] at hfuel
        rw [itemText]
        omega
      have hne := List.cons_ne_nil next others
      exact items?_next hj (items?_chars (next :: others) hwell.2 hfree.2 hothers hne hlength)

theorem members?_chars (members : List (String × Json)) {fuel limit : Nat} {rest : List Char}
    (hwell : WellFormedMembers members) (hfree : FloatFreeMembers members)
    (hdepth : depthMembers members ≤ limit) (hmembers : members ≠ [])
    (hfuel : (memberText members).length ≤ fuel) :
    members? fuel limit (memberText members ++ rest) = some (members, rest) := by
  cases members with
  | nil => exact absurd rfl hmembers
  | cons member others =>
    obtain ⟨key, j⟩ := member
    obtain ⟨hlimit, hothers⟩ := Nat.max_le.mp hdepth
    rw [memberText, List.length_append, List.length_cons, List.length_append] at hfuel
    obtain ⟨fuel, rfl⟩ := Nat.exists_eq_add_one.mpr (by omega : 0 < fuel)
    have hj : value? fuel limit (j.chars ++ (memberChars others ++ rest))
        = some (j, memberChars others ++ rest) :=
      value?_chars j hwell.1 hfree.1 hlimit (by omega) (ends_memberChars others rest)
    rw [memberText, List.append_assoc, List.cons_append, List.append_assoc]
    cases others with
    | nil => exact members?_last hj
    | cons next others =>
      have hlength : (memberText (next :: others)).length ≤ fuel := by
        rw [memberChars, List.length_cons] at hfuel
        rw [memberText]
        omega
      have hne := List.cons_ne_nil next others
      exact members?_next hj (members?_chars (next :: others) hwell.2 hfree.2 hothers hne hlength)
end

/-- A value is read back from its compact text. -/
theorem read?_compact {j : Json} (hwell : j.WellFormed) (hfree : j.FloatFree)
    (hdepth : j.depth ≤ nestingLimit) : read? j.compact = some j := by
  have hread : value? (2 * j.chars.length + 1) nestingLimit (j.chars ++ []) = some (j, []) :=
    value?_chars j hwell hfree hdepth (by omega) (by simp [Ends])
  rw [List.append_nil] at hread
  unfold read? parse? compact
  rw [String.toList_ofList]
  dsimp only
  rw [hread]
  rfl

end EntityMapper.Json
