import EntityMapper.Dict
import EntityMapper.Proofs.Keyed
import Mathlib.Data.List.Forall2

/-!
# Looking up what was inserted

`insert` changes what is found under its own key and under no other. Nothing is asked of the order
of the entries. In a dictionary that is gathered from entries, the last value of a key is found, or
the group of all of them; entries that are in order already stay as they are.
-/

namespace EntityMapper.Dict

universe u

variable {α : Type u}

theorem get?_cons (k : String) (v : α) (rest : Dict α) (key : String) :
    get? ((k, v) :: rest) key = if k = key then some v else get? rest key := rfl

@[simp] theorem get?_insert_self (d : Dict α) (key : String) (value : α) :
    get? (insert d key value) key = some value := by
  induction d with
  | nil => simp [insert, get?]
  | cons entry rest ih =>
    obtain ⟨k, v⟩ := entry
    unfold insert
    split
    · simp [get?]
    · split
      · simp [get?]
      · rename_i hne _
        rw [get?_cons, if_neg (fun h => hne h.symm), ih]

theorem get?_insert_of_ne (d : Dict α) {key other : String} (value : α) (h : other ≠ key) :
    get? (insert d key value) other = get? d other := by
  induction d with
  | nil => simp [insert, get?, h.symm]
  | cons entry rest ih =>
    obtain ⟨k, v⟩ := entry
    unfold insert
    split
    · rename_i hk
      rw [get?_cons, get?_cons, if_neg h.symm, if_neg (by rw [← hk]; exact h.symm)]
    · split
      · rw [get?_cons, if_neg h.symm]
      · rw [get?_cons, get?_cons, ih]

theorem mem_of_get? {d : Dict α} {key : String} {value : α} (h : get? d key = some value) :
    (key, value) ∈ d := by
  induction d with
  | nil => simp [get?] at h
  | cons entry rest ih =>
    obtain ⟨k, v⟩ := entry
    rw [get?_cons] at h
    split at h
    · rename_i hk
      obtain rfl := Option.some.inj h
      simp [hk]
    · exact List.mem_cons_of_mem _ (ih h)

/-- An entry stays when another is inserted, unless it is what was found under that key. -/
theorem mem_insert_or {d : Dict α} {k : String} {v : α} (key : String) (value : α) (h : (k, v) ∈ d) :
    (k, v) ∈ insert d key value ∨ k = key ∧ get? d key = some v := by
  induction d with
  | nil => cases h
  | cons entry rest ih =>
    obtain ⟨k₀, v₀⟩ := entry
    unfold insert
    split
    · rename_i hkey
      rcases List.mem_cons.mp h with h | h
      · cases h
        exact .inr ⟨hkey.symm, by rw [get?_cons, if_pos hkey.symm]⟩
      · exact .inl (List.mem_cons_of_mem _ h)
    · rename_i hkey
      split
      · exact .inl (List.mem_cons_of_mem _ h)
      · rcases List.mem_cons.mp h with h | h
        · exact .inl (h ▸ List.mem_cons_self)
        · rcases ih h with h | ⟨hk, hget⟩
          · exact .inl (List.mem_cons_of_mem _ h)
          · exact .inr ⟨hk, by rw [get?_cons, if_neg (fun he => hkey he.symm), hget]⟩

theorem mem_of_mem_insert {d : Dict α} {key : String} {value : α} {entry : String × α}
    (h : entry ∈ insert d key value) : entry = (key, value) ∨ entry ∈ d := by
  induction d with
  | nil => exact .inl (List.mem_singleton.mp h)
  | cons first rest ih =>
    obtain ⟨k₀, v₀⟩ := first
    unfold insert at h
    split at h
    · rcases List.mem_cons.mp h with h | h
      · exact .inl h
      · exact .inr (List.mem_cons_of_mem _ h)
    · split at h
      · rcases List.mem_cons.mp h with h | h
        · exact .inl h
        · exact .inr h
      · rcases List.mem_cons.mp h with h | h
        · exact .inr (h ▸ List.mem_cons_self)
        · exact (ih h).imp_right (List.mem_cons_of_mem _)

theorem mem_of_mem_foldl_insert {entries : List (String × α)} {d : Dict α} {entry : String × α}
    (h : entry ∈ entries.foldl (fun d e => insert d e.1 e.2) d) : entry ∈ d ∨ entry ∈ entries := by
  induction entries generalizing d with
  | nil => exact .inl h
  | cons first rest ih =>
    rcases ih h with h | h
    · rcases mem_of_mem_insert h with rfl | h
      · exact .inr List.mem_cons_self
      · exact .inl h
    · exact .inr (List.mem_cons_of_mem _ h)

theorem mem_of_mem_ofList {entries : List (String × α)} {entry : String × α}
    (h : entry ∈ ofList entries) : entry ∈ entries :=
  (mem_of_mem_foldl_insert h).resolve_left List.not_mem_nil

/-- What is inserted stands at a place that does not depend on its value. -/
theorem exists_insert_eq (d : Dict α) (key : String) :
    ∃ before after, ∀ value, insert d key value = before ++ (key, value) :: after := by
  induction d with
  | nil => exact ⟨[], [], fun _ => rfl⟩
  | cons first rest ih =>
    obtain ⟨k, v⟩ := first
    obtain ⟨before, after, ih⟩ := ih
    unfold insert
    split
    · exact ⟨[], rest, fun _ => rfl⟩
    · split
      · exact ⟨[], (k, v) :: rest, fun _ => rfl⟩
      · exact ⟨(k, v) :: before, after, fun value => by rw [ih, List.cons_append]⟩

/-- What is inserted stands in the same place, whatever value it has. -/
theorem forall₂_insert {R : String × α → String × α → Prop} (hrefl : ∀ entry, R entry entry)
    (d : Dict α) {key : String} {v w : α} (h : R (key, v) (key, w)) :
    List.Forall₂ R (insert d key v) (insert d key w) := by
  have hsame (rest : Dict α) : List.Forall₂ R rest rest := List.forall₂_same.mpr fun a _ => hrefl a
  obtain ⟨before, after, hinsert⟩ := exists_insert_eq d key
  rw [hinsert, hinsert]
  exact List.rel_append (hsame before) (.cons h (hsame after))

/-! ## Gathered entries -/

theorem get?_foldl_insert (entries : List (String × α)) (d : Dict α) (key : String) :
    get? (entries.foldl (fun d e => insert d e.1 e.2) d) key
      = ((entries.reverse.find? (·.1 == key)).map Prod.snd).or (get? d key) := by
  induction entries generalizing d with
  | nil => simp
  | cons first rest ih =>
    rw [List.foldl_cons, ih, List.reverse_cons, List.find?_append]
    by_cases hkey : first.1 = key
    · subst hkey
      cases rest.reverse.find? (·.1 == first.1) <;> simp
    · rw [get?_insert_of_ne _ _ (Ne.symm hkey)]
      cases rest.reverse.find? (·.1 == key) <;> simp [hkey]

/-- The last of the entries with a key counts. -/
theorem get?_ofList (entries : List (String × α)) (key : String) :
    get? (ofList entries) key = (entries.reverse.find? (·.1 == key)).map Prod.snd := by
  unfold ofList
  simp [get?_foldl_insert, get?]

theorem get?_push (d : Dict (List α)) (key other : String) (value : α) :
    (get? (push d key value) other).getD []
      = (get? d other).getD [] ++ if key = other then [value] else [] := by
  unfold push
  by_cases h : key = other
  · subst h
    simp
  · rw [get?_insert_of_ne _ _ (Ne.symm h)]
    simp [h]

theorem get?_foldl_push (entries : List (String × α)) (d : Dict (List α)) (key : String) :
    (get? (entries.foldl (fun d e => push d e.1 e.2) d) key).getD []
      = (get? d key).getD [] ++ (entries.filter (·.1 == key)).map Prod.snd := by
  induction entries generalizing d with
  | nil => simp
  | cons first rest ih =>
    rw [List.foldl_cons, ih, get?_push, List.filter_cons]
    by_cases hkey : first.1 = key <;> simp [hkey]

/-- A group has the values of its key, in their order. -/
theorem get?_group (entries : List (String × α)) (key : String) :
    (get? (group entries) key).getD [] = (entries.filter (·.1 == key)).map Prod.snd := by
  unfold group
  simp [get?_foldl_push, get?]

/-! ## Keys -/

theorem contains_iff (d : Dict α) (key : String) :
    contains d key = true ↔ key ∈ d.map Prod.fst := by
  unfold contains
  induction d with
  | nil => simp [get?]
  | cons entry rest ih =>
    obtain ⟨k, v⟩ := entry
    by_cases hk : k = key
    · simp [get?_cons, hk]
    · simp [get?_cons, hk, Ne.symm hk, ih]

theorem contains_insert (d : Dict α) (key other : String) (value : α) :
    contains (insert d key value) other = true ↔ other = key ∨ contains d other = true := by
  unfold contains
  by_cases h : other = key
  · simp [h]
  · simp [get?_insert_of_ne d value h, h]

theorem contains_ofList (entries : List (String × α)) (key : String) :
    contains (ofList entries) key = true ↔ key ∈ entries.map Prod.fst := by
  unfold contains
  rw [get?_ofList]
  simp

theorem get?_eq_find? (d : Dict α) (key : String) :
    get? d key = (d.find? (·.1 == key)).map Prod.snd := by
  induction d with
  | nil => rfl
  | cons entry rest ih =>
    obtain ⟨k, v⟩ := entry
    by_cases hk : k = key <;> simp [get?_cons, hk, ih]

theorem get?_eq_none {d : Dict α} {key : String} (h : key ∉ d.map Prod.fst) : get? d key = none := by
  rw [← contains_iff] at h
  simpa [contains] using h

theorem get?_of_mem {d : Dict α} (hd : (d.map Prod.fst).Nodup) {key : String} {value : α}
    (h : (key, value) ∈ d) : get? d key = some value := by
  have hfound : d.find? (·.1 == key) = some (key, value) := Keyed.find?_of_mem hd h
  rw [get?_eq_find?, hfound]
  rfl

/-- Where each key has one entry, their order does not matter. -/
theorem get?_ofList_of_nodup {entries : List (String × α)} (h : (entries.map Prod.fst).Nodup)
    (key : String) : get? (ofList entries) key = get? entries key := by
  have hreverse : (entries.reverse.map Prod.fst).Nodup := by
    rw [List.map_reverse]
    exact List.pairwise_reverse.mpr (h.imp Ne.symm)
  rw [get?_ofList, ← get?_eq_find? entries.reverse]
  cases hfound : get? entries key with
  | some value => exact get?_of_mem hreverse (List.mem_reverse.mpr (mem_of_get? hfound))
  | none =>
    apply get?_eq_none
    intro hmem
    have hcontains := (contains_iff entries key).mpr (by simpa using hmem)
    simp [contains, hfound] at hcontains

/-! ## Order -/

theorem Sorted.nodup {d : Dict α} (h : Sorted d) : (d.map Prod.fst).Nodup :=
  h.imp fun hlt => String.ne_of_lt hlt

/-- An entry whose key comes after all others is put at the end. -/
theorem insert_eq_append {d : Dict α} {key : String} (h : ∀ k ∈ d.map Prod.fst, k < key)
    (value : α) : insert d key value = d ++ [(key, value)] := by
  induction d with
  | nil => rfl
  | cons entry rest ih =>
    obtain ⟨k, v⟩ := entry
    obtain ⟨hk, hrest⟩ := List.forall_mem_cons.mp h
    have hne : key ≠ k := fun hsame => String.lt_irrefl k (hsame ▸ hk)
    rw [insert, if_neg hne, if_neg (String.lt_asymm hk), ih hrest, List.cons_append]

theorem foldl_insert_eq_append {entries d : Dict α} (h : Sorted (d ++ entries)) :
    entries.foldl (fun d e => insert d e.1 e.2) d = d ++ entries := by
  induction entries generalizing d with
  | nil => simp
  | cons entry rest ih =>
    have hlast : ∀ k ∈ d.map Prod.fst, k < entry.1 := by
      intro k hk
      rw [Sorted, List.map_append] at h
      exact (List.pairwise_append.mp h).2.2 k hk entry.1 (by simp)
    rw [List.foldl_cons, insert_eq_append hlast, ih (by simpa using h)]
    simp

theorem ofList_eq_self {d : Dict α} (h : Sorted d) : ofList d = d := foldl_insert_eq_append h

theorem sorted_insert {d : Dict α} (h : Sorted d) (key : String) (value : α) :
    Sorted (insert d key value) := by
  induction d with
  | nil => simp [insert, Sorted]
  | cons entry rest ih =>
    obtain ⟨k, v⟩ := entry
    obtain ⟨hk, hrest⟩ := List.pairwise_cons.mp h
    unfold insert
    split
    · subst_vars
      exact List.pairwise_cons.mpr ⟨hk, hrest⟩
    · rename_i hne
      split
      · rename_i hlt
        have hall : ∀ k' ∈ k :: rest.map Prod.fst, key < k' :=
          List.forall_mem_cons.mpr ⟨hlt, fun k' hk' => String.lt_trans hlt (hk k' hk')⟩
        exact List.pairwise_cons.mpr ⟨hall, h⟩
      · rename_i hnot
        refine List.pairwise_cons.mpr ⟨fun k' hk' => ?_, ih hrest⟩
        obtain ⟨inserted, hinserted, rfl⟩ := List.mem_map.mp hk'
        rcases mem_of_mem_insert hinserted with rfl | hold
        · exact Std.lt_of_le_of_ne (String.not_lt.mp hnot) (Ne.symm hne)
        · exact hk _ (List.mem_map_of_mem hold)

theorem sorted_ofList (entries : List (String × α)) : Sorted (ofList entries) := by
  have hfold : ∀ (entries : List (String × α)) (d : Dict α), Sorted d →
      Sorted (entries.foldl (fun d e => insert d e.1 e.2) d) := by
    intro entries
    induction entries with
    | nil => exact fun d h => h
    | cons entry rest ih => exact fun d h => ih _ (sorted_insert h entry.1 entry.2)
  exact hfold entries [] .nil

/-! ## Parts -/

/-- Looking up among the entries with some of the keys. -/
theorem get?_filter (d : Dict α) (p : String → Bool) (key : String) :
    get? (d.filter fun entry => p entry.1) key = if p key then get? d key else none := by
  induction d with
  | nil => simp [get?]
  | cons entry rest ih =>
    obtain ⟨k, v⟩ := entry
    by_cases hk : k = key
    · subst hk
      cases hp : p k <;> simp [hp, get?_cons, ih]
    · cases hp : p k <;> simp [hp, get?_cons, hk, ih]

theorem get?_erase (d : Dict α) (key other : String) :
    get? (erase d key) other = if other = key then none else get? d other := by
  unfold erase
  rw [get?_filter d (· != key)]
  by_cases h : other = key <;> simp [h]

theorem get?_erase_self (d : Dict α) (key : String) : get? (erase d key) key = none := by
  rw [get?_erase, if_pos rfl]

/-- Under the other keys the same is found, whether a value is inserted or left out. -/
theorem get?_insert_eq_erase {key other : String} (h : other ≠ key) (d : Dict α) (value : α) :
    get? (insert d key value) other = get? (erase d key) other := by
  rw [get?_insert_of_ne _ _ h, get?_erase, if_neg h]

end EntityMapper.Dict
