/-!
# Lists searched by key

Fields, entities and indices stand in lists and are found by name. While no two have one name, each is
found under its own, and one whose name is not found may be put at the end.
-/

namespace EntityMapper.Keyed

universe u v

variable {α : Type u} {key : α → String} {l : List α} {x : α} {name : String}

theorem notMem_of_find? (h : l.find? (key · == name) = none) : name ∉ l.map key := by
  intro hmem
  obtain ⟨y, hy, hkey⟩ := List.mem_map.mp hmem
  have hnone := List.find?_eq_none.mp h y hy
  simp [hkey] at hnone

theorem nodup_append (h : (l.map key).Nodup) (hnew : l.find? (key · == key x) = none) :
    ((l ++ [x]).map key).Nodup := by
  rw [List.map_append, List.nodup_append]
  refine ⟨h, by simp, ?_⟩
  rintro a ha b hb rfl
  obtain rfl : a = key x := by simpa using hb
  exact notMem_of_find? hnew ha

theorem find?_of_mem (h : (l.map key).Nodup) (hx : x ∈ l) : l.find? (key · == key x) = some x := by
  induction l with
  | nil => cases hx
  | cons y rest ih =>
    rw [List.map_cons, List.nodup_cons] at h
    rcases List.mem_cons.mp hx with rfl | hx
    · simp
    · have hne : key y ≠ key x := fun hsame => h.1 (hsame ▸ List.mem_map_of_mem hx)
      simp [hne, ih h.2 hx]

theorem eq_of_key_eq {y : α} (h : (l.map key).Nodup) (hx : x ∈ l) (hy : y ∈ l)
    (hsame : key x = key y) : x = y := by
  have hfound := find?_of_mem h hx
  rw [hsame, find?_of_mem h hy] at hfound
  exact (Option.some.inj hfound).symm

/-- An item and those of other keys are all the items. -/
theorem perm_cons_filter (h : (l.map key).Nodup) (hx : x ∈ l) :
    l.Perm (x :: l.filter (key · != key x)) := by
  induction l with
  | nil => cases hx
  | cons y rest ih =>
    rw [List.map_cons, List.nodup_cons] at h
    rcases List.mem_cons.mp hx with rfl | hx
    · have hothers : rest.filter (key · != key x) = rest := by
        rw [List.filter_eq_self]
        intro y hy
        have hne : key y ≠ key x := fun hsame => h.1 (hsame ▸ List.mem_map_of_mem hy)
        simp [hne]
      simp [hothers]
    · have hne : key y ≠ key x := fun hsame => h.1 (hsame ▸ List.mem_map_of_mem hx)
      have hfilter : (y :: rest).filter (key · != key x)
          = y :: rest.filter (key · != key x) := by simp [hne]
      rw [hfilter]
      exact ((ih h.2 hx).cons y).trans (.swap x y _)

/-- Blocks of items that tell the key are apart. -/
theorem nodup_flatMap {β : Type v} {f : α → List β} (h : (l.map key).Nodup)
    (hblocks : ∀ a ∈ l, (f a).Nodup)
    (hkey : ∀ a ∈ l, ∀ a' ∈ l, ∀ b ∈ f a, b ∈ f a' → key a = key a') : (l.flatMap f).Nodup := by
  induction l with
  | nil => exact List.nodup_nil
  | cons a rest ih =>
    rw [List.map_cons, List.nodup_cons] at h
    rw [List.flatMap_cons, List.nodup_append]
    refine ⟨hblocks a List.mem_cons_self, ih h.2 ?_ ?_, ?_⟩
    · exact fun a' ha' => hblocks a' (List.mem_cons_of_mem _ ha')
    · intro a₁ ha₁ a₂ ha₂
      exact hkey a₁ (List.mem_cons_of_mem _ ha₁) a₂ (List.mem_cons_of_mem _ ha₂)
    · rintro b hb _ hrest rfl
      obtain ⟨a', ha', hb'⟩ := List.mem_flatMap.mp hrest
      have hsame := hkey a List.mem_cons_self a' (List.mem_cons_of_mem _ ha') b hb hb'
      exact h.1 (hsame ▸ List.mem_map_of_mem ha')

end EntityMapper.Keyed
