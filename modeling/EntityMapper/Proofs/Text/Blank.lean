import EntityMapper.Text.Blank

/-!
# Text between blanks

Trimming leaves the text that stands between blanks. A text that neither begins nor ends with a blank
is found again, whatever blanks are put around it.
-/

namespace EntityMapper.Text

variable {s t : String} {bs cs : List Char}

theorem trimStart_append (hbs : ∀ c ∈ bs, isBlank c = true)
    (hcs : ∀ c ∈ cs.head?, isBlank c = false) : trimStart (bs ++ cs) = cs := by
  rw [trimStart, List.dropWhile_append_of_pos hbs]
  cases cs with
  | nil => rfl
  | cons c cs => simp [hcs c rfl]

theorem exists_blanks (cs : List Char) :
    ∃ bs, (∀ c ∈ bs, isBlank c = true) ∧ cs = bs ++ trimStart cs :=
  ⟨_, List.all_eq_true.mp List.all_takeWhile, List.takeWhile_append_dropWhile.symm⟩

theorem trimEnd_eq (cs : List Char) : trimEnd cs = (trimStart cs.reverse).reverse := rfl

theorem trimEnd_append (hbs : ∀ c ∈ bs, isBlank c = true)
    (hcs : ∀ c ∈ cs.getLast?, isBlank c = false) : trimEnd (cs ++ bs) = cs := by
  rw [trimEnd_eq, List.reverse_append, trimStart_append, List.reverse_reverse]
  · simpa using hbs
  · simpa using hcs

theorem exists_blanks_after (cs : List Char) :
    ∃ bs, (∀ c ∈ bs, isBlank c = true) ∧ cs = trimEnd cs ++ bs := by
  obtain ⟨bs, hbs, hcs⟩ := exists_blanks cs.reverse
  refine ⟨bs.reverse, by simpa using hbs, ?_⟩
  rw [trimEnd_eq, ← List.reverse_append, ← hcs, List.reverse_reverse]

/-- The text has blanks before and after this one. -/
def Padded (t s : String) : Prop :=
  ∃ before after, (∀ c ∈ before, isBlank c = true) ∧ (∀ c ∈ after, isBlank c = true)
    ∧ s.toList = before ++ t.toList ++ after

theorem padded_trim (s : String) : Padded (trim s) s := by
  obtain ⟨before, hbefore, hs⟩ := exists_blanks s.toList
  obtain ⟨after, hafter, hrest⟩ := exists_blanks_after (trimStart s.toList)
  refine ⟨before, after, hbefore, hafter, ?_⟩
  rw [trim, String.toList_ofList, List.append_assoc, ← hrest, ← hs]

/-- The text neither begins nor ends with a blank. -/
structure Trimmed (t : String) : Prop where
  first : ∀ c ∈ t.toList.head?, isBlank c = false
  last : ∀ c ∈ t.toList.getLast?, isBlank c = false

theorem trimmed_of_forall (h : ∀ c ∈ t.toList, isBlank c = false) : Trimmed t :=
  ⟨fun c hc => h c (List.mem_of_mem_head? hc), fun c hc => h c (List.mem_of_mem_getLast? hc)⟩

theorem isBlank_head?_trimStart (cs : List Char) :
    ∀ c ∈ (trimStart cs).head?, isBlank c = false := by
  induction cs with
  | nil => exact nofun
  | cons c cs ih =>
    unfold trimStart at ih ⊢
    cases hc : isBlank c with
    | true => simpa [hc] using ih
    | false =>
      rw [List.dropWhile_cons_of_neg (by simp [hc])]
      rintro _ ⟨⟩
      exact hc

theorem trimmed_trim (s : String) : Trimmed (trim s) := by
  constructor
  · intro c hc
    obtain ⟨bs, -, hsplit⟩ := exists_blanks_after (trimStart s.toList)
    have hhead : c ∈ (trimStart s.toList).head? := by
      rw [trim, String.toList_ofList] at hc
      rw [hsplit, List.head?_append, hc]
      rfl
    exact isBlank_head?_trimStart _ c hhead
  · intro c hc
    rw [trim, String.toList_ofList, trimEnd_eq, List.getLast?_reverse] at hc
    exact isBlank_head?_trimStart _ c hc

theorem Trimmed.trim_eq (h : Trimmed t) (hs : Padded t s) : trim s = t := by
  obtain ⟨before, after, hbefore, hafter, hs⟩ := hs
  rw [trim, hs, List.append_assoc, ← String.toList_inj, String.toList_ofList]
  cases ht : t.toList with
  | nil =>
    -- Nothing is left of blanks alone.
    have hblank : ∀ c ∈ before ++ after, isBlank c = true :=
      fun c hc => (List.mem_append.mp hc).elim (hbefore c) (hafter c)
    have hnone : trimStart (before ++ after ++ []) = [] := trimStart_append hblank (by simp)
    rw [List.append_nil] at hnone
    rw [List.nil_append, hnone]
    rfl
  | cons c cs =>
    rw [trimStart_append hbefore, ← ht]
    · exact trimEnd_append hafter h.last
    · intro d hd
      exact h.first d (by rw [ht]; exact hd)

theorem Trimmed.trim_eq_self (h : Trimmed s) : trim s = s :=
  h.trim_eq ⟨[], [], nofun, nofun, by simp⟩

theorem trim_eq_self (h : ∀ c ∈ s.toList, isBlank c = false) : trim s = s :=
  (trimmed_of_forall h).trim_eq_self

end EntityMapper.Text
