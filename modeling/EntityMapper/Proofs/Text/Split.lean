import EntityMapper.Text.Identifier

/-!
# Text without separators

A text that does not have the separator is one piece. Identifiers have no dots, so none of them is
taken for two, and a path is either an identifier or two of them with a dot between.
-/

namespace EntityMapper.Text

variable {sep : Char} {cs : List Char} {s : String}

theorem cut_eq_none (h : sep ∉ cs) : cut sep cs = none := by
  induction cs with
  | nil => rfl
  | cons c cs ih =>
    rw [List.mem_cons, not_or] at h
    rw [cut, if_neg (Ne.symm h.1), ih h.2]
    rfl

theorem cut_append {ds : List Char} (h : sep ∉ cs) : cut sep (cs ++ sep :: ds) = some (cs, ds) := by
  induction cs with
  | nil => simp [cut]
  | cons c cs ih =>
    rw [List.mem_cons, not_or] at h
    rw [List.cons_append, cut, if_neg (Ne.symm h.1), ih h.2]
    rfl

theorem pieces_eq_singleton (h : sep ∉ cs) : pieces sep cs = [cs] := by
  induction cs with
  | nil => rfl
  | cons c cs ih =>
    rw [List.mem_cons, not_or] at h
    rw [pieces, if_neg (Ne.symm h.1), ih h.2]

theorem pieces_append {ds : List Char} (h : sep ∉ cs) :
    pieces sep (cs ++ sep :: ds) = cs :: pieces sep ds := by
  induction cs with
  | nil => simp [pieces]
  | cons c cs ih =>
    rw [List.mem_cons, not_or] at h
    rw [List.cons_append, pieces, if_neg (Ne.symm h.1), ih h.2]

theorem pieces_intercalate {css : List (List Char)} (hne : css ≠ []) (h : ∀ cs ∈ css, sep ∉ cs) :
    pieces sep ([sep].intercalate css) = css := by
  induction css with
  | nil => exact absurd rfl hne
  | cons cs css ih =>
    obtain ⟨hcs, hcss⟩ := List.forall_mem_cons.mp h
    cases css with
    | nil =>
      rw [List.intercalate_singleton, pieces_eq_singleton hcs]
    | cons ds css =>
      rw [List.intercalate_cons_cons, List.append_assoc, List.singleton_append, pieces_append hcs,
        ih (List.cons_ne_nil _ _) hcss]

/-- Texts without the separator are found again in what they are joined to. -/
theorem split_intercalate {names : List String} (hne : names ≠ [])
    (h : ∀ name ∈ names, sep ∉ name.toList) :
    split sep ((String.singleton sep).intercalate names) = names := by
  have hpieces : pieces sep ([sep].intercalate (names.map String.toList)) = names.map String.toList :=
    pieces_intercalate (by simpa using hne) (by simpa using h)
  rw [split, String.toList_intercalate, String.toList_singleton, hpieces, List.map_map]
  simp

theorem dot_notMem_of_isIdentifier (h : isIdentifier s = true) : '.' ∉ s.toList := by
  unfold isIdentifier at h
  split at h
  · cases h
  · rename_i c cs hcs
    rw [Bool.and_eq_true, List.all_eq_true] at h
    rw [hcs]
    intro hdot
    rcases List.mem_cons.mp hdot with rfl | hdot
    · exact absurd h.1 (by decide)
    · exact absurd (h.2 _ hdot) (by decide)

theorem splitDot_of_isIdentifier (h : isIdentifier s = true) : splitDot s = none := by
  unfold splitDot
  rw [cut_eq_none (dot_notMem_of_isIdentifier h)]
  rfl

/-- A name put before a dot is found again. -/
theorem splitDot_append (h : isIdentifier s = true) (t : String) :
    splitDot (s ++ "." ++ t) = some (s, t) := by
  have htext : (s ++ "." ++ t).toList = s.toList ++ '.' :: t.toList := by simp
  unfold splitDot
  rw [htext, cut_append (dot_notMem_of_isIdentifier h)]
  simp

theorem eq_append_of_cut {as bs : List Char} (h : cut sep cs = some (as, bs)) : cs = as ++ sep :: bs := by
  induction cs generalizing as with
  | nil => cases h
  | cons c cs ih =>
    rw [cut] at h
    split at h
    · rename_i hsep
      cases h
      rw [hsep]
      rfl
    · obtain ⟨⟨as', bs'⟩, hcut, heq⟩ := Option.map_eq_some_iff.mp h
      cases heq
      rw [ih hcut]
      rfl

theorem eq_append_of_splitDot {r n : String} (h : splitDot s = some (r, n)) : s = r ++ "." ++ n := by
  unfold splitDot at h
  obtain ⟨⟨as, bs⟩, hcut, heq⟩ := Option.map_eq_some_iff.mp h
  cases heq
  rw [← String.toList_inj]
  simp [eq_append_of_cut hcut]

/-- A path is an identifier, or two of them joined by one dot. -/
theorem isPath_iff : isPath s = true ↔ isIdentifier s = true
    ∨ ∃ r n, s = r ++ "." ++ n ∧ isIdentifier r = true ∧ isIdentifier n = true := by
  constructor
  · intro h
    unfold isPath at h
    split at h
    · exact .inl h
    · rename_i r n hsplit
      rw [Bool.and_eq_true] at h
      exact .inr ⟨r, n, eq_append_of_splitDot hsplit, h⟩
  · rintro (h | ⟨r, n, rfl, hr, hn⟩)
    · unfold isPath
      rw [splitDot_of_isIdentifier h]
      exact h
    · unfold isPath
      rw [splitDot_append hr]
      simp [hr, hn]

theorem exists_cons_of_isIdentifier (h : isIdentifier s = true) :
    ∃ c cs, s.toList = c :: cs ∧ isNameStart c = true := by
  unfold isIdentifier at h
  split at h
  · cases h
  · rename_i c cs hcs
    rw [Bool.and_eq_true] at h
    exact ⟨c, cs, hcs, h.1⟩

theorem exists_cons_of_isPath (h : isPath s = true) :
    ∃ c cs, s.toList = c :: cs ∧ isNameStart c = true := by
  rcases isPath_iff.mp h with h | ⟨r, n, rfl, hr, -⟩
  · exact exists_cons_of_isIdentifier h
  · obtain ⟨c, cs, hcs, hc⟩ := exists_cons_of_isIdentifier hr
    exact ⟨c, cs ++ '.' :: n.toList, by simp [hcs], hc⟩

end EntityMapper.Text
