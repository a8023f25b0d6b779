import EntityMapper.Proofs.Query.Levels
import EntityMapper.Proofs.Text.Blank
import EntityMapper.Proofs.Text.Split

/-!
# Sort keys

A sort text is a path, which is an identifier or two of them joined by a dot, with blanks around it and
perhaps a minus sign in front. Every other text stands for the default order, so that the sort key of
every level of a query is a path.
-/

namespace EntityMapper

namespace Text

variable {c : Char} {s : String}

/-! ## Paths have no blanks -/

theorem isNamePart_eq (c : Char) : isNamePart c
    = ((decide (65 ≤ c.val ∧ c.val ≤ 90) || decide (97 ≤ c.val) && decide (c.val ≤ 122)
      || decide (48 ≤ c.val) && decide (c.val ≤ 57)) || c == '_') := rfl

theorem isBlank_of_isNamePart (h : isNamePart c = true) : isBlank c = false := by
  rw [isNamePart_eq] at h
  simp only [Bool.or_eq_true, Bool.and_eq_true, decide_eq_true_eq, UInt32.le_iff_toNat_le,
    beq_iff_eq] at h
  change (((65 ≤ c.toNat ∧ c.toNat ≤ 90) ∨ (97 ≤ c.toNat ∧ c.toNat ≤ 122)) ∨
    (48 ≤ c.toNat ∧ c.toNat ≤ 57)) ∨ c = '_' at h
  rcases h with h | rfl
  · simp only [isBlank, Bool.or_eq_false_iff, Bool.and_eq_false_iff, decide_eq_false_iff_not,
      beq_eq_false_iff_ne]
    omega
  · decide

theorem isNamePart_of_isNameStart (h : isNameStart c = true) : isNamePart c = true := by
  rw [isNameStart, Bool.or_eq_true] at h
  rw [isNamePart, Bool.or_eq_true, Char.isAlphanum, Bool.or_eq_true]
  exact h.imp_left .inl

theorem isNamePart_of_isIdentifier (h : isIdentifier s = true) :
    ∀ c ∈ s.toList, isNamePart c = true := by
  unfold isIdentifier at h
  split at h
  · cases h
  · rename_i c cs hcs
    rw [Bool.and_eq_true, List.all_eq_true] at h
    rw [hcs]
    exact List.forall_mem_cons.mpr ⟨isNamePart_of_isNameStart h.1, h.2⟩

theorem isBlank_of_isPath (h : isPath s = true) : ∀ c ∈ s.toList, isBlank c = false := by
  rcases isPath_iff.mp h with h | ⟨r, n, rfl, hr, hn⟩
  · exact fun c hc => isBlank_of_isNamePart (isNamePart_of_isIdentifier h c hc)
  · intro c hc
    simp only [String.toList_append, List.mem_append] at hc
    rcases hc with (hc | hc) | hc
    · exact isBlank_of_isNamePart (isNamePart_of_isIdentifier hr c hc)
    · obtain rfl : c = '.' := by simpa using hc
      decide
    · exact isBlank_of_isNamePart (isNamePart_of_isIdentifier hn c hc)

theorem isBlank_of_minus (h : isPath s = true) : ∀ c ∈ ("-" ++ s).toList, isBlank c = false := by
  intro c hc
  simp only [String.toList_append, List.mem_append] at hc
  rcases hc with hc | hc
  · obtain rfl : c = '-' := by simpa using hc
    decide
  · exact isBlank_of_isPath h c hc

end Text

namespace SortOrder

open Text (isPath Padded trim)

variable {s p : String}

theorem parse_descending (hp : isPath p = true) (hs : trim s = "-" ++ p) :
    parse s = ⟨p, .descending⟩ := by
  have hlist : (trim s).toList = '-' :: p.toList := by simp [hs]
  simp [parse, hlist, hp]

theorem parse_ascending (hp : isPath p = true) (hs : trim s = p) : parse s = ⟨p, .ascending⟩ := by
  obtain ⟨c, cs, hlist, hc⟩ := Text.exists_cons_of_isPath hp
  have hminus : c ≠ '-' := by
    rintro rfl
    exact absurd hc (by decide)
  simp [parse, hs, hlist, hminus, hp]

theorem parse_default (hdescending : ∀ p, isPath p = true → trim s ≠ "-" ++ p)
    (hascending : isPath (trim s) = false) : parse s = default := by
  unfold parse
  dsimp only
  split
  · rename_i cs hlist
    have hs : trim s = "-" ++ String.ofList cs := by
      rw [← String.toList_inj, hlist]
      simp
    rw [if_neg fun hpath => hdescending _ hpath hs]
  · simp [hascending]

/-- Whatever a text says, the key of its order is a path. -/
theorem isPath_parse (s : String) : isPath (parse s).key = true := by
  unfold parse
  dsimp only
  split
  · split
    · assumption
    · decide
  · split
    · assumption
    · decide

end SortOrder

theorem SortSpec.isPath_toOrder (spec : SortSpec) : Text.isPath spec.toOrder.key = true := by
  cases spec with
  | text s => exact SortOrder.isPath_parse s
  | order o =>
    rw [SortSpec.toOrder]
    exact SortOrder.isPath_parse o.key

namespace Query

variable {o : QueryOptions}

theorem sort_of_readLevel {m : QueryMembers} {level : QueryLevel} (h : readLevel o m = .ok level) :
    level.sort = (m.sort.map SortSpec.toOrder).getD .default := by
  obtain ⟨filter, -, rfl⟩ := of_readLevel h
  rfl

theorem every_sort {d : QueryDocument} {q : Query} (h : read o d = .ok q) :
    q.Every fun level => Text.isPath level.sort.key = true := by
  have hdefault : Text.isPath SortOrder.default.key = true := by decide
  refine every_of_read (fun m level hlevel => ?_) hdefault d h
  rw [sort_of_readLevel hlevel]
  cases m.sort with
  | none => exact hdefault
  | some spec => exact spec.isPath_toOrder

end Query

/-- An identifier, or two of them joined by one dot. -/
def Text.IsSortKey (p : String) : Prop :=
  isIdentifier p = true
    ∨ ∃ r n, p = r ++ "." ++ n ∧ isIdentifier r = true ∧ isIdentifier n = true

/-- With blanks around it, a sort text is a key with a minus sign in front of it, or a key alone; every
other text stands for the default order. So the sort key of every level of a query is one, in whichever
form it was written. -/
theorem SortOrder.keys_are_paths :
    (∀ s p, Text.IsSortKey p →
        (Text.Padded ("-" ++ p) s → parse s = ⟨p, .descending⟩)
        ∧ (Text.Padded p s → parse s = ⟨p, .ascending⟩))
      ∧ (∀ s, (∀ p, Text.IsSortKey p → ¬Text.Padded ("-" ++ p) s ∧ ¬Text.Padded p s) →
        parse s = default)
      ∧ ∀ o d q, Query.read o d = .ok q → q.Every fun level => Text.IsSortKey level.sort.key := by
  refine ⟨fun s p hp => ?_, fun s hs => ?_, fun o d q hq => ?_⟩
  · have hpath := Text.isPath_iff.mpr hp
    constructor
    · intro hs
      have hminus := Text.trimmed_of_forall (Text.isBlank_of_minus hpath)
      exact parse_descending hpath (hminus.trim_eq hs)
    · intro hs
      have hplain := Text.trimmed_of_forall (Text.isBlank_of_isPath hpath)
      exact parse_ascending hpath (hplain.trim_eq hs)
  · apply parse_default
    · intro p hpath htrim
      have hpadded := Text.padded_trim s
      rw [htrim] at hpadded
      exact (hs p (Text.isPath_iff.mp hpath)).1 hpadded
    · rw [Bool.eq_false_iff]
      intro hpath
      exact (hs _ (Text.isPath_iff.mp hpath)).2 (Text.padded_trim s)
  · exact (Query.every_sort hq).imp fun level hpath => Text.isPath_iff.mp hpath

example : SortOrder.parse "\n-author.name " = ⟨"author.name", .descending⟩ := by decide

end EntityMapper
