import EntityMapper.Pattern.Basic
import Mathlib.Data.List.Basic

/-!
# Sets of places

The places of one text as lists in the order of their indices, and what the operations on such lists
do to the sets.
-/

namespace EntityMapper.Pattern

variable {cs : List Char} {p q : Place} {ps qs : List Place}

/-! ## Places of a text -/

/-- The place parts this text. -/
structure Place.In (cs : List Char) (p : Place) : Prop where
  parts : p.before.reverse ++ p.after = cs
  index : p.index = p.before.length

theorem Place.In.eq (hp : p.In cs) (hq : q.In cs) (h : p.index = q.index) : p = q := by
  have hlength : p.before.reverse.length = q.before.reverse.length := by
    rw [List.length_reverse, List.length_reverse, ← hp.index, ← hq.index, h]
  obtain ⟨hbefore, hafter⟩ := List.append_inj (hp.parts.trans hq.parts.symm) hlength
  obtain ⟨i, before, after⟩ := p
  obtain ⟨j, before', after'⟩ := q
  obtain rfl : i = j := h
  obtain rfl : before = before' := List.reverse_inj.mp hbefore
  obtain rfl : after = after' := hafter
  rfl

theorem Place.In.length (hp : p.In cs) : p.index + p.after.length = cs.length := by
  rw [← hp.parts, List.length_append, List.length_reverse, hp.index]

theorem Place.advance?_eq_some_iff {cls : CharClass} :
    p.advance? cls = some q ↔ ∃ c rest, p.after = c :: rest ∧ cls.contains c = true
      ∧ q = ⟨p.index + 1, c :: p.before, rest⟩ := by
  obtain ⟨i, before, after⟩ := p
  cases after with
  | nil => simp [advance?]
  | cons c rest =>
    by_cases hc : cls.contains c = true
    · simp only [advance?, hc, if_true]
      constructor
      · rintro ⟨⟩
        exact ⟨c, rest, rfl, hc, rfl⟩
      · rintro ⟨d, more, hparts, -, rfl⟩
        cases hparts
        rfl
    · simp only [advance?, hc]
      constructor
      · rintro ⟨⟩
      · rintro ⟨d, more, hparts, hd, -⟩
        cases hparts
        exact absurd hd hc

theorem Place.In.advance {cls : CharClass} (hp : p.In cs) (h : p.advance? cls = some q) :
    q.In cs ∧ q.index = p.index + 1 := by
  obtain ⟨c, rest, hafter, -, rfl⟩ := advance?_eq_some_iff.mp h
  refine ⟨⟨?_, ?_⟩, rfl⟩
  · rw [← hp.parts, hafter, List.reverse_cons, List.append_assoc]
    rfl
  · rw [List.length_cons, ← hp.index]

/-- A set of places of the text. -/
structure PlacesOf (cs : List Char) (ps : List Place) : Prop where
  places : ∀ p ∈ ps, p.In cs
  ordered : ps.Pairwise fun p q => p.index < q.index

namespace PlacesOf

theorem singleton (hp : p.In cs) : PlacesOf cs [p] :=
  ⟨fun _ hq => List.mem_singleton.mp hq ▸ hp, List.pairwise_singleton _ p⟩

theorem tail (h : PlacesOf cs (p :: ps)) : PlacesOf cs ps :=
  ⟨fun q hq => h.places q (List.mem_cons_of_mem p hq), (List.pairwise_cons.mp h.ordered).2⟩

theorem head_lt (h : PlacesOf cs (p :: ps)) : ∀ q ∈ ps, p.index < q.index :=
  (List.pairwise_cons.mp h.ordered).1

theorem sublist (h : PlacesOf cs ps) (hsub : qs.Sublist ps) : PlacesOf cs qs :=
  ⟨fun q hq => h.places q (hsub.mem hq), h.ordered.sublist hsub⟩

/-- Sets with the same indices are the same. -/
theorem eq_of_indices (hps : PlacesOf cs ps) (hqs : PlacesOf cs qs)
    (h : ps.map Place.index = qs.map Place.index) : ps = qs := by
  induction ps generalizing qs with
  | nil => exact (List.map_eq_nil_iff.mp h.symm).symm
  | cons p ps ih =>
    cases qs with
    | nil => cases h
    | cons q qs =>
      obtain ⟨hindex, hrest⟩ := List.cons.inj h
      have hp := hps.places p List.mem_cons_self
      have hq := hqs.places q List.mem_cons_self
      rw [hp.eq hq hindex, ih hps.tail hqs.tail hrest]

end PlacesOf

/-! ## Operations -/

theorem mem_of_mem_distinct (h : p ∈ distinct ps) : p ∈ ps := by
  induction ps with
  | nil => exact h
  | cons q ps ih =>
    unfold distinct at h
    split at h
    · exact List.mem_cons.mpr (.inl (List.mem_singleton.mp h))
    · rename_i r rs hrest
      rw [hrest] at ih
      split at h
      · exact List.mem_cons_of_mem q (ih h)
      · rcases List.mem_cons.mp h with rfl | h
        · exact List.mem_cons_self
        · exact List.mem_cons_of_mem q (ih h)

theorem mem_distinct (hps : ∀ p ∈ ps, p.In cs) : p ∈ distinct ps ↔ p ∈ ps := by
  refine ⟨mem_of_mem_distinct, fun h => ?_⟩
  induction ps with
  | nil => exact h
  | cons q ps ih =>
    have ih := ih fun r hr => hps r (List.mem_cons_of_mem q hr)
    unfold distinct
    split
    · rename_i hrest
      rw [hrest] at ih
      rcases List.mem_cons.mp h with rfl | h
      · exact List.mem_cons_self
      · exact absurd (ih h) List.not_mem_nil
    · rename_i r rs hrest
      rw [hrest] at ih
      have hr : r ∈ ps := mem_of_mem_distinct (hrest ▸ List.mem_cons_self)
      split
      · rename_i hsame
        rcases List.mem_cons.mp h with rfl | h
        · rw [(hps p List.mem_cons_self).eq (hps r (List.mem_cons_of_mem p hr)) hsame]
          exact List.mem_cons_self
        · exact ih h
      · rcases List.mem_cons.mp h with rfl | h
        · exact List.mem_cons_self
        · exact List.mem_cons_of_mem q (ih h)

theorem ordered_distinct (h : ps.Pairwise fun p q => p.index ≤ q.index) :
    (distinct ps).Pairwise fun p q => p.index < q.index := by
  induction ps with
  | nil => exact .nil
  | cons p ps ih =>
    obtain ⟨hle, hps⟩ := List.pairwise_cons.mp h
    have ih := ih hps
    unfold distinct
    split
    · exact List.pairwise_singleton _ p
    · rename_i r rs hrest
      rw [hrest] at ih
      have hr : p.index ≤ r.index := hle r (mem_of_mem_distinct (hrest ▸ List.mem_cons_self))
      split
      · exact ih
      · rename_i hne
        refine List.pairwise_cons.mpr ⟨fun q hq => ?_, ih⟩
        rcases List.mem_cons.mp hq with rfl | hq
        · omega
        · have hlt := (List.pairwise_cons.mp ih).1 q hq
          omega

theorem places_merge (hps : PlacesOf cs ps) (hqs : PlacesOf cs qs) (le : Place → Place → Bool) :
    ∀ p ∈ ps.merge qs le, p.In cs := by
  intro p hp
  rcases List.mem_merge.mp hp with hp | hp
  · exact hps.places p hp
  · exact hqs.places p hp

theorem placesOf_both (hps : PlacesOf cs ps) (hqs : PlacesOf cs qs) : PlacesOf cs (both ps qs) := by
  have hle {ps : List Place} (h : PlacesOf cs ps) :
      ps.Pairwise fun p q => decide (p.index ≤ q.index) = true :=
    h.ordered.imp fun hlt => decide_eq_true (Nat.le_of_lt hlt)
  have htrans (p q r : Place) (hpq : decide (p.index ≤ q.index) = true)
      (hqr : decide (q.index ≤ r.index) = true) : decide (p.index ≤ r.index) = true := by
    simp only [decide_eq_true_eq] at hpq hqr ⊢
    omega
  have htotal (p q : Place) :
      (decide (p.index ≤ q.index) || decide (q.index ≤ p.index)) = true := by
    simp only [Bool.or_eq_true, decide_eq_true_eq]
    omega
  have hmerge := List.pairwise_merge htrans htotal ps qs (hle hps) (hle hqs)
  exact ⟨fun p hp => places_merge hps hqs _ p (mem_of_mem_distinct hp),
    ordered_distinct (hmerge.imp of_decide_eq_true)⟩

theorem mem_both (hps : PlacesOf cs ps) (hqs : PlacesOf cs qs) :
    p ∈ both ps qs ↔ p ∈ ps ∨ p ∈ qs := by
  unfold both
  rw [mem_distinct (places_merge hps hqs _), List.mem_merge]

theorem missing_sublist (ps qs : List Place) : (missing ps qs).Sublist ps := by
  induction ps, qs using missing.induct with
  | case1 => rw [missing]
  | case2 p ps => rw [missing]
  | case3 p ps q qs hlt ih =>
    rw [missing, if_pos hlt]
    exact ih.cons_cons p
  | case4 p ps q qs hlt heq ih =>
    rw [missing, if_neg hlt, if_pos heq]
    exact ih.cons p
  | case5 p ps q qs hlt hne ih =>
    rw [missing, if_neg hlt, if_neg hne]
    exact ih

theorem mem_missing (hps : PlacesOf cs ps) (hqs : PlacesOf cs qs) :
    p ∈ missing ps qs ↔ p ∈ ps ∧ p ∉ qs := by
  induction ps, qs using missing.induct with
  | case1 => simp [missing]
  | case2 r ps => simp [missing]
  | case3 r ps q qs hlt ih =>
    -- The first place comes before all of the second set.
    have hr : r ∉ q :: qs := by
      intro hr
      rcases List.mem_cons.mp hr with rfl | hr
      · omega
      · have := hqs.head_lt r hr
        omega
    rw [missing, if_pos hlt, List.mem_cons, ih hps.tail hqs]
    constructor
    · rintro (rfl | ⟨hp, hnot⟩)
      · exact ⟨List.mem_cons_self, hr⟩
      · exact ⟨List.mem_cons_of_mem r hp, hnot⟩
    · rintro ⟨hp, hnot⟩
      exact (List.mem_cons.mp hp).imp_right fun hp => ⟨hp, hnot⟩
  | case4 r ps q qs hlt heq ih =>
    obtain rfl := (hps.places r List.mem_cons_self).eq (hqs.places q List.mem_cons_self) heq
    rw [missing, if_neg hlt, if_pos heq, ih hps.tail hqs.tail]
    constructor
    · rintro ⟨hp, hnot⟩
      refine ⟨List.mem_cons_of_mem r hp, fun hmem => ?_⟩
      rcases List.mem_cons.mp hmem with rfl | hmem
      · exact Nat.lt_irrefl _ (hps.head_lt p hp)
      · exact hnot hmem
    · rintro ⟨hp, hnot⟩
      obtain ⟨hne, hnot⟩ := not_or.mp (List.mem_cons.not.mp hnot)
      exact ⟨(List.mem_cons.mp hp).resolve_left hne, hnot⟩
  | case5 r ps q qs hlt hne ih =>
    rw [missing, if_neg hlt, if_neg hne, ih hps hqs.tail]
    refine and_congr_right fun hp => ?_
    have hq : p ≠ q := by
      rintro rfl
      rcases List.mem_cons.mp hp with rfl | hp
      · exact hne rfl
      · have := hps.head_lt p hp
        omega
    rw [List.mem_cons, not_or]
    exact (and_iff_right hq).symm

/-! ## All places -/

theorem mem_placesFrom (before after : List Char) :
    p ∈ placesFrom before.length before after
      ↔ p.In (before.reverse ++ after) ∧ before.length ≤ p.index := by
  induction after generalizing before with
  | nil =>
    have hfirst : Place.In (before.reverse ++ []) ⟨before.length, before, []⟩ := ⟨rfl, rfl⟩
    rw [placesFrom, List.mem_singleton]
    constructor
    · rintro rfl
      exact ⟨hfirst, Nat.le_refl _⟩
    · rintro ⟨hp, hle⟩
      refine hp.eq hfirst (Nat.le_antisymm ?_ hle)
      have hlength := hp.length
      rw [List.append_nil, List.length_reverse] at hlength
      dsimp only
      omega
  | cons c rest ih =>
    have hfirst : Place.In (before.reverse ++ c :: rest) ⟨before.length, before, c :: rest⟩ :=
      ⟨rfl, rfl⟩
    have hnext := ih (c :: before)
    rw [List.length_cons, List.reverse_cons, List.append_assoc, List.singleton_append] at hnext
    rw [placesFrom, List.mem_cons, hnext]
    constructor
    · rintro (rfl | ⟨hp, hlt⟩)
      · exact ⟨hfirst, Nat.le_refl _⟩
      · exact ⟨hp, Nat.le_of_succ_le hlt⟩
    · rintro ⟨hp, hle⟩
      rcases Nat.eq_or_lt_of_le hle with heq | hlt
      · exact .inl (hp.eq hfirst heq.symm)
      · exact .inr ⟨hp, hlt⟩

theorem ordered_placesFrom (before after : List Char) :
    (placesFrom before.length before after).Pairwise fun p q => p.index < q.index := by
  induction after generalizing before with
  | nil => exact List.pairwise_singleton _ _
  | cons c rest ih =>
    have hnext := ih (c :: before)
    exact List.pairwise_cons.mpr ⟨fun p hp => ((mem_placesFrom (c :: before) rest).mp hp).2, hnext⟩

theorem placesOf_all (cs : List Char) : PlacesOf cs (placesFrom 0 [] cs) :=
  ⟨fun _ hp => ((mem_placesFrom [] cs).mp hp).1, ordered_placesFrom [] cs⟩

theorem mem_all : p ∈ placesFrom 0 [] cs ↔ p.In cs :=
  (mem_placesFrom [] cs).trans (and_iff_left (Nat.zero_le _))

end EntityMapper.Pattern
