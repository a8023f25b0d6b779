import EntityMapper.Proofs.Pattern.Places

/-!
# What patterns mean

`Pattern.Spans` says, constructor by constructor, from where to where in a text an instance of a
pattern can stand. The places that `Pattern.ends` computes are those where an instance ends.
-/

namespace EntityMapper.Pattern

variable {cs : List Char} {p q : Place} {ps seen last : List Place}

/-! ## Repeated relations -/

/-- Related in this many steps. -/
def Times (r : Place → Place → Prop) : Nat → Place → Place → Prop
  | 0, p, q => p = q
  | n + 1, p, q => ∃ between, r p between ∧ Times r n between q

/-- An instance of the pattern can begin at the first place and end at the second. -/
def Spans : Pattern → Place → Place → Prop
  | empty, p, q => p = q
  | char cls, p, q => p.advance? cls = some q
  | anchor a, p, q => a.holds p = true ∧ p = q
  | seq first second, p, q => ∃ between, Spans first p between ∧ Spans second between q
  | alt first second, p, q => Spans first p q ∨ Spans second p q
  | repeated part least most, p, q =>
    ∃ more, (∀ n ∈ most, more ≤ n - least) ∧ Times (Spans part) (least + more) p q

section Times

variable {r : Place → Place → Prop} {m n : Nat}

theorem times_add : Times r (m + n) p q ↔ ∃ between, Times r m p between ∧ Times r n between q := by
  induction m generalizing p with
  | zero => simp [Times]
  | succ m ih =>
    rw [Nat.succ_add]
    simp only [Times, ih]
    constructor
    · rintro ⟨a, ha, b, hb, hq⟩
      exact ⟨b, ⟨a, ha, hb⟩, hq⟩
    · rintro ⟨b, ⟨a, ha, hb⟩, hq⟩
      exact ⟨a, ha, b, hb, hq⟩

theorem Times.index_le (hr : ∀ {p q}, r p q → p.index ≤ q.index) (h : Times r n p q) :
    p.index ≤ q.index := by
  induction n generalizing p with
  | zero => exact Nat.le_of_eq (congrArg Place.index h)
  | succ n ih =>
    obtain ⟨between, hfirst, hrest⟩ := h
    exact Nat.le_trans (hr hfirst) (ih hrest)

end Times

/-- No instance ends before it begins. -/
theorem Spans.index_le {pattern : Pattern} (h : pattern.Spans p q) : p.index ≤ q.index := by
  induction pattern generalizing p q with
  | empty => exact Nat.le_of_eq (congrArg Place.index h)
  | char cls =>
    obtain ⟨c, rest, -, -, rfl⟩ := Place.advance?_eq_some_iff.mp h
    exact Nat.le_succ _
  | anchor a => exact Nat.le_of_eq (congrArg Place.index h.2)
  | seq first second ihFirst ihSecond =>
    obtain ⟨between, hfirst, hsecond⟩ := h
    exact Nat.le_trans (ihFirst hfirst) (ihSecond hsecond)
  | alt first second ihFirst ihSecond => exact h.elim ihFirst ihSecond
  | repeated part least most ih =>
    obtain ⟨more, -, htimes⟩ := h
    exact htimes.index_le ih

/-! ## Steps -/

/-- A step leads from each set of places of a text to the set of the places that are related to one of
them. -/
structure Follows (cs : List Char) (step : List Place → List Place)
    (r : Place → Place → Prop) : Prop where
  places : ∀ {ps}, PlacesOf cs ps → PlacesOf cs (step ps)
  mem_iff : ∀ {ps q}, PlacesOf cs ps → (q ∈ step ps ↔ ∃ p ∈ ps, r p q)

theorem follows_self (cs : List Char) : Follows cs (fun ps => ps) Eq :=
  ⟨fun h => h, fun _ => ⟨fun hq => ⟨_, hq, rfl⟩, fun ⟨_, hp, hpq⟩ => hpq ▸ hp⟩⟩

section Combined

variable {first second : List Place → List Place} {r s : Place → Place → Prop}

theorem Follows.seq (hr : Follows cs first r) (hs : Follows cs second s) :
    Follows cs (fun ps => second (first ps)) fun p q => ∃ between, r p between ∧ s between q := by
  refine ⟨fun h => hs.places (hr.places h), fun {ps q} h => ?_⟩
  rw [hs.mem_iff (hr.places h)]
  constructor
  · rintro ⟨between, hbetween, hq⟩
    obtain ⟨p, hp, hfirst⟩ := (hr.mem_iff h).mp hbetween
    exact ⟨p, hp, between, hfirst, hq⟩
  · rintro ⟨p, hp, between, hfirst, hq⟩
    exact ⟨between, (hr.mem_iff h).mpr ⟨p, hp, hfirst⟩, hq⟩

theorem Follows.alt (hr : Follows cs first r) (hs : Follows cs second s) :
    Follows cs (fun ps => both (first ps) (second ps)) fun p q => r p q ∨ s p q := by
  refine ⟨fun h => placesOf_both (hr.places h) (hs.places h), fun {ps q} h => ?_⟩
  rw [mem_both (hr.places h) (hs.places h), hr.mem_iff h, hs.mem_iff h, ← exists_or]
  exact exists_congr fun p => and_or_left.symm

end Combined

/-- The most characters that follow one of the places. -/
def room (ps : List Place) : Nat := (ps.map fun p => p.after.length).foldl max 0

theorem le_room (h : p ∈ ps) : p.after.length ≤ room ps := by
  have hlength : p.after.length ∈ ps.map fun p => p.after.length := List.mem_map_of_mem h
  unfold room
  rw [List.foldl_max]
  exact Nat.le_trans (List.le_max?_getD_of_mem hlength) (Nat.le_max_right _ _)

/-- Places have been followed until each of them is a last one, or all that are related to it are
there. -/
structure Explored (r : Place → Place → Prop) (seen last : List Place) : Prop where
  subset : ∀ p ∈ last, p ∈ seen
  closed : ∀ p ∈ seen, p ∈ last ∨ ∀ q, r p q → q ∈ seen

section Steps

variable {step : List Place → List Place} {r : Place → Place → Prop} {k n : Nat}

theorem Follows.related (h : Follows cs step r) (hp : p.In cs) (hr : r p q) : q.In cs :=
  (h.places (.singleton hp)).places q
    ((h.mem_iff (.singleton hp)).mpr ⟨p, List.mem_singleton_self p, hr⟩)

/-- What a step does not change, no number of steps changes. -/
theorem Follows.mem_of_fixed (h : Follows cs step r) (hps : PlacesOf cs ps) (hfixed : step ps = ps) :
    q ∈ ps ↔ ∃ p ∈ ps, Times r n p q := by
  induction n with
  | zero => exact ⟨fun hq => ⟨q, hq, rfl⟩, fun ⟨p, hp, hpq⟩ => hpq ▸ hp⟩
  | succ n ih =>
    rw [ih]
    constructor
    · rintro ⟨between, hbetween, htimes⟩
      rw [← hfixed, h.mem_iff hps] at hbetween
      obtain ⟨p, hp, hr⟩ := hbetween
      exact ⟨p, hp, between, hr, htimes⟩
    · rintro ⟨p, hp, between, hr, htimes⟩
      refine ⟨between, ?_, htimes⟩
      rw [← hfixed, h.mem_iff hps]
      exact ⟨p, hp, hr⟩

theorem Follows.stepTimes (h : Follows cs step r) (n : Nat) :
    Follows cs (stepTimes step n) (Times r n) := by
  induction n with
  | zero => exact follows_self cs
  | succ n ih =>
    have hnext : Follows cs (fun ps => Pattern.stepTimes step n (step ps)) (Times r (n + 1)) := h.seq ih
    constructor
    · intro ps hps
      unfold Pattern.stepTimes
      dsimp only
      split
      · exact hps
      · exact hnext.places hps
    · intro ps q hps
      unfold Pattern.stepTimes
      dsimp only
      split
      · rename_i hsame
        exact h.mem_of_fixed hps ((h.places hps).eq_of_indices hps hsame)
      · exact hnext.mem_iff hps

/-- Steps from what has been explored stay in it, or leave it from one of the last places. -/
theorem Explored.leaves (h : Explored r seen last) (hp : p ∈ seen) (htimes : Times r n p q) :
    q ∈ seen ∨ ∃ b ∈ last, ∃ k ≤ n, Times r k b q := by
  induction n generalizing p with
  | zero => exact .inl (htimes ▸ hp)
  | succ n ih =>
    rcases h.closed p hp with hlast | hall
    · exact .inr ⟨p, hlast, n + 1, Nat.le_refl _, htimes⟩
    · obtain ⟨between, hr, hrest⟩ := htimes
      exact (ih (hall between hr) hrest).imp_right fun ⟨p, hp, k, hk, hkq⟩ =>
        ⟨p, hp, k, Nat.le_succ_of_le hk, hkq⟩

/-- What is new among the places related to the last ones comes next. -/
theorem Explored.next (h : Follows cs step r) (hseen : PlacesOf cs seen) (hlast : PlacesOf cs last)
    (hexplored : Explored r seen last) :
    Explored r (both seen (missing (step last) seen)) (missing (step last) seen) := by
  have hnext := h.places hlast
  have hmore := hnext.sublist (missing_sublist (step last) seen)
  refine ⟨fun p hp => (mem_both hseen hmore).mpr (.inr hp), fun p hp => ?_⟩
  rcases (mem_both hseen hmore).mp hp with hp | hp
  · right
    intro q hr
    rw [mem_both hseen hmore, mem_missing hnext hseen]
    by_cases hq : q ∈ seen
    · exact .inl hq
    · rcases hexplored.closed p hp with hp | hall
      · exact .inr ⟨(h.mem_iff hlast).mpr ⟨p, hp, hr⟩, hq⟩
      · exact absurd (hall q hr) hq
  · exact .inl hp

/-- What one step more reaches from the last places is reached from what the step adds. -/
theorem Explored.reached (h : Follows cs step r) (hseen : PlacesOf cs seen) (hlast : PlacesOf cs last)
    (hexplored : Explored r seen last) :
    (q ∈ seen ∨ ∃ p ∈ last, ∃ k ≤ n + 1, Times r k p q)
      ↔ q ∈ both seen (missing (step last) seen)
        ∨ ∃ p ∈ missing (step last) seen, ∃ k ≤ n, Times r k p q := by
  have hnext := h.places hlast
  have hmore := hnext.sublist (missing_sublist (step last) seen)
  have hmem (b : Place) : b ∈ both seen (missing (step last) seen) ↔ b ∈ seen ∨ b ∈ step last := by
    rw [mem_both hseen hmore, mem_missing hnext hseen]
    by_cases hb : b ∈ seen <;> simp [hb]
  constructor
  · rintro (hq | ⟨p, hp, k, hk, htimes⟩)
    · exact .inl ((hmem q).mpr (.inl hq))
    · cases k with
      | zero => exact .inl ((hmem q).mpr (.inl (htimes ▸ hexplored.subset p hp)))
      | succ k =>
        obtain ⟨between, hfirst, hrest⟩ := htimes
        have hbetween := (hmem between).mpr (.inr ((h.mem_iff hlast).mpr ⟨p, hp, hfirst⟩))
        refine ((hexplored.next h hseen hlast).leaves hbetween hrest).imp_right ?_
        rintro ⟨b, hb, j, hj, hjq⟩
        exact ⟨b, hb, j, by omega, hjq⟩
  · rintro (hq | ⟨p, hp, k, hk, htimes⟩)
    · rcases (hmem q).mp hq with hq | hq
      · exact .inl hq
      · obtain ⟨p, hp, hr⟩ := (h.mem_iff hlast).mp hq
        exact .inr ⟨p, hp, 1, by omega, q, hr, rfl⟩
    · obtain ⟨b, hb, hr⟩ := (h.mem_iff hlast).mp ((mem_missing hnext hseen).mp hp).1
      exact .inr ⟨b, hb, k + 1, Nat.succ_le_succ hk, p, hr, htimes⟩

theorem Follows.stepUpTo (h : Follows cs step r) (hseen : PlacesOf cs seen)
    (hlast : PlacesOf cs last) (hexplored : Explored r seen last) :
    PlacesOf cs (stepUpTo step n seen last)
      ∧ ∀ q, q ∈ stepUpTo step n seen last ↔ q ∈ seen ∨ ∃ p ∈ last, ∃ k ≤ n, Times r k p q := by
  induction n generalizing seen last with
  | zero =>
    refine ⟨hseen, fun q => ⟨.inl, ?_⟩⟩
    rintro (hq | ⟨p, hp, k, hk, htimes⟩)
    · exact hq
    · obtain rfl := Nat.le_zero.mp hk
      exact htimes ▸ hexplored.subset p hp
  | succ n ih =>
    have hmore := (h.places hlast).sublist (missing_sublist (step last) seen)
    have hreached := fun q => hexplored.reached (q := q) (n := n) h hseen hlast
    unfold Pattern.stepUpTo
    split
    · rename_i hnone
      rw [hnone] at hmore hreached
      refine ⟨hseen, fun q => ?_⟩
      rw [hreached q, mem_both hseen hmore]
      simp
    · obtain ⟨hplaces, hmem⟩ := ih (placesOf_both hseen hmore) hmore (hexplored.next h hseen hlast)
      exact ⟨hplaces, fun q => (hmem q).trans (hreached q).symm⟩

/-- The places that at most so many steps lead to, where each place counts as explored that has been
followed. -/
theorem Follows.upTo (h : Follows cs step r) (hps : PlacesOf cs ps) (n : Nat) :
    PlacesOf cs (Pattern.stepUpTo step n ps ps)
      ∧ ∀ q, q ∈ Pattern.stepUpTo step n ps ps ↔ ∃ p ∈ ps, ∃ k ≤ n, Times r k p q := by
  obtain ⟨hplaces, hmem⟩ := h.stepUpTo (n := n) hps hps ⟨fun _ hp => hp, fun _ hp => .inl hp⟩
  refine ⟨hplaces, fun q => (hmem q).trans ⟨?_, .inr⟩⟩
  rintro (hq | hreached)
  · exact ⟨q, hq, 0, Nat.zero_le n, rfl⟩
  · exact hreached

/-- Steps that lead nowhere can be left out, so no more are needed than characters follow. -/
theorem Times.shorten (h : Follows cs step r) (hr : ∀ {p q}, r p q → p.index ≤ q.index)
    (hp : p.In cs) (htimes : Times r n p q) :
    ∃ k ≤ n, k ≤ q.index - p.index ∧ Times r k p q := by
  induction n generalizing p with
  | zero => exact ⟨0, Nat.le_refl _, Nat.zero_le _, htimes⟩
  | succ n ih =>
    obtain ⟨between, hfirst, hrest⟩ := htimes
    have hbetween := h.related hp hfirst
    obtain ⟨k, hkn, hk, hshort⟩ := ih hbetween hrest
    rcases Nat.eq_or_lt_of_le (hr hfirst) with heq | hlt
    · obtain rfl := hp.eq hbetween heq
      exact ⟨k, Nat.le_succ_of_le hkn, hk, hshort⟩
    · have hle := hrest.index_le hr
      exact ⟨k + 1, Nat.succ_le_succ hkn, by omega, between, hfirst, hshort⟩

theorem Times.within_room (h : Follows cs step r) (hr : ∀ {p q}, r p q → p.index ≤ q.index)
    (hps : PlacesOf cs ps) (hp : p ∈ ps) (htimes : Times r n p q) :
    ∃ k ≤ n, k ≤ room ps ∧ Times r k p q := by
  have hin := hps.places p hp
  have hout := (h.stepTimes n).related hin htimes
  obtain ⟨k, hk, hlength, hshort⟩ := htimes.shorten h hr hin
  have hroom := le_room hp
  have hbefore := hin.length
  have hafter := hout.length
  exact ⟨k, hk, by omega, hshort⟩

end Steps

/-! ## Matching -/

theorem follows_advance (cs : List Char) (cls : CharClass) :
    Follows cs (·.filterMap (Place.advance? cls)) fun p q => p.advance? cls = some q := by
  refine ⟨fun {ps} h => ⟨fun q hq => ?_, ?_⟩, fun _ => List.mem_filterMap⟩
  · obtain ⟨p, hp, hadvance⟩ := List.mem_filterMap.mp hq
    exact ((h.places p hp).advance hadvance).1
  · refine List.pairwise_filterMap.mpr (h.ordered.imp_of_mem ?_)
    intro p q hp hq hlt p' hp' q' hq'
    have := ((h.places p hp).advance hp').2
    have := ((h.places q hq).advance hq').2
    omega

theorem follows_anchor (cs : List Char) (a : Anchor) :
    Follows cs (·.filter fun p => a.holds p) fun p q => a.holds p = true ∧ p = q := by
  refine ⟨fun h => h.sublist List.filter_sublist, fun {ps q} _ => ?_⟩
  rw [List.mem_filter]
  constructor
  · rintro ⟨hq, hholds⟩
    exact ⟨q, hq, hholds, rfl⟩
  · rintro ⟨p, hp, hholds, rfl⟩
    exact ⟨hp, hholds⟩

/-- No more repetitions are tried than there are characters to stand for them. -/
theorem ends_repeated (part : Pattern) (least : Nat) (most : Option Nat) (ps : List Place) :
    ∃ bound, ends (.repeated part least most) ps
        = stepUpTo (ends part) bound (stepTimes (ends part) least ps) (stepTimes (ends part) least ps)
      ∧ ∀ k, k ≤ bound
        ↔ k ≤ room (stepTimes (ends part) least ps) ∧ ∀ n ∈ most, k ≤ n - least := by
  cases most with
  | none => exact ⟨_, rfl, by simp [room]⟩
  | some n =>
    refine ⟨_, rfl, fun k => ?_⟩
    rw [Nat.le_min, and_comm]
    simp [room]

theorem follows_repeated {part : Pattern} (h : Follows cs (ends part) part.Spans) (least : Nat)
    (most : Option Nat) :
    Follows cs (ends (.repeated part least most)) (Spans (.repeated part least most)) := by
  have hstart := h.stepTimes least
  constructor
  · intro ps hps
    obtain ⟨bound, heq, -⟩ := ends_repeated part least most ps
    rw [heq]
    exact (h.upTo (hstart.places hps) bound).1
  · intro ps q hps
    obtain ⟨bound, heq, hbound⟩ := ends_repeated part least most ps
    rw [heq, (h.upTo (hstart.places hps) bound).2]
    constructor
    · rintro ⟨between, hbetween, k, hk, hmore⟩
      obtain ⟨p, hp, hleast⟩ := (hstart.mem_iff hps).mp hbetween
      exact ⟨p, hp, k, ((hbound k).mp hk).2, times_add.mpr ⟨between, hleast, hmore⟩⟩
    · rintro ⟨p, hp, more, hmost, htimes⟩
      obtain ⟨between, hleast, hmore⟩ := times_add.mp htimes
      have hbetween := (hstart.mem_iff hps).mpr ⟨p, hp, hleast⟩
      obtain ⟨k, hk, hroom, hshort⟩ :=
        hmore.within_room h Spans.index_le (hstart.places hps) hbetween
      refine ⟨between, hbetween, k, (hbound k).mpr ⟨hroom, fun n hn => ?_⟩, hshort⟩
      exact Nat.le_trans hk (hmost n hn)

theorem follows_ends (cs : List Char) (pattern : Pattern) :
    Follows cs (ends pattern) pattern.Spans := by
  induction pattern with
  | empty => exact follows_self cs
  | char cls => exact follows_advance cs cls
  | anchor a => exact follows_anchor cs a
  | seq first second ihFirst ihSecond => exact ihFirst.seq ihSecond
  | alt first second ihFirst ihSecond => exact ihFirst.alt ihSecond
  | repeated part least most ih => exact follows_repeated ih least most

/-- Some part of the text is an instance exactly when the matcher says so. -/
theorem occursIn_iff {pattern : Pattern} {text : String} :
    pattern.occursIn text = true ↔ ∃ p q, p.In text.toList ∧ pattern.Spans p q := by
  have hmem (q : Place) := (follows_ends text.toList pattern).mem_iff (q := q) (placesOf_all text.toList)
  unfold occursIn
  rw [Bool.not_eq_true', List.isEmpty_eq_false_iff_exists_mem]
  simp only [hmem, mem_all]
  constructor
  · rintro ⟨q, p, hp, hspans⟩
    exact ⟨p, q, hp, hspans⟩
  · rintro ⟨p, q, hp, hspans⟩
    exact ⟨q, p, hp, hspans⟩

end EntityMapper.Pattern
