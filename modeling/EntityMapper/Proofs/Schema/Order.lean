import EntityMapper.Proofs.Keyed
import EntityMapper.Schema.Order
import Mathlib.Data.Set.Finite.Basic
import Mathlib.Logic.Relation
import Mathlib.Order.WellFounded

/-!
# Items in order

Entities and tables that have names of their own are put in order without losing one and without
taking one twice. Where no items need each other in a cycle, none comes before one that it needs; and
items that already stand so stay as they are. Where there are cycles, an item that needs none of those
on them still comes before all that need it, and of the others the first that is listed goes first.
-/

namespace EntityMapper.Schema

variable {α : Type} {name : α → String} {all : List α}

/-! ## Nothing is lost -/

/-- What is left once the named ones have been placed. -/
def unplaced (name : α → String) (all : List α) (placed : List String) : List α :=
  all.filter fun a => !placed.contains (name a)

theorem unplaced_cons (name : α → String) (all : List α) (n : String) (placed : List String) :
    unplaced name all (n :: placed) = (unplaced name all placed).filter (name · != n) := by
  unfold unplaced
  rw [List.filter_filter]
  apply List.filter_congr
  intro a _
  simp only [List.contains_cons, Bool.not_or]
  rfl

theorem arrange_succ (ready : List String → α → Bool) (n : Nat) (placed : List String) :
    arrange name ready all (n + 1) placed
      = match ((unplaced name all placed).find? (ready placed)).or
          (unplaced name all placed).head? with
        | none => []
        | some a => a :: arrange name ready all n (name a :: placed) := rfl

/-- The next item is one that is ready, or else the first that is left. -/
theorem arrange_cases (ready : List String → α → Bool) {placed : List String} (n : Nat) {b : α}
    (hb : b ∈ unplaced name all placed) :
    ∃ a ∈ unplaced name all placed,
      arrange name ready all (n + 1) placed = a :: arrange name ready all n (name a :: placed)
        ∧ ((unplaced name all placed).find? (ready placed) = some a
          ∨ (unplaced name all placed).find? (ready placed) = none
            ∧ (unplaced name all placed).head? = some a) := by
  rw [arrange_succ]
  cases hnext : ((unplaced name all placed).find? (ready placed)).or
      (unplaced name all placed).head? with
  | none =>
    obtain ⟨-, hnone⟩ := Option.or_eq_none_iff.mp hnext
    rw [List.head?_eq_none_iff.mp hnone] at hb
    cases hb
  | some a =>
    rcases Option.or_eq_some_iff.mp hnext with hfound | ⟨hnone, hfirst⟩
    · exact ⟨a, List.mem_of_find?_eq_some hfound, rfl, .inl hfound⟩
    · exact ⟨a, List.mem_of_mem_head? hfirst, rfl, .inr ⟨hnone, hfirst⟩⟩

/-- What is left is an item and what is left once it has been placed too. -/
theorem perm_unplaced_cons (h : (all.map name).Nodup) {placed : List String} {a : α}
    (ha : a ∈ unplaced name all placed) :
    (unplaced name all placed).Perm (a :: unplaced name all (name a :: placed)) := by
  rw [unplaced_cons]
  exact Keyed.perm_cons_filter (h.sublist (List.filter_sublist.map name)) ha

theorem length_unplaced_cons (h : (all.map name).Nodup) {placed : List String} {a : α} {n : Nat}
    (ha : a ∈ unplaced name all placed) (hn : (unplaced name all placed).length ≤ n + 1) :
    (unplaced name all (name a :: placed)).length ≤ n := by
  have hlength := (perm_unplaced_cons h ha).length_eq
  rw [List.length_cons] at hlength
  omega

theorem arrange_perm_unplaced (ready : List String → α → Bool) (h : (all.map name).Nodup) (n : Nat)
    (placed : List String) (hn : (unplaced name all placed).length ≤ n) :
    (arrange name ready all n placed).Perm (unplaced name all placed) := by
  induction n generalizing placed with
  | zero =>
    rw [List.eq_nil_of_length_eq_zero (Nat.le_zero.mp hn)]
    exact .nil
  | succ n ih =>
    by_cases hne : unplaced name all placed = []
    · rw [arrange_succ, hne]
      exact .nil
    · obtain ⟨b, hb⟩ := List.exists_mem_of_ne_nil _ hne
      obtain ⟨a, ha, hstep, -⟩ := arrange_cases ready n hb
      have hrest := ih (name a :: placed) (length_unplaced_cons h ha hn)
      rw [hstep]
      exact (hrest.cons a).trans (perm_unplaced_cons h ha).symm

theorem arrange_perm (ready : List String → α → Bool) (h : (all.map name).Nodup) :
    (arrange name ready all all.length []).Perm all := by
  have hall : unplaced name all [] = all := by simp [unplaced]
  have hperm := arrange_perm_unplaced ready h all.length [] (by simp [hall])
  rwa [hall] at hperm

/-! ## What is needed comes first -/

section Needs

variable {needs : α → α → Prop} {ready : List String → α → Bool} {placed : List String}

/-- One item of a list needs another one. -/
def NeedsWithin (needs : α → α → Prop) (l : List α) (a b : α) : Prop := a ∈ l ∧ b ∈ l ∧ needs a b

/-- No items of a list need each other in a cycle. -/
def Acyclic (needs : α → α → Prop) (l : List α) : Prop :=
  ∀ a, ¬Relation.TransGen (NeedsWithin needs l) a a

/-- An item is ready once all that it needs are placed. -/
def ReadyWhen (name : α → String) (needs : α → α → Prop) (all : List α)
    (ready : List String → α → Bool) : Prop :=
  ∀ placed, ∀ a ∈ all, ready placed a = true ↔ ∀ b ∈ all, needs a b → name b ∈ placed

theorem Acyclic.subset {l l' : List α} (h : Acyclic needs l) (hsub : l' ⊆ l) : Acyclic needs l' := by
  intro a hcycle
  refine h a (Relation.TransGen.mono ?_ a a hcycle)
  exact fun b c ⟨hb, hc, hneeds⟩ => ⟨hsub hb, hsub hc, hneeds⟩

/-- Items of which none stands before one that it needs do not need each other in a cycle. -/
theorem acyclic_of_pairwise (hself : ∀ a, ¬needs a a) {l : List α}
    (h : l.Pairwise fun a b => ¬needs a b) : Acyclic needs l := by
  induction l with
  | nil =>
    intro a hcycle
    obtain ⟨_, ⟨hmem, -⟩, -⟩ := Relation.TransGen.head'_iff.mp hcycle
    cases hmem
  | cons first rest ih =>
    obtain ⟨hfirst, hrest⟩ := List.pairwise_cons.mp h
    -- The first item needs none of the others, so a cycle does not pass through it.
    have hmem_rest {a b : α} (hab : NeedsWithin needs (first :: rest) a b) : a ∈ rest := by
      obtain ⟨ha, hb, hneeds⟩ := hab
      rcases List.mem_cons.mp ha with rfl | ha
      · rcases List.mem_cons.mp hb with rfl | hb
        · exact absurd hneeds (hself _)
        · exact absurd hneeds (hfirst b hb)
      · exact ha
    have hwithin {a b : α} (hab : Relation.TransGen (NeedsWithin needs (first :: rest)) a b)
        (hb : b ∈ rest) : Relation.TransGen (NeedsWithin needs rest) a b := by
      induction hab using Relation.TransGen.head_induction_on with
      | single hedge => exact .single ⟨hmem_rest hedge, hb, hedge.2.2⟩
      | head hedge hmore ih =>
        obtain ⟨_, hnext, -⟩ := Relation.TransGen.head'_iff.mp hmore
        exact .head ⟨hmem_rest hedge, hmem_rest hnext, hedge.2.2⟩ ih
    intro a hcycle
    obtain ⟨_, hnext, -⟩ := Relation.TransGen.head'_iff.mp hcycle
    exact ih hrest a (hwithin hcycle (hmem_rest hnext))

/-- Without cycles, some item of those that are left needs none of them. -/
theorem Acyclic.exists_needless {l : List α} (h : Acyclic needs l) (hne : l ≠ []) :
    ∃ a ∈ l, ∀ b ∈ l, ¬needs a b := by
  -- The list is finite, so that there is no endless way from one item to another that it needs.
  let below (b a : {a // a ∈ l}) : Prop := Relation.TransGen (NeedsWithin needs l) a.1 b.1
  have : Finite {a // a ∈ l} := l.finite_toSet.to_subtype
  have : IsTrans _ below := ⟨fun _ _ _ hab hbc => hbc.trans hab⟩
  have : Std.Irrefl below := ⟨fun a => h a.1⟩
  have hwell : WellFounded below := Finite.wellFounded_of_trans_of_irrefl below
  obtain ⟨first, hfirst⟩ := List.exists_mem_of_ne_nil l hne
  obtain ⟨a, -, ha⟩ := hwell.has_min Set.univ ⟨⟨first, hfirst⟩, trivial⟩
  exact ⟨a.1, a.2, fun b hb hneeds => ha ⟨b, hb⟩ trivial (.single ⟨a.2, hb, hneeds⟩)⟩

theorem mem_unplaced {a : α} : a ∈ unplaced name all placed ↔ a ∈ all ∧ name a ∉ placed := by
  simp [unplaced]

/-- An item is on a cycle, or needs one that is by way of others. -/
def Caught (needs : α → α → Prop) (l : List α) (a : α) : Prop :=
  ∃ c, Relation.ReflTransGen (NeedsWithin needs l) a c ∧ Relation.TransGen (NeedsWithin needs l) c c

theorem Acyclic.not_caught {l : List α} {a : α} (h : Acyclic needs l) : ¬Caught needs l a :=
  fun ⟨c, _, hcycle⟩ => h c hcycle

/-- What is caught needs something that is caught. -/
theorem Caught.exists_needed {l : List α} {a : α} (h : Caught needs l a) :
    ∃ b ∈ l, needs a b ∧ Caught needs l b := by
  obtain ⟨c, hway, hcycle⟩ := h
  rcases Relation.ReflTransGen.cases_head hway with rfl | ⟨b, hfirst, hrest⟩
  · obtain ⟨b, hfirst, hrest⟩ := Relation.TransGen.head'_iff.mp hcycle
    exact ⟨b, hfirst.2.1, hfirst.2.2, a, hrest, hcycle⟩
  · exact ⟨b, hfirst.2.1, hfirst.2.2, c, hrest, hcycle⟩

/-- While an item is left that is not caught, one of those that are left is ready. -/
theorem ReadyWhen.exists_ready (hready : ReadyWhen name needs all ready) {b : α}
    (hb : b ∈ unplaced name all placed) (hfree : ¬Caught needs all b) :
    ∃ a, (unplaced name all placed).find? (ready placed) = some a := by
  classical
  -- Of the items that are left, those that `b` needs by way of others, and `b`.
  let below := (unplaced name all placed).filter
    fun a => Relation.ReflTransGen (NeedsWithin needs all) b a
  have hsub : below ⊆ all :=
    fun a ha => List.mem_of_mem_filter (List.mem_of_mem_filter ha)
  have hacyclic : Acyclic needs below := by
    intro c hcycle
    obtain ⟨_, ⟨hc, -⟩, -⟩ := Relation.TransGen.head'_iff.mp hcycle
    have hway : Relation.ReflTransGen (NeedsWithin needs all) b c := by
      simpa using (List.mem_filter.mp hc).2
    refine hfree ⟨c, hway, Relation.TransGen.mono ?_ c c hcycle⟩
    exact fun x y ⟨hx, hy, hneeds⟩ => ⟨hsub hx, hsub hy, hneeds⟩
  have hbelow : b ∈ below := List.mem_filter.mpr ⟨hb, by simpa using .refl⟩
  obtain ⟨a, ha, hneedless⟩ := hacyclic.exists_needless (List.ne_nil_of_mem hbelow)
  obtain ⟨hleft, hway⟩ := List.mem_filter.mp ha
  have hway : Relation.ReflTransGen (NeedsWithin needs all) b a := by simpa using hway
  refine Option.isSome_iff_exists.mp (List.find?_isSome.mpr ⟨a, hleft, ?_⟩)
  refine (hready placed a (hsub ha)).mpr fun d hd hneeds => ?_
  by_contra hmissing
  refine hneedless d (List.mem_filter.mpr ⟨mem_unplaced.mpr ⟨hd, hmissing⟩, ?_⟩) hneeds
  simpa using hway.tail ⟨hsub ha, hd, hneeds⟩

/-- What is found ready is left, and all that it needs is placed. -/
theorem ReadyWhen.of_find? (hready : ReadyWhen name needs all ready) {a : α}
    (h : (unplaced name all placed).find? (ready placed) = some a) :
    a ∈ unplaced name all placed ∧ ∀ b ∈ all, needs a b → name b ∈ placed := by
  have hleft := List.mem_of_find?_eq_some h
  exact ⟨hleft, (hready placed a (mem_unplaced.mp hleft).1).mp (List.find?_some h)⟩

/-- Without cycles, the next item is one that is ready. -/
theorem ReadyWhen.next (hready : ReadyWhen name needs all ready) (hacyclic : Acyclic needs all)
    (hne : unplaced name all placed ≠ []) :
    ∃ a ∈ unplaced name all placed, (unplaced name all placed).find? (ready placed) = some a
      ∧ ∀ b ∈ all, needs a b → name b ∈ placed := by
  obtain ⟨b, hb⟩ := List.exists_mem_of_ne_nil _ hne
  obtain ⟨a, ha⟩ := hready.exists_ready hb hacyclic.not_caught
  obtain ⟨hleft, hplaced⟩ := hready.of_find? ha
  exact ⟨a, hleft, ha, hplaced⟩

/-- No item is placed before one that it needs. -/
theorem ReadyWhen.pairwise_arrange (hready : ReadyWhen name needs all ready)
    (hacyclic : Acyclic needs all) (h : (all.map name).Nodup) (n : Nat) (placed : List String)
    (hn : (unplaced name all placed).length ≤ n) :
    (arrange name ready all n placed).Pairwise fun a b => ¬needs a b := by
  induction n generalizing placed with
  | zero => exact .nil
  | succ n ih =>
    rw [arrange_succ]
    by_cases hne : unplaced name all placed = []
    · rw [hne]
      exact .nil
    · obtain ⟨a, ha, hfound, hneeds⟩ := hready.next hacyclic hne
      have hrest := length_unplaced_cons h ha hn
      rw [hfound]
      refine .cons (fun b hb hab => ?_) (ih (name a :: placed) hrest)
      have hperm := arrange_perm_unplaced ready h n (name a :: placed) hrest
      obtain ⟨hmem, hleft⟩ := mem_unplaced.mp (hperm.mem_iff.mp hb)
      exact hleft (List.mem_cons_of_mem _ (hneeds b hmem hab))

/-- Where no item stands before one that it needs, each in turn is the first that is left, and ready. -/
theorem ReadyWhen.arrange_eq (hready : ReadyWhen name needs all ready) (hself : ∀ a, ¬needs a a)
    (h : (all.map name).Nodup) {rest : List α} (hleft : unplaced name all placed = rest)
    (hrest : rest.Pairwise fun a b => ¬needs a b) :
    arrange name ready all rest.length placed = rest := by
  induction rest generalizing placed with
  | nil => rfl
  | cons a rest ih =>
    obtain ⟨hfirst, hrest⟩ := List.pairwise_cons.mp hrest
    have hmem : a ∈ unplaced name all placed := hleft ▸ List.mem_cons_self
    have hplaced : ready placed a = true := by
      refine (hready placed a (mem_unplaced.mp hmem).1).mpr fun b hb hneeds => ?_
      by_contra hb'
      rcases List.mem_cons.mp (hleft ▸ mem_unplaced.mpr ⟨hb, hb'⟩) with rfl | hlater
      · exact hself b hneeds
      · exact hfirst b hlater hneeds
    have hothers : unplaced name all (name a :: placed) = rest := by
      have hdistinct : ((unplaced name all placed).map name).Nodup :=
        h.sublist (List.filter_sublist.map name)
      rw [hleft, List.map_cons, List.nodup_cons] at hdistinct
      have hother : ∀ b ∈ rest, name b ≠ name a :=
        fun b hb hsame => hdistinct.1 (hsame ▸ List.mem_map_of_mem hb)
      rw [unplaced_cons, hleft]
      simpa using hother
    rw [List.length_cons, arrange_succ, hleft, List.find?_cons_of_pos hplaced]
    exact congrArg (a :: ·) (ih hothers hrest)

/-! ## Around cycles -/

/-- One item stands before another one in a list. -/
def Before (l : List α) (a b : α) : Prop := List.Sublist [a, b] l

theorem Before.not_swap {l : List α} {a b : α} (hl : l.Nodup) (h : Before l a b) : ¬Before l b a := by
  intro hswap
  induction l with
  | nil => cases h
  | cons x l ih =>
    obtain ⟨hx, hl⟩ := List.nodup_cons.mp hl
    cases h with
    | cons _ h =>
      cases hswap with
      | cons _ hswap => exact ih hl h hswap
      | cons_cons _ ha => exact hx (h.subset (by simp))
    | cons_cons _ hb =>
      cases hswap with
      | cons _ hswap => exact hx (hswap.subset (by simp))
      | cons_cons _ ha => exact hx (List.singleton_sublist.mp ha)

/-- What is left but not taken now is left after. -/
theorem mem_unplaced_of_ne (h : (all.map name).Nodup) {a b : α} (ha : a ∈ unplaced name all placed)
    (hb : b ∈ unplaced name all placed) (hne : b ≠ a) : b ∈ unplaced name all (name a :: placed) := by
  rw [mem_unplaced] at ha hb ⊢
  refine ⟨hb.1, fun hmem => ?_⟩
  rcases List.mem_cons.mp hmem with hsame | hmem
  · exact hne (Keyed.eq_of_key_eq h hb.1 ha.1 hsame)
  · exact hb.2 hmem

/-- An item that another one needs comes before it, unless it is caught and listed after it. -/
theorem ReadyWhen.before_arrange (hready : ReadyWhen name needs all ready)
    (h : (all.map name).Nodup) {a b : α} (hneeds : needs a b) (hne : b ≠ a)
    (hb : ¬Caught needs all b ∨ Before all b a) (n : Nat) (placed : List String)
    (hn : (unplaced name all placed).length ≤ n) (haleft : a ∈ unplaced name all placed)
    (hbleft : b ∈ unplaced name all placed) : Before (arrange name ready all n placed) b a := by
  induction n generalizing placed with
  | zero => simp [List.eq_nil_of_length_eq_zero (Nat.le_zero.mp hn)] at haleft
  | succ n ih =>
    obtain ⟨x, hx, hstep, hcase⟩ := arrange_cases ready n hbleft
    have hrest := length_unplaced_cons h hx hn
    rw [hstep]
    by_cases hxb : b = x
    · subst hxb
      have hlater := (arrange_perm_unplaced ready h n (name b :: placed) hrest).mem_iff.mpr
        (mem_unplaced_of_ne h hx haleft (Ne.symm hne))
      exact (List.singleton_sublist.mpr hlater).cons_cons b
    · have hxa : a ≠ x := by
        rintro rfl
        rcases hcase with hfound | ⟨hnone, hfirst⟩
        · exact (mem_unplaced.mp hbleft).2
            ((hready.of_find? hfound).2 b (mem_unplaced.mp hbleft).1 hneeds)
        rcases hb with hfree | hlisted
        · obtain ⟨y, hy⟩ := hready.exists_ready hbleft hfree
          rw [hnone] at hy
          cases hy
        · -- Both are left, so `b` still stands before `a`, which is then not the first.
          have hkept : Before (unplaced name all placed) b a := by
            have hkeeps := hlisted.filter fun y => !placed.contains (name y)
            have hba := mem_unplaced.mp hbleft
            have haa := mem_unplaced.mp haleft
            simpa [Before, unplaced, hba.2, haa.2] using hkeeps
          obtain ⟨rest, hleft⟩ := List.head?_eq_some_iff.mp hfirst
          have hnodup : (unplaced name all placed).Nodup := (List.Nodup.of_map _ h).filter _
          rw [hleft] at hkept hnodup
          cases hkept with
          | cons _ hkept => exact (List.nodup_cons.mp hnodup).1 (hkept.subset (by simp))
          | cons_cons _ hkept => exact hne rfl
      exact (ih (name x :: placed) hrest (mem_unplaced_of_ne h hx haleft hxa)
        (mem_unplaced_of_ne h hx hbleft hxb)).cons x

/-- Of the items that are caught, one that is listed first of all comes first. -/
theorem ReadyWhen.before_arrange_of_caught (hready : ReadyWhen name needs all ready)
    (h : (all.map name).Nodup) {a b : α} (hfirst : all.head? = some a) (ha : Caught needs all a)
    (hb : Caught needs all b) (hne : b ≠ a) (n : Nat) (placed : List String)
    (hn : (unplaced name all placed).length ≤ n)
    (hleft : ∀ c ∈ all, Caught needs all c → name c ∉ placed) (hball : b ∈ all) :
    Before (arrange name ready all n placed) a b := by
  have haall : a ∈ all := List.mem_of_mem_head? hfirst
  induction n generalizing placed with
  | zero =>
    have haleft := mem_unplaced.mpr ⟨haall, hleft a haall ha⟩
    simp [List.eq_nil_of_length_eq_zero (Nat.le_zero.mp hn)] at haleft
  | succ n ih =>
    have haleft := mem_unplaced.mpr ⟨haall, hleft a haall ha⟩
    have hbleft := mem_unplaced.mpr ⟨hball, hleft b hball hb⟩
    obtain ⟨x, hx, hstep, hcase⟩ := arrange_cases ready n haleft
    have hrest := length_unplaced_cons h hx hn
    rw [hstep]
    rcases hcase with hfound | ⟨-, hhead⟩
    · -- One that is ready needs nothing that is left, and so is not caught.
      have hfree : ¬Caught needs all x := by
        intro hcaught
        obtain ⟨c, hc, hneeds, hcaught⟩ := hcaught.exists_needed
        exact hleft c hc hcaught ((hready.of_find? hfound).2 c hc hneeds)
      refine (ih (name x :: placed) hrest fun c hc hcaught hmem => ?_).cons x
      rcases List.mem_cons.mp hmem with hsame | hmem
      · exact hfree (Keyed.eq_of_key_eq h hc (mem_unplaced.mp hx).1 hsame ▸ hcaught)
      · exact hleft c hc hcaught hmem
    · obtain ⟨rest, rfl⟩ := List.head?_eq_some_iff.mp hfirst
      have hax : a = x := by
        have hkeep : name a ∉ placed := hleft a haall ha
        simpa [unplaced, hkeep] using hhead
      subst hax
      have hlater := (arrange_perm_unplaced ready h n (name a :: placed) hrest).mem_iff.mpr
        (mem_unplaced_of_ne h hx hbleft hne)
      exact (List.singleton_sublist.mpr hlater).cons_cons a

end Needs

theorem dependencyOrder_perm {all : List Entity} (h : (all.map (·.name)).Nodup) :
    (dependencyOrder all).Perm all := arrange_perm _ h

theorem nodup_dependencyOrder {all : List Entity} (h : (all.map (·.name)).Nodup) :
    ((dependencyOrder all).map (·.name)).Nodup :=
  ((dependencyOrder_perm h).map (·.name)).nodup_iff.mpr h

theorem dropOrder_perm {all : List LiveTable} (h : (all.map (·.name)).Nodup) :
    (dropOrder all).Perm all := arrange_perm _ h

end EntityMapper.Schema
