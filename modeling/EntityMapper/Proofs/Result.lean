import Mathlib.Data.List.Forall2

/-!
# Results of chains

What is known of the parts when a chain of steps that can fail has succeeded, or has failed.
-/

namespace EntityMapper.Result

universe u

variable {ε : Type} {α β : Type u}

theorem of_bind {x : Except ε α} {f : α → Except ε β} {b : β} (h : (x >>= f) = .ok b) :
    ∃ a, x = .ok a ∧ f a = .ok b := by
  cases x with
  | error e => cases h
  | ok a => exact ⟨a, rfl, h⟩

theorem error_of_bind {x : Except ε α} {f : α → Except ε β} {e : ε} (h : (x >>= f) = .error e) :
    x = .error e ∨ ∃ a, x = .ok a ∧ f a = .error e := by
  cases x with
  | error _ =>
    cases h
    exact .inl rfl
  | ok a => exact .inr ⟨a, rfl, h⟩

theorem seq_ok_iff {x y : Except ε Unit} :
    (x >>= fun _ => y) = .ok () ↔ x = .ok () ∧ y = .ok () := by
  refine ⟨fun h => ?_, fun ⟨hx, hy⟩ => by rw [hx]; exact hy⟩
  obtain ⟨_, hx, hy⟩ := of_bind h
  exact ⟨hx, hy⟩

/-- A check of all items passes when it passes for each. -/
theorem forM_ok_iff {γ : Type} {f : γ → Except ε Unit} {as : List γ} :
    as.forM f = .ok () ↔ ∀ a ∈ as, f a = .ok () := by
  induction as with
  | nil => simp [pure, Except.pure]
  | cons a as ih =>
    rw [List.forall_mem_cons, ← ih]
    exact seq_ok_iff

/-- A check of all items that fails does so at the first item that it fails for. -/
theorem first_error_of_forM {γ : Type} {f : γ → Except ε Unit} {as : List γ} {e : ε}
    (h : as.forM f = .error e) :
    ∃ before a after, as = before ++ a :: after ∧ (∀ b ∈ before, f b = .ok ()) ∧ f a = .error e := by
  induction as with
  | nil => cases h
  | cons a as ih =>
    rcases error_of_bind (x := f a) (f := fun _ => as.forM f) h with hfirst | ⟨_, ha, hrest⟩
    · exact ⟨[], a, as, rfl, nofun, hfirst⟩
    · obtain ⟨before, b, after, rfl, hbefore, hb⟩ := ih hrest
      exact ⟨a :: before, b, after, rfl, List.forall_mem_cons.mpr ⟨ha, hbefore⟩, hb⟩

/-- A check of all items that fails does so at one of them. -/
theorem error_of_forM {γ : Type} {f : γ → Except ε Unit} {as : List γ} {e : ε}
    (h : as.forM f = .error e) : ∃ a ∈ as, f a = .error e := by
  obtain ⟨before, a, after, rfl, -, ha⟩ := first_error_of_forM h
  exact ⟨a, by simp, ha⟩

/-- Items for which a check passes can be left out of it. -/
theorem forM_filter {γ : Type} {f : γ → Except ε Unit} {p : γ → Bool} {as : List γ}
    (h : ∀ a ∈ as, p a = false → f a = .ok ()) : (as.filter p).forM f = as.forM f := by
  induction as with
  | nil => rfl
  | cons a as ih =>
    obtain ⟨ha, has⟩ := List.forall_mem_cons.mp h
    have hrest := ih has
    cases hp : p a with
    | true =>
      rw [List.filter_cons_of_pos hp]
      exact congrArg (fun rest => f a >>= fun _ => rest) hrest
    | false =>
      rw [List.filter_cons_of_neg (by simp [hp]), hrest]
      change _ = (f a >>= fun _ => as.forM f)
      rw [ha hp]
      rfl

/-- An item may stand for another for which the check comes to the same. -/
theorem forM_middle {γ : Type} {f : γ → Except ε Unit} {a b : γ} (h : f a = f b)
    (before after : List γ) : (before ++ a :: after).forM f = (before ++ b :: after).forM f := by
  induction before with
  | nil =>
    change (f a >>= fun _ => after.forM f) = (f b >>= fun _ => after.forM f)
    rw [h]
  | cons c before ih => exact congrArg (fun rest => f c >>= fun _ => rest) ih

/-- A chain over all items that fails does so at one of them. -/
theorem error_of_mapM {f : α → Except ε β} {as : List α} {e : ε} (h : as.mapM f = .error e) :
    ∃ a ∈ as, f a = .error e := by
  induction as with
  | nil => cases h
  | cons a as ih =>
    rw [List.mapM_cons] at h
    rcases error_of_bind h with hfirst | ⟨_, -, h⟩
    · exact ⟨a, List.mem_cons_self, hfirst⟩
    · rcases error_of_bind h with hrest | ⟨_, -, h⟩
      · obtain ⟨b, hb, hfails⟩ := ih hrest
        exact ⟨b, List.mem_cons_of_mem _ hb, hfails⟩
      · cases h

theorem of_mapM {γ : Type u} {f : γ → Except ε β} {as : List γ} {bs : List β}
    (h : as.mapM f = .ok bs) : List.Forall₂ (fun a b => f a = .ok b) as bs := by
  induction as generalizing bs with
  | nil =>
    cases h
    exact .nil
  | cons a as ih =>
    rw [List.mapM_cons] at h
    obtain ⟨b, hb, h⟩ := of_bind h
    obtain ⟨rest, hrest, h⟩ := of_bind h
    cases h
    exact .cons hb (ih hrest)

theorem exists_of_mem_left {γ : Type u} {R : γ → β → Prop} {as : List γ} {bs : List β}
    (h : List.Forall₂ R as bs) {a : γ} (ha : a ∈ as) : ∃ b ∈ bs, R a b := by
  induction h with
  | nil => cases ha
  | cons hfirst _ ih =>
    rcases List.mem_cons.mp ha with rfl | ha
    · exact ⟨_, List.mem_cons_self, hfirst⟩
    · obtain ⟨b, hb, hr⟩ := ih ha
      exact ⟨b, List.mem_cons_of_mem _ hb, hr⟩

theorem exists_of_mem_right {γ : Type u} {R : γ → β → Prop} {as : List γ} {bs : List β}
    (h : List.Forall₂ R as bs) {b : β} (hb : b ∈ bs) : ∃ a ∈ as, R a b := by
  induction h with
  | nil => cases hb
  | cons hfirst _ ih =>
    rcases List.mem_cons.mp hb with rfl | hb
    · exact ⟨_, List.mem_cons_self, hfirst⟩
    · obtain ⟨a, ha, hr⟩ := ih hb
      exact ⟨a, List.mem_cons_of_mem _ ha, hr⟩

/-- Lists are related item by item by way of a third. -/
theorem forall₂_trans {γ : Type u} {R : α → β → Prop} {S : β → γ → Prop} {T : α → γ → Prop}
    (h : ∀ a b c, R a b → S b c → T a c) {as : List α} {bs : List β} {cs : List γ}
    (hfirst : List.Forall₂ R as bs) (hsecond : List.Forall₂ S bs cs) : List.Forall₂ T as cs := by
  induction hfirst generalizing cs with
  | nil =>
    cases hsecond
    exact .nil
  | cons hab _ ih =>
    cases hsecond with
    | cons hbc hrest => exact .cons (h _ _ _ hab hbc) (ih hrest)

/-- What every step preserves holds at the end. -/
theorem of_foldlM {γ : Type u} {f : β → γ → Except ε β} {P : β → Prop} {as : List γ} {b b' : β}
    (h : as.foldlM f b = .ok b') (hb : P b)
    (hstep : ∀ a ∈ as, ∀ b b', P b → f b a = .ok b' → P b') : P b' := by
  induction as generalizing b with
  | nil =>
    cases h
    exact hb
  | cons a as ih =>
    rw [List.foldlM_cons] at h
    obtain ⟨middle, hmiddle, h⟩ := of_bind h
    exact ih h (hstep a List.mem_cons_self _ _ hb hmiddle)
      fun c hc => hstep c (List.mem_cons_of_mem _ hc)

end EntityMapper.Result
