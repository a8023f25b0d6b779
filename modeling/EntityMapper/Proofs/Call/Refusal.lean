import EntityMapper.Proofs.Call
import EntityMapper.Proofs.Result

/-!
# Refused queries

A result that says that a query can not be accepted is told from all others. `Follows` compares two
results that are made in the same way from different values; `Accepts c` says that no replies make the
call refuse a query.
-/

namespace EntityMapper

section Results

variable {α β γ δ : Type} {r : Except DataError α} {r' : Except DataError β}

/-- The query can not be accepted. -/
def Refuses (r : Except DataError α) : Prop := ∃ fault, r = .error (.query fault)

/-- Whatever is not refused in the second way is not refused in the first, and fails in the second
only if it fails in the first. What the two hold is not compared. -/
structure Follows (r : Except DataError α) (r' : Except DataError β) : Prop where
  holds : ∀ a, r = .ok a → ∃ b, r' = .ok b
  refusal : ∀ fault, r = .error (.query fault) → r' = .error (.query fault)

theorem Follows.refuses (h : Follows r r') (hr : Refuses r) : Refuses r' := by
  obtain ⟨fault, hr⟩ := hr
  exact ⟨fault, h.refusal fault hr⟩

theorem Follows.refl (r : Except DataError α) : Follows r r := ⟨fun a h => ⟨a, h⟩, fun _ h => h⟩

theorem follows_ok (a : α) (b : β) : Follows (.ok a) (.ok b) := ⟨fun _ _ => ⟨b, rfl⟩, nofun⟩

theorem follows_of_not_refuses (h : ¬Refuses r) (b : β) : Follows r (.ok b) :=
  ⟨fun _ _ => ⟨b, rfl⟩, fun fault hr => absurd ⟨fault, hr⟩ h⟩

theorem Follows.bind {f : α → Except DataError γ} {g : β → Except DataError δ} (h : Follows r r')
    (hf : ∀ a b, r = .ok a → r' = .ok b → Follows (f a) (g b)) : Follows (r >>= f) (r' >>= g) := by
  cases r with
  | error error =>
    refine ⟨nofun, fun fault hr => ?_⟩
    cases hr
    rw [h.refusal fault rfl]
    rfl
  | ok a =>
    obtain ⟨b, rfl⟩ := h.holds a rfl
    exact hf a b rfl rfl

theorem Follows.mapM {f : α → Except DataError γ} {g : β → Except DataError δ} {as : List α}
    {bs : List β} (h : List.Forall₂ (fun a b => Follows (f a) (g b)) as bs) :
    Follows (as.mapM f) (bs.mapM g) := by
  induction h with
  | nil => exact follows_ok [] []
  | cons hfirst _ ih =>
    rw [List.mapM_cons, List.mapM_cons]
    exact hfirst.bind fun _ _ _ _ => ih.bind fun _ _ _ _ => follows_ok _ _

theorem not_refuses_ok (a : α) : ¬Refuses (.ok a : Except DataError α) := nofun

theorem not_refuses_bind {f : α → Except DataError γ} (h : ¬Refuses r)
    (hf : ∀ a, r = .ok a → ¬Refuses (f a)) : ¬Refuses (r >>= f) := by
  cases r with
  | error error =>
    rintro ⟨fault, hr⟩
    cases hr
    exact h ⟨fault, rfl⟩
  | ok a => exact hf a rfl

theorem not_refuses_mapM {f : α → Except DataError γ} {as : List α}
    (h : ∀ a ∈ as, ¬Refuses (f a)) : ¬Refuses (as.mapM f) := by
  induction as with
  | nil => exact not_refuses_ok []
  | cons a as ih =>
    rw [List.forall_mem_cons] at h
    rw [List.mapM_cons]
    exact not_refuses_bind h.1 fun _ _ => not_refuses_bind (ih h.2) fun _ _ => not_refuses_ok _

end Results

/-! ## Calls -/

namespace Call

variable {α β : Type}

/-- Whatever the replies are, the call does not refuse a query. -/
def Accepts (c : Call α) : Prop := ∀ x, ¬Refuses (c.on x).1

theorem accepts_pure (a : α) : Accepts (pure a : Call α) := fun _ => not_refuses_ok a

theorem accepts_lift {r : Except DataError α} (h : ¬Refuses r) : Accepts (liftM r : Call α) :=
  fun _ => h

theorem accepts_declared (r : Except ConfigError α) : Accepts (ofExcept r) := by
  intro x
  cases r with
  | error fault =>
    rintro ⟨_, h⟩
    cases h
  | ok a => exact not_refuses_ok a

theorem accepts_query (s : Statement) : Accepts (query s) := by
  intro x
  unfold query
  have hnext : on (modifyGet fun x : Exchange => nextReply { x with log := x.log ++ [.query s] }) x
      = (.ok (nextReply { x with log := x.log ++ [.query s] }).1,
          (nextReply { x with log := x.log ++ [.query s] }).2) := rfl
  rw [on_bind_ok hnext]
  rintro ⟨fault, h⟩
  split at h <;> cases h

theorem not_refuses_on_bind {c : Call α} {f : α → Call β} {x : Exchange}
    (hc : ¬Refuses (c.on x).1) (hf : ∀ a y, c.on x = (.ok a, y) → ¬Refuses ((f a).on y).1) :
    ¬Refuses ((c >>= f).on x).1 := by
  rcases hr : c.on x with ⟨error | a, y⟩
  · rw [on_bind_error hr]
    rintro ⟨fault, h⟩
    cases h
    exact hc ⟨fault, by rw [hr]⟩
  · rw [on_bind_ok hr]
    exact hf a y hr

theorem refuses_on_bind {c : Call α} {f : α → Call β} {x : Exchange} (h : Refuses (c.on x).1) :
    Refuses ((c >>= f).on x).1 := by
  obtain ⟨fault, h⟩ := h
  rcases hr : c.on x with ⟨r, y⟩
  rw [hr] at h
  cases h
  rw [on_bind_error hr]
  exact ⟨fault, rfl⟩

theorem Accepts.bind {c : Call α} {f : α → Call β} (hc : Accepts c)
    (hf : ∀ a, Returns c a → Accepts (f a)) : Accepts (c >>= f) :=
  fun x => not_refuses_on_bind (hc x) fun a y hr => hf a ⟨x, y, hr⟩ y

theorem Accepts.map {c : Call α} (hc : Accepts c) (f : α → β) : Accepts (f <$> c) := by
  rw [map_eq_pure_bind]
  exact hc.bind fun _ _ => accepts_pure _

end Call
end EntityMapper
