import EntityMapper.Proofs.Call

/-!
# Calls that come to the same

Two results are alike when they fail with one error or hold values that are related. `Agree` says this
of two calls that ask nothing of the database, and of all exchanges with the same handlers: neither
the replies to come nor how often handlers were run makes a difference to them.
-/

namespace EntityMapper

section Results

variable {α β γ δ : Type} {R Q : α → β → Prop}

/-- Both fail with the same error, or both hold values, which are related. -/
inductive Alike (R : α → β → Prop) : Except DataError α → Except DataError β → Prop
  | error (error : DataError) : Alike R (.error error) (.error error)
  | ok {a : α} {b : β} (h : R a b) : Alike R (.ok a) (.ok b)

theorem Alike.bind {r : Except DataError α} {r' : Except DataError β} {S : γ → δ → Prop}
    {f : α → Except DataError γ} {g : β → Except DataError δ} (h : Alike R r r')
    (hf : ∀ a b, R a b → Alike S (f a) (g b)) : Alike S (r >>= f) (r' >>= g) := by
  cases h with
  | error error => exact .error error
  | ok h => exact hf _ _ h

theorem Alike.map {r : Except DataError α} {r' : Except DataError β} {S : γ → δ → Prop} {f : α → γ}
    {g : β → δ} (h : Alike R r r') (hf : ∀ a b, R a b → S (f a) (g b)) :
    Alike S (r.map f) (r'.map g) := by
  cases h with
  | error error => exact .error error
  | ok h => exact .ok (hf _ _ h)

theorem alike_refl {S : α → α → Prop} (hS : ∀ a, S a a) (r : Except DataError α) : Alike S r r := by
  cases r with
  | error error => exact .error error
  | ok a => exact .ok (hS a)

end Results

/-! ## Exchanges -/

namespace Exchange

/-- Nothing was asked of the database, and the handlers are the same. -/
structure Kept (x y : Exchange) : Prop where
  log : y.log = x.log
  replies : y.replies = x.replies
  handlers : y.registry.handlers = x.registry.handlers

variable {x y z : Exchange}

theorem Kept.refl (x : Exchange) : x.Kept x := ⟨rfl, rfl, rfl⟩

theorem Kept.trans (h : x.Kept y) (h' : y.Kept z) : x.Kept z :=
  ⟨h'.log.trans h.log, h'.replies.trans h.replies, h'.handlers.trans h.handlers⟩

/-- A statement was sent, and a reply was taken for it. -/
def asked (x : Exchange) (s : Statement) : Exchange :=
  { x with log := x.log ++ [.query s], replies := x.replies.drop 1 }

end Exchange

/-! ## Calls -/

namespace Call

variable {α β γ δ : Type} {R : α → β → Prop} {S : γ → δ → Prop} {handlers : Dict Handler}

/-- Run with these handlers, the calls ask nothing of the database and answer alike. -/
def Agree (handlers : Dict Handler) (R : α → β → Prop) (c : Call α) (c' : Call β) : Prop :=
  ∀ x y : Exchange, x.registry.handlers = handlers → y.registry.handlers = handlers →
    Alike R (c.on x).1 (c'.on y).1 ∧ x.Kept (c.on x).2 ∧ y.Kept (c'.on y).2

theorem Agree.bind {c : Call α} {c' : Call β} {f : α → Call γ} {g : β → Call δ}
    (hc : Agree handlers R c c') (hf : ∀ a b, R a b → Agree handlers S (f a) (g b)) :
    Agree handlers S (c >>= f) (c' >>= g) := by
  intro x y hx hy
  obtain ⟨hresults, hkept, hkept'⟩ := hc x y hx hy
  rcases hcx : c.on x with ⟨r, x'⟩
  rcases hcy : c'.on y with ⟨r', y'⟩
  rw [hcx] at hresults hkept
  rw [hcy] at hresults hkept'
  cases hresults with
  | error error =>
    rw [on_bind_error hcx, on_bind_error hcy]
    exact ⟨.error error, hkept, hkept'⟩
  | ok h =>
    rw [on_bind_ok hcx, on_bind_ok hcy]
    obtain ⟨hanswers, hlater, hlater'⟩ :=
      hf _ _ h x' y' (hkept.handlers.trans hx) (hkept'.handlers.trans hy)
    exact ⟨hanswers, hkept.trans hlater, hkept'.trans hlater'⟩

theorem agree_lift {r : Except DataError α} {r' : Except DataError β} (h : Alike R r r') :
    Agree handlers R (liftM r) (liftM r') := fun x y _ _ => ⟨h, .refl x, .refl y⟩

theorem agree_pure {a : α} {b : β} (h : R a b) : Agree handlers R (pure a) (pure b) :=
  agree_lift (.ok h)

theorem agree_throw (error : DataError) :
    Agree handlers R (throw error : Call α) (throw error : Call β) :=
  agree_lift (.error error)

theorem agree_ofExcept {ε : Type} [Coe ε DataError] (r : Except ε α) :
    Agree handlers Eq (ofExcept r) (ofExcept r) := by
  cases r with
  | error e => exact agree_throw _
  | ok a => exact agree_pure rfl

theorem agree_drawKey {keys : Nat → String} {P : String → Prop} (h : ∀ n, P (keys n)) :
    Agree handlers (fun key key' => P key ∧ P key') (drawKey keys) (drawKey keys) :=
  fun x y _ _ => ⟨.ok ⟨h x.drawn, h y.drawn⟩, ⟨rfl, rfl, rfl⟩, ⟨rfl, rfl, rfl⟩⟩

/-- What a handler makes is the same, however often it was run before. -/
def Repeats (h : Handler) : Prop :=
  ∀ runs runs' entity row, h.generate runs entity row = h.generate runs' entity row

theorem agree_generate {key : String} (h : ∀ h ∈ handlers.get? key, Repeats h) (entity : String)
    (row : Option Json) : Agree handlers Eq (generate key entity row) (generate key entity row) := by
  intro x y hx hy
  have houtcome : (x.registry.generate key entity row).1 = (y.registry.generate key entity row).1 := by
    unfold Registry.generate
    rw [hx, hy]
    cases hbound : handlers.get? key with
    | none => rfl
    | some handler => exact congrArg (Registry.outcome key) (h handler hbound _ _ entity row)
  have hhandlers (r : Registry) : (r.generate key entity row).2.handlers = r.handlers := by
    unfold Registry.generate
    split <;> rfl
  refine ⟨?_, ⟨rfl, rfl, hhandlers x.registry⟩, ⟨rfl, rfl, hhandlers y.registry⟩⟩
  exact .ok houtcome

theorem on_bind_congr {c c' : Call α} {x : Exchange} (h : c.on x = c'.on x) (f : α → Call β) :
    (c >>= f).on x = (c' >>= f).on x := by
  rw [on_bind, on_bind, h]

/-! ## Statements -/

/-- The rows of a reply. When there are no more replies, no rows are found. -/
def received : Option Reply → Except DataError (List Row)
  | none => .ok []
  | some (.rows rows) => .ok rows
  | some (.failure message) => .error (.database message)

theorem query_on (s : Statement) (x : Exchange) :
    (query s).on x = (received x.replies.head?, x.asked s) := by
  rcases x with ⟨_ | ⟨_ | _, _⟩, _⟩ <;> rfl

end Call
end EntityMapper
