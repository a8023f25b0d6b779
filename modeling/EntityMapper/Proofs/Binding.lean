import EntityMapper.Binding
import EntityMapper.Proofs.Dict
import EntityMapper.Proofs.Result

/-!
# Bindings

A key that is bound stays with its handler until the registry is cleared, and a call that fails binds
nothing. A handler that an entity brings is bound once the entity is valid and the handler has
accepted its configuration.
-/

namespace EntityMapper

open Draft (handlerKey)

variable {r r' : Registry} {key : String} {h : Handler} {config : Option Json} {d : Draft} {e : Entity}

/-! ## Registries -/

namespace Registry

/-- Binding a key, as a change of a whole registry. -/
def register (r : Registry) (key : String) (h : Handler) : Except ConfigError Registry :=
  match r.handlers.get? key with
  | some existing =>
    if existing.identity = h.identity then .ok r else .error (.handlerConflict key)
  | none => .ok { r with handlers := r.handlers.insert key h }

def registerWithConfig (r : Registry) (key : String) (h : Handler) (config : Option Json) :
    Except ConfigError Registry :=
  match config.bind h.configFault with
  | some message => .error (.handlerConfig key message)
  | none => r.register key h

def build (r : Registry) (d : Draft) : Except ConfigError (Entity × Registry) := do
  match d.handler with
  | none => return (← Entity.declare d.name d.fields d.config, r)
  | some (h, config) =>
    let key := handlerKey d.name
    let e ← Entity.declare d.name d.fields
      { d.config with primaryFormat := .custom, idHandler := some key }
    return (e, ← r.registerWithConfig key h config)

/-- Every key that is bound in the one is bound to the same handler in the other. -/
def Extends (r r' : Registry) : Prop :=
  ∀ key h, r.handlers.get? key = some h → r'.handlers.get? key = some h

theorem Extends.refl (r : Registry) : r.Extends r := fun _ _ hbound => hbound

theorem Extends.trans {r'' : Registry} (h : r.Extends r') (h' : r'.Extends r'') : r.Extends r'' :=
  fun key bound hbound => h' key bound (h key bound hbound)

/-- The key is bound to a handler that passes for this one. -/
def Binds (r : Registry) (key : String) (h : Handler) : Prop :=
  ∃ bound, r.handlers.get? key = some bound ∧ bound.identity = h.identity

theorem register_cases (hr : r.register key h = .ok r') :
    (r.Binds key h ∧ r' = r)
      ∨ r.handlers.get? key = none ∧ r' = { r with handlers := r.handlers.insert key h } := by
  unfold register at hr
  split at hr
  · rename_i bound hbound
    split at hr
    · rename_i hsame
      cases hr
      exact .inl ⟨⟨bound, hbound, hsame⟩, rfl⟩
    · cases hr
  · rename_i hfree
    cases hr
    exact .inr ⟨hfree, rfl⟩

/-- What binding a key comes to. -/
structure Bound (r : Registry) (key : String) (h : Handler) (r' : Registry) : Prop where
  grows : r.Extends r'
  binds : r'.Binds key h
  others : ∀ other, other ≠ key → r'.handlers.get? other = r.handlers.get? other

theorem bound_register (hr : r.register key h = .ok r') : Bound r key h r' := by
  obtain ⟨hbinds, rfl⟩ | ⟨hfree, rfl⟩ := register_cases hr
  · exact ⟨.refl _, hbinds, fun _ _ => rfl⟩
  · have hothers (other : String) (hne : other ≠ key) :
        (r.handlers.insert key h).get? other = r.handlers.get? other :=
      Dict.get?_insert_of_ne _ h hne
    refine ⟨fun other bound hbound => ?_, ⟨h, Dict.get?_insert_self _ _ _, rfl⟩, hothers⟩
    have hne : other ≠ key := by
      rintro rfl
      rw [hfree] at hbound
      cases hbound
    exact (hothers other hne).trans hbound

theorem bound_registerWithConfig (hr : r.registerWithConfig key h config = .ok r') :
    Bound r key h r' := by
  unfold registerWithConfig at hr
  split at hr
  · cases hr
  · exact bound_register hr

theorem bound_build (hhandler : d.handler = some (h, config))
    (hr : r.build d = .ok (e, r')) : Bound r (handlerKey d.name) h r' := by
  unfold build at hr
  rw [hhandler] at hr
  obtain ⟨_, -, hr⟩ := Result.of_bind hr
  obtain ⟨_, hregister, hr⟩ := Result.of_bind hr
  cases hr
  exact bound_registerWithConfig hregister

theorem extends_build (hr : r.build d = .ok (e, r')) : r.Extends r' := by
  cases hhandler : d.handler with
  | some own =>
    obtain ⟨h, config⟩ := own
    exact (bound_build hhandler hr).grows
  | none =>
    unfold build at hr
    rw [hhandler] at hr
    obtain ⟨_, -, hr⟩ := Result.of_bind hr
    cases hr
    exact .refl r

end Registry

/-! ## Each call -/

namespace Binding

variable {α β : Type}

theorem on_get_bind (f : Registry → Binding α) (r : Registry) : (get >>= f).on r = (f r).on r := rfl

/-- What a call that is made as a whole or not at all answers, and the registry it leaves. -/
def settled (r : Registry) : Except ConfigError (α × Registry) → Except ConfigError α × Registry
  | .ok (a, r') => (.ok a, r')
  | .error fault => (.error fault, r)

theorem on_register : (register key h).on r = settled r ((r.register key h).map ((), ·)) := by
  unfold register Registry.register
  rw [on_get_bind]
  cases r.handlers.get? key with
  | none => rfl
  | some bound =>
    dsimp only
    split <;> rfl

theorem on_registerWithConfig : (registerWithConfig key h config).on r
    = settled r ((r.registerWithConfig key h config).map ((), ·)) := by
  unfold registerWithConfig Registry.registerWithConfig
  cases config.bind h.configFault with
  | none => exact on_register
  | some message => rfl

/-- After a declaration the rest decides. -/
theorem on_declare_bind {x : Except ConfigError Entity} {f : Entity → Binding Entity}
    {g : Entity → Except ConfigError (Entity × Registry)}
    (hf : ∀ e, (f e).on r = settled r (g e)) : (liftM x >>= f).on r = settled r (x >>= g) := by
  cases x with
  | error fault => rfl
  | ok e => exact hf e

theorem on_return {m : Binding α} {x : Except ConfigError (α × Registry)}
    (hm : m.on r = settled r x) (f : α → β) :
    (m >>= fun a => return f a).on r = settled r (x.map fun p => (f p.1, p.2)) := by
  unfold on at hm ⊢
  rw [ExceptT.run_bind, StateT.run_bind]
  change (match m.run.run r with | (result, r') => _) = _
  rw [hm]
  cases x <;> rfl

/-- The name is checked first, and by the declaration once more. -/
theorem on_build : (build d).on r = settled r (r.build d) := by
  unfold build Registry.build
  cases hname : checkIdentifier d.name with
  | error fault =>
    have hdeclare (config : EntityConfig) :
        Entity.declare d.name d.fields config = .error fault := by
      rw [Entity.declare, hname]
      rfl
    cases d.handler <;> (simp only [hdeclare]; rfl)
  | ok _ =>
    cases d.handler with
    | none => exact on_declare_bind fun e => rfl
    | some own =>
      refine on_declare_bind fun e => (on_return on_registerWithConfig fun _ => e).trans ?_
      cases r.registerWithConfig (handlerKey d.name) own.1 own.2 <;> rfl

end Binding

/-! ## Calls one after the other -/

namespace HandlerCall

variable {call : HandlerCall} {calls : List HandlerCall} {fault : ConfigError}

/-- The call as a change of a whole registry. -/
def apply (r : Registry) : HandlerCall → Except ConfigError Registry
  | .register key h => r.register key h
  | .registerWithConfig key h config => r.registerWithConfig key h config
  | .build d => (r.build d).map Prod.snd
  | .clear => .ok r.clear

theorem on_eq (call : HandlerCall) (r : Registry) :
    call.on r = Binding.settled r ((call.apply r).map ((), ·)) := by
  cases call with
  | register key h => exact Binding.on_register
  | registerWithConfig key h config => exact Binding.on_registerWithConfig
  | build d =>
    refine (Binding.on_return Binding.on_build fun _ => ()).trans ?_
    rw [apply]
    cases r.build d <;> rfl
  | clear => rfl

theorem extends_apply (hcall : call ≠ .clear) (hr : call.apply r = .ok r') : r.Extends r' := by
  cases call with
  | register key h => exact (Registry.bound_register hr).grows
  | registerWithConfig key h config => exact (Registry.bound_registerWithConfig hr).grows
  | build d =>
    rw [apply] at hr
    cases hbuild : r.build d with
    | error fault =>
      rw [hbuild] at hr
      cases hr
    | ok built =>
      rw [hbuild] at hr
      cases hr
      exact Registry.extends_build hbuild
  | clear => exact absurd rfl hcall

theorem on_of_error (hfault : (call.on r).1 = .error fault) : (call.on r).2 = r := by
  rw [on_eq] at hfault ⊢
  cases hr : call.apply r with
  | ok r' =>
    rw [hr] at hfault
    cases hfault
  | error fault => rfl

theorem extends_on (hcall : call ≠ .clear) (r : Registry) : r.Extends (call.on r).2 := by
  rw [on_eq]
  cases hr : call.apply r with
  | ok r' => exact extends_apply hcall hr
  | error fault => exact .refl r

theorem extends_after (hcalls : .clear ∉ calls) (r : Registry) : r.Extends (r.after calls) := by
  induction calls generalizing r with
  | nil => exact .refl r
  | cons call calls ih =>
    rw [List.mem_cons, not_or] at hcalls
    exact (extends_on (Ne.symm hcalls.1) r).trans (ih hcalls.2 _)

end HandlerCall

/-- Until the registry is cleared a bound key stays with its handler. A call that fails changes
nothing, and an entity that is built with a handler of its own has bound that one key. -/
theorem Registry.bindings_kept (r : Registry) :
    (∀ calls, .clear ∉ calls → ∀ key h, r.handlers.get? key = some h →
        (r.after calls).handlers.get? key = some h)
      ∧ (∀ (call : HandlerCall) fault, (call.on r).1 = .error fault → (call.on r).2 = r)
      ∧ ∀ d h config e, d.handler = some (h, config) → ((Binding.build d).on r).1 = .ok e →
        ((Binding.build d).on r).2.Binds (handlerKey d.name) h
          ∧ ∀ key, key ≠ handlerKey d.name →
            ((Binding.build d).on r).2.handlers.get? key = r.handlers.get? key := by
  refine ⟨fun calls hcalls => HandlerCall.extends_after hcalls r,
    fun call fault => HandlerCall.on_of_error, ?_⟩
  intro d h config e hhandler hbuilt
  rw [Binding.on_build] at hbuilt ⊢
  cases hr : r.build d with
  | error fault =>
    rw [hr] at hbuilt
    cases hbuilt
  | ok built =>
    have hbound := Registry.bound_build hhandler hr
    exact ⟨hbound.binds, hbound.others⟩

/-- A handler that counts its runs. It takes no configuration but an empty one. -/
def Binding.counter (identity : Nat) : Handler :=
  ⟨identity, fun run _ _ => .value (.int run), fun config =>
    if config.isNull then none else some "nothing to configure"⟩

def Binding.tickets : Draft :=
  { name := "tickets", fields := [.text "title"], handler := some (Binding.counter 1, some .null) }

open Binding (counter tickets)

/-- The entity is built with one handler; then another is refused under its key, and so is a draft
whose handler does not accept the configuration. -/
theorem Registry.bindings_kept_tickets :
    let built := (({} : Registry).after [.build tickets])
    let refused : HandlerCall := .build { tickets with handler := some (counter 1, some (.bool true)) }
    built.Binds "entity_tickets" (counter 1) ∧ built.handlers.get? "other" = none
      ∧ (refused.on built).2 = built
      ∧ (built.after [.register "entity_tickets" (counter 2), refused]).handlers.get? "entity_tickets"
        = some (counter 1) := by
  intro built refused
  obtain ⟨-, -, hbuild⟩ := Registry.bindings_kept {}
  obtain ⟨hkept, hrefused, -⟩ := Registry.bindings_kept built
  have hok : ∃ e, ((Binding.build tickets).on {}).1 = .ok e := ⟨_, rfl⟩
  obtain ⟨e, hok⟩ := hok
  obtain ⟨hbinds, hothers⟩ := hbuild tickets (counter 1) (some .null) e rfl hok
  exact ⟨hbinds, hothers "other" (by decide), hrefused refused _ rfl,
    hkept [_, refused] (by simp [refused]) _ _ rfl⟩

end EntityMapper
