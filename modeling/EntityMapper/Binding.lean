import EntityMapper.Entity.Draft

/-!
# Binding

Handlers are bound to keys by one call after the other, in the one registry that all callers share.
Each call checks and changes that registry in place, so a call that failed on its way would leave what
it had changed by then.
-/

namespace EntityMapper

/-- A call that changes the registry. -/
abbrev Binding := ExceptT ConfigError (StateM Registry)

namespace Binding

/-- What a call answers, and the registry it leaves. -/
def on {α : Type} (m : Binding α) (r : Registry) : Except ConfigError α × Registry := m.run.run r

def register (key : String) (h : Handler) : Binding Unit := do
  match (← get).handlers.get? key with
  | some existing =>
    if existing.identity = h.identity then return () else throw (.handlerConflict key)
  | none => modify fun r => { r with handlers := r.handlers.insert key h }

/-- Binds a key after the handler has accepted the configuration, when there is one. -/
def registerWithConfig (key : String) (h : Handler) (config : Option Json) : Binding Unit := do
  match config.bind h.configFault with
  | some message => throw (.handlerConfig key message)
  | none => register key h

/-- Declares the entity and binds its own handler. -/
def build (d : Draft) : Binding Entity := do
  checkIdentifier d.name
  let key := Draft.handlerKey d.name
  let entityConfig := match d.handler with
    | some _ => { d.config with primaryFormat := .custom, idHandler := some key }
    | none => d.config
  let e ← Entity.declare d.name d.fields entityConfig
  match d.handler with
  | some (h, config) => registerWithConfig key h config
  | none => pure ()
  return e

def clear : Binding Unit := modify Registry.clear

end Binding

/-- One call of a registry's caller. -/
inductive HandlerCall where
  | register (key : String) (h : Handler)
  | registerWithConfig (key : String) (h : Handler) (config : Option Json)
  | build (d : Draft)
  | clear

namespace HandlerCall

def bind : HandlerCall → Binding Unit
  | .register key h => Binding.register key h
  | .registerWithConfig key h config => Binding.registerWithConfig key h config
  | .build d => do let _ ← Binding.build d
  | .clear => Binding.clear

def on (call : HandlerCall) (r : Registry) : Except ConfigError Unit × Registry := call.bind.on r

end HandlerCall

/-- The registry that calls leave, one after the other, whether they succeed or fail. -/
def Registry.after (r : Registry) (calls : List HandlerCall) : Registry :=
  calls.foldl (fun r call => (call.on r).2) r

end EntityMapper
