import EntityMapper.Entity.Basic

/-!
# Key handlers

Handlers make primary keys. A registry binds keys to handlers; a bound key stays with its handler
until the registry is cleared. Running a handler never fails the caller: errors and crashes become
outcomes.
-/

namespace EntityMapper

/-- What a handler does when it is run. -/
inductive Attempt where
  | value (v : Json)
  | error (message : String)
  /-- The handler stopped; some crashes leave a message. -/
  | crash (message : Option String)

/-- A maker of primary keys. Two mentions with the same `identity` are the same handler. -/
structure Handler where
  identity : Nat
  /-- Given how often the handler has been run, this time included, the entity and the row. -/
  generate : Nat → String → Option Json → Attempt
  /-- The reason to refuse a configuration, if there is one. -/
  configFault : Json → Option String

/-- The outcome of running a handler for one row. -/
inductive KeyOutcome where
  | generated (v : Json)
  | failed (message : String)

/-- The handlers bound to keys, and how often each handler has been run. -/
structure Registry where
  handlers : Dict Handler := []
  runs : List (Nat × Nat) := []

namespace Registry

def contains (r : Registry) (key : String) : Bool := r.handlers.contains key

def keys (r : Registry) : List String := r.handlers.keys

/-- Unbinds all keys. Handlers that are bound again go on counting. -/
def clear (r : Registry) : Registry := { r with handlers := [] }

def runsOf (r : Registry) (identity : Nat) : Nat :=
  ((r.runs.find? (·.1 == identity)).map Prod.snd).getD 0

def countRun (r : Registry) (identity : Nat) : Registry :=
  { r with runs := (identity, r.runsOf identity + 1) :: r.runs.filter (·.1 != identity) }

/-- What an attempt of the handler bound to `key` comes to. -/
def outcome (key : String) : Attempt → KeyOutcome
  | .value .null => .failed s!"id handler '{key}' returned null"
  | .value v => .generated v
  | .error message => .failed message
  | .crash message =>
    let message := message.getD "unknown panic"
    .failed s!"id handler '{key}' panicked: {message}"

def generate (r : Registry) (key entity : String) (row : Option Json) : KeyOutcome × Registry :=
  match r.handlers.get? key with
  | none => (.failed s!"no id handler registered for '{key}'", r)
  | some h =>
    (outcome key (h.generate (r.runsOf h.identity + 1) entity row), r.countRun h.identity)

end Registry
end EntityMapper
