import EntityMapper.Dialect
import EntityMapper.Entity.Rows
import EntityMapper.Keys
import EntityMapper.Schema.Live

/-!
# Exchanges with a database

What a call sees of the outside: the replies the database will give, the statements sent to it so
far, the registered key handlers, and the random keys drawn. A call that fails leaves the record of
what it sent.
-/

namespace EntityMapper

/-- The database's answer to one statement. -/
inductive Reply where
  | rows (rows : List Row)
  | failure (message : String)

inductive Event where
  | query (s : Statement)
  | introspection
  /-- A statement of a transaction, with its place in it. -/
  | transaction (index : Nat) (s : Statement)

/-- The outside as a call finds and leaves it. -/
structure Exchange where
  /-- Replies still to come. When they run out, no rows are found. -/
  replies : List Reply := []
  log : List Event := []
  registry : Registry := {}
  drawn : Nat := 0

/-- A call that reads or writes data. -/
abbrev Call := ExceptT DataError (StateM Exchange)

namespace Call

/-- Fails with an error of a declaration, a query or a rule. -/
def ofExcept {ε α : Type} [Coe ε DataError] : Except ε α → Call α
  | .ok a => pure a
  | .error e => throw (↑e)

def nextReply : Exchange → Reply × Exchange
  | x =>
    match x.replies with
    | [] => (.rows [], x)
    | r :: rest => (r, { x with replies := rest })

def query (s : Statement) : Call (List Row) := do
  let reply ← modifyGet fun x => nextReply { x with log := x.log ++ [.query s] }
  match reply with
  | .rows rows => return rows
  | .failure message => throw (.database message)

/-- Draws a random key; `keys` are those that come out in order. -/
def drawKey (keys : Nat → String) : Call String :=
  modifyGet fun x => (keys x.drawn, { x with drawn := x.drawn + 1 })

def generate (key entity : String) (row : Option Json) : Call KeyOutcome :=
  modifyGet fun x =>
    let (outcome, registry) := x.registry.generate key entity row
    (outcome, { x with registry })

end Call
end EntityMapper
