import EntityMapper.Engine.Exchange
import EntityMapper.Schema.Plan

/-!
# Synchronisation

The live schema is looked up, the plan made, and its statements are either reported or run in one
transaction. However it ends, the synchroniser is idle again afterwards.
-/

namespace EntityMapper.Schema

/-- What the synchroniser is doing. -/
inductive Phase where
  | idle
  | introspecting
  | diffing
  | dryRun
  | applying
deriving DecidableEq, Repr

structure SyncOptions where
  /-- The statements are run and not only reported. -/
  force : Bool := false
  /-- What is not declared is dropped. -/
  drop : Bool := false
deriving DecidableEq, Repr

/-- The database as the synchroniser finds it: its tables, or the failure to look them up, and where a
transaction fails, if it does: before its first statement, at a statement, or at its end. -/
structure Database where
  tables : Except String (List LiveTable)
  unopened : Option String := none
  failure : Option (Nat × String) := none
  uncommitted : Option String := none

/-- The synchroniser's phase, what the database has seen of it, and the lists of statements that it
has asked to be run, each in one transaction. -/
structure Synchronizer where
  phase : Phase := .idle
  log : List Event := []
  batches : List (List Statement) := []

/-- The statements that turn the live schema into the declared one. -/
def Target.statements (t : Target) (live : List LiveTable) (drop : Bool) : List Statement :=
  (t.plan live drop).map Change.statement

/-- A step of the synchroniser. -/
abbrev Step := ExceptT DataError (StateM Synchronizer)

namespace Step

def enter (p : Phase) : StateM Synchronizer Unit := modify fun s => { s with phase := p }

def record (e : Event) : StateM Synchronizer Unit := modify fun s => { s with log := s.log ++ [e] }

/-- Looks up the live schema. -/
def introspect (db : Database) : Step (List LiveTable) := do
  record .introspection
  match db.tables with
  | .ok tables => return tables
  | .error message => throw (.database message)

/-- Runs statements in order up to the first that fails; `index` is the place of the first. -/
def transact (db : Database) : Nat → List Statement → Step Unit
  | _, [] => return ()
  | index, s :: rest => do
    record (.transaction index s)
    match db.failure with
    | some (place, message) =>
      if place = index then throw (.statementFailed index s.sql message)
      else transact db (index + 1) rest
    | none => transact db (index + 1) rest

/-- What a transaction meets where it begins and where it ends. -/
def check : Option String → Step Unit
  | none => return ()
  | some message => throw (.database message)

/-- Asks for statements to be run in one transaction. -/
def execute (db : Database) (statements : List Statement) : Step Unit := do
  modify fun s => { s with batches := s.batches ++ [statements] }
  check db.unopened
  transact db 0 statements
  check db.uncommitted

/-- Looks up the live schema, makes the plan, and runs it when that is asked for and there is
something to run. -/
def attempt (t : Target) (db : Database) (o : SyncOptions) : Step (List Statement) := do
  enter .introspecting
  let live ← introspect db
  enter .diffing
  let statements := t.statements live o.drop
  if !o.force || statements.isEmpty then
    enter .dryRun
    return statements
  else
    enter .applying
    execute db statements
    return statements

/-- Brings the database to the declared schema, or reports how. -/
def sync (t : Target) (db : Database) (o : SyncOptions) : Step (List Statement) := ExceptT.mk do
  let result ← (attempt t db o).run
  enter .idle
  return result

end Step
end EntityMapper.Schema
