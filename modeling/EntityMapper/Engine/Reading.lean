import EntityMapper.Engine.Basic
import EntityMapper.Engine.Stitching

/-!
# Reading rows

Rows of an entity are read level by level. Joined relations come with the rows; the relations under
`with` are loaded for all rows of a level at once, by one statement each, two where a junction links
them, and are then given to the rows they belong to.
-/

namespace EntityMapper

/-- The result of a query: its rows, the main statement, and how many rows there are on all pages. -/
structure Found where
  data : List Json
  entity : String
  statement : Statement
  limit : Nat
  offset : Nat
  total : Option Nat

namespace Engine

open Stitching

/-! ## What a level reads -/

def path (m : Engine) (e : Entity) (name : String) : Except QueryError Path :=
  match m.catalog.relation? e.name name with
  | some p => .ok p
  | none => .error (.unknownRelation e.name name)

def joinRelation (m : Engine) (e : Entity) (s : Sql.Scope) (name : String) : Except DataError Sql.Scope :=
  match m.path e name with
  | .error err => .error err
  | .ok p =>
    match m.catalog.entity p.related with
    | .error err => .error err
    | .ok related =>
      match s.join p related with
      | .error err => .error err
      | .ok s => .ok s

/-- An entity with the relations of these names joined to it. -/
def scope (m : Engine) (e : Entity) (joins : List String) : Except DataError Sql.Scope :=
  joins.foldlM (m.joinRelation e) (.of e)

/-- A selected column, which has to be a stored field. -/
def selectedColumn (e : Entity) (name : String) : Except QueryError String := do
  let _ ← Sql.Scope.storedField e name
  return name

/-- The selected columns, or the visible ones. -/
def columns (e : Entity) (select : List String) : Except QueryError (List String) :=
  match select with
  | [] => .ok (e.visibleFields.map (·.name))
  | select => select.mapM (selectedColumn e)

/-- Of the columns that stitching needs, those that are not read anyway. -/
def missing (columns : List String) : List String → List String
  | [] => []
  | n :: rest =>
    if columns.contains n then missing columns rest else n :: missing (columns ++ [n]) rest

/-- The requested order when its key resolves, else the primary key ascending. -/
def order (s : Sql.Scope) (level : QueryLevel) : String × SortDirection :=
  if level.explicitSort && (s.resolve level.sort.key).isOk then
    (level.sort.key, level.sort.direction)
  else (s.entity.primary.name, .ascending)

/-! ## Related rows -/

/-- The rows of a junction that hold one of our keys. -/
def fetchPairs (m : Engine) (j : Junction) (keys : List Json) : Call (List Row) := do
  let junction ← Call.ofExcept (m.catalog.entity j.entity)
  let c ← Sql.Command.selectingMembers m.dialect junction [j.ourKey, j.theirKey] j.ourKey keys []
    none
  m.run c

/-- Gives each row its related rows. `load` reads those of an entity in which a column has one of
some keys. -/
def attach (m : Engine) (p : Path) (level : QueryLevel)
    (load : Entity → String → List Json → Call Fetched) (rows : List Row) : Call (List Row) := do
  let related ← Call.ofExcept (m.catalog.entity p.related)
  let keys := distinctKeys (columnValues p.ourKey rows)
  if keys.isEmpty then return rows.map fun row => row.insert p.name (nothing p)
  match p.direction, p.junction with
  | .manyToMany, some j =>
    let pairs ← m.fetchPairs j keys
    let fetched ← load related p.theirKey (distinctKeys (columnValues j.theirKey pairs))
    return stitchLinked p j level pairs fetched rows
  | .toOne, _ =>
    let fetched ← load related p.theirKey keys
    return stitchOne p fetched rows
  | _, _ =>
    let fetched ← load related p.theirKey keys
    return stitchMany p level fetched rows

/-! ## Levels -/

/-- The command of a level: one page of the rows, or all rows in which a column has one of some
keys. -/
def levelCommand (m : Engine) (s : Sql.Scope) (columns : List String) (filter : Filter) (level : QueryLevel)
    (key : Option (String × List Json)) : Except DataError Sql.Command :=
  let order := some (order s level)
  match key with
  | none => Sql.Command.selecting m.dialect s columns filter order (some (level.limit, level.offset))
  | some (column, values) =>
    Sql.Command.selecting m.dialect s columns (filter.put column "$in" (.arr values)) order none

mutual
/-- Reads one level and the relations loaded with it. With `key`, the rows in which that column has
one of the values, on all pages. -/
def fetch (m : Engine) (e : Entity) (key : Option (String × List Json)) : Query → Call Fetched
  | .node level nested => do
    let filter ← m.convert level.filter
    let s ← m.scope e level.join
    let paths ← Call.ofExcept (nested.mapM fun entry => m.path e entry.1)
    let selected ← Call.ofExcept (columns e level.select)
    let extra := missing selected
      (e.primary.name :: ((key.map Prod.fst).toList ++ paths.map (·.ourKey)))
    let c ← m.levelCommand s (selected ++ extra) filter level key
    let rows ← m.run c
    let rows ← attachAll m e nested (rows.map (decodeRow m.dialect s))
    return { rows, command := c, extra }

def attachAll (m : Engine) (e : Entity) : List (String × Query) → List Row → Call (List Row)
  | [], rows => return rows
  | (name, q) :: rest, rows => do
    let p ← Call.ofExcept (m.path e name)
    let rows ← m.attach p q.level (fun related column keys => fetch m related (some (column, keys)) q)
      rows
    attachAll m e rest rows
end

/-! ## Queries -/

/-- How many rows a filter keeps, with relations joined. -/
def countScoped (m : Engine) (e : Entity) (filter : FilterInput) (joins : List String) : Call Nat := do
  let f ← m.convert filter
  let s ← m.scope e joins
  let c ← Sql.Command.counting m.dialect s f
  let rows ← m.run c
  return ((rows.head?.bind (·.get? "count")).bind (Json.natUpTo? Json.unsignedLimit)).getD 0

def findMany (m : Engine) (e : Entity) (q : Query) : Call Found := do
  let fetched ← m.fetch e none q
  let total ←
    if m.softscans then some <$> m.countScoped e q.level.filter q.level.join else pure none
  return { data := fetched.rows.map fetched.strip
           entity := e.name
           statement := fetched.command.statement m.dialect
           limit := q.level.limit
           offset := q.level.offset
           total }

def findJson (m : Engine) (e : Entity) (doc : Json) : Call Found := do
  let q ← Call.ofExcept (Query.ofJson m.options doc)
  m.findMany e q

/-- The row with a primary key. -/
def findId (m : Engine) (e : Entity) (id : Json) (q : Query) : Call (Option Json) := do
  let filter : FilterInput := [(e.primary.name, some (.obj [("$eq", id)]))]
  let found ← m.findMany e (((q.withFilter filter).withOffset 0).withLimit 1)
  return found.data.head?

/-- The first row that a filter keeps, in the order of the query. -/
def findOne (m : Engine) (e : Entity) (filter : FilterInput) (q : Query) : Call (Option Json) := do
  let found ← m.findMany e ((q.withFilter filter).withLimit 1)
  return found.data.head?

def count (m : Engine) (e : Entity) (filter : FilterInput) : Call Nat := m.countScoped e filter []

def exists? (m : Engine) (e : Entity) (filter : FilterInput) : Call Bool := do
  return 0 < (← m.count e filter)

end Engine
end EntityMapper
