import EntityMapper.Engine.Basic

/-!
# Writing rows

Rows are inserted, changed and deleted one statement at a time. What a caller writes is checked
first, so a write that breaks a rule sends nothing; the rows a write affects are given back without
hidden fields.
-/

namespace EntityMapper

/-- The result of a write: the affected row, or the list of them, and the statement. -/
structure Written where
  data : Json
  entity : String
  statement : Statement

namespace Engine

/-! ## Checks -/

/-- Refuses a key that is no field of the entity or one that callers do not write. -/
def checkWritable (e : Entity) (key : String) : Except Violation Unit :=
  match e.field? key with
  | none => .error (.noSuchField e.name key)
  | some f => if f.fillable && f.isStored then .ok () else .error (.notFillable key)

/-- The row that a caller may write. -/
def writable (e : Entity) (data : Json) : Except Violation Row :=
  match data with
  | .obj row => do
    row.forM fun entry => checkWritable e entry.1
    return row
  | other => .error (.notARow e.name other)

/-- The row with the defaults of fields that it does not mention. -/
def withDefaults (e : Entity) (row : Row) : Row :=
  e.fillableFields.foldl (fun row f =>
    match f.defaultValue with
    | some value => if Dict.contains row f.name then row else Dict.insert row f.name value
    | none => row) row

/-- The row with its primary key, when the database does not count it. -/
def withKey (m : Engine) (e : Entity) (row : Row) : Call Row := do
  match e.primaryFormat with
  | (.integer, _) => return row
  | (.uuid, _) => return row.insert e.primary.name (.str (← Call.drawKey m.randomKeys))
  | (.custom, handler) =>
    match ← Call.generate (handler.getD "") e.name (some (.obj row)) with
    | .generated v => return row.insert e.primary.name v
    | .failed message => throw (.keyGeneration e.name message)

/-- The row to be inserted: a caller's row with defaults, checked, and then given its key. -/
def prepareInsert (m : Engine) (e : Entity) (data : Json) : Call Row := do
  let row := withDefaults e (← Call.ofExcept (writable e data))
  Call.ofExcept (e.validateRow m.patterns row)
  m.withKey e row

/-- The changes that a caller may make. -/
def prepareChanges (m : Engine) (e : Entity) (data : Json) : Except Violation Row := do
  let row ← writable e data
  e.validateChanges m.patterns row
  return row

/-- A filter that keeps some condition; without one, all rows would be changed. -/
def changeFilter (m : Engine) (e : Entity) (filter : FilterInput) : Call Filter := do
  match ← m.convert filter with
  | [] => throw (.invalid (.unfilteredChange e.name))
  | f => return f

/-- The filter that keeps the row with a primary key. -/
def byId (e : Entity) (id : Json) : Filter := Filter.put [] e.primary.name "$eq" id

/-! ## Results -/

/-- A row as it is shown: decoded, without hidden fields. -/
def shown (d : Dialect) (e : Entity) (row : Row) : Json :=
  .obj (row.filterMap fun (name, value) =>
    match e.field? name with
    | some f => if f.hidden then none else some (name, d.decode f value)
    | none => some (name, value))

/-- Sends a write; gives the rows as they are shown. -/
def write (m : Engine) (e : Entity) (c : Sql.Command) : Call (List Json) := do
  return (← m.run c).map (shown m.dialect e)

def written (m : Engine) (e : Entity) (c : Sql.Command) (data : Json) : Written :=
  { data, entity := e.name, statement := c.statement m.dialect }

/-- The one row that a write by primary key affects. -/
def single (m : Engine) (e : Entity) (id : Json) (c : Sql.Command) : List Json → Call Written
  | [] => throw (.notFound e.name id)
  | row :: _ => return m.written e c row

/-! ## Writes -/

def insertOne (m : Engine) (e : Entity) (data : Json) : Call Written := do
  let row ← m.prepareInsert e data
  let c ← Sql.Command.inserting m.dialect e row
  let rows ← m.write e c
  return m.written e c (rows.headD .null)

/-- Inserts rows one by one; a row that fails does not stop the others. -/
def insertMany (m : Engine) (e : Entity) : List Json → StateM Exchange (List (Except DataError Written))
  | [] => return []
  | data :: rest => do
    let first ← (m.insertOne e data).run
    return first :: (← insertMany m e rest)

def updateOne (m : Engine) (e : Entity) (id data : Json) : Call Written := do
  let row ← Call.ofExcept (m.prepareChanges e data)
  let c ← Sql.Command.updating m.dialect e row (byId e id)
  m.single e id c (← m.write e c)

def deleteOne (m : Engine) (e : Entity) (id : Json) : Call Written := do
  let c ← Sql.Command.deleting m.dialect e (byId e id)
  m.single e id c (← m.write e c)

def updateWhere (m : Engine) (e : Entity) (filter : FilterInput) (data : Json) : Call Written := do
  let f ← m.changeFilter e filter
  let row ← Call.ofExcept (m.prepareChanges e data)
  let c ← Sql.Command.updating m.dialect e row f
  return m.written e c (.arr (← m.write e c))

def deleteWhere (m : Engine) (e : Entity) (filter : FilterInput) : Call Written := do
  let f ← m.changeFilter e filter
  let c ← Sql.Command.deleting m.dialect e f
  return m.written e c (.arr (← m.write e c))

end Engine
end EntityMapper
