import EntityMapper.Entity.Rows
import EntityMapper.Query.Sort
import EntityMapper.Sql.Condition

/-!
# Commands

The statements that read and write rows of an entity: their parts, how they are made from filters and
rows, and their text. Names come from declared entities and relations, values are parameters.
-/

namespace EntityMapper.Sql

open Text.Quoted (quote)

/-- A column and the value it is given. -/
structure Assignment where
  column : String
  operand : Operand

inductive Command where
  | select (scope : Scope) (columns : List String) (conditions : List Condition)
      (order : Option (Column × SortDirection)) (page : Option (Nat × Nat))
  | count (scope : Scope) (conditions : List Condition)
  | insert (table : String) (assignments : List Assignment) (returning : List String)
  | update (table : String) (assignments : List Assignment) (conditions : List Condition)
      (returning : List String)
  | delete (table : String) (conditions : List Condition) (returning : List String)

namespace Command

/-! ## Text -/

def orderText : Option (Column × SortDirection) → String
  | none => ""
  | some (c, direction) => " ORDER BY " ++ c.text ++ " " ++ direction.sql

def pageText : Option (Nat × Nat) → String
  | none => ""
  | some (limit, offset) => " LIMIT " ++ toString limit ++ " OFFSET " ++ toString offset

def returningText (columns : List String) : String :=
  " RETURNING " ++ ", ".intercalate (columns.map quote)

def assignmentText (d : Dialect) (a : Assignment) : Building String := do
  let placeholder ← a.operand.text d
  return quote a.column ++ " = " ++ placeholder

/-- The text of a command. Changes are bound before the conditions that follow them. -/
def text (d : Dialect) : Command → Building String
  | select scope columns conditions order page => do
    let kept ← Condition.whereText d conditions
    return "SELECT " ++ scope.selectText columns ++ " FROM " ++ scope.fromText ++ kept
      ++ orderText order ++ pageText page
  | count scope conditions => do
    let kept ← Condition.whereText d conditions
    return "SELECT COUNT(*) AS " ++ quote "count" ++ " FROM " ++ scope.fromText ++ kept
  | insert table assignments returning => do
    let placeholders ← assignments.mapM fun a => a.operand.text d
    return "INSERT INTO " ++ quote table
      ++ (if assignments.isEmpty then " DEFAULT VALUES"
        else " (" ++ ", ".intercalate (assignments.map fun a => quote a.column) ++ ") VALUES ("
          ++ ", ".intercalate placeholders ++ ")")
      ++ returningText returning
  | update table assignments conditions returning => do
    let changes ← assignments.mapM (assignmentText d)
    let kept ← Condition.whereText d conditions
    return "UPDATE " ++ quote table ++ " SET " ++ ", ".intercalate changes ++ kept
      ++ returningText returning
  | delete table conditions returning => do
    let kept ← Condition.whereText d conditions
    return "DELETE FROM " ++ quote table ++ kept ++ returningText returning

def statement (d : Dialect) (c : Command) : Statement := (c.text d).statement

/-! ## Making commands -/

/-- The column of an order, which has to resolve. -/
def orderColumn (s : Scope) : Option (String × SortDirection) →
    Except DataError (Option (Column × SortDirection))
  | none => .ok none
  | some (key, direction) =>
    match s.resolve key with
    | .error e => .error e
    | .ok (c, _) => .ok (some (c, direction))

/-- Reads columns of the rows that a filter keeps. -/
def selecting (d : Dialect) (s : Scope) (columns : List String) (filter : Filter)
    (order : Option (String × SortDirection)) (page : Option (Nat × Nat)) :
    Except DataError Command := do
  let conditions ← Condition.ofFilter d s filter
  return .select s columns conditions (← orderColumn s order) page

def counting (d : Dialect) (s : Scope) (filter : Filter) : Except DataError Command := do
  return .count s (← Condition.ofFilter d s filter)

/-- Reads the rows in which a column has one of some values, and which a filter keeps. -/
def selectingMembers (d : Dialect) (e : Entity) (columns : List String) (column : String)
    (values : List Json) (filter : Filter) (order : Option (String × SortDirection)) :
    Except DataError Command :=
  selecting d (.of e) columns (filter.put column "$in" (.arr values)) order none

/-- The names of the columns of an entity. -/
def storedNames (e : Entity) : List String := e.storedFields.map (·.name)

/-- The values that a row gives to fields, encoded, in the order of the fields. -/
def assignments (d : Dialect) (row : Row) : List Field → Except DataError (List Assignment)
  | [] => .ok []
  | f :: fs => do
    match row.get? f.name with
    | none => assignments d row fs
    | some value =>
      let operand ← Condition.operand d f value
      return ⟨f.name, operand⟩ :: (← assignments d row fs)

def inserting (d : Dialect) (e : Entity) (row : Row) : Except DataError Command := do
  return .insert e.name (← assignments d row e.storedFields) (storedNames e)

/-- Changes the rows that a filter keeps. When nothing is to be changed they are only read. -/
def updating (d : Dialect) (e : Entity) (row : Row) (filter : Filter) :
    Except DataError Command := do
  let changes ← assignments d row (e.storedFields.filter (!·.isPrimary))
  let conditions ← Condition.ofFilter d (.of e) filter
  match changes with
  | [] => return .select (.of e) (storedNames e) conditions none none
  | changes => return .update e.name changes conditions (storedNames e)

def deleting (d : Dialect) (e : Entity) (filter : Filter) : Except DataError Command := do
  return .delete e.name (← Condition.ofFilter d (.of e) filter) (storedNames e)

end Command
end EntityMapper.Sql
