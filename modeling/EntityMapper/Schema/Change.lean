import EntityMapper.Dialect
import EntityMapper.Index
import EntityMapper.Schema.Live

/-!
# Changes of a schema

The statements that change tables, columns and indexes: their text, and their effect on a live
schema.
-/

namespace EntityMapper.Schema

inductive Change where
  | createTable (table : String) (columns : List ColumnSpec)
  | addColumn (table : String) (column : ColumnSpec)
  | createIndex (index : Index)
  | dropIndex (name : String)
  | dropColumn (table column : String)
  | dropTable (table : String)
deriving DecidableEq, Repr

namespace Change

open Text.Quoted (quote)

def text : Change → String
  | createTable table columns =>
    "CREATE TABLE " ++ quote table ++ " (\n  " ++ ",\n  ".intercalate (columns.map ColumnSpec.text)
      ++ "\n)"
  | addColumn table column => "ALTER TABLE " ++ quote table ++ " ADD COLUMN " ++ column.text
  | createIndex i =>
    (if i.unique then "CREATE UNIQUE INDEX " else "CREATE INDEX ") ++ quote i.name ++ " ON "
      ++ quote i.entity ++ " (" ++ ", ".intercalate (i.fields.map quote) ++ ")"
  | dropIndex name => "DROP INDEX " ++ quote name
  | dropColumn table column => "ALTER TABLE " ++ quote table ++ " DROP COLUMN " ++ quote column
  | dropTable table => "DROP TABLE " ++ quote table

def statement (c : Change) : Statement := { sql := c.text, parameters := [] }

/-! ## Effect -/

/-- The tables with one of them changed. -/
def onTable (name : String) (f : LiveTable → LiveTable) (live : List LiveTable) :
    List LiveTable :=
  live.map fun t => if t.name = name then f t else t

/-- The tables that the columns point at. -/
def referenced (columns : List ColumnSpec) : List String :=
  columns.filterMap fun c => c.references.map ForeignKey.target

def apply : Change → List LiveTable → List LiveTable
  | createTable table columns, live =>
    live ++ [⟨table, columns.map ColumnSpec.name, [], referenced columns⟩]
  | addColumn table column, live =>
    onTable table (fun t => { t with
      columns := t.columns ++ [column.name]
      references := t.references ++ referenced [column] }) live
  | createIndex i, live =>
    onTable i.entity (fun t => { t with indexes := t.indexes ++ [⟨i.name, i.fields, i.unique⟩] })
      live
  | dropIndex name, live =>
    live.map fun t => { t with indexes := t.indexes.filter (·.name != name) }
  | dropColumn table column, live =>
    onTable table (fun t => { t with columns := t.columns.filter (· != column) }) live
  | dropTable table, live => live.filter (·.name != table)

def applyAll (changes : List Change) (live : List LiveTable) : List LiveTable :=
  changes.foldl (fun live c => c.apply live) live

end Change
end EntityMapper.Schema
