import EntityMapper.Field.Value
import EntityMapper.Json.Parser
import EntityMapper.Json.Printer
import EntityMapper.Sql.Statement
import EntityMapper.Text.Quoted

/-!
# Dialects

What the two databases do differently: the types of columns, the placeholders of parameters, and how
values are stored. SQLite has neither truth values nor JSON, which are kept as integers and as text;
PostgreSQL takes parameters as text or numbers and casts them in the statement.
-/

namespace EntityMapper

open Text.Quoted (quote)

inductive Dialect where
  | sqlite
  | postgresql
deriving DecidableEq, Repr

/-- What a database can do beyond running statements. -/
structure Capabilities where
  /-- Sends several statements as one batch. -/
  batching : Bool
  /-- A count of all matching rows is cheap enough to be run with every query. -/
  softscans : Bool
deriving DecidableEq, Repr

structure ColumnSpec where
  name : String
  type : String
  primaryKey : Bool := false
  autoIncrement : Bool := false
  notNull : Bool := false
  references : Option ForeignKey := none
deriving DecidableEq, Repr

namespace Dialect

def name : Dialect → String
  | .sqlite => "sqlite"
  | .postgresql => "postgresql"

def capabilities : Dialect → Capabilities
  | .sqlite => { batching := true, softscans := true }
  | .postgresql => { batching := false, softscans := true }

/-! ## Columns -/

/-- The type of columns that hold keys of a format, `counted` being that of integers. -/
def keyType (counted : String) : KeyFormat → String
  | .integer => counted
  | _ => "text"

/-- The column of a field; a virtual field has none. -/
def column? (d : Dialect) (f : Field) : Option ColumnSpec :=
  let of (sqlite postgresql : String) : Option ColumnSpec :=
    some { name := f.name, type := match d with | .sqlite => sqlite | .postgresql => postgresql }
  match f.kind with
  | .virtual => none
  | .primary format _ =>
    some { name := f.name
           type := keyType (match d with | .sqlite => "integer" | .postgresql => "serial") format
           primaryKey := true
           autoIncrement := d = .sqlite ∧ format = .integer
           notNull := true }
  | .relation key =>
    some { name := f.name, type := keyType "integer" key.format, references := some key }
  | .text _ _ _ => of "text" "text"
  | .number _ _ => of "numeric" "double precision"
  | .boolean => of "integer" "boolean"
  | .date => of "text" "date"
  | .datetime => of "text" "timestamptz"
  | .json => of "text" "jsonb"
  | .blob => of "blob" "bytea"

/-! ## Values -/

/-- The form in which a value is sent to be stored. -/
def encode (d : Dialect) (f : Field) (value : Json) : Except Violation Json := do
  match f.kind, ← f.check value with
  | _, .null => return .null
  | .boolean, .bool b =>
    return match d with
      | .sqlite => .int (if b then 1 else 0)
      | .postgresql => .bool b
  | .json, v => return .str v.compact
  | _, v => return v

/-- The value of JSON text, or the text itself when it is none. -/
def decodeJson (s : String) : Json := (Json.read? s).getD (.str s)

/-- The value that a stored form stands for. -/
def decode (d : Dialect) (f : Field) (value : Json) : Json :=
  match f.kind, value with
  | .boolean, .int n =>
    if d = .sqlite ∧ n = 1 then .bool true
    else if d = .sqlite ∧ n = 0 then .bool false
    else .int n
  | .json, .str s => decodeJson s
  | .number _ _, v => v.normalizeNumber
  | _, v => v

/-! ## Text -/

def cast (f : Field) : String :=
  match f.kind with
  | .number _ _ => "::double precision"
  | .boolean => "::boolean"
  | .date => "::date"
  | .datetime => "::timestamptz"
  | .json => "::jsonb"
  | .primary .integer _ => "::integer"
  | .relation key => if key.format = .integer then "::integer" else ""
  | _ => ""

/-- The placeholder of the parameter with this number, counted from one, typed for a field. -/
def placeholder (d : Dialect) (index : Nat) (field : Option Field) : String :=
  match d, field with
  | .sqlite, some { kind := .blob, .. } => "unhex(?)"
  | .sqlite, _ => "?"
  | .postgresql, some { kind := .blob, .. } => s!"decode(${index}, 'hex')"
  | .postgresql, some f => s!"${index}" ++ cast f
  | .postgresql, none => s!"${index}"

end Dialect

/-- A column as it stands in the definition of its table. -/
def ColumnSpec.text (c : ColumnSpec) : String :=
  quote c.name ++ " " ++ c.type
    ++ (if c.primaryKey then " PRIMARY KEY" else "")
    ++ (if c.autoIncrement then " AUTOINCREMENT" else "")
    ++ (if c.notNull then " NOT NULL" else "")
    ++ match c.references with
      | none => ""
      | some key =>
        " REFERENCES " ++ quote key.target ++ " (" ++ quote key.targetKey
          ++ ") ON DELETE " ++ key.onDelete.sql ++ " ON UPDATE " ++ key.onUpdate.sql

end EntityMapper
