import EntityMapper.Entity.Basic
import EntityMapper.Relation.Basic
import EntityMapper.Text.Quoted
import EntityMapper.Text.Split

/-!
# Scopes

The table a statement reads from and the to-one relations joined to it. With joins, the table has the
alias `main` and each joined table that of its relation, and columns are qualified by these.
-/

namespace EntityMapper.Sql

open Text.Quoted (quote)

/-- A column, qualified by a table's alias when several tables are read. -/
structure Column where
  qualifier : Option String
  name : String
deriving DecidableEq, Repr

def Column.text (c : Column) : String :=
  match c.qualifier with
  | none => quote c.name
  | some q => quote q ++ "." ++ quote c.name

/-- A to-one relation, joined under its name. -/
structure Join where
  path : Path
  entity : Entity

/-- The table a statement reads from, and what is joined to it. -/
structure Scope where
  entity : Entity
  joins : List Join

/-- The alias of the table that relations are joined to. -/
def mainAlias : String := "main"

namespace Scope

/-- One table alone. -/
def of (e : Entity) : Scope := ⟨e, []⟩

/-- Joins a relation. Only one that leads to at most one row can be joined; joining it again changes
nothing. -/
def join (s : Scope) (path : Path) (e : Entity) : Except QueryError Scope :=
  if path.direction ≠ .toOne then .error (.notJoinable path.name)
  else if s.joins.any (·.path.name == path.name) then .ok s
  else .ok { s with joins := s.joins ++ [⟨path, e⟩] }

/-- The alias of the main table, when it has one. -/
def mainQualifier (s : Scope) : Option String := if s.joins.isEmpty then none else some mainAlias

def column (s : Scope) (name : String) : Column := ⟨s.mainQualifier, name⟩

/-- The stored field of a name, or the complaint that there is none. -/
def storedField (e : Entity) (name : String) : Except QueryError Field :=
  match e.storedField? name with
  | some f => .ok f
  | none => .error (.unknownField e.name name)

/-- The column that a key names, and its field. -/
def resolve (s : Scope) (key : String) : Except QueryError (Column × Field) :=
  match Text.splitDot key with
  | none => do return (s.column key, ← storedField s.entity key)
  | some (relation, name) =>
    match s.joins.find? (·.path.name == relation) with
    | none => .error (.unknownRelation s.entity.name relation)
    | some j => do return (⟨some relation, name⟩, ← storedField j.entity name)

/-- A join as it follows the table. -/
def joinText (s : Scope) (j : Join) : String :=
  " LEFT JOIN " ++ quote j.entity.name ++ " AS " ++ quote j.path.name ++ " ON "
    ++ (Column.mk (some j.path.name) j.path.theirKey).text ++ " = " ++ (s.column j.path.ourKey).text

def fromText (s : Scope) : String :=
  quote s.entity.name ++ (if s.joins.isEmpty then "" else " AS " ++ quote mainAlias)
    ++ String.join (s.joins.map s.joinText)

/-- A column of the main table as it stands in a list of selected columns. -/
def selectedText (s : Scope) (name : String) : String :=
  if s.joins.isEmpty then quote name else (s.column name).text ++ " AS " ++ quote name

/-- The name under which a joined column is selected. -/
def joinedName (relation field : String) : String := relation ++ "." ++ field

/-- A column of a joined table as it stands in a list of selected columns. -/
def joinedText (j : Join) (f : Field) : String :=
  (Column.mk (some j.path.name) f.name).text ++ " AS " ++ quote (joinedName j.path.name f.name)

/-- The given columns of the main table, then the visible ones of each joined table. -/
def selectText (s : Scope) (columns : List String) : String :=
  ", ".intercalate (columns.map s.selectedText
    ++ s.joins.flatMap fun j => j.entity.visibleFields.map (joinedText j))

end Scope
end EntityMapper.Sql
