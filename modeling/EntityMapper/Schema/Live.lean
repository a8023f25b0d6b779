/-!
# Live schemas

The tables of a database as they are found, with their columns, their indexes and the tables they
hold foreign keys to.
-/

namespace EntityMapper.Schema

structure LiveIndex where
  name : String
  columns : List String
  unique : Bool
deriving DecidableEq, Repr

/-- A table as it is found. -/
structure LiveTable where
  name : String
  columns : List String
  indexes : List LiveIndex
  references : List String
deriving DecidableEq, Repr

namespace LiveTable

def hasColumn (t : LiveTable) (name : String) : Bool := t.columns.contains name

def index? (t : LiveTable) (name : String) : Option LiveIndex := t.indexes.find? (·.name == name)

/-- The table of a name; of several the last. -/
def find? (live : List LiveTable) (name : String) : Option LiveTable :=
  live.reverse.find? (·.name == name)

end LiveTable
end EntityMapper.Schema
