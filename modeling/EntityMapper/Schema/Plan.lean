import EntityMapper.Schema.Change
import EntityMapper.Schema.Order

/-!
# Plans

The changes that turn a live schema into the declared one, in the order in which they can be made:
tables are created, columns added, indexes created or made again, and then, if asked for, everything
undeclared is dropped.
-/

namespace EntityMapper.Schema

/-- What is declared, and in which dialect it is written. -/
structure Target where
  dialect : Dialect
  entities : List Entity
  indices : List Index

namespace Target

def columns (t : Target) (e : Entity) : List ColumnSpec := e.fields.filterMap t.dialect.column?

/-- The table of an entity that has none yet. -/
def creation (t : Target) (live : List LiveTable) (e : Entity) : List Change :=
  match LiveTable.find? live e.name with
  | none => [.createTable e.name (t.columns e)]
  | some _ => []

/-- The columns that an entity's table lacks. -/
def additions (t : Target) (live : List LiveTable) (e : Entity) : List Change :=
  match LiveTable.find? live e.name with
  | none => []
  | some table =>
    ((t.columns e).filter fun c => !table.hasColumn c.name).map (.addColumn e.name)

/-- What a declared index needs: nothing when the table has it, else to be created, after the one of
its name has been dropped. -/
def indexChanges (live : List LiveTable) (i : Index) : List Change :=
  match (LiveTable.find? live i.entity).bind (·.index? i.name) with
  | none => [.createIndex i]
  | some existing =>
    if existing.columns = i.fields ∧ existing.unique = i.unique then []
    else [.dropIndex i.name, .createIndex i]

/-- The indexes of an entity's table that no declared index has the name of. -/
def staleIndexes (t : Target) (live : List LiveTable) (e : Entity) : List Change :=
  match LiveTable.find? live e.name with
  | none => []
  | some table =>
    (table.indexes.filter fun i => !t.indices.any (·.name == i.name)).map fun i =>
      .dropIndex i.name

/-- The columns of an entity's table that are no stored fields. -/
def staleColumns (live : List LiveTable) (e : Entity) : List Change :=
  match LiveTable.find? live e.name with
  | none => []
  | some table =>
    (table.columns.filter fun c => (e.storedField? c).isNone).map (.dropColumn e.name)

/-- The tables that no entity has the name of, in the order in which they are dropped. -/
def staleTables (t : Target) (live : List LiveTable) : List Change :=
  (dropOrder (live.filter fun table => !t.entities.any (·.name == table.name))).map fun table =>
    .dropTable table.name

/-- The changes that add what is declared. -/
def growth (t : Target) (live : List LiveTable) : List Change :=
  let ordered := dependencyOrder t.entities
  ordered.flatMap (t.creation live) ++ ordered.flatMap (t.additions live)
    ++ t.indices.flatMap (indexChanges live)

/-- The changes that drop what is not declared. -/
def drops (t : Target) (live : List LiveTable) : List Change :=
  let ordered := dependencyOrder t.entities
  ordered.flatMap (t.staleIndexes live) ++ ordered.flatMap (staleColumns live)
    ++ t.staleTables live

/-- The changes that turn the live schema into the declared one. -/
def plan (t : Target) (live : List LiveTable) (drop : Bool) : List Change :=
  t.growth live ++ if drop then t.drops live else []

end Target
end EntityMapper.Schema
