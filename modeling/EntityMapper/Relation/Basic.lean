import EntityMapper.Field.Basic

/-!
# Relations

A relation links two entities. Many sources may point at one target through a foreign key of the
source, or a junction entity holds keys of both sides. Each side reaches the other under a name; the
way from a side is a `Path`.
-/

namespace EntityMapper

inductive RelationKind where
  /-- The source holds a foreign key to the target. -/
  | manyToOne
  /-- A junction entity holds foreign keys to both sides. -/
  | manyToMany
deriving DecidableEq, Repr

/-- A declared link between two entities. -/
structure Relation where
  kind : RelationKind
  source : String
  target : String
  /-- The name under which the source reaches the target. -/
  sourceName : String
  /-- The name under which the target reaches the source. -/
  targetName : String
  /-- The foreign key of the source; without use for a junction. -/
  foreignKey : String
  onDelete : ReferentialAction
  onUpdate : ReferentialAction
deriving DecidableEq, Repr

/-- The shape of related data: one row, or a list. -/
inductive Direction where
  /-- We hold the key of one related row. -/
  | toOne
  /-- The related rows hold our key. -/
  | toMany
  /-- A junction links both. -/
  | manyToMany
deriving DecidableEq, Repr

/-- The junction entity and its columns, as seen from one side. -/
structure Junction where
  entity : String
  ourKey : String
  theirKey : String
deriving DecidableEq, Repr

/-- The way from an entity to a related one: rows belong together when our key equals theirs, or when
a row of the junction holds both. -/
structure Path where
  name : String
  direction : Direction
  related : String
  ourKey : String
  theirKey : String
  junction : Option Junction
deriving DecidableEq, Repr

namespace Relation

/-- A relation whose sides are named for the entities they reach. -/
def ofKind (kind : RelationKind) (source target : String) : Relation :=
  { kind, source, target, sourceName := target, targetName := source
    foreignKey := target ++ "_id", onDelete := .setNull, onUpdate := .noAction }

/-- Each row of `source` points at one row of `target`. -/
def manyToOne (source target : String) : Relation := ofKind .manyToOne source target

/-- Each row of `one` has many rows of `many`: the same relation seen from the other side. -/
def oneToMany (one many : String) : Relation := manyToOne many one

def manyToMany (source target : String) : Relation := ofKind .manyToMany source target

/-- The junction entity of a many-to-many relation. -/
def junctionName (r : Relation) : String := r.source ++ "_" ++ r.target

def junctionSourceKey (r : Relation) : String := r.source ++ "_id"

def junctionTargetKey (r : Relation) : String := r.target ++ "_id"

/-- The way from the source, given the primary keys of both sides. -/
def pathFromSource (r : Relation) (sourceKey targetKey : String) : Path :=
  match r.kind with
  | .manyToOne => ⟨r.sourceName, .toOne, r.target, r.foreignKey, targetKey, none⟩
  | .manyToMany =>
    ⟨r.sourceName, .manyToMany, r.target, sourceKey, targetKey,
      some ⟨r.junctionName, r.junctionSourceKey, r.junctionTargetKey⟩⟩

/-- The way from the target, given the primary keys of both sides. -/
def pathFromTarget (r : Relation) (sourceKey targetKey : String) : Path :=
  match r.kind with
  | .manyToOne => ⟨r.targetName, .toMany, r.source, targetKey, r.foreignKey, none⟩
  | .manyToMany =>
    ⟨r.targetName, .manyToMany, r.source, targetKey, sourceKey,
      some ⟨r.junctionName, r.junctionTargetKey, r.junctionSourceKey⟩⟩

end Relation
end EntityMapper
