import EntityMapper.Entity.Basic
import EntityMapper.Index
import EntityMapper.Relation.Basic

/-!
# The catalog

The entities, relations and indices declared so far. Declaring the same thing again changes nothing;
a declaration that conflicts with an earlier one is refused. A many-to-one relation adds its foreign
key to the source, a many-to-many relation registers its junction entity.
-/

namespace EntityMapper

structure Catalog where
  /-- Entities as they were declared. -/
  declared : List Entity := []
  /-- The same entities with foreign keys and visibility applied. -/
  entities : List Entity := []
  relations : List Relation := []
  indices : List Index := []

namespace Catalog

def entity? (c : Catalog) (name : String) : Option Entity := c.entities.find? (·.name == name)

def entity (c : Catalog) (name : String) : Except ConfigError Entity :=
  match c.entity? name with
  | some e => .ok e
  | none => .error (.unknownEntity name)

def replaceEntity (c : Catalog) (name : String) (e : Entity) : Catalog :=
  { c with entities := c.entities.map fun other => if other.name = name then e else other }

/-! ## Entities -/

def addEntity (c : Catalog) (e : Entity) : Except ConfigError Catalog :=
  match c.declared.find? (·.name == e.name) with
  | some existing => if existing == e then .ok c else .error (.conflictingEntity e.name)
  | none => .ok { c with declared := c.declared ++ [e], entities := c.entities ++ [e] }

def setFieldHidden (c : Catalog) (entity field : String) (hidden : Bool) :
    Except ConfigError Catalog := do
  let e ← (← c.entity entity).setFieldHidden field hidden
  return c.replaceEntity entity e

/-! ## Relations -/

/-- The ways from an entity that one relation gives. -/
def pathsThrough (c : Catalog) (entity : String) (r : Relation) : List Path :=
  match c.entity? r.source, c.entity? r.target with
  | some source, some target =>
    (if r.source = entity then [r.pathFromSource source.primary.name target.primary.name] else [])
      ++ (if r.target = entity then [r.pathFromTarget source.primary.name target.primary.name]
          else [])
  | _, _ => []

def relationsOf (c : Catalog) (entity : String) : List Path :=
  c.relations.flatMap (c.pathsThrough entity)

def relation? (c : Catalog) (entity name : String) : Option Path :=
  (c.relationsOf entity).find? (·.name == name)

/-- The column that holds keys of `target`, whose primary field is given. -/
def foreignKeyField (r : Relation) (name target : String) (primary : Field) : Field :=
  .plain name (.relation
    { target, targetKey := primary.name, format := primary.keyFormat.getD .integer
      onDelete := r.onDelete, onUpdate := r.onUpdate })

/-- The junction entity of a relation between entities with these primary fields. -/
def junctionEntity (r : Relation) (sourceKey targetKey : Field) : Except ConfigError Entity :=
  Entity.declare r.junctionName
    [foreignKeyField r r.junctionSourceKey r.source sourceKey,
      foreignKeyField r r.junctionTargetKey r.target targetKey] {}

/-- The columns or the entity that a relation needs. -/
def addStorage (c : Catalog) (r : Relation) (source target : Entity) :
    Except ConfigError Catalog := do
  match r.kind with
  | .manyToOne =>
    checkIdentifier r.foreignKey
    let e ← source.addField (foreignKeyField r r.foreignKey r.target target.primary)
    return c.replaceEntity r.source e
  | .manyToMany =>
    if r.source = r.target then throw (.selfLinked r.source)
    c.addEntity (← junctionEntity r source.primary target.primary)

/-- Refuses a name under which the entity already reaches another. -/
def checkUnused (c : Catalog) (entity name : String) : Except ConfigError Unit :=
  if (c.relation? entity name).isSome then .error (.relationNameTaken entity name) else .ok ()

def addRelation (c : Catalog) (r : Relation) : Except ConfigError Catalog := do
  if c.relations.contains r then return c
  let source ← c.entity r.source
  let target ← c.entity r.target
  checkIdentifier r.sourceName
  checkIdentifier r.targetName
  c.checkUnused r.source r.sourceName
  c.checkUnused r.target r.targetName
  let c ← c.addStorage r source target
  return { c with relations := c.relations ++ [r] }

/-! ## Indices -/

/-- Refuses a name that is no stored field of the entity. -/
def checkStored (e : Entity) (field : String) : Except ConfigError Unit :=
  if (e.storedField? field).isSome then .ok () else .error (.unknownField e.name field)

def addIndex (c : Catalog) (i : Index) : Except ConfigError Catalog := do
  checkIdentifier i.name
  let e ← c.entity i.entity
  if i.fields.isEmpty then throw (.indexWithoutFields i.name)
  i.fields.forM (checkStored e)
  match c.indices.find? (·.name == i.name) with
  | some existing => if existing = i then return c else throw (.conflictingIndex i.name)
  | none => return { c with indices := c.indices ++ [i] }

def indicesOf (c : Catalog) (entity : String) : List Index :=
  c.indices.filter (·.entity == entity)

end Catalog
end EntityMapper
