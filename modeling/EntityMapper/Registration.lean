import EntityMapper.Catalog

/-!
# Registration

Declarations are registered one after the other in the one catalog they share. Each call checks and
changes that catalog in place, so a call that failed on its way would leave what it had changed by
then.
-/

namespace EntityMapper

/-- A call that changes the catalog. -/
abbrev Registration := ExceptT ConfigError (StateM Catalog)

namespace Registration

/-- What a call answers, and the catalog it leaves. -/
def on {α : Type} (m : Registration α) (c : Catalog) : Except ConfigError α × Catalog := m.run.run c

def require (name : String) : Registration Entity := do
  (← get).entity name

/-- Changes one entity in its place. -/
def changeEntity (name : String) (change : Entity → Except ConfigError Entity) :
    Registration Unit := do
  let e ← change (← require name)
  modify (·.replaceEntity name e)

def addEntity (e : Entity) : Registration Unit := do
  match (← get).declared.find? (·.name == e.name) with
  | some existing => if existing == e then return () else throw (.conflictingEntity e.name)
  | none =>
    modify fun c => { c with declared := c.declared ++ [e] }
    modify fun c => { c with entities := c.entities ++ [e] }

/-- The columns or the entity that a relation between entities with these primary fields needs. -/
def addStorage (r : Relation) (sourceKey targetKey : Field) : Registration Unit := do
  match r.kind with
  | .manyToOne =>
    checkIdentifier r.foreignKey
    changeEntity r.source (·.addField (Catalog.foreignKeyField r r.foreignKey r.target targetKey))
  | .manyToMany =>
    if r.source = r.target then throw (.selfLinked r.source)
    addEntity (← Catalog.junctionEntity r sourceKey targetKey)

def addRelation (r : Relation) : Registration Unit := do
  if (← get).relations.contains r then return ()
  let source ← require r.source
  let target ← require r.target
  checkIdentifier r.sourceName
  checkIdentifier r.targetName
  (← get).checkUnused r.source r.sourceName
  (← get).checkUnused r.target r.targetName
  addStorage r source.primary target.primary
  modify fun c => { c with relations := c.relations ++ [r] }

def addIndex (i : Index) : Registration Unit := do
  checkIdentifier i.name
  let e ← require i.entity
  if i.fields.isEmpty then throw (.indexWithoutFields i.name)
  (i.fields.forM (Catalog.checkStored e) : Except ConfigError Unit)
  match (← get).indices.find? (·.name == i.name) with
  | some existing => if existing = i then return () else throw (.conflictingIndex i.name)
  | none => modify fun c => { c with indices := c.indices ++ [i] }

end Registration

/-- One call of a catalog's caller. -/
inductive Declaration where
  | entity (e : Entity)
  | relation (r : Relation)
  | index (i : Index)
  | visibility (name field : String) (hidden : Bool)

namespace Declaration

def register : Declaration → Registration Unit
  | .entity e => Registration.addEntity e
  | .relation r => Registration.addRelation r
  | .index i => Registration.addIndex i
  | .visibility name field hidden =>
    Registration.changeEntity name (·.setFieldHidden field hidden)

def on (d : Declaration) (c : Catalog) : Except ConfigError Unit × Catalog := d.register.on c

end Declaration

/-- The catalog that calls leave, one after the other, whether they succeed or fail. -/
def Catalog.after (c : Catalog) (calls : List Declaration) : Catalog :=
  calls.foldl (fun c d => (d.on c).2) c

end EntityMapper
