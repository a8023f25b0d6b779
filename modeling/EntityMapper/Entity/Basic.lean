import EntityMapper.Error
import EntityMapper.Field.Basic
import EntityMapper.Text.Identifier

/-!
# Entities

An entity is a named list of fields, one of them primary, and a configuration. `Entity.declare` is
the only way to make one: it drops repeated fields, refuses conflicting ones, and puts a primary
field in front when none is given.
-/

namespace EntityMapper

/-- What an entity's declaration says beside its fields. -/
structure EntityConfig where
  displayName : Option String := none
  /-- The format of the primary field that is put in front when none is declared. -/
  primaryFormat : KeyFormat := .integer
  /-- The handler of that field, when its format is custom. -/
  idHandler : Option String := none
deriving DecidableEq, Repr

/-- A named list of fields, among them a primary one. -/
structure Entity where
  name : String
  fields : List Field
  config : EntityConfig
  hasPrimary : (fields.find? Field.isPrimary).isSome

instance : BEq Entity :=
  ⟨fun a b => a.name == b.name && a.fields == b.fields && a.config == b.config⟩

/-- The name of a primary field that was not declared. -/
def defaultPrimary : String := "id"

def checkIdentifier (name : String) : Except ConfigError Unit :=
  if Text.isIdentifier name then .ok () else .error (.invalidName name)

namespace Entity

def field? (e : Entity) (name : String) : Option Field := e.fields.find? (·.name == name)

def primary (e : Entity) : Field := (e.fields.find? Field.isPrimary).get e.hasPrimary

/-- How primary keys are produced, with the handler's key when it is given. -/
def primaryFormat (e : Entity) : KeyFormat × Option String :=
  match e.primary.kind with
  | .primary format handler => (format, handler)
  | _ => (.integer, none)

def displayName (e : Entity) : String := e.config.displayName.getD e.name

def storedFields (e : Entity) : List Field := e.fields.filter Field.isStored

/-- Fields that callers may write. -/
def fillableFields (e : Entity) : List Field := e.fields.filter fun f => f.fillable && f.isStored

/-- Stored fields that are shown unless a query selects others. -/
def visibleFields (e : Entity) : List Field := e.storedFields.filter (!·.hidden)

def storedField? (e : Entity) (name : String) : Option Field :=
  (e.field? name).filter Field.isStored

/-! ## Declaration -/

/-- Adds a field to those of the entity `name`. The same field may be given again. -/
def appendField (name : String) (fields : List Field) (f : Field) :
    Except ConfigError (List Field) := do
  checkIdentifier f.name
  match fields.find? (·.name == f.name) with
  | some existing =>
    if existing == f then return fields else throw (.conflictingField name f.name)
  | none =>
    match f.isPrimary, fields.find? Field.isPrimary with
    | true, some first => throw (.multiplePrimary name first.name f.name)
    | _, _ => return fields ++ [f]

/-- Fields with a primary one among them. -/
abbrev KeyedFields := { fields : List Field // (fields.find? Field.isPrimary).isSome }

/-- Puts the configured primary field in front when there is none. -/
def withPrimary (name : String) (config : EntityConfig) (fields : List Field) :
    Except ConfigError KeyedFields :=
  if h : (fields.find? Field.isPrimary).isSome then .ok ⟨fields, h⟩
  else
    match config.primaryFormat, config.idHandler with
    | .custom, none => .error (.formatWithoutHandler name)
    | format, handler =>
      let primary : Field := ⟨defaultPrimary,
        .primary format (if format = .custom then handler else none), false, none, false, false⟩
      if fields.any (·.name == defaultPrimary) then
        .error (.conflictingField name defaultPrimary)
      else .ok ⟨primary :: fields, by simp [primary, Field.isPrimary]⟩

def declare (name : String) (fields : List Field) (config : EntityConfig) :
    Except ConfigError Entity := do
  checkIdentifier name
  let distinct ← fields.foldlM (appendField name) []
  let ⟨fields, hasPrimary⟩ ← withPrimary name config distinct
  let e : Entity := ⟨name, fields, config, hasPrimary⟩
  match e.primaryFormat with
  | (.custom, none) => throw (.primaryWithoutHandler name)
  | _ => return e

/-! ## Changes -/

theorem isSome_find?_append {fields : List Field} (more : List Field)
    (h : (fields.find? Field.isPrimary).isSome) :
    ((fields ++ more).find? Field.isPrimary).isSome := by
  simp only [List.find?_isSome] at h ⊢
  obtain ⟨f, hf, hp⟩ := h
  exact ⟨f, List.mem_append_left _ hf, hp⟩

/-- Adds a field after the others. The same field may be given again. -/
def addField (e : Entity) (f : Field) : Except ConfigError Entity := do
  checkIdentifier f.name
  match e.field? f.name with
  | some existing => if existing == f then return e else throw (.conflictingField e.name f.name)
  | none =>
    if f.isPrimary then throw (.multiplePrimary e.name e.primary.name f.name)
    else return { e with fields := e.fields ++ [f], hasPrimary := isSome_find?_append _ e.hasPrimary }

/-- The field of a name with its visibility set. -/
def hide (name : String) (hidden : Bool) (f : Field) : Field :=
  if f.name = name then { f with hidden } else f

@[simp] theorem isPrimary_hide (name : String) (hidden : Bool) (f : Field) :
    (hide name hidden f).isPrimary = f.isPrimary := by
  unfold hide; split <;> rfl

theorem isSome_find?_hide {fields : List Field} (name : String) (hidden : Bool)
    (h : (fields.find? Field.isPrimary).isSome) :
    ((fields.map (hide name hidden)).find? Field.isPrimary).isSome := by
  simp only [List.find?_isSome] at h ⊢
  obtain ⟨f, hf, hp⟩ := h
  exact ⟨_, List.mem_map_of_mem hf, by simpa using hp⟩

def setFieldHidden (e : Entity) (field : String) (hidden : Bool) : Except ConfigError Entity :=
  match e.field? field with
  | none => .error (.unknownField e.name field)
  | some _ =>
    .ok { e with
      fields := e.fields.map (hide field hidden)
      hasPrimary := isSome_find?_hide field hidden e.hasPrimary }

end Entity
end EntityMapper
