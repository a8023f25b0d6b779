import EntityMapper.Entity.Basic
import EntityMapper.Field.Rules

/-!
# Rows

A row gives values to fields by name. A row to be inserted needs all required fields; a row of
changes only must not empty one.
-/

namespace EntityMapper

/-- Values by the names of fields, or of columns. -/
abbrev Row := Dict Json

namespace Entity

/-- A field of a row to be inserted. -/
def validateStored (patterns : Pattern.Reader) (row : Row) (f : Field) : Except Violation Unit := do
  let value := row.get? f.name
  let missing := match value with
    | some v => v.isNull
    | none => true
  Field.demand (!(f.required && !f.isPrimary && missing)) (.required f.name)
  match value with
  | some v => f.validate patterns v
  | none => return ()

def validateRow (patterns : Pattern.Reader) (e : Entity) (row : Row) : Except Violation Unit :=
  e.storedFields.forM (validateStored patterns row)

/-- One value of a row of changes; a key that is no field breaks no rule. -/
def validateChange (patterns : Pattern.Reader) (e : Entity) (entry : String × Json) :
    Except Violation Unit :=
  match e.field? entry.1 with
  | some f => f.validateValue patterns entry.2
  | none => .ok ()

def validateChanges (patterns : Pattern.Reader) (e : Entity) (row : Row) :
    Except Violation Unit :=
  row.forM (e.validateChange patterns)

end Entity
end EntityMapper
