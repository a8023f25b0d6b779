import EntityMapper.Entity.Basic
import EntityMapper.Field.Document

/-!
# Entity documents

An entity as an object of its name, its fields in order and its configuration. Reading goes through
`Entity.declare`, so documents are held to the rules of declarations.
-/

namespace EntityMapper

open Document

namespace EntityConfig

def ofJson? (j : Json) : Option EntityConfig := do
  match ← record? ["display_name", "primary_format", "id_handler"] j with
  | [displayName, primaryFormat, idHandler] =>
    return { displayName := ← optional? text? displayName
             primaryFormat := ← withDefault? .integer (choice? KeyFormat.alternatives) primaryFormat
             idHandler := ← optional? text? idHandler }
  | _ => none

def toJson (c : EntityConfig) : Json :=
  objectOf [("display_name", c.displayName.map .str),
    ("primary_format", some (.str c.primaryFormat.name)), ("id_handler", c.idHandler.map .str)]

end EntityConfig

namespace Entity

/-- The parts of an entity document, not yet checked. -/
def readParts? (j : Json) : Option (String × List Field × EntityConfig) := do
  match ← record? ["name", "fields", "config"] j with
  | [name, fields, config] =>
    return (← required? text? name, ← withDefault? [] (list? Field.ofJson?) fields,
      ← withDefault? {} EntityConfig.ofJson? config)
  | _ => none

def ofJson (j : Json) : Except ConfigError Entity :=
  match readParts? j with
  | none => .error .malformedEntity
  | some (name, fields, config) => declare name fields config

def toJson (e : Entity) : Json :=
  objectOf [("name", some (.str e.name)), ("fields", some (.arr (e.fields.map Field.toJson))),
    ("config", some e.config.toJson)]

end Entity
end EntityMapper
