import EntityMapper.Keys

/-!
# Drafts

A draft collects the parts of an entity before it is declared. A handler given to a draft is bound
under `entity_` and the entity's name, but only once the entity itself is valid.
-/

namespace EntityMapper

/-- The parts of an entity to be declared. -/
structure Draft where
  name : String
  fields : List Field := []
  config : EntityConfig := {}
  /-- A handler of the entity's own, with its configuration. -/
  handler : Option (Handler × Option Json) := none

namespace Draft

def withDisplayName (d : Draft) (name : String) : Draft :=
  { d with config := { d.config with displayName := some name } }

def withPrimaryFormat (d : Draft) (format : KeyFormat) : Draft :=
  { d with config := { d.config with primaryFormat := format } }

/-- Uses a handler that is registered already. -/
def withIdHandler (d : Draft) (key : String) : Draft :=
  { d with config := { d.config with primaryFormat := .custom, idHandler := some key } }

/-- Brings a handler of its own. -/
def withHandler (d : Draft) (h : Handler) (config : Option Json) : Draft :=
  { d with handler := some (h, config) }

def handlerKey (entity : String) : String := "entity_" ++ entity

end Draft
end EntityMapper
