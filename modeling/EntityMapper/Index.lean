import EntityMapper.Document

/-!
# Indices

A declared index over fields of an entity, and its document.
-/

namespace EntityMapper

open Document

structure Index where
  name : String
  entity : String
  fields : List String
  unique : Bool
deriving DecidableEq, Repr

namespace Index

/-- An index named for its entity and fields. -/
def ofFields (entity : String) (fields : List String) : Index :=
  { name := "idx_" ++ entity ++ "_" ++ "_".intercalate fields, entity, fields, unique := false }

def ofJson? (j : Json) : Option Index := do
  match ← record? ["name", "entity", "fields", "unique"] j with
  | [name, entity, fields, unique] =>
    return { name := ← required? text? name
             entity := ← required? text? entity
             fields := ← required? (list? text?) fields
             unique := ← withDefault? false flag? unique }
  | _ => none

def toJson (i : Index) : Json :=
  objectOf [("name", some (.str i.name)), ("entity", some (.str i.entity)),
    ("fields", some (.arr (i.fields.map .str))), ("unique", some (.bool i.unique))]

end Index
end EntityMapper
