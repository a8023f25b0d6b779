import EntityMapper.Field.Document
import EntityMapper.Relation.Basic

/-!
# Relation documents

A relation as an object, or array, of all its members.
-/

namespace EntityMapper

open Document

def RelationKind.name : RelationKind → String
  | .manyToOne => "many_to_one"
  | .manyToMany => "many_to_many"

def RelationKind.alternatives : List (String × RelationKind) :=
  [("many_to_one", .manyToOne), ("many_to_many", .manyToMany)]

namespace Relation

def ofJson? (j : Json) : Option Relation := do
  match ← record? ["kind", "source", "target", "source_name", "target_name", "foreign_key",
      "on_delete", "on_update"] j with
  | [kind, source, target, sourceName, targetName, foreignKey, onDelete, onUpdate] =>
    return { kind := ← required? (choice? RelationKind.alternatives) kind
             source := ← required? text? source
             target := ← required? text? target
             sourceName := ← required? text? sourceName
             targetName := ← required? text? targetName
             foreignKey := ← required? text? foreignKey
             onDelete := ← required? (choice? ReferentialAction.alternatives) onDelete
             onUpdate := ← required? (choice? ReferentialAction.alternatives) onUpdate }
  | _ => none

def toJson (r : Relation) : Json :=
  objectOf [("kind", some (.str r.kind.name)), ("source", some (.str r.source)),
    ("target", some (.str r.target)), ("source_name", some (.str r.sourceName)),
    ("target_name", some (.str r.targetName)), ("foreign_key", some (.str r.foreignKey)),
    ("on_delete", some (.str r.onDelete.name)), ("on_update", some (.str r.onUpdate.name))]

end Relation
end EntityMapper
