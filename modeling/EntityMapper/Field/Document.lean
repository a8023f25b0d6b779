import EntityMapper.Document
import EntityMapper.Field.Basic

/-!
# Field documents

A field as an object: its name and flags, the name of its kind under `type`, and the rules of that
kind. Rules that are not set are left out, and in reading, rules of other kinds are passed over.
-/

namespace EntityMapper

open Document

def KeyFormat.name : KeyFormat → String
  | .integer => "integer"
  | .uuid => "uuid"
  | .custom => "custom"

def KeyFormat.alternatives : List (String × KeyFormat) :=
  [("integer", .integer), ("uuid", .uuid), ("custom", .custom)]

def ReferentialAction.name : ReferentialAction → String
  | .noAction => "no_action"
  | .restrict => "restrict"
  | .cascade => "cascade"
  | .setNull => "set_null"
  | .setDefault => "set_default"

def ReferentialAction.alternatives : List (String × ReferentialAction) :=
  [("no_action", .noAction), ("restrict", .restrict), ("cascade", .cascade),
    ("set_null", .setNull), ("set_default", .setDefault)]

namespace Field

/-- The names of the kinds; in a document a kind may also be given by its place in this list. -/
def typeNames : List String :=
  ["text", "number", "boolean", "date", "datetime", "json", "blob", "primary", "relation",
    "virtual"]

/-- The name of a kind as `type` gives it. -/
def readTypeName? : Json → Option String
  | .str name => if typeNames.contains name then some name else none
  | .int n => if 0 ≤ n then typeNames[n.toNat]? else none
  | _ => none

/-- Inside a kind's rules, the object form of a choice may also hold an empty object. -/
def isUnitRule : Json → Bool
  | .null => true
  | .obj [] => true
  | _ => false

/-- A limit of a number; no text of a document denotes one that is not finite. -/
def limit? (j : Json) : Option Double.Extended := j.double?.map .finite

/-- A limit as it is written: null when it is not finite. -/
def limitJson : Double.Extended → Json
  | .finite x => .float x
  | _ => .null

def readKind? (doc : Dict Json) : Option FieldKind := do
  let format? := choiceOf? isUnitRule KeyFormat.alternatives
  let action? := choiceOf? isUnitRule ReferentialAction.alternatives
  match ← readTypeName? (← doc.get? "type") with
  | "text" =>
    return .text (← optional? count? (doc.get? "max_length"))
      (← optional? count? (doc.get? "min_length")) (← optional? text? (doc.get? "pattern"))
  | "number" =>
    return .number (← optional? limit? (doc.get? "minimum"))
      (← optional? limit? (doc.get? "maximum"))
  | "boolean" => return .boolean
  | "date" => return .date
  | "datetime" => return .datetime
  | "json" => return .json
  | "blob" => return .blob
  | "primary" =>
    return .primary (← withDefault? .integer format? (doc.get? "format"))
      (← optional? text? (doc.get? "handler"))
  | "relation" =>
    return .relation
      { target := ← required? text? (doc.get? "target")
        targetKey := ← withDefault? "id" text? (doc.get? "target_key")
        format := ← withDefault? .integer format? (doc.get? "target_format")
        onDelete := ← withDefault? .setNull action? (doc.get? "on_delete")
        onUpdate := ← withDefault? .noAction action? (doc.get? "on_update") }
  | "virtual" => return .virtual
  | _ => none

def ofJson? : Json → Option Field
  | .obj doc => do
    return { name := ← required? text? (Dict.get? doc "name")
             kind := ← readKind? doc
             required := ← withDefault? false flag? (Dict.get? doc "required")
             defaultValue := ← optional? some (Dict.get? doc "default_value")
             hidden := ← withDefault? false flag? (Dict.get? doc "hidden")
             fillable := ← withDefault? true flag? (Dict.get? doc "fillable") }
  | _ => none

/-- The members that the kind contributes to a document. -/
def kindMembers : FieldKind → List (String × Option Json)
  | .text most least pattern =>
    [("max_length", most.map fun n => .int n), ("min_length", least.map fun n => .int n),
      ("pattern", pattern.map .str)]
  | .number minimum maximum =>
    [("minimum", minimum.map limitJson), ("maximum", maximum.map limitJson)]
  | .primary format handler =>
    [("format", some (.str format.name)), ("handler", handler.map .str)]
  | .relation key =>
    [("target", some (.str key.target)), ("target_key", some (.str key.targetKey)),
      ("target_format", some (.str key.format.name)),
      ("on_delete", some (.str key.onDelete.name)), ("on_update", some (.str key.onUpdate.name))]
  | _ => []

def toJson (f : Field) : Json :=
  objectOf ([("name", some (.str f.name)), ("type", some (.str f.typeName)),
    ("required", some (.bool f.required)), ("default_value", f.defaultValue),
    ("hidden", some (.bool f.hidden)), ("fillable", some (.bool f.fillable))]
    ++ kindMembers f.kind)

end Field
end EntityMapper
