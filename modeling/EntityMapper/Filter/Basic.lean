import EntityMapper.Json.Parser
import EntityMapper.Error

/-!
# Filters

What callers write as a filter, and the canonical form it is brought to: for each field the operators
with their operands.
-/

namespace EntityMapper

/-- A caller's filter. A field without a value is unset and does not filter. -/
abbrev FilterInput := Dict (Option Json)

/-- A canonical filter: for each field, operands by operator. -/
abbrev Filter := Dict (Dict Json)

namespace Filter

/-- Adds a predicate, in the place of one with the same field and operator. -/
def put (f : Filter) (field operator : String) (value : Json) : Filter :=
  Dict.insert f field (Dict.insert ((Dict.get? f field).getD []) operator value)

def toJson (f : Filter) : Json := .obj (f.map fun (field, operators) => (field, .obj operators))

/-- The predicates one by one: field, operator and operand. -/
def predicates (f : Filter) : List (String × String × Json) :=
  f.flatMap fun (field, operators) => operators.map fun (op, value) => (field, op, value)

end Filter

namespace FilterInput

/-- The filter of a `where` document: an object, or JSON text of one. -/
def ofJson : Json → Except QueryError FilterInput
  | .obj members => .ok (members.map fun (field, value) => (field, some value))
  | .str text =>
    match Json.read? text with
    | none => .error .whereMalformed
    | some (.obj members) => .ok (members.map fun (field, value) => (field, some value))
    | some other => .error (.whereNotObject other)
  | other => .error (.whereNotObject other)

end FilterInput
end EntityMapper
