import EntityMapper.Document

/-!
# Statements

SQL text with the values of its parameters, as it is sent to a database.
-/

namespace EntityMapper

open Document

/-- SQL text and the values of its parameters. -/
structure Statement where
  sql : String
  parameters : List Json

namespace Statement

def ofJson? (j : Json) : Option Statement := do
  match ← record? ["sql", "parameters"] j with
  | [sql, parameters] =>
    return { sql := ← required? text? sql, parameters := ← required? (list? some) parameters }
  | _ => none

def toJson (s : Statement) : Json :=
  objectOf [("sql", some (.str s.sql)), ("parameters", some (.arr s.parameters))]

end Statement
end EntityMapper
