import EntityMapper.Sql.Statement

/-!
# Bound parameters

The values of a statement are bound one after the other while its text is put together. Each is put
behind those that are bound already and has its number there, which the text names.
-/

namespace EntityMapper.Sql

/-- Text, or a part of it, that binds values. -/
abbrev Building := StateM (List Json)

namespace Building

/-- What is put together, and the values that are bound then. -/
def on {α : Type} (b : Building α) (bound : List Json) : α × List Json := b.run bound

/-- Binds a value; gives its number, counted from one. -/
def push (value : Json) : Building Nat := do
  modify fun bound => bound ++ [value]
  return (← get).length

def statement (text : Building String) : Statement :=
  let (sql, parameters) := text.on []
  { sql, parameters }

end Building
end EntityMapper.Sql
