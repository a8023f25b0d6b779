import EntityMapper.Text.Blank
import EntityMapper.Text.Identifier

/-!
# Sort orders

A key, which is a field or a relation and a field joined by a dot, and a direction. Written as text,
a leading minus sign means descending.
-/

namespace EntityMapper

/-- Whether smaller or greater keys come first. -/
inductive SortDirection where
  | ascending
  | descending
deriving DecidableEq, Repr

def SortDirection.sql : SortDirection → String
  | .ascending => "ASC"
  | .descending => "DESC"

structure SortOrder where
  key : String
  direction : SortDirection
deriving DecidableEq, Repr

namespace SortOrder

/-- The order of a text that names no key. -/
def default : SortOrder := ⟨"id", .ascending⟩

/-- The order a text names, blanks around it left aside; the default when it names none. -/
def parse (s : String) : SortOrder :=
  let trimmed := Text.trim s
  match trimmed.toList with
  | '-' :: cs => if Text.isPath (String.ofList cs) then ⟨String.ofList cs, .descending⟩ else default
  | _ => if Text.isPath trimmed then ⟨trimmed, .ascending⟩ else default

end SortOrder
end EntityMapper
