import EntityMapper.Json.Basic
import EntityMapper.Text.Blank
import EntityMapper.Text.Split

/-!
# Lists of names

Names are written as one text with commas between them or as a list. Blanks around a name and empty
names do not count.
-/

namespace EntityMapper

/-- Names as a caller writes them. -/
inductive NameList where
  | text (s : String)
  | items (names : List String)
deriving DecidableEq, Repr

namespace NameList

/-- The names without blanks around them; empty ones are left out. -/
def toList : NameList → List String
  | .text s => ((Text.split ',' s).map Text.trim).filter (· ≠ "")
  | .items names => (names.map Text.trim).filter (· ≠ "")

def ofJson? : Json → Option NameList
  | .str s => some (.text s)
  | .arr js => (js.mapM Json.str?).map .items
  | _ => none

def toJson : NameList → Json
  | .text s => .str s
  | .items names => .arr (names.map .str)

end NameList
end EntityMapper
