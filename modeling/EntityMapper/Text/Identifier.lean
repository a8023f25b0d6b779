import EntityMapper.Text.Split

/-!
# Identifiers

Names that may stand unquoted for a table or a column, and dotted pairs of them, which name a column
of a joined relation.
-/

namespace EntityMapper.Text

/-- An ASCII letter or an underscore. -/
def isNameStart (c : Char) : Bool := c.isAlpha || c == '_'

/-- An ASCII letter, a decimal digit or an underscore. -/
def isNamePart (c : Char) : Bool := c.isAlphanum || c == '_'

/-- Letters, digits and underscores, not starting with a digit. -/
def isIdentifier (s : String) : Bool :=
  match s.toList with
  | [] => false
  | c :: cs => isNameStart c && cs.all isNamePart

/-- An identifier, or two of them joined by one dot. -/
def isPath (s : String) : Bool :=
  match splitDot s with
  | none => isIdentifier s
  | some (relation, name) => isIdentifier relation && isIdentifier name

end EntityMapper.Text
