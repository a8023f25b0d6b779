import EntityMapper.Catalog
import EntityMapper.Engine.Exchange
import EntityMapper.Filter.Validator
import EntityMapper.Query.Basic
import EntityMapper.Sql.Command

/-!
# Engines

An engine is a catalog over one database: with the dialect, the operators of filters and the limits
of queries it is all that reading and writing rows needs.
-/

namespace EntityMapper

/-- A catalog over a database. -/
structure Engine where
  dialect : Dialect := .sqlite
  /-- Whether queries count all matching rows. -/
  softscans : Bool := dialect.capabilities.softscans
  validator : Validator := .default
  options : QueryOptions := {}
  /-- What reads the patterns of text fields. -/
  patterns : Pattern.Reader := Pattern.standard
  catalog : Catalog := {}
  /-- The random keys in the order in which they are drawn. -/
  randomKeys : Nat → String

namespace Engine

def convert (m : Engine) (filter : FilterInput) : Call Filter :=
  Call.ofExcept (m.validator.convert filter)

def run (m : Engine) (c : Sql.Command) : Call (List Row) := Call.query (c.statement m.dialect)

end Engine
end EntityMapper
