import EntityMapper.Error
import EntityMapper.Query.Basic
import EntityMapper.Text.Blank

/-!
# Settings

Settings are looked up by name; one that is not set keeps its default. The default limit of queries
does not exceed the greatest allowed.
-/

namespace EntityMapper

structure Settings where
  databaseUrl : String := "sqlite::memory:"
  maxConnections : Nat := 5
  defaultLimit : Nat := 10
  maxLimit : Nat := 1000
deriving DecidableEq, Repr

namespace Settings

/-- A count that is set, blanks around it left aside, or its default. -/
def readCount (lookup : String → Option String) (key : String) (fallback : Nat) :
    Except ConfigError Nat :=
  match lookup key with
  | none => .ok fallback
  | some raw =>
    match Text.Decimal.readNat Document.maxCount (Text.trim raw) with
    | .ok n => .ok n
    | .error fault => .error (.setting key (.notANumber fault))

def ofLookup (lookup : String → Option String) : Except ConfigError Settings := do
  let defaults : Settings := {}
  let databaseUrl := (lookup "DATABASE_URL").getD defaults.databaseUrl
  let maxConnections ←
    readCount lookup "ENTITY_ENGINE_MAX_CONNECTIONS" defaults.maxConnections
  let defaultLimit ← readCount lookup "ENTITY_ENGINE_DEFAULT_LIMIT" defaults.defaultLimit
  let maxLimit ← readCount lookup "ENTITY_ENGINE_MAX_LIMIT" defaults.maxLimit
  if maxLimit < defaultLimit then
    throw (.setting "ENTITY_ENGINE_DEFAULT_LIMIT" (.exceedsMaxLimit maxLimit))
  return { databaseUrl, maxConnections, defaultLimit, maxLimit }

def queryOptions (s : Settings) : QueryOptions :=
  { defaultLimit := s.defaultLimit, maxLimit := s.maxLimit }

end Settings
end EntityMapper
