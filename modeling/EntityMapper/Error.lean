import EntityMapper.Double.Shortest
import EntityMapper.Json.Printer
import EntityMapper.Text.Decimal

/-!
# Errors

The causes for which a declaration, a query or a call fails, and their wording. Declarations fail
with a `ConfigError`, filters and queries with a `QueryError`, and calls that reach data with a
`DataError`, which holds the other two.
-/

namespace EntityMapper

/-- Why the value of a setting is refused. -/
inductive SettingFault where
  | notANumber (fault : Text.Decimal.Fault)
  | exceedsMaxLimit (maxLimit : Nat)
deriving DecidableEq, Repr

def SettingFault.message : SettingFault → String
  | .notANumber .empty => "cannot parse integer from empty string"
  | .notANumber .invalidDigit => "invalid digit found in string"
  | .notANumber .tooLarge => "number too large to fit in target type"
  | .exceedsMaxLimit maxLimit => s!"exceeds ENTITY_ENGINE_MAX_LIMIT ({maxLimit})"

/-- A declaration that can not be accepted. -/
inductive ConfigError where
  | invalidName (name : String)
  | conflictingField (entity field : String)
  | multiplePrimary (entity first second : String)
  | conflictingEntity (name : String)
  | unknownEntity (name : String)
  | unknownField (entity field : String)
  | relationNameTaken (entity name : String)
  | selfLinked (entity : String)
  | indexWithoutFields (index : String)
  | conflictingIndex (index : String)
  | invalidOperator (key : String)
  | duplicateOperator (key : String)
  | missingEquality
  | handlerConflict (key : String)
  | handlerConfig (key message : String)
  | malformedEntity
  | formatWithoutHandler (entity : String)
  | primaryWithoutHandler (entity : String)
  | setting (key : String) (fault : SettingFault)
deriving DecidableEq, Repr

def ConfigError.message : ConfigError → String
  | .invalidName name => s!"invalid identifier '{name}'"
  | .conflictingField entity field =>
    s!"entity '{entity}': field '{field}' declared twice with different configuration"
  | .multiplePrimary entity first second =>
    s!"entity '{entity}': more than one primary field ({first}, {second})"
  | .conflictingEntity name =>
    s!"entity '{name}' already registered with a different configuration"
  | .unknownEntity name => s!"unknown entity '{name}'"
  | .unknownField entity field => s!"entity '{entity}' has no field '{field}'"
  | .relationNameTaken entity name =>
    s!"relation: entity '{entity}' already has a relation named '{name}'"
  | .selfLinked entity => s!"relation: many-to-many on '{entity}' needs two distinct entities"
  | .indexWithoutFields index => s!"index: index '{index}' has no fields"
  | .conflictingIndex index =>
    s!"index: index '{index}' already declared with a different definition"
  | .invalidOperator key => s!"invalid query expression '{key}': key must start with '$'"
  | .duplicateOperator key => s!"duplicate query expression '{key}'"
  | .missingEquality => "validator requires an '$eq' expression"
  | .handlerConflict key => s!"id handler '{key}' already registered with a different handler"
  | .handlerConfig key message => s!"id handler '{key}' rejected its config: {message}"
  | .malformedEntity => "entity document: members missing or of the wrong type"
  | .formatWithoutHandler entity =>
    s!"entity document: entity '{entity}' uses a custom primary format without an id handler"
  | .primaryWithoutHandler entity =>
    s!"entity document: entity '{entity}': custom primary field needs a handler key"
  | .setting key fault => s!"environment variable {key}: {fault.message}"

/-- A filter or query that can not be accepted. -/
inductive QueryError where
  | notAFieldName (field : String)
  | nullFilter (field : String)
  | noOperators (field : String)
  | unknownOperator (field operator : String)
  | rejectedValue (field operator : String) (value : Json)
  | boundsExpected (field operator : String)
  | reservedKey (key : String)
  | whereNotObject (got : Json)
  | whereMalformed
  | queryNotObject (got : Json)
  | malformedMember (key : String)
  | unknownField (entity field : String)
  | unknownRelation (entity relation : String)
  | notJoinable (relation : String)
  | untranslatable (operator : String)

def QueryError.message : QueryError → String
  | .notAFieldName field => s!"filter on '{field}': not a field name"
  | .nullFilter field => s!"filter on '{field}': null is not a valid filter value"
  | .noOperators field => s!"filter on '{field}': empty operator object"
  | .unknownOperator field operator =>
    s!"filter on '{field}': operator '{operator}' is not supported"
  | .rejectedValue field operator value =>
    s!"filter on '{field}': operator '{operator}' rejects value " ++ value.compact
  | .boundsExpected field operator =>
    s!"filter on '{field}': operator '{operator}' expects two bounds"
  | .reservedKey key => s!"'{key}' is reserved and not accepted as a filter key"
  | .whereNotObject got => "where must be an object or a JSON-encoded object: got " ++ got.compact
  | .whereMalformed => "where must be an object or a JSON-encoded object: not JSON text"
  | .queryNotObject got => "query 'query': expected an object, got " ++ got.compact
  | .malformedMember key => s!"query '{key}': of the wrong type"
  | .unknownField entity field => s!"entity '{entity}' has no field '{field}'"
  | .unknownRelation entity relation => s!"entity '{entity}' has no relation '{relation}'"
  | .notJoinable relation =>
    s!"relation '{relation}' can not be joined (only to-one relations are joinable)"
  | .untranslatable operator => s!"operator '{operator}' has no SQL translation"

/-- A value, a row or a write that breaks a rule. -/
inductive Violation where
  | mismatch (field expected : String) (got : Json)
  | notStorable (field : String)
  | required (field : String)
  | tooLong (field : String) (most : Nat)
  | tooShort (field : String) (least : Nat)
  | invalidPattern (field : String)
  | patternMissed (field : String)
  | belowMinimum (field : String) (minimum : Double.Extended)
  | aboveMaximum (field : String) (maximum : Double.Extended)
  | notARow (entity : String) (got : Json)
  | noSuchField (entity field : String)
  | notFillable (field : String)
  | unfilteredChange (entity : String)

def Violation.message : Violation → String
  | .mismatch field expected got => s!"{field} expects {expected}, got " ++ got.compact
  | .notStorable field => s!"{field} is virtual and can not be stored"
  | .required field => s!"{field} is required"
  | .tooLong field most => s!"{field} must be at most {most} characters"
  | .tooShort field least => s!"{field} must be at least {least} characters"
  | .invalidPattern field => s!"invalid pattern for {field}"
  | .patternMissed field => s!"{field} does not match required pattern"
  | .belowMinimum field minimum =>
    s!"{field} must be at least " ++ minimum.text
  | .aboveMaximum field maximum =>
    s!"{field} must be at most " ++ maximum.text
  | .notARow entity got => s!"{entity} expects an object, got " ++ got.compact
  | .noSuchField entity field => s!"{entity} has no field '{field}'"
  | .notFillable field => s!"{field} is not fillable"
  | .unfilteredChange entity => s!"refusing to change every {entity} row without a filter"

/-- A call that failed. -/
inductive DataError where
  | config (e : ConfigError)
  | query (e : QueryError)
  | invalid (v : Violation)
  | notFound (entity : String) (id : Json)
  | keyGeneration (entity message : String)
  | database (message : String)
  | statementFailed (index : Nat) (sql message : String)
  | unsupportedUrl (url : String)

/-- How the database's own words are reported. -/
def databaseMessage (message : String) : String :=
  s!"encountered unexpected or invalid data: {message}"

def DataError.message : DataError → String
  | .config e => e.message
  | .query e => e.message
  | .invalid v => s!"validation: {v.message}"
  | .notFound entity id => s!"not found: {entity} " ++ id.compact
  | .keyGeneration entity message => s!"id generation for '{entity}' failed: {message}"
  | .database message => s!"database: {databaseMessage message}"
  | .statementFailed index sql message =>
    s!"statement {index} failed ({sql}): {databaseMessage message}"
  | .unsupportedUrl url => s!"unsupported database url '{url}'"

/-- A stable code for the kind of failure. -/
def DataError.code : DataError → String
  | .config _ => "config_error"
  | .query _ => "query_error"
  | .invalid _ => "validation_error"
  | .notFound _ _ => "not_found"
  | .keyGeneration _ _ => "id_generation_error"
  | .database _ => "database_error"
  | .statementFailed _ _ _ => "database_error"
  | .unsupportedUrl _ => "config_error"

instance : Coe ConfigError DataError := ⟨.config⟩
instance : Coe QueryError DataError := ⟨.query⟩
instance : Coe Violation DataError := ⟨.invalid⟩

end EntityMapper
