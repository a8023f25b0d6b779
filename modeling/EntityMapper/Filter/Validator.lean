import EntityMapper.Filter.Basic
import EntityMapper.Filter.Operator
import EntityMapper.Text.Identifier

/-!
# Validators

A validator is a closed set of operators, `$eq` among them. `convert` brings a caller's filter to its
canonical form or names the first key that does not fit; `holds` decides whether a row satisfies a
canonical filter.
-/

namespace EntityMapper

/-- A closed set of operators. -/
structure Validator where
  operators : Dict Operator
  hasEq : (operators.get? "$eq").isSome

namespace Validator

/-- Adds an operator whose key is not taken. -/
def addOperator (operators : Dict Operator) (op : Operator) :
    Except ConfigError (Dict Operator) :=
  if operators.contains op.key then .error (.duplicateOperator op.key)
  else .ok (operators.insert op.key op)

/-- The validator with exactly these operators. -/
def ofOperators (operators : List Operator) : Except ConfigError Validator := do
  let all ← operators.foldlM addOperator []
  if h : (Dict.get? all "$eq").isSome then return ⟨all, h⟩ else throw .missingEquality

def default : Validator :=
  ⟨Dict.ofList (Operator.defaults.map fun op => (op.key, op)), by decide⟩

def operator? (v : Validator) (key : String) : Option Operator := v.operators.get? key

/-- The operator that a bare value stands for. -/
def equality (v : Validator) : Operator := (v.operators.get? "$eq").get v.hasEq

/-! ## Conversion -/

/-- A key is a field, or a relation and a field joined by a dot. -/
def checkKey (field : String) : Except QueryError Unit :=
  if field.toList.head? = some '$' then .error (.reservedKey field)
  else if Text.isPath field then .ok ()
  else .error (.notAFieldName field)

def checkOperand (v : Validator) (field : String) (entry : String × Json) :
    Except QueryError Unit :=
  match v.operator? entry.1 with
  | none => .error (.unknownOperator field entry.1)
  | some op =>
    if op.accepts entry.2 then .ok () else .error (.rejectedValue field entry.1 entry.2)

/-- The operators that the value of a field stands for. -/
def convertValue (v : Validator) (field : String) (value : Json) :
    Except QueryError (Dict Json) :=
  match value with
  | .null => .error (.nullFilter field)
  | .obj [] => .error (.noOperators field)
  | .obj operators => do
    operators.forM (v.checkOperand field)
    return operators
  | bare =>
    if v.equality.accepts bare then .ok [("$eq", bare)]
    else .error (.rejectedValue field "$eq" bare)

def convert (v : Validator) : FilterInput → Except QueryError Filter
  | [] => .ok []
  | (field, value) :: rest => do
    checkKey field
    match value with
    | none => convert v rest
    | some value =>
      let operators ← v.convertValue field value
      return (field, operators) :: (← convert v rest)

/-- The canonical form of a `where` document. -/
def convertJson (v : Validator) (doc : Json) : Except QueryError Filter := do
  v.convert (← FilterInput.ofJson doc)

/-! ## Matching -/

/-- The value at a path of keys; null where there is none. -/
def valueAt (subject : Json) (path : String) : Json :=
  ((Text.split '.' path).foldlM Json.get? subject).getD .null

/-- Whether the value satisfies an operand; an unknown operator is not satisfied. -/
def satisfies (v : Validator) (actual : Json) (entry : String × Json) : Bool :=
  match v.operator? entry.1 with
  | some op => op.evaluate entry.2 actual
  | none => false

/-- Whether the subject satisfies every predicate. -/
def holds (v : Validator) (f : Filter) (subject : Json) : Bool :=
  f.all fun (field, operators) => operators.all (v.satisfies (valueAt subject field))

/-- Whether the subject satisfies a caller's filter. -/
def validate (v : Validator) (input : FilterInput) (subject : Json) : Except QueryError Bool := do
  return v.holds (← v.convert input) subject

end Validator
end EntityMapper
