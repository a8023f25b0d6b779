import EntityMapper.Dialect
import EntityMapper.Filter.Basic
import EntityMapper.Sql.Buffer
import EntityMapper.Sql.Scope

/-!
# Conditions

The conditions that filters become in a statement. They are joined by AND, so a row is kept when each
of them is true.
-/

namespace EntityMapper.Sql

/-- A value with the field it is typed for. -/
structure Operand where
  value : Json
  field : Option Field

/-- Binds the value; gives its placeholder. -/
def Operand.text (d : Dialect) (o : Operand) : Building String := do
  let index ← Building.push o.value
  return d.placeholder index o.field

inductive Comparison where
  | eq
  | gt
  | gte
  | lt
  | lte
deriving DecidableEq, Repr

def Comparison.symbol : Comparison → String
  | .eq => "="
  | .gt => ">"
  | .gte => ">="
  | .lt => "<"
  | .lte => "<="

inductive Condition where
  | compare (c : Column) (op : Comparison) (o : Operand)
  /-- Null differs from every value. -/
  | differs (c : Column) (o : Operand)
  | isNull (c : Column) (negated : Bool)
  /-- Among some values, of which there is at least one. -/
  | member (c : Column) (negated : Bool) (os : List Operand)
  | constant (truth : Bool)
  | between (c : Column) (low high : Operand)
  /-- Columns of other types are matched as text. -/
  | like (c : Column) (asText : Bool) (pattern : Operand)

namespace Condition

def text (d : Dialect) : Condition → Building String
  | compare c op o => do
    let placeholder ← o.text d
    return c.text ++ " " ++ op.symbol ++ " " ++ placeholder
  | differs c o => do
    let placeholder ← o.text d
    return "(" ++ c.text ++ " <> " ++ placeholder ++ " OR " ++ c.text ++ " IS NULL)"
  | isNull c negated => return c.text ++ (if negated then " IS NOT NULL" else " IS NULL")
  | member c negated os => do
    let placeholders ← os.mapM (Operand.text d)
    return c.text ++ (if negated then " NOT IN (" else " IN (") ++ ", ".intercalate placeholders ++ ")"
  | constant truth => return if truth then "1 = 1" else "1 = 0"
  | between c low high => do
    let least ← low.text d
    let most ← high.text d
    return c.text ++ " BETWEEN " ++ least ++ " AND " ++ most
  | like c asText pattern => do
    let placeholder ← pattern.text d
    return (if asText then "CAST(" ++ c.text ++ " AS text)" else c.text) ++ " LIKE " ++ placeholder

/-- Whether a flag asks for what its operator names. -/
def isSet : Json → Bool
  | .bool b => b
  | .int n => n == 1
  | _ => false

/-- A value encoded for a field. -/
def operand (d : Dialect) (f : Field) (value : Json) : Except DataError Operand :=
  match d.encode f value with
  | .ok v => .ok ⟨v, some f⟩
  | .error e => .error e

def comparison (d : Dialect) (c : Column) (f : Field) (op : Comparison) (value : Json) :
    Except DataError Condition := do
  return .compare c op (← operand d f value)

/-- Membership in a list; nothing is in an empty one. -/
def membership (d : Dialect) (c : Column) (f : Field) (negated : Bool) (value : Json) :
    Except DataError Condition := do
  match value.arr?.getD [] with
  | [] => return .constant negated
  | items => return .member c negated (← items.mapM (operand d f))

/-- The pattern of SQL for a pattern of filters. -/
def likePattern (value : Json) : Json :=
  .str (String.ofList (((value.str?).getD "").toList.map fun c => if c = '*' then '%' else c))

def isText (f : Field) : Bool :=
  match f.kind with
  | .text _ _ _ => true
  | _ => false

/-- The condition of an operator and its operand on a column. -/
def ofOperator (d : Dialect) (c : Column) (f : Field) (op : String) (value : Json) :
    Except DataError Condition :=
  match op with
  | "$eq" => comparison d c f .eq value
  | "$ne" => do return .differs c (← operand d f value)
  | "$gt" => comparison d c f .gt value
  | "$gte" => comparison d c f .gte value
  | "$lt" => comparison d c f .lt value
  | "$lte" => comparison d c f .lte value
  | "$isnull" => .ok (.isNull c !(isSet value))
  | "$notnull" => .ok (.isNull c (isSet value))
  | "$in" => membership d c f false value
  | "$notin" => membership d c f true value
  | "$between" =>
    match value with
    | .arr [low, high] => do return .between c (← operand d f low) (← operand d f high)
    | _ => .error (QueryError.boundsExpected f.name op)
  | "$like" => .ok (.like c (!isText f) ⟨likePattern value, none⟩)
  | other => .error (QueryError.untranslatable other)

def ofEntry (d : Dialect) (s : Scope) (entry : String × Dict Json) :
    Except DataError (List Condition) :=
  match s.resolve entry.1 with
  | .error e => .error e
  | .ok (c, f) => entry.2.mapM fun (op, value) => ofOperator d c f op value

def ofFilter (d : Dialect) (s : Scope) (filter : Filter) : Except DataError (List Condition) := do
  return (← filter.mapM (ofEntry d s)).flatten

/-- The conditions as they follow the tables. -/
def whereText (d : Dialect) (cs : List Condition) : Building String := do
  let parts ← cs.mapM (text d)
  return if parts.isEmpty then "" else " WHERE " ++ " AND ".intercalate parts

end Condition
end EntityMapper.Sql
