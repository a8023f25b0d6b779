import EntityMapper.Engine.Reading
import EntityMapper.Engine.Writing

/-!
# Answers as documents

What calls answer, as documents: the data, and with it the entity and the statement that was sent.
-/

namespace EntityMapper

open Document

def KeyOutcome.toJson : KeyOutcome → Json
  | .generated v => objectOf [("success", some (.bool true)), ("value", some v)]
  | .failed message => objectOf [("success", some (.bool false)), ("error", some (.str message))]

/-- The entity and the parts of the statement, with further members. -/
def describeCall (entity : String) (s : Statement) (more : List (String × Option Json)) : Json :=
  objectOf ([("entity", some (.str entity)), ("sql", some (.str s.sql)),
    ("parameters", some (.arr s.parameters))] ++ more)

namespace Written

def toJson (w : Written) : Json :=
  objectOf [("data", some w.data), ("meta", some (describeCall w.entity w.statement []))]

/-- What came of one row of several, by its place among them. -/
def outcome (index : Nat) : Except DataError Written → Json
  | .ok w =>
    objectOf [("index", some (.int index)), ("success", some (.bool true)), ("data", some w.data)]
  | .error e =>
    objectOf [("index", some (.int index)), ("success", some (.bool false)),
      ("error", some (objectOf [("code", some (.str e.code)), ("message", some (.str e.message))]))]

def outcomes (results : List (Except DataError Written)) : Json :=
  .arr (results.mapIdx outcome)

end Written

/-- The rows with the limit, the offset, their number and, when it was counted, the number of rows on
all pages. -/
def Found.toJson (f : Found) : Json :=
  objectOf [("data", some (.arr f.data)),
    ("meta", some (describeCall f.entity f.statement
      [("limit", some (.int f.limit)), ("offset", some (.int f.offset)),
        ("count", some (.int f.data.length)), ("total", f.total.map fun n => .int n)]))]

end EntityMapper
