import EntityMapper.Calendar.Reading
import EntityMapper.Double.Reading
import EntityMapper.Error
import EntityMapper.Field.Basic
import EntityMapper.Text.Blank
import EntityMapper.Text.Hex

/-!
# Values of fields

Which values a field takes, and the form each is stored in. The rules are those all dialects share:
`check` gives the stored form of a value or says what was expected. Null is a value of every field.
-/

namespace EntityMapper

/-- The greatest integer that no other one has the same binary64 number as. -/
def safeIntegerLimit : Nat := 9007199254740991

/-- A binary64 number that is an integer small enough to be told from its neighbours becomes that
integer; everything else stays. -/
def Json.normalizeNumber : Json → Json
  | .float x =>
    match x.toInt? with
    | some n => if n.natAbs ≤ safeIntegerLimit then .int n else .float x
    | none => .float x
  | j => j

/-- Bytes as a value: their hexadecimal text. -/
def Json.ofBytes (bytes : List UInt8) : Json := .str (String.ofList (Text.Hex.encode bytes))

namespace Field

/-- The complaint that a value is not what the field takes. -/
def refuse (f : Field) (expected : String) (got : Json) : Except Violation Json :=
  .error (.mismatch f.name expected got)

def checkText (f : Field) : Json → Except Violation Json
  | .str s => .ok (.str s)
  | other => f.refuse "text" other

/-- A number, or text of one. -/
def checkNumber (f : Field) : Json → Except Violation Json
  | .int n => .ok (.int n)
  | .float x => .ok (.float x)
  | .str s =>
    match (Double.read? (Text.trim s)).bind Double.Extended.finite? with
    | some x => .ok (Json.normalizeNumber (.float x))
    | none => f.refuse "a number" (.str s)
  | other => f.refuse "a number" other

/-- A truth value, or one of its written forms. -/
def checkBoolean (f : Field) : Json → Except Violation Json
  | .bool b => .ok (.bool b)
  | .int n =>
    if n = 0 then .ok (.bool false)
    else if n = 1 then .ok (.bool true)
    else f.refuse "a boolean" (.int n)
  | .str s =>
    if s = "true" ∨ s = "1" then .ok (.bool true)
    else if s = "false" ∨ s = "0" then .ok (.bool false)
    else f.refuse "a boolean" (.str s)
  | other => f.refuse "a boolean" other

/-- A day, stored as year, month and day. -/
def checkDate (f : Field) : Json → Except Violation Json
  | .str s =>
    match Calendar.date? s with
    | some d => .ok (.str (String.ofList d.text))
    | none => f.refuse "a YYYY-MM-DD date" (.str s)
  | other => f.refuse "a date string" other

/-- A moment, stored in UTC with milliseconds. -/
def checkDatetime (f : Field) : Json → Except Violation Json
  | .str s =>
    match Calendar.moment? s with
    | some m => .ok (.str (String.ofList m.text))
    | none => f.refuse "an RFC 3339 datetime" (.str s)
  | other => f.refuse "a datetime string" other

/-- An integer that is a byte. -/
def byte? (j : Json) : Option UInt8 := (j.natUpTo? 255).map UInt8.ofNat

/-- Bytes, as hexadecimal text or as a list; stored as hexadecimal text. -/
def checkBlob (f : Field) : Json → Except Violation Json
  | .str s =>
    match Text.Hex.decode? s.toList with
    | some bytes => .ok (.ofBytes bytes)
    | none => f.refuse "hex-encoded bytes" (.str s)
  | .arr items =>
    match items.mapM byte? with
    | some bytes => .ok (.ofBytes bytes)
    | none => f.refuse "an array of bytes" (.arr items)
  | other => f.refuse "bytes" other

/-- A key counted by the database: an integer, or text of one. -/
def checkIntegerKey (f : Field) : Json → Except Violation Json
  | .int n => .ok (.int n)
  | .str s =>
    match Text.Decimal.readInt64? (Text.trim s) with
    | some n => .ok (.int n)
    | none => f.refuse "an integer key" (.str s)
  | other => f.refuse "an integer key" other

/-- A key of another format: text that is not empty, or a number, which is stored as its text. -/
def checkTextKey (f : Field) : Json → Except Violation Json
  | .str s => if s = "" then f.refuse "a string key" (.str s) else .ok (.str s)
  | .int n => .ok (.str (Json.int n).compact)
  | .float x => .ok (.str (Json.float x).compact)
  | other => f.refuse "a string key" other

def checkKey (f : Field) (format : KeyFormat) (value : Json) : Except Violation Json :=
  match format with
  | .integer => f.checkIntegerKey value
  | _ => f.checkTextKey value

/-- The stored form of a value other than null. -/
def checkPresent (f : Field) (value : Json) : Except Violation Json :=
  match f.kind with
  | .text _ _ _ => f.checkText value
  | .number _ _ => f.checkNumber value
  | .boolean => f.checkBoolean value
  | .date => f.checkDate value
  | .datetime => f.checkDatetime value
  | .json => .ok value
  | .blob => f.checkBlob value
  | .primary format _ => f.checkKey format value
  | .relation key => f.checkKey key.format value
  | .virtual => .error (.notStorable f.name)

def check (f : Field) (value : Json) : Except Violation Json :=
  match value with
  | .null => .ok .null
  | present => f.checkPresent present

end Field
end EntityMapper
