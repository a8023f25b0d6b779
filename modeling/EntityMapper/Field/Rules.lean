import EntityMapper.Double.Reading
import EntityMapper.Error
import EntityMapper.Field.Basic
import EntityMapper.Pattern.Parser
import EntityMapper.Text.Blank

/-!
# Rules of fields

Length and pattern of text, and the range of numbers. Whether a value is of the field's type at all
is not decided here; a value of another type breaks no rule.
-/

namespace EntityMapper.Field

/-- A rule that holds or is broken in one way. -/
def demand (holds : Bool) (v : Violation) : Except Violation Unit :=
  if holds then .ok () else .error v

/-- Text has at most and at least so many characters, and an instance of the pattern in it. -/
def validateText (patterns : Pattern.Reader) (name : String) (most least : Option Nat)
    (pattern : Option String) (s : String) : Except Violation Unit := do
  if let some n := most then demand (s.length ≤ n) (.tooLong name n)
  if let some n := least then demand (n ≤ s.length) (.tooShort name n)
  if let some text := pattern then
    match patterns text with
    | none => throw (.invalidPattern name)
    | some test => demand (test s) (.patternMissed name)

/-- The number that a value is or that its text denotes. -/
def numberOf? : Json → Option Double.Extended
  | .int n => (Double.ofInt? n).map .finite
  | .float x => some (.finite x)
  | .str s => Double.read? (Text.trim s)
  | _ => none

/-- A number is not below the minimum and not above the maximum. -/
def validateNumber (name : String) (minimum maximum : Option Double.Extended) (r : Double.Extended) :
    Except Violation Unit := do
  if let some x := minimum then demand (!r.lt x) (.belowMinimum name x)
  if let some x := maximum then demand (!x.lt r) (.aboveMaximum name x)

/-- The rules for a value; null breaks none. -/
def validate (patterns : Pattern.Reader) (f : Field) (value : Json) : Except Violation Unit :=
  match f.kind, value with
  | .text most least pattern, .str s => validateText patterns f.name most least pattern s
  | .number minimum maximum, v =>
    match numberOf? v with
    | some r => validateNumber f.name minimum maximum r
    | none => .ok ()
  | _, _ => .ok ()

/-- The rules for a value, with the rule that a required field is not null. -/
def validateValue (patterns : Pattern.Reader) (f : Field) (value : Json) :
    Except Violation Unit := do
  demand (!(f.required && value.isNull)) (.required f.name)
  f.validate patterns value

end EntityMapper.Field
