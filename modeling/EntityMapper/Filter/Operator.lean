import EntityMapper.Error
import EntityMapper.Pattern.Parser
import EntityMapper.Text.Wildcard

/-!
# Filter operators

An operator has a key that begins with `$`, accepts some values as operands, and decides whether a
subject's value satisfies an operand. Numbers are compared as binary64 numbers, text by code point;
a truth value equals the integer 0 or 1 it stands for.
-/

namespace EntityMapper

structure Operator where
  key : String
  /-- Whether a value may be the operand. -/
  accepts : Json → Bool
  /-- Whether the second value, the subject's, satisfies the first, the operand. -/
  evaluate : Json → Json → Bool

namespace Operator

/-- An operator with a valid key: `$` and at least one more character. -/
def named (key : String) (accepts : Json → Bool) (evaluate : Json → Json → Bool) :
    Except ConfigError Operator :=
  match key.toList with
  | '$' :: _ :: _ => .ok ⟨key, accepts, evaluate⟩
  | _ => .error (.invalidOperator key)

/-! ## Values -/

/-- Text, a number or a truth value. -/
def isPrimitive : Json → Bool
  | .str _ | .int _ | .float _ | .bool _ => true
  | _ => false

/-- Text or a number. -/
def isComparable : Json → Bool
  | .str _ | .int _ | .float _ => true
  | _ => false

/-- A truth value, or one of the integers 0 and 1. -/
def isFlag : Json → Bool
  | .bool _ => true
  | .int n => n == 0 || n == 1
  | _ => false

def isListOf (p : Json → Bool) : Json → Bool
  | .arr items => items.all p
  | _ => false

def isPairOf (p : Json → Bool) : Json → Bool
  | .arr [low, high] => p low && p high
  | _ => false

/-- True, or a number other than zero. -/
def truthy : Json → Bool
  | .bool b => b
  | .int n => n != 0
  | .float x => !x.isZero
  | _ => false

/-- Whether a number is the integer a truth value stands for. -/
def isFlagOf (b : Bool) : Json → Bool
  | .int n => n == if b then 1 else 0
  | _ => false

/-- Equality of values in filters. -/
def looseEq (a b : Json) : Bool :=
  match a, b with
  | .bool x, .int n => isFlagOf x (.int n)
  | .int n, .bool x => isFlagOf x (.int n)
  | _, _ =>
    match a.double?, b.double? with
    | some x, some y => x == y
    | _, _ => a == b

/-- The order of text by code point. -/
def compareText (s t : String) : Ordering := if s < t then .lt else if s = t then .eq else .gt

/-- The order of two numbers or two texts. -/
def compareValues (a b : Json) : Option Ordering :=
  match a, b with
  | .str s, .str t => some (compareText s t)
  | _, _ =>
    match a.double?, b.double? with
    | some x, some y => some (x.compare y)
    | _, _ => none

/-- `a` and `b` compare and `a` is not less. -/
def atLeast (a b : Json) : Bool :=
  match compareValues a b with
  | some .gt | some .eq => true
  | _ => false

/-- `a` and `b` compare and `a` is not greater. -/
def atMost (a b : Json) : Bool :=
  match compareValues a b with
  | some .lt | some .eq => true
  | _ => false

/-- Whether a value equals an item of a list; no value is in anything else. -/
def memberOf (list value : Json) : Bool :=
  match list with
  | .arr items => items.any (looseEq value ·)
  | _ => false

def nonMemberOf (list value : Json) : Bool :=
  match list with
  | .arr items => !items.any (looseEq value ·)
  | _ => false

def between (bounds value : Json) : Bool :=
  match bounds with
  | .arr [low, high] => atLeast value low && atMost value high
  | _ => false

/-- Whether a text has an instance of a regular expression in it; no text has one of an expression that
is refused. -/
def matchesExpression (expression text : String) : Bool :=
  match Pattern.parse? expression with
  | some p => p.occursIn text
  | none => false

def like (pattern value : Json) : Bool :=
  match pattern, value with
  | .str p, .str s => matchesExpression (Text.Wildcard.expression p) s
  | _, _ => false

/-! ## The default operators -/

def eq : Operator := ⟨"$eq", isPrimitive, fun e a => looseEq a e⟩

/-- The operators that every validator has unless others are chosen. -/
def defaults : List Operator :=
  [ eq
  , ⟨"$ne", isPrimitive, fun e a => !looseEq a e⟩
  , ⟨"$gt", isComparable, fun e a => compareValues a e == some .gt⟩
  , ⟨"$gte", isComparable, fun e a => atLeast a e⟩
  , ⟨"$lt", isComparable, fun e a => compareValues a e == some .lt⟩
  , ⟨"$lte", isComparable, fun e a => atMost a e⟩
  , ⟨"$isnull", isFlag, fun e a => truthy e == a.isNull⟩
  , ⟨"$notnull", isFlag, fun e a => truthy e != a.isNull⟩
  , ⟨"$in", isListOf isPrimitive, memberOf⟩
  , ⟨"$notin", isListOf isPrimitive, nonMemberOf⟩
  , ⟨"$between", isPairOf isComparable, between⟩
  , ⟨"$like", Json.isStr, like⟩ ]

def default? (key : String) : Option Operator := defaults.find? (·.key == key)

end Operator
end EntityMapper
