import EntityMapper.Dict
import EntityMapper.Double.Basic

/-!
# JSON values

Integers and binary64 numbers are kept apart: `5` and `5.0` are different values. An object's
members are a dictionary, so they are in the order of their keys and the last of two members with
one key counts.
-/

namespace EntityMapper

inductive Json where
  | null
  | bool (b : Bool)
  | int (n : Int)
  | float (x : Double)
  | str (s : String)
  | arr (items : List Json)
  | obj (members : List (String × Json))

instance : Inhabited Json := ⟨.null⟩

namespace Json

mutual
/-- The same value; numbers are the same when both are integers or both are binary64 numbers, and
their values are equal. -/
def same : Json → Json → Bool
  | .null, .null => true
  | .bool a, .bool b => a == b
  | .int m, .int n => m == n
  | .float x, .float y => x == y
  | .str s, .str t => s == t
  | .arr xs, .arr ys => sameItems xs ys
  | .obj xs, .obj ys => sameMembers xs ys
  | _, _ => false

def sameItems : List Json → List Json → Bool
  | [], [] => true
  | x :: xs, y :: ys => same x y && sameItems xs ys
  | _, _ => false

def sameMembers : List (String × Json) → List (String × Json) → Bool
  | [], [] => true
  | (k, x) :: xs, (l, y) :: ys => k == l && same x y && sameMembers xs ys
  | _, _ => false
end

instance : BEq Json := ⟨same⟩

def isNull : Json → Bool
  | .null => true
  | _ => false

def isStr : Json → Bool
  | .str _ => true
  | _ => false

def str? : Json → Option String
  | .str s => some s
  | _ => none

def arr? : Json → Option (List Json)
  | .arr items => some items
  | _ => none

def obj? : Json → Option (Dict Json)
  | .obj members => some members
  | _ => none

/-- A member of an object; nothing else has members. -/
def get? : Json → String → Option Json
  | .obj members, key => Dict.get? members key
  | _, _ => none

/-- A number as the nearest binary64 number. -/
def double? : Json → Option Double
  | .int n => Double.ofInt? n
  | .float x => some x
  | _ => none

/-- An integer from zero up to `limit`. -/
def natUpTo? (limit : Nat) : Json → Option Nat
  | .int n => if 0 ≤ n ∧ n ≤ limit then some n.toNat else none
  | _ => none

def int64? : Json → Option Int
  | .int n => if -9223372036854775808 ≤ n ∧ n ≤ 9223372036854775807 then some n else none
  | _ => none

end Json
end EntityMapper
