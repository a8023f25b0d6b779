import EntityMapper.Double.Basic

/-!
# Binary64 numbers that need not be finite

The finite numbers, the two infinities and the undefined number. The undefined number is less than
none, greater than none and equal to none, not even to itself.
-/

namespace EntityMapper.Double

inductive Extended where
  | finite (x : Double)
  | infinite (negative : Bool)
  | undefined

namespace Extended

def finite? : Extended → Option Double
  | .finite x => some x
  | _ => none

def same : Extended → Extended → Bool
  | .finite x, .finite y => x == y
  | .infinite negative, .infinite negative' => negative == negative'
  | _, _ => false

instance : BEq Extended := ⟨same⟩

def lt : Extended → Extended → Bool
  | .finite x, .finite y => x.lt y
  | .finite _, .infinite negative => !negative
  | .infinite negative, .finite _ => negative
  | .infinite negative, .infinite negative' => negative && !negative'
  | _, _ => false

end Extended
end EntityMapper.Double
