/-!
# Binary64 numbers

A finite binary64 number as its sign, mantissa and exponent, kept canonical, so that each number has
one form (zero has two, which differ in sign). Order and equality go by the exact value; rounding is
to the nearest number, a half to the even mantissa.
-/

namespace EntityMapper

/-- The least mantissa that uses all 53 bits, `2 ^ 52`. -/
def Double.leastNormal : Nat := 4503599627370496

/-- `mantissa · 2 ^ exponent` as binary64 holds it: 53 bits, all used unless the exponent is the
least one. -/
def Double.Canonical (mantissa : Nat) (exponent : Int) : Prop :=
  mantissa < 2 * leastNormal ∧ -1074 ≤ exponent ∧ exponent ≤ 971
    ∧ (leastNormal ≤ mantissa ∨ exponent = -1074)

instance (mantissa : Nat) (exponent : Int) : Decidable (Double.Canonical mantissa exponent) :=
  inferInstanceAs (Decidable (_ ∧ _))

structure Double where
  negative : Bool
  mantissa : Nat
  exponent : Int
  canonical : Double.Canonical mantissa exponent

namespace Double

def zero (negative : Bool) : Double := ⟨negative, 0, -1074, by decide⟩

instance : Inhabited Double := ⟨zero false⟩

def isZero (x : Double) : Bool := x.mantissa == 0

/-- The same magnitude with the other sign. -/
def neg (x : Double) : Double := { x with negative := !x.negative }

/-- The exact value, counted in units of the least positive number, `2 ^ -1074`. -/
def scaled (x : Double) : Int :=
  let units : Nat := x.mantissa * Nat.pow 2 (x.exponent + 1074).toNat
  if x.negative then -(units : Int) else units

/-- Equal in value, so the two zeros are equal. -/
instance : BEq Double := ⟨fun x y => x.scaled == y.scaled⟩

def compare (x y : Double) : Ordering := Ord.compare x.scaled y.scaled

def lt (x y : Double) : Bool := x.scaled < y.scaled

/-- `num / den` rounded to the nearest integer, a half to the even one. -/
def roundDiv (num den : Nat) : Nat :=
  let q := num / den
  let r := num % den
  if 2 * r < den ∨ (2 * r = den ∧ q % 2 = 0) then q else q + 1

/-- The integer nearest to `num / (den · 2 ^ exponent)`. -/
def mantissaAt (num den : Nat) (exponent : Int) : Nat :=
  if 0 ≤ exponent then roundDiv num (den * Nat.pow 2 exponent.toNat)
  else roundDiv (num * Nat.pow 2 (-exponent).toNat) den

/-- The number with this sign, mantissa and exponent, when they are canonical. -/
def ofParts? (negative : Bool) (mantissa : Nat) (exponent : Int) : Option Double :=
  if h : Canonical mantissa exponent then some ⟨negative, mantissa, exponent, h⟩ else none

/-- The number nearest to `num / den`, or nothing beyond the finite range. The quotient lies between
`2 ^ (k - 1)` and `2 ^ (k + 1)` for the difference `k` of the binary logarithms, so one of three
exponents leaves 53 bits after rounding. -/
def ofRatio? (negative : Bool) (num den : Nat) : Option Double :=
  if num = 0 then some (zero negative)
  else
    let least := max ((num.log2 : Int) - den.log2 - 53) (-1074)
    [least, least + 1, least + 2].findSome? fun e => ofParts? negative (mantissaAt num den e) e

/-- The number nearest to an integer. -/
def ofInt? (n : Int) : Option Double := ofRatio? (n < 0) n.natAbs 1

/-- The number nearest to `num · 10 ^ exponent`. -/
def ofDecimal? (negative : Bool) (num : Nat) (exponent : Int) : Option Double :=
  if 0 ≤ exponent then ofRatio? negative (num * Nat.pow 10 exponent.toNat) 1
  else ofRatio? negative num (Nat.pow 10 (-exponent).toNat)

/-- The number one in units of the least positive number. -/
def one : Nat := Nat.pow 2 1074

/-- The integer a number is, when it is one. -/
def toInt? (x : Double) : Option Int :=
  if x.scaled % one = 0 then some (x.scaled / one) else none

private def powerOfTwo (e : Int) : Nat × Nat :=
  if 0 ≤ e then (Nat.pow 2 e.toNat, 1) else (1, Nat.pow 2 (-e).toNat)

/-- The rounded product, or nothing beyond the finite range. -/
def mul? (x y : Double) : Option Double :=
  let (num, den) := powerOfTwo (x.exponent + y.exponent)
  ofRatio? (x.negative != y.negative) (x.mantissa * y.mantissa * num) den

/-- The rounded quotient by a number other than zero, or nothing beyond the finite range. -/
def div? (x y : Double) : Option Double :=
  let (num, den) := powerOfTwo (x.exponent - y.exponent)
  ofRatio? (x.negative != y.negative) (x.mantissa * num) (y.mantissa * den)

end Double
end EntityMapper
