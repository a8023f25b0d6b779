import EntityMapper.Json.Basic
import EntityMapper.Text.Decimal

/-!
# Reading JSON numbers

Digits without point or exponent are an integer when they fit 64 bits, signed or unsigned; all other
numbers, and `-0`, are binary64. Such a number is read in steps: the digits that fit 64 bits are
rounded to a binary64 number, which is then multiplied or divided by a power of ten, each step being
rounded. A number beyond the finite range is refused.
-/

namespace EntityMapper.Json

open Text.Decimal

/-- Digits that fit an unsigned 64-bit integer, and the power of ten they are to be scaled by. -/
structure Significand where
  digits : Nat
  scale : Int

/-- The greatest unsigned 64-bit integer. -/
def unsignedLimit : Nat := 18446744073709551615

/-- Takes the digits of the integer part. Once they no longer fit, each further one only scales. -/
def Significand.whole : Nat → List Char → Significand
  | digits, [] => ⟨digits, 0⟩
  | digits, c :: cs =>
    let next := 10 * digits + (digit? c).getD 0
    if next ≤ unsignedLimit then whole next cs else ⟨digits, (cs.length + 1 : Nat)⟩

/-- Takes the digits after the point. Once they no longer fit, the rest has no effect. -/
def Significand.fraction (s : Significand) : List Char → Significand
  | [] => s
  | c :: cs =>
    let next := 10 * s.digits + (digit? c).getD 0
    if next ≤ unsignedLimit then fraction ⟨next, s.scale - 1⟩ cs else s

/-- A power of ten with an exponent up to 308. -/
def tenTo (n : Nat) : Double := (Double.ofDecimal? false 1 n).getD (.zero false)

/-- Scales by a power of ten. A power below the table's range is taken off in steps of 308 while the
number is not zero; one above it is beyond the finite range. -/
def scaleBy : Nat → Double → Int → Option Double
  | 0, x, _ => some x
  | fuel + 1, x, scale =>
    if scale.natAbs ≤ 308 then
      if 0 ≤ scale then x.mul? (tenTo scale.natAbs) else x.div? (tenTo scale.natAbs)
    else if x.isZero then some x
    else if 0 ≤ scale then none
    else (x.div? (tenTo 308)).bind fun y => scaleBy fuel y (scale + 308)

/-- The number of a significand and its sign. After three steps of 308 nothing is left. -/
def Significand.toDouble? (s : Significand) (negative : Bool) : Option Double := do
  let x ← Double.ofRatio? false s.digits 1
  let y ← scaleBy 5 x s.scale
  return if negative then y.neg else y

/-- The exponent's digits with their sign, added to a scale. -/
def addExponent (scale : Int) (negative : Bool) (ds : List Char) : Int :=
  if negative then scale - valueOf ds else scale + valueOf ds

/-- The digits at the front of a text, which must be there. -/
def digitRun? (cs : List Char) : Option (List Char × List Char) :=
  match cs.takeWhile isDigit with
  | [] => none
  | ds => some (ds, cs.dropWhile isDigit)

/-- The exponent part, if there is one, and the text after it. -/
def exponentPart? (scale : Int) (cs : List Char) : Option (Int × List Char) :=
  let marked := match cs with
    | 'e' :: rest => some rest
    | 'E' :: rest => some rest
    | _ => none
  match marked with
  | none => some (scale, cs)
  | some rest =>
    let (negative, rest) := match rest with
      | '-' :: more => (true, more)
      | '+' :: more => (false, more)
      | more => (false, more)
    (digitRun? rest).map fun (ds, after) => (addExponent scale negative ds, after)

/-- An integer with its sign, or the number it becomes when it does not fit. -/
def integer? (negative : Bool) (s : Significand) : Option Json :=
  if s.scale ≠ 0 then (s.toDouble? negative).map .float
  else if !negative then some (.int s.digits)
  else if s.digits = 0 ∨ 9223372036854775808 < s.digits then (s.toDouble? true).map .float
  else some (.int (-s.digits))

/-- A number without its sign, taken from the front of a text. The integer part has no leading
zero. -/
def unsignedNumber? (negative : Bool) (cs : List Char) : Option (Json × List Char) := do
  let (ds, rest) ← digitRun? cs
  if ds.length > 1 ∧ ds.head? = some '0' then none
  let s := Significand.whole 0 ds
  match rest with
  | '.' :: more =>
    let (fs, more) ← digitRun? more
    let s := s.fraction fs
    let (scale, after) ← exponentPart? s.scale more
    let x ← Significand.toDouble? ⟨s.digits, scale⟩ negative
    return (.float x, after)
  | _ =>
    let (scale, after) ← exponentPart? s.scale rest
    if after.length = rest.length then
      return (← integer? negative s, after)
    else
      let x ← Significand.toDouble? ⟨s.digits, scale⟩ negative
      return (.float x, after)

def number? : List Char → Option (Json × List Char)
  | '-' :: cs => unsignedNumber? true cs
  | cs => unsignedNumber? false cs

end EntityMapper.Json
