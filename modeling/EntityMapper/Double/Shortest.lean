import EntityMapper.Double.Extended
import EntityMapper.Text.Decimal

/-!
# The shortest decimal text of a binary64 number

Of all decimals that round to a number, `shortest` gives one with the fewest digits, and of those
the nearest; an exact tie goes to the even last digit. A `Layout` says how the digits are laid out.
-/

namespace EntityMapper.Double

/-- The values that round to a positive number, in units of `2 ^ -1076`: from `low` to `high`, the
ends included for an even mantissa. Below a power of two the gap is half as wide. -/
structure Neighbourhood where
  low : Nat
  value : Nat
  high : Nat
  closed : Bool

def neighbourhood (x : Double) : Neighbourhood :=
  let unit := Nat.pow 2 (x.exponent + 1074).toNat
  let value := 4 * x.mantissa * unit
  let below := if x.mantissa = leastNormal ∧ x.exponent ≠ -1074 then unit else 2 * unit
  { low := value - below, value, high := value + 2 * unit, closed := x.mantissa % 2 = 0 }

namespace Neighbourhood

/-- Whether the decimal `d · 10 ^ exponent` rounds to the number. -/
def holds (n : Neighbourhood) (d : Nat) (exponent : Int) : Bool :=
  let lhs := d * Nat.pow 10 exponent.toNat * Nat.pow 2 1076
  let scale := Nat.pow 10 (-exponent).toNat
  if n.closed then n.low * scale ≤ lhs && lhs ≤ n.high * scale
  else n.low * scale < lhs && lhs < n.high * scale

/-- The value in units of `10 ^ exponent`, as a ratio of naturals. -/
def ratio (n : Neighbourhood) (exponent : Int) : Nat × Nat :=
  (n.value * Nat.pow 10 (-exponent).toNat, Nat.pow 2 1076 * Nat.pow 10 exponent.toNat)

/-- The exponent of the leading digit: the value is at least ten to this power and less than ten to
the next. The first guess, from the binary logarithm, is at most one off. -/
def leading (n : Neighbourhood) : Int :=
  let guess : Int := ((n.value.log2 : Int) - 1076) * 30103 / 100000
  let atLeast (e : Int) : Bool := let (num, den) := n.ratio e; den ≤ num
  if atLeast (guess + 1) then guess + 1 else if atLeast guess then guess else guess - 1

/-- On the grid of multiples of `10 ^ exponent`, the neighbour of the value that rounds back to the
number: the nearer of two, the even one on a tie. -/
def onGrid? (n : Neighbourhood) (exponent : Int) : Option Nat :=
  let (num, den) := n.ratio exponent
  let d := num / den
  match n.holds d exponent, n.holds (d + 1) exponent with
  | true, true => some (roundDiv num den)
  | true, false => some d
  | false, true => some (d + 1)
  | false, false => none

/-- The first of the grids with `count` digits and more that has such a neighbour. -/
def firstGrid (n : Neighbourhood) : Nat → Int → Nat × Int
  | 0, exponent => ((n.ratio exponent).1 / (n.ratio exponent).2, exponent)
  | more + 1, exponent =>
    match n.onGrid? exponent with
    | some d => (d, exponent)
    | none => firstGrid n more (exponent - 1)

end Neighbourhood

/-- A decimal `digits · 10 ^ exponent` of fewest digits that rounds to a number other than zero. -/
def shortest (x : Double) : Nat × Int :=
  let n := x.neighbourhood
  n.firstGrid 17 n.leading

/-- How digits become text. -/
structure Layout where
  /-- Without an exponent while the leading digit's exponent is at least the first and less than
  the second; always, when absent. -/
  positional : Option (Int × Int)
  /-- An integer is written with a zero after the point. -/
  pointZero : Bool

/-- The digits without the zeros at their end; a single zero stays. -/
def dropZeros (cs : List Char) : List Char :=
  match (cs.reverse.dropWhile (· == '0')).reverse with
  | [] => ['0']
  | ds => ds

/-- The digits of an integer part and a fraction, `exponent` being that of the leading digit. -/
def Layout.positionalText (l : Layout) (ds : List Char) (exponent : Int) : List Char :=
  if exponent < 0 then
    '0' :: '.' :: (List.replicate (-exponent - 1).toNat '0' ++ ds)
  else
    let places := exponent.toNat + 1
    let whole := ds.take places ++ List.replicate (places - ds.length) '0'
    match ds.drop places, l.pointZero with
    | [], true => whole ++ ['.', '0']
    | [], false => whole
    | fraction, _ => whole ++ '.' :: fraction

/-- One digit, the others after a point, and the exponent with its sign. -/
def exponentText (ds : List Char) (exponent : Int) : List Char :=
  let mantissa := match ds with
    | d :: rest => if rest.isEmpty then [d] else d :: '.' :: rest
    | [] => []
  mantissa ++ 'e' :: (if exponent < 0 then '-' else '+') :: Text.Decimal.digits exponent.natAbs

def Layout.text (l : Layout) (x : Double) : List Char :=
  let sign := if x.negative then ['-'] else []
  if x.isZero then sign ++ '0' :: (if l.pointZero then ['.', '0'] else [])
  else
    let (d, e) := x.shortest
    let all := Text.Decimal.digits d
    let leading := e + (all.length - 1 : Nat)
    let ds := dropZeros all
    match l.positional with
    | none => sign ++ l.positionalText ds leading
    | some (least, bound) =>
      if least ≤ leading ∧ leading < bound then sign ++ l.positionalText ds leading
      else sign ++ exponentText ds leading

/-- Numbers in messages have no exponent, and an integer has no point. -/
def plain : Layout := { positional := none, pointZero := false }

/-- How messages show a limit. -/
def Extended.text : Extended → String
  | .finite x => String.ofList (plain.text x)
  | .infinite negative => if negative then "-inf" else "inf"
  | .undefined => "NaN"

end EntityMapper.Double
