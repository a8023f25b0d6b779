import EntityMapper.Double.Extended
import EntityMapper.Text.Decimal

/-!
# Reading a binary64 number from text

Decimal text with an optional sign, point and exponent, and the names of infinity and of the
undefined number. The result is the nearest number, which may lie beyond the finite range.
-/

namespace EntityMapper.Double

open Text.Decimal

/-- An exponent beyond this magnitude decides the outcome by itself. -/
private def exponentCap : Nat := 100000

/-- The digits after the mark of an exponent, with an optional sign. -/
def readExponent? (cs : List Char) : Option Int :=
  let (negative, ds) := match cs with
    | '-' :: rest => (true, rest)
    | '+' :: rest => (false, rest)
    | rest => (false, rest)
  if ds.isEmpty || !ds.all isDigit then none
  else
    let n : Int := min (valueOf ds) exponentCap
    some (if negative then -n else n)

/-- The number nearest to digits around a point; digits that are all zero give zero whatever the
exponent. -/
def nearest (negative : Bool) (whole fraction : List Char) (exponent : Int) : Extended :=
  let num := valueOf (whole ++ fraction)
  if num = 0 then .finite (zero negative)
  else
    match ofDecimal? negative num (exponent - fraction.length) with
    | some x => .finite x
    | none => .infinite negative

def readUnsigned? (negative : Bool) (cs : List Char) : Option Extended :=
  let lower := String.ofList (cs.map Char.toLower)
  if lower == "inf" || lower == "infinity" then some (.infinite negative)
  else if lower == "nan" then some .undefined
  else
    let whole := cs.takeWhile isDigit
    let (fraction, rest) := match cs.dropWhile isDigit with
      | '.' :: more => (more.takeWhile isDigit, more.dropWhile isDigit)
      | more => ([], more)
    if whole.isEmpty && fraction.isEmpty then none
    else
      match rest with
      | [] => some (nearest negative whole fraction 0)
      | mark :: ds =>
        if mark == 'e' || mark == 'E' then (readExponent? ds).map (nearest negative whole fraction)
        else none

def read? (s : String) : Option Extended :=
  match s.toList with
  | '-' :: cs => readUnsigned? true cs
  | '+' :: cs => readUnsigned? false cs
  | cs => readUnsigned? false cs

end EntityMapper.Double
