/-!
# Hexadecimal text of bytes

Two lower-case digits for each byte; digits of either case are read.
-/

namespace EntityMapper.Text.Hex

/-- The digit of a value below sixteen. -/
def digit (n : Nat) : Char := if n < 10 then Char.ofNat (48 + n) else Char.ofNat (87 + n)

/-- The value of a digit of either case. -/
def digit? (c : Char) : Option Nat :=
  let n := c.toNat
  if 48 ≤ n ∧ n ≤ 57 then some (n - 48)
  else if 97 ≤ n ∧ n ≤ 102 then some (n - 87)
  else if 65 ≤ n ∧ n ≤ 70 then some (n - 55)
  else none

def encode (bytes : List UInt8) : List Char :=
  bytes.flatMap fun b => [digit (b.toNat / 16), digit (b.toNat % 16)]

/-- Refuses an odd number of digits and every other character. -/
def decode? : List Char → Option (List UInt8)
  | [] => some []
  | [_] => none
  | a :: b :: rest => do
    let high ← digit? a
    let low ← digit? b
    let bytes ← decode? rest
    return UInt8.ofNat (16 * high + low) :: bytes

end EntityMapper.Text.Hex
