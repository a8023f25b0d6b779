/-!
# Decimal text of integers

Integers are written without leading zeros and with a minus sign when negative. They are read with
an optional sign, into a given range.
-/

namespace EntityMapper.Text.Decimal

/-- The value of a decimal digit. -/
def digit? (c : Char) : Option Nat :=
  let n := c.toNat
  if 48 ≤ n ∧ n ≤ 57 then some (n - 48) else none

def isDigit (c : Char) : Bool := (digit? c).isSome

/-- The digits of a natural number, most significant first. -/
def digits (n : Nat) : List Char := Nat.toDigits 10 n

/-- The value of a run of digits; other characters count as zero. -/
def valueOf (cs : List Char) : Nat := cs.foldl (fun n c => 10 * n + (digit? c).getD 0) 0

def ofInt (n : Int) : List Char :=
  if n < 0 then '-' :: digits n.natAbs else digits n.natAbs

/-- Why a text is no number of the wanted range. -/
inductive Fault where
  | empty
  | invalidDigit
  | tooLarge
deriving DecidableEq, Repr

/-- Digits up to `limit`, read from the left: the first digit that is none or that passes the limit
decides the fault. -/
def readDigits (limit : Nat) : Nat → List Char → Except Fault Nat
  | value, [] => .ok value
  | value, c :: cs =>
    match digit? c with
    | none => .error .invalidDigit
    | some d =>
      if 10 * value + d ≤ limit then readDigits limit (10 * value + d) cs else .error .tooLarge

/-- A natural number up to `limit`; a plus sign may precede it. -/
def readNat (limit : Nat) (s : String) : Except Fault Nat :=
  match s.toList with
  | [] => .error .empty
  | ['+'] => .error .invalidDigit
  | '+' :: cs => readDigits limit 0 cs
  | cs => readDigits limit 0 cs

/-- A 64-bit signed integer with an optional sign. -/
def readInt64? (s : String) : Option Int :=
  match s.toList with
  | [] => none
  | ['+'] => none
  | ['-'] => none
  | '+' :: cs => (readDigits 9223372036854775807 0 cs).toOption.map Int.ofNat
  | '-' :: cs => (readDigits 9223372036854775808 0 cs).toOption.map fun n => -Int.ofNat n
  | cs => (readDigits 9223372036854775807 0 cs).toOption.map Int.ofNat

end EntityMapper.Text.Decimal
