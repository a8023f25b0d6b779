import EntityMapper.Calendar.Basic
import EntityMapper.Text.Blank

/-!
# Reading dates and moments

A moment is written as RFC 3339 has it, with an offset, or without one and then in UTC. The latter
form is loose: blanks may precede a number, numbers need not be padded, and a year with a sign may
have any number of digits.
-/

namespace EntityMapper.Calendar

open Text.Decimal

/-- The number at the front of a text, of at least `least` and at most `most` digits. -/
def number? (least most : Nat) (cs : List Char) : Option (Nat × List Char) :=
  let ds := (cs.take most).takeWhile isDigit
  if ds.length < least then none else some (valueOf ds, cs.drop ds.length)

def expect? (c : Char) : List Char → Option (List Char)
  | d :: rest => if c = d then some rest else none
  | [] => none

/-- Digits after a point as nanoseconds; digits after the ninth are passed over. -/
def nanoseconds? (cs : List Char) : Option (Nat × List Char) :=
  let ds := cs.takeWhile isDigit
  if ds.isEmpty then none
  else
    let kept := ds.take 9
    some (valueOf kept * Nat.pow 10 (9 - kept.length), cs.drop ds.length)

/-- A fraction of a second, when a point begins one. -/
def fraction? : List Char → Option (Nat × List Char)
  | '.' :: rest => nanoseconds? rest
  | rest => some (0, rest)

/-! ## With an offset -/

/-- The offset of local time in minutes: `Z`, or a sign, two digits of hours less than 24, a colon
and two digits of minutes less than 60. The sign may be the character U+2212. -/
def offset? (cs : List Char) : Option (Int × List Char) :=
  let parts (sign : Int) (rest : List Char) : Option (Int × List Char) := do
    let (hours, rest) ← number? 2 2 rest
    let rest ← expect? ':' rest
    let (minutes, rest) ← number? 2 2 rest
    if hours < 24 ∧ minutes < 60 then some (sign * (60 * hours + minutes : Nat), rest) else none
  match cs with
  | 'Z' :: rest => some (0, rest)
  | 'z' :: rest => some (0, rest)
  | '+' :: rest => parts 1 rest
  | '-' :: rest => parts (-1) rest
  | '−' :: rest => parts (-1) rest
  | _ => none

def isTimeMark (c : Char) : Bool := c == 'T' || c == 't' || c == ' '

/-- A date, a time and an offset, all of fixed width. -/
def withOffset? (cs : List Char) : Option Moment := do
  let (year, cs) ← number? 4 4 cs
  let (month, cs) ← number? 2 2 (← expect? '-' cs)
  let (day, cs) ← number? 2 2 (← expect? '-' cs)
  let date ← Date.ofParts? year month day
  match cs with
  | [] => none
  | mark :: cs =>
    if !isTimeMark mark then none
    let (hour, cs) ← number? 2 2 cs
    let (minute, cs) ← number? 2 2 (← expect? ':' cs)
    let (second, cs) ← number? 2 2 (← expect? ':' cs)
    let (nanosecond, cs) ← fraction? cs
    let clock ← Clock.ofParts? hour minute second nanosecond
    let (offset, cs) ← offset? cs
    if cs.isEmpty then some (.ofLocal date clock offset) else none

/-! ## In UTC, loosely written -/

/-- A number of one or two digits after any blanks. -/
def looseNumber? (cs : List Char) : Option (Nat × List Char) := number? 1 2 (Text.trimStart cs)

/-- A year after any blanks: up to four digits, or any number of them after a sign. -/
def looseYear? (cs : List Char) : Option (Int × List Char) :=
  match Text.trimStart cs with
  | '-' :: rest => (number? 1 rest.length rest).map fun (n, after) => (-(n : Int), after)
  | '+' :: rest => (number? 1 rest.length rest).map fun (n, after) => ((n : Int), after)
  | rest => (number? 1 4 rest).map fun (n, after) => ((n : Int), after)

def looseDate? (cs : List Char) : Option (Date × List Char) := do
  let (year, cs) ← looseYear? cs
  let (month, cs) ← looseNumber? (← expect? '-' cs)
  let (day, cs) ← looseNumber? (← expect? '-' cs)
  return (← Date.ofParts? year month day, cs)

def looseClock? (cs : List Char) : Option Clock := do
  let (hour, cs) ← looseNumber? cs
  let (minute, cs) ← looseNumber? (← expect? ':' cs)
  let (second, cs) ← looseNumber? (← expect? ':' cs)
  let (nanosecond, cs) ← fraction? cs
  if cs.isEmpty then Clock.ofParts? hour minute second nanosecond else none

/-- A date and a time with `T` or blanks, or nothing, between them. -/
def withoutOffset? (cs : List Char) : Option Moment := do
  let (date, cs) ← looseDate? cs
  let clock ← looseClock? (match cs with | 'T' :: rest => rest | _ => cs)
  return ⟨date, clock⟩

/-- The moment a text tells. -/
def moment? (s : String) : Option Moment := (withOffset? s.toList).or (withoutOffset? s.toList)

/-- The day a text tells: a date alone, or that of a moment, in UTC. -/
def date? (s : String) : Option Date :=
  match looseDate? s.toList with
  | some (d, []) => some d
  | _ => (moment? s).map Moment.date

end EntityMapper.Calendar
