import EntityMapper.Text.Decimal

/-!
# Dates and times

Days of the Gregorian calendar, extended to all years in a fixed range, and moments in UTC to the
nanosecond. `Moment.text` shows milliseconds, so that moments of four-digit years sort as text.
-/

namespace EntityMapper.Calendar

def isLeapYear (year : Int) : Bool := year % 4 == 0 && (year % 100 != 0 || year % 400 == 0)

def daysInMonth (year : Int) (month : Nat) : Nat :=
  if month = 2 then (if isLeapYear year then 29 else 28)
  else if month = 4 ∨ month = 6 ∨ month = 9 ∨ month = 11 then 30
  else 31

/-- A day. Year 0 is the year before year 1. -/
structure Date where
  year : Int
  month : Nat
  day : Nat
deriving DecidableEq, Repr

def yearInRange (year : Int) : Bool := -262143 ≤ year && year ≤ 262142

/-- The day with these numbers, when there is one. -/
def Date.ofParts? (year : Int) (month day : Nat) : Option Date :=
  if yearInRange year && 1 ≤ month && month ≤ 12 && 1 ≤ day && day ≤ daysInMonth year month then
    some ⟨year, month, day⟩
  else none

def Date.next (d : Date) : Date :=
  if d.day < daysInMonth d.year d.month then { d with day := d.day + 1 }
  else if d.month < 12 then { d with month := d.month + 1, day := 1 }
  else ⟨d.year + 1, 1, 1⟩

def Date.previous (d : Date) : Date :=
  if 1 < d.day then { d with day := d.day - 1 }
  else if 1 < d.month then { d with month := d.month - 1, day := daysInMonth d.year (d.month - 1) }
  else ⟨d.year - 1, 12, 31⟩

/-- A time of day; second 60 is a leap second. -/
structure Clock where
  hour : Nat
  minute : Nat
  second : Nat
  nanosecond : Nat
deriving DecidableEq, Repr

/-- The time with these numbers, when there is one. -/
def Clock.ofParts? (hour minute second nanosecond : Nat) : Option Clock :=
  if hour < 24 && minute < 60 && second ≤ 60 && nanosecond < 1000000000 then
    some ⟨hour, minute, second, nanosecond⟩
  else none

/-- A moment in UTC. -/
structure Moment where
  date : Date
  clock : Clock
deriving DecidableEq, Repr

/-- The moment at which clocks that are `offset` minutes ahead of UTC show this date and time. The
offset is less than a day. -/
def Moment.ofLocal (date : Date) (clock : Clock) (offset : Int) : Moment :=
  let minutes : Int := 60 * clock.hour + clock.minute - offset
  let ofDay := (minutes % 1440).toNat
  let clock := { clock with hour := ofDay / 60, minute := ofDay % 60 }
  if minutes < 0 then ⟨date.previous, clock⟩
  else if 1440 ≤ minutes then ⟨date.next, clock⟩
  else ⟨date, clock⟩

/-! ## Text -/

/-- Digits filled up with zeros to a width. -/
def padded (width n : Nat) : List Char :=
  let ds := Text.Decimal.digits n
  List.replicate (width - ds.length) '0' ++ ds

/-- Four digits; a year outside four digits has a sign. -/
def yearText (year : Int) : List Char :=
  if 0 ≤ year ∧ year ≤ 9999 then padded 4 year.natAbs
  else (if year < 0 then '-' else '+') :: padded 4 year.natAbs

def Date.text (d : Date) : List Char :=
  yearText d.year ++ '-' :: (padded 2 d.month ++ '-' :: padded 2 d.day)

/-- Hour, minute, second and the milliseconds, the rest cut off. -/
def Clock.text (c : Clock) : List Char :=
  padded 2 c.hour ++ ':' :: (padded 2 c.minute ++ ':' :: (padded 2 c.second
    ++ '.' :: padded 3 (c.nanosecond / 1000000)))

def Moment.text (m : Moment) : List Char := m.date.text ++ 'T' :: (m.clock.text ++ ['Z'])

end EntityMapper.Calendar
