import EntityMapper.Proofs.Calendar.Numerals

/-!
# How moments are written

`Stamp.Shown` says which texts tell a date and a time of day, and how far these are ahead of UTC:
those of RFC 3339, with an offset, and looser ones in UTC. No text is of both kinds.
-/

namespace EntityMapper.Calendar

open Text Text.Decimal

variable {cs ds : List Char} {n : Nat}

/-! ## Days and times that there are -/

/-- The month has the day. -/
structure Date.OnCalendar (d : Date) : Prop where
  month : 1 ≤ d.month ∧ d.month ≤ 12
  day : 1 ≤ d.day ∧ d.day ≤ daysInMonth d.year d.month

/-- The year is written without a sign. -/
def Date.FourDigitYear (d : Date) : Prop := 0 ≤ d.year ∧ d.year ≤ 9999

structure Date.Valid (d : Date) : Prop extends d.OnCalendar where
  year : yearInRange d.year = true

structure Clock.Valid (c : Clock) : Prop where
  hour : c.hour < 24
  minute : c.minute < 60
  second : c.second ≤ 60
  nanosecond : c.nanosecond < 1000000000

theorem daysInMonth_le (year : Int) (month : Nat) : daysInMonth year month ≤ 31 := by
  unfold daysInMonth
  split
  · split <;> decide
  · split <;> decide

theorem Date.OnCalendar.month_lt {d : Date} (h : d.OnCalendar) : d.month < 10 ^ 2 := by
  have := h.month
  omega

theorem Date.OnCalendar.day_lt {d : Date} (h : d.OnCalendar) : d.day < 10 ^ 2 := by
  have hlast := daysInMonth_le d.year d.month
  have := h.day
  omega

theorem Date.FourDigitYear.natAbs_lt {d : Date} (h : d.FourDigitYear) :
    d.year.natAbs < 10 ^ 4 := by
  obtain ⟨hyear, hyear'⟩ := h
  omega

theorem Date.FourDigitYear.text {d : Date} (h : d.FourDigitYear) : d.text =
    padded 4 d.year.natAbs ++ '-' :: (padded 2 d.month ++ '-' :: padded 2 d.day) := by
  rw [Date.text, yearText, if_pos ⟨h.1, h.2⟩]

/-- A date and a time of day, and the minutes that they are ahead of UTC. -/
structure Stamp where
  date : Date
  clock : Clock
  offset : Int
deriving DecidableEq, Repr

/-- The moment in UTC. -/
def Stamp.utc (x : Stamp) : Moment := .ofLocal x.date x.clock x.offset

variable {x y : Stamp}

/-! ## With an offset -/

/-- Nothing, or a point and digits; what is less than a nanosecond is cut off. -/
inductive Fraction : Nat → List Char → Prop
  | absent : Fraction 0 []
  | digits {ds : List Char} : ds ≠ [] → (∀ c ∈ ds, isDigit c = true) →
      Fraction (valueOf ds * 10 ^ 9 / 10 ^ ds.length) ('.' :: ds)

/-- The hours and minutes of an offset, in minutes. -/
inductive HoursMinutes : Nat → List Char → Prop
  | mk {h m : Nat} {hs ms : List Char} : Numeral 2 2 h hs → Numeral 2 2 m ms → h < 24 → m < 60 →
      HoursMinutes (60 * h + m) (hs ++ ':' :: ms)

/-- How many minutes local time is ahead of UTC. -/
inductive Offset : Int → List Char → Prop
  | utc {c : Char} : c = 'Z' ∨ c = 'z' → Offset 0 [c]
  | ahead {n : Nat} {cs : List Char} : HoursMinutes n cs → Offset n ('+' :: cs)
  | behind {n : Nat} {c : Char} {cs : List Char} : c = '-' ∨ c = '−' → HoursMinutes n cs →
      Offset (-n) (c :: cs)

inductive Date.Fixed : Date → List Char → Prop
  | mk {y m d : Nat} {ys ms ds : List Char} : Numeral 4 4 y ys → Numeral 2 2 m ms →
      Numeral 2 2 d ds → Valid ⟨y, m, d⟩ → Fixed ⟨y, m, d⟩ (ys ++ '-' :: (ms ++ '-' :: ds))

inductive Clock.Fixed : Clock → List Char → Prop
  | mk {h m s ns : Nat} {hs ms ss fs : List Char} : Numeral 2 2 h hs → Numeral 2 2 m ms →
      Numeral 2 2 s ss → Fraction ns fs → Valid ⟨h, m, s, ns⟩ →
      Fixed ⟨h, m, s, ns⟩ (hs ++ ':' :: (ms ++ ':' :: (ss ++ fs)))

/-- As RFC 3339 has it; the date and the time may also be parted by a blank. -/
inductive Stamp.WithOffset : Stamp → List Char → Prop
  | mk {date : Date} {clock : Clock} {offset : Int} {ds cs os : List Char} {mark : Char} :
      date.Fixed ds → isTimeMark mark = true → clock.Fixed cs → Offset offset os →
      WithOffset ⟨date, clock, offset⟩ (ds ++ mark :: (cs ++ os))

theorem Offset.bounds {o : Int} (h : Offset o cs) : -1440 < o ∧ o < 1440 := by
  cases h with
  | utc => decide
  | ahead hn | behind _ hn =>
    cases hn
    omega

theorem Stamp.WithOffset.date (h : x.WithOffset cs) : x.date.Valid := by
  obtain ⟨⟨-, -, -, hdate⟩, -, -, -⟩ := h
  exact hdate

theorem Stamp.WithOffset.fourDigitYear (h : x.WithOffset cs) :
    x.date.FourDigitYear := by
  obtain ⟨⟨hys, -, -, -⟩, -, -, -⟩ := h
  have := hys.lt
  exact ⟨by simp, by simp; omega⟩

theorem Stamp.WithOffset.clock (h : x.WithOffset cs) : x.clock.Valid := by
  obtain ⟨-, -, ⟨-, -, -, -, hclock⟩, -⟩ := h
  exact hclock

theorem Stamp.WithOffset.offset (h : x.WithOffset cs) :
    -1440 < x.offset ∧ x.offset < 1440 := by
  obtain ⟨-, -, -, hos⟩ := h
  exact hos.bounds

/-! ## In UTC -/

def Blanks (cs : List Char) : Prop := ∀ c ∈ cs, isBlank c = true

/-- A number of one or two digits after any blanks. -/
inductive Spaced : Nat → List Char → Prop
  | mk {n : Nat} {bs ds : List Char} : Blanks bs → Numeral 1 2 n ds → Spaced n (bs ++ ds)

/-- A year of up to four digits, or with a sign and then of any length. -/
inductive LooseYear : Int → List Char → Prop
  | plain {n : Nat} {bs ds : List Char} : Blanks bs → Numeral 1 4 n ds → LooseYear n (bs ++ ds)
  | before {n : Nat} {bs ds : List Char} : Blanks bs → Numeral 1 ds.length n ds →
      LooseYear (-n) (bs ++ '-' :: ds)
  | after {n : Nat} {bs ds : List Char} : Blanks bs → Numeral 1 ds.length n ds →
      LooseYear n (bs ++ '+' :: ds)

/-- A date, when `rest` follows it: of a day that may have two digits both are taken. -/
inductive Date.Loose : Date → List Char → List Char → Prop
  | mk {y : Int} {m d : Nat} {ys ms bs ds rest : List Char} : LooseYear y ys → Spaced m ms →
      Blanks bs → Numeral 1 2 d ds → (ds.length = 2 ∨ NoDigit rest) → Valid ⟨y, m, d⟩ →
      Loose ⟨y, m, d⟩ (ys ++ '-' :: (ms ++ '-' :: (bs ++ ds))) rest

inductive Clock.Loose : Clock → List Char → Prop
  | mk {h m s ns : Nat} {hs ms ss fs : List Char} : Spaced h hs → Spaced m ms → Spaced s ss →
      Fraction ns fs → Valid ⟨h, m, s, ns⟩ →
      Loose ⟨h, m, s, ns⟩ (hs ++ ':' :: (ms ++ ':' :: (ss ++ fs)))

/-- A date and a time without an offset, with `T` or nothing between them. -/
inductive Stamp.InUtc : Stamp → List Char → Prop
  | mk {date : Date} {clock : Clock} {ds cs mark : List Char} : date.Loose ds (mark ++ cs) →
      mark = [] ∨ mark = ['T'] → clock.Loose cs → InUtc ⟨date, clock, 0⟩ (ds ++ (mark ++ cs))

theorem Stamp.InUtc.date (h : x.InUtc cs) : x.date.Valid := by
  obtain ⟨⟨-, -, -, -, -, hdate⟩, -, -⟩ := h
  exact hdate

theorem Stamp.InUtc.clock (h : x.InUtc cs) : x.clock.Valid := by
  obtain ⟨-, -, ⟨-, -, -, -, hclock⟩⟩ := h
  exact hclock

theorem Stamp.InUtc.offset (h : x.InUtc cs) : x.offset = 0 := by
  cases h
  rfl

/-- Clocks in UTC show the moment itself. -/
theorem Moment.ofLocal_zero (date : Date) {clock : Clock} (h : clock.Valid) :
    ofLocal date clock 0 = ⟨date, clock⟩ := by
  obtain ⟨hour, minute, second, nanosecond⟩ := clock
  obtain ⟨hh, hm, -, -⟩ := h
  simp only at hh hm
  have hday : ((60 * (hour : Int) + minute - 0) % 1440).toNat = 60 * hour + minute := by omega
  have hhour : (60 * hour + minute) / 60 = hour := by omega
  have hminute : (60 * hour + minute) % 60 = minute := by omega
  simp only [ofLocal, hday, hhour, hminute]
  rw [if_neg (by omega), if_neg (by omega)]

theorem Stamp.InUtc.utc (h : x.InUtc cs) : x.utc = ⟨x.date, x.clock⟩ := by
  rw [Stamp.utc, h.offset]
  exact Moment.ofLocal_zero _ h.clock

/-! ## Either way -/

/-- The text tells the date, the time and the offset. -/
def Stamp.Shown (x : Stamp) (s : String) : Prop := x.WithOffset s.toList ∨ x.InUtc s.toList

/-- Between the numbers of a time, and `Z`. -/
def isClockMark (c : Char) : Bool := c == ':' || c == 'Z' || c == 'z'

theorem isClockMark_iff {c : Char} : isClockMark c = true ↔ c = ':' ∨ c = 'Z' ∨ c = 'z' := by
  simp [isClockMark, or_assoc]

theorem countP_digits (h : ∀ c ∈ ds, isDigit c = true) : ds.countP isClockMark = 0 := by
  refine List.countP_eq_zero.mpr fun c hc hmark => ?_
  rcases isClockMark_iff.mp hmark with rfl | rfl | rfl <;> cases h _ hc

theorem Blanks.countP (h : Blanks cs) : cs.countP isClockMark = 0 := by
  refine List.countP_eq_zero.mpr fun c hc hmark => ?_
  rcases isClockMark_iff.mp hmark with rfl | rfl | rfl <;> cases h _ hc

theorem Fraction.countP {fs : List Char} (h : Fraction n fs) : fs.countP isClockMark = 0 := by
  cases h with
  | absent => rfl
  | digits _ hds =>
    rw [List.countP_cons, countP_digits hds]
    rfl

theorem Offset.countP {o : Int} (h : Offset o cs) : cs.countP isClockMark = 1 := by
  cases h with
  | utc hc => rcases hc with rfl | rfl <;> rfl
  | ahead hn =>
    obtain ⟨hhs, hms, -, -⟩ := hn
    simp [countP_digits hhs.digits, countP_digits hms.digits, isClockMark]
  | behind hc hn =>
    obtain ⟨hhs, hms, -, -⟩ := hn
    rcases hc with rfl | rfl <;>
      simp [countP_digits hhs.digits, countP_digits hms.digits, isClockMark]

theorem Spaced.countP (h : Spaced n cs) : cs.countP isClockMark = 0 := by
  obtain ⟨hbs, hds⟩ := h
  simp [hbs.countP, countP_digits hds.digits]

theorem LooseYear.countP {y : Int} (h : LooseYear y cs) : cs.countP isClockMark = 0 := by
  cases h with
  | plain hbs hds | before hbs hds | after hbs hds =>
    simp [hbs.countP, countP_digits hds.digits, isClockMark]

/-- With an offset there is one mark more, so that no text is of both kinds. -/
theorem Stamp.WithOffset.countP (h : x.WithOffset cs) :
    cs.countP isClockMark = 3 := by
  obtain ⟨⟨hys, hmos, hds, -⟩, hmark, ⟨hhs, hms, hss, hfs, -⟩, hos⟩ := h
  simp only [isTimeMark, Bool.or_eq_true, beq_iff_eq] at hmark
  rcases hmark with (rfl | rfl) | rfl <;>
    simp [countP_digits hys.digits, countP_digits hmos.digits, countP_digits hds.digits,
      countP_digits hhs.digits, countP_digits hms.digits, countP_digits hss.digits, hfs.countP,
      hos.countP, isClockMark]

theorem Stamp.InUtc.countP (h : x.InUtc cs) : cs.countP isClockMark = 2 := by
  obtain ⟨⟨hys, hmos, hbs, hds, -, -⟩, hmark, ⟨hhs, hms, hss, hfs, -⟩⟩ := h
  rcases hmark with rfl | rfl <;>
    simp [hys.countP, hmos.countP, hbs.countP, countP_digits hds.digits,
      hhs.countP, hms.countP, hss.countP, hfs.countP, isClockMark]

theorem Stamp.WithOffset.not_inUtc (h : x.WithOffset cs) : ¬y.InUtc cs := fun h' =>
  absurd (h.countP.symm.trans h'.countP) (by decide)

end EntityMapper.Calendar
