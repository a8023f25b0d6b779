import EntityMapper.Proofs.Calendar.Reading

/-!
# Days and instants counted

Days are numbered through all months and years, and an instant is its nanoseconds from a fixed
midnight on. Local time is ahead of UTC by its offset, and the change to UTC keeps the instant.
-/

namespace EntityMapper.Calendar

variable {d e : Date}

/-! ## Days -/

/-- Days of the months of a year before one of them. -/
def daysBeforeMonth (year : Int) : Nat → Nat
  | 0 | 1 => 0
  | month + 2 => daysBeforeMonth year (month + 1) + daysInMonth year (month + 1)

/-- Days from 1 January of year 1 to that of another year; fewer than none before it. -/
def daysBeforeYear (year : Int) : Int :=
  365 * (year - 1) + (year - 1) / 4 - (year - 1) / 100 + (year - 1) / 400

/-- The number of a day; 1 January of year 1 has the number 1. -/
def Date.number (d : Date) : Int := daysBeforeYear d.year + daysBeforeMonth d.year d.month + d.day

theorem daysBeforeMonth_succ (year : Int) {month : Nat} (h : 1 ≤ month) :
    daysBeforeMonth year (month + 1) = daysBeforeMonth year month + daysInMonth year month := by
  obtain ⟨month, rfl⟩ := Nat.exists_eq_add_of_le' h
  rfl

theorem daysInMonth_pos (year : Int) (month : Nat) : 0 < daysInMonth year month := by
  unfold daysInMonth
  split
  · split <;> decide
  · split <;> decide

/-- A year has the days of its twelve months. -/
theorem daysBeforeYear_succ (year : Int) :
    daysBeforeYear (year + 1) = daysBeforeYear year + daysBeforeMonth year 13 := by
  have hmonths : daysBeforeMonth year 13 = if isLeapYear year then 366 else 365 := by
    cases hleap : isLeapYear year <;> simp [daysBeforeMonth, daysInMonth, hleap]
  rw [hmonths]
  unfold daysBeforeYear
  cases hleap : isLeapYear year <;> simp [isLeapYear] at hleap ⊢ <;> omega

theorem Date.OnCalendar.next (h : d.OnCalendar) : d.next.OnCalendar := by
  obtain ⟨hmonth, hday⟩ := h
  unfold Date.next
  split
  · exact ⟨hmonth, by simp, by assumption⟩
  · split
    · exact ⟨by simp; omega, le_rfl, daysInMonth_pos _ _⟩
    · exact ⟨by simp, le_rfl, daysInMonth_pos _ _⟩

theorem Date.OnCalendar.previous (h : d.OnCalendar) : d.previous.OnCalendar := by
  obtain ⟨hmonth, hday⟩ := h
  unfold Date.previous
  split
  · exact ⟨hmonth, by simp; omega⟩
  · split
    · exact ⟨by simp; omega, daysInMonth_pos _ _, le_rfl⟩
    · exact ⟨by simp, by simp, le_rfl⟩

theorem Date.number_next (h : d.OnCalendar) : d.next.number = d.number + 1 := by
  obtain ⟨hmonth, hday⟩ := h
  have hlast := daysBeforeMonth_succ d.year hmonth.1
  unfold Date.next
  split
  · simp only [number]
    omega
  · split
    · simp only [number, hlast]
      omega
    · have htwelve : d.month = 12 := by omega
      have hyear := daysBeforeYear_succ d.year
      have hfirst : daysBeforeMonth (d.year + 1) 1 = 0 := rfl
      rw [htwelve] at hlast hday
      simp only [number, hyear, htwelve, hlast, hfirst]
      grind

theorem Date.next_previous (h : d.OnCalendar) : d.previous.next = d := by
  obtain ⟨hmonth, hday⟩ := h
  obtain ⟨year, month, day⟩ := d
  simp only at hmonth hday
  simp only [previous]
  split
  · have hback : day - 1 + 1 = day := by omega
    simp only [next, hback]
    rw [if_pos (by omega)]
  · have hday : day = 1 := by omega
    split
    · have hback : month - 1 + 1 = month := by omega
      simp only [next, hback, hday]
      rw [if_neg (by omega), if_pos (by omega)]
    · have hmonth : month = 1 := by omega
      simp [next, daysInMonth, hday, hmonth]

theorem Date.number_previous (h : d.OnCalendar) : d.previous.number = d.number - 1 := by
  have hnext := number_next h.previous
  rw [next_previous h] at hnext
  omega

/-! ## Instants -/

/-- Nanoseconds since midnight. -/
def Clock.sinceMidnight (c : Clock) : Nat :=
  (3600 * c.hour + 60 * c.minute + c.second) * 1000000000 + c.nanosecond

/-- Nanoseconds from the midnight that begins day 0. -/
def Moment.instant (m : Moment) : Int :=
  m.date.number * 86400000000000 + m.clock.sinceMidnight

/-- The instant at which clocks so far ahead of UTC show the date and the time. -/
def Stamp.instant (x : Stamp) : Int :=
  Moment.instant ⟨x.date, x.clock⟩ - x.offset * 60000000000

theorem Moment.instant_ofLocal {clock : Clock} {offset : Int} (hd : d.OnCalendar)
    (hc : clock.Valid) (ho : -1440 < offset ∧ offset < 1440) :
    (ofLocal d clock offset).instant = Stamp.instant ⟨d, clock, offset⟩ := by
  have hprevious := Date.number_previous hd
  have hnext := Date.number_next hd
  obtain ⟨hour, minute, second, nanosecond⟩ := clock
  obtain ⟨hhour, hminute, -, -⟩ := hc
  simp only at hhour hminute
  simp only [ofLocal]
  split
  · simp only [Moment.instant, Stamp.instant, Clock.sinceMidnight, hprevious]
    omega
  · split
    · simp only [Moment.instant, Stamp.instant, Clock.sinceMidnight, hnext]
      omega
    · simp only [Moment.instant, Stamp.instant, Clock.sinceMidnight]
      omega

/-! ## Moments that are told -/

theorem Clock.Valid.ofLocal {clock : Clock} (h : clock.Valid) (d : Date) (offset : Int) :
    (Moment.ofLocal d clock offset).clock.Valid := by
  obtain ⟨-, -, hsecond, hnano⟩ := h
  unfold Moment.ofLocal
  dsimp only
  split
  · exact ⟨by dsimp only; omega, by dsimp only; omega, hsecond, hnano⟩
  · split
    · exact ⟨by dsimp only; omega, by dsimp only; omega, hsecond, hnano⟩
    · exact ⟨by dsimp only; omega, by dsimp only; omega, hsecond, hnano⟩

theorem Moment.second_ofLocal (d : Date) (clock : Clock) (offset : Int) :
    (ofLocal d clock offset).clock.second = clock.second := by
  unfold ofLocal
  dsimp only
  split
  · rfl
  · split <;> rfl

/-- Local time and UTC are at most a day apart. -/
theorem Moment.date_ofLocal (d : Date) (clock : Clock) (offset : Int) :
    (ofLocal d clock offset).date = d.previous ∨ (ofLocal d clock offset).date = d.next ∨
      (ofLocal d clock offset).date = d := by
  unfold ofLocal
  dsimp only
  split
  · exact .inl rfl
  · split
    · exact .inr (.inl rfl)
    · exact .inr (.inr rfl)

theorem Date.year_next (d : Date) : d.year ≤ d.next.year ∧ d.next.year ≤ d.year + 1 := by
  unfold next
  split
  · simp
  · split <;> simp

theorem Date.year_previous (d : Date) :
    d.year - 1 ≤ d.previous.year ∧ d.previous.year ≤ d.year := by
  unfold previous
  split
  · simp
  · split <;> simp

theorem Stamp.WithOffset.utc_valid {x : Stamp} {cs : List Char} (h : x.WithOffset cs) :
    x.utc.date.Valid ∧ x.utc.clock.Valid := by
  have hdate := h.date.toOnCalendar
  obtain ⟨hyear, hyear'⟩ := h.fourDigitYear
  have hnext := x.date.year_next
  have hprevious := x.date.year_previous
  refine ⟨?_, h.clock.ofLocal _ _⟩
  rcases Moment.date_ofLocal x.date x.clock x.offset with hutc | hutc | hutc
  · rw [utc, hutc]
    exact ⟨hdate.previous, by simp [yearInRange]; omega⟩
  · rw [utc, hutc]
    exact ⟨hdate.next, by simp [yearInRange]; omega⟩
  · rw [utc, hutc]
    exact h.date

theorem Stamp.Shown.utc_valid {x : Stamp} {s : String} (h : x.Shown s) :
    x.utc.date.Valid ∧ x.utc.clock.Valid := by
  rcases h with h | h
  · exact h.utc_valid
  · rw [h.utc]
    exact ⟨h.date, h.clock⟩

theorem valid_of_moment? {s : String} {m : Moment} (h : moment? s = some m) :
    m.date.Valid ∧ m.clock.Valid := by
  obtain ⟨x, hx, rfl⟩ := moment?_eq_some_iff.mp h
  exact hx.utc_valid

theorem valid_of_date? {s : String} (h : date? s = some d) : d.Valid := by
  unfold date? at h
  split at h
  · rename_i date hread
    cases h
    obtain ⟨ds, ⟨-, -, -, -, -, hvalid⟩, -⟩ := loose_of_looseDate? hread
    exact hvalid
  · obtain ⟨m, hread, rfl⟩ := Option.map_eq_some_iff.mp h
    exact (valid_of_moment? hread).1

theorem Stamp.Shown.instant_utc {x : Stamp} {s : String} (h : x.Shown s) :
    x.utc.instant = x.instant := by
  rcases h with h | h
  · exact Moment.instant_ofLocal h.date.toOnCalendar h.clock h.offset
  · exact Moment.instant_ofLocal h.date.toOnCalendar h.clock (h.offset ▸ by decide)

end EntityMapper.Calendar
