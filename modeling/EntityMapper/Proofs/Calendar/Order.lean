import EntityMapper.Proofs.Calendar.Instant

/-!
# The order of texts in time

All parts of a date and a time have fixed widths and the greatest comes first, so for years of four
digits the texts sort as the instants do.
-/

namespace EntityMapper.Calendar

open Text.Decimal

variable {d e : Date}

/-! ## Days in order -/

theorem daysBeforeMonth_le (year : Int) {month later : Nat} (h : month ≤ later) :
    daysBeforeMonth year month ≤ daysBeforeMonth year later := by
  induction later, h using Nat.le_induction with
  | base => exact le_rfl
  | succ later _ ih =>
    cases later with
    | zero => exact ih
    | succ later =>
      rw [daysBeforeMonth_succ year (by omega)]
      omega

theorem daysBeforeYear_le {year later : Int} (h : year ≤ later) :
    daysBeforeYear year ≤ daysBeforeYear later := by
  unfold daysBeforeYear
  omega

/-- A day is before the next month. -/
theorem Date.OnCalendar.number_le (h : d.OnCalendar) :
    d.number ≤ daysBeforeYear d.year + daysBeforeMonth d.year (d.month + 1) := by
  obtain ⟨hmonth, hday⟩ := h
  rw [daysBeforeMonth_succ d.year hmonth.1, number]
  omega

theorem Date.OnCalendar.lt_number (h : d.OnCalendar) :
    daysBeforeYear d.year + daysBeforeMonth d.year d.month < d.number := by
  have hday := h.day
  rw [number]
  omega

/-- The earlier day has the less number. -/
theorem Date.number_lt (hd : d.OnCalendar) (he : e.OnCalendar)
    (h : d.year < e.year ∨ d.year = e.year ∧
      (d.month < e.month ∨ d.month = e.month ∧ d.day < e.day)) : d.number < e.number := by
  rcases h with hyear | ⟨hyear, hmonth | ⟨hmonth, hday⟩⟩
  · have hend := daysBeforeMonth_le d.year (show d.month + 1 ≤ 13 by have := hd.month; omega)
    have hyears := daysBeforeYear_le (show d.year + 1 ≤ e.year by omega)
    have hsucc := daysBeforeYear_succ d.year
    have := hd.number_le
    have := he.lt_number
    omega
  · have hmonths := daysBeforeMonth_le d.year (show d.month + 1 ≤ e.month by omega)
    have := hd.number_le
    have := he.lt_number
    rw [← hyear] at this
    omega
  · rw [number, number, hyear, hmonth]
    omega

theorem Date.number_lt_iff (hd : d.OnCalendar) (he : e.OnCalendar) :
    d.number < e.number ↔ d.year < e.year ∨ d.year = e.year ∧
      (d.month < e.month ∨ d.month = e.month ∧ d.day < e.day) := by
  refine ⟨fun h => ?_, number_lt hd he⟩
  by_contra hnot
  by_cases hsame : d = e
  · simp [hsame] at h
  · have hdiffer : d.year ≠ e.year ∨ d.month ≠ e.month ∨ d.day ≠ e.day := by
      by_contra hall
      obtain ⟨_, _, _⟩ := d
      obtain ⟨_, _, _⟩ := e
      simp_all
    have := number_lt he hd (by omega)
    omega

/-! ## Text in order -/

/-- Of texts of one length that continue, the fronts decide before the rests. -/
theorem append_lt_append_iff {as bs xs ys : List Char} (h : as.length = bs.length) :
    as ++ xs < bs ++ ys ↔ as < bs ∨ as = bs ∧ xs < ys := by
  induction as generalizing bs with
  | nil =>
    rw [List.eq_nil_of_length_eq_zero h.symm]
    simp
  | cons a as ih =>
    cases bs with
    | nil => simp at h
    | cons b bs =>
      have hlength : as.length = bs.length := by simpa using h
      simp only [List.cons_append, List.cons_lt_cons_iff, ih hlength, List.cons.injEq]
      tauto

theorem padded_lt_iff {width n m : Nat} (hwidth : 0 < width) (hn : n < 10 ^ width)
    (hm : m < 10 ^ width) : padded width n < padded width m ↔ n < m :=
  (numeral_padded hwidth hn).lt_iff (numeral_padded hwidth hm)

theorem padded_inj {width n m : Nat} : padded width n = padded width m ↔ n = m := by
  refine ⟨fun h => ?_, fun h => h ▸ rfl⟩
  rw [← valueOf_padded width n, h, valueOf_padded]

theorem padded_append_lt_iff {width n m : Nat} {xs ys : List Char} (hwidth : 0 < width)
    (hn : n < 10 ^ width) (hm : m < 10 ^ width) :
    padded width n ++ xs < padded width m ++ ys ↔ n < m ∨ n = m ∧ xs < ys := by
  rw [append_lt_append_iff ((length_padded hwidth hn).trans (length_padded hwidth hm).symm),
    padded_lt_iff hwidth hn hm, padded_inj]

theorem Date.length_text (hd : d.OnCalendar) (h : d.FourDigitYear) : d.text.length = 10 := by
  rw [h.text]
  simp only [List.length_append, List.length_cons]
  rw [length_padded (by omega) h.natAbs_lt, length_padded (by omega) hd.month_lt,
    length_padded (by omega) hd.day_lt]

theorem Date.text_lt_iff (hd : d.OnCalendar) (he : e.OnCalendar) (hyear : d.FourDigitYear)
    (hyear' : e.FourDigitYear) : d.text < e.text ↔ d.number < e.number := by
  rw [number_lt_iff hd he, hyear.text, hyear'.text,
    padded_append_lt_iff (by omega) hyear.natAbs_lt hyear'.natAbs_lt, List.cons_lt_cons_self,
    padded_append_lt_iff (by omega) hd.month_lt he.month_lt, List.cons_lt_cons_self,
    padded_lt_iff (by omega) hd.day_lt he.day_lt]
  obtain ⟨hdyear, -⟩ := hyear
  obtain ⟨heyear, -⟩ := hyear'
  omega

/-- Milliseconds since midnight, the rest cut off. -/
theorem Clock.sinceMidnight_div (c : Clock) : c.sinceMidnight / 1000000 =
    (3600 * c.hour + 60 * c.minute + c.second) * 1000 + c.nanosecond / 1000000 := by
  rw [sinceMidnight]
  omega

theorem Clock.length_text {c : Clock} (h : c.Valid) : c.text.length = 12 := by
  obtain ⟨hhour, hminute, hsecond, hnano⟩ := h
  simp only [text, List.length_append, List.length_cons]
  rw [length_padded (by omega) (by omega), length_padded (by omega) (by omega),
    length_padded (by omega) (by omega), length_padded (by omega) (by omega)]

theorem Clock.text_lt_iff {b c : Clock} (hb : b.Valid) (hc : c.Valid) (hbleap : b.second < 60)
    (hcleap : c.second < 60) :
    b.text < c.text ↔ b.sinceMidnight / 1000000 < c.sinceMidnight / 1000000 := by
  obtain ⟨hbhour, hbminute, -, hbnano⟩ := hb
  obtain ⟨hchour, hcminute, -, hcnano⟩ := hc
  rw [sinceMidnight_div, sinceMidnight_div, text, text,
    padded_append_lt_iff (by omega) (by omega) (by omega), List.cons_lt_cons_self,
    padded_append_lt_iff (by omega) (by omega) (by omega), List.cons_lt_cons_self,
    padded_append_lt_iff (by omega) (by omega) (by omega), List.cons_lt_cons_self,
    padded_lt_iff (by omega) (by omega) (by omega)]
  omega

theorem Clock.Valid.sinceMidnight_lt {c : Clock} (h : c.Valid) (hleap : c.second < 60) :
    c.sinceMidnight < 86400000000000 := by
  obtain ⟨hhour, hminute, -, hnano⟩ := h
  rw [sinceMidnight]
  omega

/-- What sorts alike by text and by number is the same text when it is the same number. -/
theorem eq_iff_of_lt_iff {as bs : List Char} {n m : Int} (h : as < bs ↔ n < m)
    (h' : bs < as ↔ m < n) : as = bs ↔ n = m := by
  constructor
  · rintro rfl
    have hnot := mt h.mpr (List.lt_irrefl as)
    have hnot' := mt h'.mpr (List.lt_irrefl as)
    omega
  · rintro rfl
    exact List.le_antisymm (mt h'.mp (by omega)) (mt h.mp (by omega))

theorem Moment.instant_div (m : Moment) :
    m.instant / 1000000 = m.date.number * 86400000 + (m.clock.sinceMidnight / 1000000 : Nat) := by
  rw [instant]
  omega

/-- The moment is on the calendar, is no leap second and has a year of four digits. -/
structure Moment.Plain (m : Moment) : Prop where
  date : m.date.OnCalendar
  clock : m.clock.Valid
  leap : m.clock.second < 60
  year : m.date.FourDigitYear

/-- Texts of moments sort as the moments do, to the millisecond. -/
theorem Moment.text_lt_iff {m n : Moment} (hm : m.Plain) (hn : n.Plain) :
    m.text < n.text ↔ m.instant / 1000000 < n.instant / 1000000 := by
  have hdates := Date.text_lt_iff hm.date hn.date hm.year hn.year
  have hsame := eq_iff_of_lt_iff hdates (Date.text_lt_iff hn.date hm.date hn.year hm.year)
  have hclocks := Clock.text_lt_iff hm.clock hn.clock hm.leap hn.leap
  have hm' := hm.clock.sinceMidnight_lt hm.leap
  have hn' := hn.clock.sinceMidnight_lt hn.leap
  rw [text, text, append_lt_append_iff, List.cons_lt_cons_self, append_lt_append_iff, hdates, hsame,
    hclocks, instant_div, instant_div]
  · simp only [List.lt_irrefl, and_false, or_false]
    omega
  · rw [Clock.length_text hm.clock, Clock.length_text hn.clock]
  · rw [Date.length_text hm.date hm.year, Date.length_text hn.date hn.year]

end EntityMapper.Calendar
