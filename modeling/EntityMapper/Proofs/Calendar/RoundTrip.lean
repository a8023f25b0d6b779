import EntityMapper.Proofs.Calendar.Instant

/-!
# Reading what was written

The text of a day is read as that day again, in any year. The text of a moment is read again,
without what is less than a millisecond, when its year has four digits, and is no moment's text
otherwise: there is no signed year with an offset, and no `Z` without one.
-/

namespace EntityMapper.Calendar

open Text.Decimal

variable {d : Date} {m : Moment}

/-! ## Days -/

theorem numeral_padded_long (width n : Nat) :
    Numeral 1 (padded width n).length n (padded width n) where
  digits _ := isDigit_of_mem_padded
  least_le := by
    have := List.length_pos_iff.mpr (digits_ne_nil n)
    simp [padded]
    omega
  le_most := le_rfl
  value := valueOf_padded width n

theorem blanks_nil : Blanks [] := by simp [Blanks]

theorem looseYear_yearText (year : Int) : LooseYear year (yearText year) := by
  have hnumeral := numeral_padded_long 4 year.natAbs
  unfold yearText
  split
  · have hlength := length_padded (by omega) (show year.natAbs < 10 ^ 4 by omega)
    have hread := @LooseYear.plain _ [] _ blanks_nil (hnumeral.extend le_rfl hlength.le)
    rwa [Int.natAbs_of_nonneg (by omega)] at hread
  · split
    · have hread := @LooseYear.before _ [] _ blanks_nil hnumeral
      rwa [show -(year.natAbs : Int) = year by omega] at hread
    · have hread := @LooseYear.after _ [] _ blanks_nil hnumeral
      rwa [Int.natAbs_of_nonneg (by omega)] at hread

theorem numeral_padded_two {n : Nat} (h : n < 10 ^ 2) : Numeral 1 2 n (padded 2 n) :=
  (numeral_padded (by omega) h).extend (by omega) (length_padded (by omega) h).le

theorem Date.Valid.loose_text (h : d.Valid) (rest : List Char) : d.Loose d.text rest :=
  @Date.Loose.mk _ _ _ _ _ [] _ rest (looseYear_yearText d.year)
    (@Spaced.mk _ [] _ blanks_nil (numeral_padded_two h.month_lt)) blanks_nil
    (numeral_padded_two h.day_lt) (.inl (length_padded (by omega) h.day_lt)) h

theorem date?_text (h : d.Valid) : date? (String.ofList d.text) = some d := by
  have hread := (h.loose_text []).read
  rw [List.append_nil] at hread
  simp [date?, hread]

/-! ## Moments -/

/-- The time without what is less than a millisecond. -/
def Clock.cut (c : Clock) : Clock := { c with nanosecond := c.nanosecond / 1000000 * 1000000 }

theorem Clock.text_cut (c : Clock) : c.cut.text = c.text := by
  have hcut : c.nanosecond / 1000000 * 1000000 / 1000000 = c.nanosecond / 1000000 := by omega
  simp only [text, cut, hcut]

theorem Clock.Valid.cut {c : Clock} (h : c.Valid) : c.cut.Valid := by
  obtain ⟨hhour, hminute, hsecond, hnano⟩ := h
  exact ⟨hhour, hminute, hsecond, by simp [Clock.cut]; omega⟩

theorem fraction_padded {n : Nat} (h : n < 1000) : Fraction (n * 1000000) ('.' :: padded 3 n) := by
  have hnumeral := numeral_padded (by omega) (show n < 10 ^ 3 from h)
  have hne : padded 3 n ≠ [] := by
    have := hnumeral.least_le
    intro hnil
    simp [hnil] at this
  have hvalue : valueOf (padded 3 n) * 10 ^ 9 / 10 ^ (padded 3 n).length = n * 1000000 := by
    rw [valueOf_padded, length_padded (by omega) (show n < 10 ^ 3 from h)]
    omega
  exact hvalue ▸ .digits hne hnumeral.digits

theorem Clock.Valid.fixed_text {c : Clock} (h : c.Valid) : c.cut.Fixed c.text := by
  have hvalid := h.cut
  obtain ⟨hhour, hminute, hsecond, hnano⟩ := h
  exact .mk (numeral_padded (by omega) (by omega)) (numeral_padded (by omega) (by omega))
    (numeral_padded (by omega) (by omega)) (fraction_padded (by omega)) hvalid

theorem Date.Valid.fixed_text (h : d.Valid) (hyear : d.FourDigitYear) : d.Fixed d.text := by
  have hvalue : (d.year.natAbs : Int) = d.year := Int.natAbs_of_nonneg hyear.1
  have hvalid : Valid ⟨d.year.natAbs, d.month, d.day⟩ := by rwa [hvalue]
  have hfixed := Date.Fixed.mk (numeral_padded (by omega) hyear.natAbs_lt)
    (numeral_padded (by omega) h.month_lt) (numeral_padded (by omega) h.day_lt) hvalid
  rwa [hvalue, ← hyear.text] at hfixed

theorem Moment.withOffset_text (hdate : m.date.Valid) (hclock : m.clock.Valid)
    (hyear : m.date.FourDigitYear) : Stamp.WithOffset ⟨m.date, m.clock.cut, 0⟩ m.text :=
  .mk (hdate.fixed_text hyear) rfl hclock.fixed_text (.utc (.inl rfl))

/-- Text of a four-digit year is read as the moment without what the text leaves out. -/
theorem moment?_text (hdate : m.date.Valid) (hclock : m.clock.Valid)
    (hyear : m.date.FourDigitYear) :
    moment? (String.ofList m.text) = some ⟨m.date, m.clock.cut⟩ := by
  refine moment?_eq_some_iff.mpr ⟨⟨m.date, m.clock.cut, 0⟩, .inl ?_, ?_⟩
  · rw [String.toList_ofList]
    exact Moment.withOffset_text hdate hclock hyear
  · exact Moment.ofLocal_zero _ hclock.cut

theorem Stamp.WithOffset.head {x : Stamp} {cs : List Char} (h : x.WithOffset cs) :
    ∀ c ∈ cs.head?, isDigit c = true := by
  obtain ⟨⟨hys, -, -, -⟩, -, -, -⟩ := h
  rw [List.append_assoc]
  exact hys.head (by omega)

theorem Moment.countP_text (m : Moment) : m.text.countP isClockMark = 3 := by
  have hdigits (width n : Nat) : (padded width n).countP isClockMark = 0 :=
    countP_digits fun _ => isDigit_of_mem_padded
  have hyear := (looseYear_yearText m.date.year).countP
  simp [text, Date.text, Clock.text, hdigits, hyear, isClockMark]

/-- Text of another year tells no moment: its sign is of no year with an offset, and its `Z` is of
no time without one. -/
theorem moment?_text_eq_none (hyear : ¬m.date.FourDigitYear) :
    moment? (String.ofList m.text) = none := by
  unfold Date.FourDigitYear at hyear
  rw [Option.eq_none_iff_forall_ne_some]
  intro n hread
  obtain ⟨x, hx | hx, -⟩ := moment?_eq_some_iff.mp hread
  · rw [String.toList_ofList] at hx
    have hhead := hx.head
    rw [Moment.text, Date.text, yearText, if_neg hyear] at hhead
    split at hhead
    · exact absurd (hhead '-' rfl) (by decide)
    · exact absurd (hhead '+' rfl) (by decide)
  · rw [String.toList_ofList] at hx
    exact absurd (hx.countP.symm.trans m.countP_text) (by decide)

end EntityMapper.Calendar
