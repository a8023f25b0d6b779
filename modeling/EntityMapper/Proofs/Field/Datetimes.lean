import EntityMapper.Dialect
import EntityMapper.Proofs.Calendar.Order
import EntityMapper.Proofs.Dialect.Stored

/-!
# Stored moments in the order of time

SQLite keeps moments as text. Whatever notation and offset they came in, the texts are the same when
the instants agree to the millisecond, and sort as the instants do otherwise.
-/

namespace EntityMapper

open Calendar

variable {f : Field}

namespace Field

theorem check_datetime (hkind : f.kind = .datetime) (s : String) : f.check (.str s) =
    match moment? s with
    | some m => .ok (.str (String.ofList m.text))
    | none => f.refuse "an RFC 3339 datetime" (.str s) := by
  rw [check_of_present rfl, checkPresent, hkind]
  rfl

/-- The strings that are taken are those that tell a date and a time. -/
theorem check_datetime_ok_iff (hkind : f.kind = .datetime) (s : String) :
    (∃ w, f.check (.str s) = .ok w) ↔ ∃ x : Stamp, x.Shown s := by
  rw [check_datetime hkind]
  constructor
  · rintro ⟨w, h⟩
    cases hread : moment? s with
    | none => simp [hread, refuse] at h
    | some m =>
      obtain ⟨x, hx, -⟩ := moment?_eq_some_iff.mp hread
      exact ⟨x, hx⟩
  · rintro ⟨x, hx⟩
    rw [moment?_eq_some_iff.mpr ⟨x, hx, rfl⟩]
    exact ⟨_, rfl⟩

theorem check_shown (hkind : f.kind = .datetime) {s : String} {x : Stamp} (hx : x.Shown s) :
    f.check (.str s) = .ok (.str (String.ofList x.utc.text)) := by
  rw [check_datetime hkind, moment?_eq_some_iff.mpr ⟨x, hx, rfl⟩]

end Field

theorem Calendar.Stamp.Shown.plain {s : String} {x : Stamp} (hx : x.Shown s)
    (hleap : x.clock.second < 60) (hyear : x.utc.date.FourDigitYear) : x.utc.Plain := by
  obtain ⟨hdate, hclock⟩ := hx.utc_valid
  exact ⟨hdate.toOnCalendar, hclock, (Moment.second_ofLocal ..).trans_lt hleap, hyear⟩

/-- Datetimes in SQLite are text columns whose values sort as the instants do. No two instants that
agree to the millisecond have different texts, and no others the same. -/
theorem Dialect.datetimes_in_order (hkind : f.kind = .datetime) :
    (Dialect.sqlite.column? f).map ColumnSpec.type = some "text"
      ∧ (∀ s, (∃ w, f.check (.str s) = .ok w) ↔ ∃ x : Stamp, x.Shown s)
      ∧ ∀ (s t : String) (x y : Stamp), x.Shown s → y.Shown t →
        x.clock.second < 60 → y.clock.second < 60 →
        x.utc.date.FourDigitYear → y.utc.date.FourDigitYear →
        ∃ a b : String, f.check (.str s) = .ok (.str a) ∧ f.check (.str t) = .ok (.str b)
          ∧ Dialect.sqlite.encode f (.str s) = .ok (.str a)
          ∧ Dialect.sqlite.encode f (.str t) = .ok (.str b)
          ∧ (a = b ↔ x.instant / 1000000 = y.instant / 1000000)
          ∧ (a < b ↔ x.instant / 1000000 < y.instant / 1000000) := by
  refine ⟨?_, Field.check_datetime_ok_iff hkind, ?_⟩
  · simp [Dialect.column?, hkind]
  · intro s t x y hx hy hxleap hyleap hxyear hyyear
    have hxs := Field.check_shown hkind hx
    have hyt := Field.check_shown hkind hy
    have hxplain := hx.plain hxleap hxyear
    have hyplain := hy.plain hyleap hyyear
    have hlt := Moment.text_lt_iff hxplain hyplain
    have hgt := Moment.text_lt_iff hyplain hxplain
    rw [hx.instant_utc, hy.instant_utc] at hlt hgt
    refine ⟨_, _, hxs, hyt, ?_, ?_, ?_, ?_⟩
    · rw [Dialect.encode_eq, hxs, hkind]
      rfl
    · rw [Dialect.encode_eq, hyt, hkind]
      rfl
    · rw [String.ofList_inj, eq_iff_of_lt_iff hlt hgt]
    · rw [String.lt_iff, String.toList_ofList, String.toList_ofList, hlt]

/-- An hour behind UTC on a leap day, and a second later, with a blank in it, in March. -/
theorem Dialect.datetimes_in_order_leap :
    Stamp.Shown ⟨⟨2024, 2, 29⟩, ⟨23, 30, 0, 999900000⟩, -60⟩ "2024-02-29T23:30:00.9999-01:00"
      ∧ Stamp.Shown ⟨⟨2024, 3, 1⟩, ⟨0, 30, 1, 0⟩, 0⟩ "2024-3-1 0:30:01"
      ∧ (Field.plain "at" .datetime).check (.str "2024-02-29T23:30:00.9999-01:00")
        = .ok (.str "2024-03-01T00:30:00.999Z")
      ∧ (Field.plain "at" .datetime).check (.str "2024-3-1 0:30:01")
        = .ok (.str "2024-03-01T00:30:01.000Z")
      ∧ "2024-03-01T00:30:00.999Z" < "2024-03-01T00:30:01.000Z" := by
  have hx : Stamp.Shown ⟨⟨2024, 2, 29⟩, ⟨23, 30, 0, 999900000⟩, -60⟩
      "2024-02-29T23:30:00.9999-01:00" := by
    have hdate : Date.Fixed ⟨2024, 2, 29⟩ "2024-02-29".toList :=
      @Date.Fixed.mk 2024 2 29 "2024".toList "02".toList "29".toList (by decide) (by decide)
        (by decide) ⟨⟨by decide, by decide⟩, by decide⟩
    have hfraction : Fraction 999900000 ".9999".toList :=
      @Fraction.digits ['9', '9', '9', '9'] (by simp) (by simp; decide)
    have hclock : Clock.Fixed ⟨23, 30, 0, 999900000⟩ "23:30:00.9999".toList :=
      @Clock.Fixed.mk 23 30 0 999900000 "23".toList "30".toList "00".toList _ (by decide) (by decide)
        (by decide) hfraction (by constructor <;> decide)
    have hoffset : Offset (-60) "-01:00".toList :=
      @Offset.behind 60 '-' "01:00".toList (.inl rfl)
        (@HoursMinutes.mk 1 0 "01".toList "00".toList (by decide) (by decide) (by decide)
          (by decide))
    exact .inl (@Stamp.WithOffset.mk _ _ _ _ _ _ 'T' hdate rfl hclock hoffset)
  have hy : Stamp.Shown ⟨⟨2024, 3, 1⟩, ⟨0, 30, 1, 0⟩, 0⟩ "2024-3-1 0:30:01" := by
    have hdate : Date.Loose ⟨2024, 3, 1⟩ "2024-3-1".toList " 0:30:01".toList :=
      @Date.Loose.mk 2024 3 1 "2024".toList "3".toList [] "1".toList _
        (@LooseYear.plain 2024 [] "2024".toList nofun (by decide))
        (@Spaced.mk 3 [] "3".toList nofun (by decide)) nofun (by decide)
        (.inr (noDigit_cons.mpr (by decide))) ⟨⟨by decide, by decide⟩, by decide⟩
    have hclock : Clock.Loose ⟨0, 30, 1, 0⟩ " 0:30:01".toList :=
      @Clock.Loose.mk 0 30 1 0 " 0".toList "30".toList "01".toList []
        (@Spaced.mk 0 [' '] ['0'] (by simp [Blanks]; decide) (by decide))
        (@Spaced.mk 30 [] "30".toList nofun (by decide))
        (@Spaced.mk 1 [] "01".toList nofun (by decide)) .absent (by constructor <;> decide)
    exact .inr (@Stamp.InUtc.mk _ _ _ _ [] hdate (.inl rfl) hclock)
  have hfour : Date.FourDigitYear ⟨2024, 3, 1⟩ := by simp [Date.FourDigitYear]
  obtain ⟨a, b, ha, hb, -, -, -, hlt⟩ := (@datetimes_in_order (.plain "at" .datetime) rfl).2.2
    _ _ _ _ hx hy (by decide) (by decide) hfour hfour
  have hx' : (Field.plain "at" .datetime).check (.str "2024-02-29T23:30:00.9999-01:00")
      = .ok (.str "2024-03-01T00:30:00.999Z") := rfl
  have hy' : (Field.plain "at" .datetime).check (.str "2024-3-1 0:30:01")
      = .ok (.str "2024-03-01T00:30:01.000Z") := rfl
  cases ha.symm.trans hx'
  cases hb.symm.trans hy'
  exact ⟨hx, hy, hx', hy', hlt.mpr (by decide)⟩

end EntityMapper
