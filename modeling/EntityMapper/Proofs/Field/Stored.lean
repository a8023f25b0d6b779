import EntityMapper.Proofs.Calendar.RoundTrip
import EntityMapper.Proofs.Engine.GeneratedKeys
import EntityMapper.Proofs.Field.Bytes

/-!
# Checking what is stored

A stored form that is read back and checked again is taken as it is. The one exception are moments
whose year has no four digits: their text is that of no moment and is refused.
-/

namespace EntityMapper

variable {f : Field} {v w : Json}

namespace Field

/-! ## One kind at a time -/

theorem checkText_again (h : f.checkText v = .ok w) : f.checkText w = .ok w := by
  obtain ⟨-, s, rfl⟩ := str_of_checkText h
  rfl

theorem checkNumber_again (h : f.checkNumber v = .ok w) : f.checkNumber w = .ok w := by
  rcases number_of_checkNumber h with ⟨n, rfl⟩ | ⟨x, rfl⟩ <;> rfl

theorem checkBoolean_again (h : f.checkBoolean v = .ok w) : f.checkBoolean w = .ok w := by
  obtain ⟨b, rfl⟩ := bool_of_checkBoolean h
  rfl

theorem checkDate_again (h : f.checkDate v = .ok w) : f.checkDate w = .ok w := by
  unfold checkDate at h
  split at h
  · split at h
    · rename_i d hread
      cases h
      simp [checkDate, Calendar.date?_text (Calendar.valid_of_date? hread)]
    · cases h
  · cases h

theorem checkBlob_again (h : f.checkBlob v = .ok w) : f.checkBlob w = .ok w := by
  obtain ⟨bytes, -, rfl⟩ := checkBlob_ok_iff.mp h
  exact checkBlob_ok_iff.mpr ⟨bytes, tellsBytes_ofBytes bytes, rfl⟩

theorem checkIntegerKey_again (h : f.checkIntegerKey v = .ok w) : f.checkIntegerKey w = .ok w := by
  unfold checkIntegerKey at h
  repeat' split at h
  all_goals cases h
  all_goals rfl

theorem checkTextKey_again (h : f.checkTextKey v = .ok w) : f.checkTextKey w = .ok w := by
  obtain ⟨key, -, hkey, rfl⟩ := checkTextKey_iff.mp h
  exact checkTextKey_iff.mpr ⟨key, rfl, hkey, rfl⟩

theorem checkKey_again {format : KeyFormat} (h : f.checkKey format v = .ok w) :
    f.checkKey format w = .ok w := by
  cases format with
  | integer => exact checkIntegerKey_again h
  | _ => exact checkTextKey_again h

/-- The value tells a moment whose year is not of four digits. -/
def TellsFar (v : Json) : Prop :=
  ∃ s m, v = .str s ∧ Calendar.moment? s = some m ∧ ¬m.date.FourDigitYear

theorem checkDatetime_again (h : f.checkDatetime v = .ok w) :
    (¬TellsFar v → f.checkDatetime w = .ok w) ∧
      (TellsFar v → f.checkDatetime w = f.refuse "an RFC 3339 datetime" w) := by
  cases v with
  | str s =>
    cases hread : Calendar.moment? s with
    | none => simp [checkDatetime, hread, refuse] at h
    | some m =>
      simp only [checkDatetime, hread, Except.ok.injEq] at h
      subst h
      obtain ⟨hdate, hclock⟩ := Calendar.valid_of_moment? hread
      constructor
      · intro hnear
        have hyear : m.date.FourDigitYear := by
          by_contra hfar
          exact hnear ⟨s, m, rfl, hread, hfar⟩
        -- What is read again differs below the millisecond, which the text leaves out.
        have htext : Calendar.Moment.text ⟨m.date, m.clock.cut⟩ = m.text := by
          rw [Calendar.Moment.text, Calendar.Clock.text_cut, Calendar.Moment.text]
        simp [checkDatetime, Calendar.moment?_text hdate hclock hyear, htext]
      · rintro ⟨s', m', hs, hread', hfar⟩
        cases hs
        cases hread.symm.trans hread'
        simp [checkDatetime, Calendar.moment?_text_eq_none hfar]
  | _ => simp [checkDatetime, refuse] at h

/-! ## Any kind -/

/-- The stored form is of a moment that is not read again. -/
def StoresFar (f : Field) (v : Json) : Prop := f.kind = .datetime ∧ TellsFar v

theorem checkPresent_again (h : f.checkPresent v = .ok w) :
    (¬f.StoresFar v → f.checkPresent w = .ok w) ∧
      (f.StoresFar v → f.checkPresent w = f.refuse "an RFC 3339 datetime" w) := by
  unfold checkPresent StoresFar at *
  generalize f.kind = kind at h ⊢
  cases kind with
  | datetime => simpa using checkDatetime_again h
  | text => exact ⟨fun _ => checkText_again h, fun hfar => nomatch hfar.1⟩
  | number => exact ⟨fun _ => checkNumber_again h, fun hfar => nomatch hfar.1⟩
  | boolean => exact ⟨fun _ => checkBoolean_again h, fun hfar => nomatch hfar.1⟩
  | date => exact ⟨fun _ => checkDate_again h, fun hfar => nomatch hfar.1⟩
  | json => exact ⟨fun _ => rfl, fun hfar => nomatch hfar.1⟩
  | blob => exact ⟨fun _ => checkBlob_again h, fun hfar => nomatch hfar.1⟩
  | primary | relation => exact ⟨fun _ => checkKey_again h, fun hfar => nomatch hfar.1⟩
  | virtual => cases h

/-- A stored form is taken as it is when it is checked again, unless it is of a moment whose year
has no four digits: that one is refused. -/
theorem check_stored (h : f.check v = .ok w) :
    (¬f.StoresFar v → f.check w = .ok w) ∧
      (f.StoresFar v → f.check w = f.refuse "an RFC 3339 datetime" w) := by
  rcases check_cases h with ⟨rfl, rfl⟩ | ⟨hv, hw, -⟩
  · exact ⟨fun _ => rfl, fun ⟨_, s, m, hs, _⟩ => nomatch hs⟩
  · rw [check_of_present hv] at h
    rw [check_of_present hw]
    exact checkPresent_again h

/-- One stored form is of a leap day in UTC and the other of a year after 9999. -/
theorem check_stored_late :
    ¬(plain "at" .datetime).StoresFar (.str "2024-03-01T00:30:00+01:00")
      ∧ (plain "at" .datetime).check (.str "2024-03-01T00:30:00+01:00")
        = .ok (.str "2024-02-29T23:30:00.000Z")
      ∧ (plain "at" .datetime).check (.str "2024-02-29T23:30:00.000Z")
        = .ok (.str "2024-02-29T23:30:00.000Z")
      ∧ (plain "at" .datetime).StoresFar (.str "9999-12-31T23:30:00-01:00")
      ∧ (plain "at" .datetime).check (.str "9999-12-31T23:30:00-01:00")
        = .ok (.str "+10000-01-01T00:30:00.000Z")
      ∧ (plain "at" .datetime).check (.str "+10000-01-01T00:30:00.000Z")
        = .error (.mismatch "at" "an RFC 3339 datetime" (.str "+10000-01-01T00:30:00.000Z")) := by
  have hnear : (plain "at" .datetime).check (.str "2024-03-01T00:30:00+01:00")
      = .ok (.str "2024-02-29T23:30:00.000Z") := rfl
  have hfar : (plain "at" .datetime).check (.str "9999-12-31T23:30:00-01:00")
      = .ok (.str "+10000-01-01T00:30:00.000Z") := rfl
  have hread : Calendar.moment? "2024-03-01T00:30:00+01:00"
      = some ⟨⟨2024, 2, 29⟩, ⟨23, 30, 0, 0⟩⟩ := rfl
  have hstores : ¬(plain "at" .datetime).StoresFar (.str "2024-03-01T00:30:00+01:00") := by
    rintro ⟨-, s, m, hs, hm, hyear⟩
    cases hs
    cases hread.symm.trans hm
    exact hyear (by simp [Calendar.Date.FourDigitYear])
  have hstores' : (plain "at" .datetime).StoresFar (.str "9999-12-31T23:30:00-01:00") :=
    ⟨rfl, _, ⟨⟨10000, 1, 1⟩, ⟨0, 30, 0, 0⟩⟩, rfl, rfl, by simp [Calendar.Date.FourDigitYear]⟩
  exact ⟨hstores, hnear, (check_stored hnear).1 hstores, hstores', hfar,
    (check_stored hfar).2 hstores'⟩

/-- The last half hour of 9999 is of the year 10000 in UTC, when clocks are an hour behind it. -/
theorem late_moment_is_not_taken_again :
    (plain "at" .datetime).check (.str "9999-12-31T23:30:00-01:00")
        = .ok (.str "+10000-01-01T00:30:00.000Z")
      ∧ (plain "at" .datetime).check (.str "+10000-01-01T00:30:00.000Z")
        ≠ .ok (.str "+10000-01-01T00:30:00.000Z") := by
  have hagain : (plain "at" .datetime).check (.str "+10000-01-01T00:30:00.000Z")
      = .error (.mismatch "at" "an RFC 3339 datetime" (.str "+10000-01-01T00:30:00.000Z")) := rfl
  rw [hagain]
  exact ⟨rfl, nofun⟩

end Field
end EntityMapper
