import EntityMapper.Field.Value

/-!
# Values that fields take

A checked value is null only when the value was, and is otherwise of the type of its field.
-/

namespace EntityMapper

variable {f : Field} {v w : Json}

/-- The values of a kind once they are checked, null apart. -/
def FieldKind.Takes : FieldKind → Json → Prop
  | .text _ _ _, .str _ | .date, .str _ | .datetime, .str _ | .blob, .str _ => True
  | .number _ _, .int _ | .number _ _, .float _ => True
  | .boolean, .bool _ => True
  | .json, _ => True
  | .primary _ _, .int _ | .primary _ _, .str _ => True
  | .relation _, .int _ | .relation _, .str _ => True
  | _, _ => False

theorem Json.normalizeNumber_float (x : Double) :
    (∃ n, (Json.float x).normalizeNumber = .int n) ∨ (Json.float x).normalizeNumber = .float x := by
  dsimp only [Json.normalizeNumber]
  split
  · split
    · exact .inl ⟨_, rfl⟩
    · exact .inr rfl
  · exact .inr rfl

namespace Field

theorem str_of_checkText (h : f.checkText v = .ok w) : v = w ∧ ∃ s, w = .str s := by
  unfold checkText at h
  split at h
  · cases h
    exact ⟨rfl, _, rfl⟩
  · cases h

theorem number_of_checkNumber (h : f.checkNumber v = .ok w) :
    (∃ n, w = .int n) ∨ ∃ x, w = .float x := by
  unfold checkNumber at h
  split at h
  · cases h
    exact .inl ⟨_, rfl⟩
  · cases h
    exact .inr ⟨_, rfl⟩
  · split at h
    · cases h
      rename_i x _
      exact (Json.normalizeNumber_float x).imp_right fun hx => ⟨x, hx⟩
    · cases h
  · cases h

theorem bool_of_checkBoolean (h : f.checkBoolean v = .ok w) : ∃ b, w = .bool b := by
  unfold checkBoolean at h
  repeat' split at h
  all_goals cases h
  all_goals exact ⟨_, rfl⟩

theorem str_of_checkDate (h : f.checkDate v = .ok w) : ∃ s, w = .str s := by
  unfold checkDate at h
  repeat' split at h
  all_goals cases h
  exact ⟨_, rfl⟩

theorem str_of_checkDatetime (h : f.checkDatetime v = .ok w) : ∃ s, w = .str s := by
  unfold checkDatetime at h
  repeat' split at h
  all_goals cases h
  exact ⟨_, rfl⟩

theorem str_of_checkBlob (h : f.checkBlob v = .ok w) : ∃ s, w = .str s := by
  unfold checkBlob at h
  repeat' split at h
  all_goals cases h
  all_goals exact ⟨_, rfl⟩

theorem key_of_checkKey {format : KeyFormat} (h : f.checkKey format v = .ok w) :
    (∃ n, w = .int n) ∨ ∃ s, w = .str s := by
  unfold checkKey checkIntegerKey checkTextKey at h
  repeat' split at h
  all_goals cases h
  all_goals first | exact .inl ⟨_, rfl⟩ | exact .inr ⟨_, rfl⟩

/-- A value other than null stays so, and has the type of the field. -/
theorem takes_of_checkPresent (hv : v.isNull = false) (h : f.checkPresent v = .ok w) :
    w.isNull = false ∧ f.kind.Takes w := by
  unfold checkPresent at h
  generalize f.kind = kind at h ⊢
  cases kind with
  | text =>
    obtain ⟨-, s, rfl⟩ := str_of_checkText h
    exact ⟨rfl, trivial⟩
  | number =>
    rcases number_of_checkNumber h with ⟨n, rfl⟩ | ⟨x, rfl⟩ <;> exact ⟨rfl, trivial⟩
  | boolean =>
    obtain ⟨b, rfl⟩ := bool_of_checkBoolean h
    exact ⟨rfl, trivial⟩
  | date =>
    obtain ⟨s, rfl⟩ := str_of_checkDate h
    exact ⟨rfl, trivial⟩
  | datetime =>
    obtain ⟨s, rfl⟩ := str_of_checkDatetime h
    exact ⟨rfl, trivial⟩
  | json =>
    cases h
    exact ⟨hv, trivial⟩
  | blob =>
    obtain ⟨s, rfl⟩ := str_of_checkBlob h
    exact ⟨rfl, trivial⟩
  | primary | relation =>
    rcases key_of_checkKey h with ⟨n, rfl⟩ | ⟨s, rfl⟩ <;> exact ⟨rfl, trivial⟩
  | virtual => cases h

theorem check_of_present (hv : v.isNull = false) : f.check v = f.checkPresent v := by
  cases v with
  | null => cases hv
  | _ => rfl

theorem check_cases (h : f.check v = .ok w) :
    (v = .null ∧ w = .null) ∨ (v.isNull = false ∧ w.isNull = false ∧ f.kind.Takes w) := by
  cases hv : v.isNull with
  | true =>
    cases v <;> cases hv
    cases h
    exact .inl ⟨rfl, rfl⟩
  | false =>
    rw [check_of_present hv] at h
    exact .inr ⟨rfl, takes_of_checkPresent hv h⟩

theorem check_json (hkind : f.kind = .json) (v : Json) : f.check v = .ok v := by
  unfold check
  split
  · rfl
  · unfold checkPresent
    rw [hkind]

/-- A stored field refuses a value only for not being of its type. -/
theorem mismatch_of_check {x : Violation} (hf : f.isStored = true) (h : f.check v = .error x) :
    ∃ expected, x = .mismatch f.name expected v := by
  unfold check at h
  split at h
  · cases h
  unfold checkPresent at h
  split at h
  case h_6 => cases h
  case h_10 hkind =>
    rw [isStored, isVirtual, hkind] at hf
    cases hf
  all_goals
    simp only [checkText, checkNumber, checkBoolean, checkDate, checkDatetime, checkBlob, checkKey,
      checkIntegerKey, checkTextKey] at h
    repeat' split at h
    all_goals cases h
    all_goals exact ⟨_, rfl⟩

end Field
end EntityMapper
