import EntityMapper.Dialect
import EntityMapper.Proofs.Field.Values
import EntityMapper.Proofs.Json.Reading

/-!
# Stored values

What is read back of a stored value is the value as its field takes it. PostgreSQL hands over JSON
that is already parsed, and reading it once more changes the strings that are JSON text.
-/

namespace EntityMapper

variable {d : Dialect} {f : Field} {v w : Json}

/-! ## Forms -/

/-- A value of a column: null, a number, text or, in PostgreSQL, a truth value. -/
def Dialect.Holds (d : Dialect) : Json → Prop
  | .null | .int _ | .float _ | .str _ => True
  | .bool _ => d = .postgresql
  | .arr _ | .obj _ => False

/-- The form in which rows show a value of the field. -/
def Field.shown (f : Field) (v : Json) : Json :=
  match f.kind with
  | .number _ _ => v.normalizeNumber
  | _ => v

namespace Dialect

/-! ## Columns -/

/-- The form in which a checked value is sent. -/
def form (d : Dialect) : FieldKind → Json → Json
  | _, .null => .null
  | .boolean, .bool b =>
    match d with
    | .sqlite => .int (if b then 1 else 0)
    | .postgresql => .bool b
  | .json, v => .str v.compact
  | _, v => v

theorem encode_eq (d : Dialect) (f : Field) (v : Json) :
    d.encode f v = (f.check v).map (d.form f.kind) := by
  unfold encode
  cases f.check v with
  | error e => rfl
  | ok taken =>
    cases f.kind <;> cases taken <;> rfl

theorem taken_of_encode (h : d.encode f v = .ok w) :
    ∃ taken, f.check v = .ok taken ∧ d.form f.kind taken = w := by
  rw [encode_eq] at h
  cases hcheck : f.check v with
  | error e => simp [hcheck, Except.map] at h
  | ok taken => exact ⟨taken, rfl, by simpa [hcheck, Except.map] using h⟩

@[simp] theorem isNull_form (kind : FieldKind) : (d.form kind v).isNull = v.isNull := by
  cases kind <;> cases v <;> first | rfl | (cases d <;> rfl)

@[simp] theorem form_null (kind : FieldKind) : d.form kind .null = .null := by
  cases kind <;> rfl

theorem holds_form {kind : FieldKind} (h : kind.Takes v) : d.Holds (d.form kind v) := by
  cases kind <;> cases v <;> first | exact h.elim | trivial | (cases d <;> trivial)

theorem decode_null : d.decode f .null = f.shown .null := by
  unfold decode Field.shown
  cases f.kind <;> rfl

theorem decode_form (h : f.kind.Takes v)
    (hjson : f.kind = .json → v.WellFormed ∧ v.FloatFree ∧ v.depth ≤ Json.nestingLimit) :
    d.decode f (d.form f.kind v) = f.shown v := by
  unfold decode Field.shown
  cases hkind : f.kind with
  | json =>
    obtain ⟨hwell, hfree, hdepth⟩ := hjson hkind
    have hread : decodeJson v.compact = v := by
      unfold decodeJson
      rw [Json.read?_compact hwell hfree hdepth, Option.getD_some]
    cases v <;> first | rfl | exact hread
  | boolean =>
    rw [hkind] at h
    cases v with
    | bool b => cases d <;> cases b <;> rfl
    | _ => exact h.elim
  | _ => cases v <;> rfl

theorem encode_ok_iff (d : Dialect) (f : Field) (v : Json) :
    (∃ w, d.encode f v = .ok w) ↔ ∃ taken, f.check v = .ok taken := by
  rw [encode_eq]
  cases f.check v <;> simp [Except.map]

/-- The values that can be stored are those that the field takes, and what is read back of one is the
checked value, numbers in their normal form. JSON has to be well formed for it, which all values of
JSON text are (`Json.wellFormed_of_parse?`). -/
theorem decode_encode (d : Dialect) (f : Field) (v : Json) :
    ((∃ w, d.encode f v = .ok w) ↔ ∃ taken, f.check v = .ok taken)
      ∧ ∀ w, d.encode f v = .ok w → d.Holds w
        ∧ ((f.kind = .json → v.WellFormed ∧ v.FloatFree ∧ v.depth ≤ Json.nestingLimit) →
          ∃ taken, f.check v = .ok taken ∧ d.decode f w = f.shown taken) := by
  refine ⟨encode_ok_iff d f v, fun w h => ?_⟩
  obtain ⟨taken, hcheck, rfl⟩ := taken_of_encode h
  obtain ⟨rfl, rfl⟩ | ⟨-, -, htakes⟩ := Field.check_cases hcheck
  · rw [form_null]
    exact ⟨trivial, fun _ => ⟨.null, rfl, decode_null⟩⟩
  · refine ⟨holds_form htakes, fun hjson => ⟨taken, hcheck, decode_form htakes fun hkind => ?_⟩⟩
    rw [Field.check_json hkind] at hcheck
    cases hcheck
    exact hjson hkind

/-- An object with a list in it, and with a quote, a line end and a control character in its
strings. -/
def payload : Json :=
  .obj [("k\"", .arr [.int (-7), .str "a\\\n\x01é"]), ("n", .null)]

theorem decode_encode_payload :
    ∃ w, Dialect.sqlite.encode (.plain "payload" .json) payload = .ok w
      ∧ Dialect.sqlite.Holds w
      ∧ payload.WellFormed ∧ payload.FloatFree ∧ payload.depth ≤ Json.nestingLimit
      ∧ Dialect.sqlite.decode (.plain "payload" .json) w = payload := by
  have hencode : Dialect.sqlite.encode (.plain "payload" .json) payload = .ok _ := rfl
  have hsorted : Dict.Sorted [("k\"", .arr [.int (-7), .str "a\\\n\x01é"]), ("n", Json.null)] := by
    unfold Dict.Sorted
    decide
  have hwell : payload.WellFormed := by
    simp [payload, Json.WellFormed, Json.WellFormedMembers, Json.WellFormedItems, hsorted, Json.Fits,
      Json.unsignedLimit]
  have hfree : payload.FloatFree := by
    simp [payload, Json.FloatFree, Json.FloatFreeMembers, Json.FloatFreeItems]
  have hdepth : payload.depth ≤ Json.nestingLimit := by decide
  obtain ⟨hholds, hdecode⟩ := (decode_encode .sqlite (.plain "payload" .json) payload).2 _ hencode
  obtain ⟨taken, htaken, hread⟩ := hdecode fun _ => ⟨hwell, hfree, hdepth⟩
  cases htaken
  exact ⟨_, hencode, hholds, hwell, hfree, hdepth, hread⟩

/-! ## Parsed JSON -/

/-- A value that is already parsed is kept, unless it is a string that is JSON text itself. -/
theorem decode_jsonb (hkind : f.kind = .json) :
    Dialect.postgresql.decode f v = v ↔ ∀ s, v = .str s → Json.read? s = none := by
  unfold decode
  rw [hkind]
  cases v with
  | str s =>
    change decodeJson s = .str s ↔ _
    unfold decodeJson
    cases hread : Json.read? s with
    | none => simp [hread]
    | some j =>
      have hne : j ≠ .str s := fun hsame => Json.read?_ne_str s (hsame ▸ hread)
      simp [hread, hne]
  | _ => simp

theorem decode_jsonb_word :
    Json.read? "five" = none
      ∧ Dialect.postgresql.decode (.plain "payload" .json) (.str "five") = .str "five" := by
  have hread : Json.read? "five" = none := rfl
  exact ⟨hread, (decode_jsonb rfl).mpr fun s hs => by cases hs; exact hread⟩

/-- The string is read back as a number. -/
theorem jsonb_string_becomes_number :
    (Field.plain "payload" .json).kind = .json
      ∧ Dialect.postgresql.decode (.plain "payload" .json) (.str "5") = .int 5
      ∧ Dialect.postgresql.decode (.plain "payload" .json) (.str "5") ≠ .str "5" := by
  have hnumber : Dialect.postgresql.decode (.plain "payload" .json) (.str "5") = .int 5 := rfl
  refine ⟨rfl, hnumber, ?_⟩
  rw [hnumber]
  exact Json.noConfusion

end Dialect
end EntityMapper
