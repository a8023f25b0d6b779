import EntityMapper.Proofs.Field.Values
import EntityMapper.Proofs.Text.Hex

/-!
# Fields of bytes

A field of bytes takes a list of integers that are bytes and hexadecimal text in letters of either
case, and nothing else. Both are stored as the text in lower case, which tells one list of bytes from
every other.
-/

namespace EntityMapper

/-- The value tells the bytes: as a list of integers, or as hexadecimal text in letters of either
case. -/
def Json.TellsBytes (v : Json) (bytes : List UInt8) : Prop :=
  v = .arr (bytes.map fun b => .int b.toNat)
    ∨ ∃ s, v = .str s ∧ Text.Hex.IsText (s.toList.map Char.toLower) bytes

theorem Json.ofBytes_injective {bytes bytes' : List UInt8} (h : ofBytes bytes = ofBytes bytes') :
    bytes = bytes' :=
  Text.Hex.encode_injective (String.ofList_injective (Json.str.inj h))

theorem Json.isText_ofBytes (bytes : List UInt8) :
    ∃ s, ofBytes bytes = .str s ∧ Text.Hex.IsText s.toList bytes :=
  ⟨_, rfl, Text.Hex.isText_iff.mpr String.toList_ofList⟩

namespace Field

variable {f : Field} {v w : Json}

theorem byte?_eq_some_iff {j : Json} {b : UInt8} : byte? j = some b ↔ j = .int b.toNat := by
  have hb := b.toNat_lt
  unfold byte?
  cases j with
  | int n =>
    simp only [Json.natUpTo?, Json.int.injEq]
    split
    · rename_i hrange
      rw [Option.map_some, Option.some.injEq, ← UInt8.toNat_inj, UInt8.toNat_ofNat']
      omega
    · rename_i hrange
      simp only [Option.map_none, reduceCtorEq, false_iff]
      omega
  | _ => simp [Json.natUpTo?]

theorem mapM_byte?_iff {items : List Json} {bytes : List UInt8} :
    items.mapM byte? = some bytes ↔ items = bytes.map fun b => .int b.toNat := by
  induction items generalizing bytes with
  | nil => cases bytes <;> simp
  | cons item items ih =>
    simp only [List.mapM_cons, Option.bind_eq_bind, Option.bind_eq_some_iff, Option.pure_def,
      Option.some.injEq, byte?_eq_some_iff, ih]
    cases bytes with
    | nil => simp
    | cons b bytes => simp

theorem tellsBytes_str {s : String} {bytes : List UInt8} :
    (Json.str s).TellsBytes bytes ↔ Text.Hex.decode? s.toList = some bytes := by
  simp [Json.TellsBytes, Text.Hex.isText_iff, Text.Hex.decode?_eq_some_iff]

theorem tellsBytes_arr {items : List Json} {bytes : List UInt8} :
    (Json.arr items).TellsBytes bytes ↔ items.mapM byte? = some bytes := by
  simp [Json.TellsBytes, mapM_byte?_iff]

theorem tellsBytes_ofBytes (bytes : List UInt8) : (Json.ofBytes bytes).TellsBytes bytes := by
  rw [Json.ofBytes, tellsBytes_str, String.toList_ofList, Text.Hex.decode?_encode]

theorem checkBlob_ok_iff :
    f.checkBlob v = .ok w ↔ ∃ bytes, v.TellsBytes bytes ∧ w = .ofBytes bytes := by
  unfold checkBlob
  cases v with
  | str s =>
    simp only [tellsBytes_str]
    cases Text.Hex.decode? s.toList <;> simp [refuse, eq_comm]
  | arr items =>
    simp only [tellsBytes_arr]
    cases items.mapM byte? <;> simp [refuse, eq_comm]
  | _ => simp [refuse, Json.TellsBytes]

theorem check_blob_ok_iff (hkind : f.kind = .blob) : f.check v = .ok w
    ↔ v = .null ∧ w = .null ∨ ∃ bytes, v.TellsBytes bytes ∧ w = .ofBytes bytes := by
  cases v with
  | null => simp [check, Json.TellsBytes, eq_comm]
  | _ =>
    rw [check_of_present rfl, checkPresent, hkind]
    simp [checkBlob_ok_iff]

/-- A field of bytes takes what tells bytes, which is stored as their text in lower case, and nothing
else. Text is taken when it has an even number of digits and no other character. Values that tell
different bytes are stored differently. -/
theorem check_bytes (hkind : f.kind = .blob) :
    (∀ v w, f.check v = .ok w
        ↔ v = .null ∧ w = .null ∨ ∃ bytes, v.TellsBytes bytes ∧ w = .ofBytes bytes)
      ∧ (∀ bytes, ∃ s, Json.ofBytes bytes = .str s ∧ Text.Hex.IsText s.toList bytes)
      ∧ (∀ s, (∃ w, f.check (.str s) = .ok w)
        ↔ s.length % 2 = 0 ∧ ∀ c ∈ s.toList, c.toLower ∈ Text.Hex.lowerDigits)
      ∧ ∀ v v' w bytes bytes', v.TellsBytes bytes → v'.TellsBytes bytes' →
        f.check v = .ok w → f.check v' = .ok w → bytes = bytes' := by
  refine ⟨fun v w => check_blob_ok_iff hkind, Json.isText_ofBytes, fun s => ?_, ?_⟩
  · rw [← String.length_toList, ← Text.Hex.exists_decode?_iff]
    simp only [check_blob_ok_iff hkind, tellsBytes_str]
    constructor
    · rintro ⟨w, ⟨hnull, -⟩ | ⟨bytes, hread, -⟩⟩
      · cases hnull
      · exact ⟨bytes, hread⟩
    · rintro ⟨bytes, hread⟩
      exact ⟨_, .inr ⟨bytes, hread, rfl⟩⟩
  · intro v v' w bytes bytes' hv hv' hw hw'
    have hstored := (check_blob_ok_iff hkind).mpr (.inr ⟨bytes, hv, rfl⟩)
    have hstored' := (check_blob_ok_iff hkind).mpr (.inr ⟨bytes', hv', rfl⟩)
    rw [hw] at hstored
    rw [hw'] at hstored'
    exact Json.ofBytes_injective ((Except.ok.inj hstored).symm.trans (Except.ok.inj hstored'))

/-- Text in letters of both cases and a list tell the same two bytes. Neither half a byte nor a number
beyond a byte is taken. -/
theorem check_bytes_payload :
    (plain "payload" .blob).kind = .blob
      ∧ (plain "payload" .blob).check (.str "01fF") = .ok (.str "01ff")
      ∧ (plain "payload" .blob).check (.arr [.int 1, .int 255]) = .ok (.str "01ff")
      ∧ (∀ w, (plain "payload" .blob).check (.str "01f") ≠ .ok w)
      ∧ (∀ w, (plain "payload" .blob).check (.arr [.int 1, .int 256]) ≠ .ok w)
      ∧ ∀ v, v.TellsBytes [1, 254] → (plain "payload" .blob).check v ≠ .ok (.str "01ff") := by
  have hkind : (plain "payload" .blob).kind = .blob := rfl
  obtain ⟨hcheck, -, htext, hdistinct⟩ := check_bytes hkind
  have hstr : (Json.str "01fF").TellsBytes [1, 255] := tellsBytes_str.mpr (by decide)
  have harr : (Json.arr [.int 1, .int 255]).TellsBytes [1, 255] := .inl rfl
  have hstored := (hcheck _ _).mpr (.inr ⟨_, hstr, rfl⟩)
  refine ⟨hkind, hstored, (hcheck _ _).mpr (.inr ⟨_, harr, rfl⟩), fun w hw => ?_, fun w hw => ?_,
    fun v hv hw => ?_⟩
  · exact absurd ((htext _).mp ⟨w, hw⟩).1 (by decide)
  · cases hw
  · exact absurd (hdistinct _ _ _ _ _ hstr hv hstored hw) (by decide)

end Field
end EntityMapper
