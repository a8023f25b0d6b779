import EntityMapper.Text.Hex

/-!
# Hexadecimal text and the bytes it stands for

Bytes have one text in lower case, and a text is read as bytes when it is that text in letters of
either case. So a text is refused when it has an odd number of characters or one that is no digit.
-/

namespace EntityMapper.Text.Hex

variable {c : Char} {n : Nat} {cs : List Char} {bytes : List UInt8}

/-! ## One digit -/

/-- The digits of lower case in the order of their values. -/
def lowerDigits : List Char := "0123456789abcdef".toList

theorem digit?_digit (h : n < 16) : digit? (digit n) = some n := by
  have hall : ∀ n < 16, digit? (digit n) = some n := by decide
  exact hall n h

theorem toNat_digit (h : n < 16) : (digit n).toNat = if n < 10 then 48 + n else 87 + n := by
  have hall : ∀ n < 16, (digit n).toNat = if n < 10 then 48 + n else 87 + n := by decide
  exact hall n h

theorem toLower_digit (h : n < 16) : (digit n).toLower = digit n := by
  have hall : ∀ n < 16, (digit n).toLower = digit n := by decide
  exact hall n h

theorem getElem?_lowerDigits (h : n < 16) : lowerDigits[n]? = some (digit n) := by
  have hall : ∀ n < 16, lowerDigits[n]? = some (digit n) := by decide
  exact hall n h

theorem toNat_toLower (c : Char) :
    c.toLower.toNat = if 65 ≤ c.toNat ∧ c.toNat ≤ 90 then c.toNat + 32 else c.toNat := by
  have hupper : (c.val ≥ 'A'.val ∧ c.val ≤ 'Z'.val) ↔ 65 ≤ c.toNat ∧ c.toNat ≤ 90 := by
    simp [UInt32.le_iff_toNat_le]
  unfold Char.toLower
  by_cases h : 65 ≤ c.toNat ∧ c.toNat ≤ 90
  · rw [dif_pos (hupper.mpr h), if_pos h]
    have hshift : ('a'.val - 'A'.val).toNat = 32 := by decide
    rw [Char.toNat_mk, UInt32.toNat_add, Char.toNat_val, hshift]
    omega
  · rw [dif_neg (mt hupper.mp h), if_neg h]

/-- A digit is read in either case. -/
theorem digit?_eq_some_iff : digit? c = some n ↔ n < 16 ∧ c.toLower = digit n := by
  have hread : digit? c = some n ↔ n < 16 ∧ c.toLower.toNat = if n < 10 then 48 + n else 87 + n := by
    rw [toNat_toLower]
    unfold digit?
    grind
  rw [hread]
  refine and_congr_right fun h => ?_
  rw [← toNat_digit h, Char.toNat_inj]

theorem exists_digit?_iff : (∃ n, digit? c = some n) ↔ c.toLower ∈ lowerDigits := by
  have hdigits : lowerDigits = (List.range 16).map digit := by decide
  simp only [digit?_eq_some_iff, hdigits, List.mem_map, List.mem_range, eq_comm (a := c.toLower)]

/-! ## Reading -/

theorem encode_cons (b : UInt8) (bytes : List UInt8) : encode (b :: bytes)
    = digit (b.toNat / 16) :: digit (b.toNat % 16) :: encode bytes := rfl

theorem decode?_eq_some_iff : decode? cs = some bytes ↔ cs.map Char.toLower = encode bytes := by
  induction cs using decode?.induct generalizing bytes with
  | case1 =>
    cases bytes <;> simp [decode?, encode]
  | case2 a =>
    cases bytes <;> simp [decode?, encode]
  | case3 a b rest ih =>
    simp only [decode?, Option.bind_eq_bind, Option.bind_eq_some_iff, Option.pure_def,
      Option.some.injEq, digit?_eq_some_iff, ih, List.map_cons]
    constructor
    · rintro ⟨high, ⟨hhigh, ha⟩, low, ⟨hlow, hb⟩, others, hothers, rfl⟩
      have hvalue : (UInt8.ofNat (16 * high + low)).toNat = 16 * high + low := by
        rw [UInt8.toNat_ofNat']
        omega
      have hdiv : (16 * high + low) / 16 = high := by omega
      have hmod : (16 * high + low) % 16 = low := by omega
      rw [encode_cons, hvalue, hdiv, hmod, ha, hb, hothers]
    · intro h
      cases bytes with
      | nil => cases h
      | cons byte bytes =>
        have hbyte := byte.toNat_lt
        have hvalue : 16 * (byte.toNat / 16) + byte.toNat % 16 = byte.toNat := by omega
        rw [encode_cons] at h
        simp only [List.cons.injEq] at h
        obtain ⟨ha, hb, hrest⟩ := h
        refine ⟨_, ⟨by omega, ha⟩, _, ⟨by omega, hb⟩, bytes, hrest, ?_⟩
        rw [hvalue, UInt8.ofNat_toNat]

theorem toLower_encode (bytes : List UInt8) : (encode bytes).map Char.toLower = encode bytes := by
  induction bytes with
  | nil => rfl
  | cons b bytes ih =>
    have hb := b.toNat_lt
    rw [encode_cons, List.map_cons, List.map_cons, toLower_digit (by omega), toLower_digit (by omega),
      ih]

theorem decode?_encode (bytes : List UInt8) : decode? (encode bytes) = some bytes :=
  decode?_eq_some_iff.mpr (toLower_encode bytes)

theorem encode_injective {bytes' : List UInt8} (h : encode bytes = encode bytes') :
    bytes = bytes' := by
  have hread := decode?_encode bytes
  rw [h, decode?_encode] at hread
  exact (Option.some.inj hread).symm

/-- A text is read when it has two digits for each byte. -/
theorem exists_decode?_iff : (∃ bytes, decode? cs = some bytes)
    ↔ cs.length % 2 = 0 ∧ ∀ c ∈ cs, c.toLower ∈ lowerDigits := by
  induction cs using decode?.induct with
  | case1 => simp [decode?]
  | case2 a => simp [decode?]
  | case3 a b rest ih =>
    have hparts : (∃ bytes, decode? (a :: b :: rest) = some bytes)
        ↔ (∃ n, digit? a = some n) ∧ (∃ n, digit? b = some n) ∧ ∃ bytes, decode? rest = some bytes := by
      simp only [decode?, Option.bind_eq_bind, Option.bind_eq_some_iff, Option.pure_def]
      constructor
      · rintro ⟨_, high, hhigh, low, hlow, others, hothers, -⟩
        exact ⟨⟨high, hhigh⟩, ⟨low, hlow⟩, others, hothers⟩
      · rintro ⟨⟨high, hhigh⟩, ⟨low, hlow⟩, others, hothers⟩
        exact ⟨_, high, hhigh, low, hlow, others, hothers, rfl⟩
    have hlength : (a :: b :: rest).length % 2 = rest.length % 2 := by
      rw [List.length_cons, List.length_cons]
      omega
    rw [hparts, exists_digit?_iff, exists_digit?_iff, ih, hlength, List.forall_mem_cons,
      List.forall_mem_cons]
    constructor
    · rintro ⟨ha, hb, heven, hrest⟩
      exact ⟨heven, ha, hb, hrest⟩
    · rintro ⟨heven, ha, hb, hrest⟩
      exact ⟨ha, hb, heven, hrest⟩

/-! ## Written text -/

/-- The text of the bytes in lower case: two digits for each, that of the sixteens first. -/
def IsText (cs : List Char) (bytes : List UInt8) : Prop :=
  cs.map some = bytes.flatMap fun b => [lowerDigits[b.toNat / 16]?, lowerDigits[b.toNat % 16]?]

theorem isText_iff : IsText cs bytes ↔ cs = encode bytes := by
  have hencode : (bytes.flatMap fun b => [lowerDigits[b.toNat / 16]?, lowerDigits[b.toNat % 16]?])
      = (encode bytes).map some := by
    induction bytes with
    | nil => rfl
    | cons b bytes ih =>
      have hb := b.toNat_lt
      rw [List.flatMap_cons, getElem?_lowerDigits (by omega), getElem?_lowerDigits (by omega), ih]
      rfl
  rw [IsText, hencode]
  exact List.map_inj_right fun _ _ => Option.some.inj

end EntityMapper.Text.Hex
