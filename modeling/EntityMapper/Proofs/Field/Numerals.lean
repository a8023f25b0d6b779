import EntityMapper.Proofs.Calendar.Reading
import EntityMapper.Proofs.Double.Nearest
import EntityMapper.Proofs.Field.Values
import EntityMapper.Proofs.Json.Number

/-!
# Numerals

What a field makes of the decimal text of an integer. A number field reads it as a binary64 number and
so keeps integers of up to 53 bits; a key reads it as a signed integer of 64 bits. Both take the integer
itself as it is, so beyond these limits the text and the integer part.
-/

namespace EntityMapper

open Double Text.Decimal

variable {f : Field} {n : Int} {m : Nat}

namespace Text.Decimal

/-- The decimal text of an integer. -/
def numeral (n : Int) : String := String.ofList (ofInt n)

theorem toList_numeral (n : Int) :
    (numeral n).toList = if n < 0 then '-' :: digits n.natAbs else digits n.natAbs :=
  String.toList_ofList

theorem trim_numeral (n : Int) : trim (numeral n) = numeral n := by
  have hdigits : ∀ c ∈ digits n.natAbs, isBlank c = false := fun c hc =>
    Calendar.isBlank_of_isDigit (isDigit_of_mem_digits hc)
  apply trim_eq_self
  rw [toList_numeral]
  split
  · simp only [List.mem_cons, forall_eq_or_imp]
    exact ⟨by decide, hdigits⟩
  · exact hdigits

/-- Digits do not begin with a sign. -/
theorem exists_digits (m : Nat) : ∃ c cs, digits m = c :: cs ∧ isDigit c = true := by
  obtain ⟨c, cs, hdigits⟩ := List.exists_cons_of_ne_nil (digits_ne_nil m)
  exact ⟨c, cs, hdigits, isDigit_of_mem_digits (hdigits ▸ List.mem_cons_self)⟩

/-! ## Reading with a limit -/

theorem readDigits_eq {limit v : Nat} {cs : List Char} (hv : v ≤ limit)
    (hcs : ∀ c ∈ cs, isDigit c = true) :
    readDigits limit v cs =
      if cs.foldl (fun n c => 10 * n + (digit? c).getD 0) v ≤ limit
      then .ok (cs.foldl (fun n c => 10 * n + (digit? c).getD 0) v) else .error .tooLarge := by
  induction cs generalizing v with
  | nil => simp [readDigits, hv]
  | cons c cs ih =>
    rw [List.forall_mem_cons] at hcs
    obtain ⟨d, hd⟩ := Option.isSome_iff_exists.mp hcs.1
    have hnext := Json.le_foldl_digits cs (10 * v + d)
    simp only [readDigits, hd, List.foldl_cons, Option.getD_some]
    split
    · rename_i hlimit
      exact ih hlimit hcs.2
    · -- What is beyond the limit stays beyond it, whatever digits follow.
      rw [if_neg (by omega)]

theorem readDigits_digits (limit m : Nat) :
    readDigits limit 0 (digits m) = if m ≤ limit then .ok m else .error .tooLarge := by
  have hvalue := valueOf_digits m
  unfold valueOf at hvalue
  rw [readDigits_eq (Nat.zero_le _) fun c hc => isDigit_of_mem_digits hc, hvalue]

theorem readInt64?_digits (m : Nat) : readInt64? (String.ofList (digits m)) =
    if m ≤ 9223372036854775807 then some (m : Int) else none := by
  obtain ⟨c, cs, hdigits, hc⟩ := exists_digits m
  have hread := readDigits_digits 9223372036854775807 m
  have hplus : c ≠ '+' := by rintro rfl; cases hc
  have hminus : c ≠ '-' := by rintro rfl; cases hc
  rw [hdigits] at hread ⊢
  unfold readInt64?
  rw [String.toList_ofList]
  split <;> simp_all
  split <;> rfl

theorem readInt64?_neg (m : Nat) : readInt64? (String.ofList ('-' :: digits m)) =
    if m ≤ 9223372036854775808 then some (-m : Int) else none := by
  obtain ⟨c, cs, hdigits, -⟩ := exists_digits m
  have hread := readDigits_digits 9223372036854775808 m
  rw [hdigits] at hread ⊢
  simp only [readInt64?, String.toList_ofList, hread]
  split <;> rfl

theorem readInt64?_numeral (n : Int) : readInt64? (numeral n) =
    if -9223372036854775808 ≤ n ∧ n ≤ 9223372036854775807 then some n else none := by
  unfold numeral ofInt
  by_cases hn : n < 0
  · have habs : (-n.natAbs : Int) = n := by omega
    have hlimit : n.natAbs ≤ 9223372036854775808
      ↔ -9223372036854775808 ≤ n ∧ n ≤ 9223372036854775807 := by omega
    rw [if_pos hn, readInt64?_neg, habs]
    simp only [hlimit]
  · have habs : (n.natAbs : Int) = n := by omega
    have hlimit : n.natAbs ≤ 9223372036854775807
      ↔ -9223372036854775808 ≤ n ∧ n ≤ 9223372036854775807 := by omega
    rw [if_neg hn, readInt64?_digits, habs]
    simp only [hlimit]

end Text.Decimal

/-! ## Reading as a binary64 number -/

namespace Double

theorem toLower_of_isDigit {c : Char} (h : isDigit c = true) : c.toLower = c := by
  have hrange : 48 ≤ c.val.toNat ∧ c.val.toNat ≤ 57 := isDigit_iff.mp h
  have hupper : ¬('A'.val ≤ c.val ∧ c.val ≤ 'Z'.val) := by
    have hfirst : 'A'.val.toNat = 65 := rfl
    simp only [UInt32.le_iff_toNat_le]
    omega
  exact dif_neg hupper

/-- Digits are not the name of infinity or of the undefined number. -/
theorem lower_digits_ne (name : String) (hname : ∃ c ∈ name.toList, isDigit c = false) (m : Nat) :
    String.ofList ((digits m).map Char.toLower) ≠ name := by
  rintro rfl
  obtain ⟨c, hc, hother⟩ := hname
  simp only [String.toList_ofList, List.mem_map] at hc
  obtain ⟨d, hd, rfl⟩ := hc
  have hdigit := isDigit_of_mem_digits hd
  simp [toLower_of_isDigit hdigit, hdigit] at hother

theorem nearest_digits (negative : Bool) (m : Nat) :
    nearest negative (digits m) [] 0 =
      match ofRatio? negative m 1 with
      | some x => .finite x
      | none => .infinite negative := by
  unfold nearest
  rw [List.append_nil, valueOf_digits]
  by_cases hm : m = 0
  · simp [hm, ofRatio?]
  · simp only [hm, if_false, ofDecimal?]
    cases hround : ofRatio? negative m 1 <;> simp [hround]

theorem readUnsigned?_digits (negative : Bool) (m : Nat) :
    readUnsigned? negative (digits m) = some (nearest negative (digits m) [] 0) := by
  have hwhole : (digits m ++ []).takeWhile isDigit = digits m := takeWhile_digits m (by simp)
  have hrest : (digits m ++ []).dropWhile isDigit = [] := dropWhile_digits m (by simp)
  have hinf := lower_digits_ne "inf" ⟨'i', by decide, by decide⟩ m
  have hinfinity := lower_digits_ne "infinity" ⟨'i', by decide, by decide⟩ m
  have hnan := lower_digits_ne "nan" ⟨'n', by decide, by decide⟩ m
  rw [List.append_nil] at hwhole hrest
  simp [readUnsigned?, hinf, hinfinity, hnan, hwhole, hrest, digits_ne_nil]

/-- The text of an integer denotes the number nearest to it. -/
theorem read?_numeral {x : Double} (h : ofInt? n = some x) :
    read? (numeral n) = some (.finite x) := by
  have hread (negative : Bool) (hsign : negative = decide (n < 0)) :
      readUnsigned? negative (digits n.natAbs) = some (.finite x) := by
    rw [readUnsigned?_digits, nearest_digits, hsign]
    unfold ofInt? at h
    simp [h]
  unfold read?
  rw [toList_numeral]
  by_cases hn : n < 0
  · simpa [hn] using hread true
  · obtain ⟨c, cs, hdigits, hc⟩ := exists_digits n.natAbs
    have hplus : c ≠ '+' := by rintro rfl; cases hc
    have hminus : c ≠ '-' := by rintro rfl; cases hc
    have hunsigned := hread false (by simp [hn])
    rw [if_neg hn]
    rw [hdigits] at hunsigned ⊢
    split <;> simp_all

theorem toInt?_of_scaled {x : Double} (h : x.scaled = n * one) : x.toInt? = some n := by
  have hdiv : n * (one : Int) / one = n := Int.mul_ediv_cancel _ units_pos.ne'
  have hmod : n * (one : Int) % one = 0 := Int.mul_emod_left _ _
  unfold toInt?
  rw [h, if_pos hmod, hdiv]

end Double

/-! ## Checking -/

namespace Field

theorem check_of_number {minimum maximum : Option Extended} (hkind : f.kind = .number minimum maximum)
    {v : Json} (hv : v.isNull = false) : f.check v = f.checkNumber v := by
  rw [check_of_present hv, checkPresent, hkind]

theorem check_of_integerKey (hkey : f.keyFormat = some .integer) {v : Json} (hv : v.isNull = false) :
    f.check v = f.checkIntegerKey v := by
  rw [check_of_present hv, checkPresent]
  unfold keyFormat at hkey
  split at hkey <;> simp_all [checkKey]

/-- The limit is that of the integers that binary64 numbers tell apart. -/
theorem checkNumber_numeral {x : Double} (h : ofInt? n = some x)
    (hscaled : x.scaled = nearestInt n * one) : f.checkNumber (.str (numeral n))
      = .ok (if n.natAbs ≤ safeIntegerLimit then .int n else .float x) := by
  have hwhole := toInt?_of_scaled hscaled
  have hlimit : safeIntegerLimit + 1 = 2 * leastNormal := rfl
  simp only [checkNumber, trim_numeral, read?_numeral h, Option.bind_some, Extended.finite?,
    Json.normalizeNumber, hwhole]
  by_cases hn : n.natAbs ≤ safeIntegerLimit
  · rw [nearestInt_of_small (by omega)]
  · have hbeyond := le_natAbs_nearestInt (n := n) (by omega)
    rw [if_neg hn, if_neg (by omega)]

theorem checkIntegerKey_numeral (n : Int) : f.checkIntegerKey (.str (numeral n)) =
    if -9223372036854775808 ≤ n ∧ n ≤ 9223372036854775807 then .ok (.int n)
    else f.refuse "an integer key" (.str (numeral n)) := by
  simp only [checkIntegerKey, trim_numeral, readInt64?_numeral]
  by_cases hn : -9223372036854775808 ≤ n ∧ n ≤ 9223372036854775807
  · simp only [hn, and_self, if_true]
  · simp only [hn, if_false]

/-- Fields that count take an integer as it is. The numeral of an integer is the same to a number field
exactly up to the limit of 53 bits, and is rounded to a binary64 number beyond it; to a key it is the
same exactly up to the limit of signed integers, and is refused beyond it. -/
theorem check_numeral (f : Field) (hn : Json.Fits n) :
    (∀ minimum maximum, f.kind = .number minimum maximum →
      f.check (.int n) = .ok (.int n)
        ∧ (f.check (.str (numeral n)) = .ok (.int n) ↔ n.natAbs ≤ safeIntegerLimit)
        ∧ (safeIntegerLimit < n.natAbs → ∃ x : Double, x.scaled = nearestInt n * one
          ∧ f.check (.str (numeral n)) = .ok (.float x)))
      ∧ (f.keyFormat = some .integer →
        f.check (.int n) = .ok (.int n)
          ∧ (f.check (.str (numeral n)) = .ok (.int n) ↔ n ≤ 9223372036854775807)
          ∧ (9223372036854775807 < n →
            f.check (.str (numeral n)) = f.refuse "an integer key" (.str (numeral n)))) := by
  constructor
  · intro minimum maximum hkind
    obtain ⟨x, hx, hscaled⟩ := scaled_of_ofInt? (Nat.lt_of_le_of_lt hn.natAbs_le (by decide))
    rw [check_of_number hkind rfl, check_of_number hkind rfl, checkNumber_numeral hx hscaled]
    refine ⟨rfl, ?_, fun hbeyond => ⟨x, hscaled, by rw [if_neg (by omega)]⟩⟩
    by_cases hsafe : n.natAbs ≤ safeIntegerLimit <;> simp [hsafe]
  · intro hkey
    have hleast := hn.1
    rw [check_of_integerKey hkey rfl, check_of_integerKey hkey rfl, checkIntegerKey_numeral]
    refine ⟨rfl, ?_, fun hbeyond => by rw [if_neg (by omega)]⟩
    by_cases hmost : n ≤ 9223372036854775807 <;> simp [hleast, hmost, refuse]

/-- The least safe integer and the least key. -/
theorem check_numeral_least :
    Json.Fits (-9007199254740991) ∧ Json.Fits (-9223372036854775808)
      ∧ (number "rank").kind = .number none none
      ∧ (number "rank").check (.str "-9007199254740991") = .ok (.int (-9007199254740991))
      ∧ (primary "id" .integer).keyFormat = some .integer
      ∧ (primary "id" .integer).check (.str "-9223372036854775808")
        = .ok (.int (-9223372036854775808)) := by
  have hsafe : Json.Fits (-9007199254740991) := by decide
  have hleast : Json.Fits (-9223372036854775808) := by decide
  have hnumber := ((check_numeral (number "rank") hsafe).1 none none rfl).2.1.mpr (by decide)
  have hkey := ((check_numeral (primary "id" .integer) hleast).2 rfl).2.1.mpr (by decide)
  have htext : numeral (-9007199254740991) = "-9007199254740991" := by decide
  have hkeyText : numeral (-9223372036854775808) = "-9223372036854775808" := by decide
  rw [htext] at hnumber
  rw [hkeyText] at hkey
  exact ⟨hsafe, hleast, rfl, hnumber, rfl, hkey⟩

/-- The numeral of an integer of 54 bits is taken for its neighbour, and that of a key of 64 bits is
refused, where both are taken when they are integers. -/
theorem numerals_are_not_integers :
    Json.Fits 9007199254740993 ∧ Json.Fits 18446744073709551615
      ∧ (number "rank").check (.int 9007199254740993) = .ok (.int 9007199254740993)
      ∧ (∃ x : Double, x.toInt? = some 9007199254740992
        ∧ (number "rank").check (.str "9007199254740993") = .ok (.float x))
      ∧ (primary "id" .integer).check (.int 18446744073709551615) = .ok (.int 18446744073709551615)
      ∧ (primary "id" .integer).check (.str "18446744073709551615")
        = .error (.mismatch "id" "an integer key" (.str "18446744073709551615")) := by
  have hfits : Json.Fits 9007199254740993 := by decide
  have hround : nearestInt 9007199254740993 = 9007199254740992 := by decide
  obtain ⟨x, hx, hscaled⟩ :=
    scaled_of_ofInt? (Nat.lt_of_le_of_lt hfits.natAbs_le (by decide))
  have htext : numeral 9007199254740993 = "9007199254740993" := by decide
  have hnumber := checkNumber_numeral (f := number "rank") hx hscaled
  rw [htext, if_neg (by decide)] at hnumber
  have hwhole := toInt?_of_scaled hscaled
  rw [hround] at hwhole
  exact ⟨hfits, by decide, rfl, ⟨x, hwhole, hnumber⟩, rfl, rfl⟩

end Field

end EntityMapper
