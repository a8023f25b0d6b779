import EntityMapper.Calendar.Reading
import EntityMapper.Proofs.Text.Decimal
import Mathlib.Tactic.Linarith
import Mathlib.Tactic.Ring

/-!
# Numbers of a given width

A `Numeral` is a number as dates and times have it: a run of digits between two widths. `number?`
reads the longest one at the front of a text, `padded` writes one of a fixed width, and numerals of
one width sort as text by their values.
-/

namespace EntityMapper.Text.Decimal

theorem isDigit_iff {c : Char} : isDigit c = true ↔ 48 ≤ c.toNat ∧ c.toNat ≤ 57 := by
  simp [isDigit, digit?]

theorem digit?_getD {c : Char} (h : isDigit c = true) : (digit? c).getD 0 = c.toNat - 48 := by
  simp [digit?, isDigit_iff.mp h]

theorem digit?_getD_lt (c : Char) : (digit? c).getD 0 < 10 := by
  by_cases h : isDigit c = true
  · have := isDigit_iff.mp h
    rw [digit?_getD h]
    omega
  · simp_all [isDigit]

@[simp] theorem valueOf_nil : valueOf [] = 0 := rfl

theorem foldl_valueOf (n : Nat) (cs : List Char) :
    cs.foldl (fun n c => 10 * n + (digit? c).getD 0) n = n * 10 ^ cs.length + valueOf cs := by
  induction cs generalizing n with
  | nil => simp
  | cons c cs ih =>
    have hvalue : valueOf (c :: cs) = (digit? c).getD 0 * 10 ^ cs.length + valueOf cs := by
      simpa [valueOf] using ih (digit? c |>.getD 0)
    rw [List.foldl_cons, ih, hvalue, List.length_cons, pow_succ]
    ring

theorem valueOf_cons (c : Char) (cs : List Char) :
    valueOf (c :: cs) = (digit? c).getD 0 * 10 ^ cs.length + valueOf cs := by
  simpa [valueOf] using foldl_valueOf ((digit? c).getD 0) cs

theorem valueOf_append (cs ds : List Char) :
    valueOf (cs ++ ds) = valueOf cs * 10 ^ ds.length + valueOf ds := by
  rw [valueOf, List.foldl_append, foldl_valueOf, ← valueOf]

theorem valueOf_lt (cs : List Char) : valueOf cs < 10 ^ cs.length := by
  induction cs with
  | nil => simp
  | cons c cs ih =>
    have hc := digit?_getD_lt c
    rw [valueOf_cons, List.length_cons, pow_succ]
    nlinarith

/-- Of two numbers in one base, the leading parts decide before the rests. -/
theorem mul_add_lt_iff {x y u v base : Nat} (hu : u < base) (hv : v < base) :
    x * base + u < y * base + v ↔ x < y ∨ x = y ∧ u < v := by
  rcases Nat.lt_trichotomy x y with h | rfl | h
  · have : (x + 1) * base ≤ y * base := Nat.mul_le_mul_right base h
    grind
  · simp
  · have : (y + 1) * base ≤ x * base := Nat.mul_le_mul_right base h
    grind

/-- Runs of digits of one length sort by value. -/
theorem lt_iff_valueOf_lt {ds es : List Char} (hlength : ds.length = es.length)
    (hds : ∀ c ∈ ds, isDigit c = true) (hes : ∀ c ∈ es, isDigit c = true) :
    ds < es ↔ valueOf ds < valueOf es := by
  induction ds generalizing es with
  | nil =>
    rw [List.eq_nil_of_length_eq_zero hlength.symm]
    simp
  | cons c ds ih =>
    cases es with
    | nil => simp at hlength
    | cons d es =>
      simp only [List.length_cons, Nat.add_right_cancel_iff, List.mem_cons, forall_eq_or_imp]
        at hlength hds hes
      have hlead : c < d ↔ c.toNat - 48 < d.toNat - 48 := by
        have hc := isDigit_iff.mp hds.1
        have hd := isDigit_iff.mp hes.1
        rw [Char.lt_def, UInt32.lt_iff_toNat_lt]
        simp only [Char.toNat] at hc hd ⊢
        omega
      have hsame : c = d ↔ c.toNat - 48 = d.toNat - 48 := by
        have hc := isDigit_iff.mp hds.1
        have hd := isDigit_iff.mp hes.1
        rw [← Char.toNat_inj]
        omega
      rw [List.cons_lt_cons_iff, ih hlength hds.2 hes.2, valueOf_cons, valueOf_cons,
        digit?_getD hds.1, digit?_getD hes.1, hlead, hsame, hlength,
        mul_add_lt_iff (hlength ▸ valueOf_lt ds) (valueOf_lt es)]

end EntityMapper.Text.Decimal

namespace EntityMapper.Calendar

open Text.Decimal

variable {least most width n m : Nat} {cs ds es rest : List Char}

/-- A number in digits, `least` to `most` of them. -/
structure Numeral (least most n : Nat) (ds : List Char) : Prop where
  digits : ∀ c ∈ ds, isDigit c = true
  least_le : least ≤ ds.length
  le_most : ds.length ≤ most
  value : valueOf ds = n

-- By `List.all`, so that the digits of the run are looked at and not every character there is.
instance : Decidable (Numeral least most n ds) :=
  decidable_of_iff (ds.all isDigit = true ∧ least ≤ ds.length ∧ ds.length ≤ most ∧ valueOf ds = n)
    ⟨fun ⟨hdigits, hleast, hmost, hvalue⟩ => ⟨List.all_eq_true.mp hdigits, hleast, hmost, hvalue⟩,
      fun ⟨hdigits, hleast, hmost, hvalue⟩ =>
        ⟨List.all_eq_true.mpr hdigits, hleast, hmost, hvalue⟩⟩

theorem Numeral.lt (h : Numeral least most n ds) : n < 10 ^ most :=
  calc
    n = valueOf ds := h.value.symm
    _ < 10 ^ ds.length := valueOf_lt ds
    _ ≤ 10 ^ most := Nat.pow_le_pow_right (by omega) h.le_most

theorem Numeral.extend {least' most' : Nat} (h : Numeral least most n ds)
    (hleast : least' ≤ least) (hmost : ds.length ≤ most') : Numeral least' most' n ds :=
  ⟨h.digits, hleast.trans h.least_le, hmost, h.value⟩

theorem Numeral.head (h : Numeral least most n ds) (hleast : 0 < least) :
    ∀ c ∈ (ds ++ rest).head?, isDigit c = true := by
  cases ds with
  | nil => exact absurd h.least_le (by simp; omega)
  | cons c ds => simpa using h.digits c (by simp)

/-- The text does not begin with a digit. -/
def NoDigit (cs : List Char) : Prop := ∀ c ∈ cs.head?, isDigit c = false

@[simp] theorem noDigit_nil : NoDigit [] := by simp [NoDigit]

@[simp] theorem noDigit_cons {c : Char} : NoDigit (c :: cs) ↔ isDigit c = false := by
  simp [NoDigit]

/-! ## Reading -/

theorem exists_run (most : Nat) (cs : List Char) :
    ∃ ds rest, cs = ds ++ rest ∧ (∀ c ∈ ds, isDigit c = true) ∧ ds.length ≤ most ∧
      (ds.length = most ∨ NoDigit rest) := by
  induction most generalizing cs with
  | zero => exact ⟨[], cs, by simp⟩
  | succ most ih =>
    cases cs with
    | nil => exact ⟨[], [], by simp⟩
    | cons c cs =>
      by_cases hc : isDigit c = true
      · obtain ⟨ds, rest, rfl, hds, hle, hend⟩ := ih cs
        exact ⟨c :: ds, rest, by simp, by simpa [hc] using hds, by simpa using hle,
          by simpa using hend⟩
      · exact ⟨[], c :: cs, by simp [hc]⟩

theorem takeWhile_take_run (hds : ∀ c ∈ ds, isDigit c = true) (hle : ds.length ≤ most)
    (hend : ds.length = most ∨ NoDigit rest) :
    ((ds ++ rest).take most).takeWhile isDigit = ds := by
  have htail : (rest.take (most - ds.length)).takeWhile isDigit = [] := by
    rcases hend with h | h
    · simp [h]
    · cases rest with
      | nil => simp
      | cons c cs => cases hk : most - ds.length <;> simp_all
  rw [List.take_append, List.take_of_length_le hle, List.takeWhile_append_of_pos hds, htail,
    List.append_nil]

/-- A number takes as many digits as it can. -/
theorem number?_eq_some_iff : number? least most cs = some (n, rest) ↔
    ∃ ds, Numeral least most n ds ∧ cs = ds ++ rest ∧ (ds.length = most ∨ NoDigit rest) := by
  constructor
  · intro h
    obtain ⟨ds, rest', rfl, hds, hle, hend⟩ := exists_run most cs
    simp only [number?, takeWhile_take_run hds hle hend, List.drop_left,
      Option.ite_none_left_eq_some, Option.some.injEq, Prod.mk.injEq] at h
    obtain ⟨hlong, hvalue, rfl⟩ := h
    exact ⟨ds, ⟨hds, by omega, hle, hvalue⟩, rfl, hend⟩
  · rintro ⟨ds, hds, rfl, hend⟩
    simp [number?, takeWhile_take_run hds.digits hds.le_most hend, hds.value, hds.least_le]

theorem Numeral.read (h : Numeral least most n ds) (hrest : NoDigit rest) :
    number? least most (ds ++ rest) = some (n, rest) :=
  number?_eq_some_iff.mpr ⟨ds, h, rfl, .inr hrest⟩

theorem number?_fixed_iff : number? width width cs = some (n, rest) ↔
    ∃ ds, Numeral width width n ds ∧ cs = ds ++ rest := by
  rw [number?_eq_some_iff]
  exact exists_congr fun ds => and_congr_right fun hds =>
    and_iff_left (.inl (Nat.le_antisymm hds.le_most hds.least_le))

theorem Numeral.read_fixed (h : Numeral width width n ds) (rest : List Char) :
    number? width width (ds ++ rest) = some (n, rest) :=
  number?_fixed_iff.mpr ⟨ds, h, rfl⟩

theorem expect?_eq_some_iff {c : Char} : expect? c cs = some rest ↔ cs = c :: rest := by
  cases cs with
  | nil => simp [expect?]
  | cons d cs =>
    simp only [expect?, Option.ite_none_right_eq_some, Option.some.injEq, List.cons.injEq]
    exact and_congr_left' eq_comm

@[simp] theorem expect?_cons (c : Char) (cs : List Char) : expect? c (c :: cs) = some cs := by
  simp [expect?]

/-! ## Writing -/

theorem length_digits_le (hwidth : 0 < width) (h : n < 10 ^ width) : (digits n).length ≤ width :=
  (Nat.length_toDigits_le_iff (by omega) hwidth).mpr h

theorem valueOf_padded (width n : Nat) : valueOf (padded width n) = n := by
  have hzeros (k : Nat) : valueOf (List.replicate k '0') = 0 := by
    induction k with
    | zero => rfl
    | succ k ih =>
      rw [List.replicate_succ, valueOf_cons, ih, digit?_getD rfl]
      simp
  unfold padded
  simp only [valueOf_append, hzeros, valueOf_digits]
  omega

theorem isDigit_of_mem_padded {c : Char} (h : c ∈ padded width n) : isDigit c = true := by
  unfold padded at h
  rcases List.mem_append.mp h with h | h
  · rw [List.eq_of_mem_replicate h]
    rfl
  · exact isDigit_of_mem_digits h

theorem length_padded (hwidth : 0 < width) (h : n < 10 ^ width) :
    (padded width n).length = width := by
  have := length_digits_le hwidth h
  simp [padded]
  omega

theorem numeral_padded (hwidth : 0 < width) (h : n < 10 ^ width) :
    Numeral width width n (padded width n) where
  digits _ := isDigit_of_mem_padded
  least_le := (length_padded hwidth h).ge
  le_most := (length_padded hwidth h).le
  value := valueOf_padded width n

theorem Numeral.lt_iff (hds : Numeral width width n ds) (hes : Numeral width width m es) :
    ds < es ↔ n < m := by
  have hlength : ds.length = es.length := by
    have := hds.least_le; have := hds.le_most; have := hes.least_le; have := hes.le_most
    omega
  rw [lt_iff_valueOf_lt hlength hds.digits hes.digits, hds.value, hes.value]

end EntityMapper.Calendar
