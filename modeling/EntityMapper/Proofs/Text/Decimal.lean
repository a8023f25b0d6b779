import EntityMapper.Text.Decimal

/-!
# The digits of a number

`digits` is a run of digits and nothing else, without leading zeros, and `valueOf` gives the number
back.
-/

namespace EntityMapper.Text.Decimal

theorem digit?_digitChar {d : Nat} (h : d < 10) : digit? (Nat.digitChar d) = some d := by
  have : ∀ d < 10, digit? (Nat.digitChar d) = some d := by decide
  exact this d h

theorem isDigit_eq (c : Char) : isDigit c = c.isDigit := by
  unfold isDigit digit? Char.isDigit
  simp only [Char.toNat, UInt32.le_iff_toNat_le, ge_iff_le]
  split <;> simp_all

theorem isDigit_of_mem_digits {n : Nat} {c : Char} (h : c ∈ digits n) : isDigit c = true := by
  rw [isDigit_eq]
  exact Nat.isDigit_of_mem_toDigits (by omega) (by omega) h

theorem valueOf_append_one (cs : List Char) (c : Char) :
    valueOf (cs ++ [c]) = 10 * valueOf cs + (digit? c).getD 0 := by
  simp [valueOf, List.foldl_append]

theorem valueOf_digits (n : Nat) : valueOf (digits n) = n := by
  induction n using Nat.strongRecOn with
  | _ n ih =>
    unfold digits
    by_cases h : n < 10
    · rw [Nat.toDigits_of_lt_base h]
      simp [valueOf, digit?_digitChar h]
    · have hlast := digit?_digitChar (Nat.mod_lt n (by omega : 0 < 10))
      rw [Nat.toDigits_of_base_le (by omega) (by omega), valueOf_append_one, hlast]
      have := ih (n / 10) (by omega)
      unfold digits at this
      rw [this, Option.getD_some]
      omega

/-! ## The first digit -/

theorem digits_ne_nil (n : Nat) : digits n ≠ [] := by
  unfold digits
  by_cases h : n < 10
  · rw [Nat.toDigits_of_lt_base h]
    simp
  · rw [Nat.toDigits_of_base_le (by omega) (by omega)]
    simp

theorem ofInt_ne_nil (n : Int) : ofInt n ≠ [] := by
  unfold ofInt
  split
  · exact List.cons_ne_nil _ _
  · exact digits_ne_nil _

theorem head?_digits_ne_zero {n : Nat} (hn : 0 < n) : (digits n).head? ≠ some '0' := by
  induction n using Nat.strongRecOn with
  | _ n ih =>
    by_cases h : n < 10
    · have hdigit := digit?_digitChar h
      unfold digits
      rw [Nat.toDigits_of_lt_base h]
      intro hzero
      rw [Option.some.inj hzero] at hdigit
      have hvalue : (0 : Nat) = n := Option.some.inj hdigit
      omega
    · have hfront := ih (n / 10) (by omega) (by omega)
      unfold digits at hfront ⊢
      rw [Nat.toDigits_of_base_le (by omega) (by omega), List.head?_append]
      cases hhead : (Nat.toDigits 10 (n / 10)).head? with
      | none => exact absurd (List.head?_eq_none_iff.mp hhead) (digits_ne_nil _)
      | some c =>
        rw [hhead] at hfront
        exact hfront

/-! ## Digits at the front of a text -/

/-- A number is read up to the first character that is no digit. -/
theorem takeWhile_digits (n : Nat) {rest : List Char} (h : ∀ c ∈ rest.head?, isDigit c = false) :
    (digits n ++ rest).takeWhile isDigit = digits n := by
  rw [List.takeWhile_append_of_pos fun c hc => isDigit_of_mem_digits hc]
  cases rest with
  | nil => simp
  | cons c cs => simp [h c rfl]

theorem dropWhile_digits (n : Nat) {rest : List Char} (h : ∀ c ∈ rest.head?, isDigit c = false) :
    (digits n ++ rest).dropWhile isDigit = rest := by
  rw [List.dropWhile_append_of_pos fun c hc => isDigit_of_mem_digits hc]
  cases rest with
  | nil => rfl
  | cons c cs => simp [h c rfl]

end EntityMapper.Text.Decimal
