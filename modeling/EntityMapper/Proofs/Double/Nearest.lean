import EntityMapper.Proofs.Double.Integers

/-!
# The binary64 number nearest to an integer

Up to 53 bits it is the integer itself; of more bits only the first 53 are kept, rounded. Rounding keeps
the order of integers, but makes some neighbours the same.
-/

namespace EntityMapper.Double

/-! ## Natural numbers -/

section Natural

variable {m n : Nat}

theorem roundDiv_mono {den : Nat} (h : m ≤ n) : roundDiv m den ≤ roundDiv n den := by
  have hquotient : m / den ≤ n / den := Nat.div_le_div_right h
  have hm := Nat.div_add_mod m den
  have hn := Nat.div_add_mod n den
  unfold roundDiv
  dsimp only
  rcases Nat.lt_or_eq_of_le hquotient with hlt | heq
  · split <;> split <;> omega
  · rw [heq] at hm ⊢
    have hrest : m % den ≤ n % den := by omega
    split <;> split <;> omega

/-- The first 53 bits of a number, a half rounded to the even neighbour. -/
def nearestNat (n : Nat) : Nat := roundDiv n (2 ^ (n.log2 - 52)) * 2 ^ (n.log2 - 52)

theorem nearestNat_of_log2_le (h : n.log2 ≤ 52) : nearestNat n = n := by
  have hzero : n.log2 - 52 = 0 := by omega
  rw [nearestNat, hzero, Nat.pow_zero, roundDiv_one, Nat.mul_one]

theorem log2_lt_of_lt (h : n < 2 * leastNormal) : n.log2 ≤ 52 := by
  by_cases hzero : n = 0
  · rw [hzero, Nat.log2_zero]
    exact Nat.zero_le _
  · exact Nat.le_of_lt_succ ((Nat.log2_lt hzero).mpr h)

/-- Rounding goes no further than to the next power of two. -/
theorem nearestNat_le (n : Nat) : nearestNat n ≤ 2 ^ (n.log2 + 1) := by
  have hsplit : 2 ^ (n.log2 + 1) = 2 ^ (n.log2 + 1 - (n.log2 - 52)) * 2 ^ (n.log2 - 52) := by
    rw [← Nat.pow_add]
    congr 1
    omega
  rw [nearestNat, hsplit]
  refine Nat.mul_le_mul_right _ (roundDiv_le ?_)
  rw [← hsplit]
  exact Nat.lt_log2_self

theorem le_nearestNat (hn : n ≠ 0) : 2 ^ n.log2 ≤ nearestNat n := by
  have hsplit : 2 ^ n.log2 = 2 ^ (n.log2 - (n.log2 - 52)) * 2 ^ (n.log2 - 52) := by
    rw [← Nat.pow_add]
    congr 1
    omega
  rw [nearestNat, hsplit]
  refine Nat.mul_le_mul_right _ (le_roundDiv (by positivity) ?_)
  rw [← hsplit]
  exact Nat.log2_self_le hn

theorem nearestNat_mono (h : m ≤ n) : nearestNat m ≤ nearestNat n := by
  by_cases hm : m = 0
  · have hzero : nearestNat 0 = 0 := rfl
    rw [hm, hzero]
    exact Nat.zero_le _
  · have hn : n ≠ 0 := by omega
    have hbits : m.log2 ≤ n.log2 := (Nat.le_log2 hn).mpr ((Nat.log2_self_le hm).trans h)
    rcases Nat.lt_or_eq_of_le hbits with hless | hsame
    · calc nearestNat m ≤ 2 ^ (m.log2 + 1) := nearestNat_le m
        _ ≤ 2 ^ n.log2 := Nat.pow_le_pow_right (by omega) hless
        _ ≤ nearestNat n := le_nearestNat hn
    · unfold nearestNat
      rw [hsame]
      exact Nat.mul_le_mul_right _ (roundDiv_mono h)

end Natural

/-! ## Integers -/

variable {a b n : Int}

/-- The integer that is the binary64 number nearest to an integer. -/
def nearestInt (n : Int) : Int := if n < 0 then -(nearestNat n.natAbs : Int) else nearestNat n.natAbs

theorem nearestInt_of_small (h : n.natAbs < 2 * leastNormal) : nearestInt n = n := by
  unfold nearestInt
  rw [nearestNat_of_log2_le (log2_lt_of_lt h)]
  split <;> omega

theorem nearestInt_mono (h : a ≤ b) : nearestInt a ≤ nearestInt b := by
  unfold nearestInt
  split <;> split
  · have hle := nearestNat_mono (show b.natAbs ≤ a.natAbs by omega)
    omega
  · omega
  · omega
  · have hle := nearestNat_mono (show a.natAbs ≤ b.natAbs by omega)
    omega

/-- Beyond 53 bits rounding stays beyond them. -/
theorem le_natAbs_nearestInt (h : 2 * leastNormal ≤ n.natAbs) :
    2 * leastNormal ≤ (nearestInt n).natAbs := by
  have hlimit : nearestNat (2 * leastNormal) = 2 * leastNormal := by decide
  have hbeyond := nearestNat_mono h
  rw [hlimit] at hbeyond
  unfold nearestInt
  split <;> omega

/-- An integer below 53 bits is not the nearest number to any other integer. -/
theorem nearestInt_ne (ha : a.natAbs < 2 * leastNormal) (hne : a ≠ b) :
    nearestInt a ≠ nearestInt b := by
  have hsame := nearestInt_of_small ha
  by_cases hb : b.natAbs < 2 * leastNormal
  · rw [hsame, nearestInt_of_small hb]
    exact hne
  · have hbeyond := le_natAbs_nearestInt (Nat.le_of_not_lt hb)
    rw [hsame]
    rintro rfl
    omega

/-- The binary64 number that an integer of 64 bits is compared as. -/
theorem scaled_of_ofInt? (h : n.natAbs < 2 ^ 64) :
    ∃ x, ofInt? n = some x ∧ x.scaled = nearestInt n * one := by
  by_cases hsmall : n.natAbs < 2 * leastNormal
  · rw [nearestInt_of_small hsmall]
    exact scaled_ofInt? hsmall
  · have hzero : n.natAbs ≠ 0 := by
      rintro hzero
      exact hsmall (hzero ▸ by decide)
    have hleast : 52 ≤ n.natAbs.log2 := (Nat.le_log2 hzero).mpr (by
      have hnormal : leastNormal = 2 ^ 52 := rfl
      omega)
    have hmost : n.natAbs.log2 < 64 := (Nat.log2_lt hzero).mpr h
    obtain ⟨s, hs⟩ : ∃ s, n.natAbs.log2 = 52 + s := ⟨n.natAbs.log2 - 52, by omega⟩
    have hround : ∃ x, ofInt? n = some x ∧ _ := ofRatio?_of_large hs (by omega)
    obtain ⟨x, hx, hnegative, hunits⟩ := hround
    have hnearest : nearestNat n.natAbs = roundDiv n.natAbs (2 ^ s) * 2 ^ s := by
      have hshift : n.natAbs.log2 - 52 = s := by omega
      rw [nearestNat, hshift]
    refine ⟨x, hx, ?_⟩
    unfold scaled nearestInt
    rw [hunits, hnegative, hnearest]
    by_cases hsign : n < 0
    · simp only [hsign, decide_true, if_true, Int.natCast_mul, Int.neg_mul]
    · simp only [hsign, decide_false, Bool.false_eq_true, if_false, Int.natCast_mul]

/-! ## Units of the least positive number -/

theorem units_pos : (0 : Int) < one := by
  unfold one
  generalize 1074 = bits
  exact Int.natCast_pos.mpr (Nat.pow_pos (by decide))

theorem units_inj : a * one = b * one ↔ a = b :=
  Int.mul_eq_mul_right_iff (Int.ne_of_gt units_pos)

theorem compare_units (a b : Int) : Ord.compare (a * one) (b * one) = Ord.compare a b := by
  have hless : a * one < b * one ↔ a < b := Int.mul_lt_mul_right units_pos
  simp only [Ord.compare, compareOfLessAndEq, hless, units_inj]

end EntityMapper.Double
