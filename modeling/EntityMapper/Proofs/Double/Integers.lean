import EntityMapper.Double.Basic
import Mathlib.Tactic.Ring
import Mathlib.Tactic.Positivity

/-!
# Integers as binary64 numbers

An integer of up to 53 bits is a binary64 number itself, shifted to use all bits of the mantissa. One
of more bits is rounded to 53 of them.
-/

namespace EntityMapper.Double

variable {num den q : Nat} {negative : Bool}

/-! ## Quotients -/

theorem roundDiv_one (num : Nat) : roundDiv num 1 = num := by
  simp [roundDiv, Nat.mod_one]

theorem le_roundDiv (hden : 0 < den) (h : q * den ≤ num) : q ≤ roundDiv num den := by
  have hq : q ≤ num / den := (Nat.le_div_iff_mul_le hden).mpr h
  unfold roundDiv
  dsimp only
  split <;> omega

theorem roundDiv_le (h : num < q * den) : roundDiv num den ≤ q := by
  have hq : num / den < q := Nat.div_lt_of_lt_mul (by rwa [Nat.mul_comm])
  unfold roundDiv
  dsimp only
  split <;> omega

theorem half_le_of_roundDiv (hq : num / den < q) (h : roundDiv num den = q) :
    num / den + 1 = q ∧ den ≤ 2 * (num % den) := by
  unfold roundDiv at h
  dsimp only at h
  split at h <;> omega

/-- What is rounded up to an even number is rounded up with the double divisor, too. -/
theorem roundDiv_twice (hden : 0 < den) (hq : num / den < 2 * q) (h : roundDiv num den = 2 * q) :
    roundDiv num (2 * den) = q := by
  obtain ⟨hfloor, hhalf⟩ := half_le_of_roundDiv hq h
  obtain ⟨p, rfl⟩ : ∃ p, q = p + 1 := Nat.exists_eq_succ_of_ne_zero (by rintro rfl; cases hfloor)
  have hodd : num / den = 2 * p + 1 := Nat.succ.inj hfloor
  have hnum := Nat.mod_add_div num den
  have hmod := Nat.mod_lt num hden
  rw [hodd] at hnum
  have hparts : num / (2 * den) = p ∧ num % (2 * den) = den + num % den := by
    rw [Nat.div_mod_unique (by omega)]
    generalize num % den = r at hnum hmod
    refine ⟨?_, by omega⟩
    rw [← hnum]
    ring
  unfold roundDiv
  dsimp only
  rw [hparts.1, hparts.2, if_neg (by omega)]

/-! ## Mantissas -/

theorem mantissaAt_neg (num s : Nat) : mantissaAt num 1 (-(s : Int)) = num * 2 ^ s := by
  unfold mantissaAt
  split
  · obtain rfl : s = 0 := by omega
    simp [roundDiv_one]
  · simp [roundDiv_one]

theorem mantissaAt_nat (num s : Nat) : mantissaAt num 1 s = roundDiv num (2 ^ s) := by
  simp [mantissaAt]

theorem ofParts?_canonical {mantissa : Nat} {exponent : Int} (h : Canonical mantissa exponent) :
    ofParts? negative mantissa exponent = some ⟨negative, mantissa, exponent, h⟩ := dif_pos h

theorem ofParts?_large {mantissa : Nat} {exponent : Int} (h : 2 * leastNormal ≤ mantissa) :
    ofParts? negative mantissa exponent = none :=
  dif_neg fun hcanonical => absurd hcanonical.1 (by omega)

theorem scale_bounds {k : Nat} (hleast : 2 ^ k ≤ num) (hmost : num < 2 ^ (k + 1)) (hk : k ≤ 52) :
    leastNormal ≤ num * 2 ^ (52 - k) ∧ num * 2 ^ (52 - k) < 2 * leastNormal := by
  obtain ⟨s, hs⟩ : ∃ s, 52 = k + s := ⟨52 - k, by omega⟩
  have hsub : 52 - k = s := by omega
  have hnormal : leastNormal = 2 ^ k * 2 ^ s := by
    rw [← Nat.pow_add, ← hs]
    rfl
  have htwice : 2 * leastNormal = 2 ^ (k + 1) * 2 ^ s := by
    rw [hnormal, Nat.pow_succ]
    ring
  rw [htwice, hnormal, hsub]
  exact ⟨Nat.mul_le_mul_right _ hleast, Nat.mul_lt_mul_of_pos_right hmost (by positivity)⟩

theorem ofRatio?_one (hpos : 0 < num) :
    ofRatio? negative num 1 = List.findSome? (fun e => ofParts? negative (mantissaAt num 1 e) e)
      [(num.log2 - 53 : Int), (num.log2 - 52 : Int), (num.log2 - 51 : Int)] := by
  have hleast : max ((num.log2 : Int) - (Nat.log2 1 : Nat) - 53) (-1074) = num.log2 - 53 := by
    have hone : Nat.log2 1 = 0 := rfl
    omega
  have hnext : (num.log2 - 53 + 1 : Int) = num.log2 - 52 := by omega
  have hlast : (num.log2 - 53 + 2 : Int) = num.log2 - 51 := by omega
  unfold ofRatio?
  rw [if_neg (by omega)]
  simp only [hleast, hnext, hlast]

/-- An integer with no more bits than a mantissa is shifted to use all of them. -/
theorem ofRatio?_of_small (hpos : 0 < num) (hnum : num.log2 ≤ 52) :
    ∃ x, ofRatio? negative num 1 = some x ∧ x.negative = negative
      ∧ x.mantissa = num * 2 ^ (52 - num.log2) ∧ x.exponent = num.log2 - 52 := by
  obtain ⟨hleast, hmost⟩ := scale_bounds (Nat.log2_self_le (by omega)) Nat.lt_log2_self hnum
  have hcanonical : Canonical (num * 2 ^ (52 - num.log2)) (num.log2 - 52) :=
    ⟨hmost, by omega, by omega, .inl hleast⟩
  have hfirst : mantissaAt num 1 (num.log2 - 53) = num * 2 ^ (52 - num.log2) * 2 := by
    have he : (num.log2 - 53 : Int) = -((53 - num.log2 : Nat) : Int) := by omega
    have hs : 53 - num.log2 = (52 - num.log2) + 1 := by omega
    rw [he, mantissaAt_neg, hs, Nat.pow_succ, Nat.mul_assoc]
  have hsecond : mantissaAt num 1 (num.log2 - 52) = num * 2 ^ (52 - num.log2) := by
    have he : (num.log2 - 52 : Int) = -((52 - num.log2 : Nat) : Int) := by omega
    rw [he, mantissaAt_neg]
  have hlarge : 2 * leastNormal ≤ num * 2 ^ (52 - num.log2) * 2 := by omega
  refine ⟨⟨negative, _, _, hcanonical⟩, ?_, rfl, rfl, rfl⟩
  rw [ofRatio?_one hpos, List.findSome?_cons, hfirst, ofParts?_large hlarge]
  dsimp only
  rw [List.findSome?_cons, hsecond, ofParts?_canonical hcanonical]

/-- A mantissa in units of the least positive number, with an exponent that is not negative. -/
theorem units_of_nat (m s : Nat) : m * Nat.pow 2 ((s : Int) + 1074).toNat = m * 2 ^ s * one := by
  have hexponent : ((s : Int) + 1074).toNat = s + 1074 := by omega
  unfold one
  rw [hexponent, Nat.mul_assoc]
  generalize 1074 = k
  exact congrArg (m * ·) (Nat.pow_add 2 s k)

/-- An integer with more bits is rounded to 53 of them, or up to the next power of two. -/
theorem ofRatio?_of_large {s : Nat} (hs : num.log2 = 52 + s) (hmost : s ≤ 900) :
    ∃ x, ofRatio? negative num 1 = some x ∧ x.negative = negative
      ∧ x.mantissa * Nat.pow 2 (x.exponent + 1074).toNat = roundDiv num (2 ^ s) * 2 ^ s * one := by
  have hpos : 0 < num := Nat.pos_of_ne_zero (by rintro rfl; rw [Nat.log2_zero] at hs; omega)
  have hlow : leastNormal * 2 ^ s ≤ num := by
    have hle := Nat.log2_self_le (n := num) (by omega)
    rwa [hs, Nat.pow_add] at hle
  have hhigh : num < 2 * leastNormal * 2 ^ s := by
    have hlt := Nat.lt_log2_self (n := num)
    rw [hs, Nat.add_right_comm, Nat.pow_add] at hlt
    exact hlt
  have hbits := le_roundDiv (by positivity) hlow
  have hround := roundDiv_le hhigh
  -- One bit more than a mantissa has is left with the first of the three exponents.
  have hfirst : 2 * leastNormal ≤ mantissaAt num 1 (num.log2 - 53) := by
    rcases Nat.eq_zero_or_pos s with rfl | hspos
    · have he : (num.log2 - 53 : Int) = -((1 : Nat) : Int) := by omega
      rw [he, mantissaAt_neg]
      omega
    · obtain ⟨r, rfl⟩ := Nat.exists_eq_add_of_le' hspos
      have he : (num.log2 - 53 : Int) = r := by omega
      rw [he, mantissaAt_nat]
      refine le_roundDiv (by positivity) ?_
      rw [Nat.pow_succ] at hlow
      calc 2 * leastNormal * 2 ^ r = leastNormal * (2 ^ r * 2) := by ring
        _ ≤ num := hlow
  have hsecond : mantissaAt num 1 (num.log2 - 52) = roundDiv num (2 ^ s) := by
    have he : (num.log2 - 52 : Int) = s := by omega
    rw [he, mantissaAt_nat]
  have hthird : mantissaAt num 1 (num.log2 - 51) = roundDiv num (2 * 2 ^ s) := by
    have he : (num.log2 - 51 : Int) = (s + 1 : Nat) := by omega
    rw [he, mantissaAt_nat, Nat.pow_succ, Nat.mul_comm]
  rw [ofRatio?_one hpos, List.findSome?_cons, ofParts?_large hfirst]
  dsimp only
  rw [List.findSome?_cons, hsecond]
  by_cases hcarry : roundDiv num (2 ^ s) = 2 * leastNormal
  · have hquotient : num / 2 ^ s < 2 * leastNormal :=
      Nat.div_lt_of_lt_mul (by rwa [Nat.mul_comm])
    have htwice := roundDiv_twice (by positivity) hquotient hcarry
    have he : (num.log2 - 51 : Int) = (s + 1 : Nat) := by omega
    have hcanonical : Canonical leastNormal (s + 1 : Nat) :=
      ⟨by decide, by omega, by omega, .inl (Nat.le_refl _)⟩
    rw [ofParts?_large (Nat.le_of_eq hcarry.symm)]
    dsimp only
    rw [List.findSome?_cons, hthird, htwice, he, ofParts?_canonical hcanonical]
    refine ⟨_, rfl, rfl, ?_⟩
    rw [units_of_nat, hcarry, Nat.pow_succ]
    ring
  · have he : (num.log2 - 52 : Int) = s := by omega
    have hcanonical : Canonical (roundDiv num (2 ^ s)) s :=
      ⟨by omega, by omega, by omega, .inl hbits⟩
    rw [he, ofParts?_canonical hcanonical]
    exact ⟨_, rfl, rfl, units_of_nat _ _⟩

/-! ## Integers -/

theorem units_of_small {m k : Nat} (hk : k ≤ 52) :
    m * 2 ^ (52 - k) * Nat.pow 2 ((k : Int) - 52 + 1074).toNat = m * one := by
  have hexponent : ((k : Int) - 52 + 1074).toNat = 1022 + k := by omega
  have hsum : 52 - k + (1022 + k) = 1074 := by omega
  have hone : 2 ^ (52 - k) * Nat.pow 2 (1022 + k) = one := by
    unfold one
    rw [← hsum]
    exact (Nat.pow_add 2 (52 - k) (1022 + k)).symm
  rw [hexponent, Nat.mul_assoc, hone]

/-- An integer with a mantissa's bits is not rounded. -/
theorem scaled_ofInt? {n : Int} (h : n.natAbs < 2 * leastNormal) :
    ∃ x, ofInt? n = some x ∧ x.scaled = n * one := by
  by_cases hzero : n.natAbs = 0
  · obtain rfl : n = 0 := by omega
    exact ⟨zero false, rfl, by rw [Int.zero_mul]; rfl⟩
  · have hbits : n.natAbs.log2 < 53 := (Nat.log2_lt hzero).mpr h
    have hsmall : ∃ x, ofInt? n = some x ∧ _ := ofRatio?_of_small (by omega) (by omega)
    obtain ⟨x, hx, hnegative, hmantissa, hexponent⟩ := hsmall
    refine ⟨x, hx, ?_⟩
    unfold scaled
    rw [hmantissa, hexponent, units_of_small (by omega), hnegative]
    by_cases hsign : n < 0
    · have habs : -(n.natAbs : Int) = n := by omega
      simp only [hsign, decide_true, if_true, Int.natCast_mul]
      rw [← Int.neg_mul, habs]
    · have habs : (n.natAbs : Int) = n := by omega
      simp only [hsign, decide_false, Bool.false_eq_true, if_false, Int.natCast_mul]
      rw [habs]

end EntityMapper.Double
