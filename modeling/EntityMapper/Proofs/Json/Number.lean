import EntityMapper.Json.Number
import EntityMapper.Proofs.Text.Decimal

/-!
# Integers in JSON text

An integer of 64 bits, signed or unsigned, is read back from its decimal text, whatever follows it in
a list or an object.
-/

namespace EntityMapper.Json

open Text.Decimal

/-- A 64-bit integer, signed or unsigned. -/
def Fits (n : Int) : Prop := -9223372036854775808 ≤ n ∧ n ≤ unsignedLimit

instance (n : Int) : Decidable (Fits n) := inferInstanceAs (Decidable (_ ∧ _))

theorem Fits.natAbs_le {n : Int} (h : Fits n) : n.natAbs ≤ unsignedLimit := by
  unfold Fits at h
  unfold unsignedLimit at h ⊢
  omega

/-- What may stand after a value in compact text: nothing, or what goes on or ends a list or an
object. -/
def Ends (rest : List Char) : Prop := ∀ c ∈ rest.head?, c = ',' ∨ c = ']' ∨ c = '}'

variable {m : Nat} {rest : List Char}

theorem Ends.not_digit (h : Ends rest) : ∀ c ∈ rest.head?, isDigit c = false := by
  intro c hc
  rcases h c hc with rfl | rfl | rfl <;> rfl

/-! ## Digits -/

theorem le_foldl_digits (cs : List Char) (n : Nat) :
    n ≤ cs.foldl (fun n c => 10 * n + (digit? c).getD 0) n := by
  induction cs generalizing n with
  | nil => exact Nat.le_refl n
  | cons c cs ih =>
    have hstep := ih (10 * n + (digit? c).getD 0)
    rw [List.foldl_cons]
    omega

theorem whole_eq {n : Nat} {cs : List Char}
    (h : cs.foldl (fun n c => 10 * n + (digit? c).getD 0) n ≤ unsignedLimit) :
    Significand.whole n cs = ⟨cs.foldl (fun n c => 10 * n + (digit? c).getD 0) n, 0⟩ := by
  induction cs generalizing n with
  | nil => rfl
  | cons c cs ih =>
    rw [List.foldl_cons] at h ⊢
    have hnext := Nat.le_trans (le_foldl_digits cs _) h
    unfold Significand.whole
    simp only [hnext, if_true]
    exact ih h

theorem whole_digits (h : m ≤ unsignedLimit) : Significand.whole 0 (digits m) = ⟨m, 0⟩ := by
  have hvalue := valueOf_digits m
  unfold valueOf at hvalue
  rw [whole_eq (by rwa [hvalue]), hvalue]

theorem digitRun?_digits (h : ∀ c ∈ rest.head?, isDigit c = false) :
    digitRun? (digits m ++ rest) = some (digits m, rest) := by
  unfold digitRun?
  rw [takeWhile_digits m h, dropWhile_digits m h]
  split
  · rename_i hnil
    exact absurd hnil (digits_ne_nil m)
  · rfl

theorem exponentPart?_ends (h : Ends rest) : exponentPart? 0 rest = some (0, rest) := by
  unfold exponentPart?
  cases rest with
  | nil => rfl
  | cons c cs => rcases h c rfl with rfl | rfl | rfl <;> rfl

/-! ## Numbers -/

theorem no_leading_zero (m : Nat) : ¬((digits m).length > 1 ∧ (digits m).head? = some '0') := by
  rintro ⟨hlength, hzero⟩
  by_cases hm : 0 < m
  · exact head?_digits_ne_zero hm hzero
  · obtain rfl : m = 0 := by omega
    exact absurd hlength (by decide)

theorem unsignedNumber?_digits (negative : Bool) (hm : m ≤ unsignedLimit) (h : Ends rest) :
    unsignedNumber? negative (digits m ++ rest)
      = (integer? negative ⟨m, 0⟩).map fun j => (j, rest) := by
  unfold unsignedNumber?
  rw [digitRun?_digits h.not_digit, Option.bind_eq_bind, Option.bind_some]
  dsimp only
  rw [if_neg (no_leading_zero m), whole_digits hm]
  split
  · rename_i more
    rcases h '.' rfl with h | h | h <;> cases h
  · rw [exponentPart?_ends h]
    cases integer? negative ⟨m, 0⟩ <;> simp

/-- A number that begins with a digit has no sign. -/
theorem number?_digits (m : Nat) (rest : List Char) :
    number? (digits m ++ rest) = unsignedNumber? false (digits m ++ rest) := by
  obtain ⟨c, cs, hdigits⟩ := List.exists_cons_of_ne_nil (digits_ne_nil m)
  have hdigit : isDigit c = true := isDigit_of_mem_digits (hdigits ▸ List.mem_cons_self)
  rw [hdigits, List.cons_append]
  unfold number?
  split
  · rename_i hminus
    rw [(List.cons.inj hminus).1] at hdigit
    cases hdigit
  · rfl

theorem integer?_natAbs {n : Int} (hn : Fits n) :
    integer? (n < 0) ⟨n.natAbs, 0⟩ = some (.int n) := by
  obtain ⟨hleast, -⟩ := hn
  by_cases hneg : n < 0
  · have hrange : ¬(n.natAbs = 0 ∨ 9223372036854775808 < n.natAbs) := by omega
    have habs : -(n.natAbs : Int) = n := by omega
    simp only [integer?, hneg, hrange, habs]
    rfl
  · have habs : (n.natAbs : Int) = n := by omega
    simp only [integer?, hneg, habs]
    rfl

theorem number?_ofInt {n : Int} (hn : Fits n) (h : Ends rest) :
    number? (ofInt n ++ rest) = some (.int n, rest) := by
  have hsize : n.natAbs ≤ unsignedLimit := by
    obtain ⟨hleast, hmost⟩ := hn
    unfold unsignedLimit at hmost ⊢
    omega
  have hread := unsignedNumber?_digits (n < 0) hsize h
  rw [integer?_natAbs hn, Option.map_some] at hread
  unfold ofInt
  by_cases hneg : n < 0
  · rw [decide_eq_true hneg] at hread
    rw [if_pos hneg]
    exact hread
  · rw [decide_eq_false hneg] at hread
    rw [if_neg hneg, number?_digits]
    exact hread

end EntityMapper.Json
