import EntityMapper.Filter.Validator
import EntityMapper.Proofs.Double.Nearest
import EntityMapper.Proofs.Json.Number

/-!
# Integers in filters

The default operators compare integers of 64 bits as the binary64 numbers nearest to them. This is
their own order where no two different integers have the same nearest number, as when one of them has
no more than 53 bits.
-/

namespace EntityMapper

open Double

variable {a e low high : Int} {items : List Int}

/-! ## Nearest numbers -/

/-- Two integers are one, or have different nearest numbers. -/
def ToldApart (a e : Int) : Prop := nearestInt a = nearestInt e → a = e

theorem toldApart_of_small (h : a.natAbs < 2 ^ 53 ∨ e.natAbs < 2 ^ 53) : ToldApart a e := by
  have hbits : 2 * leastNormal = 2 ^ 53 := rfl
  intro hsame
  by_contra hne
  rcases h with h | h
  · exact nearestInt_ne (hbits ▸ h) hne hsame
  · exact nearestInt_ne (hbits ▸ h) (Ne.symm hne) hsame.symm

/-- Integers that are told apart are in the order of their nearest numbers. -/
theorem ToldApart.le_iff (h : ToldApart a e) : nearestInt a ≤ nearestInt e ↔ a ≤ e := by
  refine ⟨fun hle => ?_, nearestInt_mono⟩
  by_contra hlt
  have hmono := nearestInt_mono (a := e) (b := a) (by omega)
  have hsame := h (by omega)
  omega

theorem ToldApart.symm (h : ToldApart a e) : ToldApart e a := fun hsame => (h hsame.symm).symm

/-! ## Two integers -/

namespace Operator

/-- The number that an integer of 64 bits is compared as. -/
theorem exists_nearest (h : Json.Fits a) :
    ∃ x, (Json.int a).double? = some x ∧ x.scaled = nearestInt a * one :=
  scaled_of_ofInt? (Nat.lt_of_le_of_lt h.natAbs_le (by decide))

theorem looseEq_int (ha : Json.Fits a) (he : Json.Fits e) :
    looseEq (.int a) (.int e) = true ↔ nearestInt a = nearestInt e := by
  obtain ⟨x, hx, hxscaled⟩ := exists_nearest ha
  obtain ⟨y, hy, hyscaled⟩ := exists_nearest he
  have heq : looseEq (.int a) (.int e) = (x.scaled == y.scaled) := by
    unfold looseEq
    simp only [hx, hy]
    rfl
  rw [heq, beq_iff_eq, hxscaled, hyscaled, units_inj]

theorem compareValues_int (ha : Json.Fits a) (he : Json.Fits e) :
    compareValues (.int a) (.int e) = some (Ord.compare (nearestInt a) (nearestInt e)) := by
  obtain ⟨x, hx, hxscaled⟩ := exists_nearest ha
  obtain ⟨y, hy, hyscaled⟩ := exists_nearest he
  have hcompare : compareValues (.int a) (.int e) = some (x.compare y) := by
    unfold compareValues
    simp only [hx, hy]
  rw [hcompare, Double.compare, hxscaled, hyscaled, compare_units]

theorem atLeast_int (ha : Json.Fits a) (he : Json.Fits e) :
    atLeast (.int a) (.int e) = true ↔ nearestInt e ≤ nearestInt a := by
  unfold atLeast
  rw [compareValues_int ha he, ← Int.isGE_compare]
  cases Ord.compare (nearestInt a) (nearestInt e) <;> decide

theorem atMost_int (ha : Json.Fits a) (he : Json.Fits e) :
    atMost (.int a) (.int e) = true ↔ nearestInt a ≤ nearestInt e := by
  unfold atMost
  rw [compareValues_int ha he, ← Int.isLE_compare]
  cases Ord.compare (nearestInt a) (nearestInt e) <;> decide

end Operator

namespace Validator

open Operator

/-- The operators that compare, with what they are to ask of two integers. -/
def comparisons : List (String × (Int → Int → Prop)) :=
  [ ("$eq", fun a e => a = e), ("$ne", fun a e => a ≠ e)
  , ("$gt", fun a e => a > e), ("$gte", fun a e => a ≥ e)
  , ("$lt", fun a e => a < e), ("$lte", fun a e => a ≤ e) ]

theorem forall_comparisons {p : String × (Int → Int → Prop) → Prop} :
    (∀ c ∈ comparisons, p c) ↔
      p ("$eq", fun a e => a = e) ∧ p ("$ne", fun a e => a ≠ e)
        ∧ p ("$gt", fun a e => a > e) ∧ p ("$gte", fun a e => a ≥ e)
        ∧ p ("$lt", fun a e => a < e) ∧ p ("$lte", fun a e => a ≤ e) := by
  simp [comparisons]

/-- Integers are compared as the numbers nearest to them. -/
theorem satisfies_comparison (ha : Json.Fits a) (he : Json.Fits e) :
    ∀ c ∈ comparisons, default.satisfies (.int a) (c.1, .int e) = true
      ↔ c.2 (nearestInt a) (nearestInt e) := by
  have heq := looseEq_int ha he
  have hcompare := compareValues_int ha he
  refine forall_comparisons.mpr ⟨heq, ?_, ?_, atLeast_int ha he, ?_, atMost_int ha he⟩
  · change (!looseEq (.int a) (.int e)) = true ↔ _
    rw [Bool.not_eq_true', ← Bool.not_eq_true, heq]
  · change (compareValues (.int a) (.int e) == some .gt) = true ↔ _
    rw [hcompare, beq_iff_eq, Option.some.injEq]
    exact Int.compare_eq_gt
  · change (compareValues (.int a) (.int e) == some .lt) = true ↔ _
    rw [hcompare, beq_iff_eq, Option.some.injEq]
    exact Int.compare_eq_lt

/-- The comparisons are those of the integers exactly when the integers are told apart. -/
theorem comparisons_exact_iff (ha : Json.Fits a) (he : Json.Fits e) :
    (∀ c ∈ comparisons, default.satisfies (.int a) (c.1, .int e) = true ↔ c.2 a e)
      ↔ ToldApart a e := by
  have hnearest := satisfies_comparison ha he
  constructor
  · intro hexact hsame
    have hfirst : ("$eq", fun a e => a = e) ∈ comparisons := List.mem_cons_self
    exact (hexact _ hfirst).mp ((hnearest _ hfirst).mpr hsame)
  · intro happart c hc
    rw [hnearest c hc]
    have hle := happart.le_iff
    have hge := happart.symm.le_iff
    revert c
    refine forall_comparisons.mpr ⟨?_, ?_, ?_, ?_, ?_, ?_⟩ <;> dsimp only <;> omega

/-! ## Several integers -/

theorem satisfies_in (ha : Json.Fits a) (hitems : ∀ i ∈ items, Json.Fits i) :
    default.satisfies (.int a) ("$in", .arr (items.map .int)) = true
      ↔ ∃ i ∈ items, nearestInt a = nearestInt i := by
  change (items.map Json.int).any (looseEq (.int a) ·) = true ↔ _
  rw [List.any_map, List.any_eq_true]
  exact exists_congr fun i => and_congr_right fun hi => looseEq_int ha (hitems i hi)

theorem satisfies_between (ha : Json.Fits a) (hlow : Json.Fits low) (hhigh : Json.Fits high) :
    default.satisfies (.int a) ("$between", .arr [.int low, .int high]) = true
      ↔ nearestInt low ≤ nearestInt a ∧ nearestInt a ≤ nearestInt high := by
  change (atLeast (.int a) (.int low) && atMost (.int a) (.int high)) = true ↔ _
  rw [Bool.and_eq_true, atLeast_int ha hlow, atMost_int ha hhigh]

/-- Membership in a list is exact for its members, and for an integer told apart from all of them. -/
theorem in_exact_iff (ha : Json.Fits a) (hitems : ∀ i ∈ items, Json.Fits i) :
    (default.satisfies (.int a) ("$in", .arr (items.map .int)) = true ↔ a ∈ items)
      ↔ a ∈ items ∨ ∀ i ∈ items, ToldApart a i := by
  rw [satisfies_in ha hitems]
  constructor
  · intro hexact
    by_cases hmem : a ∈ items
    · exact .inl hmem
    · exact .inr fun i hi hsame => absurd (hexact.mp ⟨i, hi, hsame⟩) hmem
  · intro hapart
    refine ⟨fun ⟨i, hi, hsame⟩ => ?_, fun hmem => ⟨a, hmem, rfl⟩⟩
    rcases hapart with hmem | hall
    · exact hmem
    · exact hall i hi hsame ▸ hi

/-- The default operators follow the order of the numbers nearest to integers: the comparisons are
those of the integers themselves exactly when these are told apart, as they are when one has no more
than 53 bits. -/
theorem integers_by_nearest (ha : Json.Fits a) :
    (∀ e, Json.Fits e →
      (∀ c ∈ comparisons, default.satisfies (.int a) (c.1, .int e) = true
        ↔ c.2 (nearestInt a) (nearestInt e))
      ∧ ((∀ c ∈ comparisons, default.satisfies (.int a) (c.1, .int e) = true ↔ c.2 a e)
        ↔ ToldApart a e)
      ∧ (a.natAbs < 2 ^ 53 ∨ e.natAbs < 2 ^ 53 → ToldApart a e))
    ∧ (∀ items : List Int, (∀ i ∈ items, Json.Fits i) →
      ((default.satisfies (.int a) ("$in", .arr (items.map .int)) = true ↔ a ∈ items)
        ↔ a ∈ items ∨ ∀ i ∈ items, ToldApart a i)
      ∧ default.satisfies (.int a) ("$notin", .arr (items.map .int))
        = !default.satisfies (.int a) ("$in", .arr (items.map .int)))
    ∧ ∀ low high, Json.Fits low → Json.Fits high →
      (default.satisfies (.int a) ("$between", .arr [.int low, .int high]) = true
        ↔ nearestInt low ≤ nearestInt a ∧ nearestInt a ≤ nearestInt high)
      ∧ (ToldApart a low → ToldApart a high →
        (default.satisfies (.int a) ("$between", .arr [.int low, .int high]) = true
          ↔ low ≤ a ∧ a ≤ high)) := by
  refine ⟨fun e he => ?_, fun items hitems => ?_, fun low high hlow hhigh => ?_⟩
  · exact ⟨satisfies_comparison ha he, comparisons_exact_iff ha he, toldApart_of_small⟩
  · exact ⟨in_exact_iff ha hitems, rfl⟩
  · have hbetween := satisfies_between ha hlow hhigh
    refine ⟨hbetween, fun hapartLow hapartHigh => ?_⟩
    rw [hbetween, hapartLow.symm.le_iff, hapartHigh.le_iff]

/-- The greatest signed integer is told apart from what has no more than 53 bits. -/
theorem integers_by_nearest_greatest :
    Json.Fits 9223372036854775807
      ∧ (∀ c ∈ comparisons,
        default.satisfies (.int 9223372036854775807) (c.1, .int (-9007199254740991)) = true
          ↔ c.2 9223372036854775807 (-9007199254740991))
      ∧ default.satisfies (.int 9223372036854775807) ("$in", .arr ([0, 9007199254740991].map .int))
        = false := by
  have hfits : Json.Fits 9223372036854775807 := by decide
  obtain ⟨hpairs, hlists, -⟩ := integers_by_nearest hfits
  obtain ⟨-, hexact, hsmall⟩ := hpairs (-9007199254740991) (by decide)
  have hmember := (hlists [0, 9007199254740991] (by decide)).1.mpr (.inr (by
    intro i hi
    refine toldApart_of_small (.inr ?_)
    revert i
    decide))
  refine ⟨hfits, hexact.mpr (hsmall (by decide)), ?_⟩
  rw [← Bool.not_eq_true, hmember]
  decide

/-- Two neighbours of more than 53 bits are taken for each other. -/
theorem neighbours_are_equal :
    Json.Fits 9007199254740993 ∧ Json.Fits 9007199254740992
      ∧ default.satisfies (.int 9007199254740993) ("$eq", .int 9007199254740992) = true
      ∧ default.satisfies (.int 9007199254740993) ("$gt", .int 9007199254740992) = false
      ∧ (9007199254740993 : Int) > 9007199254740992 := by
  have hmore : Json.Fits 9007199254740993 := by decide
  have hless : Json.Fits 9007199254740992 := by decide
  have hsame : nearestInt 9007199254740993 = nearestInt 9007199254740992 := by decide
  have hcompared := forall_comparisons.mp (satisfies_comparison hmore hless)
  refine ⟨hmore, hless, hcompared.1.mpr hsame, ?_, by decide⟩
  rw [← Bool.not_eq_true, hcompared.2.2.1]
  dsimp only
  rw [hsame]
  decide

end Validator
end EntityMapper
