import EntityMapper.Dialect
import EntityMapper.Field.Rules
import EntityMapper.Proofs.Dialect.Stored
import EntityMapper.Proofs.Double.Nearest
import EntityMapper.Proofs.Result

/-!
# What the rules of fields allow

A value passes the rules of its field exactly when the field allows it, and then the field also allows
the form in which the value is stored.
-/

namespace EntityMapper

open Double

variable {patterns : Pattern.Reader} {f : Field} {v w : Json} {most least : Option Nat}
  {pattern : Option String} {minimum maximum : Option Extended}

/-- Text that keeps to rules of length and has an instance of the pattern in it. -/
structure AllowedText (patterns : Pattern.Reader) (most least : Option Nat) (pattern : Option String)
    (s : String) : Prop where
  most : ∀ n ∈ most, s.length ≤ n
  least : ∀ n ∈ least, n ≤ s.length
  pattern : ∀ text ∈ pattern, ∃ test, patterns text = some test ∧ test s = true

/-- A number that is not below the minimum and not above the maximum. No number is below or above an
undefined limit. -/
structure AllowedNumber (minimum maximum : Option Extended) (r : Extended) : Prop where
  minimum : ∀ x ∈ minimum, r.lt x = false
  maximum : ∀ x ∈ maximum, x.lt r = false

/-- The rules of a field allow this value. A value of another type breaks no rule. -/
def Field.Allows (patterns : Pattern.Reader) (f : Field) (v : Json) : Prop :=
  match f.kind, v with
  | .text most least pattern, .str s => AllowedText patterns most least pattern s
  | .number minimum maximum, v => ∀ r, Field.numberOf? v = some r → AllowedNumber minimum maximum r
  | _, _ => True

namespace Field

/-! ## One rule after the other -/

theorem demand_ok_iff {holds : Bool} {violation : Violation} :
    demand holds violation = .ok () ↔ holds = true := by
  cases holds <;> simp [demand]

/-- A rule that need not be set. -/
def whenSet {α : Type} (rule : Option α) (check : α → Except Violation Unit) :
    Except Violation Unit :=
  match rule with
  | some a => check a
  | none => .ok ()

theorem whenSet_ok_iff {α : Type} {rule : Option α} {check : α → Except Violation Unit} :
    whenSet rule check = .ok () ↔ ∀ a ∈ rule, check a = .ok () := by
  cases rule <;> simp [whenSet]

/-! ## Values -/

def matchPattern (patterns : Pattern.Reader) (name s text : String) : Except Violation Unit :=
  match patterns text with
  | none => throw (.invalidPattern name)
  | some test => demand (test s) (.patternMissed name)

theorem matchPattern_ok_iff {name s text : String} :
    matchPattern patterns name s text = .ok ()
      ↔ ∃ test, patterns text = some test ∧ test s = true := by
  unfold matchPattern
  cases patterns text with
  | none => simp [throw, throwThe, MonadExceptOf.throw]
  | some test => simp [demand_ok_iff]

theorem validateText_eq (name s : String) :
    validateText patterns name most least pattern s = (do
      whenSet most fun n => demand (s.length ≤ n) (.tooLong name n)
      whenSet least fun n => demand (n ≤ s.length) (.tooShort name n)
      whenSet pattern (matchPattern patterns name s)) := by
  cases most <;> cases least <;> cases pattern <;> rfl

theorem validateText_iff {name s : String} :
    validateText patterns name most least pattern s = .ok ()
      ↔ AllowedText patterns most least pattern s := by
  rw [validateText_eq, Result.seq_ok_iff, Result.seq_ok_iff]
  simp only [whenSet_ok_iff, demand_ok_iff, decide_eq_true_eq, matchPattern_ok_iff]
  exact ⟨fun ⟨hmost, hleast, hpattern⟩ => ⟨hmost, hleast, hpattern⟩,
    fun h => ⟨h.most, h.least, h.pattern⟩⟩

theorem validateNumber_eq (name : String) (r : Extended) :
    validateNumber name minimum maximum r = (do
      whenSet minimum fun x => demand (!r.lt x) (.belowMinimum name x)
      whenSet maximum fun x => demand (!x.lt r) (.aboveMaximum name x)) := by
  cases minimum <;> cases maximum <;> rfl

theorem validateNumber_iff {name : String} {r : Extended} :
    validateNumber name minimum maximum r = .ok () ↔ AllowedNumber minimum maximum r := by
  rw [validateNumber_eq, Result.seq_ok_iff]
  simp only [whenSet_ok_iff, demand_ok_iff, Bool.not_eq_true']
  exact ⟨fun ⟨hminimum, hmaximum⟩ => ⟨hminimum, hmaximum⟩, fun h => ⟨h.minimum, h.maximum⟩⟩

theorem validate_iff (patterns : Pattern.Reader) (f : Field) (v : Json) :
    f.validate patterns v = .ok () ↔ f.Allows patterns v := by
  unfold validate Allows
  generalize f.kind = kind
  cases kind with
  | text most least pattern =>
    cases v with
    | str s => exact validateText_iff
    | _ => simp
  | number minimum maximum =>
    dsimp only
    cases numberOf? v with
    | none => simp
    | some r => simp [validateNumber_iff]
  | _ => simp

theorem validateValue_iff (patterns : Pattern.Reader) (f : Field) (v : Json) :
    f.validateValue patterns v = .ok ()
      ↔ ¬(f.required = true ∧ v.isNull = true) ∧ f.Allows patterns v := by
  unfold validateValue
  rw [Result.seq_ok_iff, demand_ok_iff, validate_iff]
  cases f.required <;> cases v.isNull <;> simp

/-! ## Allowed values -/

theorem Allows.text {s : String} (h : f.Allows patterns (.str s))
    (hkind : f.kind = .text most least pattern) : AllowedText patterns most least pattern s := by
  unfold Allows at h
  rwa [hkind] at h

theorem exists_double {v : Json} (h : v.IsNumber) : ∃ x, v.double? = some x := by
  rcases h with ⟨n, rfl, hn⟩ | ⟨x, rfl⟩
  · obtain ⟨x, hx, -⟩ := scaled_of_ofInt? (Nat.lt_of_le_of_lt hn.natAbs_le (by decide))
    exact ⟨x, hx⟩
  · exact ⟨x, rfl⟩

/-- A number is compared as a binary64 number, which integers of 64 bits have, too. -/
theorem Allows.number (h : f.Allows patterns v) (hkind : f.kind = .number minimum maximum)
    (hv : v.IsNumber) :
    ∃ x, v.double? = some x ∧ (∀ least ∈ minimum, Extended.lt (.finite x) least = false)
      ∧ ∀ most ∈ maximum, most.lt (.finite x) = false := by
  obtain ⟨x, hx⟩ := exists_double hv
  have hread : numberOf? v = some (.finite x) := by
    rcases hv with ⟨n, rfl, -⟩ | ⟨y, rfl⟩
    · exact congrArg (Option.map Extended.finite) hx
    · exact congrArg (Option.map Extended.finite) hx
  unfold Allows at h
  rw [hkind] at h
  have hallowed := h (.finite x) hread
  exact ⟨x, hx, hallowed.minimum, hallowed.maximum⟩

/-! ## Stored values -/

theorem allowedNumber_of_scaled {x y : Double} (h : y.scaled = x.scaled)
    (hx : AllowedNumber minimum maximum (.finite x)) : AllowedNumber minimum maximum (.finite y) := by
  refine ⟨fun least hleast => ?_, fun most hmost => ?_⟩
  · have hbelow := hx.minimum least hleast
    cases least with
    | finite l => simpa only [Extended.lt, lt, h] using hbelow
    | _ => exact hbelow
  · have habove := hx.maximum most hmost
    cases most with
    | finite l => simpa only [Extended.lt, lt, h] using habove
    | _ => exact habove

theorem scaled_of_toInt? {x : Double} {n : Int} (h : x.toInt? = some n) : x.scaled = n * one := by
  unfold toInt? at h
  split at h
  · rename_i hwhole
    cases h
    exact (Int.ediv_mul_cancel (Int.dvd_of_emod_eq_zero hwhole)).symm
  · cases h

/-- A number in its normal form is the same number. -/
theorem allowed_normalizeNumber {x : Double} (h : AllowedNumber minimum maximum (.finite x)) :
    ∀ r, numberOf? (Json.normalizeNumber (.float x)) = some r → AllowedNumber minimum maximum r := by
  have hfloat : ∀ r, numberOf? (.float x) = some r → AllowedNumber minimum maximum r := by
    intro r hr
    cases hr
    exact h
  dsimp only [Json.normalizeNumber]
  split
  · rename_i n hn
    split
    · rename_i hsafe
      obtain ⟨y, hy, hscaled⟩ := scaled_ofInt? (n := n) (by
        unfold safeIntegerLimit at hsafe
        unfold leastNormal
        omega)
      intro r hr
      simp only [numberOf?, hy, Option.map_some, Option.some.injEq] at hr
      subst hr
      exact allowedNumber_of_scaled (hscaled.trans (scaled_of_toInt? hn).symm) h
    · exact hfloat
  · exact hfloat

theorem allows_checkNumber (hkind : f.kind = .number minimum maximum) (hv : f.Allows patterns v)
    (h : f.checkNumber v = .ok w) : f.Allows patterns w := by
  unfold checkNumber at h
  split at h
  · cases h
    exact hv
  · cases h
    exact hv
  · split at h
    · rename_i s x hx
      cases h
      obtain ⟨r, hr, hfinite⟩ := Option.bind_eq_some_iff.mp hx
      have hnumber : r = .finite x := by
        cases r <;> cases hfinite
        rfl
      unfold Allows at hv ⊢
      rw [hkind] at hv ⊢
      exact allowed_normalizeNumber (hv (.finite x) (hnumber ▸ hr))
    · cases h
  · cases h

/-- What a field allows stays allowed in the form in which it is sent. -/
theorem allows_encode {d : Dialect} (hv : f.Allows patterns v) (h : d.encode f v = .ok w) :
    f.Allows patterns w := by
  obtain ⟨taken, hcheck, rfl⟩ := Dialect.taken_of_encode h
  obtain ⟨rfl, rfl⟩ | ⟨hpresent, -, -⟩ := check_cases hcheck
  · rwa [Dialect.form_null]
  · rw [check_of_present hpresent, checkPresent] at hcheck
    cases hkind : f.kind with
    | text most least pattern =>
      rw [hkind] at hcheck
      obtain ⟨rfl, s, rfl⟩ := str_of_checkText hcheck
      exact hv
    | number minimum maximum =>
      rw [hkind] at hcheck
      have hallows := allows_checkNumber hkind hv hcheck
      cases taken <;> exact hallows
    | _ =>
      unfold Allows
      rw [hkind]
      trivial

theorem isNull_encode {d : Dialect} (h : d.encode f v = .ok w) : w.isNull = v.isNull := by
  obtain ⟨taken, hcheck, rfl⟩ := Dialect.taken_of_encode h
  rw [Dialect.isNull_form]
  obtain ⟨rfl, rfl⟩ | ⟨hv, htaken, -⟩ := check_cases hcheck
  · rfl
  · rw [hv, htaken]

end Field
end EntityMapper
