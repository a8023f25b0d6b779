import EntityMapper.Entity.Rows
import EntityMapper.Proofs.Entity.Named
import EntityMapper.Proofs.Field.Rules

/-!
# Rows that keep to the rules

A row passes the check of a row to be inserted, or of a row of changes, exactly when each of its
values is allowed and no required field is left empty. The two go through different things, the
fields and the keys, and differ in the fields only for which the row has no key.
-/

namespace EntityMapper.Entity

variable {patterns : Pattern.Reader} {e : Entity} {row : Row} {f : Field} {u : Unit}

/-- Every required field has a value, and every value is allowed. Keys are given later. -/
structure Complete (patterns : Pattern.Reader) (e : Entity) (row : Row) : Prop where
  required : ∀ f ∈ e.storedFields, f.required = true → f.isPrimary = false →
    ∃ v, row.get? f.name = some v ∧ v.isNull = false
  allowed : ∀ f ∈ e.storedFields, ∀ v, row.get? f.name = some v → f.Allows patterns v

/-- Every value is allowed, and null is none for a required field. -/
def Permits (patterns : Pattern.Reader) (e : Entity) (row : Row) : Prop :=
  ∀ entry ∈ row, ∀ f, e.field? entry.1 = some f →
    ¬(f.required = true ∧ entry.2.isNull = true) ∧ f.Allows patterns entry.2

theorem validateStored_iff (patterns : Pattern.Reader) (row : Row) (f : Field) :
    validateStored patterns row f = .ok () ↔
      (f.required = true → f.isPrimary = false → ∃ v, row.get? f.name = some v ∧ v.isNull = false)
        ∧ ∀ v, row.get? f.name = some v → f.Allows patterns v := by
  unfold validateStored
  rw [Result.seq_ok_iff, Field.demand_ok_iff]
  cases row.get? f.name with
  | none => cases f.required <;> cases f.isPrimary <;> simp [pure, Except.pure]
  | some v => 
    dsimp only
    rw [Field.validate_iff]
    cases f.required <;> cases f.isPrimary <;> simp

theorem validateRow_iff : e.validateRow patterns row = .ok () ↔ e.Complete patterns row := by
  unfold validateRow
  rw [Result.forM_ok_iff]
  simp only [validateStored_iff]
  exact ⟨fun h => ⟨fun f hf => (h f hf).1, fun f hf => (h f hf).2⟩,
    fun h f hf => ⟨h.required f hf, h.allowed f hf⟩⟩

theorem validateChanges_iff : e.validateChanges patterns row = .ok () ↔ e.Permits patterns row := by
  unfold validateChanges Permits
  rw [Result.forM_ok_iff]
  refine forall₂_congr fun entry _ => ?_
  unfold validateChange
  cases e.field? entry.1 with
  | none => simp
  | some f => simp [Field.validateValue_iff]

/-! ## One set of rules -/

/-- The keys of the row are stored fields that callers give values to. -/
def Fills (e : Entity) (row : Row) : Prop :=
  ∀ entry ∈ row, ∃ f ∈ e.storedFields, f.name = entry.1 ∧ f.isPrimary = false

/-- Where the row has a value, a field is checked in one way for both; a field without a value is
asked for when the row is inserted. -/
theorem validateStored_eq (hnamed : NamedFields e.fields) (hfills : e.Fills row)
    (hf : f ∈ e.storedFields) :
    validateStored patterns row f = match row.get? f.name with
      | some v => e.validateChange patterns (f.name, v)
      | none => if f.required && !f.isPrimary then .error (.required f.name) else .ok () := by
  have hfields : f ∈ e.fields := (List.mem_filter.mp hf).1
  unfold validateStored
  cases hv : row.get? f.name with
  | none => cases f.required <;> cases f.isPrimary <;> rfl
  | some v =>
    have hprimary : f.isPrimary = false := by
      obtain ⟨g, hg, hname, hprimary⟩ := hfills _ (Dict.mem_of_get? hv)
      obtain rfl := Keyed.eq_of_key_eq hnamed.distinct (List.mem_filter.mp hg).1 hfields hname
      exact hprimary
    simp only [validateChange, hnamed.field?_eq hfields, Field.validateValue, hprimary,
      Bool.not_false, Bool.and_true]

/-- A row of fields that callers give values to is fit to be inserted exactly when it is a row of
changes that has a key for every required field. In every field, the two are answered alike: with the
same violation, or with none. -/
theorem validateRow_iff_changes (hnamed : NamedFields e.fields) (hrow : Dict.Sorted row)
    (hfills : e.Fills row) :
    (e.validateRow patterns row = .ok () ↔
      e.validateChanges patterns row = .ok ()
        ∧ ∀ f ∈ e.storedFields, f.required = true → f.isPrimary = false →
          Dict.contains row f.name = true)
      ∧ ∀ f ∈ e.storedFields, validateStored patterns row f = match row.get? f.name with
        | some v => e.validateChange patterns (f.name, v)
        | none => if f.required && !f.isPrimary then .error (.required f.name) else .ok () := by
  refine ⟨?_, fun f hf => validateStored_eq hnamed hfills hf⟩
  unfold validateRow validateChanges
  rw [Result.forM_ok_iff, Result.forM_ok_iff]
  constructor
  · intro h
    refine ⟨fun entry hentry => ?_, fun f hf hrequired hprimary => ?_⟩
    · obtain ⟨f, hf, hname, -⟩ := hfills entry hentry
      have hvalue := Dict.get?_of_mem hrow.nodup hentry
      have hchecked := h f hf
      rw [validateStored_eq hnamed hfills hf, hname, hvalue] at hchecked
      exact hchecked
    · obtain ⟨v, hv, -⟩ := ((validateStored_iff patterns row f).mp (h f hf)).1 hrequired hprimary
      simp [Dict.contains, hv]
  · rintro ⟨hchanges, hpresent⟩ f hf
    rw [validateStored_eq hnamed hfills hf]
    cases hv : row.get? f.name with
    | some v => exact hchanges _ (Dict.mem_of_get? hv)
    | none =>
      refine if_neg fun hasked => ?_
      obtain ⟨hrequired, hprimary⟩ : f.required = true ∧ f.isPrimary = false := by simpa using hasked
      have hthere := hpresent f hf hrequired hprimary
      simp [Dict.contains, hv] at hthere

def loans : Entity :=
  ⟨"loans", [.primary "id" .integer, (Field.text "reader").asRequired.withMaxLength 5,
    .number "copies"], {}, rfl⟩

/-- A reader may be left out of changes, but not of a loan. -/
theorem validateRow_iff_changes_loans :
    let given : Row := [("copies", .int 2), ("reader", .str "Ada")]
    let missing : Row := [("copies", .int 2)]
    NamedFields loans.fields ∧ Dict.Sorted given ∧ Dict.Sorted missing ∧ loans.Fills given
      ∧ loans.Fills missing ∧ loans.validateChanges Pattern.standard given = .ok ()
      ∧ loans.validateRow Pattern.standard given = .ok ()
      ∧ loans.validateChanges Pattern.standard missing = .ok ()
      ∧ loans.validateRow Pattern.standard missing ≠ .ok () := by
  intro given missing
  have hnamed : NamedFields loans.fields := ⟨by decide, by decide⟩
  have hgiven : Dict.Sorted given := by unfold Dict.Sorted; decide
  have hmissing : Dict.Sorted missing := by unfold Dict.Sorted; decide
  have hcopies : ∃ f ∈ loans.storedFields, f.name = "copies" ∧ f.isPrimary = false :=
    ⟨_, .tail _ (.tail _ (.head _)), rfl, rfl⟩
  have hreader : ∃ f ∈ loans.storedFields, f.name = "reader" ∧ f.isPrimary = false :=
    ⟨_, .tail _ (.head _), rfl, rfl⟩
  have hfills : loans.Fills given :=
    List.forall_mem_cons.mpr ⟨hcopies, List.forall_mem_singleton.mpr hreader⟩
  have hfills' : loans.Fills missing := List.forall_mem_singleton.mpr hcopies
  have hchanges : loans.validateChanges Pattern.standard given = .ok () := rfl
  have hpresent : ∀ f ∈ loans.storedFields, f.required = true → f.isPrimary = false →
      Dict.contains given f.name = true := by decide
  refine ⟨hnamed, hgiven, hmissing, hfills, hfills', hchanges,
    (validateRow_iff_changes hnamed hgiven hfills).1.mpr ⟨hchanges, hpresent⟩, rfl, fun h => ?_⟩
  have hasked := ((validateRow_iff_changes hnamed hmissing hfills').1.mp h).2
  exact absurd (hasked _ (.tail _ (.head _)) rfl rfl) (by decide)

end EntityMapper.Entity
