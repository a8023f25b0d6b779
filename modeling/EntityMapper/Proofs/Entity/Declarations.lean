import EntityMapper.Entity.Basic
import EntityMapper.Proofs.Result

/-!
# Declarations of entities

What a declaration of an entity and each change of one has checked, and what it has done. Fields only
come to an entity when they are new to it, so what a new field keeps true of the others holds of every
entity.
-/

namespace EntityMapper.Entity

variable {e e' : Entity} {f : Field} {fields fields' : List Field} {name : String}

theorem isIdentifier_of_check {u : Unit} (h : checkIdentifier name = .ok u) :
    Text.isIdentifier name = true := by
  unfold checkIdentifier at h
  split at h
  · assumption
  · cases h

/-! ## New fields -/

/-- The field has a name of its own among these, and is not a second primary field. -/
structure New (fields : List Field) (f : Field) : Prop where
  identifier : Text.isIdentifier f.name = true
  name : fields.find? (·.name == f.name) = none
  primary : f.isPrimary = true → fields.find? Field.isPrimary = none

theorem appendField_cases (h : appendField name fields f = .ok fields') :
    (∃ g, fields.find? (·.name == f.name) = some g ∧ (g == f) = true ∧ fields' = fields)
      ∨ New fields f ∧ fields' = fields ++ [f] := by
  unfold appendField at h
  obtain ⟨_, hcheck, h⟩ := Result.of_bind h
  split at h
  · rename_i g hfound
    split at h
    · rename_i hbeq
      cases h
      exact .inl ⟨g, hfound, hbeq, rfl⟩
    · cases h
  · rename_i hname
    split at h
    · cases h
    · rename_i hsecond
      cases h
      refine .inr ⟨⟨isIdentifier_of_check hcheck, hname, fun hprimary => ?_⟩, rfl⟩
      cases hfirst : fields.find? Field.isPrimary with
      | none => rfl
      | some first => exact (hsecond first hprimary hfirst).elim

theorem appendField_new (h : appendField name fields f = .ok fields')
    (hname : fields.find? (·.name == f.name) = none) : fields' = fields ++ [f] := by
  obtain ⟨g, hfound, -⟩ | ⟨-, hfields⟩ := appendField_cases h
  · cases hname.symm.trans hfound
  · exact hfields

/-- A primary field is put in front where there is none. -/
theorem withPrimary_cases {config : EntityConfig} {keyed : KeyedFields}
    (h : withPrimary name config fields = .ok keyed) :
    ((fields.find? Field.isPrimary).isSome ∧ keyed.val = fields)
      ∨ fields.find? Field.isPrimary = none ∧ ∃ f, New fields f ∧ keyed.val = f :: fields
        ∧ f.name = defaultPrimary ∧ f.fillable = false
        ∧ f.kind = .primary config.primaryFormat
          (if config.primaryFormat = .custom then config.idHandler else none) := by
  unfold withPrimary at h
  split at h
  · rename_i hsome
    cases h
    exact .inl ⟨hsome, rfl⟩
  · rename_i hnone
    have hnone := Option.not_isSome_iff_eq_none.mp hnone
    split at h
    · cases h
    · dsimp only at h
      split at h
      · cases h
      · rename_i hfree
        cases h
        have hdefault : Text.isIdentifier defaultPrimary = true := by decide
        refine .inr ⟨hnone, _, ⟨hdefault, ?_, fun _ => hnone⟩, rfl, rfl, rfl, rfl⟩
        simpa using hfree

theorem declare_iff {given : List Field} {config : EntityConfig} : declare name given config = .ok e ↔
    Text.isIdentifier name = true ∧ (∃ distinct, given.foldlM (appendField name) [] = .ok distinct
      ∧ withPrimary name config distinct = .ok ⟨e.fields, e.hasPrimary⟩)
      ∧ e.name = name ∧ e.config = config ∧ e.primaryFormat ≠ (.custom, none) := by
  constructor
  · intro h
    unfold declare at h
    obtain ⟨_, hname, h⟩ := Result.of_bind h
    obtain ⟨distinct, hdistinct, h⟩ := Result.of_bind h
    obtain ⟨keyed, hkeyed, h⟩ := Result.of_bind h
    dsimp only at h
    split at h
    · cases h
    · rename_i hhandler
      cases h
      exact ⟨isIdentifier_of_check hname, ⟨distinct, hdistinct, hkeyed⟩, rfl, rfl, hhandler⟩
  · rintro ⟨hname, ⟨distinct, hdistinct, hkeyed⟩, rfl, rfl, hhandler⟩
    unfold declare checkIdentifier
    rw [if_pos hname, hdistinct]
    change (withPrimary e.name e.config distinct >>= _) = _
    rw [hkeyed]
    dsimp only [bind, Except.bind]
    split
    · rename_i hnone
      exact absurd hnone hhandler
    · rfl

theorem declare_cases {given : List Field} {config : EntityConfig}
    (h : declare name given config = .ok e) :
    ∃ distinct keyed, given.foldlM (appendField name) [] = .ok distinct
      ∧ withPrimary name config distinct = .ok keyed ∧ e.name = name ∧ e.fields = keyed.val := by
  obtain ⟨-, ⟨distinct, hdistinct, hkeyed⟩, hname, -⟩ := declare_iff.mp h
  exact ⟨distinct, _, hdistinct, hkeyed, hname, rfl⟩

/-! ## Changes -/

/-- An added field stands after the others, or is there already. -/
theorem addField_cases (h : e.addField f = .ok e') :
    (∃ g, e.field? f.name = some g ∧ (g == f) = true ∧ e' = e)
      ∨ New e.fields f ∧ e'.name = e.name ∧ e'.fields = e.fields ++ [f] := by
  unfold addField at h
  obtain ⟨_, hcheck, h⟩ := Result.of_bind h
  split at h
  · rename_i g hfound
    split at h
    · rename_i hbeq
      cases h
      exact .inl ⟨g, hfound, hbeq, rfl⟩
    · cases h
  · rename_i hname
    split at h
    · cases h
    · rename_i hplain
      cases h
      exact .inr ⟨⟨isIdentifier_of_check hcheck, hname, fun hprimary => absurd hprimary hplain⟩,
        rfl, rfl⟩

theorem setFieldHidden_cases {field : String} {hidden : Bool}
    (h : e.setFieldHidden field hidden = .ok e') :
    e'.name = e.name ∧ e'.fields = e.fields.map (hide field hidden) := by
  unfold setFieldHidden at h
  split at h
  · cases h
  · cases h
    exact ⟨rfl, rfl⟩

@[simp] theorem hide_name (name : String) (hidden : Bool) (f : Field) :
    (hide name hidden f).name = f.name := by
  unfold hide
  split <;> rfl

@[simp] theorem hide_kind (name : String) (hidden : Bool) (f : Field) :
    (hide name hidden f).kind = f.kind := by
  unfold hide
  split <;> rfl

/-! ## Every entity -/

/-- The entity comes from a declaration, as every entity does. Before it is registered its fields may
have been hidden and shown. -/
inductive Declared : Entity → Prop where
  | declare {name : String} {given : List Field} {config : EntityConfig} {e : Entity} :
    Entity.declare name given config = .ok e → Declared e
  | setFieldHidden {e e' : Entity} {field : String} {hidden : Bool} :
    Declared e → e.setFieldHidden field hidden = .ok e' → Declared e'

/-- What a declaration gives an entity and no change takes away. -/
structure Kept (P : Entity → Prop) : Prop where
  declare {name : String} {given : List Field} {config : EntityConfig} {e : Entity} :
    Entity.declare name given config = .ok e → P e
  addField {e e' : Entity} {f : Field} : P e → e.addField f = .ok e' → P e'
  setFieldHidden {e e' : Entity} {field : String} {hidden : Bool} :
    P e → e.setFieldHidden field hidden = .ok e' → P e'

theorem Declared.of_kept {P : Entity → Prop} (hP : Kept P) (h : e.Declared) : P e := by
  induction h with
  | declare h => exact hP.declare h
  | setFieldHidden _ h ih => exact hP.setFieldHidden ih h

/-- It is enough to look at new fields behind the others. -/
theorem of_distinct {P : List Field → Prop} {given distinct : List Field}
    (h : given.foldlM (appendField name) [] = .ok distinct) (empty : P [])
    (behind : ∀ fields f, New fields f → P fields → P (fields ++ [f])) : P distinct :=
  Result.of_foldlM h empty fun f _ fields fields' hP hstep => by
    obtain ⟨_, -, -, rfl⟩ | ⟨hnew, rfl⟩ := appendField_cases hstep
    · exact hP
    · exact behind fields f hnew hP

/-- It is enough to look at new fields, in front and behind, and at hidden ones. -/
theorem kept_of_new {P : List Field → Prop} (empty : P [])
    (front : ∀ fields f, New fields f → P fields → P (f :: fields))
    (behind : ∀ fields f, New fields f → P fields → P (fields ++ [f]))
    (hidden : ∀ fields field hidden, P fields → P (fields.map (hide field hidden))) :
    Kept (P ·.fields) where
  declare h := by
    obtain ⟨distinct, keyed, hdistinct, hkeyed, -, hfields⟩ := declare_cases h
    have hP : P distinct := of_distinct hdistinct empty behind
    rw [hfields]
    obtain ⟨-, hsame⟩ | ⟨-, f, hnew, hfront, -⟩ := withPrimary_cases hkeyed
    · rw [hsame]
      exact hP
    · rw [hfront]
      exact front distinct f hnew hP
  addField hP h := by
    obtain ⟨_, -, -, rfl⟩ | ⟨hnew, -, hfields⟩ := addField_cases h
    · exact hP
    · rw [hfields]
      exact behind _ _ hnew hP
  setFieldHidden hP h := by
    rw [(setFieldHidden_cases h).2]
    exact hidden _ _ _ hP

end EntityMapper.Entity
