import EntityMapper.Proofs.Entity.Declarations
import EntityMapper.Proofs.Entity.Equality

/-!
# Entities as they grow

An entity that has been registered gets foreign keys, and its fields are hidden and shown. All else
of it stays: its name, the kind of each field, and its primary key.
-/

namespace EntityMapper.Entity

variable {e e' e'' : Entity} {f : Field} {n : String}

/-- What stays of an entity that has changed. -/
structure Extends (e e' : Entity) : Prop where
  name : e'.name = e.name
  primaryName : e'.primary.name = e.primary.name
  primaryKind : e'.primary.kind = e.primary.kind
  field : ∀ n f, e.field? n = some f → ∃ f', e'.field? n = some f' ∧ f'.kind = f.kind
  stores : ∀ n, e.Stores n → e'.Stores n

theorem Extends.refl (e : Entity) : e.Extends e :=
  ⟨rfl, rfl, rfl, fun _ f h => ⟨f, h, rfl⟩, fun _ h => h⟩

theorem Extends.trans (h : e.Extends e') (h' : e'.Extends e'') : e.Extends e'' := by
  refine ⟨h'.name.trans h.name, h'.primaryName.trans h.primaryName,
    h'.primaryKind.trans h.primaryKind, fun n f hf => ?_, fun n hn => h'.stores n (h.stores n hn)⟩
  obtain ⟨f', hf', hkind⟩ := h.field n f hf
  obtain ⟨f'', hf'', hkind'⟩ := h'.field n f' hf'
  exact ⟨f'', hf'', hkind'.trans hkind⟩

/-! ## The primary field -/

theorem find?_primary (e : Entity) : e.fields.find? Field.isPrimary = some e.primary :=
  (Option.some_get e.hasPrimary).symm

theorem primary_eq_of_find? (h : e.fields.find? Field.isPrimary = some f) : e.primary = f :=
  Option.some.inj (e.find?_primary.symm.trans h)

/-! ## Stored fields by name -/

theorem isStored_of_kind {f g : Field} (h : f.kind = g.kind) : f.isStored = g.isStored := by
  unfold Field.isStored Field.isVirtual
  rw [h]

theorem Extends.storedField? (h : e.Extends e') (hf : e.storedField? n = some f) :
    ∃ f', e'.storedField? n = some f' ∧ f'.kind = f.kind := by
  obtain ⟨hfound, hstored⟩ := Option.filter_eq_some_iff.mp hf
  obtain ⟨f', hfound', hkind⟩ := h.field n f hfound
  refine ⟨f', Option.filter_eq_some_iff.mpr ⟨hfound', ?_⟩, hkind⟩
  rw [isStored_of_kind hkind]
  exact hstored

/-! ## Changes -/

theorem extends_setFieldHidden {field : String} {hidden : Bool}
    (h : e.setFieldHidden field hidden = .ok e') : e.Extends e' := by
  obtain ⟨hname, hfields⟩ := setFieldHidden_cases h
  have hprimary : e'.primary = hide field hidden e.primary := by
    have hsame : Field.isPrimary ∘ hide field hidden = Field.isPrimary :=
      funext (isPrimary_hide field hidden)
    apply primary_eq_of_find?
    rw [hfields, List.find?_map, hsame, find?_primary]
    rfl
  refine ⟨hname, by simp [hprimary], by simp [hprimary], fun n f hf => ⟨hide field hidden f, ?_,
    hide_kind ..⟩, fun n hn => ?_⟩
  · have hsame : (·.name == n) ∘ hide field hidden = (·.name == n) := by
      funext g
      simp
    unfold field? at hf ⊢
    rw [hfields, List.find?_map, hsame, hf]
    rfl
  · obtain ⟨f, hf, hstored, hfname⟩ := stores_iff.mp hn
    rw [stores_iff, hfields]
    refine ⟨hide field hidden f, List.mem_map_of_mem hf, ?_, (hide_name ..).trans hfname⟩
    rw [isStored_of_kind (hide_kind ..)]
    exact hstored

theorem extends_addField (h : e.addField f = .ok e') : e.Extends e' := by
  obtain ⟨_, -, -, rfl⟩ | ⟨-, hname, hfields⟩ := addField_cases h
  · exact .refl _
  · have hprimary : e'.primary = e.primary := by
      apply primary_eq_of_find?
      rw [hfields, List.find?_append, find?_primary]
      rfl
    refine ⟨hname, by rw [hprimary], by rw [hprimary], fun n g hg => ⟨g, ?_, rfl⟩, fun n hn => ?_⟩
    · unfold field? at hg ⊢
      rw [hfields, List.find?_append, hg]
      rfl
    · rw [stores_iff, hfields]
      exact storedIn_append (stores_iff.mp hn)

theorem field?_addField (h : e.addField f = .ok e') :
    ∃ g, e'.field? f.name = some g ∧ g.StandsFor f := by
  obtain ⟨g, hfound, hbeq, rfl⟩ | ⟨hnew, -, hfields⟩ := addField_cases h
  · exact ⟨g, hfound, .inr hbeq⟩
  · refine ⟨f, ?_, .inl rfl⟩
    unfold field?
    rw [hfields, List.find?_append, hnew.name]
    simp

end EntityMapper.Entity
