import EntityMapper.Proofs.Catalog.Declarations
import EntityMapper.Proofs.Entity.Extends

/-!
# Catalogs as they grow

What no declaration undoes: whatever is declared stays in its place, and an entity that is found under
a name goes on being found there, with the fields it has.
-/

namespace EntityMapper.Catalog

variable {c c' c'' : Catalog} {name : String} {e e' : Entity} {r : Relation} {i : Index}

structure Extends (c c' : Catalog) : Prop where
  declared : c.declared <+: c'.declared
  entity? : ∀ name e, c.entity? name = some e → ∃ e', c'.entity? name = some e' ∧ e.Extends e'
  relations : c.relations <+: c'.relations
  indices : c.indices <+: c'.indices

theorem Extends.refl (c : Catalog) : c.Extends c :=
  ⟨List.prefix_rfl, fun _ e h => ⟨e, h, .refl e⟩, List.prefix_rfl, List.prefix_rfl⟩

theorem Extends.trans (h : c.Extends c') (h' : c'.Extends c'') : c.Extends c'' := by
  refine ⟨h.declared.trans h'.declared, fun name e he => ?_, h.relations.trans h'.relations,
    h.indices.trans h'.indices⟩
  obtain ⟨e', he', hext⟩ := h.entity? name e he
  obtain ⟨e'', he'', hext'⟩ := h'.entity? name e' he'
  exact ⟨e'', he'', hext.trans hext'⟩

theorem extends_replaceEntity (he : c.entity? name = some e) (h : e.Extends e') :
    c.Extends (c.replaceEntity name e') := by
  have hname : e'.name = name := h.name.trans (name_of_entity? he)
  refine ⟨List.prefix_rfl, fun other found hfound => ?_, List.prefix_rfl, List.prefix_rfl⟩
  rw [entity?_replaceEntity hname, hfound]
  refine ⟨_, rfl, ?_⟩
  dsimp only
  split
  · rename_i hother
    have hsame : other = name := (name_of_entity? hfound).symm.trans hother
    rw [hsame, he] at hfound
    cases hfound
    exact h
  · exact .refl found

theorem extends_addEntity (h : c.addEntity e = .ok c') : c.Extends c' := by
  obtain ⟨_, -, -, rfl⟩ | ⟨-, rfl⟩ := addEntity_cases h
  · exact .refl _
  · refine ⟨List.prefix_append .., fun name found hfound => ⟨found, ?_, .refl found⟩,
      List.prefix_rfl, List.prefix_rfl⟩
    unfold Catalog.entity? at hfound ⊢
    rw [List.find?_append, hfound]
    rfl

theorem extends_setFieldHidden {field : String} {hidden : Bool}
    (h : c.setFieldHidden name field hidden = .ok c') : c.Extends c' := by
  obtain ⟨e, e', he, he', rfl⟩ := setFieldHidden_cases h
  exact extends_replaceEntity he (Entity.extends_setFieldHidden he')

theorem extends_addStorage {source target : Entity} (hsource : c.entity? r.source = some source)
    (h : c.addStorage r source target = .ok c') : c.Extends c' := by
  obtain ⟨-, e', he', rfl⟩ | ⟨-, -, junction, -, hadd⟩ := addStorage_cases h
  · exact extends_replaceEntity hsource (Entity.extends_addField he')
  · exact extends_addEntity hadd

theorem extends_appendRelation (c : Catalog) (r : Relation) :
    c.Extends { c with relations := c.relations ++ [r] } :=
  ⟨List.prefix_rfl, fun _ e h => ⟨e, h, .refl e⟩, List.prefix_append .., List.prefix_rfl⟩

theorem extends_addRelation (h : c.addRelation r = .ok c') : c.Extends c' := by
  obtain ⟨-, rfl⟩ | ⟨source, target, stored, hadmits, rfl⟩ := addRelation_cases h
  · exact .refl _
  · exact (extends_addStorage hadmits.source hadmits.storage).trans (extends_appendRelation ..)

theorem extends_addIndex (h : c.addIndex i = .ok c') : c.Extends c' := by
  obtain ⟨-, -, ⟨-, rfl⟩ | ⟨-, rfl⟩⟩ := addIndex_cases h
  · exact .refl _
  · exact ⟨List.prefix_rfl, fun _ e h => ⟨e, h, .refl e⟩, List.prefix_rfl, List.prefix_append ..⟩

theorem Indexes.extend (h : c.Indexes i) (hc : c.Extends c') : c'.Indexes i := by
  obtain ⟨e, he, hstored⟩ := h.stored
  obtain ⟨e', he', hext⟩ := hc.entity? _ e he
  refine ⟨h.fields, e', he', fun n hn => ?_⟩
  obtain ⟨f, hf⟩ := hstored n hn
  obtain ⟨f', hf', -⟩ := hext.storedField? hf
  exact ⟨f', hf'⟩

end EntityMapper.Catalog
