import EntityMapper.Proofs.Catalog.Names
import EntityMapper.Proofs.Entity.Named

/-!
# Catalogs of declared entities

Whatever declarations lead to a catalog, what they give an entity and no change takes away holds of
each entity of the catalog. So its fields have names of their own, and these and the names of
relations are identifiers: none of them has a dot in it.
-/

namespace EntityMapper.Catalog

open Entity (NamedFields)

variable {c c' : Catalog} {name : String} {e : Entity} {r : Relation} {P : Entity → Prop}

/-! ## Each entity -/

theorem forall_replaceEntity (hc : ∀ e ∈ c.entities, P e) (he : P e) :
    ∀ other ∈ (c.replaceEntity name e).entities, P other := by
  intro other hother
  obtain ⟨old, hold, rfl⟩ := List.mem_map.mp hother
  split
  · exact he
  · exact hc old hold

theorem forall_addEntity (hc : ∀ e ∈ c.entities, P e) (he : e ∈ c'.declared → P e)
    (h : c.addEntity e = .ok c') : ∀ other ∈ c'.entities, P other := by
  obtain ⟨_, -, -, rfl⟩ | ⟨-, rfl⟩ := addEntity_cases h
  · exact hc
  · intro other hother
    rcases List.mem_append.mp hother with hother | hother
    · exact hc other hother
    · obtain rfl := List.mem_singleton.mp hother
      exact he (by simp)

theorem forall_addStorage {source target : Entity} (hP : Entity.Kept P)
    (hc : ∀ e ∈ c.entities, P e) (hsource : c.entity? r.source = some source)
    (h : c.addStorage r source target = .ok c') : ∀ other ∈ c'.entities, P other := by
  obtain ⟨-, e', he', rfl⟩ | ⟨-, -, junction, hjunction, hadd⟩ := addStorage_cases h
  · exact forall_replaceEntity hc (hP.addField (hc source (mem_of_entity? hsource)) he')
  · exact forall_addEntity hc (fun _ => hP.declare hjunction) hadd

theorem Reachable.forall_entities (h : c.Reachable) (hdeclared : ∀ d ∈ c.declared, d.Declared)
    (hP : Entity.Kept P) : ∀ e ∈ c.entities, P e := by
  -- what is declared in an earlier catalog still is in a later one
  have hearlier {c c' : Catalog} (hext : c.Extends c') (hd : ∀ d ∈ c'.declared, d.Declared) :
      ∀ d ∈ c.declared, d.Declared := fun d hmem => hd d (hext.declared.subset hmem)
  induction h with
  | empty => simp
  | addEntity _ h ih =>
    have hc := ih (hearlier (extends_addEntity h) hdeclared)
    exact forall_addEntity hc (fun hmem => (hdeclared _ hmem).of_kept hP) h
  | setFieldHidden _ h ih =>
    have hc := ih (hearlier (extends_setFieldHidden h) hdeclared)
    obtain ⟨e, e', he, he', rfl⟩ := setFieldHidden_cases h
    exact forall_replaceEntity hc (hP.setFieldHidden (hc e (mem_of_entity? he)) he')
  | addRelation _ h ih =>
    have hc := ih (hearlier (extends_addRelation h) hdeclared)
    obtain ⟨-, rfl⟩ | ⟨source, target, stored, hadmits, rfl⟩ := addRelation_cases h
    · exact hc
    · have hstored := forall_addStorage hP hc hadmits.source hadmits.storage
      exact hstored
  | addIndex _ h ih =>
    have hc := ih (hearlier (extends_addIndex h) hdeclared)
    obtain ⟨-, -, ⟨-, rfl⟩ | ⟨-, rfl⟩⟩ := addIndex_cases h <;> exact hc

/-! ## Names -/

structure Named (c : Catalog) : Prop where
  fields : ∀ e ∈ c.entities, NamedFields e.fields
  relations : ∀ r ∈ c.relations,
    Text.isIdentifier r.sourceName = true ∧ Text.isIdentifier r.targetName = true

theorem Reachable.isIdentifier_relations (h : c.Reachable) : ∀ r ∈ c.relations,
    Text.isIdentifier r.sourceName = true ∧ Text.isIdentifier r.targetName = true := by
  refine h.relations_rec (P := fun relations => ∀ r ∈ relations, Text.isIdentifier r.sourceName = true
    ∧ Text.isIdentifier r.targetName = true) (by simp) ?_
  intro c r _ _ _ _ hadmits hc other hother
  rcases List.mem_append.mp hother with hother | hother
  · exact hc other hother
  · obtain rfl := List.mem_singleton.mp hother
    exact ⟨hadmits.sourceIdentifier, hadmits.targetIdentifier⟩

theorem Reachable.named (h : c.Reachable) (hdeclared : ∀ d ∈ c.declared, d.Declared) : c.Named :=
  ⟨h.forall_entities hdeclared Entity.kept_named, h.isIdentifier_relations⟩

theorem Named.isIdentifier_field {n : String} (hc : c.Named) (h : c.FieldName n) :
    Text.isIdentifier n = true := by
  obtain ⟨entity, e, he, f, hf, rfl⟩ := h
  exact (hc.fields e (mem_of_entity? he)).identifiers f (List.mem_filter.mp hf).1

theorem Named.isIdentifier_relation {n : String} (hc : c.Named) (h : c.RelationName n) :
    Text.isIdentifier n = true := by
  obtain ⟨r, hr, rfl | rfl⟩ := h
  · exact (hc.relations r hr).1
  · exact (hc.relations r hr).2

theorem declared_library : ∀ d ∈ library.declared, d.Declared := by
  intro d hd
  rcases List.mem_pair.mp hd with rfl | rfl
  · have hauthors : Entity.declare "authors" authors.fields {} = .ok authors := rfl
    exact .declare hauthors
  · have hposts : Entity.declare "posts" posts.fields {} = .ok posts := rfl
    exact .declare hposts

end EntityMapper.Catalog
