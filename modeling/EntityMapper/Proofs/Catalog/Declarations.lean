import EntityMapper.Catalog
import EntityMapper.Proofs.Entity.Declarations

/-!
# Declarations

The catalogs that declarations lead to. What each successful declaration has checked and what it has
done is said once for each of them.
-/

namespace EntityMapper.Catalog

/-- The catalogs that declarations lead to. A declaration that is refused leaves the catalog as it
is. -/
inductive Reachable : Catalog → Prop where
  | empty : Reachable {}
  | addEntity {c c' : Catalog} {e : Entity} :
    Reachable c → c.addEntity e = .ok c' → Reachable c'
  | setFieldHidden {c c' : Catalog} {entity field : String} {hidden : Bool} :
    Reachable c → c.setFieldHidden entity field hidden = .ok c' → Reachable c'
  | addRelation {c c' : Catalog} {r : Relation} :
    Reachable c → c.addRelation r = .ok c' → Reachable c'
  | addIndex {c c' : Catalog} {i : Index} : Reachable c → c.addIndex i = .ok c' → Reachable c'

variable {c c' : Catalog} {entity name : String} {e e' : Entity} {r : Relation} {i : Index}

/-! ## Entities by name -/

theorem mem_of_entity? (h : c.entity? name = some e) : e ∈ c.entities := List.mem_of_find?_eq_some h

theorem name_of_entity? (h : c.entity? name = some e) : e.name = name := by
  simpa using List.find?_some h

theorem entity?_of_entity (h : c.entity name = .ok e) : c.entity? name = some e := by
  unfold entity at h
  split at h
  · rename_i found hfound
    cases h
    exact hfound
  · cases h

theorem entity?_replaceEntity (hname : e'.name = name) (other : String) :
    (c.replaceEntity name e').entity? other
      = (c.entity? other).map fun e => if e.name = name then e' else e := by
  have hsame : ((·.name == other) ∘ fun e : Entity => if e.name = name then e' else e)
      = (·.name == other) := by
    funext e
    by_cases he : e.name = name <;> simp [he, hname]
  unfold entity? replaceEntity
  rw [List.find?_map, hsame]

/-! ## What each declaration does -/

theorem addEntity_cases (h : c.addEntity e = .ok c') :
    (∃ existing, c.declared.find? (·.name == e.name) = some existing ∧ (existing == e) = true
        ∧ c' = c)
      ∨ (c.declared.find? (·.name == e.name) = none
        ∧ c' = { c with declared := c.declared ++ [e], entities := c.entities ++ [e] }) := by
  unfold addEntity at h
  split at h
  · rename_i existing hfound
    split at h
    · rename_i hbeq
      cases h
      exact .inl ⟨existing, hfound, hbeq, rfl⟩
    · cases h
  · rename_i hnone
    cases h
    exact .inr ⟨hnone, rfl⟩

theorem setFieldHidden_cases {field : String} {hidden : Bool}
    (h : c.setFieldHidden name field hidden = .ok c') :
    ∃ e e', c.entity? name = some e ∧ e.setFieldHidden field hidden = .ok e'
      ∧ c' = c.replaceEntity name e' := by
  obtain ⟨e, he, h⟩ := Result.of_bind h
  obtain ⟨e', he', h⟩ := Result.of_bind h
  cases h
  exact ⟨e, e', entity?_of_entity he, he', rfl⟩

/-- A relation gets a column of its source, or a junction of two entities. -/
theorem addStorage_cases {source target : Entity} (h : c.addStorage r source target = .ok c') :
    (r.kind = .manyToOne
        ∧ ∃ e', source.addField (foreignKeyField r r.foreignKey r.target target.primary) = .ok e'
          ∧ c' = c.replaceEntity r.source e')
      ∨ (r.kind = .manyToMany ∧ r.source ≠ r.target
        ∧ ∃ junction, junctionEntity r source.primary target.primary = .ok junction
          ∧ c.addEntity junction = .ok c') := by
  unfold addStorage at h
  cases hkind : r.kind <;> rw [hkind] at h
  · obtain ⟨_, -, h⟩ := Result.of_bind h
    obtain ⟨e', he', h⟩ := Result.of_bind h
    cases h
    exact .inl ⟨rfl, e', he', rfl⟩
  · dsimp only at h
    split at h
    · cases h
    · rename_i hdistinct
      obtain ⟨junction, hjunction, h⟩ := Result.of_bind h
      exact .inr ⟨rfl, hdistinct, junction, hjunction, h⟩

theorem relations_addStorage {source target : Entity} (h : c.addStorage r source target = .ok c') :
    c'.relations = c.relations := by
  obtain ⟨-, e', -, rfl⟩ | ⟨-, -, junction, -, hadd⟩ := addStorage_cases h
  · rfl
  · obtain ⟨_, -, -, rfl⟩ | ⟨-, rfl⟩ := addEntity_cases hadd <;> rfl

theorem relation?_of_checkUnused {u : Unit} (h : c.checkUnused entity name = .ok u) :
    c.relation? entity name = none := by
  unfold checkUnused at h
  split at h
  · cases h
  · rename_i hfree
    simpa using hfree

/-- What has been checked when a relation is new, and the catalog with its storage. -/
structure Admits (c : Catalog) (r : Relation) (s t : Entity) (stored : Catalog) : Prop where
  new : r ∉ c.relations
  source : c.entity? r.source = some s
  target : c.entity? r.target = some t
  sourceIdentifier : Text.isIdentifier r.sourceName = true
  targetIdentifier : Text.isIdentifier r.targetName = true
  sourceName : c.relation? r.source r.sourceName = none
  targetName : c.relation? r.target r.targetName = none
  storage : c.addStorage r s t = .ok stored

theorem addRelation_cases (h : c.addRelation r = .ok c') :
    (r ∈ c.relations ∧ c' = c)
      ∨ ∃ source target stored, c.Admits r source target stored
        ∧ c' = { stored with relations := stored.relations ++ [r] } := by
  unfold addRelation at h
  split at h
  · rename_i hfound
    cases h
    exact .inl ⟨by simpa using hfound, rfl⟩
  · rename_i hnew
    obtain ⟨source, hsource, h⟩ := Result.of_bind h
    obtain ⟨target, htarget, h⟩ := Result.of_bind h
    obtain ⟨_, hsourceIdentifier, h⟩ := Result.of_bind h
    obtain ⟨_, htargetIdentifier, h⟩ := Result.of_bind h
    obtain ⟨_, hsourceName, h⟩ := Result.of_bind h
    obtain ⟨_, htargetName, h⟩ := Result.of_bind h
    obtain ⟨stored, hstored, h⟩ := Result.of_bind h
    cases h
    exact .inr ⟨source, target, stored,
      { new := by simpa using hnew
        source := entity?_of_entity hsource
        target := entity?_of_entity htarget
        sourceIdentifier := Entity.isIdentifier_of_check hsourceIdentifier
        targetIdentifier := Entity.isIdentifier_of_check htargetIdentifier
        sourceName := relation?_of_checkUnused hsourceName
        targetName := relation?_of_checkUnused htargetName
        storage := hstored }, rfl⟩

/-- An index is over stored fields of a registered entity. -/
structure Indexes (c : Catalog) (i : Index) : Prop where
  fields : i.fields ≠ []
  stored : ∃ e, c.entity? i.entity = some e ∧ ∀ n ∈ i.fields, ∃ f, e.storedField? n = some f

theorem checkStored_iff {fields : List String} :
    fields.forM (checkStored e) = .ok () ↔ ∀ n ∈ fields, ∃ f, e.storedField? n = some f := by
  induction fields with
  | nil => exact ⟨fun _ => by simp, fun _ => rfl⟩
  | cons n rest ih =>
    rw [List.forall_mem_cons, ← ih, ← Option.isSome_iff_exists]
    change (checkStored e n >>= fun _ => rest.forM (checkStored e)) = .ok () ↔ _
    unfold checkStored
    split
    · rename_i hstored
      exact ⟨fun h => ⟨hstored, h⟩, fun h => h.2⟩
    · rename_i hstored
      exact ⟨fun h => (nomatch h), fun h => absurd h.1 hstored⟩

theorem addIndex_cases (h : c.addIndex i = .ok c') :
    Text.isIdentifier i.name = true ∧ c.Indexes i
      ∧ (c.indices.find? (·.name == i.name) = some i ∧ c' = c
        ∨ c.indices.find? (·.name == i.name) = none
          ∧ c' = { c with indices := c.indices ++ [i] }) := by
  unfold addIndex at h
  obtain ⟨_, hname, h⟩ := Result.of_bind h
  obtain ⟨e, he, h⟩ := Result.of_bind h
  dsimp only at h
  split at h
  · cases h
  · rename_i hfields
    obtain ⟨_, hstored, h⟩ := Result.of_bind h
    refine ⟨Entity.isIdentifier_of_check hname, ⟨by simpa using hfields, e, entity?_of_entity he,
      checkStored_iff.mp hstored⟩, ?_⟩
    split at h
    · rename_i existing hfound
      split at h
      · rename_i hsame
        cases h
        exact .inl ⟨hsame ▸ hfound, rfl⟩
      · cases h
    · rename_i hnone
      cases h
      exact .inr ⟨hnone, rfl⟩

/-! ## Every catalog -/

/-- What each new relation keeps true of the relations there are. -/
theorem Reachable.relations_rec {P : List Relation → Prop} (h : c.Reachable) (empty : P [])
    (new : ∀ c r s t stored, Reachable c → c.Admits r s t stored → P c.relations →
      P (c.relations ++ [r])) : P c.relations := by
  induction h with
  | empty => exact empty
  | addEntity _ h ih => obtain ⟨_, -, -, rfl⟩ | ⟨-, rfl⟩ := addEntity_cases h <;> exact ih
  | setFieldHidden _ h ih =>
    obtain ⟨_, _, -, -, rfl⟩ := setFieldHidden_cases h
    exact ih
  | addRelation hc h ih =>
    obtain ⟨-, rfl⟩ | ⟨_, _, stored, hadmits, rfl⟩ := addRelation_cases h
    · exact ih
    · dsimp only
      rw [relations_addStorage hadmits.storage]
      exact new _ _ _ _ stored hc hadmits ih
  | addIndex _ h ih => obtain ⟨-, -, ⟨-, rfl⟩ | ⟨-, rfl⟩⟩ := addIndex_cases h <;> exact ih

end EntityMapper.Catalog
