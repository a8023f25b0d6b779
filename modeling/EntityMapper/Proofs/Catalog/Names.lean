import EntityMapper.Proofs.Catalog.Reachable

/-!
# The names of a catalog

The names that statements over a catalog may mention: those of its entities, stored fields and
relations, and the three made by the statements themselves. A way from one entity to another only
mentions such names.
-/

namespace EntityMapper.Catalog

/-- A stored field of a registered entity has this name. -/
def FieldName (c : Catalog) (n : String) : Prop := ∃ entity, c.Holds entity n

/-- One side of a registered relation reaches the other under this name. -/
def RelationName (c : Catalog) (n : String) : Prop :=
  ∃ r ∈ c.relations, n = r.sourceName ∨ n = r.targetName

/-- A name that a statement over the catalog may mention. -/
inductive KnownName (c : Catalog) : String → Prop where
  | entity {n : String} {e : Entity} (h : c.entity? n = some e) : KnownName c n
  | field {n : String} (h : c.FieldName n) : KnownName c n
  | relation {n : String} (h : c.RelationName n) : KnownName c n
  | joined {relation field : String} (hr : c.RelationName relation) (hf : c.FieldName field) :
    KnownName c (relation ++ "." ++ field)
  | main : KnownName c "main"
  | count : KnownName c "count"

variable {c : Catalog} {entity name : String} {e : Entity} {r : Relation} {p : Path}

theorem fieldName_of_stores (he : c.entity? entity = some e) {n : String} (hn : e.Stores n) :
    c.FieldName n := ⟨entity, e, he, hn⟩

/-! ## Ways -/

/-- All that a way between entities mentions is known. -/
structure KnownPath (c : Catalog) (p : Path) : Prop where
  name : c.RelationName p.name
  ourKey : c.FieldName p.ourKey
  theirKey : c.FieldName p.theirKey
  junction : ∀ j, p.junction = some j → c.FieldName j.ourKey ∧ c.FieldName j.theirKey

theorem knownPath_fromSource (h : c.HoldsKeys r) (hr : r ∈ c.relations) {sourceKey targetKey : String}
    (hs : c.FieldName sourceKey) (ht : c.FieldName targetKey) :
    c.KnownPath (r.pathFromSource sourceKey targetKey) := by
  have hname : c.RelationName r.sourceName := ⟨r, hr, .inl rfl⟩
  unfold HoldsKeys at h
  unfold Relation.pathFromSource
  cases hkind : r.kind <;> rw [hkind] at h
  · exact ⟨hname, ⟨_, h⟩, ht, by simp⟩
  · refine ⟨hname, hs, ht, ?_⟩
    rintro j ⟨⟩
    exact ⟨⟨_, h.1⟩, ⟨_, h.2⟩⟩

theorem knownPath_fromTarget (h : c.HoldsKeys r) (hr : r ∈ c.relations) {sourceKey targetKey : String}
    (hs : c.FieldName sourceKey) (ht : c.FieldName targetKey) :
    c.KnownPath (r.pathFromTarget sourceKey targetKey) := by
  have hname : c.RelationName r.targetName := ⟨r, hr, .inr rfl⟩
  unfold HoldsKeys at h
  unfold Relation.pathFromTarget
  cases hkind : r.kind <;> rw [hkind] at h
  · exact ⟨hname, ht, ⟨_, h⟩, by simp⟩
  · refine ⟨hname, ht, hs, ?_⟩
    rintro j ⟨⟩
    exact ⟨⟨_, h.2⟩, ⟨_, h.1⟩⟩

/-- A way that an entity has is one of the two that a registered relation gives. -/
theorem relationsOf_cases (h : p ∈ c.relationsOf entity) :
    ∃ r ∈ c.relations, ∃ source target,
      c.entity? r.source = some source ∧ c.entity? r.target = some target
        ∧ (r.source = entity ∧ p = r.pathFromSource source.primary.name target.primary.name
          ∨ r.target = entity ∧ p = r.pathFromTarget source.primary.name target.primary.name) := by
  obtain ⟨r, hr, hp⟩ := List.mem_flatMap.mp h
  refine ⟨r, hr, ?_⟩
  unfold pathsThrough at hp
  split at hp
  · rename_i source target hsource htarget
    refine ⟨source, target, hsource, htarget, ?_⟩
    rcases List.mem_append.mp hp with hp | hp
    · split at hp
      · rename_i hentity
        exact .inl ⟨hentity, List.mem_singleton.mp hp⟩
      · cases hp
    · split at hp
      · rename_i hentity
        exact .inr ⟨hentity, List.mem_singleton.mp hp⟩
      · cases hp
  · cases hp

theorem relation?_cases (h : c.relation? entity name = some p) :
    p.name = name ∧ ∃ r ∈ c.relations, ∃ source target,
      c.entity? r.source = some source ∧ c.entity? r.target = some target
        ∧ (r.source = entity ∧ p = r.pathFromSource source.primary.name target.primary.name
          ∨ r.target = entity ∧ p = r.pathFromTarget source.primary.name target.primary.name) :=
  ⟨by simpa using List.find?_some h, relationsOf_cases (List.mem_of_find?_eq_some h)⟩

theorem Sound.knownPath (hc : c.Sound) (h : c.relation? entity name = some p) : c.KnownPath p := by
  obtain ⟨-, r, hr, source, target, hsource, htarget, hp⟩ := relation?_cases h
  have hs := fieldName_of_stores hsource source.stores_primary
  have ht := fieldName_of_stores htarget target.stores_primary
  rcases hp with ⟨-, rfl⟩ | ⟨-, rfl⟩
  · exact knownPath_fromSource (hc.keys r hr) hr hs ht
  · exact knownPath_fromTarget (hc.keys r hr) hr hs ht

end EntityMapper.Catalog
