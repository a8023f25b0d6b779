import EntityMapper.Proofs.Catalog.Growth
import EntityMapper.Proofs.Entity.Columns

/-!
# What backs a relation

Each registered relation has its columns: a foreign key of the source, or a junction entity declared
with a foreign key to either side. The columns point at the primary fields that these entities have
now, because an entity never changes its primary field.
-/

namespace EntityMapper.Catalog

variable {c c' : Catalog} {r : Relation} {e s t t' d : Entity}

/-- The entity of a catalog has a stored field of this name. -/
def Holds (c : Catalog) (entity n : String) : Prop := ∃ e, c.entity? entity = some e ∧ e.Stores n

/-- The kind of a foreign key to an entity with this primary field. -/
def keyKind (r : Relation) (target : String) (primary : Field) : FieldKind :=
  (foreignKeyField r "" target primary).kind

theorem keyKind_extend (r : Relation) (target : String) (h : t.Extends t') :
    keyKind r target t'.primary = keyKind r target t.primary := by
  have hformat : t'.primary.keyFormat = t.primary.keyFormat := by
    unfold Field.keyFormat
    rw [h.primaryKind]
  unfold keyKind foreignKeyField
  rw [h.primaryName, hformat]

theorem keyFormat_primary (e : Entity) :
    e.primary.keyFormat = some (e.primary.keyFormat.getD .integer) := by
  have hprimary := e.primary_mem.2
  unfold Field.isPrimary at hprimary
  unfold Field.keyFormat
  split at hprimary
  · rename_i hkind
    rw [hkind]
    rfl
  · cases hprimary

theorem isStored_of_keyKind {f : Field} {target : String} {primary : Field}
    (h : f.kind = keyKind r target primary) : f.isStored := by
  unfold Field.isStored Field.isVirtual
  rw [h]
  rfl

/-- A stored field of the entity holds keys of the target: it is a foreign key that names the primary
field of the target and has its format. -/
def References (c : Catalog) (entity column target key : String) : Prop :=
  ∃ e t f fk, c.entity? entity = some e ∧ c.entity? target = some t
    ∧ e.storedField? column = some f ∧ f.kind = .relation fk
    ∧ fk.target = target ∧ fk.targetKey = key ∧ t.primary.name = key
    ∧ t.primary.keyFormat = some fk.format

theorem references_of_keyKind {entity column target : String} {f : Field}
    (he : c.entity? entity = some e) (ht : c.entity? target = some t)
    (hf : e.field? column = some f) (h : f.kind = keyKind r target t.primary) :
    c.References entity column target t.primary.name :=
  ⟨e, t, f, _, he, ht, Option.filter_eq_some_iff.mpr ⟨hf, isStored_of_keyKind h⟩, h, rfl, rfl, rfl,
    keyFormat_primary t⟩

theorem References.holds {entity column target key : String}
    (h : c.References entity column target key) : c.Holds entity column := by
  obtain ⟨e, _, f, _, he, -, hf, -⟩ := h
  exact ⟨e, he, Entity.stores_of_storedField? hf⟩

theorem References.holds_key {entity column target key : String}
    (h : c.References entity column target key) : c.Holds target key := by
  obtain ⟨_, t, _, _, -, ht, -, -, -, -, rfl, -⟩ := h
  exact ⟨t, ht, t.stores_primary⟩

/-! ## Junctions -/

/-- The columns of the junction of a relation between entities with these primary fields. -/
def junctionColumns (r : Relation) (sourceKey targetKey : Field) : List (String × FieldKind) :=
  [(defaultPrimary, .primary .integer none),
    (r.junctionSourceKey, keyKind r r.source sourceKey),
    (r.junctionTargetKey, keyKind r r.target targetKey)]

theorem junctionColumns_nodup (h : r.source ≠ r.target) (sourceKey targetKey : Field) :
    ((junctionColumns r sourceKey targetKey).map Prod.fst).Nodup := by
  -- a key's name is longer than that of the primary field
  have hdefault (s : String) : defaultPrimary ≠ s ++ "_id" := by
    intro hsame
    have hlength := congrArg String.length hsame
    rw [String.length_append] at hlength
    change 2 = s.length + 3 at hlength
    omega
  simp [junctionColumns, Relation.junctionSourceKey, Relation.junctionTargetKey, hdefault, h]

theorem junctionEntity_columns {sourceKey targetKey : Field} (hdistinct : r.source ≠ r.target)
    (h : junctionEntity r sourceKey targetKey = .ok e) :
    e.name = r.junctionName ∧ e.fields.map Field.column = junctionColumns r sourceKey targetKey := by
  obtain ⟨fields, keyed, hfields, hkeyed, hname, hkept⟩ := Entity.declare_cases h
  have hkeys : r.junctionSourceKey ≠ r.junctionTargetKey := by
    simp [Relation.junctionSourceKey, Relation.junctionTargetKey, hdistinct]
  rw [List.foldlM_cons] at hfields
  obtain ⟨first, hfirst, hfields⟩ := Result.of_bind hfields
  obtain ⟨second, hsecond, hfields⟩ := Result.of_bind hfields
  cases hfields
  rw [Entity.appendField_new hfirst rfl] at hsecond
  have hboth := Entity.appendField_new hsecond (by simp [foreignKeyField, Field.plain, hkeys])
  rw [hboth] at hkeyed
  obtain ⟨hsome, -⟩ | ⟨-, f, -, hfront, hdefault, -, hkind⟩ := Entity.withPrimary_cases hkeyed
  · cases hsome
  · have hcolumn : f.column = (defaultPrimary, .primary .integer none) := Prod.ext hdefault hkind
    rw [hkept, hfront, List.map_cons, hcolumn]
    exact ⟨hname, rfl⟩

theorem junction_field? {sourceKey targetKey : Field} (hdistinct : r.source ≠ r.target)
    (h : d.fields.map Field.column = junctionColumns r sourceKey targetKey) :
    (∃ f, d.field? r.junctionSourceKey = some f ∧ f.kind = keyKind r r.source sourceKey)
      ∧ ∃ f, d.field? r.junctionTargetKey = some f ∧ f.kind = keyKind r r.target targetKey := by
  have hnames := h ▸ junctionColumns_nodup hdistinct sourceKey targetKey
  constructor
  · exact Entity.field?_of_column hnames (by simp [h, junctionColumns])
  · exact Entity.field?_of_column hnames (by simp [h, junctionColumns])

theorem keyFormat_of_junctionColumns {sourceKey targetKey f : Field}
    (h : f.column ∈ junctionColumns r sourceKey targetKey) : f.keyFormat.isSome := by
  have hkind : f.kind = .primary .integer none ∨ f.kind = keyKind r r.source sourceKey
      ∨ f.kind = keyKind r r.target targetKey := by
    simpa [junctionColumns, Field.column] using (List.mem_map_of_mem (f := Prod.snd) h)
  unfold Field.keyFormat
  rcases hkind with h | h | h <;> rw [h] <;> rfl

/-! ## Storage -/

/-- Where the keys of a relation between two entities are kept. -/
inductive Storage (c : Catalog) (r : Relation) (s t : Entity) : Prop where
  | column {f : Field} (kind : r.kind = .manyToOne) (found : s.field? r.foreignKey = some f)
    (points : f.kind = keyKind r r.target t.primary)
  | junction {d : Entity} (kind : r.kind = .manyToMany) (distinct : r.source ≠ r.target)
    (declared : d ∈ c.declared) (name : d.name = r.junctionName)
    (columns : d.fields.map Field.column = junctionColumns r s.primary t.primary)

def Backed (c : Catalog) (r : Relation) : Prop :=
  ∃ s t, c.entity? r.source = some s ∧ c.entity? r.target = some t ∧ c.Storage r s t

theorem Backed.extend (h : c.Backed r) (hc : c.Extends c') : c'.Backed r := by
  obtain ⟨s, t, hs, ht, hstorage⟩ := h
  obtain ⟨s', hs', hsource⟩ := hc.entity? _ s hs
  obtain ⟨t', ht', htarget⟩ := hc.entity? _ t ht
  refine ⟨s', t', hs', ht', ?_⟩
  cases hstorage with
  | column kind found points =>
    obtain ⟨f', hf', hkind⟩ := hsource.field _ _ found
    exact .column kind hf' (by rw [hkind, points, keyKind_extend r r.target htarget])
  | junction kind distinct declared name columns =>
    refine .junction kind distinct (hc.declared.subset declared) name ?_
    unfold junctionColumns at columns ⊢
    rw [keyKind_extend r r.source hsource, keyKind_extend r r.target htarget]
    exact columns

theorem entity?_replaceEntity_self (hs : c.entity? r.source = some s) (h : s.Extends e) :
    (c.replaceEntity r.source e).entity? r.source = some e := by
  rw [entity?_replaceEntity (h.name.trans (name_of_entity? hs)), hs]
  simp [name_of_entity? hs]

/-- A junction that is registered may have been declared before. -/
theorem declared_addEntity {junction : Entity} {sourceKey targetKey : Field}
    (hcolumns : junction.fields.map Field.column = junctionColumns r sourceKey targetKey)
    (h : c.addEntity junction = .ok c') :
    ∃ d ∈ c'.declared, d.name = junction.name
      ∧ d.fields.map Field.column = junctionColumns r sourceKey targetKey := by
  obtain ⟨d, hfound, hbeq, rfl⟩ | ⟨-, rfl⟩ := addEntity_cases h
  · obtain ⟨hname, hfields, -⟩ := Entity.beq_iff.mp hbeq
    refine ⟨d, List.mem_of_find?_eq_some hfound, hname, ?_⟩
    rw [Field.columns_eq_of_beq hfields, hcolumns]
    intro f hf
    exact keyFormat_of_junctionColumns (hcolumns ▸ List.mem_map_of_mem hf)
  · exact ⟨junction, by simp, rfl, hcolumns⟩

theorem Admits.backed {stored : Catalog} (h : c.Admits r s t stored) : stored.Backed r := by
  have hext := extends_addStorage h.source h.storage
  obtain ⟨s', hs', hsource⟩ := hext.entity? _ s h.source
  obtain ⟨t', ht', htarget⟩ := hext.entity? _ t h.target
  refine ⟨s', t', hs', ht', ?_⟩
  obtain ⟨hkind, e, he, rfl⟩ | ⟨hkind, hdistinct, junction, hjunction, hadd⟩ :=
    addStorage_cases h.storage
  · rw [entity?_replaceEntity_self h.source (Entity.extends_addField he)] at hs'
    cases hs'
    obtain ⟨f, hf, hstands⟩ := Entity.field?_addField he
    refine .column hkind hf ?_
    rw [keyKind_extend r r.target htarget]
    exact hstands.kind rfl
  · obtain ⟨hname, hcolumns⟩ := junctionEntity_columns hdistinct hjunction
    obtain ⟨d, hd, hdname, hdcolumns⟩ := declared_addEntity hcolumns hadd
    refine .junction hkind hdistinct hd (hdname.trans hname) ?_
    unfold junctionColumns at hdcolumns ⊢
    rw [keyKind_extend r r.source hsource, keyKind_extend r r.target htarget]
    exact hdcolumns

end EntityMapper.Catalog
